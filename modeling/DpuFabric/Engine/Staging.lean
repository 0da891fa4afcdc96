/-
  Engine.Staging — THE ROLLOUT STAGES OF A FEASIBLE PLAN.

  The stages are the replicas of the plan in service order, cut into batches.
  Two cuts of one list meet here: by service, where the topological order puts
  a required service in front, and by stage, where an earlier stage holds an
  earlier part of the list.  An instance of a required service is therefore
  never in a later stage than an instance that waits for it.
-/
import DpuFabric.Engine.Graph
import DpuFabric.Engine.KahnOrder
import DpuFabric.Engine.PlanSound

namespace DpuFabric

open Lib

variable {stages : List PlanStage} {order : List ServiceId} {batch : Nat} {sp : ServicePlan}
  {plan : DeploymentPlan}

/-! ## §1. The batches. -/

/-- Stages that list `instances` in full batches, the last of at least one. -/
structure Batches (batch : Nat) (instances : List InstanceId) (stages : List PlanStage) : Prop where
  listed : stages.flatMap PlanStage.instances = instances
  full : ∀ st ∈ stages.dropLast, st.instances.length = batch
  last : ∀ st ∈ stages.getLast?, 1 ≤ st.instances.length ∧ st.instances.length ≤ batch

/-- A full batch, or the last one, in front of further batches. -/
theorem Batches.cons {instances : List InstanceId}
    {st : PlanStage} (hbatch : 0 < batch) (hne : instances ≠ [])
    (hst : st.instances = instances.take batch) (h : Batches batch (instances.drop batch) stages) :
    Batches batch instances (st :: stages) := by
  have hlisted : (st :: stages).flatMap PlanStage.instances = instances := by
    rw [List.flatMap_cons, h.listed, hst, List.take_append_drop]
  have hlength : st.instances.length = min batch instances.length := by
    rw [hst, List.length_take]
  have hpos := List.length_pos_of_ne_nil hne
  cases stages with
  | nil =>
    refine ⟨hlisted, by simp, fun last hlast => ?_⟩
    obtain rfl : st = last := by simpa using hlast
    omega
  | cons next rest =>
    refine ⟨hlisted, fun stage hstage => ?_, fun last hlast => ?_⟩
    · rw [List.dropLast_cons_cons] at hstage
      rcases List.mem_cons.mp hstage with rfl | hstage
      · -- another stage follows, so the batch before it was full
        have hrest : instances.drop batch ≠ [] := by
          intro hnil
          have hnone := h.listed
          rw [hnil] at hnone
          obtain ⟨last, hlast⟩ := List.getLast?_isSome.mpr (List.cons_ne_nil next rest)
            |> Option.isSome_iff_exists.mp
          have hempty : last.instances = [] :=
            List.flatMap_eq_nil_iff.mp hnone last (List.mem_of_getLast? hlast)
          have hfilled := (h.last last hlast).1
          rw [hempty] at hfilled
          simp at hfilled
        have hlong := List.length_pos_of_ne_nil hrest
        rw [List.length_drop] at hlong
        omega
      · exact h.full stage hstage
    · rw [List.getLast?_cons_cons] at hlast
      exact h.last last hlast

/-- The staging loop: what it adds are batches of what it was given. -/
theorem buildStages_batches {maxStages : Nat} {maxUnavailable : UInt32}
    (hbatch : 0 < batch) {fuel : Nat} {rest : List InstanceId} {out : List PlanStage}
    (h : buildStages batch maxUnavailable maxStages fuel rest stages = some out)
    (hfuel : rest.length ≤ fuel) : ∃ added, out = stages ++ added ∧ Batches batch rest added := by
  induction fuel generalizing rest stages with
  | zero =>
    obtain rfl := List.length_eq_zero_iff.mp (Nat.le_zero.mp hfuel)
    simp only [buildStages, Option.some.injEq] at h
    exact ⟨[], by rw [h, List.append_nil], by simp, by simp, by simp⟩
  | succ fuel ih =>
    cases rest with
    | nil =>
      simp only [buildStages, Option.some.injEq] at h
      exact ⟨[], by rw [h, List.append_nil], by simp, by simp, by simp⟩
    | cons i rest =>
      simp only [buildStages] at h
      split at h
      · simp at h
      have hshorter : ((i :: rest).drop batch).length ≤ fuel := by
        rw [List.length_drop]
        omega
      obtain ⟨added, hout, hadded⟩ := ih h hshorter
      rw [List.append_assoc, List.singleton_append] at hout
      exact ⟨_, hout, Batches.cons hbatch (List.cons_ne_nil _ _) rfl hadded⟩

theorem batches_drop {n : Nat} (hbatch : 0 < batch) (hn : 0 < n) :
    (n - batch + batch - 1) / batch + 1 ≤ (n + batch - 1) / batch := by
  by_cases hle : n ≤ batch
  · have hnone : (n - batch + batch - 1) / batch = 0 := Nat.div_eq_of_lt (by omega)
    have hone : 0 < (n + batch - 1) / batch := Nat.div_pos (by omega) hbatch
    omega
  · have hsplit : n + batch - 1 = n - batch + batch - 1 + batch := by omega
    rw [hsplit, Nat.add_div_right _ hbatch]

theorem buildStages_fits {maxStages : Nat} {maxUnavailable : UInt32} (hbatch : 0 < batch)
    {fuel : Nat} {rest : List InstanceId}
    (h : stages.length + (rest.length + batch - 1) / batch ≤ maxStages) :
    ∃ out, buildStages batch maxUnavailable maxStages fuel rest stages = some out := by
  induction fuel generalizing rest stages with
  | zero => exact ⟨stages, by cases rest <;> rfl⟩
  | succ fuel ih =>
    cases rest with
    | nil => exact ⟨stages, rfl⟩
    | cons i rest =>
      have hdrop := batches_drop (n := (i :: rest).length) hbatch (by simp)
      have hone : 0 < ((i :: rest).length + batch - 1) / batch :=
        (Nat.succ_pos _).trans_le hdrop
      simp only [buildStages]
      rw [if_neg (by omega)]
      refine ih ?_
      rw [List.length_append, List.length_singleton, List.length_drop]
      omega

/-! ## §2. The replicas of a plan. -/

/-- The replicas that a plan lists, by service and index. -/
def DeploymentPlan.replicaKeys (plan : DeploymentPlan) : List (ServiceId × ReplicaIndex) :=
  plan.services.flatMap fun sp => sp.replicas.map fun replica => (sp.service, replica.index)

/-- The instance of a replica. -/
def DeploymentPlan.instanceOf (plan : DeploymentPlan) (key : ServiceId × ReplicaIndex) :
    InstanceId :=
  makeInstanceId plan.group key.1 key.2

theorem rolloutOrder_eq (group : ServiceGroupId) (services : List ServicePlan) :
    rolloutOrder group services = (services.map fun sp => sp.replicas.map fun replica =>
      makeInstanceId group sp.service replica.index).flatten := by
  unfold rolloutOrder ServicePlan.flatten
  rw [List.map_flatMap, List.flatMap_def]
  simp only [List.map_map]
  rfl

theorem rolloutOrder_keys (plan : DeploymentPlan) :
    rolloutOrder plan.group plan.services = plan.replicaKeys.map plan.instanceOf := by
  unfold rolloutOrder ServicePlan.flatten DeploymentPlan.replicaKeys
  simp only [List.map_flatMap, List.map_map]
  rfl

theorem ServicePlan.Kept.indices_nodup {r : PlanRequest} (h : sp.Kept r) :
    (sp.replicas.map PlannedReplica.index).Nodup := by
  rw [h.indices]
  refine List.Nodup.map_on ?_ List.nodup_range
  intro a ha b hb hab
  have hsmall : ∀ n ∈ List.range sp.replicas.length, n < 2 ^ 64 := by
    intro n hn
    have hlt := List.mem_range.mp hn
    have hcount := sp.placedReplicas.toNat_lt
    rw [h.placed] at hcount
    omega
  have hvalue := congrArg (fun index : ReplicaIndex => index.value.toNat) hab
  simp only [UInt64.toNat_ofNat'] at hvalue
  rwa [Nat.mod_eq_of_lt (hsmall a ha), Nat.mod_eq_of_lt (hsmall b hb)] at hvalue

theorem replicaKeys_nodup {r : PlanRequest}
    (hservices : (plan.services.map ServicePlan.service).Nodup)
    (hkept : ∀ sp ∈ plan.services, sp.Kept r) : plan.replicaKeys.Nodup := by
  refine List.nodup_flatMap.mpr ⟨fun sp hsp => ?_, ?_⟩
  · have hpairs : sp.replicas.map (fun replica => (sp.service, replica.index))
        = (sp.replicas.map PlannedReplica.index).map fun index => (sp.service, index) := by
      rw [List.map_map]
      rfl
    rw [hpairs]
    exact (hkept sp hsp).indices_nodup.map fun a b hab => (Prod.mk.inj hab).2
  · refine (List.pairwise_map.mp hservices).imp fun hne => ?_
    intro key ha hb
    obtain ⟨_, -, rfl⟩ := List.mem_map.mp ha
    obtain ⟨_, -, hsame⟩ := List.mem_map.mp hb
    exact hne (Prod.mk.inj hsame).1.symm

/-! ## §3. Stages and dependencies. -/

/-- The stages of a plan for its request. -/
structure StagedFor (r : PlanRequest) (plan : DeploymentPlan) : Prop where
  /-- The stages in order list the instance of every replica, each once. -/
  listed : plan.stages.flatMap PlanStage.instances = plan.replicaKeys.map plan.instanceOf
  once : (plan.stages.flatMap PlanStage.instances).Nodup
  full : ∀ st ∈ plan.stages.dropLast,
    st.instances.length = r.intent.staging.batchSize.toNat
  last : ∀ st ∈ plan.stages.getLast?,
    1 ≤ st.instances.length ∧ st.instances.length ≤ r.intent.staging.batchSize.toNat
  bounded : plan.stages.length ≤ r.bounds.maxStages
  /-- What a service waits for is not in a later stage. -/
  ordered : ∀ e ∈ r.dependencies.edges, (e.kind = .requires ∨ e.kind = .orderingAfter) →
    ∀ a ∈ plan.replicaKeys, a.1 = e.fromService → ∀ b ∈ plan.replicaKeys, b.1 = e.toService →
    ∀ (i j : Nat) (si sj : PlanStage), plan.stages[i]? = some si →
      plan.instanceOf a ∈ si.instances → plan.stages[j]? = some sj →
      plan.instanceOf b ∈ sj.instances → j ≤ i
  /-- What a service requires is planned. -/
  closed : ∀ sp ∈ plan.services, ∀ e ∈ r.dependencies.edges, e.fromService = sp.service →
    (e.kind = .requires ∨ e.kind = .requiresCapability) →
    ∃ target ∈ plan.services, target.service = e.toService

variable {r : PlanRequest} {weights : PlacementWeights}

theorem mem_replicaKeys (hservices : (plan.services.map ServicePlan.service).Nodup)
    {key : ServiceId × ReplicaIndex} (h : key ∈ plan.replicaKeys) :
    ∃ block, (plan.services.map fun sp => sp.replicas.map fun replica =>
        makeInstanceId plan.group sp.service replica.index)[
          (plan.services.map ServicePlan.service).idxOf key.1]? = some block
      ∧ plan.instanceOf key ∈ block := by
  obtain ⟨sp, hsp, hkey⟩ := List.mem_flatMap.mp h
  obtain ⟨replica, hreplica, rfl⟩ := List.mem_map.mp hkey
  obtain ⟨n, hn⟩ := List.getElem?_of_mem hsp
  have hindex : (plan.services.map ServicePlan.service).idxOf sp.service = n := by
    obtain ⟨hlt, rfl⟩ := List.getElem?_eq_some_iff.mp hn
    have hname := hservices.idxOf_getElem n (by simpa using hlt)
    rwa [List.getElem_map] at hname
  refine ⟨sp.replicas.map fun replica => makeInstanceId plan.group sp.service replica.index,
    ?_, List.mem_map.mpr ⟨replica, hreplica, rfl⟩⟩
  rw [hindex, List.getElem?_map, hn]
  rfl

/-- Instances of a service that is waited for come first in the rollout. -/
theorem rollout_respects {needs : ServiceId → ServiceId → Prop}
    (hrespects : Respects needs (plan.services.map ServicePlan.service))
    (hservices : (plan.services.map ServicePlan.service).Nodup)
    (hnodup : (rolloutOrder plan.group plan.services).Nodup)
    {a b : ServiceId × ReplicaIndex} (ha : a ∈ plan.replicaKeys) (hb : b ∈ plan.replicaKeys)
    (hneeds : needs a.1 b.1) :
    (rolloutOrder plan.group plan.services).idxOf (plan.instanceOf b)
      < (rolloutOrder plan.group plan.services).idxOf (plan.instanceOf a) := by
  obtain ⟨blockA, hblockA, hmemA⟩ := mem_replicaKeys hservices ha
  obtain ⟨blockB, hblockB, hmemB⟩ := mem_replicaKeys hservices hb
  rw [rolloutOrder_eq] at hnodup ⊢
  exact idxOf_flatten_lt hnodup hblockB hmemB hblockA hmemA (hrespects a.1 b.1 hneeds)

theorem stage_le_of_idxOf_lt {x y : InstanceId}
    (hnodup : (stages.flatMap PlanStage.instances).Nodup)
    (hfirst : (stages.flatMap PlanStage.instances).idxOf y
      < (stages.flatMap PlanStage.instances).idxOf x)
    {i j : Nat} {si sj : PlanStage} (hi : stages[i]? = some si) (hx : x ∈ si.instances)
    (hj : stages[j]? = some sj) (hy : y ∈ sj.instances) : j ≤ i := by
  by_contra hlater
  rw [List.flatMap_def] at hnodup hfirst
  have hblock : ∀ {n : Nat} {st : PlanStage}, stages[n]? = some st →
      (stages.map PlanStage.instances)[n]? = some st.instances := by
    intro n st hn
    rw [List.getElem?_map, hn]
    rfl
  have hsecond := idxOf_flatten_lt hnodup (hblock hi) hx (hblock hj) hy (not_le.mp hlater)
  omega

/-- The services of a plan are the ordered services of the intent. -/
theorem PlansTo.services (h : PlansTo r weights order stages) :
    (placementOf r weights order).services.map ServicePlan.service = order :=
  h.feasible.laid.services

theorem PlansTo.required
    (h : PlansTo r weights order stages) (hsorted : r.dependencies.Sorted) {e : Dependency}
    (he : e ∈ r.dependencies.edges) (hfrom : e.fromService ∈ order)
    (hkind : e.kind = .requires ∨ e.kind = .requiresCapability) : e.toService ∈ order := by
  obtain ⟨-, hmem⟩ := DependencyGraph.topologicalOrder_ok _ _ h.ordered
  have hrequired : e.toService ∈ r.dependencies.requirements e.fromService :=
    (DependencyGraph.mem_requirements hsorted).mpr ⟨e, he, rfl, rfl, hkind⟩
  exact (hmem _).mpr ((checkRequirements_rejected.mp h.closed).2 _ ((hmem _).mp hfrom) _ hrequired)

/-- **The stages of a feasible plan** list its replicas in full batches and in
dependency order, and the plan has what its services require. -/
theorem feasible_plan_staged (r : PlanRequest) (weights : PlacementWeights)
    (edges : List Dependency) (maxEdges : Nat)
    (hbuild : DependencyGraph.build edges maxEdges = .ok r.dependencies)
    (h : (buildPlan r weights).feasible = true)
    (hinjective : Set.InjOn (buildPlan r weights).plan.instanceOf
      { key | key ∈ (buildPlan r weights).plan.replicaKeys }) :
    StagedFor r (buildPlan r weights).plan := by
  obtain ⟨order, stages, hplanned⟩ := buildPlan_feasible_iff.mp h
  have hsize := (buildPlan_sized h).1.stages
  revert hinjective hsize
  rw [hplanned.outcome.2.2]
  intro hinjective hsize
  -- the sealed plan has the services, the stages and the group of its body
  generalize hplan : (planBody r (placementOf r weights order).services stages).seal = plan
    at hinjective hsize ⊢
  obtain ⟨hplanServices, hplanStages, hplanGroup⟩ :
      plan.services = (placementOf r weights order).services ∧ plan.stages = stages
        ∧ plan.group = r.group.id := by
    rw [← hplan]
    exact ⟨rfl, rfl, rfl⟩
  have hnames : plan.services.map ServicePlan.service = order := by
    rw [hplanServices, hplanned.services]
  obtain ⟨hnodup, hmem⟩ := DependencyGraph.topologicalOrder_ok _ _ hplanned.ordered
  have hservices : (plan.services.map ServicePlan.service).Nodup := hnames ▸ hnodup
  have hkept : ∀ sp ∈ plan.services, sp.Kept r := by
    rw [hplanServices]
    exact fun sp hsp => (hplanned.feasible.laid.each sp hsp).kept
  have hbatch : 0 < r.intent.staging.batchSize.toNat :=
    Nat.pos_of_ne_zero fun hzero =>
      validateIntent_batch hplanned.valid (UInt32.toNat_inj.mp hzero)
  obtain ⟨added, hadded, hbatches⟩ := buildStages_batches hbatch hplanned.staged le_rfl
  obtain rfl : stages = added := hadded
  rw [← hplanServices, ← hplanGroup, ← hplanStages] at hbatches
  have hlisted : plan.stages.flatMap PlanStage.instances = plan.replicaKeys.map plan.instanceOf :=
    hbatches.listed.trans (rolloutOrder_keys plan)
  have honce : (plan.stages.flatMap PlanStage.instances).Nodup := by
    rw [hlisted]
    exact (replicaKeys_nodup hservices hkept).map_on fun a ha b hb => hinjective ha hb
  refine ⟨hlisted, honce, hbatches.full, hbatches.last, hsize, ?_, ?_⟩
  · intro e he hkind a ha hafrom b hb hbto i j si sj hi hinsti hj hinstj
    have hlistedService : ∀ key ∈ plan.replicaKeys, key.1 ∈ (intentServices r).services := by
      intro key hkey
      obtain ⟨sp, hsp, hin⟩ := List.mem_flatMap.mp hkey
      obtain ⟨replica, -, rfl⟩ := List.mem_map.mp hin
      rw [← hmem, ← hnames]
      exact List.mem_map_of_mem hsp
    have hwaits : r.dependencies.WaitsFor (intentServices r).services a.1 b.1 :=
      ⟨hlistedService a ha, hlistedService b hb, e, he, hkind, hafrom.symm, hbto.symm⟩
    have hrespects := DependencyGraph.topologicalOrder_respects _ _ hplanned.ordered
    rw [← hnames] at hrespects
    have hfirst := rollout_respects hrespects hservices (hbatches.listed ▸ honce) ha hb hwaits
    rw [← hbatches.listed] at hfirst
    exact stage_le_of_idxOf_lt honce hfirst hi hinsti hj hinstj
  · intro sp hsp e he hfrom hkind
    have hin : e.fromService ∈ order := by
      rw [hfrom, ← hnames]
      exact List.mem_map_of_mem hsp
    have hout := hplanned.required (DependencyGraph.sorted_of_build hbuild) he hin hkind
    rw [← hnames] at hout
    exact List.mem_map.mp hout

/-- A service that requires another one. -/
def requiresEdge : Dependency :=
  { id := .literal (txt "ab"), fromService := .literal (txt "a"), toService := .literal (txt "b") }

/-- The two services, the first of which requires the second. -/
def stagedRequest : PlanRequest :=
  { demoRequest with dependencies := { edges := [requiresEdge] } }

theorem stagedRequest_staged :
    (buildPlan stagedRequest {}).feasible = true
      ∧ StagedFor stagedRequest (buildPlan stagedRequest {}).plan := by
  have hdistinct : ∀ a ∈ (buildPlan stagedRequest {}).plan.replicaKeys,
      ∀ b ∈ (buildPlan stagedRequest {}).plan.replicaKeys,
      (buildPlan stagedRequest {}).plan.instanceOf a =
        (buildPlan stagedRequest {}).plan.instanceOf b
        → a = b := by decide +kernel
  exact ⟨by decide +kernel, feasible_plan_staged stagedRequest {} [requiresEdge] 1 (by decide +kernel)
    (by decide +kernel) (fun a ha b hb => hdistinct a ha b hb)⟩

/-! ## §4. Is a required service there? -/

/-- Each service with a replica has a replica of every service it requires. -/
def RequiredPresent (r : PlanRequest) (plan : DeploymentPlan) : Prop :=
  ∀ e ∈ r.dependencies.edges, e.kind = .requires →
    (∃ sp ∈ plan.services, sp.service = e.fromService ∧ sp.replicas ≠ []) →
    ∃ target ∈ plan.services, target.service = e.toService ∧ target.replicas ≠ []

/-- No entry of the intent asks for zero replicas of a service that one with
replicas requires. -/
def RequiredAsked (r : PlanRequest) : Prop :=
  ∀ e ∈ r.dependencies.edges, e.kind = .requires →
    ∀ source ∈ r.intent.services, source.service = e.fromService → source.desiredReplicas ≠ 0 →
    ∀ target ∈ r.intent.services, target.service = e.toService → target.desiredReplicas ≠ 0

instance (r : PlanRequest) : Decidable (RequiredAsked r) :=
  inferInstanceAs (Decidable (∀ e ∈ r.dependencies.edges, e.kind = .requires →
    ∀ source ∈ r.intent.services, source.service = e.fromService → source.desiredReplicas ≠ 0 →
    ∀ target ∈ r.intent.services, target.service = e.toService → target.desiredReplicas ≠ 0))

theorem PlansTo.replicas_iff (h : PlansTo r weights order stages)
    (hsp : sp ∈ (placementOf r weights order).services) :
    sp.replicas ≠ [] ↔ sp.desiredReplicas ≠ 0 := by
  have hfull := h.feasible.laid.complete h.placed sp hsp
  have hcount := (h.feasible.laid.each sp hsp).kept.placed
  rw [← hfull, Ne, Ne, ← List.length_eq_zero_iff, ← hcount, ← UInt32.toNat_inj]
  rfl

/-- A planned service is asked for, and has replicas exactly if some are asked
for. -/
theorem PlansTo.asked (h : PlansTo r weights order stages)
    (hsp : sp ∈ (placementOf r weights order).services) :
    ∃ entry ∈ r.intent.services, entry.service = sp.service
      ∧ (sp.replicas ≠ [] ↔ entry.desiredReplicas ≠ 0) := by
  have hpair := (h.feasible.services.1.mem_iff).mp (List.mem_map_of_mem hsp)
  obtain ⟨entry, hentry, hsame⟩ := List.mem_map.mp hpair
  obtain ⟨hservice, hdesired⟩ := Prod.mk.inj hsame
  exact ⟨entry, hentry, hservice, hdesired ▸ h.replicas_iff hsp⟩

theorem PlansTo.entry_planned (h : PlansTo r weights order stages) {entry : ServiceReplicaIntent}
    (hentry : entry ∈ r.intent.services) :
    ∃ sp ∈ (placementOf r weights order).services, sp.service = entry.service
      ∧ (sp.replicas ≠ [] ↔ entry.desiredReplicas ≠ 0) := by
  have hpair := (h.feasible.services.1.mem_iff).mpr
    (List.mem_map_of_mem (f := fun e : ServiceReplicaIntent => (e.service, e.desiredReplicas)) hentry)
  obtain ⟨sp, hsp, hsame⟩ := List.mem_map.mp hpair
  obtain ⟨hservice, hdesired⟩ := Prod.mk.inj hsame
  exact ⟨sp, hsp, hservice, hdesired ▸ h.replicas_iff hsp⟩

theorem PlansTo.unique (h : PlansTo r weights order stages) {a b : ServicePlan}
    (ha : a ∈ (placementOf r weights order).services)
    (hb : b ∈ (placementOf r weights order).services) (hsame : a.service = b.service) : a = b :=
  List.inj_on_of_nodup_map h.feasible.services.2 ha hb hsame

/-- **A required service is there** exactly if the intent does not ask for
zero replicas of it. -/
theorem required_present_iff (r : PlanRequest) (weights : PlacementWeights)
    (edges : List Dependency) (maxEdges : Nat)
    (hbuild : DependencyGraph.build edges maxEdges = .ok r.dependencies)
    (h : (buildPlan r weights).feasible = true) :
    RequiredPresent r (buildPlan r weights).plan ↔ RequiredAsked r := by
  obtain ⟨order, stages, hplanned⟩ := buildPlan_feasible_iff.mp h
  rw [hplanned.outcome.2.2]
  constructor
  · intro hpresent e he hkind source hsource hfrom hasked target htarget hto
    obtain ⟨sp, hsp, hspname, hspiff⟩ := hplanned.entry_planned hsource
    obtain ⟨found, hfound, hfoundname, hreplicas⟩ :=
      hpresent e he hkind ⟨sp, hsp, hspname.trans hfrom, hspiff.mpr hasked⟩
    obtain ⟨other, hother, hothername, hotheriff⟩ := hplanned.entry_planned htarget
    obtain rfl := hplanned.unique hfound hother (hfoundname.trans (hothername.trans hto).symm)
    exact hotheriff.mp hreplicas
  · rintro hasked e he hkind ⟨sp, hsp, hfrom, hreplicas⟩
    obtain ⟨source, hsource, hsourcename, hsourceiff⟩ := hplanned.asked hsp
    have hin : e.fromService ∈ order := by
      rw [← hfrom, ← hplanned.services]
      exact List.mem_map_of_mem hsp
    have hout := hplanned.required (DependencyGraph.sorted_of_build hbuild) he hin (.inl hkind)
    rw [← hplanned.services] at hout
    obtain ⟨target, htarget, hto⟩ := List.mem_map.mp hout
    obtain ⟨entry, hentry, hentryname, hentryiff⟩ := hplanned.asked htarget
    refine ⟨target, htarget, hto, hentryiff.mpr ?_⟩
    exact hasked e he hkind source hsource (hsourcename.trans hfrom) (hsourceiff.mp hreplicas)
      entry hentry (hentryname.trans hto)

theorem stagedRequest_present : RequiredPresent stagedRequest (buildPlan stagedRequest {}).plan :=
  (required_present_iff stagedRequest {} [requiresEdge] 1 (by decide +kernel)
    (by decide +kernel)).mpr (by decide)

/-- The same two services, with no replica asked of the required one. -/
def scaledDownRequest : PlanRequest :=
  { stagedRequest with
    services := [demoService "a" 3, { demoService "b" 4 with replicas := { min := 0, max := 2 } }]
    intent := { demoRequest.intent with
      services := [{ service := .literal (txt "a"), desiredReplicas := 2 },
        { service := .literal (txt "b"), desiredReplicas := 0 }] } }

/-- The plan is feasible, the dependent is deployed and what it requires is
not. -/
theorem required_service_scaled_to_zero :
    DependencyGraph.build [requiresEdge] 1 = .ok scaledDownRequest.dependencies
      ∧ (buildPlan scaledDownRequest {}).feasible = true
      ∧ ¬ RequiredPresent scaledDownRequest (buildPlan scaledDownRequest {}).plan := by
  refine ⟨by decide +kernel, by decide +kernel, fun hpresent => ?_⟩
  have habsent : ∀ target ∈ (buildPlan scaledDownRequest {}).plan.services,
      target.service = .literal (txt "b") → target.replicas = [] := by decide +kernel
  obtain ⟨target, htarget, hname, hreplicas⟩ :=
    hpresent requiresEdge (by decide +kernel) rfl (by decide +kernel)
  exact hreplicas (habsent target htarget hname)

end DpuFabric
