/-
  Engine.Feasible — WHAT A FEASIBLE PLAN IS MADE OF.

  The service set of an accepted intent is the intent itself (`Collected`);
  the order of the services has each of them once; and the placement loop has
  laid every one of them (`Laid`).  A feasible plan is the sealed plan of such
  a placement (`buildPlan_laid`), so every replica of it stands on a device of
  the topology that is eligible for its service (`buildPlan_body`).
-/
import DpuFabric.Engine.KahnLoop
import DpuFabric.Engine.Placing

namespace DpuFabric

open Lib

/-! ## §1. Eligible devices. -/

/-- A device of the topology is eligible for the service. -/
def EligibleOn (topology : TopologySnapshot) (services : List ServiceDefinition)
    (policy : PolicyState) (now : LogicalInstant) (service : ServiceId) (d : DpuId) : Prop :=
  ∃ definition, findService services service = some definition
    ∧ ∃ r ∈ topology.dpus, r.id = d
      ∧ (EligibilityEvaluator.evaluate r definition policy now).eligible = true
      ∧ (EligibilityEvaluator.evaluate r definition policy now).unknown = false

instance (topology : TopologySnapshot) (services : List ServiceDefinition) (policy : PolicyState)
    (now : LogicalInstant) (service : ServiceId) (d : DpuId) :
    Decidable (EligibleOn topology services policy now service d) :=
  match h : findService services service with
  | none => isFalse (fun ⟨_, hsome, _⟩ => nomatch h.symm.trans hsome)
  | some definition =>
    decidable_of_iff (∃ r ∈ topology.dpus, r.id = d
      ∧ (EligibilityEvaluator.evaluate r definition policy now).eligible = true
      ∧ (EligibilityEvaluator.evaluate r definition policy now).unknown = false)
      ⟨fun hd => ⟨definition, h, hd⟩,
       fun ⟨_, hsome, hd⟩ => Option.some.inj (h.symm.trans hsome) ▸ hd⟩

/-- Every replica of the service plan is on an eligible device. -/
def ServicePlan.Eligible (r : PlanRequest) (sp : ServicePlan) : Prop :=
  ∀ replica ∈ sp.replicas, EligibleOn r.topology r.services r.policy r.now sp.service replica.dpu

/-! ## §2. The service set. -/

variable {r : PlanRequest} {weights : PlacementWeights}

/-- An accepted entry names a declared service, once, and is within its
replica policy. -/
theorem refuseEntry_none {seen : List ServiceId} {entry : ServiceReplicaIntent}
    (h : refuseEntry r seen entry = none) :
    (∃ definition, findService r.services entry.service = some definition)
      ∧ entry.service ∉ seen
      ∧ entry.desiredReplicas.toNat ≤ r.bounds.maxReplicasPerService := by
  unfold refuseEntry at h
  split at h
  · simp at h
  next service hservice =>
  split at h
  · simp at h
  simp only at h
  split at h
  · simp at h
  next hpolicy =>
  split at h
  · simp at h
  next hrange =>
  split at h
  · simp at h
  split at h
  · simp at h
  next hseen =>
  have hmax : service.replicas.max.toNat ≤ r.bounds.maxReplicasPerService := by
    by_contra hlt
    refine hpolicy ?_
    unfold ReplicaPolicy.validate
    split
    · rfl
    split
    · rfl
    · rw [if_pos (not_le.mp hlt)]
      rfl
  have hle : entry.desiredReplicas ≤ service.replicas.max :=
    UInt32.not_lt.mp fun hlt => hrange (.inr hlt)
  exact ⟨⟨service, hservice⟩, hseen,
    (UInt32.le_iff_toNat_le.mp hle).trans hmax⟩

/-- An entry of an intent as the planner keeps it. -/
def ServiceReplicaIntent.pair (entry : ServiceReplicaIntent) : ServiceId × UInt32 :=
  (entry.service, entry.desiredReplicas)

/-- What the loop over the services of an intent has collected. -/
structure Collected (r : PlanRequest) (done : List ServiceReplicaIntent) (set : ServiceSet) :
    Prop where
  services : set.services = set.desired.map Prod.fst
  nodup : (set.desired.map Prod.fst).Nodup
  declared : ∀ d ∈ set.desired, (∃ definition, findService r.services d.1 = some definition)
    ∧ d.2.toNat ≤ r.bounds.maxReplicasPerService
  sublist : set.desired.Sublist (done.map ServiceReplicaIntent.pair)
  complete : set.rejected = false → set.desired = done.map ServiceReplicaIntent.pair

theorem Collected.step {done : List ServiceReplicaIntent} {set : ServiceSet}
    (h : Collected r done set) (entry : ServiceReplicaIntent) :
    Collected r (done ++ [entry]) (ServiceSet.step r set entry) := by
  unfold ServiceSet.step
  split
  · refine ⟨h.services, h.nodup, h.declared, h.sublist.trans ?_, fun hno => absurd hno (by simp)⟩
    rw [List.map_append]
    exact List.sublist_append_left _ _
  · next hnone =>
    obtain ⟨hdeclared, hseen, hle⟩ := refuseEntry_none hnone
    refine ⟨?_, ?_, fun d hd => ?_, ?_, fun haccepted => ?_⟩
    · simp [h.services]
    · rw [List.map_append, List.map_singleton, List.nodup_append_comm]
      exact List.nodup_cons.mpr ⟨hseen, h.nodup⟩
    · rcases List.mem_append.mp hd with hd | hd
      · exact h.declared d hd
      · rw [List.mem_singleton.mp hd]
        exact ⟨hdeclared, hle⟩
    · rw [List.map_append]
      exact h.sublist.append (List.Sublist.refl _)
    show set.desired ++ [(entry.service, entry.desiredReplicas)] = _
    rw [List.map_append, h.complete haccepted]
    rfl

/-- The services of an intent, as the planner collects them. -/
def intentServices (r : PlanRequest) : ServiceSet :=
  collectServices r { limit := r.bounds.maxExplanations }

theorem intentServices_collected (r : PlanRequest) :
    Collected r r.intent.services (intentServices r) :=
  foldl_prefix (fun entry _ _ _ h => h.step entry)
    ⟨rfl, List.nodup_nil, by simp, List.Sublist.refl _, fun _ => rfl⟩

theorem checkRequirements_keeps (r : PlanRequest) (set : ServiceSet) :
    (checkRequirements r set).services = set.services
      ∧ (checkRequirements r set).desired = set.desired := by
  refine foldl_prefix (P := fun _ (acc : ServiceSet) => acc.services = set.services
    ∧ acc.desired = set.desired) ?_ ⟨rfl, rfl⟩
  intro service _ _ acc hacc
  refine foldl_prefix (P := fun _ (acc : ServiceSet) => acc.services = set.services
    ∧ acc.desired = set.desired) ?_ hacc
  intro required _ _ acc hacc
  simp only
  split
  · exact hacc
  · exact hacc

/-- One requirement of a service, looked up in the intent. -/
def ServiceSet.require (r : PlanRequest) (set : ServiceSet) (service : ServiceId)
    (acc : ServiceSet) (required : ServiceId) : ServiceSet :=
  if required ∈ set.services then acc
  else
    let e := match findService r.services required with
      | none => makeExplanation .serviceNotDeclared .dependency service.text
          (txt "requires undeclared service " ++ required.text)
      | some _ => makeExplanation .dependencyUnsatisfied .dependency service.text
          (txt "requires " ++ required.text ++ txt " which is not part of the intent")
    { acc with sink := acc.sink.add e, rejected := true }

theorem checkRequirements_eq (r : PlanRequest) (set : ServiceSet) :
    checkRequirements r set = set.services.foldl (fun acc service =>
      (r.dependencies.requirements service).foldl (set.require r service) acc) set := rfl

theorem ServiceSet.require_rejected {r : PlanRequest} {set acc : ServiceSet}
    {service required : ServiceId} :
    (set.require r service acc required).rejected = false
      ↔ acc.rejected = false ∧ required ∈ set.services := by
  unfold ServiceSet.require
  by_cases hin : required ∈ set.services
  · simp [hin]
  · simp [hin]

/-- The requirements hold exactly if none of them is outside the intent. -/
theorem checkRequirements_rejected {r : PlanRequest} {set : ServiceSet} :
    (checkRequirements r set).rejected = false ↔ set.rejected = false
      ∧ ∀ service ∈ set.services, ∀ required ∈ r.dependencies.requirements service,
          required ∈ set.services := by
  have hinner : ∀ (service : ServiceId) (rest : List ServiceId) (acc : ServiceSet),
      (rest.foldl (set.require r service) acc).rejected = false
        ↔ acc.rejected = false ∧ ∀ required ∈ rest, required ∈ set.services := by
    intro service rest
    induction rest with
    | nil => simp
    | cons required rest ih =>
      intro acc
      rw [List.foldl_cons, ih, ServiceSet.require_rejected, List.forall_mem_cons, and_assoc]
  have houter : ∀ (rest : List ServiceId) (acc : ServiceSet),
      (rest.foldl (fun acc service =>
          (r.dependencies.requirements service).foldl (set.require r service) acc) acc).rejected
          = false
        ↔ acc.rejected = false ∧ ∀ service ∈ rest,
            ∀ required ∈ r.dependencies.requirements service, required ∈ set.services := by
    intro rest
    induction rest with
    | nil => simp
    | cons service rest ih =>
      intro acc
      rw [List.foldl_cons, ih, hinner, List.forall_mem_cons, and_assoc]
  rw [checkRequirements_eq]
  exact houter set.services set

theorem Collected.desiredOf {done : List ServiceReplicaIntent} {set : ServiceSet}
    (h : Collected r done set) :
    set.services.map (fun id => (id, set.desiredOf id)) = set.desired := by
  rw [h.services, List.map_map]
  refine (List.map_congr_left fun d hd => ?_).trans (List.map_id _)
  have hfind : set.desired.find? (fun x => decide (x.1 = d.1)) = some d := by
    obtain ⟨x, hx⟩ : ∃ x, set.desired.find? (fun x => decide (x.1 = d.1)) = some x :=
      Option.isSome_iff_exists.mp (List.find?_isSome.mpr ⟨d, hd, decide_eq_true rfl⟩)
    have hkey : x.1 = d.1 :=
      of_decide_eq_true (List.find?_some (p := fun y : ServiceId × UInt32 => decide (y.1 = d.1)) hx)
    rw [hx, List.inj_on_of_nodup_map h.nodup (List.mem_of_find?_eq_some hx) hd hkey]
  show (d.1, set.desiredOf d.1) = d
  rw [ServiceSet.desiredOf, hfind]
  rfl

/-! ## §3. The plan. -/

/-- What the placement loop leaves. -/
def placementOf (r : PlanRequest) (weights : PlacementWeights) (order : List ServiceId) :
    Placement :=
  let set := checkRequirements r (intentServices r)
  placeServices r weights set set.sink order

theorem buildPlan_eq (r : PlanRequest) (weights : PlacementWeights) :
    buildPlan r weights = match validateIntent r with
      | some (code, e) =>
        failPlan (({ limit := r.bounds.maxExplanations } : ExplanationSink).add e) code []
      | none =>
        if (intentServices r).rejected then
          failPlan (intentServices r).sink .intentNotAccepted []
        else
          match r.dependencies.topologicalOrder (intentServices r).services with
          | (.error _, cycle) =>
            failPlan ((intentServices r).sink.add (makeExplanation .dependencyCycle .dependency
              (cycleText cycle) (txt "dependency cycle among intent services")))
              .dependencyCycle []
          | (.ok order, _) =>
            if (checkRequirements r (intentServices r)).rejected then
              failPlan (checkRequirements r (intentServices r)).sink .dependencyUnsatisfied []
            else if r.bounds.maxDpus < r.topology.dpus.length then
              failPlan ((checkRequirements r (intentServices r)).sink.add
                (makeExplanation .boundExceeded .placement (txt "<topology>")
                  (txt "topology exceeds the DPU bound"))) .boundExceeded []
            else
              match (placementOf r weights order).infeasible with
              | some code => failPlan (placementOf r weights order).sink code []
              | none => finishPlan r (placementOf r weights order) := rfl

/-- Every phase of the planner has succeeded. -/
structure PlansTo (r : PlanRequest) (weights : PlacementWeights) (order : List ServiceId)
    (stages : List PlanStage) : Prop where
  valid : validateIntent r = none
  accepted : (intentServices r).rejected = false
  ordered : (r.dependencies.topologicalOrder (intentServices r).services).1 = .ok order
  closed : (checkRequirements r (intentServices r)).rejected = false
  devices : r.topology.dpus.length ≤ r.bounds.maxDpus
  placed : (placementOf r weights order).infeasible = none
  staged : buildStages r.intent.staging.batchSize.toNat r.intent.staging.maxUnavailable
    r.bounds.maxStages
    (rolloutOrder r.group.id (placementOf r weights order).services).length
    (rolloutOrder r.group.id (placementOf r weights order).services) [] = some stages

theorem PlansTo.outcome {order : List ServiceId} {stages : List PlanStage}
    (h : PlansTo r weights order stages) :
    (buildPlan r weights).feasible = true ∧ (buildPlan r weights).primary = .ok
      ∧ (buildPlan r weights).plan
        = (planBody r (placementOf r weights order).services stages).seal := by
  have hbuilt : buildPlan r weights = finishPlan r (placementOf r weights order) := by
    obtain ⟨found, horder⟩ : ∃ found, found
      = r.dependencies.topologicalOrder (intentServices r).services := ⟨_, rfl⟩
    have hok := h.ordered
    rw [buildPlan_eq, h.valid]
    simp only
    rw [if_neg (Bool.eq_false_iff.mp h.accepted)]
    rw [← horder] at hok ⊢
    obtain ⟨result, cycle⟩ := found
    obtain rfl : result = .ok order := hok
    simp only
    rw [if_neg (Bool.eq_false_iff.mp h.closed), if_neg (not_lt.mpr h.devices), h.placed]
  rw [hbuilt]
  unfold finishPlan
  simp only [h.staged]
  exact ⟨trivial, trivial, trivial⟩

/-- **A plan is feasible exactly if every phase succeeds.** -/
theorem buildPlan_feasible_iff :
    (buildPlan r weights).feasible = true ↔ ∃ order stages, PlansTo r weights order stages := by
  refine ⟨fun h => ?_, fun ⟨_, _, h⟩ => h.outcome.1⟩
  have hfail : ∀ sink code truncations, (failPlan sink code truncations).feasible ≠ true := by
    simp [failPlan]
  rw [buildPlan_eq] at h
  split at h
  · exact absurd h (hfail _ _ _)
  next hvalid =>
  split at h
  · exact absurd h (hfail _ _ _)
  next haccepted =>
  split at h
  · exact absurd h (hfail _ _ _)
  next order _ horder =>
  split at h
  · exact absurd h (hfail _ _ _)
  next hclosed =>
  split at h
  · exact absurd h (hfail _ _ _)
  next hdevices =>
  split at h
  · exact absurd h (hfail _ _ _)
  next hplaced =>
  unfold finishPlan at h
  simp only at h
  split at h
  · exact absurd h (hfail _ _ _)
  next stages hstages =>
  exact ⟨order, stages, hvalid, Bool.eq_false_iff.mpr haccepted, congrArg Prod.fst horder,
    Bool.eq_false_iff.mpr hclosed, not_lt.mp hdevices, hplaced, hstages⟩

/-- The placement under a feasible plan. -/
structure Feasible (r : PlanRequest) (set : ServiceSet) (order : List ServiceId) (p : Placement) :
    Prop where
  valid : validateIntent r = none
  desired : set.desired = (intentServices r).desired
  accepted : (intentServices r).rejected = false
  perm : order.Perm (intentServices r).services
  laid : Laid r set order p
  complete : p.infeasible = none

theorem PlansTo.feasible {order : List ServiceId} {stages : List PlanStage}
    (h : PlansTo r weights order stages) :
    Feasible r (checkRequirements r (intentServices r)) order (placementOf r weights order) := by
  obtain ⟨hnodup, hmem⟩ := DependencyGraph.topologicalOrder_ok _ _ h.ordered
  have hcollected := intentServices_collected r
  have hservices : (intentServices r).services.Nodup := hcollected.services ▸ hcollected.nodup
  have hfound : ∀ id ∈ order, ∃ definition, findService r.services id = some definition := by
    intro id hid
    have hkey := (hmem id).mp hid
    rw [hcollected.services] at hkey
    obtain ⟨d, hd, rfl⟩ := List.mem_map.mp hkey
    exact (hcollected.declared d hd).1
  exact ⟨h.valid, (checkRequirements_keeps r _).2, h.accepted,
    (List.perm_ext_iff_of_nodup hnodup hservices).mpr hmem,
    placeServices_laid weights hfound (checkRequirements r (intentServices r)).sink, h.placed⟩

/-- **A feasible plan is the sealed plan of a placement with every service
laid.** -/
theorem buildPlan_laid (h : (buildPlan r weights).feasible = true) :
    ∃ set order p stages, Feasible r set order p
      ∧ buildStages r.intent.staging.batchSize.toNat r.intent.staging.maxUnavailable
          r.bounds.maxStages (rolloutOrder r.group.id p.services).length
          (rolloutOrder r.group.id p.services) [] = some stages
      ∧ (buildPlan r weights).plan = (planBody r p.services stages).seal := by
  obtain ⟨order, stages, hplanned⟩ := buildPlan_feasible_iff.mp h
  exact ⟨_, order, _, stages, hplanned.feasible, hplanned.staged, hplanned.outcome.2.2⟩

/-- A feasible plan is the sealed plan of the request, and every replica of it
stands on a device that is eligible for its service. -/
theorem buildPlan_body (h : (buildPlan r weights).feasible = true) :
    ∃ services stages, (buildPlan r weights).plan = (planBody r services stages).seal
      ∧ ∀ sp ∈ services, sp.Eligible r := by
  obtain ⟨set, order, p, stages, hfeasible, -, hplan⟩ := buildPlan_laid h
  refine ⟨p.services, stages, hplan, fun sp hsp replica hreplica => ?_⟩
  have hplaced : (sp.service, replica) ∈ placedBy p.services :=
    List.mem_flatMap.mpr ⟨sp, hsp, List.mem_map_of_mem hreplica⟩
  obtain ⟨definition, hdefinition, dpu, hdpu, hid, -, -, heligible, hknown⟩ :=
    hfeasible.laid.booked.stands _ hplaced
  exact ⟨definition, hdefinition, dpu, hdpu, hid, heligible, hknown⟩

end DpuFabric
