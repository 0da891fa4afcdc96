/-
  Engine.Placing — THE PLACEMENT LOOP KEEPS ITS BOOKS (`build_plan`, `engine/planner.cpp`).

  The loop over the services and the loop over the candidates of a service
  share five maps: replicas per device and per domain, what is left of each
  device, and who owns it.  `Booked` says what each of them means in terms of
  the replicas that are placed so far, and `Booked.take` that placing one more
  keeps this.  From there:

      Filling        — one service: its replicas so far, against the
                       candidates that were looked at
      Laid           — the services so far, each with a complete record
      placeServices_laid — the whole loop
-/
import DpuFabric.Core.Resources
import DpuFabric.Engine.Planner

namespace DpuFabric

open Lib

variable {id : ServiceId} {p : Placement} {s : Placing} {dpu : DpuRecord} {c : Candidate}
  {placed : List (ServiceId × PlannedReplica)}

/-! ## §1. Candidates. -/

theorem findService_id {services : List ServiceDefinition}
    {definition : ServiceDefinition} (h : findService services id = some definition) :
    definition.id = id :=
  of_decide_eq_true (List.find?_some (p := fun s : ServiceDefinition => decide (s.id = id)) h)

namespace EligibilityEvaluator

/-- The two flags of the aggregation: some result is violated, some unknown. -/
theorem aggregate_flags (results : List RequirementResult) :
    (aggregate results).1 = results.any (fun e => decide (e.outcome = .violated))
      ∧ (aggregate results).2.1 = results.any (fun e => decide (e.outcome = .unknown)) := by
  unfold aggregate
  refine foldl_prefix (P := fun done (acc : Bool × Bool × ReasonCode) =>
    acc.1 = done.any (fun e : RequirementResult => decide (e.outcome = .violated))
      ∧ acc.2.1 = done.any (fun e => decide (e.outcome = .unknown))) ?_ ⟨rfl, rfl⟩
  rintro e - done ⟨violated, unknown, primary⟩ ⟨rfl, rfl⟩
  cases houtcome : e.outcome <;> simp [houtcome]

theorem eligible_headroom {service : ServiceDefinition} {policy : PolicyState}
    {now : LogicalInstant} (h : (evaluate dpu service policy now).eligible = true) :
    ∃ free, dpu.capacity.headroom dpu.allocated = .ok free := by
  unfold evaluate at h
  simp only at h
  generalize hknown : (evidenceResult dpu policy now).isNone = known at h
  set results := deviceResults dpu ++ (evidenceResult dpu policy now).toList
    ++ profileResults dpu service.compatibility known ++ isolationResults dpu service policy known
    ++ [capacityResult dpu service known]
    ++ service.compatibility.capabilities.map (evaluateCapability dpu.capabilities known)
    with hresults
  obtain ⟨hviolated, hunknown⟩ := aggregate_flags results
  rw [Bool.and_eq_true, Bool.not_eq_true', Bool.not_eq_true', hviolated, hunknown,
    List.any_eq_false, List.any_eq_false] at h
  have hmem : capacityResult dpu service known ∈ results := by simp [hresults]
  have hclean := h.1 _ hmem
  have hclear := h.2 _ hmem
  unfold capacityResult at hclean hclear
  split at hclean
  · next hcap => exact absurd (by rw [if_pos hcap]; rfl) hclear
  split at hclean
  · exact absurd rfl hclean
  · next free hfree => exact ⟨free, hfree⟩

end EligibilityEvaluator

section Plan

variable {r : PlanRequest} {weights : PlacementWeights} {service : ServiceDefinition}

theorem refuseCandidate_none (h : refuseCandidate r p service dpu = none) :
    (EligibilityEvaluator.evaluate dpu service r.policy r.now).eligible = true
      ∧ (EligibilityEvaluator.evaluate dpu service r.policy r.now).unknown = false
      ∧ ∀ scope owner, service.isolation.exclusiveScope = some scope →
          p.scopeOwner dpu.id = some owner → owner = scope := by
  simp only [refuseCandidate] at h
  split at h
  · simp at h
  next heligible =>
  split at h
  · simp at h
  next hunknown =>
  refine ⟨by simpa using heligible, by simpa using hunknown, ?_⟩
  intro scope owner hscope howner
  rw [hscope, howner] at h
  by_contra hne
  simp [hne] at h

/-- The candidates: devices in their order, each of them with nothing against
it. -/
theorem candidates_found (r : PlanRequest) (weights : PlacementWeights) (p : Placement)
    (service : ServiceDefinition) (devices : List DpuRecord) (sink : ExplanationSink) :
    let found := (devices.foldl (candidateStep r weights p service) (sink, [])).2
    (found.map Candidate.dpu).Sublist devices
      ∧ ∀ c ∈ found, refuseCandidate r p service c.dpu = none := by
  refine foldl_prefix (P := fun done (acc : ExplanationSink × List Candidate) =>
    (acc.2.map Candidate.dpu).Sublist done
      ∧ ∀ c ∈ acc.2, refuseCandidate r p service c.dpu = none) ?_ (by simp)
  intro d _ done acc ⟨hsub, hnone⟩
  unfold candidateStep
  split
  · exact ⟨hsub.trans (List.sublist_append_left _ _), hnone⟩
  next hd =>
  refine ⟨?_, fun c hc => ?_⟩
  · rw [List.map_append]
    exact hsub.append (List.Sublist.refl _)
  rcases List.mem_append.mp hc with hc | hc
  · exact hnone c hc
  · rw [List.mem_singleton.mp hc]
    exact hd

/-! ## §2. The books. -/

/-- The resources that a replica of a service takes. -/
def demandOf (r : PlanRequest) (id : ServiceId) : ResourceVector :=
  ((findService r.services id).map ServiceDefinition.resources).getD {}

/-- The exclusive scope that a service is declared with. -/
def scopeOf (services : List ServiceDefinition) (id : ServiceId) : Option ExclusiveScopeId :=
  (findService services id).bind fun d => d.isolation.exclusiveScope

/-- The replicas of some service plans, each with its service. -/
def placedBy (services : List ServicePlan) : List (ServiceId × PlannedReplica) :=
  services.flatMap fun sp => sp.replicas.map fun replica => (sp.service, replica)

theorem placedBy_concat (services : List ServicePlan) (sp : ServicePlan) :
    placedBy (services ++ [sp])
      = placedBy services ++ sp.replicas.map fun replica => (sp.service, replica) := by
  simp [placedBy]

/-- The demand of the replicas on one device, without a bound. -/
def usedOn (r : PlanRequest) (placed : List (ServiceId × PlannedReplica)) (d : DpuId)
    (x : Resource) : Nat :=
  ((placed.filter fun y => decide (y.2.dpu = d)).map fun y => (demandOf r y.1).amount x).sum

theorem usedOn_concat (r : PlanRequest) (placed : List (ServiceId × PlannedReplica))
    (y : ServiceId × PlannedReplica) (d : DpuId) (x : Resource) :
    usedOn r (placed ++ [y]) d x
      = usedOn r placed d x + if y.2.dpu = d then (demandOf r y.1).amount x else 0 := by
  by_cases hd : y.2.dpu = d <;> simp [usedOn, List.filter_append, hd]

theorem usedOn_of_none {d : DpuId} (h : ∀ y ∈ placed, y.2.dpu ≠ d) (x : Resource) :
    usedOn r placed d x = 0 := by
  have hnone : (placed.filter fun y => decide (y.2.dpu = d)) = [] :=
    List.filter_eq_nil_iff.mpr fun y hy => by simp [h y hy]
  rw [usedOn, hnone]
  rfl

/-- A replica stands on a device of the topology that the evaluator lets its
service use. -/
def Stands (r : PlanRequest) (id : ServiceId) (replica : PlannedReplica) : Prop :=
  ∃ definition, findService r.services id = some definition
    ∧ ∃ dpu ∈ r.topology.dpus, dpu.id = replica.dpu ∧ dpu.domain = replica.domain
      ∧ dpu.attachment = replica.attachment
      ∧ (EligibilityEvaluator.evaluate dpu definition r.policy r.now).eligible = true
      ∧ (EligibilityEvaluator.evaluate dpu definition r.policy r.now).unknown = false

/-- What `remaining` holds for a device: nothing, while no replica is on it;
else what its record had free, less what the replicas on it take. -/
def Settled (r : PlanRequest) (placed : List (ServiceId × PlannedReplica)) (d : DpuId) :
    Option ResourceVector → Prop
  | none => ∀ y ∈ placed, y.2.dpu ≠ d
  | some left => ∃ dpu ∈ r.topology.dpus, dpu.id = d
      ∧ ∀ x, left.amount x + usedOn r placed d x + dpu.allocated.amount x = dpu.capacity.amount x

/-- The maps of the placement loop, in terms of the replicas placed. -/
structure Booked (r : PlanRequest) (p : Placement) (placed : List (ServiceId × PlannedReplica)) :
    Prop where
  stands : ∀ y ∈ placed, Stands r y.1 y.2
  onDpu : ∀ d, (p.replicasOnDpu d).toNat = placed.countP fun y => decide (y.2.dpu = d)
  dpuCap : ∀ d, p.replicasOnDpu d ≤ maxPerDpu r
  inDomain : ∀ cap, r.group.antiAffinity.maxReplicasPerDomain = some cap → ∀ m,
    (p.domainReplicas m).toNat = placed.countP (fun y => decide (y.2.domain = m))
      ∧ p.domainReplicas m ≤ cap
  resources : ∀ d, Settled r placed d (p.remaining d)
  owners : ∀ y ∈ placed, ∀ scope, scopeOf r.services y.1 = some scope →
    p.scopeOwner y.2.dpu = some scope
  granted : ∀ d scope, initialOwners r d = some scope → p.scopeOwner d = some scope

theorem countP_concat {α κ : Type} [DecidableEq κ] (f : α → κ) (l : List α) (a : α) (k : κ) :
    (l ++ [a]).countP (fun x => decide (f x = k))
      = l.countP (fun x => decide (f x = k)) + if f a = k then 1 else 0 := by
  by_cases h : f a = k <;> simp [h]

theorem bump_toNat {κ : Type} [DecidableEq κ] {f : κ → UInt32} {k : κ} {cap : UInt32}
    (h : f k < cap) (j : κ) :
    (bump f k j).toNat = (f j).toNat + (if k = j then 1 else 0) ∧ (f j ≤ cap → bump f k j ≤ cap) := by
  unfold bump
  by_cases hj : j = k
  · subst hj
    have hlt := UInt32.lt_iff_toNat_lt.mp h
    have hmax := cap.toNat_lt
    have hsucc : (f j + 1).toNat = (f j).toNat + 1 := by
      rw [UInt32.toNat_add, show (1 : UInt32).toNat = 1 from rfl]
      omega
    rw [if_pos rfl, if_pos rfl, hsucc]
    refine ⟨rfl, fun _ => UInt32.le_iff_toNat_le.mpr ?_⟩
    rw [hsucc]
    omega
  · rw [if_neg hj, if_neg (fun hk => hj hk.symm)]
    exact ⟨rfl, id⟩

/-- The replica that the loop adds. -/
def Placing.replica (s : Placing) (c : Candidate) : PlannedReplica :=
  { index := ⟨s.plan.placedReplicas.toUInt64⟩
    dpu := c.dpu.id
    attachment := c.dpu.attachment
    domain := c.dpu.domain
    score := c.score
    eligibilityDigest := c.evidence }

theorem Placing.accepts_iff :
    s.accepts r service dpu = true ↔
      s.plan.placedReplicas < s.plan.desiredReplicas
        ∧ s.placement.replicasOnDpu dpu.id < maxPerDpu r
        ∧ (∀ cap, r.group.antiAffinity.maxReplicasPerDomain = some cap →
            s.placement.domainReplicas dpu.domain < cap)
        ∧ (r.group.antiAffinity.requireDistinctDomains = true → s.domainsUsed dpu.domain = 0)
        ∧ (s.placement.free dpu).covers service.resources = true := by
  have hzero : ∀ n : UInt32, ¬ 0 < n ↔ n = 0 := by
    intro n
    rw [UInt32.lt_iff_toNat_lt, ← UInt32.toNat_inj]
    show ¬ 0 < n.toNat ↔ n.toNat = 0
    omega
  simp only [Placing.accepts, Bool.and_eq_true, decide_eq_true_eq, and_assoc]
  refine and_congr_right fun _ => and_congr_right fun _ => and_congr ?_ (and_congr ?_ Iff.rfl)
  · cases r.group.antiAffinity.maxReplicasPerDomain with
    | none => simp
    | some cap => simp
  · cases r.group.antiAffinity.requireDistinctDomains with
    | false => simp
    | true => simp [hzero]

theorem Booked.free (h : Booked r p placed) (hdpu : dpu ∈ r.topology.dpus)
    (heligible : (EligibilityEvaluator.evaluate dpu service r.policy r.now).eligible = true) :
    Settled r placed dpu.id (some (p.free dpu)) := by
  have hbooked := h.resources dpu.id
  unfold Placement.free
  cases hleft : p.remaining dpu.id with
  | some left =>
    rw [hleft] at hbooked
    exact hbooked
  | none =>
    -- the device is used for the first time
    rw [hleft] at hbooked
    obtain ⟨free, hfree⟩ := EligibilityEvaluator.eligible_headroom heligible
    refine ⟨dpu, hdpu, rfl, fun x => ?_⟩
    rw [usedOn_of_none hbooked, hfree]
    exact ResourceVector.headroom_ok hfree x

/-- Placing a replica takes no device from its scope. -/
theorem Placing.step_owner (howner : ∀ scope owner, service.isolation.exclusiveScope = some scope →
      s.placement.scopeOwner c.dpu.id = some owner → owner = scope)
    (haccepts : s.accepts r service c.dpu = true) {d : DpuId} {scope : ExclusiveScopeId}
    (hbefore : s.placement.scopeOwner d = some scope) :
    (Placing.step r service s c).placement.scopeOwner d = some scope := by
  unfold Placing.step
  rw [if_neg (by rw [haccepts]; decide)]
  dsimp only
  cases hexclusive : service.isolation.exclusiveScope with
  | none => exact hbefore
  | some mine =>
    simp only
    split
    · next hsame =>
      rw [hsame] at hbefore
      exact congrArg some (howner mine scope hexclusive hbefore).symm
    · exact hbefore

/-- **Placing one replica keeps the books.** -/
theorem Booked.take (h : Booked r s.placement placed)
    (hservice : findService r.services id = some service) (hdpu : c.dpu ∈ r.topology.dpus)
    (heligible : (EligibilityEvaluator.evaluate c.dpu service r.policy r.now).eligible = true)
    (hknown : (EligibilityEvaluator.evaluate c.dpu service r.policy r.now).unknown = false)
    (howner : ∀ scope owner, service.isolation.exclusiveScope = some scope →
      s.placement.scopeOwner c.dpu.id = some owner → owner = scope)
    (haccepts : s.accepts r service c.dpu = true) :
    Booked r (Placing.step r service s c).placement (placed ++ [(id, s.replica c)]) := by
  obtain ⟨-, hcap, hdomain, -, hcovers⟩ := Placing.accepts_iff.mp haccepts
  have hscope : scopeOf r.services id = service.isolation.exclusiveScope := by
    rw [scopeOf, hservice]
    rfl
  have hdemand : demandOf r id = service.resources := by
    rw [demandOf, hservice]
    rfl
  obtain ⟨after, hafter⟩ := ResourceVector.subtract_covered hcovers
  have hkeeps := fun d scope (hbefore : s.placement.scopeOwner d = some scope) =>
    Placing.step_owner howner haccepts hbefore
  unfold Placing.step at hkeeps ⊢
  rw [if_neg (by rw [haccepts]; decide)] at hkeeps ⊢
  simp only [hafter] at hkeeps ⊢
  refine ⟨fun y hy => ?_, fun d => ?_, fun d => ?_, fun cap hsome m => ?_, fun d => ?_, ?_, ?_⟩
  · rcases List.mem_append.mp hy with hy | hy
    · exact h.stands y hy
    · rw [List.mem_singleton.mp hy]
      exact ⟨service, hservice, c.dpu, hdpu, rfl, rfl, rfl, heligible, hknown⟩
  · show (bump s.placement.replicasOnDpu c.dpu.id d).toNat = _
    rw [(bump_toNat hcap d).1, h.onDpu d]
    exact (countP_concat (fun y => y.2.dpu) placed (id, s.replica c) d).symm
  · exact (bump_toNat hcap d).2 (h.dpuCap d)
  · obtain ⟨hcount, hle⟩ := h.inDomain cap hsome m
    have hbump := bump_toNat (hdomain cap hsome) m
    refine ⟨?_, hbump.2 hle⟩
    show (bump s.placement.domainReplicas c.dpu.domain m).toNat = _
    rw [hbump.1, hcount]
    exact (countP_concat (fun y => y.2.domain) placed (id, s.replica c) m).symm
  · -- what was free is now the remainder and the new demand
    show Settled r _ d (if d = c.dpu.id then some after else s.placement.remaining d)
    by_cases hd : d = c.dpu.id
    · obtain ⟨dpu, hmem, hid, hamount⟩ := h.free hdpu heligible
      subst hd
      rw [if_pos rfl]
      refine ⟨dpu, hmem, hid, fun x => ?_⟩
      have hfree := hamount x
      have hsub := ResourceVector.subtract_ok hafter x
      rw [usedOn_concat, if_pos (show (id, s.replica c).2.dpu = c.dpu.id from rfl), hdemand]
      omega
    · rw [if_neg hd]
      have hother := h.resources d
      cases hleft : s.placement.remaining d with
      | none =>
        rw [hleft] at hother
        intro y hy
        rcases List.mem_append.mp hy with hy | hy
        · exact hother y hy
        · rw [List.mem_singleton.mp hy]
          exact fun heq => hd heq.symm
      | some left =>
        rw [hleft] at hother
        obtain ⟨dpu, hmem, hid, hamount⟩ := hother
        refine ⟨dpu, hmem, hid, fun x => ?_⟩
        rw [usedOn_concat, if_neg (fun heq => hd heq.symm)]
        exact hamount x
  · intro y hy scope hy'
    rcases List.mem_append.mp hy with hy | hy
    · exact hkeeps _ _ (h.owners y hy scope hy')
    rw [List.mem_singleton.mp hy] at hy' ⊢
    rw [hscope] at hy'
    rw [hy']
    exact if_pos rfl
  · exact fun d scope hgrant => hkeeps d scope (h.granted d scope hgrant)

/-! ## §3. One service. -/

/-- The replicas of a service plan: as many as it says, with consecutive
indices, and in distinct domains where the group asks for it. -/
structure ServicePlan.Kept (r : PlanRequest) (sp : ServicePlan) : Prop where
  placed : sp.placedReplicas.toNat = sp.replicas.length
  indices : sp.replicas.map PlannedReplica.index
    = (List.range sp.replicas.length).map fun n => ⟨UInt64.ofNat n⟩
  domains : r.group.antiAffinity.requireDistinctDomains = true →
    (sp.replicas.map PlannedReplica.domain).Nodup

/-- The replica loop of a service, after some of its candidates. -/
structure Filling (r : PlanRequest) (service : ServiceDefinition) (id : ServiceId)
    (p : Placement) (desired : UInt32) (done : List Candidate) (s : Placing) : Prop where
  services : s.placement.services = p.services
  infeasible : s.placement.infeasible = p.infeasible
  name : s.plan.service = id
  desired : s.plan.desiredReplicas = desired
  atMost : s.plan.placedReplicas ≤ s.plan.desiredReplicas
  booked : Booked r s.placement
    (placedBy p.services ++ s.plan.replicas.map fun replica => (id, replica))
  kept : s.plan.Kept r
  once : (s.plan.replicas.map PlannedReplica.dpu).Sublist (done.map fun c => c.dpu.id)
  used : r.group.antiAffinity.requireDistinctDomains = true →
    ∀ replica ∈ s.plan.replicas, s.domainsUsed replica.domain ≠ 0
  owner : ∀ scope, service.isolation.exclusiveScope = some scope → ∀ d,
    s.placement.scopeOwner d = p.scopeOwner d ∨ s.placement.scopeOwner d = some scope

theorem Placing.step_plan (haccepts : s.accepts r service c.dpu = true) :
    (Placing.step r service s c).plan = { s.plan with
        replicas := s.plan.replicas ++ [s.replica c]
        placedReplicas := s.plan.placedReplicas + 1 }
      ∧ (Placing.step r service s c).domainsUsed = bump s.domainsUsed c.dpu.domain := by
  unfold Placing.step
  rw [if_neg (by rw [haccepts]; decide)]
  exact ⟨rfl, rfl⟩

theorem ServicePlan.Kept.take (h : s.plan.Kept r)
    (hused : r.group.antiAffinity.requireDistinctDomains = true →
      ∀ replica ∈ s.plan.replicas, s.domainsUsed replica.domain ≠ 0)
    (haccepts : s.accepts r service c.dpu = true) : (Placing.step r service s c).plan.Kept r := by
  obtain ⟨hlt, -, -, hdistinct, -⟩ := Placing.accepts_iff.mp haccepts
  have hbound := UInt32.lt_iff_toNat_lt.mp hlt
  have hmax := s.plan.desiredReplicas.toNat_lt
  rw [(Placing.step_plan haccepts).1]
  refine ⟨?_, ?_, fun hrequired => ?_⟩
  · show (s.plan.placedReplicas + 1).toNat = (s.plan.replicas ++ [s.replica c]).length
    rw [UInt32.toNat_add, show (1 : UInt32).toNat = 1 from rfl, List.length_append, ← h.placed,
      List.length_singleton]
    omega
  · show (s.plan.replicas ++ [s.replica c]).map PlannedReplica.index = _
    rw [List.map_append, h.indices, List.length_append, List.length_singleton, List.range_succ,
      List.map_append, ← h.placed]
    refine congrArg _ (congrArg (fun n => [(⟨n⟩ : ReplicaIndex)]) ?_)
    show s.plan.placedReplicas.toUInt64 = UInt64.ofNat s.plan.placedReplicas.toNat
    rw [← UInt64.toNat_inj, UInt32.toNat_toUInt64, UInt64.toNat_ofNat']
    omega
  · show ((s.plan.replicas ++ [s.replica c]).map PlannedReplica.domain).Nodup
    rw [List.map_append, List.map_singleton, List.nodup_append_comm]
    refine List.nodup_cons.mpr ⟨fun hmem => ?_, h.domains hrequired⟩
    obtain ⟨replica, hreplica, hdomain⟩ := List.mem_map.mp hmem
    refine hused hrequired replica hreplica ?_
    rw [hdomain]
    exact hdistinct hrequired

theorem Filling.step {desired : UInt32} {done : List Candidate}
    (h : Filling r service id p desired done s) (hservice : findService r.services id = some service)
    (hdpu : c.dpu ∈ r.topology.dpus) (hnone : refuseCandidate r p service c.dpu = none) :
    Filling r service id p desired (done ++ [c]) (Placing.step r service s c) := by
  by_cases haccepts : s.accepts r service c.dpu = true
  · obtain ⟨heligible, hknown, howner⟩ := refuseCandidate_none hnone
    obtain ⟨hlt, -, -, hdistinct, -⟩ := Placing.accepts_iff.mp haccepts
    obtain ⟨hplan, hdomains⟩ := Placing.step_plan haccepts
    have hbound := UInt32.lt_iff_toNat_lt.mp hlt
    have hmax := s.plan.desiredReplicas.toNat_lt
    have hbooked := h.booked.take hservice hdpu heligible hknown
      (fun scope owner hscope hmine => by
        -- the owner is the one at the start of the service, or the service's own scope
        rcases h.owner scope hscope c.dpu.id with hsame | hown
        · exact howner scope owner hscope (hsame ▸ hmine)
        · exact (Option.some.inj (hmine.symm.trans hown))) haccepts
    have hscopes : ∀ scope, service.isolation.exclusiveScope = some scope → ∀ d,
        (Placing.step r service s c).placement.scopeOwner d = p.scopeOwner d
          ∨ (Placing.step r service s c).placement.scopeOwner d = some scope := by
      intro scope hscope d
      unfold Placing.step
      rw [if_neg (by rw [haccepts]; decide)]
      simp only [hscope]
      split
      · exact .inr rfl
      · exact h.owner scope hscope d
    have hrest : (Placing.step r service s c).placement.services = s.placement.services
        ∧ (Placing.step r service s c).placement.infeasible = s.placement.infeasible := by
      unfold Placing.step
      rw [if_neg (by rw [haccepts]; decide)]
      exact ⟨rfl, rfl⟩
    refine ⟨hrest.1.trans h.services, hrest.2.trans h.infeasible, ?_, ?_, ?_, ?_,
      h.kept.take h.used haccepts, ?_, ?_, hscopes⟩
    · rw [hplan]
      exact h.name
    · rw [hplan]
      exact h.desired
    · rw [hplan]
      refine UInt32.le_iff_toNat_le.mpr ?_
      show (s.plan.placedReplicas + 1).toNat ≤ s.plan.desiredReplicas.toNat
      rw [UInt32.toNat_add, show (1 : UInt32).toNat = 1 from rfl]
      omega
    · rw [hplan]
      show Booked r _ (placedBy p.services
        ++ (s.plan.replicas ++ [s.replica c]).map fun replica => (id, replica))
      rw [List.map_append, List.map_singleton, ← List.append_assoc]
      exact hbooked
    · rw [hplan]
      show ((s.plan.replicas ++ [s.replica c]).map PlannedReplica.dpu).Sublist _
      rw [List.map_append, List.map_append]
      exact h.once.append (List.Sublist.refl _)
    · rw [hplan, hdomains]
      intro hrequired replica hreplica
      have hfresh := hdistinct hrequired
      unfold bump
      rcases List.mem_append.mp hreplica with hreplica | hreplica
      · have hpositive := h.used hrequired replica hreplica
        split
        · next hsame =>
          rw [hsame] at hpositive
          exact absurd hfresh hpositive
        · exact hpositive
      · rw [List.mem_singleton.mp hreplica, if_pos (show (s.replica c).domain = c.dpu.domain from rfl)]
        show s.domainsUsed c.dpu.domain + 1 ≠ 0
        rw [hfresh]
        decide
  · have hsame : Placing.step r service s c = s := by
      unfold Placing.step
      rw [if_pos (by simpa using haccepts)]
    rw [hsame]
    exact { h with once := h.once.trans (by simp) }

/-! ## §4. The loop over the services. -/

/-- The complete record of one service: its plan, and that no device has two
of its replicas if the topology lists every device once. -/
structure ServicePlan.Laid (r : PlanRequest) (set : ServiceSet) (sp : ServicePlan) : Prop where
  kept : sp.Kept r
  desired : sp.desiredReplicas = set.desiredOf sp.service
  atMost : sp.placedReplicas ≤ sp.desiredReplicas
  once : (r.topology.dpus.map DpuRecord.id).Nodup → (sp.replicas.map PlannedReplica.dpu).Nodup

/-- The placement loop, after some of the services. -/
structure Laid (r : PlanRequest) (set : ServiceSet) (done : List ServiceId) (p : Placement) :
    Prop where
  booked : Booked r p (placedBy p.services)
  services : p.services.map ServicePlan.service = done
  each : ∀ sp ∈ p.services, sp.Laid r set
  complete : p.infeasible = none → ∀ sp ∈ p.services, sp.placedReplicas = sp.desiredReplicas

/-- The service plan of one turn, and the placement after it. -/
theorem placing_fills (desired : UInt32) (hbooked : Booked r p (placedBy p.services))
    (hservice : findService r.services id = some service) (sink : ExplanationSink)
    {candidates : List Candidate} (hcandidates : ∀ c ∈ candidates, c.dpu ∈ r.topology.dpus
      ∧ refuseCandidate r p service c.dpu = none) :
    Filling r service id p desired candidates (candidates.foldl (Placing.step r service)
      { placement := { p with sink }
        plan := { service := service.id, version := service.version,
                  desiredReplicas := desired, placedReplicas := 0 } }) := by
  refine foldl_prefix (P := Filling r service id p desired) ?_ ?_
  · intro c hc done s h
    exact h.step hservice (hcandidates c hc).1 (hcandidates c hc).2
  refine ⟨rfl, rfl, findService_id hservice, rfl, UInt32.zero_le, ?_, ⟨rfl, rfl, ?_⟩, ?_, ?_, ?_⟩
  · rw [List.map_nil, List.append_nil]
    exact { hbooked with }
  · exact fun _ => List.nodup_nil
  · exact List.nil_sublist _
  · exact fun _ _ hmem => absurd hmem (by simp)
  · exact fun _ _ _ => .inl rfl

/-- **One service is laid.** -/
theorem Laid.step {set : ServiceSet} {done : List ServiceId} (h : Laid r set done p)
    (hservice : findService r.services id = some service) :
    Laid r set (done ++ [id]) (Placement.step r weights (orderedDevices r) set p id) := by
  obtain ⟨hsub, hnone⟩ := candidates_found r weights p service (orderedDevices r) p.sink
  unfold Placement.step
  rw [hservice]
  simp only
  generalize (orderedDevices r).foldl (candidateStep r weights p service) (p.sink, []) = found
    at hsub hnone ⊢
  have hsort := List.perm_insertionSort Candidate.before found.2
  have hdevices := List.perm_insertionSort (fun a b : DpuRecord => a.id ≤ b.id) r.topology.dpus
  have hmine : ∀ c ∈ found.2.insertionSort Candidate.before, c.dpu ∈ r.topology.dpus
      ∧ refuseCandidate r p service c.dpu = none := by
    intro c hc
    have hc' := hsort.mem_iff.mp hc
    exact ⟨hdevices.mem_iff.mp (hsub.subset (List.mem_map_of_mem hc')), hnone c hc'⟩
  have hfills := placing_fills (set.desiredOf id) h.booked hservice found.1 hmine
  -- distinct devices give distinct candidates, and each is taken once
  have honce : (r.topology.dpus.map DpuRecord.id).Nodup →
      ((found.2.insertionSort Candidate.before).map fun c => c.dpu.id).Nodup := by
    intro hnodup
    refine ((hsort.map _).nodup_iff).mpr ?_
    have hids := ((hdevices.map DpuRecord.id).nodup_iff).mpr hnodup
    have hfound := (hsub.map DpuRecord.id).nodup hids
    rwa [List.map_map] at hfound
  generalize (found.2.insertionSort Candidate.before).foldl (Placing.step r service) _ = s
    at hfills ⊢
  have hlaid : s.plan.Laid r set :=
    ⟨hfills.kept, by rw [hfills.desired, hfills.name], hfills.atMost,
      fun hnodup => hfills.once.nodup (honce hnodup)⟩
  have hbooked : Booked r s.placement (placedBy (s.placement.services ++ [s.plan])) := by
    rw [placedBy_concat, hfills.services, hfills.name]
    exact hfills.booked
  have hservices : (s.placement.services ++ [s.plan]).map ServicePlan.service = done ++ [id] := by
    rw [List.map_append, hfills.services, h.services, List.map_singleton, hfills.name]
  have heach : ∀ sp ∈ s.placement.services ++ [s.plan], sp.Laid r set := by
    intro sp hsp
    rcases List.mem_append.mp hsp with hsp | hsp
    · exact h.each sp (hfills.services ▸ hsp)
    · rw [List.mem_singleton.mp hsp]
      exact hlaid
  split
  · exact ⟨{ hbooked with }, hservices, heach, fun hnone => absurd hnone (by simp)⟩
  next hfull =>
  refine ⟨{ hbooked with }, hservices, heach, fun hfeasible sp hsp => ?_⟩
  rcases List.mem_append.mp hsp with hsp | hsp
  · exact h.complete (hfills.infeasible ▸ hfeasible) sp (hfills.services ▸ hsp)
  · rw [List.mem_singleton.mp hsp]
    exact UInt32.le_antisymm hfills.atMost (UInt32.not_lt.mp hfull)

/-- **The whole placement loop.** -/
theorem placeServices_laid (weights : PlacementWeights) {set : ServiceSet} {order : List ServiceId}
    (hfound : ∀ id ∈ order, ∃ definition, findService r.services id = some definition)
    (sink : ExplanationSink) : Laid r set order (placeServices r weights set sink order) := by
  refine foldl_prefix (P := Laid r set) ?_ ?_
  · intro id hid done p h
    obtain ⟨definition, hdefinition⟩ := hfound id hid
    exact h.step hdefinition
  · refine ⟨⟨?_, fun _ => rfl, fun _ => UInt32.zero_le, fun cap _ m => ⟨rfl, UInt32.zero_le⟩, ?_,
      ?_, fun _ _ hgrant => hgrant⟩, rfl, ?_, ?_⟩
    all_goals simp [placedBy, Settled]

end Plan

end DpuFabric
