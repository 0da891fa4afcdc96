/-
  Engine.SingleService — WHAT THE PLANNER CAN PLACE OF ONE SERVICE.

  The replica loop looks at each candidate once, so it puts at most one
  replica of a service on a device, whatever the group and the policy allow.
  Up to that it is complete: the loop is a scan with a quota per isolation
  domain (`Lib.spread`), and an intent of one service is feasible exactly if its
  replicas can be spread over distinct devices (`single_service_feasible_iff`).
-/
import Mathlib.Data.List.TakeWhile
import DpuFabric.Lib.Spread
import DpuFabric.Engine.Staging
import DpuFabric.Engine.Suits

namespace DpuFabric

open Lib

/-! ## §1. The candidates of a service. -/

variable {r : PlanRequest} {weights : PlacementWeights} {service : ServiceDefinition}

/-- A device as a candidate. -/
def candidateOf (r : PlanRequest) (weights : PlacementWeights) (p : Placement)
    (service : ServiceDefinition) (dpu : DpuRecord) : Candidate :=
  { dpu
    evidence := (EligibilityEvaluator.evaluate dpu service r.policy r.now).evidenceDigest
    score := scorePlacement dpu service (p.replicasOnDpu dpu.id)
      (p.replicasInDomain dpu.domain) weights }

/-- The candidate loop keeps the devices with nothing against them. -/
theorem candidates_eq (r : PlanRequest) (weights : PlacementWeights) (p : Placement)
    (service : ServiceDefinition) (devices : List DpuRecord) (sink : ExplanationSink) :
    (devices.foldl (candidateStep r weights p service) (sink, [])).2
      = (devices.filter fun d => (refuseCandidate r p service d).isNone).map
          (candidateOf r weights p service) := by
  refine foldl_prefix (P := fun done (acc : ExplanationSink × List Candidate) =>
    acc.2 = (done.filter fun d => (refuseCandidate r p service d).isNone).map
      (candidateOf r weights p service)) ?_ rfl
  intro d _ done acc h
  unfold candidateStep
  rw [List.filter_append, List.map_append]
  split
  · next hrefused => simp [hrefused, h]
  · next hnone => simp [hnone, h, candidateOf]

variable {dpu : DpuRecord} {desired : UInt32} {taken seen : List DpuRecord} {s : Placing}

theorem EligibilityEvaluator.eligible_known {policy : PolicyState} {now : LogicalInstant}
    (h : (evaluate dpu service policy now).eligible = true) :
    (evaluate dpu service policy now).unknown = false := by
  unfold evaluate at h ⊢
  simp only [Bool.and_eq_true, Bool.not_eq_true'] at h
  exact h.2

/-- The devices that may take a replica of the service. -/
structure Candidacy (r : PlanRequest) (service : ServiceDefinition)
    (owner : DpuId → Option ExclusiveScopeId) (dpu : DpuRecord) : Prop where
  suits : Suits dpu service r.policy r.now
  owned : ∀ scope other, service.isolation.exclusiveScope = some scope →
    owner dpu.id = some other → other = scope

theorem refuseCandidate_isNone_iff {p : Placement} :
    (refuseCandidate r p service dpu).isNone = true ↔ Candidacy r service p.scopeOwner dpu := by
  rw [Option.isNone_iff_eq_none]
  constructor
  · intro h
    obtain ⟨heligible, -, howned⟩ := refuseCandidate_none h
    exact ⟨EligibilityEvaluator.eligible_iff.mp heligible, howned⟩
  · rintro ⟨hsuits, howned⟩
    have heligible := EligibilityEvaluator.eligible_iff.mpr hsuits
    have hknown := EligibilityEvaluator.eligible_known heligible
    unfold refuseCandidate
    simp only [heligible, hknown, Bool.not_true, Bool.false_eq_true, if_false]
    split
    · next scope owner hscope howner =>
      rw [if_neg (not_not.mpr (howned scope owner hscope howner))]
    · rfl

/-! ## §2. The replica loop is a scan. -/

/-- Whether a domain with `n` replicas of the service takes another one. -/
def domainRoom (r : PlanRequest) (n : Nat) : Bool :=
  (match r.group.antiAffinity.maxReplicasPerDomain with
    | some cap => decide (n < cap.toNat)
    | none => true)
  && !(r.group.antiAffinity.requireDistinctDomains && decide (0 < n))

theorem domainRoom_iff {n : Nat} : domainRoom r n = true ↔
    (∀ cap, r.group.antiAffinity.maxReplicasPerDomain = some cap → n < cap.toNat)
      ∧ (r.group.antiAffinity.requireDistinctDomains = true → n = 0) := by
  unfold domainRoom
  rw [Bool.and_eq_true]
  refine and_congr ?_ ?_
  · cases r.group.antiAffinity.maxReplicasPerDomain with
    | none => simp
    | some cap => simp
  · cases r.group.antiAffinity.requireDistinctDomains with
    | false => simp
    | true => simp

theorem domainRoom_mono {m n : Nat} (hle : m ≤ n) (h : domainRoom r n = true) :
    domainRoom r m = true := by
  obtain ⟨hcap, hdistinct⟩ := domainRoom_iff.mp h
  refine domainRoom_iff.mpr ⟨fun cap hsome => ?_, fun hrequired => ?_⟩
  · exact hle.trans_lt (hcap cap hsome)
  · have hzero := hdistinct hrequired
    omega

/-- The replica loop of the only service, after some candidates: `taken` are
the devices with a replica, and devices not seen are untouched. -/
structure Scanned (desired : UInt32) (seen taken : List DpuRecord) (s : Placing) : Prop where
  placed : s.plan.placedReplicas.toNat = taken.length
  wanted : s.plan.desiredReplicas = desired
  domains : ∀ m, (s.placement.domainReplicas m).toNat = ofClass DpuRecord.domain taken m
  used : ∀ m, (s.domainsUsed m).toNat = ofClass DpuRecord.domain taken m
  untouched : ∀ d, d ∉ seen.map DpuRecord.id →
    s.placement.replicasOnDpu d = 0 ∧ s.placement.remaining d = none

theorem bump_ofClass {f : IsolationDomainId → UInt32}
    (h : ∀ m, (f m).toNat = ofClass DpuRecord.domain taken m) (hroom : taken.length < desired.toNat)
    (m : IsolationDomainId) :
    (bump f dpu.domain m).toNat = ofClass DpuRecord.domain (taken ++ [dpu]) m := by
  have hbelow : f dpu.domain < desired := by
    rw [UInt32.lt_iff_toNat_lt, h]
    exact (ofClass_le_length taken dpu.domain).trans_lt hroom
  rw [(bump_toNat hbelow m).1, h, ofClass_concat]

/-- A device that is seen for the first time is taken exactly if something is
still wanted and its domain has room. -/
theorem Scanned.accepts_iff (h : Scanned desired seen taken s)
    (hnew : dpu.id ∉ seen.map DpuRecord.id) (hsuits : Suits dpu service r.policy r.now)
    (hcap : desired ≠ 0 → 0 < maxPerDpu r) :
    s.accepts r service dpu = true ↔
      taken.length < desired.toNat ∧ domainRoom r (ofClass DpuRecord.domain taken dpu.domain) = true := by
  obtain ⟨hon, hremaining⟩ := h.untouched dpu.id hnew
  obtain ⟨free, hfree, hcovers⟩ := EligibilityEvaluator.headroom_covers.mpr hsuits.room
  have hleft : s.placement.free dpu = free := by
    unfold Placement.free
    rw [hremaining, hfree]
  have hwanted : s.plan.placedReplicas < s.plan.desiredReplicas ↔ taken.length < desired.toNat := by
    rw [UInt32.lt_iff_toNat_lt, h.placed, h.wanted]
  rw [Placing.accepts_iff, hleft, hon, domainRoom_iff, hwanted]
  simp only [UInt32.lt_iff_toNat_lt, h.domains, ← UInt32.toNat_inj, h.used]
  constructor
  · rintro ⟨hmore, -, hdomain, hdistinct, -⟩
    exact ⟨hmore, hdomain, hdistinct⟩
  rintro ⟨hmore, hdomain, hdistinct⟩
  have hsome : desired ≠ 0 := by
    rintro rfl
    simp at hmore
  exact ⟨hmore, UInt32.lt_iff_toNat_lt.mp (hcap hsome), hdomain, hdistinct, hcovers⟩

theorem Scanned.step (h : Scanned desired seen taken s) {c : Candidate}
    (hnew : c.dpu.id ∉ seen.map DpuRecord.id) (hsuits : Suits c.dpu service r.policy r.now)
    (hcap : desired ≠ 0 → 0 < maxPerDpu r) :
    Scanned desired (seen ++ [c.dpu])
      (spreadStep (domainRoom r) DpuRecord.domain desired.toNat taken c.dpu)
      (Placing.step r service s c) := by
  have hiff := h.accepts_iff hnew hsuits hcap
  have hunseen : ∀ d, d ∉ (seen ++ [c.dpu]).map DpuRecord.id →
      d ∉ seen.map DpuRecord.id ∧ d ≠ c.dpu.id := by
    intro d hd
    simpa [not_or] using hd
  unfold spreadStep
  by_cases haccepts : s.accepts r service c.dpu = true
  · obtain ⟨hmore, hroom⟩ := hiff.mp haccepts
    rw [if_pos ⟨hmore, hroom⟩]
    unfold Placing.step
    rw [if_neg (by simp [haccepts])]
    refine ⟨?_, h.wanted, bump_ofClass h.domains hmore, bump_ofClass h.used hmore, fun d hd => ?_⟩
    · have hsmall := desired.toNat_lt
      rw [List.length_append, List.length_singleton, ← h.placed, UInt32.toNat_add]
      rw [← h.placed] at hmore
      exact Nat.mod_eq_of_lt (by simp only [UInt32.reduceToNat]; omega)
    · obtain ⟨hold, hne⟩ := hunseen d hd
      obtain ⟨hon, hremaining⟩ := h.untouched d hold
      refine ⟨by simp [bump, hne, hon], ?_⟩
      dsimp only
      cases (s.placement.free c.dpu).subtract service.resources with
      | ok after => exact (if_neg hne).trans hremaining
      | error status => exact hremaining
  · rw [if_neg fun hboth => haccepts (hiff.mpr hboth)]
    unfold Placing.step
    rw [if_pos (by simp [haccepts])]
    exact ⟨h.placed, h.wanted, h.domains, h.used, fun d hd => h.untouched d (hunseen d hd).1⟩

theorem Scanned.run {candidates : List Candidate} (h : Scanned desired seen taken s)
    (hnodup : (seen.map DpuRecord.id ++ candidates.map fun c => c.dpu.id).Nodup)
    (hsuits : ∀ c ∈ candidates, Suits c.dpu service r.policy r.now)
    (hcap : desired ≠ 0 → 0 < maxPerDpu r) :
    Scanned desired (seen ++ candidates.map Candidate.dpu)
      (spread (domainRoom r) DpuRecord.domain desired.toNat (candidates.map Candidate.dpu) taken)
      (candidates.foldl (Placing.step r service) s) := by
  induction candidates generalizing seen taken s with
  | nil => simpa [spread] using h
  | cons c candidates ih =>
    have hnext := h.step (notMem_front hnodup) (hsuits c List.mem_cons_self) hcap
    have hrest := ih hnext (by simpa using hnodup)
      fun c' hc' => hsuits c' (List.mem_cons_of_mem _ hc')
    rwa [List.append_assoc, List.singleton_append] at hrest

/-! ## §3. Assignments. -/

/-- The replicas of a service can stand on the chosen devices, one replica for
each time a device is listed. -/
structure Assignable (r : PlanRequest) (service : ServiceDefinition) (desired : Nat)
    (chosen : List DpuRecord) : Prop where
  all : chosen.length = desired
  devices : ∀ d ∈ chosen, d ∈ r.topology.dpus
  eligible : ∀ d ∈ chosen,
    (EligibilityEvaluator.evaluate d service r.policy r.now).eligible = true
  owned : ∀ d ∈ chosen, ∀ scope owner, service.isolation.exclusiveScope = some scope →
    initialOwners r d.id = some owner → owner = scope
  perDpu : ∀ d, ofClass DpuRecord.id chosen d
    ≤ min r.group.antiAffinity.maxReplicasPerDpu.toNat r.policy.maxReplicasPerDpuCeiling.toNat
  perDomain : ∀ cap, r.group.antiAffinity.maxReplicasPerDomain = some cap →
    ∀ m, ofClass DpuRecord.domain chosen m ≤ cap.toNat
  distinct : r.group.antiAffinity.requireDistinctDomains = true →
    (chosen.map DpuRecord.domain).Nodup
  demand : ∀ d ∈ chosen, ∀ x,
    d.allocated.amount x + ofClass DpuRecord.id chosen d.id * service.resources.amount x
      ≤ d.capacity.amount x

theorem count_map_eq_ofClass {α κ : Type} [DecidableEq κ] (cls : α → κ) (l : List α) (k : κ) :
    (l.map cls).count k = ofClass cls l k := by
  unfold ofClass
  rw [List.count_eq_countP, List.countP_map]
  rfl

theorem nodup_iff_ofClass_le_one {α κ : Type} [DecidableEq κ] {cls : α → κ} {l : List α} :
    (l.map cls).Nodup ↔ ∀ k, ofClass cls l k ≤ 1 := by
  rw [List.nodup_iff_count_le_one]
  simp only [count_map_eq_ofClass]

theorem keepsQuota_iff {chosen : List DpuRecord} :
    KeepsQuota (domainRoom r) DpuRecord.domain chosen ↔
      (∀ cap, r.group.antiAffinity.maxReplicasPerDomain = some cap →
        ∀ m, ofClass DpuRecord.domain chosen m ≤ cap.toNat)
      ∧ (r.group.antiAffinity.requireDistinctDomains = true →
        (chosen.map DpuRecord.domain).Nodup) := by
  simp only [KeepsQuota, domainRoom_iff, nodup_iff_ofClass_le_one]
  constructor
  · intro h
    refine ⟨fun cap hcap m => ?_, fun hrequired m => ?_⟩
    · by_contra hmore
      exact lt_irrefl _ ((h m cap.toNat (not_le.mp hmore)).1 cap hcap)
    · by_contra hmore
      exact absurd ((h m 1 (not_le.mp hmore)).2 hrequired) (by simp)
  · rintro ⟨hcap, hdistinct⟩ m n hn
    refine ⟨fun cap hsome => hn.trans_le (hcap cap hsome m), fun hrequired => ?_⟩
    have hone := hdistinct hrequired m
    omega

/-- An assignment that uses every device once is a selection of candidates
that keeps the quotas, and the other way round. -/
theorem assignable_once_iff {desired : Nat} {chosen : List DpuRecord}
    (hcap : desired ≠ 0 → 1 ≤ min r.group.antiAffinity.maxReplicasPerDpu.toNat
      r.policy.maxReplicasPerDpuCeiling.toNat) :
    (Assignable r service desired chosen ∧ (chosen.map DpuRecord.id).Nodup) ↔
      chosen.length = desired
        ∧ (∀ d ∈ chosen, d ∈ r.topology.dpus ∧ Candidacy r service (initialOwners r) d)
        ∧ KeepsQuota (domainRoom r) DpuRecord.domain chosen
        ∧ (chosen.map DpuRecord.id).Nodup := by
  constructor
  · rintro ⟨h, hnodup⟩
    refine ⟨h.all, fun d hd => ⟨h.devices d hd, ?_, h.owned d hd⟩,
      keepsQuota_iff.mpr ⟨h.perDomain, h.distinct⟩, hnodup⟩
    exact EligibilityEvaluator.eligible_iff.mp (h.eligible d hd)
  · rintro ⟨hall, hdevices, hquota, hnodup⟩
    obtain ⟨hperDomain, hdistinct⟩ := keepsQuota_iff.mp hquota
    have hone := nodup_iff_ofClass_le_one.mp hnodup
    refine ⟨⟨hall, fun d hd => (hdevices d hd).1, fun d hd => ?_, fun d hd => (hdevices d hd).2.owned,
      fun d => ?_, hperDomain, hdistinct, fun d hd x => ?_⟩, hnodup⟩
    · exact EligibilityEvaluator.eligible_iff.mpr (hdevices d hd).2.suits
    · by_cases hzero : desired = 0
      · obtain rfl := List.length_eq_zero_iff.mp (hall.trans hzero)
        exact Nat.zero_le _
      · exact (hone d).trans (hcap hzero)
    · have hroom := (hdevices d hd).2.suits.room x
      have hle : ofClass DpuRecord.id chosen d.id * service.resources.amount x
          ≤ 1 * service.resources.amount x := Nat.mul_le_mul_right _ (hone d.id)
      omega

/-! ## §4. A request for one service. -/

/-- A well-formed request for one service without dependencies, whose stages
fit. -/
structure ForOne (r : PlanRequest) (service : ServiceDefinition) (desired : UInt32) : Prop where
  valid : validateIntent r = none
  only : r.intent.services = [{ service := service.id, desiredReplicas := desired }]
  accepted : (intentServices r).rejected = false
  declared : findService r.services service.id = some service
  independent : ∀ e ∈ r.dependencies.edges, e.fromService ≠ service.id
  devices : r.topology.dpus.length ≤ r.bounds.maxDpus
  identified : (r.topology.dpus.map DpuRecord.id).Nodup
  stages : (desired.toNat + r.intent.staging.batchSize.toNat - 1)
    / r.intent.staging.batchSize.toNat ≤ r.bounds.maxStages

theorem ForOne.wanted (h : ForOne r service desired) :
    (intentServices r).desired = [(service.id, desired)] := by
  have hcollected := (intentServices_collected r).complete h.accepted
  rw [hcollected, h.only]
  rfl

theorem ForOne.services (h : ForOne r service desired) :
    (intentServices r).services = [service.id] := by
  rw [(intentServices_collected r).services, h.wanted]
  rfl

theorem ForOne.ordered (h : ForOne r service desired) :
    (r.dependencies.topologicalOrder (intentServices r).services).1 = .ok [service.id] := by
  rw [h.services]
  have hfree : ∀ a b, ¬ r.dependencies.WaitsFor [service.id] a b := by
    rintro a b ⟨ha, -, e, he, -, rfl, -⟩
    exact h.independent e he (List.mem_singleton.mp ha)
  have hacyclic : Acyclic (r.dependencies.WaitsFor [service.id]) := by
    intro a hcycle
    obtain ⟨b, hab, -⟩ := Relation.TransGen.head'_iff.mp hcycle
    exact hfree a b hab
  obtain ⟨order, horder⟩ :=
    (DependencyGraph.topologicalOrder_exists_iff r.dependencies [service.id]).mpr hacyclic
  obtain ⟨hnodup, hmem⟩ := DependencyGraph.topologicalOrder_ok _ _ horder
  have hperm : order.Perm [service.id] :=
    (List.perm_ext_iff_of_nodup hnodup (List.nodup_singleton _)).mpr hmem
  rw [horder, List.perm_singleton.mp hperm]

theorem ForOne.closed (h : ForOne r service desired) :
    (checkRequirements r (intentServices r)).rejected = false := by
  refine checkRequirements_rejected.mpr ⟨h.accepted, fun id hid required hrequired => ?_⟩
  rw [h.services] at hid
  obtain rfl := List.mem_singleton.mp hid
  -- an edge of the service would have to start at it
  have hnone : r.dependencies.outgoing service.id = [] := by
    refine List.eq_nil_iff_forall_not_mem.mpr fun e he => ?_
    have hfrom := List.mem_takeWhile_imp he
    exact h.independent e (List.mem_of_mem_drop ((List.takeWhile_sublist _).subset he))
      (of_decide_eq_true hfrom)
  unfold DependencyGraph.requirements at hrequired
  rw [hnone] at hrequired
  simp at hrequired

/-- The candidates of the only service, best first. -/
def candidatesForOne (r : PlanRequest) (weights : PlacementWeights) (service : ServiceDefinition)
    (p : Placement) : List Candidate :=
  (((orderedDevices r).filter fun d => (refuseCandidate r p service d).isNone).map
    (candidateOf r weights p service)).insertionSort Candidate.before

theorem candidatesForOne_devices (p : Placement) :
    ((candidatesForOne r weights service p).map Candidate.dpu).Perm
      (r.topology.dpus.filter fun d => (refuseCandidate r p service d).isNone) := by
  have hsorted := (List.perm_insertionSort Candidate.before
    (((orderedDevices r).filter fun d => (refuseCandidate r p service d).isNone).map
      (candidateOf r weights p service))).map Candidate.dpu
  have hdevices := (List.perm_insertionSort (fun a b : DpuRecord => a.id ≤ b.id)
    r.topology.dpus).filter fun d => (refuseCandidate r p service d).isNone
  refine hsorted.trans ?_
  rw [List.map_map]
  show (List.map id _).Perm _
  rw [List.map_id]
  exact hdevices

/-- The placement before the first service. -/
def emptyPlacement (r : PlanRequest) : Placement :=
  { sink := (checkRequirements r (intentServices r)).sink, scopeOwner := initialOwners r }

theorem ForOne.desiredOf (h : ForOne r service desired) :
    (checkRequirements r (intentServices r)).desiredOf service.id = desired := by
  unfold ServiceSet.desiredOf
  rw [(checkRequirements_keeps r _).2, h.wanted]
  simp

/-- The devices that get a replica of the only service. -/
def takenForOne (r : PlanRequest) (weights : PlacementWeights) (service : ServiceDefinition)
    (desired : UInt32) : List DpuRecord :=
  spread (domainRoom r) DpuRecord.domain desired.toNat
    ((candidatesForOne r weights service (emptyPlacement r)).map Candidate.dpu) []

theorem mem_candidatesForOne {d : DpuRecord} :
    d ∈ (candidatesForOne r weights service (emptyPlacement r)).map Candidate.dpu ↔
      d ∈ r.topology.dpus ∧ Candidacy r service (initialOwners r) d := by
  rw [(candidatesForOne_devices (emptyPlacement r)).mem_iff, List.mem_filter,
    refuseCandidate_isNone_iff]
  rfl

theorem candidatesForOne_nodup (weights : PlacementWeights) (service : ServiceDefinition)
    (hids : (r.topology.dpus.map DpuRecord.id).Nodup) :
    (((candidatesForOne r weights service (emptyPlacement r)).map Candidate.dpu).map
      DpuRecord.id).Nodup := by
  refine ((candidatesForOne_devices (emptyPlacement r)).map DpuRecord.id).nodup_iff.mpr ?_
  exact (List.filter_sublist.map DpuRecord.id).nodup hids

/-- The replica loop of the only service, at its end. -/
def placingForOne (r : PlanRequest) (weights : PlacementWeights) (service : ServiceDefinition)
    (desired : UInt32) : Placing :=
  (candidatesForOne r weights service (emptyPlacement r)).foldl (Placing.step r service)
    { placement := { emptyPlacement r with
        sink := ((orderedDevices r).foldl (candidateStep r weights (emptyPlacement r) service)
          ((emptyPlacement r).sink, [])).1 }
      plan := { service := service.id, version := service.version,
                desiredReplicas := desired, placedReplicas := 0 } }

theorem placingForOne_scanned (weights : PlacementWeights) (h : ForOne r service desired)
    (hcap : desired ≠ 0 → 0 < maxPerDpu r) :
    (placingForOne r weights service desired).plan.placedReplicas.toNat
        = (takenForOne r weights service desired).length
      ∧ (placingForOne r weights service desired).plan.desiredReplicas = desired := by
  have hstart : Scanned desired [] [] (Placing.mk
      { emptyPlacement r with
        sink := ((orderedDevices r).foldl (candidateStep r weights (emptyPlacement r) service)
          ((emptyPlacement r).sink, [])).1 }
      { service := service.id, version := service.version,
        desiredReplicas := desired, placedReplicas := 0 } fun _ => 0) :=
    ⟨rfl, rfl, fun _ => rfl, fun _ => rfl, fun _ _ => ⟨rfl, rfl⟩⟩
  have hnodup := candidatesForOne_nodup weights service h.identified
  rw [List.map_map] at hnodup
  have hend : Scanned desired
      ([] ++ (candidatesForOne r weights service (emptyPlacement r)).map Candidate.dpu)
      (takenForOne r weights service desired) (placingForOne r weights service desired) :=
    hstart.run hnodup (fun c hc => (mem_candidatesForOne.mp (List.mem_map_of_mem hc)).2.suits) hcap
  exact ⟨hend.placed, hend.wanted⟩

theorem placingForOne_feasible (weights : PlacementWeights) (h : ForOne r service desired) :
    (placingForOne r weights service desired).placement.infeasible = none := by
  have hlaid : Laid r (checkRequirements r (intentServices r)) [] (emptyPlacement r) :=
    placeServices_laid weights (fun _ hid => absurd hid (by simp)) _
  have hfills : Filling r service service.id (emptyPlacement r) desired
      (candidatesForOne r weights service (emptyPlacement r))
      (placingForOne r weights service desired) :=
    placing_fills desired hlaid.booked h.declared _ fun c hc => by
      obtain ⟨hdevice, hcandidacy⟩ := mem_candidatesForOne.mp (List.mem_map_of_mem hc)
      exact ⟨hdevice, Option.isNone_iff_eq_none.mp (refuseCandidate_isNone_iff.mpr hcandidacy)⟩
  rw [hfills.infeasible]
  rfl

/-- The placement of the only service succeeds exactly if the scan takes as
many devices as replicas are desired. -/
theorem placementOf_one (weights : PlacementWeights) (h : ForOne r service desired)
    (hcap : desired ≠ 0 → 0 < maxPerDpu r) :
    (placementOf r weights [service.id]).infeasible = none ↔
      (takenForOne r weights service desired).length = desired.toNat := by
  obtain ⟨hplaced, hdesired⟩ := placingForOne_scanned weights h hcap
  have hnone := placingForOne_feasible weights h
  have hle : (takenForOne r weights service desired).length ≤ desired.toNat :=
    spread_length_le (Nat.zero_le _)
  have hshort : (placingForOne r weights service desired).plan.placedReplicas
      < (placingForOne r weights service desired).plan.desiredReplicas
      ↔ (takenForOne r weights service desired).length ≠ desired.toNat := by
    rw [UInt32.lt_iff_toNat_lt, hplaced, hdesired]
    omega
  show (Placement.step r weights (orderedDevices r) (checkRequirements r (intentServices r))
    (emptyPlacement r) service.id).infeasible = none ↔ _
  unfold Placement.step
  rw [h.declared]
  simp only [candidates_eq, h.desiredOf]
  show (if (placingForOne r weights service desired).plan.placedReplicas
      < (placingForOne r weights service desired).plan.desiredReplicas then _ else _ :
        Placement).infeasible = none ↔ _
  split
  · next hlt => exact ⟨fun habsurd => absurd habsurd (by simp), fun heq => absurd heq (hshort.mp hlt)⟩
  · next hfull => exact ⟨fun _ => not_not.mp fun hne => hfull (hshort.mpr hne), fun _ => hnone⟩

theorem ForOne.staged (h : ForOne r service desired) (weights : PlacementWeights) :
    ∃ stages, buildStages r.intent.staging.batchSize.toNat r.intent.staging.maxUnavailable
      r.bounds.maxStages
      (rolloutOrder r.group.id (placementOf r weights [service.id]).services).length
      (rolloutOrder r.group.id (placementOf r weights [service.id]).services) [] = some stages := by
  have hbatch : 0 < r.intent.staging.batchSize.toNat :=
    Nat.pos_of_ne_zero fun hzero => validateIntent_batch h.valid (UInt32.toNat_inj.mp hzero)
  have hlaid : Laid r (checkRequirements r (intentServices r)) [service.id]
      (placementOf r weights [service.id]) :=
    placeServices_laid weights (fun id hid => ⟨service, by
      rw [List.mem_singleton.mp hid, h.declared]⟩) _
  have hcount : (rolloutOrder r.group.id (placementOf r weights [service.id]).services).length
      ≤ desired.toNat := by
    rw [rolloutOrder_length, flatten_length]
    obtain ⟨sp, hsp⟩ := List.length_eq_one_iff.mp
      (by simpa using congrArg List.length hlaid.services)
    have hname := hlaid.services
    have heach := hlaid.each sp (by simp [hsp])
    rw [hsp, List.map_singleton] at hname
    have hle := heach.length_le
    rw [List.singleton_inj.mp hname, h.desiredOf] at hle
    simpa [hsp] using hle
  refine buildStages_fits hbatch ?_
  have hmono : (rolloutOrder r.group.id (placementOf r weights [service.id]).services).length
      + r.intent.staging.batchSize.toNat - 1 ≤ desired.toNat
      + r.intent.staging.batchSize.toNat - 1 := by omega
  have hstages := (Nat.div_le_div_right hmono).trans h.stages
  simpa using hstages

/-- The scan takes a device for every replica exactly if the replicas can be
assigned to distinct devices. -/
theorem takenForOne_length_iff (weights : PlacementWeights)
    (hids : (r.topology.dpus.map DpuRecord.id).Nodup)
    (hmin : desired.toNat ≠ 0 → 1 ≤ min r.group.antiAffinity.maxReplicasPerDpu.toNat
      r.policy.maxReplicasPerDpuCeiling.toNat) :
    (takenForOne r weights service desired).length = desired.toNat ↔
      ∃ chosen, Assignable r service desired.toNat chosen
        ∧ (chosen.map DpuRecord.id).Nodup := by
  constructor
  · intro hlength
    obtain ⟨part, hpart, hsub⟩ := spread_sublist (domainRoom r) DpuRecord.domain desired.toNat
      ((candidatesForOne r weights service (emptyPlacement r)).map Candidate.dpu) []
    have htaken : (takenForOne r weights service desired).Sublist
        ((candidatesForOne r weights service (emptyPlacement r)).map Candidate.dpu) := by
      rw [takenForOne, hpart]
      exact hsub
    refine ⟨takenForOne r weights service desired, (assignable_once_iff hmin).mpr
      ⟨hlength, fun d hd => mem_candidatesForOne.mp (htaken.subset hd), ?_, ?_⟩⟩
    · exact spread_keepsQuota fun _ n hn => absurd hn (by simp [ofClass])
    · exact (htaken.map DpuRecord.id).nodup (candidatesForOne_nodup weights service hids)
  · rintro ⟨chosen, hchosen⟩
    obtain ⟨hall, hdevices, hquota, hnodup⟩ := (assignable_once_iff hmin).mp hchosen
    exact spread_length (fun m n => domainRoom_mono) hnodup.of_map
      (fun d hd => mem_candidatesForOne.mpr (hdevices d hd)) hquota hall

/-- **One service can be planned exactly if it can be spread.**  The planner
puts one replica on a device at most, so an intent that could be assigned is
feasible exactly if it could be assigned to distinct devices. -/
theorem single_service_feasible_iff (r : PlanRequest) (weights : PlacementWeights)
    (service : ServiceDefinition) (desired : UInt32) (h : ForOne r service desired)
    (hassignable : ∃ chosen, Assignable r service desired.toNat chosen) :
    (buildPlan r weights).feasible = true ↔
      ∃ chosen, Assignable r service desired.toNat chosen
        ∧ (chosen.map DpuRecord.id).Nodup := by
  -- something is assigned, so the caps leave room for one replica
  have hmin : desired.toNat ≠ 0 → 1 ≤ min r.group.antiAffinity.maxReplicasPerDpu.toNat
      r.policy.maxReplicasPerDpuCeiling.toNat := by
    intro hsome
    obtain ⟨chosen, hchosen⟩ := hassignable
    obtain ⟨d, hd⟩ := List.exists_mem_of_length_pos (by rw [hchosen.all]; omega)
    have hpos : 0 < ofClass DpuRecord.id chosen d.id :=
      List.countP_pos_iff.mpr ⟨d, hd, decide_eq_true rfl⟩
    exact Nat.le_trans hpos (hchosen.perDpu d.id)
  have hcap : desired ≠ 0 → 0 < maxPerDpu r := by
    intro hsome
    have hone := hmin fun hzero => hsome (UInt32.toNat_inj.mp hzero)
    rw [UInt32.lt_iff_toNat_lt, maxPerDpu_toNat]
    show 0 < _
    omega
  have hplaced := placementOf_one weights h hcap
  rw [← takenForOne_length_iff weights h.identified hmin, ← hplaced, buildPlan_feasible_iff]
  constructor
  · rintro ⟨order, stages, hplanned⟩
    obtain rfl : [service.id] = order := Except.ok.inj (h.ordered.symm.trans hplanned.ordered)
    exact hplanned.placed
  · intro hnone
    obtain ⟨stages, hstages⟩ := h.staged weights
    exact ⟨[service.id], stages, h.valid, h.accepted, h.ordered, h.closed, h.devices, hnone, hstages⟩

/-- Two replicas of a service on the named devices, two of them allowed on
each. -/
def oneServiceRequest (names : List String) : PlanRequest :=
  { demoRequest with
    topology := { generation := ⟨1⟩, dpus := names.map demoDevice }
    services := [demoService "a" 3]
    group := { demoRequest.group with
      antiAffinity := { spreadAcrossDpus := false, maxReplicasPerDpu := 2 } }
    intent := { demoRequest.intent with
      services := [{ service := .literal (txt "a"), desiredReplicas := 2 }] } }

/-- Any two of the named devices will do, the same one twice as well. -/
theorem oneServiceRequest_assignable (names : List String) (a b : String) (ha : a ∈ names)
    (hb : b ∈ names)
    (heligible : ∀ d ∈ [demoDevice a, demoDevice b], (EligibilityEvaluator.evaluate d
      (demoService "a" 3) (oneServiceRequest names).policy (oneServiceRequest names).now).eligible
        = true) :
    Assignable (oneServiceRequest names) (demoService "a" 3) 2 [demoDevice a, demoDevice b] where
  all := rfl
  devices d hd := by
    rcases List.mem_pair.mp hd with rfl | rfl
    · exact List.mem_map_of_mem ha
    · exact List.mem_map_of_mem hb
  eligible := heligible
  owned _ _ _ _ _ hgrant := absurd hgrant (by simp [initialOwners, oneServiceRequest, demoRequest])
  perDpu _ := ofClass_le_length _ _
  perDomain _ hcap := absurd hcap (by simp [oneServiceRequest])
  distinct hrequired := absurd hrequired (by simp [oneServiceRequest])
  demand d hd x := by
    have htwice : ofClass DpuRecord.id [demoDevice a, demoDevice b] d.id
        * (demoService "a" 3).resources.amount x ≤ 2 * (demoService "a" 3).resources.amount x :=
      Nat.mul_le_mul_right _ (ofClass_le_length _ _)
    have hroom : ∀ name, (demoDevice name).allocated.amount x
        + 2 * (demoService "a" 3).resources.amount x ≤ (demoDevice name).capacity.amount x := by
      intro name
      cases x <;> exact Nat.le_of_ble_eq_true rfl
    refine (Nat.add_le_add_left htwice _).trans ?_
    rcases List.mem_pair.mp hd with rfl | rfl
    · exact hroom a
    · exact hroom b

theorem oneService_on_two_devices :
    (buildPlan (oneServiceRequest ["d", "e"]) {}).feasible = true := by
  have hassignable := oneServiceRequest_assignable ["d", "e"] "d" "e" (by simp) (by simp)
    (by decide +kernel)
  exact (single_service_feasible_iff (oneServiceRequest ["d", "e"]) {} (demoService "a" 3) 2
    ⟨by decide +kernel, rfl, by decide +kernel, rfl, by decide, by decide, by decide, by decide⟩
    ⟨_, hassignable⟩).mpr ⟨_, hassignable, by decide⟩

/-- One device has room for both replicas and may take two, but is offered to
the service once. -/
theorem oneService_on_one_device_refused :
    ForOne (oneServiceRequest ["d"]) (demoService "a" 3) 2
      ∧ (oneServiceRequest ["d"]).group.antiAffinity.spreadAcrossDpus = false
      ∧ (∃ chosen, Assignable (oneServiceRequest ["d"]) (demoService "a" 3) 2 chosen)
      ∧ (buildPlan (oneServiceRequest ["d"]) {}).feasible = false :=
  ⟨⟨by decide +kernel, rfl, by decide +kernel, rfl, by decide, by decide, by decide, by decide⟩,
    rfl, ⟨_, oneServiceRequest_assignable ["d"] "d" "d" (by simp) (by simp) (by decide +kernel)⟩,
    by decide +kernel⟩

end DpuFabric
