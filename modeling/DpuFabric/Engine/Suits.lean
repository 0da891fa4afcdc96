/-
  Engine.Suits — WHEN A DEVICE IS ELIGIBLE (`EligibilityEvaluator::evaluate`).

  The evaluator collects a three-valued result per requirement and aggregates
  them at the end.  `eligible_iff` says the same as one conjunction: a device
  is eligible exactly if its evidence can be relied on and it meets every
  requirement (`Suits`).  The relations between verdicts are read off there:

      weaker demands, a larger supply, an instant in between
-/
import DpuFabric.Engine.PlanSound

namespace DpuFabric

open Lib

/-! ## §1. The conditions. -/

/-- The device evidence can be relied on. -/
structure Known (dpu : DpuRecord) (policy : PolicyState) (now : LogicalInstant) : Prop where
  present : dpu.deviceEvidence.present = true
  fresh : dpu.deviceEvidence.freshAt now = true
  supported : dpu.deviceEvidence.provenance.evidenceClass ≠ .unsupported
  synthetic : dpu.deviceEvidence.provenance.evidenceClass = .synthetic →
    policy.allowSyntheticEvidence = true
  generation : dpu.capabilityGeneration.valid = true

/-- The device meets every requirement of the service. -/
structure Suits (dpu : DpuRecord) (service : ServiceDefinition) (policy : PolicyState)
    (now : LogicalInstant) : Prop where
  identity : dpu.id.valid = true
  attached : dpu.state = .attached
  known : Known dpu policy now
  architecture : ∀ wanted, service.compatibility.architecture = some wanted →
    dpu.profile.architecture ≠ .unknown ∧ dpu.profile.architecture = wanted
  firmware : ∀ level, service.compatibility.minFirmware = some level →
    dpu.profile.firmware.less level = false
  datapath : ∀ wanted, service.compatibility.datapath = some wanted → wanted ≠ .unspecified →
    dpu.profile.datapath = wanted
  isolation : ∀ kind ∈ service.compatibility.requiredIsolation, dpu.profile.supports kind = true
  scope : service.isolation.kind = .dedicatedDevice →
    policy.requireExclusiveScopeForDedicatedDevice = true → service.isolation.exclusiveScope ≠ none
  kind : service.isolation.kind ≠ .none → dpu.profile.supports service.isolation.kind = true
  capacity : dpu.capacity.isZero = false
  room : ∀ x, dpu.allocated.amount x + service.resources.amount x ≤ dpu.capacity.amount x
  capabilities : ∀ requirement ∈ service.compatibility.capabilities,
    (EligibilityEvaluator.evaluateCapability dpu.capabilities true requirement).outcome = .satisfied

namespace EligibilityEvaluator

variable {dpu : DpuRecord} {service : ServiceDefinition} {policy : PolicyState}
  {now : LogicalInstant}

/-! ## §2. Result by result. -/

/-- Every result of a list is satisfied. -/
def AllSatisfied (results : List RequirementResult) : Prop :=
  ∀ e ∈ results, e.outcome = .satisfied

theorem AllSatisfied.append {xs ys : List RequirementResult} :
    AllSatisfied (xs ++ ys) ↔ AllSatisfied xs ∧ AllSatisfied ys :=
  List.forall_mem_append

theorem allSatisfied_nil : AllSatisfied [] := by
  intro e he
  simp at he

theorem allSatisfied_singleton {e : RequirementResult} :
    AllSatisfied [e] ↔ e.outcome = .satisfied :=
  List.forall_mem_singleton

/-- Nothing is violated and nothing unknown exactly if all is satisfied. -/
theorem aggregate_satisfied {results : List RequirementResult} :
    (!(aggregate results).1 && !(aggregate results).2.1) = true ↔ AllSatisfied results := by
  obtain ⟨hviolated, hunknown⟩ := aggregate_flags results
  rw [Bool.and_eq_true, Bool.not_eq_true', Bool.not_eq_true', hviolated, hunknown,
    List.any_eq_false, List.any_eq_false]
  constructor
  · rintro ⟨hclean, hclear⟩ e he
    have hnot := hclean e he
    have hknown := hclear e he
    cases houtcome : e.outcome with
    | satisfied => rfl
    | violated => exact absurd (decide_eq_true houtcome) hnot
    | unknown => exact absurd (decide_eq_true houtcome) hknown
  · intro hall
    constructor
    · intro e he
      simp [hall e he]
    · intro e he
      simp [hall e he]

theorem evidenceResult_none : evidenceResult dpu policy now = none ↔ Known dpu policy now := by
  unfold evidenceResult
  constructor
  · intro h
    split at h
    · simp at h
    next hpresent =>
    split at h
    · simp at h
    next hfresh =>
    split at h
    · simp at h
    next hsupported =>
    split at h
    · simp at h
    next hsynthetic =>
    split at h
    · simp at h
    next hgeneration =>
    exact ⟨by simpa using hpresent, by simpa using hfresh, hsupported,
      fun hclass => by simpa using fun hallow => hsynthetic ⟨hclass, hallow⟩,
      by simpa using hgeneration⟩
  · rintro ⟨hpresent, hfresh, hsupported, hsynthetic, hgeneration⟩
    rw [if_neg (by simp [hpresent]), if_neg (by simp [hfresh]), if_neg hsupported,
      if_neg (fun hboth => by simp [hsynthetic hboth.1] at hboth), if_neg (by simp [hgeneration])]

theorem evidenceResult_unsatisfied {e : RequirementResult}
    (h : evidenceResult dpu policy now = some e) : e.outcome ≠ .satisfied := by
  unfold evidenceResult at h
  repeat' split at h
  all_goals first
    | contradiction
    | (obtain rfl := Option.some.inj h; simp [unknown, violated])

theorem evidence_satisfied :
    AllSatisfied (evidenceResult dpu policy now).toList ↔ Known dpu policy now := by
  rw [← evidenceResult_none]
  cases h : evidenceResult dpu policy now with
  | none => simp [AllSatisfied]
  | some e =>
    refine ⟨fun hall => ?_, fun hnone => absurd hnone (by simp)⟩
    exact absurd (hall e (by simp)) (evidenceResult_unsatisfied h)

theorem device_satisfied :
    AllSatisfied (deviceResults dpu) ↔ dpu.id.valid = true ∧ dpu.state = .attached := by
  unfold deviceResults
  rw [AllSatisfied.append]
  refine and_congr ?_ ?_
  · cases dpu.id.valid <;> simp [AllSatisfied, violated]
  · by_cases h : dpu.state = .attached <;> simp [AllSatisfied, violated, h]

theorem profile_satisfied {requirement : CompatibilityRequirement} :
    AllSatisfied (profileResults dpu requirement true) ↔
      (∀ wanted, requirement.architecture = some wanted →
        dpu.profile.architecture ≠ .unknown ∧ dpu.profile.architecture = wanted)
      ∧ (∀ level, requirement.minFirmware = some level →
        dpu.profile.firmware.less level = false)
      ∧ (∀ wanted, requirement.datapath = some wanted → wanted ≠ .unspecified →
        dpu.profile.datapath = wanted) := by
  unfold profileResults
  rw [AllSatisfied.append, AllSatisfied.append, and_assoc]
  refine and_congr ?_ (and_congr ?_ ?_)
  · cases requirement.architecture with
    | none => simp [AllSatisfied]
    | some wanted =>
      by_cases hunknown : dpu.profile.architecture = .unknown
      · simp [AllSatisfied, unknown, hunknown]
      by_cases hwanted : dpu.profile.architecture = wanted
      · subst hwanted
        simp [AllSatisfied, satisfied, hunknown]
      · simp [AllSatisfied, violated, hunknown, hwanted]
  · cases requirement.minFirmware with
    | none => simp [AllSatisfied]
    | some level =>
      cases hless : dpu.profile.firmware.less level <;>
        simp [AllSatisfied, violated, satisfied, hless]
  · cases requirement.datapath with
    | none => simp [AllSatisfied]
    | some wanted =>
      by_cases hunspecified : wanted = .unspecified
      · simp [AllSatisfied, hunspecified]
      by_cases hwanted : dpu.profile.datapath = wanted
      · simp [AllSatisfied, satisfied, hunspecified, hwanted]
      · simp [AllSatisfied, violated, hunspecified, hwanted]

theorem isolation_satisfied :
    AllSatisfied (isolationResults dpu service policy true) ↔
      (∀ kind ∈ service.compatibility.requiredIsolation, dpu.profile.supports kind = true)
      ∧ (service.isolation.kind = .dedicatedDevice →
          policy.requireExclusiveScopeForDedicatedDevice = true →
          service.isolation.exclusiveScope ≠ none)
      ∧ (service.isolation.kind ≠ .none → dpu.profile.supports service.isolation.kind = true) := by
  unfold isolationResults
  rw [AllSatisfied.append, AllSatisfied.append, and_assoc]
  refine and_congr ?_ (and_congr ?_ ?_)
  · unfold AllSatisfied
    rw [List.forall_mem_map]
    refine forall₂_congr fun kind _ => ?_
    cases dpu.profile.supports kind <;> simp [violated, satisfied]
  · split
    · next h =>
      obtain ⟨hkind, hrequired, hscope⟩ := h
      simp [AllSatisfied, violated, hkind, hrequired, hscope]
    · next h =>
      refine iff_of_true allSatisfied_nil fun hkind hrequired hscope => ?_
      exact h ⟨hkind, hrequired, hscope⟩
  · by_cases hkind : service.isolation.kind = .none
    · by_cases hscope : service.isolation.exclusiveScope.isSome = true
      · simp [AllSatisfied, satisfied, hkind, hscope]
      · simp [AllSatisfied, hkind, hscope]
    · cases hsupports : dpu.profile.supports service.isolation.kind <;>
        simp [AllSatisfied, satisfied, violated, hkind]

theorem headroom_covers {capacity allocated demand : ResourceVector} :
    (∃ free, capacity.headroom allocated = .ok free ∧ free.covers demand = true) ↔
      ∀ x, allocated.amount x + demand.amount x ≤ capacity.amount x := by
  constructor
  · rintro ⟨free, hfree, hcovers⟩ x
    have hexact := ResourceVector.headroom_ok hfree x
    have hle := ResourceVector.covers_iff.mp hcovers x
    omega
  · intro h
    have hcovers : capacity.covers allocated = true :=
      ResourceVector.covers_iff.mpr fun x => (Nat.le_add_right _ _).trans (h x)
    obtain ⟨free, hfree⟩ := ResourceVector.subtract_covered hcovers
    have hheadroom : capacity.headroom allocated = .ok free := by
      rw [ResourceVector.headroom, if_neg (by simp [hcovers]), hfree]
    refine ⟨free, hheadroom, ResourceVector.covers_iff.mpr fun x => ?_⟩
    have hexact := ResourceVector.headroom_ok hheadroom x
    have hle := h x
    omega

theorem capacity_satisfied :
    (capacityResult dpu service true).outcome = .satisfied ↔ dpu.capacity.isZero = false
      ∧ ∀ x, dpu.allocated.amount x + service.resources.amount x ≤ dpu.capacity.amount x := by
  rw [← headroom_covers]
  unfold capacityResult
  cases hzero : dpu.capacity.isZero with
  | true => simp [unknown]
  | false =>
    cases hfree : dpu.capacity.headroom dpu.allocated with
    | error status => simp [violated]
    | ok free =>
      cases hcovers : free.covers service.resources <;> simp [violated, satisfied, hcovers]

/-! ## §3. The verdict. -/

/-- **A device is eligible exactly if it suits.** -/
theorem eligible_iff :
    (evaluate dpu service policy now).eligible = true ↔ Suits dpu service policy now := by
  have hverdict : (evaluate dpu service policy now).eligible = true ↔
      AllSatisfied (deviceResults dpu ++ (evidenceResult dpu policy now).toList
        ++ profileResults dpu service.compatibility (evidenceResult dpu policy now).isNone
        ++ isolationResults dpu service policy (evidenceResult dpu policy now).isNone
        ++ [capacityResult dpu service (evidenceResult dpu policy now).isNone]
        ++ service.compatibility.capabilities.map
          (evaluateCapability dpu.capabilities (evidenceResult dpu policy now).isNone)) :=
    aggregate_satisfied
  rw [hverdict]
  simp only [AllSatisfied.append, allSatisfied_singleton, evidence_satisfied, device_satisfied]
  constructor
  · rintro ⟨⟨⟨⟨⟨⟨hid, hattached⟩, hknown⟩, hprofile⟩, hisolation⟩, hcapacity⟩, hcapabilities⟩
    rw [evidenceResult_none.mpr hknown] at hprofile hisolation hcapacity hcapabilities
    obtain ⟨harchitecture, hfirmware, hdatapath⟩ := profile_satisfied.mp hprofile
    obtain ⟨hkinds, hscope, hkind⟩ := isolation_satisfied.mp hisolation
    obtain ⟨hzero, hroom⟩ := capacity_satisfied.mp hcapacity
    exact ⟨hid, hattached, hknown, harchitecture, hfirmware, hdatapath, hkinds, hscope, hkind,
      hzero, hroom, List.forall_mem_map.mp hcapabilities⟩
  · intro h
    rw [evidenceResult_none.mpr h.known]
    exact ⟨⟨⟨⟨⟨⟨h.identity, h.attached⟩, h.known⟩,
      profile_satisfied.mpr ⟨h.architecture, h.firmware, h.datapath⟩⟩,
      isolation_satisfied.mpr ⟨h.isolation, h.scope, h.kind⟩⟩,
      capacity_satisfied.mpr ⟨h.capacity, h.room⟩⟩, List.forall_mem_map.mpr h.capabilities⟩

end EligibilityEvaluator

/-! ## §4. Demands, supply and instants. -/

/-- The second service demands no more than the first: requirements are
dropped or lowered, and nothing else that counts changes. -/
structure Relaxes (s s' : ServiceDefinition) : Prop where
  architecture : s'.compatibility.architecture = none
    ∨ s'.compatibility.architecture = s.compatibility.architecture
  firmware : s'.compatibility.minFirmware = none
    ∨ ∃ level level', s.compatibility.minFirmware = some level
      ∧ s'.compatibility.minFirmware = some level' ∧ level.less level' = false
  datapath : s'.compatibility.datapath = none
    ∨ s'.compatibility.datapath = s.compatibility.datapath
  isolations : s'.compatibility.requiredIsolation ⊆ s.compatibility.requiredIsolation
  capabilities : s'.compatibility.capabilities ⊆ s.compatibility.capabilities
  isolation : s'.isolation = s.isolation
  resources : ∀ x, s'.resources.amount x ≤ s.resources.amount x

/-- The second device is the first with more capacity and less of it taken. -/
structure Supplies (d d' : DpuRecord) : Prop where
  capacity : ∀ x, d.capacity.amount x ≤ d'.capacity.amount x
  allocated : ∀ x, d'.allocated.amount x ≤ d.allocated.amount x
  same : d' = { d with capacity := d'.capacity, allocated := d'.allocated }

/-- A level at least as high as one is at least as high as any lower one. -/
theorem FirmwareApiLevel.less_mono {level low high : FirmwareApiLevel}
    (hlevel : level.less high = false) (hlow : high.less low = false) : level.less low = false := by
  simp only [FirmwareApiLevel.less, ← UInt32.toNat_inj, UInt32.lt_iff_toNat_lt, ne_eq] at *
  split at hlevel <;> split at hlow <;> split <;> simp only [decide_eq_false_iff_not] at * <;> omega

variable {dpu dpu' : DpuRecord} {service service' : ServiceDefinition} {policy : PolicyState}
  {now : LogicalInstant}

theorem Suits.relax (h : Suits dpu service policy now) (hrelaxes : Relaxes service service') :
    Suits dpu service' policy now where
  identity := h.identity
  attached := h.attached
  known := h.known
  architecture wanted hwanted := by
    rcases hrelaxes.architecture with hnone | hsame
    · exact absurd (hnone.symm.trans hwanted) (by simp)
    · exact h.architecture wanted (hsame ▸ hwanted)
  firmware low hlow := by
    rcases hrelaxes.firmware with hnone | ⟨level, level', hlevel, hlevel', hle⟩
    · exact absurd (hnone.symm.trans hlow) (by simp)
    · obtain rfl : level' = low := Option.some.inj (hlevel'.symm.trans hlow)
      exact FirmwareApiLevel.less_mono (h.firmware level hlevel) hle
  datapath wanted hwanted := by
    rcases hrelaxes.datapath with hnone | hsame
    · exact absurd (hnone.symm.trans hwanted) (by simp)
    · exact h.datapath wanted (hsame ▸ hwanted)
  isolation kind hkind := h.isolation kind (hrelaxes.isolations hkind)
  scope := by
    rw [hrelaxes.isolation]
    exact h.scope
  kind := by
    rw [hrelaxes.isolation]
    exact h.kind
  capacity := h.capacity
  room x := (Nat.add_le_add_left (hrelaxes.resources x) _).trans (h.room x)
  capabilities requirement hmem := h.capabilities requirement (hrelaxes.capabilities hmem)

theorem Suits.supply (h : Suits dpu service policy now) (hsupplies : Supplies dpu dpu') :
    Suits dpu' service policy now := by
  obtain ⟨hcapacity, hallocated, hsame⟩ := hsupplies
  rw [hsame]
  have hknown := h.known
  refine { h with
    known := { hknown with }
    capacity := ?_
    room := fun x => ?_ }
  · rw [← Bool.not_eq_true, ResourceVector.isZero_iff]
    intro hzero
    have hnot := h.capacity
    rw [← Bool.not_eq_true, ResourceVector.isZero_iff] at hnot
    exact hnot fun x => Nat.le_zero.mp ((hcapacity x).trans_eq (hzero x))
  · have hroom := h.room x
    have hmore := hcapacity x
    have hless := hallocated x
    show dpu'.allocated.amount x + _ ≤ dpu'.capacity.amount x
    omega

/-- Only the evidence looks at the instant, and it is fresh in an interval. -/
theorem Suits.between {first last : LogicalInstant} (hfirst : Suits dpu service policy first)
    (hlast : Suits dpu service policy last) (hge : first ≤ now) (hle : now ≤ last) :
    Suits dpu service policy now := by
  refine { hfirst with known := { hfirst.known with fresh := ?_ } }
  have hopened := hfirst.known.fresh
  have hclosed := hlast.known.fresh
  simp only [EvidenceRef.freshAt, Bool.and_eq_true, decide_eq_true_eq] at hopened hclosed ⊢
  exact ⟨hle.trans hclosed.1, hopened.2.trans hge⟩

/-- **Eligibility is antitone in demands and monotone in supply**, holds in
between two instants at which it holds, and needs present, fresh and supported
evidence. -/
theorem eligibility_relations (dpu : DpuRecord) (service : ServiceDefinition)
    (policy : PolicyState) :
    (∀ now, (EligibilityEvaluator.evaluate dpu service policy now).eligible = true →
      (∀ service', Relaxes service service' →
        (EligibilityEvaluator.evaluate dpu service' policy now).eligible = true)
      ∧ ∀ dpu', Supplies dpu dpu' →
        (EligibilityEvaluator.evaluate dpu' service policy now).eligible = true)
    ∧ (∀ first last now, (EligibilityEvaluator.evaluate dpu service policy first).eligible = true →
        (EligibilityEvaluator.evaluate dpu service policy last).eligible = true →
        first ≤ now → now ≤ last →
        (EligibilityEvaluator.evaluate dpu service policy now).eligible = true)
    ∧ ∀ now, ¬ (dpu.deviceEvidence.present = true ∧ dpu.deviceEvidence.freshAt now = true
          ∧ dpu.deviceEvidence.provenance.evidenceClass ≠ .unsupported) →
        (EligibilityEvaluator.evaluate dpu service policy now).eligible = false := by
  simp only [EligibilityEvaluator.eligible_iff]
  refine ⟨fun now h => ⟨fun service' hrelaxes => h.relax hrelaxes,
    fun dpu' hsupplies => h.supply hsupplies⟩, fun first last now hfirst hlast hge hle =>
    hfirst.between hlast hge hle, fun now hunknown => ?_⟩
  rw [← Bool.not_eq_true, EligibilityEvaluator.eligible_iff]
  intro h
  exact hunknown ⟨h.known.present, h.known.fresh, h.known.supported⟩

theorem demoService_relaxed : Relaxes (demoService "a" 3) (demoService "a" 2) where
  architecture := .inl rfl
  firmware := .inl rfl
  datapath := .inl rfl
  isolations := List.Subset.refl _
  capabilities := List.Subset.refl _
  isolation := rfl
  resources x := by cases x <;> decide

theorem demoDevice_eligible_relaxed :
    (EligibilityEvaluator.evaluate (demoDevice "d") (demoService "a" 3) {} ⟨5⟩).eligible = true
      ∧ (EligibilityEvaluator.evaluate (demoDevice "d") (demoService "a" 2) {} ⟨5⟩).eligible
        = true := by
  have heligible :
      (EligibilityEvaluator.evaluate (demoDevice "d") (demoService "a" 3) {} ⟨5⟩).eligible = true := by
    decide +kernel
  exact ⟨heligible, ((eligibility_relations (demoDevice "d") (demoService "a" 3) {}).1 ⟨5⟩
    heligible).1 _ demoService_relaxed⟩

end DpuFabric
