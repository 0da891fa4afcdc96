/-
  Engine.Proven — ONLY A PROVEN EFFECT VERIFIES.

  The proof of an instance is its `verified_digest`, `verified_at` and
  `verified_evidence`, and whether it is in state Verified.  Every step of
  `Engine.Entries` but one keeps the proof (`InstanceStep.sameProof`); the
  one that writes it stands behind the checks of `reduce_effect`, which
  `checkEffect_ok` lists.
-/
import DpuFabric.Engine.Entries

namespace DpuFabric

open Lib Relation

variable {s : RuntimeState} {event : FabricEvent}

/-! ## §1. The checks of `reduce_effect`. -/

/-- What a report has shown when `reduce_effect` takes it. -/
structure EffectChecked (s : RuntimeState) (event : FabricEvent) (report : EffectReport)
    (i : InstanceState) : Prop where
  named : report.instanceId = i.id
  attempt : ∃ a, i.currentAttempt = some a ∧ a.number = report.attempt ∧ a.outcome = .opened
  fence : s.fences.validate report.instanceId report.fence = true
  evidence : report.evidence.present = true
  since : i.effectFencedAt ≤ report.evidence.observedAt
  fresh : report.evidence.freshAt event.instant = true
  whole : report.isPartial = false
  status : report.status = .succeeded ∨ report.status = .failed

theorem checkEffect_ok {report : EffectReport} {k : Nat}
    {i : InstanceState} (h : checkEffect s event report = .ok (k, i)) :
    s.instances[k]? = some i ∧ EffectChecked s event report i := by
  obtain ⟨hk, hid⟩ := findInstance_some (checkEffect_find h)
  simp only [checkEffect, checkEffect_find h] at h
  split at h
  · simp at h
  next a ha =>
  repeat (split at h; · exact absurd h (by simp))
  next hnumber hfence hopen hpresent hsince hfresh hpartial hrefused =>
    rw [not_or, Bool.not_eq_true] at hpartial
    refine ⟨hk, hid.symm, ⟨a, ha, not_not.mp hnumber, ?_⟩, by simpa using hfence,
      by simpa using hpresent, not_lt.mp hsince, by simpa using hfresh, hpartial.1, ?_⟩
    · simpa [AttemptRecord.isOpen] using hopen
    cases hstatus : report.status with
    | succeeded => exact .inl rfl
    | failed => exact .inr rfl
    | partly => exact absurd hstatus hpartial.2
    | refused => exact absurd hstatus hrefused

/-! ## §2. Steps that keep the proof. -/

/-- The proven fields are the same, and the instance is not newly Verified. -/
structure SameProof (i j : InstanceState) : Prop where
  digest : j.verifiedDigest = i.verifiedDigest
  instant : j.verifiedAt = i.verifiedAt
  evidence : j.verifiedEvidence = i.verifiedEvidence
  state : j.state = .verified → i.state = .verified

theorem SameProof.refl (i : InstanceState) : SameProof i i := ⟨rfl, rfl, rfl, id⟩

theorem SameProof.trans {i j k : InstanceState} (h : SameProof i j) (h' : SameProof j k) :
    SameProof i k :=
  ⟨h'.digest.trans h.digest, h'.instant.trans h.instant, h'.evidence.trans h.evidence,
    fun hk => h.state (h'.state hk)⟩

/-- The event reports an effect other than a withdrawal, not as failed. -/
def ReportsEffect (event : FabricEvent) : Prop :=
  ∃ body, event.body = .effectReported body ∧ body.report.status ≠ .failed
    ∧ body.report.kind ≠ .withdraw

theorem fenceInstance_sameProof (i : InstanceState) (instant : LogicalInstant)
    (reason : ReasonCode) : SameProof i (fenceInstance i instant reason) := by
  refine ⟨rfl, rfl, rfl, fun h => ?_⟩
  simp only [fenceInstance, fencedState] at h
  split at h <;> first | assumption | contradiction

section Steps

variable {s : RuntimeState} {event : FabricEvent} {bounds : RuntimeBounds}
  {weights : PlacementWeights} {i j : InstanceState}

theorem InstanceStep.sameProof (h : InstanceStep s event bounds weights i j)
    (hreports : ¬ ReportsEffect event) : SameProof i j := by
  cases h with
  | refreshed =>
    simp only [refreshInstance]
    repeat' split
    all_goals exact ⟨rfl, rfl, rfl, id⟩
  | stale =>
    simp only [markStale]
    repeat' split
    all_goals exact ⟨rfl, rfl, rfl, id⟩
  | fenced => exact fenceInstance_sameProof _ _ _
  | verified body _ _ hbody _ hstatus hkind =>
    exact absurd ⟨body, hbody, hstatus, hkind⟩ hreports
  | covered => exact ⟨rfl, rfl, rfl, id⟩
  | lost => exact ⟨rfl, rfl, rfl, fun h => absurd h (by simp [loseInstance])⟩
  | quiesced =>
    exact ⟨rfl, rfl, rfl, fun h => absurd h (by simp [quiesceInstance, cancelOpenAttempts])⟩
  | acknowledged => exact ⟨rfl, rfl, rfl, fun h => absurd h (by simp [acknowledgeInstance])⟩
  | failed => exact ⟨rfl, rfl, rfl, fun h => absurd h (by simp [failInstance])⟩
  | withdrawn =>
    exact ⟨rfl, rfl, rfl, fun h =>
      absurd h (by simp [withdrawInstance, fenceInstanceWithoutState])⟩
  | replaced =>
    exact ⟨rfl, rfl, rfl, fun h => absurd h (by simp [replacedInstance, authorizeAttempt])⟩
  | reattempted =>
    exact ⟨rfl, rfl, rfl, fun h => absurd h (by simp [reattemptedInstance, authorizeAttempt])⟩
  | retired =>
    exact ⟨rfl, rfl, rfl, fun h => absurd h (by simp [quiesceInstance, cancelOpenAttempts])⟩
  | withdrawing =>
    exact ⟨rfl, rfl, rfl, fun h =>
      absurd h (by simp [withdrawalAttempt, quiesceInstance, cancelOpenAttempts])⟩

theorem steps_sameProof (hreports : ¬ ReportsEffect event)
    (h : ReflTransGen (InstanceStep s event bounds weights) i j) : SameProof i j := by
  induction h with
  | refl => exact .refl i
  | tail _ hstep ih => exact ih.trans (hstep.sameProof hreports)

end Steps

/-! ## §3. The proof of every instance, across any event. -/

/-- The event is the report that proves the instance's effect. -/
def ProvenBy (s : RuntimeState) (event : FabricEvent) (i : InstanceState) : Prop :=
  ∃ body, event.body = .effectReported body ∧ EffectChecked s event body.report i
    ∧ body.report.status = .succeeded ∧ body.report.kind ≠ .withdraw

/-- Nothing is proven of the instance. -/
structure Unproven (i : InstanceState) : Prop where
  digest : i.verifiedDigest = default
  instant : i.verifiedAt = {}
  evidence : i.verifiedEvidence = {}
  state : i.state ≠ .verified

theorem CreatedBy.unproven {bounds : RuntimeBounds}
    {weights : PlacementWeights} {c : InstanceState} (h : CreatedBy s event bounds weights c) :
    Unproven c := by
  cases h with
  | created => exact ⟨rfl, rfl, rfl, by simp [createdInstance]⟩

/-- An event that reports an effect changes one entry at most, the one whose
effect it proves. -/
theorem reportsEffect_entries (bounds : RuntimeBounds)
    (weights : PlacementWeights) (h : ReportsEffect event) :
    List.Forall₂ (fun i j => j.id = i.id ∧ (SameProof i j ∨ ProvenBy s event i)) s.instances
      (applyEvent s event bounds weights).2.instances := by
  obtain ⟨body, hbody, hstatus, hkind⟩ := h
  have hsame : ∀ i : InstanceState, i.id = i.id ∧ (SameProof i i ∨ ProvenBy s event i) :=
    fun i => ⟨rfl, .inl (.refl i)⟩
  simp only [applyEvent, hbody, reduceEffect]
  split
  · exact List.forall₂_same.mpr fun i _ => hsame i
  next k i hchecks =>
  obtain ⟨hk, hchecked⟩ := checkEffect_ok hchecks
  have hproven : ProvenBy s event i :=
    ⟨body, hbody, hchecked, hchecked.status.resolve_right hstatus, hkind⟩
  simp only [acceptEffect, hstatus, hkind, if_false]
  exact forall₂_set_self hsame hk ⟨rfl, .inr hproven⟩

/-- **Only a proven effect verifies.**  Up to order, the table after an event
is the table before with unproven entries added, and every entry keeps its
proof unless the event is the report that proves that entry's effect. -/
theorem only_proven_effect_verifies (s : RuntimeState) (event : FabricEvent)
    (bounds : RuntimeBounds) (weights : PlacementWeights) :
    ∃ created changed, (applyEvent s event bounds weights).2.instances.Perm changed
      ∧ List.Forall₂ (fun i j => j.id = i.id ∧ (SameProof i j ∨ ProvenBy s event i))
          (s.instances ++ created) changed
      ∧ ∀ c ∈ created, Unproven c := by
  by_cases hreports : ReportsEffect event
  · refine ⟨[], _, List.Perm.refl _, ?_, by simp⟩
    rw [List.append_nil]
    exact reportsEffect_entries bounds weights hreports
  · obtain ⟨created, changed, hperm, hforall, hcreated⟩ :=
      applyEvent_entries s event bounds weights
    exact ⟨created, changed, hperm,
      hforall.imp fun i j h => ⟨steps_id_eq h, .inl (steps_sameProof hreports h)⟩,
      fun c hc => (hcreated c hc).unproven⟩

end DpuFabric
