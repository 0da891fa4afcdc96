/-
  Engine.Attempts — THE ATTEMPTS OF AN INSTANCE.

  Attempts are opened at the end of the list only, and every reducer that
  opens one closes what was open before.  So at most the last attempt is
  open, and while it is, the instance is in the phase of that attempt:
  Authorized, Acknowledged, or Quiescing under a withdrawal
  (`InstanceState.Sane`).
-/
import DpuFabric.Engine.Entries

namespace DpuFabric

open Lib Relation

/-! ## §1. Closed attempts. -/

/-- No attempt of the instance is open. -/
def InstanceState.Closed (i : InstanceState) : Prop := ∀ a ∈ i.attempts, a.isOpen = false

instance (i : InstanceState) : Decidable i.Closed :=
  inferInstanceAs (Decidable (∀ a ∈ i.attempts, a.isOpen = false))

theorem cancel_closed (instant : LogicalInstant) (reason : ReasonCode) (a : AttemptRecord) :
    (a.cancel instant reason).isOpen = false := by
  unfold AttemptRecord.cancel
  split
  · rfl
  · next h => simpa [AttemptRecord.isOpen] using h

theorem cancelAll_closed (instant : LogicalInstant) (reason : ReasonCode)
    (attempts : List AttemptRecord) :
    ∀ a ∈ attempts.map (AttemptRecord.cancel instant reason), a.isOpen = false := by
  intro a ha
  obtain ⟨b, -, rfl⟩ := List.mem_map.mp ha
  exact cancel_closed instant reason b

theorem fenceInstance_closed (i : InstanceState) (instant : LogicalInstant) (reason : ReasonCode) :
    (fenceInstance i instant reason).Closed :=
  cancelAll_closed instant reason i.attempts

theorem loseInstance_closed (i : InstanceState) (instant : LogicalInstant) :
    (loseInstance i instant).Closed :=
  cancelAll_closed instant .dpuLost i.attempts

theorem quiesceInstance_closed (i : InstanceState) (instant : LogicalInstant) :
    (quiesceInstance instant i).Closed :=
  cancelAll_closed instant .quiesceRequested i.attempts

/-! ## §2. The last attempt. -/

theorem mapLastAttempt_concat (f : AttemptRecord → AttemptRecord) (attempts : List AttemptRecord)
    (a : AttemptRecord) : mapLastAttempt f (attempts ++ [a]) = attempts ++ [f a] := by
  induction attempts with
  | nil => rfl
  | cons b attempts ih =>
    cases attempts with
    | nil => rfl
    | cons c attempts => exact congrArg (b :: ·) ih

/-- Only the last attempt is open, if any, and then the instance is in its
phase. -/
structure InstanceState.Sane (i : InstanceState) : Prop where
  earlier : ∀ a ∈ i.attempts.dropLast, a.isOpen = false
  phase : ∀ a, i.currentAttempt = some a → a.isOpen = true → a.phase = i.state
  state : ∀ a, i.currentAttempt = some a → a.isOpen = true →
    i.state = .authorized ∨ i.state = .acknowledged ∨ i.state = .quiescing

section Sane

variable {i : InstanceState}

theorem InstanceState.Closed.sane (h : i.Closed) : i.Sane where
  earlier a ha := h a (List.dropLast_subset _ ha)
  phase a ha hopen := absurd (h a (List.mem_of_getLast? ha)) (by simp [hopen])
  state a ha hopen := absurd (h a (List.mem_of_getLast? ha)) (by simp [hopen])

/-- An instance whose last attempt is closed has no open one. -/
theorem InstanceState.Sane.closed (h : i.Sane)
    (hlast : ∀ a, i.currentAttempt = some a → a.isOpen = false) : i.Closed := by
  intro a ha
  rcases List.eq_nil_or_concat' i.attempts with hnil | ⟨attempts, b, hconcat⟩
  · rw [hnil] at ha
    simp at ha
  rw [hconcat, List.mem_append, List.mem_singleton] at ha
  rcases ha with ha | rfl
  · exact h.earlier a (by rw [hconcat, List.dropLast_concat]; exact ha)
  · exact hlast a (by rw [InstanceState.currentAttempt, hconcat, List.getLast?_concat])

theorem InstanceState.Sane.closed_of_state (h : i.Sane)
    (hstate : i.state ≠ .authorized ∧ i.state ≠ .acknowledged ∧ i.state ≠ .quiescing) :
    i.Closed := by
  refine h.closed fun a ha => ?_
  by_contra hopen
  rw [Bool.not_eq_false] at hopen
  rcases h.state a ha hopen with hs | hs | hs
  · exact hstate.1 hs
  · exact hstate.2.1 hs
  · exact hstate.2.2 hs

/-- An attempt opened on a closed instance, in the phase that the instance
takes. -/
theorem InstanceState.Closed.opened {j : InstanceState} (h : i.Closed) {a : AttemptRecord}
    (hattempts : j.attempts = i.attempts ++ [a]) (hphase : a.phase = j.state)
    (hstate : j.state = .authorized ∨ j.state = .acknowledged ∨ j.state = .quiescing) : j.Sane where
  earlier b hb := by
    rw [hattempts, List.dropLast_concat] at hb
    exact h b hb
  phase b hb _ := by
    rw [InstanceState.currentAttempt, hattempts, List.getLast?_concat] at hb
    exact Option.some.inj hb ▸ hphase
  state _ _ _ := hstate

theorem InstanceState.Sane.mapLast (h : i.Sane) {j : InstanceState}
    {f : AttemptRecord → AttemptRecord} (hattempts : j.attempts = mapLastAttempt f i.attempts)
    (hopen : ∀ a, (f a).isOpen = true → (f a).phase = j.state
      ∧ (j.state = .authorized ∨ j.state = .acknowledged ∨ j.state = .quiescing)) : j.Sane := by
  rcases List.eq_nil_or_concat' i.attempts with hnil | ⟨attempts, a, hconcat⟩
  · rw [hnil] at hattempts
    refine InstanceState.Closed.sane fun a ha => ?_
    rw [hattempts] at ha
    simp [mapLastAttempt] at ha
  · rw [hconcat, mapLastAttempt_concat] at hattempts
    have hlast : ∀ b, j.currentAttempt = some b → b = f a := by
      intro b hb
      rw [InstanceState.currentAttempt, hattempts, List.getLast?_concat] at hb
      exact (Option.some.inj hb).symm
    refine ⟨fun b hb => ?_, fun b hb ho => ?_, fun b hb ho => ?_⟩
    · rw [hattempts, List.dropLast_concat] at hb
      exact h.earlier b (by rw [hconcat, List.dropLast_concat]; exact hb)
    · rw [hlast b hb] at ho ⊢
      exact (hopen a ho).1
    · rw [hlast b hb] at ho
      exact (hopen a ho).2

theorem InstanceState.Sane.congr {j : InstanceState} (h : i.Sane)
    (hattempts : j.attempts = i.attempts) (hstate : j.state = i.state) : j.Sane where
  earlier := hattempts ▸ h.earlier
  phase a ha := by
    rw [hstate]
    exact h.phase a (by rwa [InstanceState.currentAttempt, ← hattempts])
  state a ha := by
    rw [hstate]
    exact h.state a (by rwa [InstanceState.currentAttempt, ← hattempts])

end Sane

/-! ## §3. Every event. -/

section Steps

variable {s : RuntimeState} {event : FabricEvent} {bounds : RuntimeBounds}
  {weights : PlacementWeights} {i j : InstanceState}

theorem closeLastAttempt_sane (h : i.Sane) {instant : LogicalInstant} {outcome : AttemptOutcome}
    {reason : ReasonCode} {phase : LifecycleState}
    (hattempts : j.attempts = closeLastAttempt i instant outcome reason phase)
    (houtcome : outcome ≠ .opened) : j.Sane :=
  h.mapLast hattempts fun _ hopen => absurd (of_decide_eq_true hopen) houtcome

theorem staleAttempt_closed (h : i.Sane) (hstale : i.staleAttempt = true) : i.Closed := by
  refine h.closed fun a ha => ?_
  rw [InstanceState.staleAttempt, ha] at hstale
  simpa using hstale

theorem InstanceStep.sane (h : InstanceStep s event bounds weights i j) (hi : i.Sane) : j.Sane := by
  cases h with
  | refreshed =>
    unfold refreshInstance
    repeat' split
    all_goals exact hi.congr rfl rfl
  | stale =>
    unfold markStale
    split
    all_goals exact hi.congr rfl rfl
  | fenced => exact (fenceInstance_closed i _ _).sane
  | lost => exact (loseInstance_closed i _).sane
  | quiesced => exact (quiesceInstance_closed i _).sane
  | acknowledged => exact hi.mapLast rfl fun _ _ => ⟨rfl, .inr (.inl rfl)⟩
  | failed => exact closeLastAttempt_sane hi rfl (by simp)
  | withdrawn => exact closeLastAttempt_sane hi rfl (by simp)
  | verified => exact closeLastAttempt_sane hi rfl (by simp)
  | replaced => exact (fenceInstance_closed _ _ _).opened rfl rfl (.inl rfl)
  | reattempted _ _ _ _ _ _ _ _ hstale =>
    exact (staleAttempt_closed hi hstale).opened rfl rfl (.inl rfl)
  | covered => exact hi.congr rfl rfl
  | retired => exact (quiesceInstance_closed i _).sane
  | withdrawing => exact (quiesceInstance_closed i _).opened rfl rfl (.inr (.inr rfl))

theorem steps_sane (h : ReflTransGen (InstanceStep s event bounds weights) i j) (hi : i.Sane) :
    j.Sane := by
  induction h with
  | refl => exact hi
  | tail _ hstep ih => exact hstep.sane ih

theorem CreatedBy.sane (h : CreatedBy s event bounds weights i) : i.Sane := by
  cases h
  refine ⟨by simp [createdInstance], fun a ha _ => ?_, fun _ _ _ => .inl rfl⟩
  simp only [InstanceState.currentAttempt, createdInstance, List.getLast?_singleton,
    Option.some.injEq] at ha
  rw [← ha]
  rfl

end Steps

/-- Every instance of the state is sane. -/
def InstancesSane (s : RuntimeState) : Prop := ∀ i ∈ s.instances, i.Sane

/-- **Every event keeps the instances sane.** -/
theorem applyEvent_sane {s : RuntimeState} (hs : InstancesSane s) (event : FabricEvent)
    (bounds : RuntimeBounds) (weights : PlacementWeights) :
    InstancesSane (applyEvent s event bounds weights).2 := by
  intro j hj
  obtain ⟨i, hi, hsteps⟩ := (applyEvent_entries s event bounds weights).origin hj
  rcases hi with hi | hcreated
  · exact steps_sane hsteps (hs i hi)
  · exact steps_sane hsteps hcreated.sane

end DpuFabric
