/-
  Engine.Ledger — THE ATTEMPT LEDGER OF AN INSTANCE.

  The attempts of an instance are a ledger: one is written when the instance
  is created, further ones are added at the end under the next number, only
  the last one is ever changed, and a closed one is never touched again.

      AttemptLaw   — the joint law of lifecycle state and attempts, per
                     instance
      KeepsClosed  — what stands closed in a ledger stands there afterwards

  Both are proved for one change of one entry (`InstanceStep`) and carried
  from there to every event.
-/
import DpuFabric.Engine.Attempts
import DpuFabric.Engine.Proven

namespace DpuFabric

open Lib Relation

variable {a : AttemptRecord} {xs : List AttemptRecord} {k : Nat}

/-! ## §1. Numbers. -/

/-- The attempts are numbered 1, 2, 3, … as far as the counter goes. -/
def Consecutive (attempts : List AttemptRecord) : Prop :=
  ∀ k a, attempts[k]? = some a → a.number.value.toNat = min (k + 1) (2 ^ 64 - 1)

theorem Consecutive.congr {ys : List AttemptRecord} (h : Consecutive xs)
    (hsame : ys.map AttemptRecord.number = xs.map AttemptRecord.number) : Consecutive ys := by
  intro k a ha
  have hnumber : (xs.map AttemptRecord.number)[k]? = some a.number := by
    rw [← hsame, List.getElem?_map, ha]
    rfl
  rw [List.getElem?_map, Option.map_eq_some_iff] at hnumber
  obtain ⟨b, hb, hab⟩ := hnumber
  rw [← hab]
  exact h k b hb

theorem saturatingNext_toNat {tag : CounterTag} (c : Counter tag) :
    c.saturatingNext.value.toNat = min (c.value.toNat + 1) (2 ^ 64 - 1) := by
  have hlt : c.value.toNat < 2 ^ 64 := c.value.toNat_lt
  have hone : (1 : UInt64).toNat = 1 := rfl
  unfold Counter.saturatingNext saturatingAdd checkedAdd
  rw [hone]
  split
  · next hroom =>
    rw [Option.getD_some, UInt64.toNat_add, hone]
    omega
  · next hfull =>
    have hmax : maxU64.toNat = 2 ^ 64 - 1 := by decide
    rw [Option.getD_none, hmax]
    omega

theorem getElem?_concat_cases {b : AttemptRecord} (h : (xs ++ [a])[k]? = some b) :
    xs[k]? = some b ∨ (k = xs.length ∧ b = a) := by
  rcases Nat.lt_or_ge k xs.length with hk | hk
  · rw [List.getElem?_append_left hk] at h
    exact .inl h
  rw [List.getElem?_append_right hk, List.getElem?_singleton] at h
  split at h
  · next hzero => exact .inr ⟨by omega, (Option.some.inj h).symm⟩
  · simp at h

theorem Consecutive.opened (h : Consecutive xs) (ha : a.number = nextAttemptNumber xs) :
    Consecutive (xs ++ [a]) := by
  intro k b hb
  rcases getElem?_concat_cases hb with hb | ⟨rfl, rfl⟩
  · exact h k b hb
  rw [ha, nextAttemptNumber]
  rcases List.eq_nil_or_concat' xs with rfl | ⟨ys, c, hconcat⟩
  · rfl
  rw [hconcat, List.getLast?_concat, ← hconcat]
  have hlast : xs[ys.length]? = some c := by
    rw [hconcat, List.getElem?_append_right (le_refl _)]
    simp
  have hlength : xs.length = ys.length + 1 := by rw [hconcat]; simp
  rw [saturatingNext_toNat, h _ c hlast]
  omega

/-! ## §2. The law. -/

/-- What the state of an instance says about its attempts, beyond their being
sane. -/
structure InstanceState.Ledgered (i : InstanceState) : Prop where
  started : i.attempts ≠ []
  numbered : Consecutive i.attempts
  live : i.state = .authorized ∨ i.state = .acknowledged →
    ∃ a, i.currentAttempt = some a ∧ a.outcome = .opened
  proven : i.state = .verified ∨ i.state = .withdrawn →
    ∃ a, i.currentAttempt = some a ∧ a.outcome = .verified

/-- The law of the attempt ledger. -/
structure AttemptLaw (i : InstanceState) : Prop where
  started : i.attempts ≠ []
  numbered : Consecutive i.attempts
  lastOpen : ∀ a ∈ i.attempts.dropLast, a.outcome ≠ .opened
  live : i.state = .authorized ∨ i.state = .acknowledged →
    ∃ a, i.currentAttempt = some a ∧ a.outcome = .opened
  proven : i.state = .verified ∨ i.state = .withdrawn →
    ∃ a, i.currentAttempt = some a ∧ a.outcome = .verified
  ended : i.state = .failed ∨ i.state = .lost ∨ i.state = .unverified →
    ∀ a ∈ i.attempts, a.outcome ≠ .opened

theorem AttemptRecord.isOpen_eq_false : a.isOpen = false ↔ a.outcome ≠ .opened := by
  simp [AttemptRecord.isOpen]

theorem InstanceState.Ledgered.law {i : InstanceState} (h : i.Ledgered) (hsane : i.Sane) :
    AttemptLaw i where
  started := h.started
  numbered := h.numbered
  lastOpen a ha := AttemptRecord.isOpen_eq_false.mp (hsane.earlier a ha)
  live := h.live
  proven := h.proven
  ended hstate a ha := by
    refine AttemptRecord.isOpen_eq_false.mp (hsane.closed_of_state ?_ a ha)
    rcases hstate with hs | hs | hs <;> simp [hs]

section Ledgered

variable {i j : InstanceState}

theorem InstanceState.Ledgered.congr (h : i.Ledgered) (hattempts : j.attempts = i.attempts)
    (hstate : j.state = i.state) : j.Ledgered where
  started := hattempts ▸ h.started
  numbered := hattempts ▸ h.numbered
  live := by
    rw [hstate, InstanceState.currentAttempt, hattempts]
    exact h.live
  proven := by
    rw [hstate, InstanceState.currentAttempt, hattempts]
    exact h.proven

theorem InstanceState.Ledgered.idle (h : i.Ledgered)
    (hnumbers : j.attempts.map AttemptRecord.number = i.attempts.map AttemptRecord.number)
    (hlive : ¬ (j.state = .authorized ∨ j.state = .acknowledged))
    (hproven : ¬ (j.state = .verified ∨ j.state = .withdrawn)) : j.Ledgered where
  started hnil := by
    rw [hnil, List.map_nil, eq_comm, List.map_eq_nil_iff] at hnumbers
    exact h.started hnumbers
  numbered := h.numbered.congr hnumbers
  live hs := absurd hs hlive
  proven hs := absurd hs hproven

theorem cancel_number (instant : LogicalInstant) (reason : ReasonCode) (a : AttemptRecord) :
    (a.cancel instant reason).number = a.number := by
  unfold AttemptRecord.cancel
  split <;> rfl

theorem cancelAll_numbers (instant : LogicalInstant) (reason : ReasonCode)
    (attempts : List AttemptRecord) :
    (attempts.map (AttemptRecord.cancel instant reason)).map AttemptRecord.number
      = attempts.map AttemptRecord.number := by
  rw [List.map_map]
  exact List.map_congr_left fun a _ => cancel_number instant reason a

theorem cancel_of_closed (h : a.isOpen = false) (instant : LogicalInstant) (reason : ReasonCode) :
    a.cancel instant reason = a := by
  unfold AttemptRecord.cancel
  exact if_neg (by simpa [AttemptRecord.isOpen] using h)

/-- A fence takes every state with an open attempt to one that claims nothing,
and leaves a proven withdrawal. -/
theorem InstanceState.Ledgered.fenced (h : i.Ledgered) (instant : LogicalInstant)
    (reason : ReasonCode) : (fenceInstance i instant reason).Ledgered := by
  have hnumbers := cancelAll_numbers instant reason i.attempts
  refine ⟨?_, h.numbered.congr hnumbers, fun hs => ?_, fun hs => ?_⟩
  · intro hnil
    exact h.started (List.map_eq_nil_iff.mp hnil)
  · have hfenced : fencedState i.state = .authorized ∨ fencedState i.state = .acknowledged := hs
    revert hfenced
    cases i.state <;> simp [fencedState]
  · have hfenced : fencedState i.state = .verified ∨ fencedState i.state = .withdrawn := hs
    have hstate : i.state = .withdrawn := by
      revert hfenced
      cases i.state <;> simp [fencedState]
    obtain ⟨a, ha, hverified⟩ := h.proven (.inr hstate)
    have hclosed : a.isOpen = false := AttemptRecord.isOpen_eq_false.mpr (by simp [hverified])
    refine ⟨a, ?_, hverified⟩
    show (i.attempts.map (AttemptRecord.cancel instant reason)).getLast? = some a
    rw [List.getLast?_map, show i.attempts.getLast? = some a from ha, Option.map_some,
      cancel_of_closed hclosed]

/-- A change of the last attempt that decides what the state says of it. -/
theorem InstanceState.Ledgered.mapLast (h : i.Ledgered) {f : AttemptRecord → AttemptRecord}
    (hattempts : j.attempts = mapLastAttempt f i.attempts) (hnumber : ∀ a, (f a).number = a.number)
    (hlive : j.state = .authorized ∨ j.state = .acknowledged →
      ∀ a, i.currentAttempt = some a → (f a).outcome = .opened)
    (hproven : j.state = .verified ∨ j.state = .withdrawn → ∀ a, (f a).outcome = .verified) :
    j.Ledgered := by
  rcases List.eq_nil_or_concat' i.attempts with hnil | ⟨xs, a, hconcat⟩
  · exact absurd hnil h.started
  have hlast : i.currentAttempt = some a := by
    rw [InstanceState.currentAttempt, hconcat, List.getLast?_concat]
  rw [hconcat, mapLastAttempt_concat] at hattempts
  have hlast' : j.currentAttempt = some (f a) := by
    rw [InstanceState.currentAttempt, hattempts, List.getLast?_concat]
  refine ⟨by rw [hattempts]; simp, h.numbered.congr ?_, fun hs => ?_, fun hs => ?_⟩
  · rw [hattempts, hconcat, List.map_append, List.map_append, List.map_singleton,
      List.map_singleton, hnumber]
  · exact ⟨f a, hlast', hlive hs a hlast⟩
  · exact ⟨f a, hlast', hproven hs a⟩

theorem ledgered_opened (hxs : Consecutive xs)
    (hattempts : j.attempts = xs ++ [a]) (hnumber : a.number = nextAttemptNumber xs)
    (hopen : a.outcome = .opened) (hproven : ¬ (j.state = .verified ∨ j.state = .withdrawn)) :
    j.Ledgered where
  started := by rw [hattempts]; simp
  numbered := hattempts ▸ hxs.opened hnumber
  live _ := ⟨a, by rw [InstanceState.currentAttempt, hattempts, List.getLast?_concat], hopen⟩
  proven hs := absurd hs hproven

end Ledgered

/-! ## §3. Closed attempts. -/

/-- What stands closed in the one ledger stands in the other, at its place. -/
def KeepsClosed (i j : InstanceState) : Prop :=
  ∀ (k : Nat) (a : AttemptRecord), i.attempts[k]? = some a → a.isOpen = false →
    j.attempts[k]? = some a

section KeepsClosed

variable {i j : InstanceState}

theorem KeepsClosed.of_attempts_eq (h : j.attempts = i.attempts) : KeepsClosed i j := by
  intro k a ha _
  rw [h]
  exact ha

theorem KeepsClosed.trans {l : InstanceState} (h : KeepsClosed i j) (h' : KeepsClosed j l) :
    KeepsClosed i l :=
  fun k a ha hclosed => h' k a (h k a ha hclosed) hclosed

theorem KeepsClosed.cancelled {instant : LogicalInstant} {reason : ReasonCode}
    (h : j.attempts = i.attempts.map (AttemptRecord.cancel instant reason)) : KeepsClosed i j := by
  intro k a ha hclosed
  rw [h, List.getElem?_map, ha, Option.map_some, cancel_of_closed hclosed]

theorem KeepsClosed.appended (h : j.attempts = i.attempts ++ [a]) : KeepsClosed i j := by
  intro k b hb _
  rw [h, List.getElem?_append_left (List.getElem?_eq_some_iff.mp hb).1]
  exact hb

theorem KeepsClosed.mapLast {f : AttemptRecord → AttemptRecord}
    (hlast : i.currentAttempt = some a) (hopen : a.outcome = .opened)
    (h : j.attempts = mapLastAttempt f i.attempts) : KeepsClosed i j := by
  intro k b hb hclosed
  rcases List.eq_nil_or_concat' i.attempts with hnil | ⟨xs, c, hconcat⟩
  · rw [hnil] at hb
    simp at hb
  obtain rfl : c = a := by
    rw [InstanceState.currentAttempt, hconcat, List.getLast?_concat] at hlast
    exact Option.some.inj hlast
  rw [hconcat] at hb
  rw [h, hconcat, mapLastAttempt_concat]
  rcases getElem?_concat_cases hb with hb | ⟨-, rfl⟩
  · rw [List.getElem?_append_left (List.getElem?_eq_some_iff.mp hb).1]
    exact hb
  · exact absurd hopen (AttemptRecord.isOpen_eq_false.mp hclosed)

end KeepsClosed

/-! ## §4. Every event. -/

section Steps

variable {s s' : RuntimeState} {event : FabricEvent} {bounds : RuntimeBounds}
  {weights : PlacementWeights} {i j : InstanceState}

theorem checkAcknowledged_current {body : ExecutionAcknowledged}
    (h : checkAcknowledged s body = .ok (k, i)) :
    ∃ a, i.currentAttempt = some a ∧ a.outcome = .opened := by
  simp only [checkAcknowledged, checkAcknowledged_find h] at h
  split at h
  · simp at h
  split at h
  · simp at h
  next a ha =>
  split at h
  · simp at h
  next hpass =>
  rw [not_or, Bool.not_eq_false] at hpass
  exact ⟨a, ha, of_decide_eq_true hpass.2⟩

theorem InstanceStep.ledgered (h : InstanceStep s event bounds weights i j) (hi : i.Ledgered) :
    j.Ledgered := by
  cases h with
  | refreshed =>
    unfold refreshInstance
    repeat' split
    all_goals exact hi.congr rfl rfl
  | stale =>
    unfold markStale
    split
    all_goals exact hi.congr rfl rfl
  | fenced => exact hi.fenced _ _
  | lost => exact hi.idle (cancelAll_numbers _ _ _) (by simp [loseInstance]) (by simp [loseInstance])
  | quiesced =>
    exact hi.idle (cancelAll_numbers _ _ _) (by simp [quiesceInstance, cancelOpenAttempts])
      (by simp [quiesceInstance, cancelOpenAttempts])
  | acknowledged body k _ hbody hchecks =>
    obtain ⟨a, ha, hopen⟩ := checkAcknowledged_current hchecks
    refine hi.mapLast rfl (fun _ => rfl) (fun _ b hb => ?_) (by simp [acknowledgeInstance])
    rw [← Option.some.inj (ha.symm.trans hb)]
    exact hopen
  | failed => exact hi.mapLast rfl (fun _ => rfl) (by simp [failInstance]) (by simp [failInstance])
  | withdrawn =>
    exact hi.mapLast rfl (fun _ => rfl)
      (by simp [withdrawInstance, fenceInstanceWithoutState]) fun _ _ => rfl
  | verified => exact hi.mapLast rfl (fun _ => rfl) (by simp [verifyInstance]) fun _ _ => rfl
  | replaced =>
    exact ledgered_opened (hi.numbered.congr (cancelAll_numbers _ _ i.attempts)) rfl rfl rfl
      (by simp [replacedInstance, authorizeAttempt])
  | reattempted =>
    exact ledgered_opened hi.numbered rfl rfl rfl (by simp [reattemptedInstance, authorizeAttempt])
  | covered => exact hi.congr rfl rfl
  | retired =>
    exact hi.idle (cancelAll_numbers _ _ _) (by simp [quiesceInstance, cancelOpenAttempts])
      (by simp [quiesceInstance, cancelOpenAttempts])
  | withdrawing =>
    exact ledgered_opened (hi.numbered.congr (cancelAll_numbers _ _ i.attempts)) rfl rfl rfl
      (by simp [withdrawalAttempt, quiesceInstance, cancelOpenAttempts])

theorem steps_ledgered (h : ReflTransGen (InstanceStep s event bounds weights) i j)
    (hi : i.Ledgered) : j.Ledgered := by
  induction h with
  | refl => exact hi
  | tail _ hstep ih => exact hstep.ledgered ih

theorem CreatedBy.ledgered (h : CreatedBy s event bounds weights i) : i.Ledgered := by
  cases h
  exact ledgered_opened (fun _ _ ha => absurd ha (by simp)) (List.nil_append _).symm rfl rfl
    (by simp [createdInstance])

/-- **A step does not touch a closed attempt.** -/
theorem InstanceStep.keepsClosed (h : InstanceStep s event bounds weights i j) :
    KeepsClosed i j := by
  cases h with
  | refreshed =>
    refine .of_attempts_eq ?_
    unfold refreshInstance
    repeat' split
    all_goals rfl
  | stale =>
    refine .of_attempts_eq ?_
    unfold markStale
    split
    all_goals rfl
  | fenced | lost | quiesced | retired => exact .cancelled rfl
  | acknowledged body k _ hbody hchecks =>
    obtain ⟨a, ha, hopen⟩ := checkAcknowledged_current hchecks
    exact .mapLast ha hopen rfl
  | failed body k _ hbody hchecks =>
    obtain ⟨a, ha, -, hopen⟩ := (checkEffect_ok hchecks).2.attempt
    exact .mapLast ha hopen rfl
  | withdrawn body k _ hbody hchecks =>
    obtain ⟨a, ha, -, hopen⟩ := (checkEffect_ok hchecks).2.attempt
    exact .mapLast ha hopen rfl
  | verified body k _ hbody hchecks =>
    obtain ⟨a, ha, -, hopen⟩ := (checkEffect_ok hchecks).2.attempt
    exact .mapLast ha hopen rfl
  | replaced => exact (KeepsClosed.cancelled rfl).trans (.appended rfl)
  | reattempted => exact .appended rfl
  | covered => exact .of_attempts_eq rfl
  | withdrawing => exact (KeepsClosed.cancelled rfl).trans (.appended rfl)

theorem steps_keepsClosed (h : ReflTransGen (InstanceStep s event bounds weights) i j) :
    KeepsClosed i j := by
  induction h with
  | refl => exact .of_attempts_eq rfl
  | tail _ hstep ih => exact ih.trans hstep.keepsClosed

end Steps

/-- Every instance of the state keeps its ledger. -/
def InstancesLedgered (s : RuntimeState) : Prop := ∀ i ∈ s.instances, i.Ledgered

theorem applyEvent_ledgered {s : RuntimeState} (hs : InstancesLedgered s) (event : FabricEvent)
    (bounds : RuntimeBounds) (weights : PlacementWeights) :
    InstancesLedgered (applyEvent s event bounds weights).2 := by
  intro j hj
  obtain ⟨i, hi, hsteps⟩ := (applyEvent_entries s event bounds weights).origin hj
  rcases hi with hi | hcreated
  · exact steps_ledgered hsteps (hs i hi)
  · exact steps_ledgered hsteps hcreated.ledgered

/-- The attempt stands at its place in the ledger of the instance. -/
def Ledgers (x : InstanceId) (k : Nat) (a : AttemptRecord) (instances : List InstanceState) : Prop :=
  ∃ i ∈ instances, i.id = x ∧ i.attempts[k]? = some a

theorem Entrywise.ledgers {s : RuntimeState} {event : FabricEvent} {bounds : RuntimeBounds}
    {weights : PlacementWeights} {after : List InstanceState}
    (h : Entrywise s event bounds weights after) {x : InstanceId}
    (hclosed : a.isOpen = false) (hs : Ledgers x k a s.instances) : Ledgers x k a after := by
  obtain ⟨i, hi, hid, ha⟩ := hs
  obtain ⟨created, changed, hperm, hforall, -⟩ := h
  obtain ⟨j, hj, hsteps⟩ := forall₂_mem_left hforall (List.mem_append_left created hi)
  exact ⟨j, hperm.mem_iff.mpr hj, (steps_id_eq hsteps).trans hid,
    steps_keepsClosed hsteps k a ha hclosed⟩

end DpuFabric
