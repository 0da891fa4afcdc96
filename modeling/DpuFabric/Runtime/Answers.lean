/-
  Runtime.Answers — WHAT AN OK STATUS SAYS.

  `Status::ok` is read off the table of informational codes, and the table has
  `StoreClosed` in it: a closed runtime answers ok to everything and does
  nothing.  The other answers are compared with what was done: `stage` with
  the buffer and the delivery window, `checkpoint` with the snapshot file.
-/
import DpuFabric.Persist.Rotation
import DpuFabric.Runtime.Redelivery
import DpuFabric.Runtime.Shelved

namespace DpuFabric

open Lib

variable {rt : FabricRuntime} {μ : Type} {events : List FabricEvent} {st : Store}

/-! ## §1. Closing flags along a run. -/

/-- The event names itself whole, and the digest it carries, if any, is that
of its body. -/
def FabricEvent.checked (event : FabricEvent) : Bool :=
  event.identified
    && (event.payloadDigest.isZero || decide (event.payloadDigest = event.computePayloadDigest))

/-- What the calls of the store keep: the two closing flags and the buffer. -/
structure SameDoor (rt rt' : FabricRuntime) : Prop where
  closed : rt'.closed = rt.closed
  store : rt'.store.map Store.closed = rt.store.map Store.closed
  pending : rt'.pending = rt.pending

theorem SameDoor.refl (rt : FabricRuntime) : SameDoor rt rt := ⟨rfl, rfl, rfl⟩

theorem SameDoor.trans {rt' rt'' : FabricRuntime} (h : SameDoor rt rt') (h' : SameDoor rt' rt'') :
    SameDoor rt rt'' :=
  ⟨h'.closed.trans h.closed, h'.store.trans h.store, h'.pending.trans h.pending⟩

theorem SameDoor.held {rt' : FabricRuntime} (hd : SameDoor rt rt')
    (h : ∀ st, rt.store = some st → st.closed = false) :
    ∀ st, rt'.store = some st → st.closed = false := by
  intro st hst
  have hstore := hd.store
  rw [hst, Option.map_some] at hstore
  obtain ⟨st₀, hst₀, hsame⟩ := Option.map_eq_some_iff.mp hstore.symm
  rw [← hsame]
  exact h st₀ hst₀

theorem appendEvent_closed (st : Store) (event : FabricEvent) (w : World FileName μ) :
    (st.appendEvent event w).2.1.closed = st.closed := by
  unfold Store.appendEvent
  simp only
  repeat' split
  all_goals rfl

theorem rotate_closed (st : Store) (payload : List UInt8) (w : World FileName μ) :
    (st.rotate payload w).2.1.closed = st.closed := by
  unfold Store.rotate
  simp only
  repeat' split
  all_goals rfl

theorem checkpointLocked_door (rt : FabricRuntime) (w : RuntimeWorld) :
    SameDoor rt (rt.checkpointLocked w).2.1 := by
  unfold FabricRuntime.checkpointLocked
  split
  · exact .refl rt
  next st hst =>
  have hclosed := rotate_closed st (encodeBinary RuntimeState.visit rt.state)
    (w.note (.copied rt.state))
  simp only
  split
  all_goals exact ⟨rfl, by simp [hst, hclosed], rfl⟩

theorem checkpoint_door (rt : FabricRuntime) (w : RuntimeWorld) :
    SameDoor rt (rt.checkpoint w).2.1 := by
  unfold FabricRuntime.checkpoint
  split
  · exact .refl _
  · exact checkpointLocked_door rt w

theorem journal_door (rt : FabricRuntime) (event : FabricEvent) (w : RuntimeWorld) :
    SameDoor rt (rt.journal event w).2.1 := by
  refine journal_rule (R := fun rt _ rt' _ => SameDoor rt rt') (fun rt _ => .refl rt)
    SameDoor.trans ?_ checkpointLocked_door (fun rt _ => ⟨rfl, rfl, rfl⟩) rt w
  intro rt st w hst
  exact ⟨rfl, by simp [FabricRuntime.append, hst, appendEvent_closed], rfl⟩

theorem flushEvent_door (rt : FabricRuntime) (report : BatchReport) (event : FabricEvent)
    (w : RuntimeWorld) : SameDoor rt (flushEvent rt report event w).1 := by
  have hjournal := journal_door rt event w
  unfold flushEvent
  split
  · exact .refl rt
  split
  · next hj => rw [hj] at hjournal; exact hjournal
  next hj =>
  rw [hj] at hjournal
  exact hjournal.trans ⟨rfl, rfl, rfl⟩

/-- A closed runtime has dropped its buffer, an open one has its store open;
what is in the buffer has passed the checks of `stage`. -/
structure InStep (rt : FabricRuntime) : Prop where
  dropped : rt.closed = true → rt.pending = []
  held : rt.closed = false → ∀ st, rt.store = some st → st.closed = false
  checked : ∀ e ∈ rt.pending, e.checked = true

theorem InStep.sameDoor {rt' : FabricRuntime} (h : InStep rt) (hd : SameDoor rt rt') :
    InStep rt' where
  dropped hclosed := by
    rw [hd.pending]
    exact h.dropped (hd.closed ▸ hclosed)
  held hopen := hd.held (h.held (hd.closed ▸ hopen))
  checked := by
    rw [hd.pending]
    exact h.checked

/-- **The answers of `stage`**, each with its cause and what is then in the
buffer. -/
inductive StageAnswer (rt : FabricRuntime) (event : FabricEvent)
    (out : Status × FabricRuntime) : Prop where
  | closed (hclosed : rt.closed = true) (hok : out.1.ok = true)
      (hpending : out.2.pending = rt.pending)
  | refused (hopen : rt.closed = false) (hok : out.1.ok = false)
      (hpending : out.2.pending = rt.pending)
      (hcause : event.checked = false
        ∨ (∃ seen, findDelivery rt.deliveries event = some seen ∧ seen.digest ≠ eventDigest event)
        ∨ (findDelivery rt.deliveries event = none
          ∧ (event.instant ≤ rt.state.watermark
            ∨ rt.config.bounds.maxBatchEvents ≤ rt.pending.length)))
  | suppressed (hopen : rt.closed = false) (hok : out.1.ok = true)
      (hpending : out.2.pending = rt.pending) (hchecked : event.checked = true)
      (seen : DeliveryRecord) (hseen : findDelivery rt.deliveries event = some seen)
      (hdigest : seen.digest = eventDigest event)
  | staged (hopen : rt.closed = false) (hok : out.1.ok = true)
      (hpending : out.2.pending = rt.pending ++ [event])
      (hchecked : event.checked = true) (hnew : findDelivery rt.deliveries event = none)
      (hroom : rt.pending.length < rt.config.bounds.maxBatchEvents)

theorem stage_answer (rt : FabricRuntime) (event : FabricEvent) :
    StageAnswer rt event (rt.stage event) := by
  unfold FabricRuntime.stage
  split
  · next hclosed => exact .closed hclosed rfl rfl
  next hclosed =>
  have hopen : rt.closed = false := by simpa using hclosed
  split
  · next hidentity =>
    refine .refused hopen rfl rfl (.inl ?_)
    simp only [FabricEvent.checked, FabricEvent.identified]
    revert hidentity
    cases event.id.valid <;> cases event.origin.valid <;> cases event.originEpoch.valid <;> simp
  · next hidentity =>
    split
    · next hpayload =>
      refine .refused hopen rfl rfl (.inl ?_)
      simp only [Bool.and_eq_true, Bool.not_eq_true', decide_eq_false_iff_not] at hpayload
      simp [FabricEvent.checked, hpayload]
    · next hpayload =>
      have hchecked : event.checked = true := by
        simp only [FabricEvent.checked, FabricEvent.identified]
        revert hidentity hpayload
        cases event.id.valid <;> cases event.origin.valid <;>
          cases event.originEpoch.valid <;> cases event.payloadDigest.isZero <;> simp
      split
      · next seen hseen =>
        split
        · next hdigest => exact .suppressed hopen rfl rfl hchecked seen hseen hdigest
        · next hdigest =>
          exact .refused hopen rfl rfl (.inr (.inl ⟨seen, hseen, hdigest⟩))
      · next hnew =>
        split
        · next hlate => exact .refused hopen rfl rfl (.inr (.inr ⟨hnew, .inl hlate⟩))
        split
        · next hfull => exact .refused hopen rfl rfl (.inr (.inr ⟨hnew, .inr hfull⟩))
        · next hroom => exact .staged hopen rfl rfl hchecked hnew (not_le.mp hroom)

theorem stage_door (rt : FabricRuntime) (event : FabricEvent) :
    (rt.stage event).2.closed = rt.closed ∧ (rt.stage event).2.store = rt.store := by
  unfold FabricRuntime.stage
  repeat' split
  all_goals exact ⟨rfl, rfl⟩

theorem InStep.stage (h : InStep rt) (event : FabricEvent) : InStep (rt.stage event).2 := by
  obtain ⟨hclosed, hstore⟩ := stage_door rt event
  have hsame : (rt.stage event).2.pending = rt.pending → InStep (rt.stage event).2 :=
    fun hpending => h.sameDoor ⟨hclosed, by rw [hstore], hpending⟩
  cases stage_answer rt event with
  | closed _ _ hpending => exact hsame hpending
  | refused _ _ hpending _ => exact hsame hpending
  | suppressed _ _ hpending _ _ _ _ => exact hsame hpending
  | staged hopen hok hpending hchecked hnew hroom =>
    refine ⟨fun hshut => ?_, ?_, fun e he => ?_⟩
    · rw [hclosed, hopen] at hshut
      simp at hshut
    · rw [hclosed, hstore]
      exact h.held
    rw [hpending] at he
    rcases List.mem_append.mp he with he | he
    · exact h.checked e he
    · rw [List.mem_singleton.mp he]
      exact hchecked

theorem InStep.close (h : InStep rt) (w : RuntimeWorld) : InStep (rt.close w).2.1 := by
  unfold FabricRuntime.close
  split
  · exact h
  split
  all_goals exact ⟨fun _ => rfl, fun hopen => absurd hopen (by simp), fun e he =>
    absurd he (by simp)⟩

theorem InStep.call {p : Process} (h : InStep p.runtime) (c : Call) (w : RuntimeWorld) :
    InStep (p.call c w).1.runtime := by
  unfold Process.call
  split
  · next event _ => exact h.stage event
  · split
    · exact h
    next released rt hbegin =>
    unfold FabricRuntime.flushBegin at hbegin
    split at hbegin
    · simp at hbegin
    obtain ⟨-, rfl⟩ := Prod.mk.inj (Except.ok.inj hbegin)
    refine ⟨fun hshut => ?_, h.held, fun e he => h.checked e (List.mem_of_mem_filter he)⟩
    show retainedEvents p.runtime.pending _ = []
    rw [h.dropped hshut]
    rfl
  · exact h.sameDoor (checkpoint_door _ w)
  · exact h.close w
  · exact h.sameDoor (flushEvent_door ..)
  · exact h.sameDoor ⟨rfl, rfl, rfl⟩
  · exact h

/-- The flags of a runtime under recovery. -/
structure Unclosed (rt : FabricRuntime) : Prop where
  closed : rt.closed = false
  held : ∀ st, rt.store = some st → st.closed = false

theorem Unclosed.sameDoor {rt' : FabricRuntime} (h : Unclosed rt) (hd : SameDoor rt rt') :
    Unclosed rt' := ⟨hd.closed.trans h.closed, hd.held h.held⟩

theorem unclosed_walk : Walk (fun rt _ => Unclosed rt) (fun rt _ => Unclosed rt) where
  opened _ h := h
  loaded _ h := h
  held _ _ hst h := ⟨h.closed, fun _ hs => Option.some.inj hs ▸ hst⟩
  based h := h
  restored _ _ h := ⟨h.closed, h.held⟩
  replayed _ h := by
    unfold FabricRuntime.replayEvent
    split
    · exact h
    · exact ⟨h.closed, h.held⟩
  recovery _ h := ⟨h.closed, h.held⟩
  restarted := fun {rt w} classification h => by
    have hrestarted : Unclosed (rt.restarted classification) := ⟨h.closed, h.held⟩
    have hend := hrestarted.sameDoor (checkpoint_door _ w)
    simp only [FabricRuntime.restart]
    split
    · exact hend
    · exact ⟨hend.closed, hend.held⟩
  fresh h := ⟨h.closed, h.held⟩

theorem open_inStep {config : RuntimeConfig} {w w' : RuntimeWorld}
    (h : FabricRuntime.open config w = (.ok rt, w')) : InStep rt := by
  have hempty := (open_buffer h).1
  have hblank : Unclosed (blankRuntime config) := ⟨rfl, fun st hst => absurd hst (by simp [blankRuntime])⟩
  have hunclosed := (unclosed_walk.open _ hblank).1 rt w' h
  refine ⟨fun _ => hempty, fun _ => hunclosed.held, ?_⟩
  rw [hempty]
  exact fun e he => absurd he (by simp)

/-- **The flags of every process of every run.** -/
theorem run_inStep (moves : List Move) {p : Process}
    (hp : (System.after {} moves).process = some p) : InStep p.runtime :=
  run_rule (P := fun _ p => InStep p.runtime) open_inStep (fun c h => h.call c _) moves hp

/-! ## §2. Staging. -/

/-- The event is a remembered delivery: it would pass the checks of a
delivery, and the window has its record. -/
def FabricRuntime.Remembered (rt : FabricRuntime) (event : FabricEvent) : Prop :=
  event.checked = true ∧ deliveryOf event ∈ rt.deliveries.entries

/-- `stage` turns an event away that waits in the buffer already: other
content was delivered under its sequence since, or the buffer is full. -/
def FabricRuntime.TurnsAway (rt : FabricRuntime) (event : FabricEvent) : Prop :=
  event ∈ rt.pending
    ∧ ((∃ seen, findDelivery rt.deliveries event = some seen ∧ seen.digest ≠ eventDigest event)
      ∨ (findDelivery rt.deliveries event = none
        ∧ rt.config.bounds.maxBatchEvents ≤ rt.pending.length))

/-- The answer of `stage` is true of the buffer and the window. -/
def FabricRuntime.StageTrue (rt : FabricRuntime) (event : FabricEvent) : Prop :=
  (rt.stage event).1.ok = true
    ↔ event ∈ (rt.stage event).2.pending ∨ rt.Remembered event

/-- The answer of `stage` is true of what this call did. -/
def FabricRuntime.StageDone (rt : FabricRuntime) (event : FabricEvent) : Prop :=
  (rt.stage event).1.ok = true
    ↔ (rt.stage event).2.pending = rt.pending ++ [event] ∨ rt.Remembered event

section Stage

variable {rt : FabricRuntime} {event : FabricEvent}

/-- The window has one record for a sequence, and it is the one found. -/
theorem Window.remembered_iff (h : Window events rt) :
    rt.Remembered event ↔ event.checked = true
      ∧ ∃ seen, findDelivery rt.deliveries event = some seen
        ∧ seen.digest = eventDigest event := by
  refine and_congr_right fun _ => ⟨fun hmem => ?_, ?_⟩
  · exact ⟨deliveryOf event, h.find hmem rfl, rfl⟩
  rintro ⟨seen, hseen, hdigest⟩
  have hfound : rt.deliveries.entries.find? (fun seen => seen.covers event) = some seen := hseen
  have hcovers : seen.covers event = true := by simpa using List.find?_some hfound
  have hkey := (seen.covers_iff event).mp hcovers
  simp only [DeliveryRecord.key, Prod.mk.injEq] at hkey
  have hrecord : seen = deliveryOf event := by
    obtain ⟨origin, epoch, seq, digest⟩ := seen
    simp only at hkey hdigest
    obtain ⟨rfl, rfl, rfl⟩ := hkey
    subst hdigest
    rfl
  rw [← hrecord]
  exact List.mem_of_find?_eq_some hfound

theorem Window.refused_not_remembered (h : Window events rt) (hcause : event.checked = false
      ∨ (∃ seen, findDelivery rt.deliveries event = some seen ∧ seen.digest ≠ eventDigest event)
      ∨ (findDelivery rt.deliveries event = none
        ∧ (event.instant ≤ rt.state.watermark
          ∨ rt.config.bounds.maxBatchEvents ≤ rt.pending.length))) : ¬ rt.Remembered event := by
  rw [h.remembered_iff]
  rintro ⟨hchecked, seen, hseen, hdigest⟩
  rcases hcause with hbad | ⟨other, hother, hdiffers⟩ | ⟨hnone, -⟩
  · exact absurd (hchecked.symm.trans hbad) (by simp)
  · obtain rfl := Option.some.inj (hseen.symm.trans hother)
    exact hdiffers hdigest
  · exact absurd (hseen.symm.trans hnone) (by simp)

/-- **When the answer of `stage` is true.** -/
theorem stage_true_iff (hstep : InStep rt) (hwindow : Window events rt)
    (hlater : ∀ q ∈ rt.pending, rt.state.watermark < q.instant) :
    rt.StageTrue event
      ↔ (rt.closed = true → rt.Remembered event) ∧ (rt.closed = false → ¬ rt.TurnsAway event) := by
  unfold FabricRuntime.StageTrue
  cases stage_answer rt event with
  | closed hclosed hok hpending =>
    rw [hok, hpending, hstep.dropped hclosed, hclosed]
    simp
  | refused hopen hok hpending hcause =>
    rw [hok, hpending, hopen]
    simp only [Bool.false_eq_true, false_iff, not_or, hwindow.refused_not_remembered hcause,
      not_false_eq_true, and_true, IsEmpty.forall_iff, forall_const, true_and]
    -- a waiting event is refused for the two causes only
    refine not_congr ⟨fun hwaits => ⟨hwaits, ?_⟩, fun haway => haway.1⟩
    rcases hcause with hbad | hconflict | ⟨hnone, hlate | hfull⟩
    · exact absurd ((hstep.checked event hwaits).symm.trans hbad) (by simp)
    · exact .inl hconflict
    · exact absurd hlate (not_le.mpr (hlater event hwaits))
    · exact .inr ⟨hnone, hfull⟩
  | suppressed hopen hok hpending hchecked seen hseen hdigest =>
    have hremembered : rt.Remembered event :=
      hwindow.remembered_iff.mpr ⟨hchecked, seen, hseen, hdigest⟩
    refine iff_of_true (iff_of_true hok (.inr hremembered)) ⟨fun _ => hremembered, fun _ => ?_⟩
    rintro ⟨-, ⟨other, hother, hdiffers⟩ | ⟨hnone, -⟩⟩
    · obtain rfl := Option.some.inj (hseen.symm.trans hother)
      exact hdiffers hdigest
    · exact absurd (hseen.symm.trans hnone) (by simp)
  | staged hopen hok hpending hchecked hnew hroom =>
    refine iff_of_true (iff_of_true hok (.inl (by rw [hpending]; simp))) ⟨fun hclosed => ?_, fun _ => ?_⟩
    · exact absurd (hopen.symm.trans hclosed) (by simp)
    rintro ⟨-, ⟨seen, hseen, -⟩ | ⟨-, hfull⟩⟩
    · exact absurd (hseen.symm.trans hnew) (by simp)
    · exact absurd hfull (not_le.mpr hroom)

theorem stage_done_iff (hwindow : Window events rt) :
    rt.StageDone event ↔ (rt.closed = true → rt.Remembered event) := by
  unfold FabricRuntime.StageDone
  cases stage_answer rt event with
  | closed hclosed hok hpending =>
    rw [hok, hpending, hclosed]
    simp
  | refused hopen hok hpending hcause =>
    rw [hok, hpending, hopen]
    simp [hwindow.refused_not_remembered hcause]
  | suppressed hopen hok hpending hchecked seen hseen hdigest =>
    have hremembered : rt.Remembered event :=
      hwindow.remembered_iff.mpr ⟨hchecked, seen, hseen, hdigest⟩
    exact iff_of_true (iff_of_true hok (.inr hremembered)) (fun _ => hremembered)
  | staged hopen hok hpending hchecked hnew hroom =>
    refine iff_of_true (iff_of_true hok (.inl hpending)) fun hclosed => ?_
    exact absurd (hopen.symm.trans hclosed) (by simp)

end Stage

/-! ## §3. Checkpoints. -/

/-- The snapshot file holds the state, up to the count of journaled events,
which a checkpoint starts anew. -/
def FabricRuntime.Covered (rt : FabricRuntime) (d : Disk FileName) : Prop :=
  ∃ st, rt.store = some st ∧ ∃ n, d .snapshot = some (snapshotFrame st.options
    (encodeBinary RuntimeState.visit { rt.state with journaledEvents := n }))

/-- The answer of `checkpoint` is true of the snapshot file. -/
def FabricRuntime.CheckpointTrue (rt : FabricRuntime) (w : RuntimeWorld) : Prop :=
  (rt.checkpoint w).1.ok = true ↔ rt.store = none ∨ rt.Covered (rt.checkpoint w).2.2.disk

/-- The snapshot of the state fits into a record, and no call up to the rename
fails. -/
def FabricRuntime.Renames (rt : FabricRuntime) (st : Store) (w : RuntimeWorld) : Prop :=
  (snapshotFrame st.options (encodeBinary RuntimeState.visit rt.state)).length
      ≤ st.options.maxRecordBytes
    ∧ w.smooth 7 = true

instance (rt : FabricRuntime) (st : Store) (w : RuntimeWorld) : Decidable (rt.Renames st w) :=
  inferInstanceAs (Decidable (_ ∧ _))

theorem checkpointLocked_answer (hst : rt.store = some st) (w : RuntimeWorld) :
    (rt.checkpointLocked w).1.ok
        = (st.rotate (encodeBinary RuntimeState.visit rt.state) (w.note (.copied rt.state))).1.ok
      ∧ (rt.checkpointLocked w).2.2
        = (st.rotate (encodeBinary RuntimeState.visit rt.state) (w.note (.copied rt.state))).2.2 := by
  unfold FabricRuntime.checkpointLocked
  rw [hst]
  simp only
  split
  · exact ⟨rfl, rfl⟩
  · next hok => exact ⟨by simpa using hok, rfl⟩

/-- **When the answer of `checkpoint` is true.**  A closed runtime has to be
covered already; an open one has to get through once it has renamed the
snapshot, and must not be covered already if it does not get there. -/
theorem checkpoint_true_iff (hstep : InStep rt) (w : RuntimeWorld) :
    rt.CheckpointTrue w
      ↔ ∀ st, rt.store = some st →
          (rt.closed = true → rt.Covered w.disk)
            ∧ (rt.closed = false →
                (rt.Renames st w → w.smooth st.rotationCalls = true)
                  ∧ (¬ rt.Renames st w → ¬ rt.Covered w.disk)) := by
  unfold FabricRuntime.CheckpointTrue FabricRuntime.checkpoint
  by_cases hclosed : rt.closed = true
  · simp only [if_pos hclosed]
    have hok : (refuse .storeClosed (txt "runtime is closed")).ok = true := rfl
    cases hstore : rt.store with
    | none => simp [hok]
    | some st => simp [hok, hclosed]
  · have hopen : rt.closed = false := by simpa using hclosed
    simp only [if_neg hclosed]
    cases hstore : rt.store with
    | none => simp [FabricRuntime.checkpointLocked, hstore]
    | some st =>
      obtain ⟨hanswer, hdisk⟩ := rotate_answer (hstep.held hopen st hstore)
        (encodeBinary RuntimeState.visit rt.state) (w.note (.copied rt.state))
      rw [World.disk_note] at hdisk
      replace hanswer : _ ↔ _ ∧ w.smooth st.rotationCalls = true := hanswer
      replace hdisk : _ = if rt.Renames st w then _ else w.disk .snapshot := hdisk
      have hseven : w.smooth st.rotationCalls = true → w.smooth 7 = true := by
        intro hall
        rw [Store.rotationCalls, World.smooth_add, Bool.and_eq_true] at hall
        exact hall.1
      obtain ⟨hstatus, hworld⟩ := checkpointLocked_answer hstore w
      rw [hstatus, hworld, hanswer]
      generalize (st.rotate (encodeBinary RuntimeState.visit rt.state)
        (w.note (.copied rt.state))).2.2 = w' at hdisk ⊢
      simp only [reduceCtorEq, false_or, Option.some.injEq, forall_eq', hopen, Bool.false_eq_true,
        IsEmpty.forall_iff, true_and, forall_const]
      have hcovered : ∀ d : Disk FileName, d .snapshot = w.disk .snapshot →
          (rt.Covered d ↔ rt.Covered w.disk) := by
        intro d hd
        unfold FabricRuntime.Covered
        rw [hd]
      by_cases hrenames : rt.Renames st w
      · rw [if_pos hrenames] at hdisk
        have hnow : rt.Covered w'.disk := ⟨st, hstore, rt.state.journaledEvents, hdisk⟩
        simp [hnow, hrenames, hrenames.1]
      · rw [if_neg hrenames] at hdisk
        rw [hcovered w'.disk hdisk]
        have hfails : ¬ ((snapshotFrame st.options (encodeBinary RuntimeState.visit
            rt.state)).length ≤ st.options.maxRecordBytes ∧ w.smooth st.rotationCalls = true) :=
          fun hall => hrenames ⟨hall.1, hseven hall.2⟩
        simp [hfails, hrenames]

/-! ## §4. Every process of every run. -/

/-- **An ok status means the work was done**, in every process of every run,
exactly so far: a closed runtime answers ok whatever it is asked; an open one
answers truly, but for an event that waits in the buffer when it is turned
away, a rotation that fails behind its rename, and one that fails before it
while the state is covered already. -/
theorem ok_means_done_iff (moves : List Move) (p : Process)
    (hp : (System.after {} moves).process = some p) :
    (∀ event, p.runtime.StageTrue event
        ↔ (p.runtime.closed = true → p.runtime.Remembered event)
          ∧ (p.runtime.closed = false → ¬ p.runtime.TurnsAway event))
      ∧ (∀ event, p.runtime.StageDone event
        ↔ (p.runtime.closed = true → p.runtime.Remembered event))
      ∧ (∀ w : RuntimeWorld, p.runtime.CheckpointTrue w
        ↔ ∀ st, p.runtime.store = some st →
            (p.runtime.closed = true → p.runtime.Covered w.disk)
              ∧ (p.runtime.closed = false →
                  (p.runtime.Renames st w → w.smooth st.rotationCalls = true)
                    ∧ (¬ p.runtime.Renames st w → ¬ p.runtime.Covered w.disk))) := by
  have hstep := run_inStep moves hp
  have hwindow := (run_handling moves hp).window
  obtain ⟨past, horder⟩ := run_ordered moves p hp
  exact ⟨fun _ => stage_true_iff hstep hwindow horder.pending, fun _ => stage_done_iff hwindow,
    fun w => checkpoint_true_iff hstep w⟩

/-- A runtime that has only been opened. -/
def openedClock : System := System.after {} [.run (.start sampleConfig) []]

theorem openedClock_runs : openedClock.process.isSome = true := by decide +kernel

def clockEvent : FabricEvent := sampleEvent 1 (.logicalTimeAdvanced { now := ⟨1⟩ })

/-- In a runtime that was just opened, staging an event puts it into the
buffer, and both answers are true. -/
theorem opened_runtime_answers :
    ∃ p, openedClock.process = some p ∧ p.runtime.closed = false
      ∧ p.runtime.StageTrue clockEvent ∧ p.runtime.CheckpointTrue {} := by
  let p := openedClock.process.get openedClock_runs
  have hp : openedClock.process = some p := (Option.some_get openedClock_runs).symm
  have hopen : p.runtime.closed = false := by decide +kernel
  have hempty : p.runtime.pending = [] := by decide +kernel
  have hstore : p.runtime.store = none := by decide +kernel
  obtain ⟨hstage, -, hcheckpoint⟩ := ok_means_done_iff [.run (.start sampleConfig) []] p hp
  refine ⟨p, hp, hopen, (hstage clockEvent).mpr ⟨fun hclosed => ?_, fun _ haway => ?_⟩,
    (hcheckpoint {}).mpr fun st hst => ?_⟩
  · exact absurd (hopen.symm.trans hclosed) (by simp)
  · rw [FabricRuntime.TurnsAway, hempty] at haway
    exact absurd haway.1 (by simp)
  · exact absurd (hst.symm.trans hstore) (by simp)

/-- A runtime with a store whose closing checkpoint fails at its first call. -/
def failedClose : List Move := [.run (.start storedConfig) [], .run (.call .close) [some 0]]

theorem failedClose_runs : (System.after {} failedClose).process.isSome = true := by decide +kernel

theorem closedClock_runs : (System.after {} [.run (.start sampleConfig) [],
    .run (.call .close) []]).process.isSome = true := by decide +kernel

/-- **A closed runtime answers ok and does nothing**: an event that nobody
remembers is not staged, and a state whose last checkpoint failed is not
written. -/
theorem closed_runtime_answers_ok :
    (∃ p, (System.after {} [.run (.start sampleConfig) [], .run (.call .close) []]).process = some p
        ∧ (p.runtime.stage clockEvent).1.ok = true
        ∧ clockEvent ∉ (p.runtime.stage clockEvent).2.pending
        ∧ p.runtime.deliveries.entries = [] ∧ ¬ p.runtime.StageTrue clockEvent)
      ∧ ∃ p, (System.after {} failedClose).process = some p
        ∧ (p.runtime.checkpoint { trace := (System.after {} failedClose).trace }).1.ok = true
        ∧ p.runtime.store.isSome = true
        ∧ (p.runtime.checkpoint { trace := (System.after {} failedClose).trace }).2.2.disk .snapshot
            = none
        ∧ ¬ p.runtime.CheckpointTrue { trace := (System.after {} failedClose).trace } := by
  constructor
  · let p := (System.after {} [.run (.start sampleConfig) [], .run (.call .close) []]).process.get
      closedClock_runs
    have hok : (p.runtime.stage clockEvent).1.ok = true := by decide +kernel
    have hout : clockEvent ∉ (p.runtime.stage clockEvent).2.pending := by decide +kernel
    have hnone : p.runtime.deliveries.entries = [] := by decide +kernel
    refine ⟨p, (Option.some_get closedClock_runs).symm, hok, hout, hnone, fun htrue => ?_⟩
    rcases htrue.mp hok with hin | ⟨-, hremembered⟩
    · exact hout hin
    · rw [hnone] at hremembered
      simp at hremembered
  · let p := (System.after {} failedClose).process.get failedClose_runs
    have hok : (p.runtime.checkpoint { trace := (System.after {} failedClose).trace }).1.ok = true := by
      decide +kernel
    have hstore : p.runtime.store.isSome = true := by decide +kernel
    have hdisk : (p.runtime.checkpoint
        { trace := (System.after {} failedClose).trace }).2.2.disk .snapshot = none := by
      decide +kernel
    refine ⟨p, (Option.some_get failedClose_runs).symm, hok, hstore, hdisk, fun htrue => ?_⟩
    rcases htrue.mp hok with hnone | ⟨st, -, n, hsnapshot⟩
    · rw [hnone] at hstore
      simp at hstore
    · exact absurd (hsnapshot.symm.trans hdisk) (by simp)

end DpuFabric
