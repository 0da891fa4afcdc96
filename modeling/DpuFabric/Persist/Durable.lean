/-
  Persist.Durable — WHAT THE FILES OF A STORE HOLD, AND WHAT ITS CALLS MAKE OF THEM.

  `Stored` reads the two files as a snapshot payload and a list of journal
  payloads.  Where no call fails:

      append_clean      — `append_event` adds one payload
      rotate_clean      — `rotate` replaces the snapshot, then empties the
                          journal; in between the files hold BOTH
-/
import DpuFabric.Persist.Store

namespace DpuFabric

open Lib World

variable {p : List UInt8} {st : Store} {o : StoreOptions}

/-! ## §1. Contents. -/

/-- The payload of the snapshot, if there is one, and those of the journal. -/
structure Contents where
  base : Option (List UInt8)
  journal : List (List UInt8)

/-- The files hold these payloads, within the bounds of the store. -/
structure Stored (o : StoreOptions) (d : Disk FileName) (c : Contents) : Prop where
  snapshot : d .snapshot = c.base.map (snapshotFrame o)
  journal : (d .journal).getD [] = journalOf o.format o.semantic c.journal
  baseFits : ∀ p ∈ c.base, p ≠ [] ∧ (snapshotFrame o p).length ≤ o.maxRecordBytes
  recordFits : ∀ p ∈ c.journal, (frame .event o.format o.semantic p).length ≤ o.maxRecordBytes
  journalFits : (journalOf o.format o.semantic c.journal).length ≤ o.maxJournalBytes

theorem stored_empty (o : StoreOptions) :
    Stored o (fun _ => none) { base := none, journal := [] } := by
  refine ⟨rfl, rfl, ?_, ?_, ?_⟩ <;> simp [journalOf]

theorem Stored.congr {d d' : Disk FileName} {c : Contents} (h : Stored o d c)
    (hs : d' .snapshot = d .snapshot) (hj : (d' .journal).getD [] = (d .journal).getD []) :
    Stored o d' c :=
  ⟨hs.trans h.snapshot, hj.trans h.journal, h.baseFits, h.recordFits, h.journalFits⟩

theorem payload_length_le (kind : RecordKind) (format semantic : Nat) (p : List UInt8) :
    p.length ≤ (frame kind format semantic p).length := by
  rw [frame_length]
  omega

/-! ## §2. Reading a file. -/

variable {μ : Type}

theorem fileExists_clean (f : FileName) (t : List (Action FileName μ)) :
    fileExists f (clean t) = ((diskAfter t f).isSome, clean (t ++ [.file (.probe f) none])) := by
  simp [fileExists, perform_clean, disk_clean]

theorem readWholeFile_clean (o : StoreOptions) (f : FileName) {maxBytes : Nat}
    {t : List (Action FileName μ)} (h : ((diskAfter t f).getD []).length ≤ maxBytes) :
    ∃ u, readWholeFile o f maxBytes (clean t) = (.ok ((diskAfter t f).getD []), clean (t ++ u))
      ∧ Quiet u := by
  unfold readWholeFile
  simp only
  generalize hb : ((clean t).disk f).getD [] = bytes
  have hbytes : (diskAfter t f).getD [] = bytes := hb
  rw [hbytes] at h ⊢
  simp only [runSteps_clean, Nat.not_lt.mpr h, if_false]
  refine ⟨_, by rw [List.append_assoc], (quiet_calls ?_).append (quiet_calls ?_)⟩
  · simp [FileOp.readOnly]
  · split <;> simp [FileOp.readOnly]

theorem frame_ne_nil (kind : RecordKind) (format semantic : Nat) (p : List UInt8) :
    frame kind format semantic p ≠ [] := by
  intro h
  have hlen := frame_length kind format semantic p
  rw [h, List.length_nil, frameHeaderBytes] at hlen
  omega

/-! ## §3. Calls that change neither file. -/

/-- A successful call that leaves the snapshot and the bytes of the journal. -/
def Idle (a : Action FileName μ) : Prop :=
  ∃ op, a = .file op none ∧ op ≠ .rename .temp .snapshot
    ∧ ∀ d : Disk FileName, op.apply d none .snapshot = d .snapshot
        ∧ (op.apply d none .journal).getD [] = (d .journal).getD []

theorem idle_of_not_touches {op : FileOp FileName} (hs : op.touches .snapshot = false)
    (hj : op.touches .journal = false) : Idle (.file op none : Action FileName μ) := by
  refine ⟨op, rfl, ?_, fun d => ?_⟩
  · rintro rfl
    simp [FileOp.touches] at hs
  · rw [FileOp.apply_of_not_touches hs, FileOp.apply_of_not_touches hj]
    exact ⟨rfl, rfl⟩

@[simp] theorem ioFailure_ok (detail : String) : (ioFailure detail).ok = false := rfl

@[simp] theorem cannotOpen_ok (o : StoreOptions) (f : FileName) : (cannotOpen o f).ok = false := rfl

/-- The call leaves the snapshot and the journal alone. -/
def Calm (op : FileOp FileName) : Prop :=
  op.touches .snapshot = false ∧ op.touches .journal = false

theorem lockSteps_calm (found : Bool) : ∀ step ∈ lockSteps found, Calm step.1 := by
  cases found <;> simp [lockSteps, Calm, FileOp.touches]

theorem tempSteps_calm (o : StoreOptions) (framed : List UInt8) :
    ∀ step ∈ tempSteps o framed, Calm step.1 := by
  simp [tempSteps, Calm, FileOp.touches]

theorem releaseSteps_calm (st : Store) : ∀ step ∈ releaseSteps st, Calm step.1 := by
  unfold releaseSteps
  split <;> simp [Calm, FileOp.touches]

theorem settleSteps_calm (o : StoreOptions) : ∀ step ∈ settleSteps o, Calm step.1 := by
  unfold settleSteps
  split <;> simp [Calm, FileOp.touches]

theorem closeSteps_calm (st : Store) : ∀ step ∈ closeSteps st, Calm step.1 := by
  unfold closeSteps
  repeat' split
  all_goals simp [Calm, FileOp.touches]

/-- The calls of an append after the write. -/
def deviceSteps (o : StoreOptions) : List (FileOp FileName × Status) :=
  (.flush .journal, ioFailure "journal flush failed")
    :: (if o.fsync then [(.sync .journal, ioFailure "flush to device failed")] else [])

theorem deviceSteps_calm (o : StoreOptions) : ∀ step ∈ deviceSteps o, Calm step.1 := by
  unfold deviceSteps
  split <;> simp [Calm, FileOp.touches]

theorem idle_openAppend : Idle (.file (.openAppend .journal) none : Action FileName μ) := by
  refine ⟨_, rfl, by simp, fun d => ?_⟩
  constructor
  · exact FileOp.apply_of_not_touches (by simp [FileOp.touches]) d none
  · simp [FileOp.apply]

theorem quiet_idle {u : List (Action FileName μ)} (hu : Quiet u) : ∀ a ∈ u, Idle a := by
  intro a ha
  obtain ⟨op, rfl, hop⟩ := hu a ha
  refine ⟨op, rfl, ?_, fun d => ?_⟩
  · rintro rfl
    simp [FileOp.readOnly] at hop
  · rw [FileOp.apply_readOnly hop]
    exact ⟨rfl, rfl⟩

/-- A ghost of the trace that sees, of the calls, only a new snapshot. -/
structure Ghost (μ γ : Type) where
  start : γ
  step : γ → Action FileName μ → γ
  calls : ∀ x op, op ≠ .rename .temp .snapshot → step x (.file op none) = x

namespace Ghost

variable {γ : Type} (g : Ghost μ γ)

/-- The ghost at the end of a trace. -/
def after (t : List (Action FileName μ)) : γ := t.foldl g.step g.start

theorem after_concat (t : List (Action FileName μ)) (a : Action FileName μ) :
    g.after (t ++ [a]) = g.step (g.after t) a := by
  simp [after]

/-- The ghost once the snapshot is replaced. -/
def installed (x : γ) : γ := g.step x (.file (.rename .temp .snapshot) none)

end Ghost

/-- The files hold these payloads, and the ghost has this value. -/
structure Reads {γ : Type} (o : StoreOptions) (g : Ghost μ γ) (c : Contents) (x : γ)
    (t : List (Action FileName μ)) : Prop where
  stored : Stored o (diskAfter t) c
  ghost : g.after t = x

section Reads

variable {γ : Type} {o : StoreOptions} {g : Ghost μ γ} {c : Contents} {x : γ}
  {t : List (Action FileName μ)}

theorem Reads.idle {a : Action FileName μ} (ha : Idle a) (h : Reads o g c x t) :
    Reads o g c x (t ++ [a]) := by
  obtain ⟨op, rfl, hne, hop⟩ := ha
  refine ⟨h.stored.congr ?_ ?_, ?_⟩
  · rw [diskAfter_append]; exact (hop _).1
  · rw [diskAfter_append]; exact (hop _).2
  · rw [g.after_concat, h.ghost, g.calls x op hne]

theorem Reads.through {u : List (Action FileName μ)} (hu : ∀ a ∈ u, Idle a)
    (h : Reads o g c x t) : Through (Reads o g c x) t u :=
  through_of_step (fun a ha _ ht => ht.idle (hu a ha)) h

end Reads

/-! ## §4. Opening a store. -/

/-- The options let a store open. -/
def StoreOptions.usable (o : StoreOptions) : Prop :=
  o.directory ≠ [] ∧ o.maxRecordBytes ≠ 0 ∧ o.maxJournalBytes ≠ 0

theorem idle_calls {ε : Type} {steps : List (FileOp FileName × ε)}
    (h : ∀ step ∈ steps, Calm step.1) :
    ∀ a ∈ (calls steps : List (Action FileName μ)), Idle a := by
  intro a ha
  obtain ⟨step, hstep, rfl⟩ := List.mem_map.mp ha
  exact idle_of_not_touches (h step hstep).1 (h step hstep).2

theorem initialJournalBytes_clean (t : List (Action FileName μ)) :
    ∃ u, initialJournalBytes (diskAfter t .journal).isSome (clean t)
        = (((diskAfter t .journal).getD []).length, clean (t ++ u)) ∧ ∀ a ∈ u, Idle a := by
  unfold initialJournalBytes
  cases hfile : diskAfter t FileName.journal with
  | none => exact ⟨[], by simp, by simp⟩
  | some bytes =>
    refine ⟨[.file (.size .journal) none], ?_, ?_⟩
    · simp [perform_clean, disk_clean, hfile]
    · exact fun a ha => List.mem_singleton.mp ha ▸ idle_of_not_touches rfl rfl

/-- A store opens on the files as they are and counts the journal's bytes. -/
theorem Store.open_clean (ho : o.usable) (t : List (Action FileName μ)) :
    ∃ st u, Store.open o (clean t) = (.ok st, clean (t ++ u)) ∧ (∀ a ∈ u, Idle a)
      ∧ st.options = o ∧ st.closed = false ∧ st.appending = false
      ∧ st.journalBytes = ((diskAfter t .journal).getD []).length := by
  have hprepare : Quiet (calls prepareSteps : List (Action FileName μ)) :=
    quiet_calls (by simp [prepareSteps, FileOp.readOnly])
  have hprobe : ∀ f, Quiet [(.file (.probe f) none : Action FileName μ)] :=
    fun f => quiet_single rfl
  -- the size is taken after the lock, on the journal of before
  have hjournal : diskAfter (t ++ calls prepareSteps ++ [.file (.probe .snapshot) none]
      ++ [.file (.probe .journal) none] ++ [.file (.probe .temp) none]
      ++ calls (lockSteps (diskAfter t .temp).isSome)) .journal = diskAfter t .journal := by
    rw [diskAfter_calls fun step hstep => (lockSteps_calm _ step hstep).2, (hprobe _).diskAfter, (hprobe _).diskAfter, (hprobe _).diskAfter,
      hprepare.diskAfter]
  obtain ⟨u, hu, hidle⟩ := initialJournalBytes_clean (t ++ calls prepareSteps
    ++ [.file (.probe .snapshot) none] ++ [.file (.probe .journal) none]
    ++ [.file (.probe .temp) none] ++ calls (lockSteps (diskAfter t .temp).isSome))
  rw [hjournal] at hu
  unfold Store.open
  simp only [ho.1, ho.2.1, ho.2.2, or_self, if_false, runSteps_clean, fileExists_clean,
    hprepare.diskAfter, (hprobe _).diskAfter, hu]
  refine ⟨_, _, by simp only [List.append_assoc]; rfl, ?_, rfl, rfl, rfl, rfl⟩
  intro a ha
  simp only [List.mem_append] at ha
  rcases ha with ha | ha | ha | ha | ha | ha
  · exact quiet_idle hprepare a ha
  · exact quiet_idle (hprobe _) a ha
  · exact quiet_idle (hprobe _) a ha
  · exact quiet_idle (hprobe _) a ha
  · exact idle_calls (lockSteps_calm _) a ha
  · exact hidle a ha

/-! ## §5. Appending. -/

section Append

variable {γ : Type} {o : StoreOptions} {g : Ghost μ γ} {c : Contents} {x : γ}
  {t : List (Action FileName μ)}

/-- The calls of an append that takes its record. -/
def appendCalls (st : Store) (framed : List UInt8) : List (Action FileName μ) :=
  calls (appenderSteps st) ++ calls (appendSteps st.options framed)

theorem appender_idle (st : Store) :
    ∀ a ∈ (calls (appenderSteps st) : List (Action FileName μ)), Idle a := by
  intro a ha
  unfold appenderSteps at ha
  split at ha
  · simp [calls] at ha
  · rw [List.mem_singleton.mp ha]
    exact idle_openAppend

theorem Reads.write (h : Reads o g c x t)
    (hfits : (frame .event o.format o.semantic p).length ≤ o.maxRecordBytes)
    (hroom : (journalOf o.format o.semantic c.journal).length
      + (frame .event o.format o.semantic p).length ≤ o.maxJournalBytes) :
    Reads o g { c with journal := c.journal ++ [p] } x
      (t ++ [.file (.write .journal (frame .event o.format o.semantic p)) none]) := by
  have hjournal : journalOf o.format o.semantic (c.journal ++ [p])
      = journalOf o.format o.semantic c.journal ++ frame .event o.format o.semantic p := by
    simp [journalOf]
  refine ⟨⟨?_, ?_, h.stored.baseFits, ?_, ?_⟩, ?_⟩
  · rw [diskAfter_append]
    exact h.stored.snapshot
  · rw [diskAfter_append, hjournal, ← h.stored.journal]
    rfl
  · intro q hq
    rcases List.mem_append.mp hq with hq | hq
    · exact h.stored.recordFits q hq
    · rw [List.mem_singleton.mp hq]
      exact hfits
  · rw [hjournal, List.length_append]
    exact hroom
  · rw [g.after_concat, h.ghost, g.calls x _ (by simp)]

/-- An open store appends, or refuses by size after taking the handle. -/
theorem appendEvent_clean (hopen : st.closed = false) (event : FabricEvent)
    (t : List (Action FileName μ)) :
    st.appendEvent event (clean t)
      = if st.options.maxRecordBytes < (eventFrame st.options event).length then
          (refuse .storeRecordOversized (txt "event record exceeds bound"),
            { st with appending := true }, clean (t ++ calls (appenderSteps st)))
        else if st.options.maxJournalBytes
            < st.journalBytes + (eventFrame st.options event).length then
          (refuse .boundExceeded (txt "journal bound reached; rotation required"),
            { st with appending := true }, clean (t ++ calls (appenderSteps st)))
        else
          (.success, { st with
            appending := true
            journalBytes := st.journalBytes + (eventFrame st.options event).length
            journalRecords := st.journalRecords + 1 },
            clean (t ++ appendCalls st (eventFrame st.options event))) := by
  unfold Store.appendEvent
  simp only [hopen, Bool.false_eq_true, if_false, runSteps_clean, appendCalls, List.append_assoc]

/-- At every moment of an append the journal is the old one or the new one. -/
theorem append_through (ho : st.options = o) (h : Reads o g c x t)
    (hfits : (frame .event o.format o.semantic p).length ≤ o.maxRecordBytes)
    (hroom : (journalOf o.format o.semantic c.journal).length
      + (frame .event o.format o.semantic p).length ≤ o.maxJournalBytes) :
    Through (fun t' => Reads o g c x t' ∨ Reads o g { c with journal := c.journal ++ [p] } x t') t
        (appendCalls st (frame .event o.format o.semantic p))
      ∧ Reads o g { c with journal := c.journal ++ [p] } x
          (t ++ appendCalls st (frame .event o.format o.semantic p)) := by
  have happender := h.through (appender_idle st)
  have hwritten := happender.finish.write hfits hroom
  have hrest := hwritten.through (idle_calls (deviceSteps_calm o))
  have hcalls : appendCalls st (frame .event o.format o.semantic p)
      = (calls (appenderSteps st) : List (Action FileName μ))
        ++ (.file (.write .journal (frame .event o.format o.semantic p)) none
          :: calls (deviceSteps o)) := by
    rw [appendCalls, ho]
    rfl
  rw [hcalls]
  constructor
  · refine Through.append (fun n => .inl (happender n)) ?_
    exact through_cons (.inl happender.finish) (fun n => .inr (hrest n))
  · have hfinish := hrest.finish
    rwa [List.append_assoc, List.append_assoc, List.singleton_append] at hfinish

end Append

/-! ## §6. Rotating. -/

section Rotate

variable {γ : Type} {o : StoreOptions} {g : Ghost μ γ} {c : Contents} {x : γ}
  {t : List (Action FileName μ)}

/-- The calls of a rotation. -/
def rotateCalls (st : Store) (framed : List UInt8) : List (Action FileName μ) :=
  calls (snapshotSteps st.options framed) ++ calls (releaseSteps st)
    ++ calls (truncateSteps st.options)

theorem rotate_clean (hopen : st.closed = false) (payload : List UInt8)
    (t : List (Action FileName μ)) :
    st.rotate payload (clean t)
      = if st.options.maxRecordBytes < (snapshotFrame st.options payload).length then
          (refuse .storeRecordOversized (txt "snapshot exceeds bound"), st, clean t)
        else
          (.success, { st with
            appending := false
            journalBytes := 0
            journalRecords := 0
            recovery := { st.recovery with
              snapshotRewrites := st.recovery.snapshotRewrites + 1
              snapshotDigest := sha256 payload } },
            clean (t ++ rotateCalls st (snapshotFrame st.options payload))) := by
  unfold Store.rotate
  simp only [hopen, Bool.false_eq_true, if_false, runSteps_clean, rotateCalls, List.append_assoc]

theorem Reads.install (h : Reads o g c x t) (htemp : diskAfter t .temp = some (snapshotFrame o p))
    (hp : p ≠ [] ∧ (snapshotFrame o p).length ≤ o.maxRecordBytes) :
    Reads o g { c with base := some p } (g.installed x)
      (t ++ [.file (.rename .temp .snapshot) none]) := by
  have hdisk : diskAfter (t ++ [.file (.rename .temp .snapshot) none])
      = ((diskAfter t).set .temp none).set .snapshot (some (snapshotFrame o p)) := by
    rw [diskAfter_append]
    simp only [List.foldl_cons, List.foldl_nil, Action.apply, FileOp.apply, htemp]
  refine ⟨⟨?_, ?_, ?_, h.stored.recordFits, h.stored.journalFits⟩, ?_⟩
  · rw [hdisk, Disk.set_self]
    rfl
  · rw [hdisk, Disk.set_of_ne _ _ (by simp), Disk.set_of_ne _ _ (by simp)]
    exact h.stored.journal
  · intro q hq
    injection hq with hq
    rwa [← hq]
  · rw [g.after_concat, h.ghost]
    rfl

theorem Reads.empty (h : Reads o g c x t) :
    Reads o g { c with journal := [] } x (t ++ [.file (.openWrite .journal) none]) := by
  refine ⟨⟨?_, ?_, h.stored.baseFits, by simp, by simp [journalOf]⟩, ?_⟩
  · rw [diskAfter_append]
    exact h.stored.snapshot
  · rw [diskAfter_append]
    rfl
  · rw [g.after_concat, h.ghost, g.calls x _ (by simp)]

theorem diskAfter_tempSteps (o : StoreOptions) (framed : List UInt8)
    (t : List (Action FileName μ)) :
    diskAfter (t ++ calls (tempSteps o framed)) .temp = some framed := by
  rw [diskAfter_append]
  simp [tempSteps, calls, Action.apply, FileOp.apply]

theorem rotateCalls_eq (st : Store) (framed : List UInt8) :
    (rotateCalls st framed : List (Action FileName μ))
      = calls (tempSteps st.options framed)
        ++ (.file (.rename .temp .snapshot) none :: (calls (releaseSteps st)
          ++ (.file (.openWrite .journal) none :: calls (settleSteps st.options)))) := by
  simp [rotateCalls, snapshotSteps, truncateSteps, calls]

/-- **The three phases of a rotation**: nothing replaced, the snapshot
replaced over the old journal, the journal emptied. -/
theorem rotate_through (ho : st.options = o)
    (h : Reads o g c x t) (hp : p ≠ [] ∧ (snapshotFrame o p).length ≤ o.maxRecordBytes) :
    Through (fun t' => Reads o g c x t'
        ∨ Reads o g { c with base := some p } (g.installed x) t'
        ∨ Reads o g { base := some p, journal := [] } (g.installed x) t') t
        (rotateCalls st (snapshotFrame o p))
      ∧ Reads o g { base := some p, journal := [] } (g.installed x)
          (t ++ rotateCalls st (snapshotFrame o p)) := by
  subst ho
  have hwritten := h.through (idle_calls (tempSteps_calm st.options (snapshotFrame st.options p)))
  have hinstalled := (hwritten.finish.install (diskAfter_tempSteps _ _ t) hp).through
    (idle_calls (releaseSteps_calm st))
  have hemptied := hinstalled.finish.empty.through (idle_calls (settleSteps_calm st.options))
  rw [rotateCalls_eq]
  constructor
  · refine Through.append (fun n => .inl (hwritten n)) ?_
    refine through_cons (.inl hwritten.finish) ?_
    refine Through.append (fun n => .inr (.inl (hinstalled n))) ?_
    exact through_cons (.inr (.inl hinstalled.finish)) (fun n => .inr (.inr (hemptied n)))
  · have hfinish := hemptied.finish
    simpa only [List.append_assoc, List.cons_append, List.nil_append] using hfinish

end Rotate

end DpuFabric
