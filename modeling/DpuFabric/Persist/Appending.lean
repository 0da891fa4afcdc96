/-
  Persist.Appending — APPENDS THAT FAIL.

  Every call of `append_event` may fail at any of its steps and leave any
  front piece of its frame in the file.  The store does not take that piece
  back, and does not count it.  So a run is harmless as long as every append
  starts on a journal of whole records with no bytes the store does not count
  (`appends_harmless`), and one failed append in front of a successful one
  can make the journal unreadable (`failed_append_poisons`).
-/
import DpuFabric.Lib.Runs
import DpuFabric.Persist.Rotation

namespace DpuFabric

open Lib World

variable {μ : Type}

/-! ## §1. One append under faults. -/

/-- The bytes that an event is journaled as. -/
def eventPayload (event : FabricEvent) : List UInt8 := encodeBinary FabricEvent.visit event

theorem eventFrame_eq (o : StoreOptions) (event : FabricEvent) :
    eventFrame o event = frame .event o.format o.semantic (eventPayload event) := by
  rw [eventFrame, eventPayload]

/-- What an append leaves: a front piece of its frame, if its sizes passed;
the whole frame, and counted, exactly if it reports success. -/
structure AppendLeaves (st : Store) (event : FabricEvent) (t : List (Action FileName μ))
    (status : Status) (st' : Store) (t' : List (Action FileName μ)) (piece : List UInt8) :
    Prop where
  options : st'.options = st.options
  isOpen : st'.closed = false
  snapshot : diskAfter t' .snapshot = diskAfter t .snapshot
  journal : journalFile (diskAfter t') = journalFile (diskAfter t) ++ piece
  front : piece <+: eventFrame st.options event
  fits : piece ≠ [] → (eventFrame st.options event).length ≤ st.options.maxRecordBytes
    ∧ st.journalBytes + (eventFrame st.options event).length ≤ st.options.maxJournalBytes
  outcome : (status.ok = true ∧ piece = eventFrame st.options event
      ∧ st'.journalBytes = st.journalBytes + (eventFrame st.options event).length)
    ∨ (status.ok = false ∧ st'.journalBytes = st.journalBytes)

theorem appender_bytes (st : Store) (w : World FileName μ) :
    journalFile (diskAfter (w.runSteps (appenderSteps st)).2.trace) = journalFile (diskAfter w.trace)
      ∧ diskAfter (w.runSteps (appenderSteps st)).2.trace .snapshot
        = diskAfter w.trace .snapshot := by
  unfold appenderSteps
  split
  · exact ⟨rfl, rfl⟩
  simp only [World.runSteps, World.perform]
  cases hfault : w.faults.headD none with
  | some n =>
    simp only [Option.isNone_some]
    rw [diskAfter_concat]
    exact ⟨rfl, rfl⟩
  | none =>
    simp only [Option.isNone_none]
    rw [diskAfter_concat]
    constructor
    · simp [journalFile, FileOp.apply]
    · exact FileOp.apply_of_not_touches (by simp [FileOp.touches]) _ _

theorem appendSteps_refusal {o : StoreOptions} {framed : List UInt8} {w : World FileName μ}
    {refusal : Status} (h : (w.runSteps (appendSteps o framed)).1 = some refusal) :
    refusal.ok = false := by
  obtain ⟨step, hstep, rfl⟩ := runSteps_some h
  revert step
  unfold appendSteps
  split <;> simp

/-- Writing a frame leaves a front piece of it, and all of it if no call
fails. -/
theorem write_bytes (o : StoreOptions) (framed : List UInt8) (w : World FileName μ) :
    ∃ piece, piece <+: framed
      ∧ journalFile (diskAfter (w.runSteps (appendSteps o framed)).2.trace)
        = journalFile (diskAfter w.trace) ++ piece
      ∧ diskAfter (w.runSteps (appendSteps o framed)).2.trace .snapshot
        = diskAfter w.trace .snapshot
      ∧ ((w.runSteps (appendSteps o framed)).1 = none → piece = framed) := by
  have hsteps : appendSteps o framed
      = (.write .journal framed, ioFailure "journal write failed") :: deviceSteps o := rfl
  rw [hsteps, World.runSteps, World.perform]
  cases hfault : w.faults.headD none with
  | some n =>
    simp only [Option.isNone_some]
    rw [diskAfter_concat]
    refine ⟨framed.take n, List.take_prefix _ _, ?_, ?_, fun h => absurd h (by simp)⟩
    · simp [journalFile, FileOp.apply]
    · exact FileOp.apply_of_not_touches (by simp [FileOp.touches]) _ _
  | none =>
    simp only [Option.isNone_none]
    set w₁ : World FileName μ := { trace := w.trace ++ [.file (.write .journal framed) none],
                                   faults := w.faults.tail } with hw₁
    have hjournal : diskAfter (w₁.runSteps (deviceSteps o)).2.trace .journal
        = diskAfter w₁.trace .journal :=
      disk_runSteps_of_not_touches (fun step hstep => (deviceSteps_calm o step hstep).2) w₁
    have hsnapshot : diskAfter (w₁.runSteps (deviceSteps o)).2.trace .snapshot
        = diskAfter w₁.trace .snapshot :=
      disk_runSteps_of_not_touches (fun step hstep => (deviceSteps_calm o step hstep).1) w₁
    refine ⟨framed, List.prefix_rfl, ?_, ?_, fun _ => rfl⟩
    · rw [journalFile, hjournal, hw₁, diskAfter_concat]
      simp [journalFile, FileOp.apply]
    · rw [hsnapshot, hw₁, diskAfter_concat]
      exact FileOp.apply_of_not_touches (by simp [FileOp.touches]) _ _

/-- **One append, whatever fails.** -/
theorem appendEvent_leaves {st : Store} (hopen : st.closed = false) (event : FabricEvent)
    (w : World FileName μ) :
    ∃ piece, AppendLeaves st event w.trace (st.appendEvent event w).1 (st.appendEvent event w).2.1
      (st.appendEvent event w).2.2.trace piece := by
  obtain ⟨hjournal, hsnapshot⟩ := appender_bytes st w
  unfold Store.appendEvent
  simp only [hopen, Bool.false_eq_true, if_false]
  cases happender : w.runSteps (appenderSteps st) with
  | mk refused w₁ =>
    rw [happender] at hjournal hsnapshot
    simp only at hjournal hsnapshot
    cases refused with
    | some refusal =>
      have hrefusal : refusal.ok = false := by
        obtain ⟨step, hstep, rfl⟩ := runSteps_some (congrArg Prod.fst happender)
        revert step
        unfold appenderSteps
        split <;> simp
      exact ⟨[], rfl, hopen, hsnapshot, by rw [List.append_nil]; exact hjournal,
        List.nil_prefix, fun h => absurd rfl h, .inr ⟨hrefusal, rfl⟩⟩
    | none =>
      by_cases hrecord : st.options.maxRecordBytes < (eventFrame st.options event).length
      · simp only [hrecord, if_true]
        exact ⟨[], rfl, rfl, hsnapshot, by rw [List.append_nil]; exact hjournal,
          List.nil_prefix, fun h => absurd rfl h, .inr ⟨rfl, rfl⟩⟩
      by_cases hroom : st.options.maxJournalBytes
          < st.journalBytes + (eventFrame st.options event).length
      · simp only [hrecord, hroom, if_true, if_false]
        exact ⟨[], rfl, rfl, hsnapshot, by rw [List.append_nil]; exact hjournal,
          List.nil_prefix, fun h => absurd rfl h, .inr ⟨rfl, rfl⟩⟩
      simp only [hrecord, hroom, if_false]
      have hsizes : (eventFrame st.options event).length ≤ st.options.maxRecordBytes
          ∧ st.journalBytes + (eventFrame st.options event).length
            ≤ st.options.maxJournalBytes := ⟨not_lt.mp hrecord, not_lt.mp hroom⟩
      obtain ⟨piece, hfront, hbytes, hsame, hall⟩ :=
        write_bytes st.options (eventFrame st.options event) w₁
      have hrefusal := @appendSteps_refusal _ st.options (eventFrame st.options event) w₁
      cases hwrite : w₁.runSteps (appendSteps st.options (eventFrame st.options event)) with
      | mk refused w₂ =>
        rw [hwrite] at hbytes hsame hall hrefusal
        simp only at hbytes hsame hall hrefusal
        rw [hjournal] at hbytes
        rw [hsnapshot] at hsame
        cases refused with
        | some refusal =>
          exact ⟨piece, rfl, rfl, hsame, hbytes, hfront, fun _ => hsizes,
            .inr ⟨hrefusal rfl, rfl⟩⟩
        | none =>
          exact ⟨piece, rfl, rfl, hsame, hbytes, hfront, fun _ => hsizes,
            .inl ⟨rfl, hall rfl, rfl⟩⟩

/-! ## §2. Runs of appends. -/

/-- A store between two appends, with the payloads of the appends that
reported success. -/
structure Appender (μ : Type) where
  store : Store
  trace : List (Action FileName μ)
  acked : List (List UInt8)

/-- One append with its own plan of faults. -/
def Appender.step (s : Appender μ) (m : FabricEvent × List (Option Nat)) : Appender μ :=
  let result := s.store.appendEvent m.1 { trace := s.trace, faults := m.2 }
  { store := result.2.1
    trace := result.2.2.trace
    acked := if result.1.ok then s.acked ++ [eventPayload m.1] else s.acked }

/-- The journal holds whole records only, none of its bytes is uncounted, and
a header can say the length of the new payload. -/
structure Appender.Settled (s : Appender μ) (m : FabricEvent × List (Option Nat)) : Prop where
  whole : ∃ records, s.store.options.Reading (journalFile (diskAfter s.trace)) records []
  counted : (journalFile (diskAfter s.trace)).length ≤ s.store.journalBytes
  payload : (eventPayload m.1).length < 2 ^ 32

/-- What a later load must find: every acknowledged payload in order, in a
file within its bound. -/
def Appender.Kept (s : Appender μ) : Prop :=
  (journalFile (diskAfter s.trace)).length ≤ s.store.options.maxJournalBytes
    ∧ ∀ reader : Store, reader.options = s.store.options →
      ∃ loaded, (reader.load (clean s.trace)).1 = .ok loaded ∧ s.acked.Sublist loaded.records

/-- The invariant: the directory reads, with all that was acknowledged. -/
structure Appender.Readable (s : Appender μ) : Prop where
  isOpen : s.store.closed = false
  loads : ∃ snapshot records tail,
    Loads s.store.options (diskAfter s.trace) snapshot records tail ∧ s.acked.Sublist records

theorem Appender.Readable.kept {s : Appender μ} (h : s.Readable) : s.Kept := by
  obtain ⟨snapshot, records, tail, hloads, hacked⟩ := h.loads
  refine ⟨hloads.fits, fun reader hreader => ?_⟩
  rw [← hreader] at hloads
  obtain ⟨recovery, u, hload, -⟩ := load_of_loads reader hloads
  exact ⟨_, congrArg Prod.fst hload, hacked⟩

theorem reading_piece {o : StoreOptions} {bytes : List UInt8} {records : List (List UInt8)}
    (h : o.Reading bytes records []) {p piece : List UInt8}
    (hmax : p.length ≤ o.maxRecordBytes) (h32 : p.length < 2 ^ 32)
    (hfront : piece <+: frame .event o.format o.semantic p) :
    ∃ more tail, o.Reading (bytes ++ piece) (records ++ more) tail
      ∧ (piece = frame .event o.format o.semantic p → more = [p]) := by
  by_cases hall : piece = frame .event o.format o.semantic p
  · have hdone : o.Reading [] [] [] := .done
    have hone := hdone.frames (show ∀ q ∈ [p], q.length ≤ o.maxRecordBytes ∧ q.length < 2 ^ 32 by
      simpa using ⟨hmax, h32⟩)
    rw [journalOf, List.flatMap_singleton, List.append_nil, List.append_nil, ← hall] at hone
    exact ⟨[p], [], h.append rfl hone, fun _ => rfl⟩
  · have hlength := hfront.length_le
    have htake : piece = (frame .event o.format o.semantic p).take piece.length :=
      List.prefix_iff_eq_take.mp hfront
    have hshort : piece.length < (frame .event o.format o.semantic p).length := by
      refine Nat.lt_of_le_of_ne hlength fun heq => hall ?_
      rw [htake, heq, List.take_length]
    have hpiece : o.Reading piece [] piece := by
      by_cases hempty : piece = []
      · rw [hempty]
        exact .done
      refine .torn hempty ?_
      rw [htake]
      refine torn_take_frame .event _ _ hmax ?_
      rwa [Nat.mod_eq_of_lt h32, ← frame_length .event o.format o.semantic]
    exact ⟨[], piece, h.append rfl hpiece, fun h => absurd h hall⟩

theorem Appender.step_readable {s : Appender μ} {m : FabricEvent × List (Option Nat)}
    (h : s.Readable) (hm : s.Settled m) : (s.step m).Readable := by
  obtain ⟨snapshot, records, tail, hloads, hacked⟩ := h.loads
  obtain ⟨whole, hwhole⟩ := hm.whole
  obtain ⟨rfl, rfl⟩ := hloads.journal.unique hwhole
  obtain ⟨piece, hleaves⟩ := appendEvent_leaves h.isOpen m.1 { trace := s.trace, faults := m.2 }
  have hjournal := hleaves.journal
  have hfits := hleaves.fits
  have hcounted := hm.counted
  have hfront := hleaves.front.length_le
  have hsize : (eventPayload m.1).length ≤ (eventFrame s.store.options m.1).length := by
    rw [eventFrame_eq]
    exact payload_length_le _ _ _ _
  refine ⟨hleaves.isOpen, ?_⟩
  -- the piece is read behind the records of before
  obtain ⟨more, tail', hreading, hmore⟩ : ∃ more tail', s.store.options.Reading
      (journalFile (diskAfter s.trace) ++ piece) (records ++ more) tail'
      ∧ (piece = eventFrame s.store.options m.1 → more = [eventPayload m.1]) := by
    by_cases hempty : piece = []
    · refine ⟨[], [], by rw [hempty, List.append_nil, List.append_nil]; exact hloads.journal,
        fun hall => ?_⟩
      exact absurd (hall.symm.trans hempty) (frame_ne_nil _ _ _ _)
    · exact reading_piece hloads.journal (hsize.trans (hfits hempty).1) hm.payload hleaves.front
  have hoptions : (s.step m).store.options = s.store.options := hleaves.options
  have hsnapshot : diskAfter (s.step m).trace .snapshot = diskAfter s.trace .snapshot :=
    hleaves.snapshot
  have hbytes : journalFile (diskAfter (s.step m).trace)
      = journalFile (diskAfter s.trace) ++ piece := hjournal
  refine ⟨snapshot, records ++ more, tail', ⟨?_, ?_, ?_⟩, ?_⟩
  · unfold SnapshotReads
    rw [hoptions, hsnapshot]
    exact hloads.snapshot
  · have hold := hloads.fits
    rw [hoptions, hbytes, List.length_append]
    by_cases hempty : piece = []
    · rw [hempty, List.length_nil]
      omega
    · have hroom := (hfits hempty).2
      omega
  · rw [hoptions, hbytes]
    exact hreading
  unfold Appender.step
  rcases hleaves.outcome with ⟨hok, hall, -⟩ | ⟨hfailed, -⟩
  · simp only [hok, if_true, hmore hall]
    exact hacked.append (List.Sublist.refl _)
  · simp only [hfailed, Bool.false_eq_true, if_false]
    exact hacked.trans (List.sublist_append_left _ _)

/-- **Failed appends do no harm**, as long as every append starts on a settled
journal. -/
theorem appends_harmless (s : Appender μ) (hopen : s.store.closed = false) (snapshot : List UInt8)
    (hloads : Loads s.store.options (diskAfter s.trace) snapshot s.acked [])
    (moves : List (FabricEvent × List (Option Nat)))
    (hmeets : Meets Appender.step Appender.Settled s moves) (k : Nat) :
    (runMoves Appender.step s (moves.take k)).Kept := by
  have hstart : s.Readable := ⟨hopen, snapshot, s.acked, [], hloads, List.Sublist.refl _⟩
  rw [← List.take_append_drop k moves, meets_append] at hmeets
  exact (run_invariant (fun _ _ => Appender.step_readable) hstart hmeets.1).kept

/-! ## §3. Short runs of an empty store. -/

theorem appendEvent_fitting (st : Store) (hopen : st.closed = false) (event : FabricEvent)
    (hrecord : (eventFrame st.options event).length ≤ st.options.maxRecordBytes)
    (hroom : st.journalBytes + (eventFrame st.options event).length ≤ st.options.maxJournalBytes)
    (w : World FileName μ) :
    st.appendEvent event w
      = match w.runSteps (appenderSteps st) with
        | (some refusal, w) => (refusal, st, w)
        | (none, w) =>
          match w.runSteps (appendSteps st.options (eventFrame st.options event)) with
          | (some refusal, w) => (refusal, { st with appending := true }, w)
          | (none, w) =>
            (.success, { st with
              appending := true
              journalBytes := st.journalBytes + (eventFrame st.options event).length
              journalRecords := st.journalRecords + 1 }, w) := by
  unfold Store.appendEvent
  simp only [hopen, Bool.false_eq_true, if_false, Nat.not_lt.mpr hrecord,
    Nat.not_lt.mpr hroom] <;> rfl

/-- A store with these options and nothing in its directory. -/
def freshAppender (o : StoreOptions) : Appender Unit :=
  { store := { options := o, closed := false }, trace := [], acked := [] }

/-- The store once it holds the journal handle, with nothing counted yet. -/
def heldAppender (o : StoreOptions) (t : List (Action FileName Unit)) : Appender Unit :=
  { store := { options := o, closed := false, appending := true }, trace := t, acked := [] }

theorem journal_written (t : List (Action FileName Unit)) (bytes : List UInt8) :
    journalFile (diskAfter (t ++ [.file (.write .journal bytes) none]
      ++ [.file (.flush .journal) none])) = journalFile (diskAfter t) ++ bytes := by
  rw [diskAfter_concat, diskAfter_concat]
  simp [FileOp.apply, journalFile]

section First

variable {o : StoreOptions} {event : FabricEvent} (hsync : o.fsync = false)
  (hrecord : (eventFrame o event).length ≤ o.maxRecordBytes)
  (hroom : 0 + (eventFrame o event).length ≤ o.maxJournalBytes)
include hsync hrecord hroom

theorem fresh_write_fails (n : Nat) :
    (freshAppender o).step (event, [none, some n])
      = heldAppender o [.file (.openAppend .journal) none,
          .file (.write .journal (eventFrame o event)) (some n)] := by
  unfold Appender.step freshAppender
  rw [appendEvent_fitting { options := o, closed := false } rfl event hrecord hroom]
  simp only [appendSteps, hsync]
  rfl

theorem fresh_flush_fails (n : Nat) :
    (freshAppender o).step (event, [none, none, some n])
      = heldAppender o [.file (.openAppend .journal) none,
          .file (.write .journal (eventFrame o event)) none, .file (.flush .journal) (some n)] := by
  unfold Appender.step freshAppender
  rw [appendEvent_fitting { options := o, closed := false } rfl event hrecord hroom]
  simp only [appendSteps, hsync]
  rfl

theorem held_appends (t : List (Action FileName Unit)) :
    (heldAppender o t).step (event, [])
      = { store := { options := o, closed := false, appending := true,
                     journalBytes := 0 + (eventFrame o event).length, journalRecords := 1 }
          trace := t ++ [.file (.write .journal (eventFrame o event)) none]
            ++ [.file (.flush .journal) none]
          acked := [eventPayload event] } := by
  unfold Appender.step heldAppender
  rw [appendEvent_fitting { options := o, closed := false, appending := true } rfl event hrecord
    hroom]
  simp only [appendSteps, hsync]
  rfl

/-- The journal is settled before the first append and before the second. -/
theorem held_settled (h32 : (eventPayload event).length < 2 ^ 32) (faults : List (Option Nat)) :
    Meets Appender.step Appender.Settled (heldAppender o []) [(event, []), (event, faults)] := by
  have hsize : (eventPayload event).length ≤ (eventFrame o event).length := by
    rw [eventFrame_eq]
    exact payload_length_le _ _ _ _
  refine ⟨⟨⟨[], .done⟩, Nat.le_refl 0, h32⟩, ?_, True.intro⟩
  rw [held_appends hsync hrecord hroom]
  refine ⟨⟨[eventPayload event], ?_⟩, ?_, h32⟩
  · have hdone : o.Reading [] [] [] := .done
    have hone := hdone.frames (show ∀ q ∈ [eventPayload event],
        q.length ≤ o.maxRecordBytes ∧ q.length < 2 ^ 32 by
      intro q hq
      rw [List.mem_singleton.mp hq]
      exact ⟨hsize.trans hrecord, h32⟩)
    rw [journalOf, List.flatMap_singleton, List.append_nil, List.append_nil] at hone
    simp only [eventFrame_eq, List.nil_append]
    exact hone
  · rw [journal_written, List.length_append]
    exact Nat.le_refl (0 + (eventFrame o event).length)

end First

/-- A store that does not wait for the device, with room for one record of
the sample event and a little more. -/
def tightOptions : StoreOptions :=
  { directory := txt "d", fsync := false, maxJournalBytes := 1000 }

/-- The event of the runs below. -/
def plainEvent : FabricEvent := {}

theorem plainEvent_payload : (eventPayload plainEvent).length = 600 := by decide +kernel

theorem plainEvent_frame : (eventFrame tightOptions plainEvent).length = 648 := by
  rw [eventFrame_eq, frame_length, plainEvent_payload]
  rfl

/-- Five bytes of a frame in front of a frame are not a journal. -/
theorem no_reading_after_piece (p q : List UInt8) (records : List (List UInt8))
    (tail : List UInt8) :
    ¬ tightOptions.Reading ((frame .event 1 1 p).take 5 ++ frame .event 1 1 q) records tail := by
  -- the version field is the fifth byte of one header and the first of another
  have hbytes : (((frame .event 1 1 p).take 5 ++ frame .event 1 1 q).drop 4).take 2 = [1, 68] :=
    rfl
  have hheads : ∀ kind length, ¬ Heads 1 1 (1024 * 1024)
      ((frame .event 1 1 p).take 5 ++ frame .event 1 1 q) kind length := by
    intro kind length h
    have hversion := h.version
    rw [readAt, hbytes] at hversion
    exact absurd hversion (by decide)
  have hlength := frame_length .event 1 1 q
  have hsize : frameHeaderBytes
      < ((frame .event 1 1 p).take 5 ++ frame .event 1 1 q).length := by
    rw [List.length_append, hlength, frameHeaderBytes, frameDigestBytes]
    omega
  refine no_reading ?_ ?_ (fun r hr => hheads _ _ hr.heads) records tail
  · intro hempty
    rw [hempty] at hsize
    exact absurd hsize (by decide)
  · rintro (hshort | ⟨kind, length, h, -⟩)
    · omega
    · exact hheads _ _ h

/-- **A failed append in front of a successful one** makes the journal
unreadable if it failed at the write, and longer than its bound if it failed
after it. -/
theorem failed_append_poisons :
    (¬ (runMoves Appender.step (freshAppender tightOptions)
        [(plainEvent, [none, some 5]), (plainEvent, [])]).Kept)
      ∧ ¬ (runMoves Appender.step (freshAppender tightOptions)
        [(plainEvent, [none, none, some 0]), (plainEvent, [])]).Kept := by
  have hlength := plainEvent_frame
  have hrecord : (eventFrame tightOptions plainEvent).length ≤ tightOptions.maxRecordBytes := by
    rw [hlength]
    decide
  have hroom : 0 + (eventFrame tightOptions plainEvent).length ≤ tightOptions.maxJournalBytes := by
    rw [hlength]
    decide
  simp only [runMoves_cons, runMoves_nil, fresh_write_fails rfl hrecord hroom,
    fresh_flush_fails rfl hrecord hroom, held_appends rfl hrecord hroom]
  constructor
  · rintro ⟨-, hkept⟩
    obtain ⟨loaded, hload, -⟩ := hkept { options := tightOptions } rfl
    obtain ⟨tail, hloads⟩ := loads_of_load hload
    have hreading := hloads.journal
    rw [journal_written] at hreading
    exact no_reading_after_piece _ _ _ _ hreading
  · rintro ⟨hbound, -⟩
    rw [journal_written, List.length_append] at hbound
    have hfirst : journalFile (diskAfter ([.file (.openAppend .journal) none,
        .file (.write .journal (eventFrame tightOptions plainEvent)) none,
        .file (.flush .journal) (some 0)] : List (Action FileName Unit)))
        = eventFrame tightOptions plainEvent := rfl
    rw [hfirst, hlength] at hbound
    exact absurd hbound (by decide)

/-- One append, and a second one that fails after five bytes. -/
theorem torn_append_harmless :
    (runMoves Appender.step (heldAppender tightOptions [])
      [(plainEvent, []), (plainEvent, [some 5])]).Kept := by
  have hlength := plainEvent_frame
  have hrecord : (eventFrame tightOptions plainEvent).length ≤ tightOptions.maxRecordBytes := by
    rw [hlength]
    decide
  have hroom : 0 + (eventFrame tightOptions plainEvent).length ≤ tightOptions.maxJournalBytes := by
    rw [hlength]
    decide
  have h32 : (eventPayload plainEvent).length < 2 ^ 32 := by
    rw [plainEvent_payload]
    decide
  have hsettled := held_settled rfl hrecord hroom h32 [some 5]
  have hloads : Loads (heldAppender tightOptions []).store.options
      (diskAfter (heldAppender tightOptions []).trace) [] (heldAppender tightOptions []).acked [] :=
    loads_nothing _
  have hkept := appends_harmless (heldAppender tightOptions []) rfl [] hloads
    [(plainEvent, []), (plainEvent, [some 5])] hsettled 2
  rw [List.take_of_length_le (by simp)] at hkept
  exact hkept

end DpuFabric
