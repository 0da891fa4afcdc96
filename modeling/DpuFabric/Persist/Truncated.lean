/-
  Persist.Truncated — WHAT A FILE THAT ENDS TOO EARLY LOADS AS.

  A journal that ends inside a frame loses that frame and no other, and says
  so; a snapshot that ends inside its frame is refused.  Both have an edge:

      a header says the length of a payload in FOUR bytes, so a payload of
      2 ^ 32 bytes or more does not come back (`torn_tail_recognised_iff`);
      an EMPTY snapshot file is taken for no snapshot
      (`truncated_snapshot_refused_iff`).
-/
import DpuFabric.Persist.Directory

namespace DpuFabric

open Lib World Codec

variable {format maxRecordBytes n semantic : Nat} {p : List UInt8} {kind : RecordKind}

variable {μ : Type}

/-! ## §1. The front of a frame. -/

theorem take_frame (kind : RecordKind) (format semantic : Nat) (p : List UInt8)
    (hn : frameHeaderBytes ≤ n) :
    (frame kind format semantic p).take n
      = frameHeader kind format semantic p.length
        ++ (p ++ (sha256 p).bytes).take (n - frameHeaderBytes) := by
  rw [frame, List.append_assoc, List.take_append, frameHeader_length,
    List.take_of_length_le (by rw [frameHeader_length]; exact hn)]

/-- A frame cut off before the end that its header says is torn. -/
theorem torn_take_frame (kind : RecordKind) (format semantic : Nat)
    (hmax : p.length ≤ maxRecordBytes)
    (hn : n < frameHeaderBytes + p.length % 2 ^ 32 + frameDigestBytes) :
    Torn format semantic maxRecordBytes ((frame kind format semantic p).take n) := by
  by_cases hshort : n ≤ frameHeaderBytes
  · refine .inl ?_
    rw [List.length_take]
    omega
  · have hmod := Nat.mod_le p.length (2 ^ 32)
    have hlength : ((frame kind format semantic p).take n).length ≤ n := by
      rw [List.length_take]
      exact Nat.min_le_left _ _
    have hheads := heads_header kind format semantic (hmod.trans hmax)
      ((p ++ (sha256 p).bytes).take (n - frameHeaderBytes))
    rw [← take_frame kind format semantic p (by omega)] at hheads
    exact .inr ⟨kind, _, hheads, by omega⟩

theorem lt_of_torn_take_frame (hmax : p.length ≤ maxRecordBytes)
    (hn : n < (frame kind format semantic p).length)
    (h : Torn format semantic maxRecordBytes ((frame kind format semantic p).take n)) :
    n < frameHeaderBytes + p.length % 2 ^ 32 + frameDigestBytes := by
  have hdigest : frameDigestBytes = 32 := rfl
  have hlength : ((frame kind format semantic p).take n).length = n := by
    rw [List.length_take]
    omega
  rcases h with hshort | ⟨kind', length, hheads, hover⟩
  · omega
  have hsize := hheads.size
  have hmod := Nat.mod_le p.length (2 ^ 32)
  have hheads' := heads_header kind format semantic (hmod.trans hmax)
    ((p ++ (sha256 p).bytes).take (n - frameHeaderBytes))
  rw [← take_frame kind format semantic p (by omega)] at hheads'
  obtain ⟨-, rfl⟩ := hheads.unique hheads'
  omega

/-! ## §2. A torn tail. -/

/-- `load` returns these records, says whether a torn piece was dropped, and
leaves a journal of whole frames that a later store loads without one. -/
def DropsTornPiece (o : StoreOptions) (t : List (Action FileName μ)) (st : Store)
    (snapshot : List UInt8) (payloads : List (List UInt8)) (piece : List UInt8) : Prop :=
  ∃ recovery u, st.load (clean t)
      = (.ok { recovery, snapshot, records := payloads }, { st with recovery }, clean (t ++ u))
    ∧ (piece ≠ [] → recovery.classification = .tornTailTruncated)
    ∧ (piece = [] →
        recovery.classification = .cleanReopen ∨ recovery.classification = .emptyStore)
    ∧ diskAfter (t ++ u) .journal = some (journalOf o.format o.semantic payloads)
    ∧ ∃ st' v recovery' w, Store.open o (clean (t ++ u)) = (.ok st', clean (t ++ u ++ v))
      ∧ st'.load (clean (t ++ u ++ v)) = (.ok { recovery := recovery', snapshot, records := payloads },
          { st' with recovery := recovery' }, w)
      ∧ recovery'.classification ≠ .tornTailTruncated

theorem loadClass_clean (d : Disk FileName) (records : List (List UInt8)) :
    loadClass d records [] = .cleanReopen ∨ loadClass d records [] = .emptyStore := by
  unfold loadClass journalClassOf snapshotClassOf
  repeat' split
  all_goals simp_all

/-- **Torn tails are recognised exactly**, as long as the header can say the
lengths. -/
theorem torn_tail_recognised_iff (o : StoreOptions) (ho : o.usable)
    (t : List (Action FileName μ)) (st : Store) (hst : st.options = o) (snapshot : List UInt8)
    (hsnapshot : SnapshotReads o (diskAfter t) snapshot) (payloads : List (List UInt8))
    (hpayloads : ∀ p ∈ payloads, p.length ≤ o.maxRecordBytes) (q : List UInt8)
    (hq : q.length ≤ o.maxRecordBytes) (n : Nat)
    (hn : n < (frame .event o.format o.semantic q).length)
    (hfile : diskAfter t .journal = some (journalOf o.format o.semantic payloads
      ++ (frame .event o.format o.semantic q).take n))
    (hfits : (journalOf o.format o.semantic payloads
      ++ (frame .event o.format o.semantic q).take n).length ≤ o.maxJournalBytes) :
    DropsTornPiece o t st snapshot payloads ((frame .event o.format o.semantic q).take n)
      ↔ (∀ p ∈ payloads, p.length < 2 ^ 32)
        ∧ n < frameHeaderBytes + q.length % 2 ^ 32 + frameDigestBytes := by
  subst hst
  set piece := (frame .event st.options.format st.options.semantic q).take n with hpiece
  have hbytes : journalFile (diskAfter t)
      = journalOf st.options.format st.options.semantic payloads ++ piece := by
    rw [journalFile, hfile, Option.getD_some]
  have hlength : piece.length = n := by
    rw [hpiece, List.length_take]
    omega
  constructor
  · rintro ⟨recovery, u, hload, -⟩
    obtain ⟨tail, hloads⟩ := loads_of_load (congrArg Prod.fst hload)
    -- a record that was read has a length that the header can say
    have hlt := hloads.journal.record_lt
    have hreading := hloads.journal
    rw [hbytes] at hreading
    obtain ⟨qs, hqs, hrest⟩ := reading_after_frames
      (fun p hp => ⟨hpayloads p hp, hlt p hp⟩) hreading
    obtain rfl : qs = [] := List.self_eq_append_right.mp hqs
    refine ⟨hlt, ?_⟩
    rcases hrest.no_record with hempty | htorn
    · rw [← hlength, hempty, frameHeaderBytes, List.length_nil]
      omega
    · exact lt_of_torn_take_frame hq hn htorn
  · rintro ⟨hlt, hpast⟩
    have hp : ∀ p ∈ payloads, p.length ≤ st.options.maxRecordBytes ∧ p.length < 2 ^ 32 :=
      fun p hp => ⟨hpayloads p hp, hlt p hp⟩
    have hrest : st.options.Reading piece [] piece := by
      by_cases hempty : piece = []
      · rw [hempty]
        exact .done
      · exact .torn hempty (torn_take_frame .event _ _ hq hpast)
    have hreading := hrest.frames hp
    rw [List.append_nil, ← hbytes] at hreading
    obtain ⟨recovery, u, hload, hclass, hcut, hothers, -⟩ := load_of_loads
      st ⟨hsnapshot, by rw [hbytes]; exact hfits, hreading⟩
    have hjournal : diskAfter (t ++ u) .journal
        = some (journalOf st.options.format st.options.semantic payloads) := by
      rw [hcut, hfile, Option.map_some, hbytes, List.length_append, Nat.add_sub_cancel,
        List.take_left]
    -- the journal that is left reads without a torn piece
    have hagain : Loads st.options (diskAfter (t ++ u)) snapshot payloads [] := by
      have hnone : st.options.Reading [] [] [] := .done
      have hwhole := hnone.frames hp
      rw [List.append_nil, List.append_nil] at hwhole
      have hleft : journalFile (diskAfter (t ++ u))
          = journalOf st.options.format st.options.semantic payloads := by
        rw [journalFile, hjournal, Option.getD_some]
      refine ⟨?_, ?_, by rw [hleft]; exact hwhole⟩
      · unfold SnapshotReads
        rw [hothers .snapshot (by simp)]
        exact hsnapshot
      · rw [hleft]
        rw [List.length_append] at hfits
        omega
    obtain ⟨st', v, recovery', w, hopen, hload', hclass'⟩ := reopen_of_loads ho hagain
    refine ⟨recovery, u, hload, fun hne => ?_, fun hempty => ?_, hjournal, st', v, recovery', _,
      hopen, hload', ?_⟩
    · rw [hclass, loadClass, journalClassOf, if_pos hne]
    · rw [hclass, hempty]
      exact loadClass_clean _ _
    · rw [hclass']
      rcases loadClass_clean (diskAfter (t ++ u)) payloads with h | h <;> rw [h] <;> simp

/-- The directory whose journal file holds these bytes. -/
def journalTrace (bytes : List UInt8) : List (Action FileName μ) :=
  [.file (.openWrite .journal) none, .file (.write .journal bytes) none]

theorem journalTrace_files (bytes : List UInt8) :
    diskAfter (journalTrace bytes : List (Action FileName μ)) .journal = some bytes
      ∧ diskAfter (journalTrace bytes : List (Action FileName μ)) .snapshot = none := by
  constructor <;> simp [journalTrace, diskAfter, Action.apply, FileOp.apply, Disk.set]

/-- A store directory with every other option at its default. -/
def sampleOptions : StoreOptions := { directory := txt "d" }

/-- Two records, and the header of a third one. -/
theorem torn_header_dropped :
    (frame .event 1 1 [3]).length = 49
      ∧ DropsTornPiece sampleOptions
        (journalTrace (journalOf 1 1 [[1], [2]] ++ (frame .event 1 1 [3]).take 16)
          : List (Action FileName Unit)) { options := sampleOptions } [] [[1], [2]]
        ((frame .event 1 1 [3]).take 16) := by
  have hlength : ∀ b, (frame .event 1 1 [b]).length = 49 := fun b => frame_length _ _ _ _
  obtain ⟨hjournal, hsnapshot⟩ := journalTrace_files (μ := Unit)
    (journalOf 1 1 [[1], [2]] ++ (frame .event 1 1 [3]).take 16)
  refine ⟨hlength 3, (torn_tail_recognised_iff sampleOptions ⟨by decide, by decide, by decide⟩ _ _
    rfl [] (.inl ⟨by rw [hsnapshot]; rfl, rfl⟩) [[1], [2]] (by decide) [3] (by decide) 16 ?_
    hjournal ?_).mpr ⟨by decide, by decide⟩⟩
  · exact (hlength 3).symm ▸ by decide
  simp only [journalOf, List.flatMap_cons, List.flatMap_nil, List.length_append,
    List.length_take, List.length_nil, sampleOptions, formatVersion, semanticVersion, hlength]
  decide

/-- The options of a store that takes records of any size up to eight
gigabytes. -/
def largeOptions : StoreOptions :=
  { directory := txt "d", maxRecordBytes := 2 ^ 33, maxJournalBytes := 2 ^ 34 }

/-- A record of four gigabytes is within the bounds and does not come back. -/
theorem large_record_lost :
    (List.replicate (2 ^ 32) (0 : UInt8)).length ≤ largeOptions.maxRecordBytes
      ∧ (journalOf 1 1 [List.replicate (2 ^ 32) 0]).length ≤ largeOptions.maxJournalBytes
      ∧ ¬ DropsTornPiece largeOptions
        (journalTrace (journalOf 1 1 [List.replicate (2 ^ 32) 0]) : List (Action FileName Unit))
        { options := largeOptions } [] [List.replicate (2 ^ 32) 0] [] := by
  refine ⟨by rw [List.length_replicate]; decide, ?_, ?_⟩
  · rw [journalOf, List.flatMap_singleton, frame_length, List.length_replicate]
    decide
  rintro ⟨recovery, u, hload, -⟩
  obtain ⟨tail, hloads⟩ := loads_of_load (congrArg Prod.fst hload)
  have hlt := hloads.journal.record_lt _ (List.mem_singleton_self _)
  rw [List.length_replicate] at hlt
  exact absurd hlt (by decide)

/-! ## §3. A cut-off snapshot. -/

/-- Two lengths that agree in four bytes give the same header. -/
theorem frameHeader_mod (kind : RecordKind) (format semantic length : Nat) :
    frameHeader kind format semantic (length % 2 ^ 32) = frameHeader kind format semantic length := by
  have hbytes : leBytes 4 (length % 256 ^ 4) = leBytes 4 length := leBytes_mod 4 length
  rw [frameHeader, frameHeader, show (2 : Nat) ^ 32 = 256 ^ 4 from rfl, hbytes]

/-- A cut-off snapshot that reads as a record is the frame of that record. -/
theorem take_frame_whole {q : List UInt8} (hmax : p.length ≤ maxRecordBytes)
    (h : Whole format semantic maxRecordBytes ((frame kind format semantic p).take n) kind q)
    (hsize : ((frame kind format semantic p).take n).length
      = frameHeaderBytes + q.length + frameDigestBytes) :
    (frame kind format semantic p).take n = frame kind format semantic q := by
  have hdigest : frameDigestBytes = 32 := rfl
  have hhead : frameHeaderBytes ≤ n := by
    rw [List.length_take] at hsize
    omega
  have hmod := Nat.mod_le p.length (2 ^ 32)
  rw [take_frame kind format semantic p hhead] at h hsize ⊢
  set body := (p ++ (sha256 p).bytes).take (n - frameHeaderBytes) with hbody
  -- the header says the length of `q`, so it is the header of `q`
  obtain ⟨-, hlength⟩ := (heads_header kind format semantic (hmod.trans hmax) body).unique h.heads
  have hdrop : (frameHeader kind format semantic p.length ++ body).drop frameHeaderBytes = body :=
    List.drop_left' (frameHeader_length kind format semantic p.length)
  have hq := h.payload_eq
  have hstored := h.digest_eq
  rw [hdrop] at hq
  rw [← List.drop_drop, hdrop] at hstored
  have hrest : (body.drop q.length).length ≤ frameDigestBytes := by
    rw [List.length_append, frameHeader_length] at hsize
    rw [List.length_drop]
    omega
  rw [List.take_of_length_le hrest] at hstored
  have hsplit : body = q ++ (sha256 q).bytes := by
    calc body = body.take q.length ++ body.drop q.length := (List.take_append_drop _ _).symm
      _ = q ++ (sha256 q).bytes := by rw [hq, hstored]
  rw [← frameHeader_mod, hlength, frame, List.append_assoc, ← hsplit]

/-- The directory whose snapshot file holds these bytes. -/
def snapshotTrace (bytes : List UInt8) : List (Action FileName μ) :=
  [.file (.openWrite .snapshot) none, .file (.write .snapshot bytes) none]

theorem snapshotTrace_files (bytes : List UInt8) :
    diskAfter (snapshotTrace bytes : List (Action FileName μ)) .snapshot = some bytes
      ∧ journalFile (diskAfter (snapshotTrace bytes : List (Action FileName μ))) = [] := by
  constructor <;> simp [snapshotTrace, diskAfter, Action.apply, FileOp.apply, journalFile, Disk.set]

/-- **A truncated snapshot is refused**, unless it is empty; or, where the
payload is too long for the header to say, itself a snapshot. -/
theorem truncated_snapshot_refused_iff (o : StoreOptions) (p : List UInt8)
    (hp : (snapshotFrame o p).length ≤ o.maxRecordBytes) (n : Nat)
    (hn : n < (snapshotFrame o p).length) :
    (∀ (t : List (Action FileName μ)) (st : Store), st.options = o →
        diskAfter t .snapshot = some ((snapshotFrame o p).take n) →
        ∃ refusal, (st.load (clean t)).1 = .error refusal)
      ↔ n ≠ 0 ∧ ∀ q : List UInt8, q.length < 2 ^ 32 →
          (snapshotFrame o p).take n ≠ snapshotFrame o q := by
  have hmax : p.length ≤ o.maxRecordBytes := (payload_length_le _ _ _ _).trans hp
  have hlength : ((snapshotFrame o p).take n).length = n := by
    rw [List.length_take]
    omega
  constructor
  · intro hrefuses
    -- a directory with only that file would load
    have hno : ∀ payload, ¬ SnapshotReads o
        (diskAfter (snapshotTrace ((snapshotFrame o p).take n) : List (Action FileName μ)))
        payload := by
      intro payload hreads
      obtain ⟨hsnapshot, hjournal⟩ := snapshotTrace_files (μ := μ) ((snapshotFrame o p).take n)
      obtain ⟨refusal, hrefusal⟩ := hrefuses _ { options := o } rfl hsnapshot
      have hloads : Loads o
          (diskAfter (snapshotTrace ((snapshotFrame o p).take n) : List (Action FileName μ)))
          payload [] [] :=
        ⟨hreads, by rw [hjournal]; exact Nat.zero_le _, by rw [hjournal]; exact .done⟩
      obtain ⟨recovery, u, hload, -⟩ := load_of_loads { options := o } hloads
      rw [hload] at hrefusal
      cases hrefusal
    obtain ⟨hsnapshot, -⟩ := snapshotTrace_files (μ := μ) ((snapshotFrame o p).take n)
    refine ⟨?_, fun q h32 heq => hno q (.inr ⟨_, hsnapshot, ?_, ?_⟩)⟩
    · rintro rfl
      exact hno [] (.inl ⟨by rw [hsnapshot, List.take_zero]; rfl, rfl⟩)
    · have hle : q.length ≤ o.maxRecordBytes := by
        have hfront : (snapshotFrame o q).length ≤ (snapshotFrame o p).length := by
          rw [← heq, hlength]
          omega
        exact (payload_length_le _ _ _ _).trans (hfront.trans hp)
      have hwhole := whole_frame .snapshot o.format o.semantic hle h32 []
      rw [List.append_nil] at hwhole
      rw [heq]
      exact hwhole
    · rw [heq]
      exact frame_length _ _ _ _
  · rintro ⟨hne, hnone⟩ t st rfl hfile
    cases hresult : (st.load (clean t)).1 with
    | error refusal => exact ⟨refusal, rfl⟩
    | ok loaded =>
      obtain ⟨tail, hloads⟩ := loads_of_load hresult
      rcases hloads.snapshot with ⟨hempty, -⟩ | ⟨raw, hraw, hwhole, hsize⟩
      · rw [hfile, Option.getD_some] at hempty
        rw [hempty, List.length_nil] at hlength
        exact absurd hlength.symm hne
      · obtain rfl := Option.some.inj (hraw.symm.trans hfile)
        exact absurd (take_frame_whole hmax hwhole hsize) (hnone _ hwhole.heads.length_lt)

/-- Where the header can say the length, no strict prefix of a frame is a
frame. -/
theorem take_ne_frame {q : List UInt8} (h32 : p.length < 2 ^ 32) (hq : q.length < 2 ^ 32)
    (hn : n < (frame kind format semantic p).length) :
    (frame kind format semantic p).take n ≠ frame kind format semantic q := by
  intro heq
  have hsize := congrArg List.length heq
  rw [List.length_take, frame_length, frame_length] at hsize
  rw [frame_length] at hn
  have hp := Nat.mod_eq_of_lt h32
  have hheads := heads_header kind format semantic (Nat.mod_le p.length (2 ^ 32))
    ((p ++ (sha256 p).bytes).take (n - frameHeaderBytes))
  have hwhole := whole_frame kind format semantic (le_refl q.length) hq []
  rw [← take_frame kind format semantic p (by omega), heq] at hheads
  rw [List.append_nil] at hwhole
  have hlength := hheads.lengthField.symm.trans hwhole.heads.lengthField
  omega

/-- One byte of a snapshot is refused. -/
theorem cut_snapshot_refused :
    (snapshotFrame {} [1]).length = 49
      ∧ ∀ (t : List (Action FileName Unit)) (st : Store), st.options = {} →
        diskAfter t .snapshot = some ((snapshotFrame {} [1]).take 1) →
        ∃ refusal, (st.load (clean t)).1 = .error refusal := by
  have hlength : (snapshotFrame {} [1]).length = 49 := frame_length _ _ _ _
  refine ⟨hlength, (truncated_snapshot_refused_iff {} [1] ?_ 1 ?_).mpr ⟨by decide, fun q hq => ?_⟩⟩
  · rw [hlength]
    decide
  · rw [hlength]
    decide
  · exact take_ne_frame (by decide) hq (by rw [← snapshotFrame, hlength]; decide)

/-- No byte of it is taken for no snapshot. -/
theorem empty_snapshot_loads :
    0 < (snapshotFrame {} [1]).length ∧ (snapshotFrame {} [1]).length ≤ 1024 * 1024
      ∧ ∃ recovery, (Store.load { options := {} }
          (clean (snapshotTrace ((snapshotFrame {} [1]).take 0) : List (Action FileName Unit)))).1
        = .ok { recovery, snapshot := [], records := [] } := by
  have hlength : (snapshotFrame {} [1]).length = 49 := frame_length _ _ _ _
  refine ⟨by rw [hlength]; decide, by rw [hlength]; decide, ?_⟩
  obtain ⟨hsnapshot, hjournal⟩ := snapshotTrace_files (μ := Unit) ((snapshotFrame {} [1]).take 0)
  rw [List.take_zero] at hsnapshot hjournal ⊢
  obtain ⟨recovery, u, hload, -⟩ := load_of_loads { options := {} }
    (show Loads {} _ [] [] [] from ⟨.inl ⟨by rw [hsnapshot]; rfl, rfl⟩,
      by rw [hjournal]; exact Nat.zero_le _, by rw [hjournal]; exact .done⟩)
  exact ⟨recovery, by rw [hload]⟩

end DpuFabric
