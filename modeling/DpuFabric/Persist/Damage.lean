/-
  Persist.Damage — DAMAGE INSIDE A FRAME OF THE JOURNAL.

  Any bytes may stand in the place of one frame.  The frames before it are
  read as they are; what happens then is decided at the damaged place:

      `Overruns`   the length in the header reaches past the end of the file:
                   the loop takes this frame AND EVERY LATER ONE for a torn
                   tail and cuts them off;
      `Misreads`   another payload stands there with its own digest.

  These two and no other damage goes unnoticed (`damage_noticed_iff`).
-/
import DpuFabric.Persist.Truncated

namespace DpuFabric

open Lib World

variable {μ : Type} {o : StoreOptions}

/-! ## §1. The damaged place. -/

/-- The bytes read as a journal that starts with another payload. -/
def Misreads (o : StoreOptions) (rest payload : List UInt8) : Prop :=
  ∃ q records tail, q ≠ payload ∧ o.Reading rest (q :: records) tail

/-- The length in the header reaches past the end of the file. -/
abbrev StoreOptions.Overruns (o : StoreOptions) (rest : List UInt8) : Prop :=
  DpuFabric.Overruns o.format o.semantic o.maxRecordBytes rest

section Place

variable {d p : List UInt8} {back : List (List UInt8)}
  (hd : d.length = (frame .event o.format o.semantic p).length)
include hd

/-- From a place of the right size on, the original record is the only one,
unless the damage overruns the file or is misread. -/
theorem reading_from_damage (hback : ∀ q ∈ back, q.length ≤ o.maxRecordBytes ∧ q.length < 2 ^ 32)
    (hover : ¬ o.Overruns (d ++ journalOf o.format o.semantic back))
    (hmis : ¬ Misreads o (d ++ journalOf o.format o.semantic back) p)
    {records : List (List UInt8)} {tail : List UInt8}
    (h : o.Reading (d ++ journalOf o.format o.semantic back) records tail) :
    records = p :: back := by
  have hlength := frame_length .event o.format o.semantic p
  generalize hrest : d ++ journalOf o.format o.semantic back = rest at h hover hmis
  have hsize : frameHeaderBytes + p.length + frameDigestBytes ≤ rest.length := by
    rw [← hrest, List.length_append]
    omega
  have hdigest : frameDigestBytes = 32 := rfl
  cases h with
  | done =>
    rw [List.length_nil] at hsize
    omega
  | torn _ htorn =>
    rcases htorn with hshort | hlong
    · omega
    · exact absurd hlong hover
  | @record _ q records tail hwhole htail =>
    obtain rfl : q = p := by
      by_contra hne
      exact hmis ⟨q, records, tail, hne, .record hwhole htail⟩
    -- the next record starts where the damaged frame ends
    have hdrop : rest.drop (frameHeaderBytes + q.length + frameDigestBytes)
        = journalOf o.format o.semantic back := by
      rw [← hrest, ← hlength, ← hd, List.drop_left]
    have hdone : o.Reading [] [] [] := .done
    have hwhole' := hdone.frames hback
    rw [List.append_nil, List.append_nil] at hwhole'
    rw [hdrop] at htail
    rw [(htail.unique hwhole').1]

/-- Damage that leaves the length and the digest is noticed by the digest. -/
theorem no_misreading (hlengthField : readAt d 12 4 = p.length)
    (hdigest : (d.drop (frameHeaderBytes + p.length)).take frameDigestBytes = (sha256 p).bytes)
    (hcollision : sha256 ((d.drop frameHeaderBytes).take p.length) = sha256 p →
      (d.drop frameHeaderBytes).take p.length = p) :
    ¬ o.Overruns (d ++ journalOf o.format o.semantic back)
      ∧ ¬ Misreads o (d ++ journalOf o.format o.semantic back) p := by
  have hlength := frame_length .event o.format o.semantic p
  have hfield : readAt (d ++ journalOf o.format o.semantic back) 12 4 = p.length := by
    rw [← hlengthField, readAt_append]
    rw [hd, hlength, frameHeaderBytes]
    omega
  constructor
  · rintro ⟨kind, length, hheads, hover⟩
    obtain rfl := hheads.lengthField.symm.trans hfield
    rw [List.length_append] at hover
    omega
  · rintro ⟨q, records, tail, hne, hreading⟩
    obtain ⟨hwhole, -⟩ := hreading.uncons
    have hsame : q.length = p.length := hwhole.heads.lengthField.symm.trans hfield
    have hpayload := hwhole.payload_eq
    have hstored := hwhole.digest_eq
    rw [hsame, slice_append (by omega)] at hpayload
    rw [hsame, slice_append (by omega), hdigest] at hstored
    rw [hpayload] at hcollision
    exact hne (hcollision (Digest.bytes_injective hstored.symm))

end Place

/-! ## §2. Loading a damaged journal. -/

/-- `load` refuses, or returns all of these records. -/
def NoticesDamage (st : Store) (t : List (Action FileName μ)) (payloads : List (List UInt8)) :
    Prop :=
  ∀ loaded, (st.load (clean t)).1 = .ok loaded → loaded.records = payloads

/-- **Which damage is noticed.**  Every damage to one frame that neither
overruns the file nor is misread; so, without a collision of the digests,
every damage that leaves the length and the digest of the frame. -/
theorem damage_noticed_iff (o : StoreOptions) (st : Store) (hst : st.options = o)
    (t : List (Action FileName μ)) (snapshot : List UInt8)
    (hsnapshot : SnapshotReads o (diskAfter t) snapshot) (front : List (List UInt8))
    (p : List UInt8) (back : List (List UInt8))
    (hframes : ∀ q ∈ front ++ p :: back, q.length ≤ o.maxRecordBytes ∧ q.length < 2 ^ 32)
    (hfits : (journalOf o.format o.semantic (front ++ p :: back)).length ≤ o.maxJournalBytes)
    (d : List UInt8) (hd : d.length = (frame .event o.format o.semantic p).length)
    (hfile : diskAfter t .journal = some (journalOf o.format o.semantic front
      ++ (d ++ journalOf o.format o.semantic back))) :
    (NoticesDamage st t (front ++ p :: back)
        ↔ ¬ o.Overruns (d ++ journalOf o.format o.semantic back)
          ∧ ¬ Misreads o (d ++ journalOf o.format o.semantic back) p)
      ∧ (readAt d 12 4 = p.length →
        (d.drop (frameHeaderBytes + p.length)).take frameDigestBytes = (sha256 p).bytes →
        (sha256 ((d.drop frameHeaderBytes).take p.length) = sha256 p →
          (d.drop frameHeaderBytes).take p.length = p) →
        NoticesDamage st t (front ++ p :: back)) := by
  subst hst
  have hfront : ∀ q ∈ front, q.length ≤ st.options.maxRecordBytes ∧ q.length < 2 ^ 32 :=
    fun q hq => hframes q (by simp [hq])
  have hback : ∀ q ∈ back, q.length ≤ st.options.maxRecordBytes ∧ q.length < 2 ^ 32 :=
    fun q hq => hframes q (by simp [hq])
  have hbytes : journalFile (diskAfter t) = journalOf st.options.format st.options.semantic front
      ++ (d ++ journalOf st.options.format st.options.semantic back) := by
    rw [journalFile, hfile, Option.getD_some]
  set rest := d ++ journalOf st.options.format st.options.semantic back with hrest
  -- what is read from the damaged place on is loaded after the front
  have hloaded : ∀ {records tail}, st.options.Reading rest records tail →
      ∃ loaded, (st.load (clean t)).1 = .ok loaded ∧ loaded.records = front ++ records := by
    intro records tail h
    have hreading := h.frames hfront
    rw [← hbytes] at hreading
    have hsize : (journalFile (diskAfter t)).length ≤ st.options.maxJournalBytes := by
      rw [hbytes, hrest, List.length_append, List.length_append, hd]
      simpa [journalOf] using hfits
    obtain ⟨recovery, u, hload, -⟩ := load_of_loads st ⟨hsnapshot, hsize, hreading⟩
    exact ⟨_, congrArg Prod.fst hload, rfl⟩
  have hiff : NoticesDamage st t (front ++ p :: back)
      ↔ ¬ st.options.Overruns rest ∧ ¬ Misreads st.options rest p := by
    constructor
    · intro hnotices
      refine ⟨fun hover => ?_, ?_⟩
      · have hne : rest ≠ [] := by
          intro hempty
          have hlength := frame_length .event st.options.format st.options.semantic p
          rw [hrest, List.append_eq_nil_iff] at hempty
          rw [hempty.1, List.length_nil, hlength, frameHeaderBytes] at hd
          omega
        obtain ⟨loaded, hload, hrecords⟩ := hloaded (.torn hne (.inr hover))
        have hall := hnotices loaded hload
        rw [hrecords] at hall
        exact absurd (List.append_cancel_left hall) (by simp)
      · rintro ⟨q, records, tail, hne, hreading⟩
        obtain ⟨loaded, hload, hrecords⟩ := hloaded hreading
        have hall := hnotices loaded hload
        rw [hrecords] at hall
        exact hne (List.cons.inj (List.append_cancel_left hall)).1
    · rintro ⟨hover, hmis⟩ loaded hload
      obtain ⟨tail, hloads⟩ := loads_of_load hload
      have hreading := hloads.journal
      rw [hbytes] at hreading
      obtain ⟨records, hrecords, hfrom⟩ := reading_after_frames hfront hreading
      rw [hrecords, reading_from_damage hd hback hover hmis hfrom]
  refine ⟨hiff, fun hlength hdigest hcollision => hiff.mpr ?_⟩
  exact no_misreading hd hlength hdigest hcollision

/-- A frame of a journal with one byte of its payload changed. -/
def flippedFrame : List UInt8 := frameHeader .event 1 1 1 ++ [9] ++ (sha256 [2]).bytes

theorem flippedFrame_noticed :
    flippedFrame ≠ frame .event 1 1 [2]
      ∧ NoticesDamage { options := {} } (journalTrace (journalOf 1 1 [[1]]
        ++ (flippedFrame ++ journalOf 1 1 [[3]])) : List (Action FileName Unit))
        [[1], [2], [3]] := by
  have hlength : ∀ b, (frame .event 1 1 [b]).length = 49 := fun b => frame_length _ _ _ _
  have hdrop : flippedFrame.drop frameHeaderBytes = [9] ++ (sha256 [2]).bytes := by
    rw [flippedFrame, List.append_assoc,
      List.drop_left' (frameHeader_length .event 1 1 1)]
  obtain ⟨hjournal, hsnapshot⟩ := journalTrace_files (μ := Unit)
    (journalOf 1 1 [[1]] ++ (flippedFrame ++ journalOf 1 1 [[3]]))
  have hsize : flippedFrame.length = 49 := by
    rw [flippedFrame, List.length_append, List.length_append, frameHeader_length,
      (sha256 [2]).size]
    rfl
  refine ⟨fun heq => ?_, (damage_noticed_iff {} { options := {} } rfl _ []
    (.inl ⟨by rw [hsnapshot]; rfl, rfl⟩) [[1]] [2] [[3]] (by decide) ?_ flippedFrame ?_
    hjournal).2 ?_ ?_ ?_⟩
  · have hbody := congrArg (List.drop frameHeaderBytes) heq
    rw [hdrop, frame, List.append_assoc, List.length_singleton,
      List.drop_left' (frameHeader_length .event 1 1 1)] at hbody
    exact absurd (List.cons.inj hbody).1 (by decide)
  · simp only [journalOf, List.cons_append, List.nil_append, List.flatMap_cons, List.flatMap_nil,
      List.length_append, List.length_nil, formatVersion, semanticVersion, hlength]
    decide
  · rw [hsize]
    exact (hlength 2).symm
  · have hfield := readAt_lengthField .event 1 1 1 ([9] ++ (sha256 [2]).bytes)
    exact hfield
  · rw [← List.drop_drop, hdrop]
    exact List.take_of_length_le (Nat.le_of_eq (sha256 [2]).size)
  rw [hdrop]
  intro hsha
  exact absurd hsha (by decide +kernel)

/-- A frame of a journal whose header says 1000 bytes in the place of one. -/
def longFrame : List UInt8 := frameHeader .event 1 1 1000 ++ [2] ++ (sha256 [2]).bytes

/-- It is taken for a torn tail, and the acknowledged record after it is cut
off with it. -/
theorem longFrame_drops_the_rest :
    longFrame.length = (frame .event 1 1 [2]).length
      ∧ ∃ recovery u, Store.load { options := {} } (clean (journalTrace (journalOf 1 1 [[1]]
          ++ (longFrame ++ journalOf 1 1 [[3]])) : List (Action FileName Unit)))
        = (.ok { recovery, snapshot := [], records := [[1]] }, { options := {}, recovery },
            clean (journalTrace (journalOf 1 1 [[1]] ++ (longFrame ++ journalOf 1 1 [[3]])) ++ u))
        ∧ recovery.classification = .tornTailTruncated
        ∧ diskAfter (journalTrace (journalOf 1 1 [[1]] ++ (longFrame ++ journalOf 1 1 [[3]]))
          ++ u) .journal = some (journalOf 1 1 [[1]]) := by
  have hlength : ∀ b, (frame .event 1 1 [b]).length = 49 := fun b => frame_length _ _ _ _
  have hsize : longFrame.length = 49 := by
    rw [longFrame, List.length_append, List.length_append, frameHeader_length,
      (sha256 [2]).size]
    rfl
  obtain ⟨hjournal, hsnapshot⟩ := journalTrace_files (μ := Unit)
    (journalOf 1 1 [[1]] ++ (longFrame ++ journalOf 1 1 [[3]]))
  generalize (journalTrace (journalOf 1 1 [[1]] ++ (longFrame ++ journalOf 1 1 [[3]]))
    : List (Action FileName Unit)) = t at hjournal hsnapshot ⊢
  have hrest : (longFrame ++ journalOf 1 1 [[3]]).length = 98 := by
    rw [List.length_append, hsize, journalOf, List.flatMap_singleton, hlength]
  have hhead : Heads 1 1 (1024 * 1024) (longFrame ++ journalOf 1 1 [[3]]) .event 1000 := by
    rw [longFrame, List.append_assoc, List.append_assoc]
    exact heads_header .event 1 1 (show 1000 % 2 ^ 32 ≤ 1024 * 1024 by decide) _
  have htorn : Torn 1 1 (1024 * 1024) (longFrame ++ journalOf 1 1 [[3]]) :=
    .inr ⟨.event, 1000, hhead, by rw [hrest]; decide⟩
  have hne : longFrame ++ journalOf 1 1 [[3]] ≠ [] := by
    intro hempty
    rw [hempty] at hrest
    cases hrest
  have hreading := (Reading.torn hne htorn).frames
    (show ∀ p ∈ [[1]], p.length ≤ 1024 * 1024 ∧ p.length < 2 ^ 32 by decide)
  have hfirst : (journalOf 1 1 [[1]]).length = 49 := by
    rw [journalOf, List.flatMap_singleton, hlength]
  have hbytes : journalFile (diskAfter t)
      = journalOf 1 1 [[1]] ++ (longFrame ++ journalOf 1 1 [[3]]) := by
    rw [journalFile, hjournal, Option.getD_some]
  obtain ⟨recovery, u, hload, hclass, hcut, -⟩ := load_of_loads { options := {} }
    (show Loads {} (diskAfter t) [] ([[1]] ++ []) (longFrame ++ journalOf 1 1 [[3]]) from
      ⟨.inl ⟨by rw [hsnapshot]; rfl, rfl⟩,
        by rw [hbytes, List.length_append, hfirst, hrest]; decide,
        by rw [hbytes]; exact hreading⟩)
  refine ⟨by rw [hsize, hlength], recovery, u, hload, ?_, ?_⟩
  · rw [hclass, loadClass, journalClassOf, if_pos hne]
  · rw [hcut, hjournal, hbytes, Option.map_some, List.length_append, Nat.add_sub_cancel,
      List.take_left]

end DpuFabric
