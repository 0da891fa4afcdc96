/-
  Persist.Reading — WHAT THE JOURNAL LOOP ACCEPTS, EXACTLY.

  `Reading` says, without the parser and without offsets, how bytes read as a
  journal: whole event records, then at most one torn piece.  A piece is torn
  when it is no longer than a header, or when the length in its header
  reaches past the end of the file.
-/
import DpuFabric.Persist.Frame

namespace DpuFabric

open Lib Lib.Codec

variable {p rest tail : List UInt8} {kind : RecordKind} {records : List (List UInt8)} {length : Nat}

/-! ## §1. Pieces of a journal. -/

section Pieces

variable (format semantic maxRecordBytes : Nat)

/-- The bytes start with a header that passes every check of `parse_frame`;
the header says `kind` and `length`. -/
structure Heads (rest : List UInt8) (kind : RecordKind) (length : Nat) : Prop where
  size : frameHeaderBytes ≤ rest.length
  magic : readAt rest 0 4 = frameMagic
  version : readAt rest 4 2 = format % 2 ^ 16
  semantics : readAt rest 6 2 = semantic % 2 ^ 16
  ofByte : RecordKind.ofByte (readAt rest 8 1) = some kind
  lengthField : readAt rest 12 4 = length
  bounded : length ≤ maxRecordBytes

/-- The bytes start with a whole record. -/
structure Whole (rest : List UInt8) (kind : RecordKind) (payload : List UInt8) : Prop where
  heads : Heads format semantic maxRecordBytes rest kind payload.length
  reaches : frameHeaderBytes + payload.length + frameDigestBytes ≤ rest.length
  payload_eq : (rest.drop frameHeaderBytes).take payload.length = payload
  digest_eq : (rest.drop (frameHeaderBytes + payload.length)).take frameDigestBytes
    = (sha256 payload).bytes

/-- The length in the header reaches past the end. -/
def Overruns (rest : List UInt8) : Prop :=
  ∃ kind length, Heads format semantic maxRecordBytes rest kind length
    ∧ rest.length < frameHeaderBytes + length + frameDigestBytes

/-- The loop takes the bytes for the torn end of the journal. -/
def Torn (rest : List UInt8) : Prop :=
  rest.length ≤ frameHeaderBytes ∨ Overruns format semantic maxRecordBytes rest

/-- The bytes read as these records, with this torn piece after them. -/
inductive Reading : List UInt8 → List (List UInt8) → List UInt8 → Prop where
  | done : Reading [] [] []
  | torn {rest : List UInt8} : rest ≠ [] → Torn format semantic maxRecordBytes rest →
      Reading rest [] rest
  | record {rest payload : List UInt8} {records : List (List UInt8)} {tail : List UInt8} :
      Whole format semantic maxRecordBytes rest .event payload →
      Reading (rest.drop (frameHeaderBytes + payload.length + frameDigestBytes)) records tail →
      Reading rest (payload :: records) tail

end Pieces

section Unique

variable {format semantic maxRecordBytes : Nat} {rest : List UInt8}

theorem Heads.unique {kind' : RecordKind} {length' : Nat}
    (h : Heads format semantic maxRecordBytes rest kind length)
    (h' : Heads format semantic maxRecordBytes rest kind' length') :
    kind = kind' ∧ length = length' :=
  ⟨Option.some.inj (h.ofByte.symm.trans h'.ofByte), h.lengthField.symm.trans h'.lengthField⟩

theorem Whole.unique {kind' : RecordKind} {p' : List UInt8}
    (h : Whole format semantic maxRecordBytes rest kind p)
    (h' : Whole format semantic maxRecordBytes rest kind' p') : kind = kind' ∧ p = p' := by
  obtain ⟨hkind, hlength⟩ := h.heads.unique h'.heads
  refine ⟨hkind, ?_⟩
  rw [← h.payload_eq, ← h'.payload_eq, hlength]

theorem Whole.not_torn (h : Whole format semantic maxRecordBytes rest kind p) :
    ¬ Torn format semantic maxRecordBytes rest := by
  have hdigest : frameDigestBytes = 32 := rfl
  have hreaches := h.reaches
  rintro (hshort | ⟨kind', length, hheads, hover⟩)
  · omega
  · obtain ⟨-, rfl⟩ := h.heads.unique hheads
    omega

theorem Heads.length_lt (h : Heads format semantic maxRecordBytes rest kind length) :
    length < 2 ^ 32 := by
  rw [← h.lengthField, readAt]
  have hvalue := leValue_lt ((rest.drop 12).take 4)
  have hpow : (256 : Nat) ^ ((rest.drop 12).take 4).length ≤ 256 ^ 4 :=
    Nat.pow_le_pow_right (by decide) (by simp)
  calc leValue ((rest.drop 12).take 4) < 256 ^ ((rest.drop 12).take 4).length := hvalue
    _ ≤ 256 ^ 4 := hpow
    _ = 2 ^ 32 := by decide

theorem Whole.ne_nil (h : Whole format semantic maxRecordBytes rest kind p) : rest ≠ [] := by
  rintro rfl
  have hreaches := h.reaches
  simp [frameHeaderBytes] at hreaches

/-- **Bytes read as a journal in one way at most.** -/
theorem Reading.unique {records' : List (List UInt8)} {tail' : List UInt8}
    (h : Reading format semantic maxRecordBytes rest records tail)
    (h' : Reading format semantic maxRecordBytes rest records' tail') :
    records = records' ∧ tail = tail' := by
  induction h generalizing records' tail' with
  | done =>
    cases h' with
    | done => exact ⟨rfl, rfl⟩
    | torn hne _ => exact absurd rfl hne
    | record hwhole _ => exact absurd rfl hwhole.ne_nil
  | torn hne htorn =>
    cases h' with
    | done => exact absurd rfl hne
    | torn _ _ => exact ⟨rfl, rfl⟩
    | record hwhole _ => exact absurd htorn hwhole.not_torn
  | record hwhole _ ih =>
    cases h' with
    | done => exact absurd rfl hwhole.ne_nil
    | torn _ htorn => exact absurd htorn hwhole.not_torn
    | record hwhole' hrest' =>
      obtain ⟨-, rfl⟩ := hwhole.unique hwhole'
      obtain ⟨rfl, rfl⟩ := ih hrest'
      exact ⟨rfl, rfl⟩

end Unique

/-! ## §2. One parse. -/

section Parse

variable {format semantic maxRecordBytes : Nat} {data : List UInt8} {offset : Nat}

theorem readAt_drop (data : List UInt8) (offset k width : Nat) :
    readAt (data.drop offset) k width = readAt data (offset + k) width := by
  rw [readAt, readAt, List.drop_drop]

/-- What one parse says about the bytes at its offset. -/
inductive Parsed (format semantic maxRecordBytes : Nat) (rest : List UInt8) (offset : Nat) :
    FrameParseResult → Prop where
  | torn {r : FrameParseResult} : r.complete = false → r.tornTail = true →
      Torn format semantic maxRecordBytes rest →
      Parsed format semantic maxRecordBytes rest offset r
  | whole {kind : RecordKind} {payload : List UInt8} :
      Whole format semantic maxRecordBytes rest kind payload →
      Parsed format semantic maxRecordBytes rest offset
        { complete := true, kind, payloadOffset := offset + frameHeaderBytes,
          payloadLength := payload.length,
          consumed := frameHeaderBytes + payload.length + frameDigestBytes }
  | refused {r : FrameParseResult} : r.complete = false → r.tornTail = false →
      ¬ Overruns format semantic maxRecordBytes rest →
      (∀ kind payload, ¬ Whole format semantic maxRecordBytes rest kind payload) →
      Parsed format semantic maxRecordBytes rest offset r

theorem parsed_of_no_header {r : FrameParseResult}
    (hcomplete : r.complete = false) (htorn : r.tornTail = false)
    (hheads : ∀ kind length, ¬ Heads format semantic maxRecordBytes rest kind length) :
    Parsed format semantic maxRecordBytes rest offset r := by
  refine .refused hcomplete htorn ?_ fun kind payload hwhole => hheads _ _ hwhole.heads
  rintro ⟨kind, length, hhead, -⟩
  exact hheads kind length hhead

theorem parseBody_parsed
    (hheads : Heads format semantic maxRecordBytes (data.drop offset) kind length)
    (hreaches : frameHeaderBytes + length + frameDigestBytes ≤ (data.drop offset).length) :
    Parsed format semantic maxRecordBytes (data.drop offset) offset
      (parseBody data offset kind length) := by
  have hdigest : frameDigestBytes = 32 := rfl
  have hsize : (((data.drop offset).drop frameHeaderBytes).take length).length = length := by
    rw [List.length_take, List.length_drop]
    omega
  unfold parseBody
  simp only [← List.drop_drop, Nat.add_assoc]
  split
  · next hne =>
    refine .refused rfl rfl ?_ fun kind' p hwhole => ?_
    · rintro ⟨kind', length', hheads', hover⟩
      obtain ⟨-, rfl⟩ := hheads.unique hheads'
      omega
    · obtain ⟨-, rfl⟩ := hheads.unique hwhole.heads
      refine hne ?_
      rw [hwhole.payload_eq, List.drop_drop, hwhole.digest_eq]
  · next heq =>
    have hparsed : Whole format semantic maxRecordBytes (data.drop offset) kind
        (((data.drop offset).drop frameHeaderBytes).take length) := by
      refine ⟨hsize.symm ▸ hheads, hsize.symm ▸ hreaches, by rw [hsize], ?_⟩
      rw [hsize, ← List.drop_drop]
      exact (not_not.mp heq).symm
    have hresult : Parsed format semantic maxRecordBytes (data.drop offset) offset _ :=
      .whole hparsed
    rw [hsize] at hresult
    exact hresult

/-- **What one parse can say.** -/
theorem parseFrame_parsed (format semantic maxRecordBytes : Nat) (h : offset < data.length) :
    Parsed format semantic maxRecordBytes (data.drop offset) offset
      (parseFrame data offset format semantic maxRecordBytes) := by
  have hlen : (data.drop offset).length = data.length - offset := List.length_drop
  rw [parseFrame, if_neg (by omega), if_neg (by omega)]
  by_cases hheader : data.length - offset < frameHeaderBytes
  · rw [if_pos hheader]
    exact .torn rfl rfl (.inl (by omega))
  rw [if_neg hheader]
  by_cases hmagic : readAt data offset 4 ≠ frameMagic
  · rw [if_pos hmagic]
    refine parsed_of_no_header rfl rfl fun kind length hheads => hmagic ?_
    rw [← hheads.magic, readAt_drop, Nat.add_zero]
  rw [if_neg hmagic]
  by_cases hformat : readAt data (offset + 4) 2 ≠ format % 2 ^ 16
  · rw [if_pos hformat]
    refine parsed_of_no_header rfl rfl fun kind length hheads => hformat ?_
    rw [← hheads.version, readAt_drop]
  rw [if_neg hformat]
  by_cases hsemantic : readAt data (offset + 6) 2 ≠ semantic % 2 ^ 16
  · rw [if_pos hsemantic]
    refine parsed_of_no_header rfl rfl fun kind length hheads => hsemantic ?_
    rw [← hheads.semantics, readAt_drop]
  rw [if_neg hsemantic]
  cases hkind : RecordKind.ofByte (readAt data (offset + 8) 1) with
  | none =>
    refine parsed_of_no_header rfl rfl fun kind length hheads => ?_
    have hbyte := hheads.ofByte
    rw [readAt_drop, hkind] at hbyte
    simp at hbyte
  | some kind =>
    simp only
    by_cases hsize : maxRecordBytes < readAt data (offset + 12) 4
    · rw [if_pos hsize]
      refine parsed_of_no_header rfl rfl fun kind length hheads => ?_
      have hbounded := hheads.bounded
      rw [← hheads.lengthField, readAt_drop] at hbounded
      omega
    rw [if_neg hsize]
    have hheads : Heads format semantic maxRecordBytes (data.drop offset) kind
        (readAt data (offset + 12) 4) := by
      refine ⟨by omega, ?_, ?_, ?_, ?_, ?_, by omega⟩
      · rw [readAt_drop, Nat.add_zero]; exact not_not.mp hmagic
      · rw [readAt_drop]; exact not_not.mp hformat
      · rw [readAt_drop]; exact not_not.mp hsemantic
      · rw [readAt_drop]; exact hkind
      · rw [readAt_drop]
    by_cases hover : data.length - offset
        < frameHeaderBytes + readAt data (offset + 12) 4 + frameDigestBytes
    · rw [if_pos hover]
      exact .torn rfl rfl (.inr ⟨kind, _, hheads, by omega⟩)
    · rw [if_neg hover]
      exact parseBody_parsed hheads (by omega)

end Parse

/-! ## §3. The loop. -/

section Loop

variable {format semantic maxRecordBytes : Nat} {data : List UInt8}

/-- What the end of the loop says about the bytes it started from. -/
def Scan.Tells (format semantic maxRecordBytes : Nat) (size : Nat) (rest : List UInt8)
    (records : List (List UInt8)) : Scan → Prop
  | .clean all => ∃ qs, all = records ++ qs ∧ Reading format semantic maxRecordBytes rest qs []
  | .torn all offset => ∃ qs tail, all = records ++ qs ∧ tail ≠ [] ∧ offset + tail.length = size
      ∧ Reading format semantic maxRecordBytes rest qs tail
  | .refused _ _ => ∀ qs tail, ¬ Reading format semantic maxRecordBytes rest qs tail

/-- Without a record and without a torn end there is no reading. -/
theorem no_reading (hne : rest ≠ []) (htorn : ¬ Torn format semantic maxRecordBytes rest)
    (hwhole : ∀ p, ¬ Whole format semantic maxRecordBytes rest .event p)
    (qs : List (List UInt8)) (tail : List UInt8) :
    ¬ Reading format semantic maxRecordBytes rest qs tail := by
  intro h
  cases h with
  | done => exact hne rfl
  | torn _ h => exact htorn h
  | record h _ => exact hwhole _ h

theorem Scan.Tells.cons {size : Nat}
    {r : Scan} (hwhole : Whole format semantic maxRecordBytes rest .event p)
    (h : r.Tells format semantic maxRecordBytes size
      (rest.drop (frameHeaderBytes + p.length + frameDigestBytes)) (records ++ [p])) :
    r.Tells format semantic maxRecordBytes size rest records := by
  cases r with
  | clean all =>
    obtain ⟨qs, rfl, hreading⟩ := h
    exact ⟨p :: qs, by simp, .record hwhole hreading⟩
  | torn all offset =>
    obtain ⟨qs, tail, rfl, hne, hsize, hreading⟩ := h
    exact ⟨p :: qs, tail, by simp, hne, hsize, .record hwhole hreading⟩
  | refused status classification =>
    intro qs tail hreading
    cases hreading with
    | done => exact hwhole.ne_nil rfl
    | torn _ htorn => exact hwhole.not_torn htorn
    | record hwhole' hrest =>
      obtain ⟨-, rfl⟩ := hwhole.unique hwhole'
      exact h _ _ hrest

/-- **The loop tells how the bytes read.**  The induction is on the fuel; a
turn that goes on has consumed a header at least. -/
theorem scanJournal_tells (format semantic maxRecordBytes fuel offset : Nat)
    (records : List (List UInt8))
    (hoffset : offset ≤ data.length) (hfuel : data.length - offset ≤ fuel) :
    (scanJournal format semantic maxRecordBytes data fuel offset records).Tells format semantic
      maxRecordBytes data.length (data.drop offset) records := by
  have hlen : (data.drop offset).length = data.length - offset := List.length_drop
  induction fuel generalizing offset records with
  | zero =>
    have hend : data.drop offset = [] := List.drop_eq_nil_of_le (by omega)
    rw [scanJournal, hend]
    exact ⟨[], by simp, .done⟩
  | succ fuel ih =>
    rw [scanJournal]
    by_cases hend : data.length ≤ offset
    · rw [if_pos hend, List.drop_eq_nil_of_le hend]
      exact ⟨[], by simp, .done⟩
    rw [if_neg hend]
    have hne : data.drop offset ≠ [] := by
      intro h
      rw [h, List.length_nil] at hlen
      omega
    have hparsed := parseFrame_parsed format semantic maxRecordBytes
      (show offset < data.length by omega)
    generalize parseFrame data offset format semantic maxRecordBytes = parsed at hparsed
    simp only
    cases hparsed with
    | torn hcomplete htail htorn =>
      rw [hcomplete, htail]
      simp only [Bool.false_eq_true, if_false, Bool.true_or, if_true]
      exact ⟨[], _, by simp, hne, by omega, .torn hne htorn⟩
    | @whole kind p hwhole =>
      simp only [if_true]
      have hreaches := hwhole.reaches
      by_cases hkind : kind ≠ .event
      · rw [if_pos hkind]
        refine no_reading hne hwhole.not_torn fun q hq => hkind ?_
        exact (hwhole.unique hq).1
      · rw [if_neg hkind]
        obtain rfl := not_not.mp hkind
        have hrest := ih (offset + (frameHeaderBytes + p.length + frameDigestBytes))
          (records ++ [p]) (by omega) (by rw [frameHeaderBytes]; omega) List.length_drop
        rw [← List.drop_drop] at hrest
        rw [← List.drop_drop, hwhole.payload_eq]
        exact hrest.cons hwhole
    | refused hcomplete htail hover hnone =>
      rw [hcomplete, htail]
      simp only [Bool.false_eq_true, if_false, Bool.false_or, decide_eq_true_eq]
      by_cases hshort : data.length ≤ offset + frameHeaderBytes
      · rw [if_pos hshort]
        exact ⟨[], _, by simp, hne, by omega, .torn hne (.inl (by omega))⟩
      rw [if_neg hshort]
      refine no_reading hne ?_ fun q => hnone .event q
      rintro (h | h)
      · omega
      · exact hover h

/-- **A scan that does not refuse is a reading.** -/
theorem scan_tells (format semantic maxRecordBytes : Nat) (data : List UInt8) :
    (scan format semantic maxRecordBytes data).Tells format semantic maxRecordBytes data.length
      data [] := by
  have h := scanJournal_tells format semantic maxRecordBytes data.length 0 []
    (Nat.zero_le data.length) (by omega)
  rwa [List.drop_zero] at h

/-- **Bytes that read as a journal are scanned so.** -/
theorem scan_reading (h : Reading format semantic maxRecordBytes data records tail) :
    scan format semantic maxRecordBytes data
      = if tail = [] then .clean records else .torn records (data.length - tail.length) := by
  have htells := scan_tells format semantic maxRecordBytes data
  cases hscan : scan format semantic maxRecordBytes data with
  | clean all =>
    rw [hscan] at htells
    obtain ⟨qs, rfl, hreading⟩ := htells
    obtain ⟨rfl, rfl⟩ := h.unique hreading
    rfl
  | torn all offset =>
    rw [hscan] at htells
    obtain ⟨qs, tail', rfl, hne, hsize, hreading⟩ := htells
    obtain ⟨rfl, rfl⟩ := h.unique hreading
    rw [if_neg hne, ← hsize, Nat.add_sub_cancel]
  | refused status classification =>
    rw [hscan] at htells
    exact absurd h (htells _ _)

end Loop

/-! ## §4. Frames. -/

section Frames

variable {format semantic maxRecordBytes : Nat}

/-- A header passes the checks; its length field is the length cut to four
bytes. -/
theorem heads_header (kind : RecordKind) (format semantic : Nat)
    (hmax : length % 2 ^ 32 ≤ maxRecordBytes) (post : List UInt8) :
    Heads format semantic maxRecordBytes (frameHeader kind format semantic length ++ post) kind
      (length % 2 ^ 32) where
  size := by rw [List.length_append, frameHeader_length]; exact Nat.le_add_right _ _
  -- each field stands where it is read
  magic := leValue_leBytes (k := 4) (by decide)
  version := leValue_leBytes_mod 2 format
  semantics := leValue_leBytes_mod 2 semantic
  ofByte := ofByte_byte kind
  lengthField := readAt_lengthField kind format semantic length post
  bounded := hmax

theorem whole_frame (kind : RecordKind) (format semantic : Nat)
    (hmax : p.length ≤ maxRecordBytes) (h32 : p.length < 2 ^ 32) (post : List UInt8) :
    Whole format semantic maxRecordBytes (frame kind format semantic p ++ post) kind p := by
  have hmod : p.length % 2 ^ 32 = p.length := Nat.mod_eq_of_lt h32
  have hheads := heads_header kind format semantic
    (show p.length % 2 ^ 32 ≤ maxRecordBytes by rwa [hmod]) (p ++ ((sha256 p).bytes ++ post))
  rw [hmod] at hheads
  have hdrop : (frame kind format semantic p ++ post).drop frameHeaderBytes
      = p ++ ((sha256 p).bytes ++ post) := by
    rw [frame, List.append_assoc, List.append_assoc,
      List.drop_left' (frameHeader_length kind format semantic p.length)]
  refine ⟨?_, ?_, by rw [hdrop, List.take_left], ?_⟩
  · rwa [frame, List.append_assoc, List.append_assoc]
  · rw [List.length_append, frame_length]
    omega
  · rw [← List.drop_drop, hdrop, List.drop_left]
    exact List.take_left' (sha256 p).size

theorem Reading.frames {payloads : List (List UInt8)}
    (hp : ∀ p ∈ payloads, p.length ≤ maxRecordBytes ∧ p.length < 2 ^ 32)
    (h : Reading format semantic maxRecordBytes rest records tail) :
    Reading format semantic maxRecordBytes (journalOf format semantic payloads ++ rest)
      (payloads ++ records) tail := by
  induction payloads with
  | nil => exact h
  | cons p payloads ih =>
    obtain ⟨hmax, h32⟩ := hp p (by simp)
    rw [journalOf, List.flatMap_cons, List.append_assoc]
    refine .record (whole_frame .event format semantic hmax h32 _) ?_
    rw [← frame_length .event format semantic p, List.drop_left]
    exact ih fun q hq => hp q (by simp [hq])

theorem reading_after_frames {payloads : List (List UInt8)}
    (hp : ∀ p ∈ payloads, p.length ≤ maxRecordBytes ∧ p.length < 2 ^ 32)
    (h : Reading format semantic maxRecordBytes (journalOf format semantic payloads ++ rest)
      records tail) :
    ∃ qs, records = payloads ++ qs ∧ Reading format semantic maxRecordBytes rest qs tail := by
  induction payloads generalizing records with
  | nil => exact ⟨records, rfl, h⟩
  | cons p payloads ih =>
    obtain ⟨hmax, h32⟩ := hp p (by simp)
    rw [journalOf, List.flatMap_cons, List.append_assoc] at h
    have hwhole := whole_frame .event format semantic hmax h32
      (payloads.flatMap (frame .event format semantic) ++ rest)
    cases h with
    | torn _ htorn => exact absurd htorn hwhole.not_torn
    | record hwhole' hrest =>
      obtain ⟨-, rfl⟩ := hwhole.unique hwhole'
      rw [← frame_length .event format semantic p, List.drop_left] at hrest
      obtain ⟨qs, rfl, hreading⟩ := ih (fun q hq => hp q (by simp [hq])) hrest
      exact ⟨qs, rfl, hreading⟩

theorem slice_append {d post : List UInt8} {k width : Nat} (h : k + width ≤ d.length) :
    ((d ++ post).drop k).take width = (d.drop k).take width := by
  rw [List.drop_append_of_le_length (by omega),
    List.take_append_of_le_length (by rw [List.length_drop]; omega)]

theorem readAt_append {d post : List UInt8} {k width : Nat} (h : k + width ≤ d.length) :
    readAt (d ++ post) k width = readAt d k width := by
  rw [readAt, readAt, slice_append h]

theorem Whole.append (h : Whole format semantic maxRecordBytes rest kind p) (post : List UInt8) :
    Whole format semantic maxRecordBytes (rest ++ post) kind p := by
  have hreaches := h.reaches
  have hhead : frameHeaderBytes = 16 := rfl
  refine ⟨⟨?_, ?_, ?_, ?_, ?_, ?_, h.heads.bounded⟩, ?_, ?_, ?_⟩
  · rw [List.length_append]
    omega
  · rw [readAt_append (by omega), h.heads.magic]
  · rw [readAt_append (by omega), h.heads.version]
  · rw [readAt_append (by omega), h.heads.semantics]
  · rw [readAt_append (by omega), h.heads.ofByte]
  · rw [readAt_append (by omega), h.heads.lengthField]
  · rw [List.length_append]
    omega
  · rw [slice_append (by omega), h.payload_eq]
  · rw [slice_append (by omega), h.digest_eq]

theorem Reading.append {bytes : List UInt8} {first more : List (List UInt8)}
    {tail' : List UInt8} (h : Reading format semantic maxRecordBytes bytes first tail)
    (hwhole : tail = []) (hrest : Reading format semantic maxRecordBytes rest more tail') :
    Reading format semantic maxRecordBytes (bytes ++ rest) (first ++ more) tail' := by
  induction h with
  | done => exact hrest
  | torn hne _ => exact absurd hwhole hne
  | record hrecord _ ih =>
    refine .record (hrecord.append rest) ?_
    rw [List.drop_append_of_le_length hrecord.reaches]
    exact ih hwhole

/-- A record that was read has a length that the header can say. -/
theorem Reading.record_lt (h : Reading format semantic maxRecordBytes rest records tail) :
    ∀ p ∈ records, p.length < 2 ^ 32 := by
  induction h with
  | done => exact nofun
  | torn _ _ => exact nofun
  | record hwhole _ ih =>
    intro q hq
    rcases List.mem_cons.mp hq with rfl | hq
    · exact hwhole.heads.length_lt
    · exact ih q hq

theorem Reading.uncons (h : Reading format semantic maxRecordBytes rest (p :: records) tail) :
    Whole format semantic maxRecordBytes rest .event p
      ∧ Reading format semantic maxRecordBytes
        (rest.drop (frameHeaderBytes + p.length + frameDigestBytes)) records tail := by
  cases h with
  | record hwhole hrest => exact ⟨hwhole, hrest⟩

theorem Reading.no_record (h : Reading format semantic maxRecordBytes rest [] tail) :
    rest = [] ∨ Torn format semantic maxRecordBytes rest := by
  cases h with
  | done => exact .inl rfl
  | torn _ htorn => exact .inr htorn

end Frames

end DpuFabric
