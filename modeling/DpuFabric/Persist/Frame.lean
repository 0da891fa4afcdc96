/-
  Persist.Frame — FRAMED RECORDS (`persist/store.hpp`, `persist/store.cpp`).

  A frame is a sixteen-byte header, the payload and its digest.  The parser
  tells a TORN frame (the bytes end too early) from a DAMAGED one (they are
  there, but wrong), because only a torn tail may be dropped.
-/
import DpuFabric.Core.Archive

namespace DpuFabric

open Lib Lib.Codec

/-! ## §1. Frames. -/

/-- `RecordKind`. -/
inductive RecordKind where
  | event | snapshot | marker
  deriving DecidableEq, Repr, Inhabited

/-- The byte of a record kind. -/
def RecordKind.byte : RecordKind → UInt8
  | .event => 0
  | .snapshot => 1
  | .marker => 2

/-- The record kind of a byte. -/
def RecordKind.ofByte (raw : Nat) : Option RecordKind :=
  match raw with
  | 0 => some .event
  | 1 => some .snapshot
  | 2 => some .marker
  | _ => none

/-- `kFormatVersion`. -/
def formatVersion : Nat := 1

/-- `kSemanticVersion`. -/
def semanticVersion : Nat := 1

/-- `kFrameHeaderBytes`. -/
def frameHeaderBytes : Nat := 16

/-- `kFrameDigestBytes`. -/
def frameDigestBytes : Nat := 32

/-- `kFrameMagic`. -/
def frameMagic : Nat := 0x46555044

/-- The sixteen bytes in front of a payload; every number is cut to its
width. -/
def frameHeader (kind : RecordKind) (format semantic length : Nat) : List UInt8 :=
  leBytes 4 frameMagic ++ leBytes 2 format ++ leBytes 2 semantic ++ [kind.byte, 0, 0, 0]
    ++ leBytes 4 length

/-- `Store::frame`. -/
def frame (kind : RecordKind) (format semantic : Nat) (payload : List UInt8) : List UInt8 :=
  frameHeader kind format semantic payload.length ++ payload ++ (sha256 payload).bytes

theorem frameHeader_length (kind : RecordKind) (format semantic length : Nat) :
    (frameHeader kind format semantic length).length = frameHeaderBytes := by
  simp [frameHeader, frameHeaderBytes]

theorem frame_length (kind : RecordKind) (format semantic : Nat) (payload : List UInt8) :
    (frame kind format semantic payload).length
      = frameHeaderBytes + payload.length + frameDigestBytes := by
  simp only [frame, List.length_append, frameHeader_length, (sha256 payload).size,
    frameDigestBytes]

/-! ## §2. The parser. -/

/-- `FrameParseResult`. -/
structure FrameParseResult where
  status : Status := .success
  complete : Bool := false
  tornTail : Bool := false
  kind : RecordKind := .event
  payloadOffset : Nat := 0
  payloadLength : Nat := 0
  consumed : Nat := 0
  deriving DecidableEq

/-- `read_u16` and `read_u32`: `width` little-endian bytes at `offset`. -/
def readAt (bytes : List UInt8) (offset width : Nat) : Nat :=
  leValue ((bytes.drop offset).take width)

/-- The checks on a whole frame whose header fields have passed. -/
def parseBody (data : List UInt8) (offset : Nat) (kind : RecordKind) (length : Nat) :
    FrameParseResult :=
  let payload := (data.drop (offset + frameHeaderBytes)).take length
  let stored := (data.drop (offset + frameHeaderBytes + length)).take frameDigestBytes
  if (sha256 payload).bytes ≠ stored then
    { status := refuse .storeIntegrityFailure (txt "frame digest mismatch"), kind }
  else
    { complete := true, kind, payloadOffset := offset + frameHeaderBytes, payloadLength := length,
      consumed := frameHeaderBytes + length + frameDigestBytes }

/-- `parse_frame`. -/
def parseFrame (data : List UInt8) (offset expectedFormat expectedSemantic maxRecordBytes : Nat) :
    FrameParseResult :=
  if data.length < offset then
    { status := refuse .storeTruncated (txt "offset beyond end of record stream") }
  else if offset = data.length then {}
  else if data.length - offset < frameHeaderBytes then
    { tornTail := true, status := refuse .storeTruncated (txt "torn frame header") }
  else if readAt data offset 4 ≠ frameMagic then
    { status := refuse .storeCorrupt (txt "frame magic mismatch") }
  else if readAt data (offset + 4) 2 ≠ expectedFormat % 2 ^ 16 then
    { status := refuse .storeVersionIncompatible (txt "frame format version") }
  else if readAt data (offset + 6) 2 ≠ expectedSemantic % 2 ^ 16 then
    { status := refuse .storeSemanticsIncompatible (txt "frame semantic version") }
  else
    match RecordKind.ofByte (readAt data (offset + 8) 1) with
    | none => { status := refuse .storeCorrupt (txt "unknown record kind") }
    | some kind =>
      let length := readAt data (offset + 12) 4
      if maxRecordBytes < length then
        { status := refuse .storeRecordOversized (txt "frame payload exceeds bound"), kind }
      else if data.length - offset < frameHeaderBytes + length + frameDigestBytes then
        { tornTail := true, status := refuse .storeTruncated (txt "torn frame payload"), kind }
      else parseBody data offset kind length

/-! ## §3. The header of a frame. -/

theorem ofByte_byte (kind : RecordKind) : RecordKind.ofByte (leValue [kind.byte]) = some kind := by
  cases kind <;> rfl

/-- The length field holds the length cut to four bytes. -/
theorem readAt_lengthField (kind : RecordKind) (format semantic length : Nat)
    (post : List UInt8) :
    readAt (frameHeader kind format semantic length ++ post) 12 4 = length % 2 ^ 32 :=
  leValue_leBytes_mod 4 length

/-! ## §4. Scanning a journal. -/

/-- How the journal loop of `Store::load` ends. -/
inductive Scan where
  | clean (records : List (List UInt8))
  | torn (records : List (List UInt8)) (offset : Nat)
  | refused (status : Status) (classification : RecoveryClass)
  deriving DecidableEq

/-- Classification of damage in the middle of the journal. -/
def damageClass (code : ReasonCode) : RecoveryClass :=
  if code = .storeIntegrityFailure then .refusedIntegrity
  else if code = .storeVersionIncompatible ∨ code = .storeSemanticsIncompatible then .refusedVersion
  else .refusedCorrupt

/-- The journal loop of `Store::load`.  Every turn consumes a whole frame, so
the length of the file is enough fuel. -/
def scanJournal (format semantic maxRecordBytes : Nat) (data : List UInt8) :
    Nat → Nat → List (List UInt8) → Scan
  | 0, _, records => .clean records
  | fuel + 1, offset, records =>
    if data.length ≤ offset then .clean records
    else
      let parsed := parseFrame data offset format semantic maxRecordBytes
      if parsed.complete then
        if parsed.kind ≠ .event then
          .refused (refuse .storeCorrupt (txt "journal holds a non-event record"))
            .refusedCorrupt
        else
          scanJournal format semantic maxRecordBytes data fuel (offset + parsed.consumed)
            (records ++ [(data.drop parsed.payloadOffset).take parsed.payloadLength])
      else if parsed.tornTail || decide (data.length ≤ offset + frameHeaderBytes) then
        .torn records offset
      else .refused parsed.status (damageClass parsed.status.code)

/-- The loop started at the front. -/
def scan (format semantic maxRecordBytes : Nat) (data : List UInt8) : Scan :=
  scanJournal format semantic maxRecordBytes data data.length 0 []

/-- The bytes of a journal with these payloads. -/
def journalOf (format semantic : Nat) (payloads : List (List UInt8)) : List UInt8 :=
  payloads.flatMap (frame .event format semantic)

end DpuFabric
