/-
  Core.Archive — THE CANONICAL BINARY ARCHIVE (`core/archive.hpp`, `core/archive.cpp`).

  A `visit` member of the source is ONE description that serves the writer
  and the reader; here it is one `Visit α`, built from the same pieces: tags,
  type names, little-endian numbers, names of enumerators, flags of optionals
  and counts of sequences.  The reader stops at the first mismatch, which is
  the status its sticky failure would hold at the end.

  Field names are written by the JSON archives only; `Fields.field` keeps
  them so that a description reads like the `visit` it embeds.
-/
import DpuFabric.Core.Digest
import DpuFabric.Lib.Codec

namespace DpuFabric

open Lib

/-- One `visit`: both directions of the binary archive. -/
abbrev Visit (α : Type) := Codec Status α

namespace Visit

variable {α β : Type}

/-! ## §1. Bytes, tags and numbers. -/

def streamEnded : Status := refuse .truncatedInput (txt "binary stream ended")

def blobTruncated : Status :=
  refuse .truncatedInput (txt "binary blob exceeds remaining input")

/-- `kMaxDecodedBlob`. -/
def maxDecodedBlob : Nat := 2 ^ 20

/-- `kMaxDecodedSequence`. -/
def maxDecodedSequence : Nat := 2 ^ 16

/-- `put_u8`/`get_u8` with a check on the byte. -/
def byte (check : Nat → Option Status) : Visit Nat := Codec.number 1 streamEnded check

/-- `expect_tag`. -/
def tagged (tag : Fin 256) (c : Visit α) : Visit α :=
  Codec.guarded (byte (fun _ => none)) tag.val
    (fun raw => if raw = tag.val then none else
      some (refuse .invalidTag (txt "unexpected wire tag"))) c
    (fun _ => by simp [byte, Codec.number, tag.isLt])
    (by simp [byte, Codec.number])

/-- `primitive(bool&)`. -/
def bool : Visit Bool :=
  tagged 1 <| (byte (fun raw => if 1 < raw then
    some (refuse .malformedInput (txt "invalid boolean")) else none)).iso
      (fun b => if b then 1 else 0) (fun raw => decide (raw = 1))

/-- `read_integral` for the unsigned types, with the type's maximum. -/
def unsigned (max : Nat) : Visit Nat :=
  tagged 2 <| Codec.number 8 streamEnded (fun raw => if max < raw then
    some (refuse .valueOutOfRange (txt "unsigned integer field out of range")) else none)

def u64 : Visit UInt64 := (unsigned (2 ^ 64 - 1)).iso UInt64.toNat UInt64.ofNat

def u32 : Visit UInt32 := (unsigned (2 ^ 32 - 1)).iso UInt32.toNat UInt32.ofNat

/-- `primitive(std::int64_t&)`: written as two's complement, but the reader
takes the raw word for out of range as soon as its top bit is set. -/
def i64 : Visit Int64 :=
  (tagged 3 <| Codec.number 8 streamEnded (fun raw => if 2 ^ 63 - 1 < raw then
    some (refuse .valueOutOfRange (txt "signed integer field out of range")) else none)).iso
      (fun v => v.toUInt64.toNat) (fun raw => (UInt64.ofNat raw).toInt64)

/-! ## §2. Text, digests, names. -/

/-- `put_u32`/`get_u32`. -/
def count : Visit Nat := Codec.number 4 streamEnded (fun _ => none)

/-- `primitive(std::string&)`. -/
def text : Visit Text :=
  tagged 4 <| Codec.dependent count (fun t : Text => t.length % 2 ^ 32)
    (fun _ len => if maxDecodedBlob < len then
      some (refuse .oversizedInput (txt "declared string exceeds bound")) else none)
    (fun len => Codec.raw len blobTruncated) (fun _ _ => rfl)

@[simp] theorem text_norm (t : Text) : text.norm t = t := rfl

theorem text_fits {t : Text} (h : t.length ≤ maxDecodedBlob) (n : Nat) : text.fits n t = true := by
  have hlt : t.length < 4294967296 := Nat.lt_of_le_of_lt h (by decide)
  have hmod : t.length % 4294967296 = t.length := Nat.mod_eq_of_lt hlt
  show (((decide (t.length % 4294967296 < 4294967296) && _) && _) && decide (t.length = _)) = true
  simp [hmod, hlt, Nat.not_lt.mpr h, count, Codec.number]

/-- `primitive_digest`. -/
def digest : Visit Digest :=
  tagged 9 <| (Codec.raw 32 blobTruncated).refined Digest.bytes
    (fun b => if h : b.length = 32 then .ok ⟨b, h⟩ else .error blobTruncated)
    (fun _ _ => true) (fun _ v _ => by simp [Codec.raw, v.size])

/-- `primitive_enum`: the canonical name, never the ordinal. -/
def enum [DecidableEq α] (table : List (α × String)) : Visit α :=
  tagged 8 <| text.refined (enumName table)
    (fun name => match enumFromName table name with
      | some v => .ok v
      | none => .error (refuse .invalidEnumeration name))
    (fun n v => text.fits n (enumName table v)
      && decide (enumFromName table (enumName table v) = some v))
    (fun n v h => by
      simp only [Bool.and_eq_true, decide_eq_true_eq] at h
      exact ⟨h.1, by rw [text_norm, h.2]⟩)

/-- An identity: its text, parsed again unless it is empty. -/
def id {tag : IdTag} : Visit (StrongId tag) :=
  text.refined StrongId.text
    (fun t => if t = [] then .ok default else StrongId.parse t)
    (fun _ _ => true)
    (fun n v _ => by
      obtain ⟨t, rfl | hwf⟩ := v
      · exact ⟨rfl, rfl⟩
      have hlen : t.length ≤ 64 := validateIdentityText_length hwf
      have hne : t ≠ [] := by
        rintro rfl
        simp [validateIdentityText] at hwf
      refine ⟨text_fits (Nat.le_trans hlen (by decide)) n, ?_⟩
      simp only [text_norm, hne, if_false, StrongId.parse, Nat.not_lt.mpr hlen]
      exact dif_pos hwf)

def counter {tag : CounterTag} : Visit (Counter tag) := u64.iso Counter.value Counter.mk

/-! ## §3. Optionals, sequences, objects. -/

/-- `std::optional`: a flag byte, then the value. -/
def opt (c : Visit α) : Visit (Option α) where
  write
    | none => (byte (fun _ => none)).write 0
    | some v => (byte (fun _ => none)).write 1 ++ c.write v
  read n bytes := do
    let (flag, bytes) ← (byte (fun raw => if 1 < raw then
      some (refuse .malformedInput (txt "invalid optional flag")) else none)).read n bytes
    if flag = 1 then
      let (v, bytes) ← c.read n bytes
      return (some v, bytes)
    else return (none, bytes)
  fits n
    | none => true
    | some v => c.fits n v
  norm := Option.map c.norm
  law n v rest h := by
    cases v with
    | none => rfl
    | some v =>
      have hc := c.law n v rest h
      have hflag : ∀ bytes : List UInt8, (byte (fun raw => if 1 < raw then
          some (refuse .malformedInput (txt "invalid optional flag")) else none)).read n
            ((byte (fun _ => none)).write 1 ++ bytes) = .ok (1, bytes) := fun _ => rfl
      simp only [List.append_assoc, hflag, bind, Except.bind, if_true, hc, pure,
        Except.pure, Option.map_some]

/-- `std::vector`: the count, checked against the limit before anything else
is read, then the elements. -/
def vec (c : Visit α) : Visit (List α) :=
  tagged 6 <| Codec.dependent count (fun vs : List α => min vs.length (2 ^ 32 - 1))
    (fun limit declared => if limit < declared then
      some (refuse .oversizedInput (txt "declared sequence exceeds bound")) else none)
    (fun declared => Codec.repeated c declared) (fun _ _ => rfl)

/-- The fields of an object, in order. -/
structure Fields (α : Type) where
  codec : Visit α

/-- `field(ar, name, value)` followed by the other fields. -/
def Fields.field (_name : String) (c : Visit α) (rest : Fields β) : Fields (α × β) :=
  ⟨c.pair rest.codec⟩

/-- The last field of an object. -/
def Fields.last (_name : String) (c : Visit α) : Fields α := ⟨c⟩

/-- The type name that opens an object. -/
def typeName (name : String) (h : (txt name).length ≤ maxDecodedBlob) (c : Visit α) : Visit α :=
  tagged 7 <| Codec.guarded text (txt name)
    (fun found => if found = txt name then none else
      some (refuse .invalidTag
        (txt "type mismatch: expected " ++ txt name ++ txt ", found " ++ found))) c
    (text_fits h) (by simp)

/-- `begin_object(name); …; end_object()`. -/
def object (name : String) (h : (txt name).length ≤ maxDecodedBlob) (fields : Fields β)
    (unpack : α → β) (pack : β → α) : Visit α :=
  (typeName name h fields.codec).iso unpack pack

end Visit

/-! ## §4. Whole values. -/

/-- `encode_binary`. -/
def encodeBinary {α : Type} (c : Visit α) (v : α) : List UInt8 := c.write v

/-- `decode_binary`. -/
def decodeBinary {α : Type} (c : Visit α) (limit : Nat) (data : List UInt8) : Result α := do
  let (v, rest) ← c.read limit data
  if rest = [] then return v
  else .error (refuse .malformedInput (txt "trailing bytes after decoded value"))

/-- `canonical_digest`. -/
def canonicalDigest {α : Type} (c : Visit α) (v : α) : Digest := sha256 (encodeBinary c v)

/-- **Decoding an encoding gives the written part of the value back.** -/
theorem decodeBinary_encodeBinary {α : Type} (c : Visit α) {limit : Nat} {v : α}
    (h : c.fits limit v = true) : decodeBinary c limit (encodeBinary c v) = .ok (c.norm v) := by
  have hl := c.law limit v [] h
  rw [List.append_nil] at hl
  simp only [decodeBinary, encodeBinary, hl, bind, Except.bind, if_true, pure, Except.pure]

/-! ## §5. The descriptions of the core types. -/

def LogicalInstant.visit : Visit LogicalInstant :=
  .object "LogicalInstant" (by decide)
    (.last "ticks" .u64)
    (fun v => v.ticks) (fun ticks => { ticks })

def WallClockMs.visit : Visit WallClockMs :=
  .object "WallClockMs" (by decide)
    (.last "ms" .i64)
    (fun v => v.ms) (fun ms => { ms })

def ServiceVersion.visit : Visit ServiceVersion :=
  .object "ServiceVersion" (by decide)
    (.field "major" .u32 <| .field "minor" .u32 <| .field "patch" .u32 <|
     .last "prerelease" .text)
    (fun v => (v.major, v.minor, v.patch, v.prerelease))
    (fun (major, minor, patch, prerelease) =>
      { major, minor, patch, prerelease })

def FirmwareApiLevel.visit : Visit FirmwareApiLevel :=
  .object "FirmwareApiLevel" (by decide)
    (.field "major" .u32 <| .last "minor" .u32)
    (fun v => (v.major, v.minor))
    (fun (major, minor) =>
      { major, minor })

def ResourceVector.visit : Visit ResourceVector :=
  .object "ResourceVector" (by decide)
    (.field "cpu_millicores" .u64 <| .field "memory_bytes" .u64 <| .field "network_bps" .u64 <|
     .field "crypto_ops_per_sec" .u64 <| .last "storage_bytes" .u64)
    (fun v => (v.cpuMillicores, v.memoryBytes, v.networkBps, v.cryptoOpsPerSec, v.storageBytes))
    (fun (cpuMillicores, memoryBytes, networkBps, cryptoOpsPerSec, storageBytes) =>
      { cpuMillicores, memoryBytes, networkBps, cryptoOpsPerSec, storageBytes })

def TruncationRecord.visit : Visit TruncationRecord :=
  .object "TruncationRecord" (by decide)
    (.field "container" .text <| .field "requested" .u64 <| .field "accepted" .u64 <|
     .field "dropped" .u64 <| .last "reason" (.enum ReasonCode.names))
    (fun v => (v.container, v.requested, v.accepted, v.dropped, v.reason))
    (fun (container, requested, accepted, dropped, reason) =>
      { container, requested, accepted, dropped, reason })

def TruncationLedger.visit : Visit TruncationLedger :=
  .object "TruncationLedger" (by decide)
    (.field "records" (.vec TruncationRecord.visit) <| .last "ledger_overflow" .u64)
    (fun v => (v.records, v.ledgerOverflow))
    (fun (records, ledgerOverflow) =>
      { records, ledgerOverflow })

end DpuFabric
