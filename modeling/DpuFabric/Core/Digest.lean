/-
  Core.Digest — DIGESTS AND THE STREAMING SHA-256 (`core/digest.hpp`, `core/digest.cpp`).

  A `Digest` is thirty-two bytes, by construction.  The hash is the source's:
  a 64-byte buffer that is compressed whenever it fills up, the padding byte,
  zeros up to offset 56 and the bit length, big endian.
-/
import DpuFabric.Core.Bounded

namespace DpuFabric

/-! ## §1. Digests. -/

/-- `Digest`: exactly 32 bytes. -/
structure Digest where
  bytes : List UInt8
  size : bytes.length = 32
  deriving DecidableEq, Repr

namespace Digest

theorem bytes_injective : Function.Injective Digest.bytes := by
  rintro ⟨a, _⟩ ⟨b, _⟩ rfl
  rfl

/-- `Digest{}`: all zero. -/
def zero : Digest := ⟨List.replicate 32 0, by simp⟩

instance : Inhabited Digest := ⟨zero⟩

/-- `Digest::is_zero`. -/
def isZero (d : Digest) : Bool := d.bytes.all (fun b => decide (b = 0))

/-- `kHexDigits`. -/
def hexDigit (n : UInt8) : UInt8 := if n.toNat < 10 then 48 + n else 87 + n

/-- `Digest::hex`. -/
def hex (d : Digest) : Text :=
  d.bytes.flatMap (fun b : UInt8 => [hexDigit (b >>> 4), hexDigit (b &&& 15)])

theorem hex_length (d : Digest) : d.hex.length = 64 := by
  have h : ∀ l : List UInt8,
      (l.flatMap (fun b : UInt8 => [hexDigit (b >>> 4), hexDigit (b &&& 15)])).length = 2 * l.length := by
    intro l
    induction l with
    | nil => rfl
    | cons b l ih => simp only [List.flatMap_cons, List.length_append, List.length_cons,
        List.length_nil, ih]; omega
  rw [hex, h, d.size]

theorem isIdentityByte_hexDigit (n : UInt8) (h : n.toNat < 16) :
    (isAlpha (hexDigit n) || isDigit (hexDigit n)) = true := by
  have : ∀ k : Fin 16, (isAlpha (hexDigit (UInt8.ofNat k)) || isDigit (hexDigit (UInt8.ofNat k)))
      = true := by decide
  have hk := this ⟨n.toNat, h⟩
  simpa using hk

end Digest

/-! ## §2. SHA-256. -/

namespace Sha256

/-- `kRoundConstants`. -/
def roundConstants : List UInt32 := [
  0x428a2f98, 0x71374491, 0xb5c0fbcf, 0xe9b5dba5, 0x3956c25b, 0x59f111f1, 0x923f82a4,
  0xab1c5ed5, 0xd807aa98, 0x12835b01, 0x243185be, 0x550c7dc3, 0x72be5d74, 0x80deb1fe,
  0x9bdc06a7, 0xc19bf174, 0xe49b69c1, 0xefbe4786, 0x0fc19dc6, 0x240ca1cc, 0x2de92c6f,
  0x4a7484aa, 0x5cb0a9dc, 0x76f988da, 0x983e5152, 0xa831c66d, 0xb00327c8, 0xbf597fc7,
  0xc6e00bf3, 0xd5a79147, 0x06ca6351, 0x14292967, 0x27b70a85, 0x2e1b2138, 0x4d2c6dfc,
  0x53380d13, 0x650a7354, 0x766a0abb, 0x81c2c92e, 0x92722c85, 0xa2bfe8a1, 0xa81a664b,
  0xc24b8b70, 0xc76c51a3, 0xd192e819, 0xd6990624, 0xf40e3585, 0x106aa070, 0x19a4c116,
  0x1e376c08, 0x2748774c, 0x34b0bcb5, 0x391c0cb3, 0x4ed8aa4a, 0x5b9cca4f, 0x682e6ff3,
  0x748f82ee, 0x78a5636f, 0x84c87814, 0x8cc70208, 0x90befffa, 0xa4506ceb, 0xbef9a3f7,
  0xc67178f2]

/-- `rotr`. -/
def rotr (value bits : UInt32) : UInt32 := (value >>> bits) ||| (value <<< (32 - bits))

/-- The eight working words. -/
structure Words where
  (a b c d e f g h : UInt32)
  deriving DecidableEq, Repr

/-- Big-endian words of a block. -/
def blockWords : List UInt8 → List UInt32
  | b0 :: b1 :: b2 :: b3 :: rest =>
    ((b0.toUInt32 <<< 24) ||| (b1.toUInt32 <<< 16) ||| (b2.toUInt32 <<< 8) ||| b3.toUInt32)
      :: blockWords rest
  | _ => []

/-- One extension step of the message schedule: `w[i]` from the words before. -/
def extend (w : List UInt32) : List UInt32 :=
  let at' := fun back => w.getD (w.length - back) 0
  let s0 := rotr (at' 15) 7 ^^^ rotr (at' 15) 18 ^^^ (at' 15 >>> 3)
  let s1 := rotr (at' 2) 17 ^^^ rotr (at' 2) 19 ^^^ (at' 2 >>> 10)
  w ++ [at' 16 + s0 + at' 7 + s1]

/-- The 64-word message schedule. -/
def schedule (block : List UInt8) : List UInt32 := extend^[48] (blockWords block)

/-- One round, with its constant and its schedule word. -/
def round (s : Words) (kw : UInt32 × UInt32) : Words :=
  let s1 := rotr s.e 6 ^^^ rotr s.e 11 ^^^ rotr s.e 25
  let ch := (s.e &&& s.f) ^^^ (~~~s.e &&& s.g)
  let temp1 := s.h + s1 + ch + kw.1 + kw.2
  let s0 := rotr s.a 2 ^^^ rotr s.a 13 ^^^ rotr s.a 22
  let maj := (s.a &&& s.b) ^^^ (s.a &&& s.c) ^^^ (s.b &&& s.c)
  let temp2 := s0 + maj
  { a := temp1 + temp2, b := s.a, c := s.b, d := s.c, e := s.d + temp1, f := s.e, g := s.f,
    h := s.g }

/-- `Sha256::compress`. -/
def compress (s : Words) (block : List UInt8) : Words :=
  let r := (roundConstants.zip (schedule block)).foldl round s
  { a := s.a + r.a, b := s.b + r.b, c := s.c + r.c, d := s.d + r.d, e := s.e + r.e,
    f := s.f + r.f, g := s.g + r.g, h := s.h + r.h }

/-- The hasher: `buffer` holds the `buffered_` bytes that wait for a full
block. -/
structure Hasher where
  words : Words := ⟨0x6a09e667, 0xbb67ae85, 0x3c6ef372, 0xa54ff53a, 0x510e527f, 0x9b05688c,
    0x1f83d9ab, 0x5be0cd19⟩
  buffer : List UInt8 := []
  total : UInt64 := 0
  deriving DecidableEq, Repr

/-- The copy loop of `Sha256::update`.  Every turn copies at least one byte,
so the number of bytes is enough fuel. -/
def absorb : Nat → Hasher → List UInt8 → Hasher
  | 0, h, _ => h
  | _ + 1, h, [] => h
  | fuel + 1, h, data =>
    let take := min data.length (64 - h.buffer.length)
    let buffer := h.buffer ++ data.take take
    let h' := if buffer.length = 64 then { h with words := compress h.words buffer, buffer := [] }
      else { h with buffer }
    absorb fuel h' (data.drop take)

/-- `Sha256::update`. -/
def update (h : Hasher) (data : List UInt8) : Hasher :=
  absorb data.length { h with total := h.total + UInt64.ofNat data.length } data

/-- The zero-padding loop of `finish`; 64 turns always reach offset 56. -/
def padZeros : Nat → Hasher → Hasher
  | 0, h => h
  | fuel + 1, h => if h.buffer.length = 56 then h else padZeros fuel (update h [0])

/-- Big-endian bytes of a 64-bit length. -/
def lengthBytes (n : UInt64) : List UInt8 :=
  (List.range 8).map (fun i => ((n >>> UInt64.ofNat (56 - 8 * i)) &&& 0xFF).toUInt8)

/-- Big-endian bytes of a word. -/
def wordBytes (w : UInt32) : List UInt8 :=
  [(w >>> 24).toUInt8, (w >>> 16).toUInt8, (w >>> 8).toUInt8, w.toUInt8]

/-- The digest that the final words spell, big endian. -/
def Words.toDigest (s : Words) : Digest :=
  ⟨wordBytes s.a ++ wordBytes s.b ++ wordBytes s.c ++ wordBytes s.d
    ++ wordBytes s.e ++ wordBytes s.f ++ wordBytes s.g ++ wordBytes s.h, by simp [wordBytes]⟩

/-- `Sha256::finish`: the length is taken before the padding is fed in. -/
def finish (h : Hasher) : Digest :=
  (update (padZeros 64 (update h [0x80])) (lengthBytes (h.total * 8))).words.toDigest

end Sha256

/-- `sha256` of a byte string. -/
@[irreducible] def sha256 (data : List UInt8) : Digest := Sha256.finish (Sha256.update {} data)

end DpuFabric
