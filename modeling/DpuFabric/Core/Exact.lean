/-
  Core.Exact — EXACTLY WHAT THE BINARY READER TAKES BACK.

  The reader checks three things about a value that the writer does not: the
  length of every string, the count of every sequence and the sign of every
  signed number.  `Described c` lists these parts of a value of the archived
  type and says that nothing else decides:

      fits_iff   — the description fits iff every part is readable
      exact      — an encoding below 4 GiB is read back only if it fits
      faithful   — an encoding gives the value back only if it fits

  `Lossless c` says that what comes back is the whole value.  The instances
  of both follow the pieces a `visit` is built from, so those of an archived
  type are found by looking at its `visit`.
-/
import DpuFabric.Core.Archive
import Mathlib.Data.List.Nodup

namespace DpuFabric

open Lib

/-! ## §1. The parts that are checked. -/

/-- A part of a value that the reader checks. -/
inductive Part where
  | text (t : Text)
  | count (n : Nat)
  | signed (z : Int64)
  deriving DecidableEq, Repr

/-- Strings within `kMaxDecodedBlob`, sequences within the reader's limit. -/
def Part.Within (limit : Nat) : Part → Prop
  | .text t => t.length ≤ Visit.maxDecodedBlob
  | .count n => n ≤ limit
  | .signed _ => True

/-- The count has the 32 bits of its word, and the sign bit is clear. -/
def Part.Plain : Part → Prop
  | .text _ => True
  | .count n => n < 2 ^ 32
  | .signed z => 0 ≤ z

/-- The reader takes the part. -/
def Part.Readable (limit : Nat) (p : Part) : Prop := p.Within limit ∧ p.Plain

instance (limit : Nat) : ∀ p, Decidable (Part.Within limit p)
  | .text _ => inferInstanceAs (Decidable (_ ≤ _))
  | .count _ => inferInstanceAs (Decidable (_ ≤ _))
  | .signed _ => inferInstanceAs (Decidable True)

instance : ∀ p, Decidable (Part.Plain p)
  | .text _ => inferInstanceAs (Decidable True)
  | .count _ => inferInstanceAs (Decidable (_ < _))
  | .signed z => inferInstanceAs (Decidable (0 ≤ z))

/-- The parts of the values of an archived type, and that they decide. -/
class Described {α : Type} (c : Visit α) where
  parts : α → List Part
  fits_iff : ∀ n v, c.fits n v = true ↔ ∀ p ∈ parts v, p.Readable n
  exact : ∀ v, (c.write v).length < 2 ^ 32 → c.ExactAt v
  faithful : ∀ v, c.FaithfulAt v
  nonempty : ∀ v, 0 < (c.write v).length

/-- The checked parts of a value. -/
abbrev partsOf {α : Type} (c : Visit α) [Described c] (v : α) : List Part := Described.parts c v

/-- Every field of the value is written. -/
class Lossless {α : Type} (c : Visit α) : Prop where
  norm : ∀ v, c.norm v = v

namespace Visit

variable {α β : Type}

/-! ## §2. Tags and numbers. -/

theorem tagged_length (tag : Fin 256) (c : Visit α) (v : α) :
    ((tagged tag c).write v).length = 1 + (c.write v).length := by
  simp [tagged, Codec.guarded, byte, Codec.number]

theorem tagged_nonempty (tag : Fin 256) (c : Visit α) (v : α) :
    0 < ((tagged tag c).write v).length := by
  rw [tagged_length]
  omega

theorem tagged_fits (tag : Fin 256) (c : Visit α) (n : Nat) (v : α) :
    (tagged tag c).fits n v = c.fits n v := rfl

variable {c : Visit α} {v : α} {name : String}

theorem tagged_exactAt {tag : Fin 256} (h : c.ExactAt v) :
    (tagged tag c).ExactAt v := Codec.guarded_exactAt h

theorem tagged_faithfulAt {tag : Fin 256} (h : c.FaithfulAt v) :
    (tagged tag c).FaithfulAt v := Codec.guarded_faithfulAt h

theorem bool_exactAt (v : Bool) : bool.ExactAt v := by
  refine tagged_exactAt (Codec.iso_exactAt (Codec.number_exactAt ?_))
  cases v <;> decide

instance : Described bool where
  parts _ := []
  fits_iff n v := by cases v <;> simp [bool, tagged, Codec.guarded, byte, Codec.number, Codec.iso]
  exact v _ := bool_exactAt v
  faithful v := (bool_exactAt v).faithfulAt
  nonempty v := tagged_nonempty ..

theorem unsigned_exactAt {max v : Nat} (hv : v < 2 ^ 64) : (unsigned max).ExactAt v :=
  tagged_exactAt (Codec.number_exactAt hv)

theorem unsigned_fits {max n v : Nat} (hmax : max < 2 ^ 64) :
    (unsigned max).fits n v = true ↔ v ≤ max := by
  have hw : v ≤ max → v < 256 ^ 8 := fun h => lt_of_le_of_lt h hmax
  simp only [unsigned, tagged, Codec.guarded, Codec.number, Bool.and_eq_true, decide_eq_true_eq,
    Option.isNone_iff_eq_none, ite_eq_right_iff, reduceCtorEq, imp_false, not_lt]
  exact ⟨fun h => h.2, fun h => ⟨hw h, h⟩⟩

theorem u64_exactAt (v : UInt64) : u64.ExactAt v :=
  Codec.iso_exactAt (unsigned_exactAt v.toNat_lt)

theorem u32_exactAt (v : UInt32) : u32.ExactAt v :=
  Codec.iso_exactAt (unsigned_exactAt (lt_of_lt_of_le v.toNat_lt (by decide)))

instance : Described u64 where
  parts _ := []
  fits_iff n v := by
    have h : (unsigned (2 ^ 64 - 1)).fits n v.toNat = true ↔ v.toNat ≤ 2 ^ 64 - 1 :=
      unsigned_fits (by decide)
    have hv : v.toNat < 2 ^ 64 := v.toNat_lt
    simp only [u64, Codec.iso, h, List.not_mem_nil, false_implies, implies_true, iff_true]
    omega
  exact v _ := u64_exactAt v
  faithful v := (u64_exactAt v).faithfulAt
  nonempty v := by
    show 0 < ((unsigned (2 ^ 64 - 1)).write v.toNat).length
    rw [unsigned, tagged_length]
    omega

instance : Described u32 where
  parts _ := []
  fits_iff n v := by
    have h : (unsigned (2 ^ 32 - 1)).fits n v.toNat = true ↔ v.toNat ≤ 2 ^ 32 - 1 :=
      unsigned_fits (by decide)
    have hv : v.toNat < 2 ^ 32 := v.toNat_lt
    simp only [u32, Codec.iso, h, List.not_mem_nil, false_implies, implies_true, iff_true]
    omega
  exact v _ := u32_exactAt v
  faithful v := (u32_exactAt v).faithfulAt
  nonempty v := by
    show 0 < ((unsigned (2 ^ 32 - 1)).write v.toNat).length
    rw [unsigned, tagged_length]
    omega

theorem toUInt64_toNat_le_iff (z : Int64) : z.toUInt64.toNat ≤ 2 ^ 63 - 1 ↔ 0 ≤ z := by
  have hint : z.toInt = z.toBitVec.toInt := rfl
  have hnat : z.toUInt64.toNat = z.toBitVec.toNat := rfl
  have hlt : z.toBitVec.toNat < 2 ^ 64 := z.toBitVec.isLt
  rw [Int64.le_iff_toInt_le, hint, hnat, BitVec.toInt_eq_toNat_cond]
  simp only [Int64.toInt_zero]
  split <;> omega

theorem i64_exactAt (z : Int64) : i64.ExactAt z :=
  Codec.iso_exactAt (tagged_exactAt (Codec.number_exactAt z.toUInt64.toNat_lt))

instance : Described i64 where
  parts z := [.signed z]
  fits_iff n z := by
    have hz : z.toUInt64.toNat < 256 ^ 8 := z.toUInt64.toNat_lt
    have h := toUInt64_toNat_le_iff z
    simp only [i64, Codec.iso, tagged, Codec.guarded, Codec.number, Bool.and_eq_true,
      decide_eq_true_eq, Option.isNone_iff_eq_none, ite_eq_right_iff, reduceCtorEq, imp_false,
      not_lt, List.mem_singleton, forall_eq, Part.Readable, Part.Within, Part.Plain,
      true_and, h, hz]
  exact z _ := i64_exactAt z
  faithful z := (i64_exactAt z).faithfulAt
  nonempty z := by
    show 0 < ((tagged 3 _).write z.toUInt64.toNat).length
    rw [tagged_length]
    omega

/-! ## §3. Text, digests, names. -/

theorem text_length (t : Text) : (text.write t).length = 5 + t.length := by
  rw [text, tagged_length]
  simp [Codec.dependent, count, Codec.number, Codec.raw]
  omega

theorem text_fits_iff (n : Nat) (t : Text) : text.fits n t = true ↔ t.length ≤ maxDecodedBlob := by
  refine ⟨fun h => ?_, fun h => text_fits h n⟩
  rw [text, tagged_fits] at h
  obtain ⟨-, hcheck, hraw⟩ := Codec.dependent_fits_iff.mp h
  have hlength : t.length = t.length % 2 ^ 32 := Codec.raw_fits_iff.mp hraw
  simp only [ite_eq_right_iff, reduceCtorEq, imp_false, not_lt] at hcheck
  rw [hlength]
  exact hcheck

/-- The length is cut to its 32 bits on the way out, so only a shorter text is
read back exactly. -/
theorem text_exactAt {t : Text} (ht : t.length < 2 ^ 32) : text.ExactAt t := by
  have hmod : t.length % 2 ^ 32 = t.length := Nat.mod_eq_of_lt ht
  exact tagged_exactAt (Codec.dependent_exactAt (Codec.number_exactAt (Nat.mod_lt _ (by decide)))
    (Codec.raw_exactAt hmod.symm))

theorem text_faithfulAt (t : Text) : text.FaithfulAt t :=
  tagged_faithfulAt (Codec.dependent_faithfulAt
    (Codec.number_exactAt (Nat.mod_lt _ (by decide))) Codec.raw_faithfulAt)

instance : Described text where
  parts t := [.text t]
  fits_iff n t := by
    simp only [text_fits_iff, List.mem_singleton, forall_eq, Part.Readable, Part.Within,
      Part.Plain, and_true]
  exact t ht := text_exactAt (by rw [text_length] at ht; omega)
  faithful := text_faithfulAt
  nonempty t := by rw [text_length]; omega

theorem digest_exactAt (v : Digest) : digest.ExactAt v :=
  tagged_exactAt (Codec.refined_exactAt (fun _ _ => rfl) (Codec.raw_exactAt v.size))

instance : Described digest where
  parts _ := []
  fits_iff n v := by simp [digest, tagged, Codec.guarded, Codec.refined]
  exact v _ := digest_exactAt v
  faithful v := (digest_exactAt v).faithfulAt
  nonempty v := tagged_nonempty ..

/-- Every enumerator has a name of its own. -/
class Named [DecidableEq α] (table : List (α × String)) : Prop where
  name : ∀ v, enumFromName table (enumName table v) = some v
  short : ∀ v, (enumName table v).length ≤ maxDecodedBlob
  once : (table.map Prod.fst).Nodup

/-- A name as one number, which is cheaper to compare than its bytes. -/
def nameKey (name : String) : Nat := (txt name).foldl (fun n b => n * 256 + b.toNat) 0

/-- A table that lists every enumerator under a name of its own. -/
theorem Named.of_rows [DecidableEq α] {table : List (α × String)}
    (listed : ∀ v, v ∈ table.map Prod.fst := by intro v; cases v <;> decide +kernel)
    (rows : (table.map fun row => nameKey row.2).Nodup
      ∧ ∀ row ∈ table, (txt row.2).length ≤ maxDecodedBlob := by decide +kernel)
    (once : (table.map Prod.fst).Nodup := by decide +kernel) : Named table := by
  have hrow : ∀ v, ∃ row ∈ table, row.1 = v ∧ enumName table v = txt row.2 := by
    intro v
    obtain ⟨row, hrow, rfl⟩ := List.mem_map.mp (listed v)
    cases hfind : table.find? (fun r => decide (r.1 = row.1)) with
    | none => exact absurd (decide_eq_true rfl) (List.find?_eq_none.mp hfind row hrow)
    | some r =>
      exact ⟨r, List.mem_of_find?_eq_some hfind, by simpa using List.find?_some hfind,
        by rw [enumName, hfind]⟩
  refine ⟨fun v => ?_, fun v => ?_, once⟩
  · obtain ⟨row, hmem, rfl, hname⟩ := hrow v
    rw [hname, enumFromName]
    cases hfind : table.find? (fun r => decide (txt r.2 = txt row.2)) with
    | none => exact absurd (decide_eq_true rfl) (List.find?_eq_none.mp hfind row hmem)
    | some r =>
      have hkey : nameKey r.2 = nameKey row.2 :=
        congrArg (List.foldl _ 0) (by simpa using List.find?_some hfind)
      rw [List.inj_on_of_nodup_map rows.1 (List.mem_of_find?_eq_some hfind) hmem hkey]
      rfl
  · obtain ⟨row, hmem, -, hname⟩ := hrow v
    rw [hname]
    exact rows.2 row hmem

theorem enum_exactAt [DecidableEq α] (table : List (α × String)) [h : Named table] (v : α) :
    (enum table).ExactAt v := by
  refine tagged_exactAt (Codec.refined_exactAt (fun n hn => ?_)
    (text_exactAt (lt_of_le_of_lt (h.short v) (by decide))))
  simp only [hn, h.name v, decide_true, Bool.and_self]

instance [DecidableEq α] (table : List (α × String)) [h : Named table] :
    Described (enum table) where
  parts _ := []
  fits_iff n v := by
    simp [enum, tagged, Codec.guarded, Codec.refined, text_fits (h.short v) n, h.name v]
  exact v _ := enum_exactAt table v
  faithful v := (enum_exactAt table v).faithfulAt
  nonempty _ := tagged_nonempty ..

theorem id_exactAt {tag : IdTag} (v : StrongId tag) : (id : Visit (StrongId tag)).ExactAt v := by
  refine Codec.refined_exactAt (fun _ _ => rfl) (text_exactAt ?_)
  obtain ⟨t, rfl | hwf⟩ := v
  · exact Nat.two_pow_pos 32
  · exact lt_of_le_of_lt (validateIdentityText_length hwf) (by decide)

instance {tag : IdTag} : Described (id : Visit (StrongId tag)) where
  parts _ := []
  fits_iff _ _ := by simp [id, Codec.refined]
  exact v _ := id_exactAt v
  faithful v := (id_exactAt v).faithfulAt
  nonempty v := Described.nonempty (c := text) v.text

instance {tag : CounterTag} : Described (counter : Visit (Counter tag)) where
  parts _ := []
  fits_iff n v := Described.fits_iff (c := u64) n v.value
  exact v _ := Codec.iso_exactAt (u64_exactAt v.value)
  faithful v := (Codec.iso_exactAt (u64_exactAt v.value)).faithfulAt
  nonempty v := Described.nonempty (c := u64) v.value

/-! ## §4. Optionals, sequences, objects. -/

theorem opt_read {n : Nat} {rest : List UInt8} {r : Option α × List UInt8}
    (h : (opt c).read n ((opt c).write (some v) ++ rest) = .ok r) :
    ∃ w, c.read n (c.write v ++ rest) = .ok (w, r.2) ∧ r.1 = some w := by
  have hflag : ∀ bytes : List UInt8, (byte (fun raw => if 1 < raw then
      some (refuse .malformedInput (txt "invalid optional flag")) else none)).read n
        ((byte (fun _ => none)).write 1 ++ bytes) = .ok (1, bytes) := fun _ => rfl
  simp only [opt, List.append_assoc, hflag, bind_eq_ok, Prod.exists, Except.ok.injEq,
    Prod.mk.injEq] at h
  obtain ⟨flag, bytes, ⟨rfl, rfl⟩, h⟩ := h
  simp only [if_true, bind_eq_ok, Prod.exists] at h
  obtain ⟨w, bytes, hread, h⟩ := h
  cases h
  exact ⟨w, hread, rfl⟩

theorem opt_exactAt (hc : c.ExactAt v) : (opt c).ExactAt (some v) := by
  intro n rest r h
  obtain ⟨w, hread, -⟩ := opt_read h
  exact hc n _ _ hread

theorem opt_faithfulAt (hc : c.FaithfulAt v) :
    (opt c).FaithfulAt (some v) := by
  intro n rest r h
  obtain ⟨w, hread, hw⟩ := opt_read h
  obtain rfl : c.norm v = w := Option.some.inj hw
  exact hc n _ _ hread

instance (c : Visit α) [Described c] : Described (opt c) where
  parts v := (v.map (partsOf c)).getD []
  fits_iff n v := by
    cases v with
    | none => simp [opt]
    | some v => exact Described.fits_iff n v
  exact v hv := by
    cases v with
    | none => exact fun _ _ _ _ => rfl
    | some v =>
      refine opt_exactAt (Described.exact v (lt_of_le_of_lt ?_ hv))
      simp [opt]
  faithful v := by
    cases v with
    | none => exact fun _ _ _ _ => rfl
    | some v => exact opt_faithfulAt (Described.faithful v)
  nonempty v := by
    cases v with
    | none => exact Nat.one_pos
    | some v =>
      simp only [opt, List.length_append]
      exact Nat.add_pos_left Nat.one_pos _

theorem vec_length (c : Visit α) (vs : List α) :
    ((vec c).write vs).length = 5 + (vs.flatMap c.write).length := by
  rw [vec, tagged_length]
  simp [Codec.dependent, count, Codec.number, Codec.repeated]
  omega

theorem length_le_flatMap (c : Visit α) [Described c] (vs : List α) :
    vs.length ≤ (vs.flatMap c.write).length := by
  induction vs with
  | nil => simp
  | cons v vs ih =>
    have hv := Described.nonempty (c := c) v
    simp only [List.length_cons, List.flatMap_cons, List.length_append]
    omega

theorem length_write_le_flatMap (c : Visit α) {vs : List α} (hv : v ∈ vs) :
    (c.write v).length ≤ (vs.flatMap c.write).length := by
  induction vs with
  | nil => simp at hv
  | cons w vs ih =>
    simp only [List.flatMap_cons, List.length_append]
    rcases List.mem_cons.mp hv with rfl | hv
    · omega
    · have := ih hv
      omega

theorem vec_fits_iff (c : Visit α) (n : Nat) (vs : List α) :
    (vec c).fits n vs = true
      ↔ (vs.length ≤ n ∧ vs.length < 2 ^ 32) ∧ ∀ v ∈ vs, c.fits n v = true := by
  have hmin : min vs.length (2 ^ 32 - 1) < 256 ^ 4 := by
    show _ < 4294967296
    omega
  have hfits : (vec c).fits n vs = true ↔ min vs.length (2 ^ 32 - 1) ≤ n
      ∧ vs.length = min vs.length (2 ^ 32 - 1) ∧ ∀ v ∈ vs, c.fits n v = true := by
    rw [vec, tagged_fits]
    refine Codec.dependent_fits_iff.trans ?_
    rw [count, Codec.number_fits_iff, Codec.repeated_fits_iff]
    constructor
    · rintro ⟨-, hcheck, hlength, hall⟩
      refine ⟨not_lt.mp fun hlt => ?_, hlength, hall⟩
      exact absurd ((if_pos hlt).symm.trans hcheck) (by simp)
    · rintro ⟨hlimit, hlength, hall⟩
      exact ⟨⟨hmin, rfl⟩, if_neg (not_lt.mpr hlimit), hlength, hall⟩
  rw [hfits]
  constructor
  · rintro ⟨hlimit, hlength, hall⟩
    exact ⟨⟨by omega, by omega⟩, hall⟩
  · rintro ⟨⟨hlimit, hlength⟩, hall⟩
    exact ⟨by omega, by omega, hall⟩

instance (c : Visit α) [Described c] : Described (vec c) where
  parts vs := .count vs.length :: vs.flatMap (partsOf c)
  fits_iff n vs := by
    rw [vec_fits_iff]
    simp only [Described.fits_iff, List.forall_mem_cons, List.mem_flatMap, forall_exists_index,
      and_imp, Part.Readable, Part.Within, Part.Plain]
    exact ⟨fun h => ⟨h.1, fun p v hv hp => h.2 v hv p hp⟩,
      fun h => ⟨h.1, fun v hv p hp => h.2 p v hv hp⟩⟩
  exact vs hvs := by
    rw [vec_length] at hvs
    have hlen := length_le_flatMap c vs
    have hmin : min vs.length (2 ^ 32 - 1) = vs.length := by omega
    refine tagged_exactAt (Codec.dependent_exactAt (Codec.number_exactAt ?_)
      (Codec.repeated_exactAt hmin.symm fun v hv => Described.exact v ?_))
    · show min vs.length (2 ^ 32 - 1) < 4294967296
      omega
    · have := length_write_le_flatMap c hv
      omega
  faithful vs := by
    have hmin : min vs.length (2 ^ 32 - 1) < 256 ^ 4 := by
      show _ < 4294967296
      omega
    exact tagged_faithfulAt (Codec.dependent_faithfulAt (Codec.number_exactAt hmin)
      (Codec.repeated_faithfulAt fun v _ => Described.faithful v))
  nonempty vs := by rw [vec_length]; omega

instance (name : String) (c : Visit α) (rest : Fields β) [Described c] [Described rest.codec] :
    Described (Fields.field name c rest).codec where
  parts v := partsOf c v.1 ++ partsOf rest.codec v.2
  fits_iff n v := by
    simp only [Fields.field, Codec.pair, Bool.and_eq_true, Described.fits_iff, List.mem_append]
    exact ⟨fun h p hp => hp.elim (h.1 p) (h.2 p),
      fun h => ⟨fun p hp => h p (.inl hp), fun p hp => h p (.inr hp)⟩⟩
  exact v hv := by
    simp only [Fields.field, Codec.pair, List.length_append] at hv
    exact Codec.pair_exactAt (Described.exact v.1 (lt_of_le_of_lt (Nat.le_add_right _ _) hv))
      (Described.exact v.2 (lt_of_le_of_lt (Nat.le_add_left _ _) hv))
  faithful v := Codec.pair_faithfulAt (Described.faithful v.1) (Described.faithful v.2)
  nonempty v := by
    simp only [Fields.field, Codec.pair, List.length_append]
    exact Nat.add_pos_left (Described.nonempty (c := c) v.1) _

instance (name : String) (c : Visit α) [Described c] : Described (Fields.last name c).codec :=
  inferInstanceAs (Described c)

instance (name : String) (h : (txt name).length ≤ maxDecodedBlob) (c : Visit α) [Described c] :
    Described (typeName name h c) where
  parts v := partsOf c v
  fits_iff n v := Described.fits_iff (c := c) n v
  exact v hv := by
    refine tagged_exactAt (Codec.guarded_exactAt (Described.exact v ?_))
    rw [typeName, tagged_length] at hv
    simp only [Codec.guarded, List.length_append] at hv
    omega
  faithful v := tagged_faithfulAt (Codec.guarded_faithfulAt (Described.faithful v))
  nonempty _ := tagged_nonempty ..

/-- The description of a record is that of its fields. -/
@[reducible] def describedObject {name : String} {h : (txt name).length ≤ maxDecodedBlob}
    {fields : Fields β} {unpack : α → β} {pack : β → α} [Described fields.codec]
    (hpack : Function.LeftInverse unpack pack) :
    Described (object name h fields unpack pack) where
  parts v := partsOf fields.codec (unpack v)
  fits_iff n v := Described.fits_iff (c := typeName name h fields.codec) n (unpack v)
  exact _ hv := Codec.iso_exactAt (Described.exact (c := typeName name h fields.codec) _ hv)
  faithful _ := Codec.iso_faithfulAt hpack.injective
    (Described.faithful (c := typeName name h fields.codec) _)
  nonempty v := Described.nonempty (c := typeName name h fields.codec) (unpack v)

/-! ## §5. Nothing is lost. -/

instance : Lossless bool := ⟨fun v => by cases v <;> rfl⟩

instance : Lossless u64 := ⟨fun v => by simp [u64, unsigned, tagged, Codec.guarded, Codec.number, Codec.iso]⟩

instance : Lossless u32 := ⟨fun v => by simp [u32, unsigned, tagged, Codec.guarded, Codec.number, Codec.iso]⟩

instance : Lossless i64 :=
  ⟨fun v => by simp [i64, tagged, Codec.guarded, Codec.number, Codec.iso]⟩

instance : Lossless text := ⟨fun _ => rfl⟩

instance : Lossless digest := ⟨fun _ => rfl⟩

instance [DecidableEq α] (table : List (α × String)) : Lossless (enum table) := ⟨fun _ => rfl⟩

instance {tag : IdTag} : Lossless (id : Visit (StrongId tag)) := ⟨fun _ => rfl⟩

instance {tag : CounterTag} : Lossless (counter : Visit (Counter tag)) :=
  ⟨fun v => congrArg Counter.mk (Lossless.norm (c := u64) v.value)⟩

instance (c : Visit α) [h : Lossless c] : Lossless (opt c) := by
  refine ⟨fun v => ?_⟩
  cases v with
  | none => rfl
  | some v => exact congrArg some (h.norm v)

instance (c : Visit α) [h : Lossless c] : Lossless (vec c) := by
  refine ⟨fun vs => ?_⟩
  show vs.map c.norm = vs
  rw [List.map_congr_left (fun v _ => h.norm v), List.map_id']

instance (name : String) (c : Visit α) (rest : Fields β) [h : Lossless c] [h' : Lossless rest.codec] :
    Lossless (Fields.field name c rest).codec :=
  ⟨fun v => Prod.ext (h.norm v.1) (h'.norm v.2)⟩

instance (name : String) (c : Visit α) [h : Lossless c] : Lossless (Fields.last name c).codec := h

theorem lossless_object {hname : (txt name).length ≤ maxDecodedBlob} {fields : Fields β}
    {unpack : α → β} {pack : β → α} [h : Lossless fields.codec] (hpack : ∀ v, pack (unpack v) = v) :
    Lossless (object name hname fields unpack pack) :=
  ⟨fun v => (congrArg pack (h.norm (unpack v))).trans (hpack v)⟩

theorem object_norm {h : (txt name).length ≤ maxDecodedBlob} {fields : Fields β} {unpack : α → β}
    {pack : β → α} (v : α) :
    (object name h fields unpack pack).norm v = pack (fields.codec.norm (unpack v)) := rfl

theorem field_norm {rest : Fields β} (v : α × β) :
    (Fields.field name c rest).codec.norm v = (c.norm v.1, rest.codec.norm v.2) := rfl

end Visit

/-! ## §6. Whole values. -/

section Values

variable {α : Type} (c : Visit α) [Described c] {limit : Nat} {v : α}

/-- **A value comes back exactly if all of its parts are readable.** -/
theorem decodeBinary_iff :
    decodeBinary c limit (encodeBinary c v) = .ok (c.norm v)
      ↔ ∀ p ∈ partsOf c v, p.Readable limit := by
  rw [← Described.fits_iff]
  refine ⟨fun h => ?_, decodeBinary_encodeBinary c⟩
  simp only [decodeBinary, encodeBinary, bind_eq_ok, Prod.exists] at h
  obtain ⟨w, rest, hread, h⟩ := h
  obtain rfl : w = c.norm v := by
    split at h
    · exact Except.ok.inj h
    · simp at h
  rw [← List.append_nil (c.write v)] at hread
  exact Described.faithful v limit _ _ hread

/-- Whatever comes back of a written value is the written part of it. -/
theorem decodeBinary_eq (hsize : (encodeBinary c v).length < 2 ^ 32) {w : α}
    (h : decodeBinary c limit (encodeBinary c v) = .ok w) : w = c.norm v := by
  have hfits : c.fits limit v = true := by
    simp only [decodeBinary, encodeBinary, bind_eq_ok, Prod.exists] at h
    obtain ⟨w, rest, hread, -⟩ := h
    rw [← List.append_nil (c.write v)] at hread
    exact Described.exact v hsize limit _ _ hread
  rw [decodeBinary_encodeBinary c hfits] at h
  injection h with h
  exact h.symm

/-- **Within the bounds of the reader the words decide.** -/
theorem decodeBinary_iff_plain (hwithin : ∀ p ∈ partsOf c v, p.Within limit) :
    decodeBinary c limit (encodeBinary c v) = .ok (c.norm v) ↔ ∀ p ∈ partsOf c v, p.Plain := by
  rw [decodeBinary_iff]
  exact ⟨fun h p hp => (h p hp).2, fun h p hp => ⟨hwithin p hp, h p hp⟩⟩

end Values

end DpuFabric
