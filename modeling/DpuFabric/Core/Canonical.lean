/-
  Core.Canonical — THE PIECES OF THE ARCHIVE ARE CANONICAL AND SELF-DELIMITING.

  Every redundancy a format can have is excluded piece by piece: a tag and a
  type name have one spelling, a flag is 0 or 1, a length or a count is the
  number of what follows, a number has all of its width, an enumerator has
  one name, an identity is its text.

      *_canonical  — what is accepted is what the writer writes
      *_apart      — no writing runs into another one; texts and sequences
                     below `2 ^ 32` only, as their length is cut to a word
-/
import DpuFabric.Core.Exact
import DpuFabric.Lib.Canonical

namespace DpuFabric

open Lib

variable {name : String} {tag : IdTag}

namespace Visit

variable {α β : Type}

/-! ## §1. Tags and numbers. -/

variable {c : Visit α} {ok : α → Prop} {h : (txt name).length ≤ maxDecodedBlob}

theorem tagged_canonical {tag : Fin 256} (hc : c.Canonical) :
    (tagged tag c).Canonical := by
  refine Codec.guarded_canonical (Codec.number_canonical _ _ _) (fun raw hraw => ?_) hc
  by_contra hne
  rw [if_neg hne] at hraw
  simp at hraw

theorem tagged_apart {tag : Fin 256} (hc : c.Apart ok) :
    (tagged tag c).Apart ok :=
  Codec.guarded_apart hc

theorem flag_read {message : Status} {n flag : Nat} {bytes rest : List UInt8}
    (h : (byte (fun raw => if 1 < raw then some message else none)).read n bytes
      = .ok (flag, rest)) : bytes = (byte (fun _ => none)).write flag ++ rest ∧ flag ≤ 1 := by
  obtain ⟨hbytes, -, hcheck⟩ := Codec.number_read h
  refine ⟨hbytes, ?_⟩
  by_contra hlarge
  rw [if_pos (not_le.mp hlarge)] at hcheck
  simp at hcheck

theorem bool_canonical : bool.Canonical := by
  refine tagged_canonical (Codec.iso_canonical (Codec.number_canonical _ _ _) ?_)
  intro n bytes flag rest h
  have hflag := (flag_read h).2
  by_cases hone : flag = 1
  · simp [hone]
  · simp only [hone, decide_false, Bool.false_eq_true, if_false]
    omega

theorem bool_apart : bool.Apart (fun _ => True) := by
  refine tagged_apart ((Codec.iso_apart Codec.number_apart).mono fun v _ => ?_)
  cases v <;> decide

theorem unsigned_read {max n v : Nat} {bytes rest : List UInt8}
    (h : (unsigned max).read n bytes = .ok (v, rest)) : v < 2 ^ 64 ∧ v ≤ max := by
  simp only [unsigned, tagged, Codec.guarded, bind_eq_ok, Prod.exists] at h
  obtain ⟨tag, bytes', -, h⟩ := h
  split at h
  · simp at h
  obtain ⟨-, hwidth, hcheck⟩ := Codec.number_read h
  refine ⟨hwidth, ?_⟩
  by_contra hlarge
  rw [if_pos (not_le.mp hlarge)] at hcheck
  simp at hcheck

theorem unsigned_canonical (max : Nat) : (unsigned max).Canonical :=
  tagged_canonical (Codec.number_canonical _ _ _)

theorem unsigned_apart (max : Nat) : (unsigned max).Apart (fun v => v < 2 ^ 64) :=
  tagged_apart Codec.number_apart

theorem u64_canonical : u64.Canonical := by
  refine Codec.iso_canonical (unsigned_canonical _) fun n bytes v rest h => ?_
  exact UInt64.toNat_ofNat_of_lt' (unsigned_read h).1

theorem u64_apart : u64.Apart (fun _ => True) :=
  (Codec.iso_apart (unsigned_apart _)).mono fun v _ => v.toNat_lt

theorem u32_canonical : u32.Canonical := by
  refine Codec.iso_canonical (unsigned_canonical _) fun n bytes v rest h => ?_
  have hmax := (unsigned_read h).2
  exact UInt32.toNat_ofNat_of_lt' (by show v < 4294967296; omega)

theorem u32_apart : u32.Apart (fun _ => True) :=
  (Codec.iso_apart (unsigned_apart _)).mono fun v _ => lt_of_lt_of_le v.toNat_lt (by decide)

theorem i64_canonical : i64.Canonical := by
  refine Codec.iso_canonical (tagged_canonical (Codec.number_canonical _ _ _)) ?_
  intro n bytes v rest h
  simp only [tagged, Codec.guarded, bind_eq_ok, Prod.exists] at h
  obtain ⟨tag, bytes', -, h⟩ := h
  split at h
  · simp at h
  obtain ⟨-, hwidth, -⟩ := Codec.number_read h
  rw [UInt64.toUInt64_toInt64]
  exact UInt64.toNat_ofNat_of_lt' hwidth

theorem i64_apart : i64.Apart (fun _ => True) :=
  (Codec.iso_apart (tagged_apart Codec.number_apart)).mono fun v _ => v.toUInt64.toNat_lt

/-! ## §2. Text, digests, names. -/

theorem text_canonical : text.Canonical := by
  refine tagged_canonical (Codec.dependent_canonical (Codec.number_canonical _ _ _) ?_
    fun len => Codec.raw_canonical len _)
  intro n len bytes rest bytes' t rest' hcount _ hraw
  have hlength : t.length = len := (Codec.takeBytes_ok hraw).2
  have hwidth : len < 2 ^ 32 := (Codec.number_read hcount).2.1
  rw [hlength, Nat.mod_eq_of_lt hwidth]

/-- A text of less than `2 ^ 32` bytes is preceded by its length. -/
theorem text_apart : text.Apart (fun t => t.length < 2 ^ 32) := by
  refine tagged_apart (Codec.dependent_apart Codec.number_apart
    (fun t _ => Nat.mod_lt _ (by decide)) fun len => Codec.raw_apart.mono ?_)
  rintro t ⟨hshort, hlength⟩
  have hmod : t.length % 2 ^ 32 = len := hlength
  rwa [Nat.mod_eq_of_lt hshort] at hmod

theorem digest_canonical : digest.Canonical := by
  refine tagged_canonical (Codec.refined_canonical (Codec.raw_canonical _ _) fun b v h => ?_)
  split at h
  · cases h; rfl
  · simp at h

theorem digest_apart : digest.Apart (fun _ => True) := by
  refine tagged_apart ((Codec.refined_apart Codec.raw_apart fun v w h => ?_).mono
    fun v _ => v.size)
  exact Digest.bytes_injective h

/-- Where an enumerator stands in one row, only its own name is its name. -/
theorem enumName_of_enumFromName [DecidableEq α] {table : List (α × String)}
    (honce : (table.map Prod.fst).Nodup) {name : Text} {v : α}
    (h : enumFromName table name = some v) : enumName table v = name := by
  unfold enumFromName at h
  cases hfind : table.find? (fun row => decide (txt row.2 = name)) with
  | none => rw [hfind] at h; exact absurd h (by simp)
  | some row =>
    rw [hfind] at h
    obtain rfl : row.1 = v := Option.some.inj h
    have hmem := List.mem_of_find?_eq_some hfind
    have hname : txt row.2 = name := by simpa using List.find?_some hfind
    unfold enumName
    cases hfirst : table.find? (fun r => decide (r.1 = row.1)) with
    | none => exact absurd (decide_eq_true rfl) (List.find?_eq_none.mp hfirst row hmem)
    | some r =>
      have hsame : r.1 = row.1 := by simpa using List.find?_some hfirst
      rw [List.inj_on_of_nodup_map honce (List.mem_of_find?_eq_some hfirst) hmem hsame]
      exact hname

theorem enum_canonical [DecidableEq α] {table : List (α × String)}
    (honce : (table.map Prod.fst).Nodup) : (enum table).Canonical := by
  refine tagged_canonical (Codec.refined_canonical text_canonical fun name v h => ?_)
  cases hname : enumFromName table name with
  | none => rw [hname] at h; exact absurd h (by simp)
  | some w =>
    rw [hname] at h
    cases h
    exact enumName_of_enumFromName honce hname

theorem enum_apart [DecidableEq α] (table : List (α × String)) [named : Named table] :
    (enum table).Apart (fun _ => True) := by
  refine tagged_apart ((Codec.refined_apart text_apart fun v w h => ?_).mono fun v _ => ?_)
  · have hname : enumName table v = enumName table w := h
    have hv := named.name v
    rw [hname, named.name w] at hv
    exact (Option.some.inj hv).symm
  · exact lt_of_le_of_lt (named.short v) (by decide)

theorem parse_text {t : Text} {v : StrongId tag} (h : StrongId.parse t = .ok v) : v.text = t := by
  unfold StrongId.parse at h
  split at h
  · simp at h
  split at h
  · cases h; rfl
  · simp at h

theorem id_canonical : (id : Visit (StrongId tag)).Canonical := by
  refine Codec.refined_canonical text_canonical fun t v h => ?_
  split at h
  · next hempty => cases h; exact hempty.symm
  · exact parse_text h

theorem id_apart : (id : Visit (StrongId tag)).Apart (fun _ => True) := by
  refine (Codec.refined_apart text_apart fun v w h =>
    StrongId.codes_injective (congrArg Text.codes h)).mono fun v _ => ?_
  obtain ⟨t, rfl | hwf⟩ := v
  · exact Nat.two_pow_pos 32
  · exact lt_of_le_of_lt (validateIdentityText_length hwf) (by decide)

theorem counter_canonical {tag : CounterTag} : (counter : Visit (Counter tag)).Canonical :=
  Codec.iso_canonical u64_canonical fun _ _ _ _ _ => rfl

theorem counter_apart {tag : CounterTag} : (counter : Visit (Counter tag)).Apart (fun _ => True) :=
  Codec.iso_apart u64_apart

/-! ## §3. Optionals, sequences, objects. -/

theorem opt_canonical (hc : c.Canonical) : (opt c).Canonical := by
  intro n bytes v rest h
  simp only [opt, bind_eq_ok, Prod.exists] at h
  obtain ⟨flag, bytes', hflag, h⟩ := h
  obtain ⟨hbytes, hle⟩ := flag_read hflag
  split at h
  · next hone =>
    simp only [bind_eq_ok, Prod.exists] at h
    obtain ⟨w, bytes'', hread, h⟩ := h
    cases h
    rw [hbytes, hone, hc n _ _ _ hread, ← List.append_assoc]
    rfl
  · next hother =>
    cases h
    obtain rfl : flag = 0 := by omega
    exact hbytes

theorem opt_apart (hc : c.Apart ok) :
    (opt c).Apart (fun v => ∀ w ∈ v, ok w) := by
  intro v w rest rest' hv hw h
  cases v with
  | none =>
    cases w with
    | none => exact ⟨rfl, (List.cons.inj h).2⟩
    | some w => exact absurd (List.cons.inj h).1 (by decide)
  | some v =>
    cases w with
    | none => exact absurd (List.cons.inj h).1 (by decide)
    | some w =>
      simp only [opt, List.append_assoc] at h
      obtain ⟨hnorm, hrest⟩ := hc v w rest rest' (hv v rfl) (hw w rfl)
        (List.append_cancel_left h)
      exact ⟨congrArg some hnorm, hrest⟩

theorem vec_canonical (hc : c.Canonical) : (vec c).Canonical := by
  refine tagged_canonical (Codec.dependent_canonical (Codec.number_canonical _ _ _) ?_
    fun k => Codec.repeated_canonical hc k)
  intro n k bytes rest bytes' vs rest' hcount _ hmany
  have hlength : vs.length = k := Codec.readMany_length hmany
  have hwidth : k < 2 ^ 32 := (Codec.number_read hcount).2.1
  rw [hlength]
  omega

/-- A sequence of less than `2 ^ 32` elements is preceded by its count. -/
theorem vec_apart (hc : c.Apart ok) :
    (vec c).Apart (fun vs => vs.length < 2 ^ 32 ∧ ∀ v ∈ vs, ok v) := by
  refine tagged_apart (Codec.dependent_apart Codec.number_apart (fun vs _ => ?_)
    fun k => (Codec.repeated_apart hc k).mono ?_)
  · show min vs.length (2 ^ 32 - 1) < 4294967296
    omega
  rintro vs ⟨⟨hshort, hall⟩, hcount⟩
  have hmin : min vs.length (2 ^ 32 - 1) = k := hcount
  exact ⟨by omega, hall⟩

theorem typeName_canonical (hc : c.Canonical) : (typeName name h c).Canonical := by
  refine tagged_canonical (Codec.guarded_canonical text_canonical (fun found hfound => ?_) hc)
  by_contra hne
  rw [if_neg hne] at hfound
  simp at hfound

theorem typeName_apart (hc : c.Apart ok) : (typeName name h c).Apart ok :=
  tagged_apart (Codec.guarded_apart hc)

theorem object_canonical {fields : Fields β} {unpack : α → β} {pack : β → α}
    (hpack : Function.LeftInverse unpack pack) (hfields : fields.codec.Canonical) :
    (object name h fields unpack pack).Canonical :=
  Codec.iso_canonical (typeName_canonical hfields) fun _ _ b _ _ => hpack b

theorem object_apart {fields : Fields β} {unpack : α → β} {pack : β → α} {ok : β → Prop}
    (hfields : fields.codec.Apart ok) :
    (object name h fields unpack pack).Apart (fun v => ok (unpack v)) :=
  Codec.iso_apart (typeName_apart hfields)

end Visit

/-! ## §4. Whole values. -/

theorem encodeBinary_decodeBinary {α : Type} {c : Visit α} (hc : c.Canonical) {limit : Nat}
    {data : List UInt8} {v : α} (h : decodeBinary c limit data = .ok v) :
    encodeBinary c v = data := by
  simp only [decodeBinary, bind_eq_ok, Prod.exists] at h
  obtain ⟨w, rest, hread, h⟩ := h
  split at h
  · next hall =>
    cases h
    rw [hc limit _ _ _ hread, hall, List.append_nil]
    rfl
  · simp at h

end DpuFabric
