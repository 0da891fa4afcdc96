/-
  Engine.Identity — WHEN TWO REPLICAS SHARE AN INSTANCE IDENTITY (`make_instance_id`).

  Both forms of an identity, the readable and the hashed one, are made of the
  dotted name `group.service` and the index, and the text after the LAST dot
  is the index.  So an identity determines the dotted name and the index, and
  no readable identity is a hashed one (the text in front of its last dot has
  a dot, a run of hex digits has none).  What it does not determine is where
  the dotted name is to be cut: a dot is a letter of an identifier.
-/
import DpuFabric.Engine.Planner

namespace DpuFabric

variable {g₁ g₂ : ServiceGroupId} {s₁ s₂ : ServiceId} {n : Nat}

/-! ## §1. Texts with dots. -/

/-- The byte of `.`. -/
def dot : UInt8 := 46

theorem txt_dot : txt "." = [dot] := by decide

theorem isDigit_of_mem_decimal {c : UInt8} (h : c ∈ decimal n) : isDigit c = true := by
  obtain ⟨d, hd, rfl⟩ := List.mem_map.mp h
  have hdigit := Nat.isDigit_of_mem_toDigits (by decide) (by decide) hd
  simp only [Char.isDigit, Bool.and_eq_true, decide_eq_true_eq] at hdigit
  obtain ⟨hlow, hhigh⟩ := hdigit
  have hlow' : 48 ≤ d.toNat := hlow
  have hhigh' : d.toNat ≤ 57 := hhigh
  have hbyte : (UInt8.ofNat d.toNat).toNat = d.toNat := by
    rw [UInt8.toNat_ofNat']
    omega
  simp only [isDigit, hbyte, Bool.and_eq_true, decide_eq_true_eq]
  exact ⟨hlow', hhigh'⟩

theorem dot_not_mem_decimal (n : Nat) : dot ∉ decimal n := fun h =>
  absurd (isDigit_of_mem_decimal h) (by decide)

theorem char_of_digit {c : Char} (h : c ∈ Nat.toDigits 10 n) :
    Char.ofNat (UInt8.ofNat c.toNat).toNat = c := by
  have hchar := Nat.isDigit_of_mem_toDigits (by decide) (by decide) h
  simp only [Char.isDigit, Bool.and_eq_true, decide_eq_true_eq] at hchar
  have hsmall : c.toNat ≤ 57 := hchar.2
  have hbyte : (UInt8.ofNat c.toNat).toNat = c.toNat := by
    rw [UInt8.toNat_ofNat']
    omega
  rw [hbyte, Char.ofNat_toNat]

theorem decimal_injective {m : Nat} (h : decimal m = decimal n) : m = n := by
  have hback : ∀ k, (decimal k).map (fun b => Char.ofNat b.toNat) = Nat.toDigits 10 k := by
    intro k
    rw [decimal, List.map_map]
    exact (List.map_congr_left fun c hc => char_of_digit hc).trans (List.map_id _)
  have hdigits : Nat.toDigits 10 m = Nat.toDigits 10 n := by rw [← hback, ← hback, h]
  calc m = Nat.ofDigitChars 10 (Nat.toDigits 10 m) 0 :=
        (Nat.ofDigitChars_toDigits (by decide) (by decide)).symm
    _ = Nat.ofDigitChars 10 (Nat.toDigits 10 n) 0 := by rw [hdigits]
    _ = n := Nat.ofDigitChars_toDigits (by decide) (by decide)

theorem Digest.alphanumeric_of_mem_hex {d : Digest} {c : UInt8} (h : c ∈ d.hex) :
    (isAlpha c || isDigit c) = true := by
  obtain ⟨b, -, hc⟩ := List.mem_flatMap.mp h
  rcases List.mem_cons.mp hc with rfl | hc
  · refine isIdentityByte_hexDigit _ ?_
    have hb := b.toNat_lt
    rw [UInt8.toNat_shiftRight, Nat.shiftRight_eq_div_pow]
    exact Nat.div_lt_of_lt_mul hb
  · rw [List.mem_singleton.mp hc]
    refine isIdentityByte_hexDigit _ ?_
    rw [UInt8.toNat_and]
    exact Nat.lt_succ_of_le Nat.and_le_right

theorem append_dot_inj {a b c d : Text} (hb : dot ∉ b) (hd : dot ∉ d)
    (h : a ++ [dot] ++ b = c ++ [dot] ++ d) : a = c ∧ b = d := by
  rw [List.append_assoc, List.append_assoc, List.singleton_append, List.singleton_append] at h
  rcases List.append_eq_append_iff.mp h with ⟨m, hc, hm⟩ | ⟨m, ha, hm⟩
  · cases m with
    | nil => exact ⟨by rw [hc, List.append_nil], List.cons.inj hm |>.2⟩
    | cons x m =>
      obtain ⟨-, hrest⟩ := List.cons.inj hm
      exact absurd (hrest ▸ by simp) hb
  · cases m with
    | nil => exact ⟨by rw [ha, List.append_nil], (List.cons.inj hm).2.symm⟩
    | cons x m =>
      obtain ⟨-, hrest⟩ := List.cons.inj hm
      exact absurd (hrest ▸ by simp) hd

/-! ## §2. The text of an identity. -/

/-- The dotted name both forms of an identity are made of. -/
def dottedName (g : ServiceGroupId) (s : ServiceId) : Text := g.text ++ txt "." ++ s.text

/-- The part of an identity's text in front of its last dot, without `i-`. -/
def identityStem (g : ServiceGroupId) (s : ServiceId) (i : ReplicaIndex) : Text :=
  if (txt "i-" ++ dottedName g s ++ txt "." ++ decimal i.value.toNat).length ≤ 64 then
    dottedName g s
  else (sha256 (dottedName g s)).hex.take 24

theorem decimal_length (v : UInt64) : (decimal v.toNat).length ≤ 20 := by
  rw [decimal, List.length_map]
  exact (Nat.length_toDigits_le_iff (by decide) (by decide)).mpr
    (Nat.lt_of_lt_of_le v.toNat_lt (by decide))

theorem isIdentityByte_decimal (n : Nat) : (decimal n).all isIdentityByte = true := by
  rw [List.all_eq_true]
  intro c hc
  simp [isIdentityByte, isDigit_of_mem_decimal hc]

theorem StrongId.valid_text {tag : IdTag} {i : StrongId tag} (h : i.valid = true) :
    validateIdentityText i.text = true := by
  rcases i.wf with hnil | hok
  · simp [StrongId.valid, hnil] at h
  · exact hok

theorem validateIdentityText_all {t : Text} (h : validateIdentityText t = true) :
    t.all isIdentityByte = true := by
  cases t with
  | nil => rfl
  | cons c cs =>
    simp only [validateIdentityText, Bool.and_eq_true] at h
    exact h.2

/-- `i-` in front of identity bytes is an identity, if it is short enough. -/
theorem validateIdentityText_prefixed {t : Text} (hall : t.all isIdentityByte = true)
    (hlen : (txt "i-" ++ t).length ≤ 64) : validateIdentityText (txt "i-" ++ t) = true := by
  have hi : txt "i-" = [105, 45] := by decide
  rw [hi] at hlen ⊢
  have hshort : (105 :: 45 :: t).length ≤ 64 := hlen
  have hhead : (isAlpha 105 || isDigit 105) = true := by decide
  have hdash : ([105, 45] : Text).all isIdentityByte = true := by decide
  show (decide ((105 :: 45 :: t).length ≤ 64) && (isAlpha 105 || isDigit 105)
    && ([105, 45] ++ t).all isIdentityByte) = true
  rw [hhead, List.all_append, hdash, hall, decide_eq_true hshort]
  rfl

theorem dottedName_all {g : ServiceGroupId} {s : ServiceId} (hg : g.valid = true)
    (hs : s.valid = true) : (dottedName g s).all isIdentityByte = true := by
  have hdot : (txt ".").all isIdentityByte = true := by decide
  rw [dottedName, List.all_append, List.all_append, hdot,
    validateIdentityText_all (StrongId.valid_text hg),
    validateIdentityText_all (StrongId.valid_text hs)]
  rfl

/-- Whichever form is taken, `literal` is given a valid text. -/
theorem makeInstanceId_text {g : ServiceGroupId} {s : ServiceId} (hg : g.valid = true)
    (hs : s.valid = true) (i : ReplicaIndex) :
    (makeInstanceId g s i).text
      = txt "i-" ++ identityStem g s i ++ txt "." ++ decimal i.value.toNat := by
  have hdot : (txt ".").all isIdentityByte = true := by decide
  have hreadable : txt "i-" ++ g.text ++ txt "." ++ s.text ++ txt "." ++ decimal i.value.toNat
      = txt "i-" ++ dottedName g s ++ txt "." ++ decimal i.value.toNat := by
    simp only [dottedName, List.append_assoc]
  simp only [makeInstanceId, hreadable, identityStem]
  split
  · next hlen =>
    refine StrongId.literal_text ?_
    rw [List.append_assoc, List.append_assoc] at hlen ⊢
    refine validateIdentityText_prefixed ?_ hlen
    rw [List.all_append, List.all_append, dottedName_all hg hs, hdot, isIdentityByte_decimal]
    rfl
  · refine StrongId.literal_text ?_
    have htake : ((sha256 (dottedName g s)).hex.take 24).all isIdentityByte = true := by
      rw [List.all_eq_true]
      intro c hc
      simp only [isIdentityByte, Digest.alphanumeric_of_mem_hex (List.mem_of_mem_take hc),
        Bool.true_or]
    have hnumber := decimal_length i.value
    rw [List.append_assoc, List.append_assoc]
    refine validateIdentityText_prefixed ?_ ?_
    · rw [List.all_append, List.all_append, hdot, isIdentityByte_decimal]
      exact Bool.and_eq_true_iff.mpr ⟨htake, rfl⟩
    · have hi : (txt "i-").length = 2 := by decide
      have hd : (txt ".").length = 1 := by decide
      simp only [List.length_append, List.length_take, Digest.hex_length, hi, hd]
      omega

/-! ## §3. What an identity determines. -/

/-- The part in front of the last dot and the index are read off the text. -/
theorem makeInstanceId_inj {i₁ i₂ : ReplicaIndex}
    (hg₁ : g₁.valid = true) (hs₁ : s₁.valid = true) (hg₂ : g₂.valid = true)
    (hs₂ : s₂.valid = true) (h : makeInstanceId g₁ s₁ i₁ = makeInstanceId g₂ s₂ i₂) :
    identityStem g₁ s₁ i₁ = identityStem g₂ s₂ i₂ ∧ i₁ = i₂ := by
  have htext := congrArg StrongId.text h
  rw [makeInstanceId_text hg₁ hs₁, makeInstanceId_text hg₂ hs₂, txt_dot] at htext
  obtain ⟨hstem, hindex⟩ :=
    append_dot_inj (dot_not_mem_decimal _) (dot_not_mem_decimal _) htext
  exact ⟨List.append_cancel_left hstem, Counter.value_injective (decimal_injective hindex)⟩

theorem dot_not_mem_hex (d : Digest) (n : Nat) : dot ∉ d.hex.take n := fun h =>
  absurd (Digest.alphanumeric_of_mem_hex (List.mem_of_mem_take h)) (by decide)

theorem dot_mem_dottedName (g : ServiceGroupId) (s : ServiceId) : dot ∈ dottedName g s := by
  simp [dottedName, txt_dot]

/-- Identities are equal only for equal dotted names: a readable form is no
hashed one, and two hashed ones are equal by the hypothesis on their names. -/
theorem dottedName_eq_of_stem {i : ReplicaIndex}
    (hhash : (sha256 (dottedName g₁ s₁)).hex.take 24 = (sha256 (dottedName g₂ s₂)).hex.take 24 →
      dottedName g₁ s₁ = dottedName g₂ s₂) (h : identityStem g₁ s₁ i = identityStem g₂ s₂ i) : dottedName g₁ s₁ = dottedName g₂ s₂ := by
  simp only [identityStem] at h
  split at h <;> split at h
  · exact h
  · exact absurd (h ▸ dot_mem_dottedName g₁ s₁) (dot_not_mem_hex _ _)
  · exact absurd (h ▸ dot_mem_dottedName g₂ s₂) (dot_not_mem_hex _ _)
  · exact hhash h

/-- The dotted name of `g₁` and `s₁` read with a later cut is that of `g₂` and
`s₂`: a part `t` of the service's text moves to the group's. -/
def Shifts (g₁ : ServiceGroupId) (s₁ : ServiceId) (g₂ : ServiceGroupId) (s₂ : ServiceId) : Prop :=
  ∃ t : Text, g₂.text = g₁.text ++ txt "." ++ t ∧ s₁.text = t ++ txt "." ++ s₂.text

theorem Shifts.dottedName_eq (h : Shifts g₁ s₁ g₂ s₂) : dottedName g₁ s₁ = dottedName g₂ s₂ := by
  obtain ⟨t, hg, hs⟩ := h
  simp only [dottedName, hg, hs, List.append_assoc]

theorem Shifts.ne (h : Shifts g₁ s₁ g₂ s₂) : g₁ ≠ g₂ := by
  rintro rfl
  obtain ⟨t, hg, -⟩ := h
  have hlen := congrArg List.length hg
  have hd : (txt ".").length = 1 := by decide
  simp only [List.length_append, hd] at hlen
  omega

theorem StrongId.ext_text {tag : IdTag} {i j : StrongId tag} (h : i.text = j.text) : i = j := by
  cases i
  cases j
  cases h
  rfl

theorem equal_or_shifts {m : Text}
    (hg : g₂.text = g₁.text ++ m) (hm : txt "." ++ s₁.text = m ++ (txt "." ++ s₂.text)) :
    (g₁ = g₂ ∧ s₁ = s₂) ∨ Shifts g₁ s₁ g₂ s₂ := by
  cases m with
  | nil =>
    refine .inl ⟨StrongId.ext_text ?_, StrongId.ext_text (List.append_cancel_left hm)⟩
    rw [hg, List.append_nil]
  | cons x t =>
    rw [txt_dot] at hm
    obtain ⟨rfl, hs⟩ := List.cons.inj hm
    refine .inr ⟨t, ?_, ?_⟩
    · rw [hg, txt_dot, List.append_assoc, List.singleton_append]
    · rw [txt_dot, List.append_assoc]
      exact hs

/-- Two pairs have one dotted name when they are equal or one shifts to the
other. -/
theorem dottedName_eq_iff :
    dottedName g₁ s₁ = dottedName g₂ s₂ ↔
      (g₁ = g₂ ∧ s₁ = s₂) ∨ Shifts g₁ s₁ g₂ s₂ ∨ Shifts g₂ s₂ g₁ s₁ := by
  constructor
  · intro h
    rw [dottedName, dottedName, List.append_assoc, List.append_assoc] at h
    rcases List.append_eq_append_iff.mp h with ⟨m, hg, hm⟩ | ⟨m, hg, hm⟩
    · exact (equal_or_shifts hg hm).imp_right .inl
    · rcases equal_or_shifts hg hm with ⟨heq, hs⟩ | hshift
      · exact .inl ⟨heq.symm, hs.symm⟩
      · exact .inr (.inr hshift)
  · rintro (⟨rfl, rfl⟩ | h | h)
    · rfl
    · exact h.dottedName_eq
    · exact h.dottedName_eq.symm

theorem makeInstanceId_congr (h : dottedName g₁ s₁ = dottedName g₂ s₂) (i : ReplicaIndex) :
    makeInstanceId g₁ s₁ i = makeInstanceId g₂ s₂ i := by
  have hreadable : ∀ (g : ServiceGroupId) (s : ServiceId),
      txt "i-" ++ g.text ++ txt "." ++ s.text ++ txt "." ++ decimal i.value.toNat
        = txt "i-" ++ dottedName g s ++ txt "." ++ decimal i.value.toNat := by
    intro g s
    simp only [dottedName, List.append_assoc]
  have hname : ∀ (g : ServiceGroupId) (s : ServiceId),
      g.text ++ txt "." ++ s.text = dottedName g s := fun _ _ => rfl
  simp only [makeInstanceId, hreadable, hname, h]

/-- **An identity determines its group, service and index exactly where the
two dotted names are not one name cut at two dots.** -/
theorem makeInstanceId_injective_iff (g₁ g₂ : ServiceGroupId) (s₁ s₂ : ServiceId)
    (i₁ i₂ : ReplicaIndex) (hg₁ : g₁.valid = true) (hs₁ : s₁.valid = true)
    (hg₂ : g₂.valid = true) (hs₂ : s₂.valid = true)
    (hhash : (sha256 (dottedName g₁ s₁)).hex.take 24 = (sha256 (dottedName g₂ s₂)).hex.take 24 →
      dottedName g₁ s₁ = dottedName g₂ s₂) :
    (makeInstanceId g₁ s₁ i₁ = makeInstanceId g₂ s₂ i₂ → g₁ = g₂ ∧ s₁ = s₂ ∧ i₁ = i₂) ↔
      ¬ (i₁ = i₂ ∧ (Shifts g₁ s₁ g₂ s₂ ∨ Shifts g₂ s₂ g₁ s₁)) := by
  constructor
  · rintro hinj ⟨rfl, hshift⟩
    have heq := makeInstanceId_congr (dottedName_eq_iff.mpr (.inr hshift)) i₁
    obtain ⟨hg, -, -⟩ := hinj heq
    rcases hshift with h | h
    · exact h.ne hg
    · exact h.ne hg.symm
  · intro hcut heq
    obtain ⟨hstem, rfl⟩ := makeInstanceId_inj hg₁ hs₁ hg₂ hs₂ heq
    rcases dottedName_eq_iff.mp (dottedName_eq_of_stem hhash hstem) with ⟨hg, hs⟩ | hshift
    · exact ⟨hg, hs, rfl⟩
    · exact absurd ⟨rfl, hshift⟩ hcut

/-- Two services whose names have no dot. -/
theorem dotless_services_differ :
    (StrongId.literal (txt "b") : ServiceId).valid = true ∧
      (StrongId.literal (txt "c") : ServiceId).valid = true ∧
      makeInstanceId (.literal (txt "a")) (.literal (txt "b")) ⟨0⟩
        ≠ makeInstanceId (.literal (txt "a")) (.literal (txt "c")) ⟨0⟩ := by
  refine ⟨by decide, by decide, fun heq => ?_⟩
  have hparts := (makeInstanceId_injective_iff _ _ _ _ _ _ (by decide) (by decide) (by decide)
    (by decide) (fun h => absurd h (by decide +kernel))).mpr (by
      rintro ⟨-, hshift | hshift⟩
      · exact hshift.ne rfl
      · exact hshift.ne rfl) heq
  exact absurd hparts.2.1 (by decide)

/-- Service `c` of group `a.b` and service `b.c` of group `a` share the
identity `i-a.b.c.0`. -/
theorem dotted_groups_share_identity :
    (StrongId.literal (txt "a.b") : ServiceGroupId).text = txt "a.b" ∧
      (StrongId.literal (txt "b.c") : ServiceId).text = txt "b.c" ∧
      makeInstanceId (.literal (txt "a.b")) (.literal (txt "c")) ⟨0⟩
        = makeInstanceId (.literal (txt "a")) (.literal (txt "b.c")) ⟨0⟩ ∧
      (StrongId.literal (txt "a.b") : ServiceGroupId) ≠ .literal (txt "a") := by
  decide

end DpuFabric
