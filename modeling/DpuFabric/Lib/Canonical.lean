/-
  Lib.Canonical — CANONICAL AND SELF-DELIMITING CODECS.

  The law of a codec says that what is written is read back.  Two more
  properties say that nothing else is:

      Canonical  — bytes that are read as a value are the bytes that the
                   value is written as
      Apart      — writings of two values, whatever follows them, differ
                   within the shorter one, unless the values are the same as
                   far as they are written

  Composites inherit both from their parts.
-/
import DpuFabric.Lib.Codec

namespace DpuFabric.Lib

variable {k : Nat} {bytes rest : List UInt8}

variable {ε α β γ : Type}

namespace Codec

/-! ## §1. Canonical readers. -/

/-- Only the writing of a value is read as that value. -/
def Canonical (c : Codec ε α) : Prop :=
  ∀ n bytes v rest, c.read n bytes = .ok (v, rest) → bytes = c.write v ++ rest

theorem takeBytes_ok {e : ε} {raw : List UInt8} (h : takeBytes e k bytes = .ok (raw, rest)) :
    bytes = raw ++ rest ∧ raw.length = k := by
  unfold takeBytes at h
  split at h
  · simp at h
  next hlong =>
  obtain ⟨rfl, rfl⟩ := Prod.mk.inj (Except.ok.inj h)
  refine ⟨(List.take_append_drop k bytes).symm, ?_⟩
  rw [List.length_take]
  omega

/-- Little-endian bytes are the bytes of the number that they spell. -/
theorem leBytes_leValue (bytes : List UInt8) : leBytes bytes.length (leValue bytes) = bytes := by
  induction bytes with
  | nil => rfl
  | cons b bytes ih =>
    have hb : b.toNat < 256 := b.toNat_lt
    have hlow : (b.toNat + 256 * leValue bytes) % 256 = b.toNat := by omega
    have hhigh : (b.toNat + 256 * leValue bytes) / 256 = leValue bytes := by omega
    rw [List.length_cons, leValue, leBytes, hlow, hhigh, ih, UInt8.ofNat_toNat]

variable {truncated : ε} {c : Codec ε α} {d : Codec ε β} {unpack : α → β} {ok : α → Prop}

/-- What is read as a number has the width, and passed the check. -/
theorem number_read {n v : Nat} {check : Nat → Option ε}
    (h : (number k truncated check).read n bytes = .ok (v, rest)) :
    bytes = leBytes k v ++ rest ∧ v < 256 ^ k ∧ check v = none := by
  simp only [number, bind_eq_ok, Prod.exists] at h
  obtain ⟨raw, bytes', hraw, h⟩ := h
  obtain ⟨hbytes, hlength⟩ := takeBytes_ok hraw
  split at h
  · simp at h
  next hcheck =>
  cases h
  subst hlength
  exact ⟨by rw [leBytes_leValue]; exact hbytes, leValue_lt raw, hcheck⟩

theorem number_canonical (k : Nat) (truncated : ε) (check : Nat → Option ε) :
    (number k truncated check).Canonical :=
  fun _ _ _ _ h => (number_read h).1

theorem raw_canonical (k : Nat) (truncated : ε) :
    (raw k truncated : Codec ε (List UInt8)).Canonical :=
  fun _ _ _ _ h => (takeBytes_ok h).1

theorem pair_canonical (hc : c.Canonical) (hd : d.Canonical) :
    (c.pair d).Canonical := by
  intro n bytes v rest h
  simp only [pair, bind_eq_ok, Prod.exists] at h
  obtain ⟨a, bytes', hfirst, b, bytes'', hsecond, h⟩ := h
  cases h
  rw [hc n _ _ _ hfirst, hd n _ _ _ hsecond, ← List.append_assoc]
  rfl

theorem iso_canonical {c : Codec ε β} {pack : β → α} (hc : c.Canonical)
    (hpack : ∀ n bytes b rest, c.read n bytes = .ok (b, rest) → unpack (pack b) = b) :
    (c.iso unpack pack).Canonical := by
  intro n bytes v rest h
  simp only [iso, bind_eq_ok, Prod.exists] at h
  obtain ⟨b, bytes', hread, h⟩ := h
  cases h
  show bytes = c.write (unpack (pack b)) ++ rest
  rw [hpack n bytes b rest hread]
  exact hc n _ _ _ hread

theorem guarded_canonical {v₀ : α} {check : α → Option ε} {hv : ∀ n, c.fits n v₀ = true}
    {hc₀ : check (c.norm v₀) = none} (hc : c.Canonical) (hcheck : ∀ a, check a = none → a = v₀)
    (hd : d.Canonical) :
    (guarded c v₀ check d hv hc₀).Canonical := by
  intro n bytes v rest h
  simp only [guarded, bind_eq_ok, Prod.exists] at h
  obtain ⟨a, bytes', hfirst, h⟩ := h
  split at h
  · simp at h
  next hpass =>
  rw [hc n _ _ _ hfirst, hcheck a hpass, hd n _ _ _ h, ← List.append_assoc]
  rfl

/-- A value that was read has the header that it was read under. -/
theorem dependent_canonical {c : Codec ε γ} {header : α → γ} {check : Nat → γ → Option ε}
    {body : γ → Codec ε α} {hw : ∀ g g', (body g).write = (body g').write} (hc : c.Canonical)
    (hheader : ∀ n g bytes rest bytes' v rest', c.read n bytes = .ok (g, rest) →
      check n g = none → (body g).read n bytes' = .ok (v, rest') → header v = g)
    (hbody : ∀ g, (body g).Canonical) : (dependent c header check body hw).Canonical := by
  intro n bytes v rest h
  simp only [dependent, bind_eq_ok, Prod.exists] at h
  obtain ⟨g, bytes', hfirst, h⟩ := h
  split at h
  · simp at h
  next hpass =>
  have hg : header v = g := hheader n g _ _ _ _ _ hfirst hpass h
  rw [hc n _ _ _ hfirst, hbody g n _ _ _ h, ← List.append_assoc]
  simp only [dependent, hg]

theorem readMany_canonical (hc : c.Canonical) {n : Nat} {vs : List α}
    (h : readMany c n k bytes = .ok (vs, rest)) :
    bytes = vs.flatMap c.write ++ rest := by
  induction k generalizing bytes vs with
  | zero => cases h; rfl
  | succ k ih =>
    simp only [readMany, bind_eq_ok, Prod.exists] at h
    obtain ⟨a, bytes', hhead, as, bytes'', htail, h⟩ := h
    cases h
    rw [hc n _ _ _ hhead, ih htail, List.flatMap_cons, List.append_assoc]

theorem repeated_canonical (hc : c.Canonical) (k : Nat) :
    (repeated c k).Canonical :=
  fun _ _ _ _ h => readMany_canonical hc h

theorem refined_canonical {c : Codec ε β} {parse : β → Except ε α} {fits : Nat → α → Bool}
    {hfits : ∀ n v, fits n v = true → c.fits n (unpack v) = true ∧ parse (c.norm (unpack v)) = .ok v}
    (hc : c.Canonical) (hparse : ∀ b a, parse b = .ok a → unpack a = b) :
    (refined c unpack parse fits hfits).Canonical := by
  intro n bytes v rest h
  simp only [refined, bind_eq_ok, Prod.exists] at h
  obtain ⟨b, bytes', hread, a, ha, h⟩ := h
  cases h
  show bytes = c.write (unpack v) ++ rest
  rw [hparse b v ha]
  exact hc n _ _ _ hread

/-! ## §2. Self-delimiting writers. -/

/-- Writings of acceptable values do not run into each other. -/
def Apart (c : Codec ε α) (ok : α → Prop) : Prop :=
  ∀ v w rest rest', ok v → ok w → c.write v ++ rest = c.write w ++ rest' →
    c.norm v = c.norm w ∧ rest = rest'

theorem Apart.mono {ok' : α → Prop} (h : c.Apart ok) (hok : ∀ v, ok' v → ok v) :
    c.Apart ok' :=
  fun v w rest rest' hv hw => h v w rest rest' (hok v hv) (hok w hw)

theorem Apart.not_prefix (h : c.Apart ok) {v w : α} (hv : ok v) (hw : ok w)
    (hne : c.norm v ≠ c.norm w) : ¬ c.write v <+: c.write w := by
  rintro ⟨rest, hrest⟩
  exact hne (h v w rest [] hv hw (by rw [hrest, List.append_nil])).1

theorem number_apart {check : Nat → Option ε} :
    (number k truncated check).Apart (fun v => v < 256 ^ k) := by
  intro v w rest rest' hv hw h
  have hlength : (leBytes k v).length = (leBytes k w).length := by
    rw [leBytes_length, leBytes_length]
  obtain ⟨hbytes, hrest⟩ := List.append_inj h hlength
  refine ⟨?_, hrest⟩
  have hvalue : leValue (leBytes k v) = leValue (leBytes k w) := congrArg leValue hbytes
  rwa [leValue_leBytes hv, leValue_leBytes hw] at hvalue

theorem raw_apart :
    (raw k truncated : Codec ε (List UInt8)).Apart (fun v => v.length = k) :=
  fun _ _ _ _ hv hw h => List.append_inj h (hv.trans hw.symm)

theorem pair_apart {ok' : β → Prop} (hc : c.Apart ok) (hd : d.Apart ok') :
    (c.pair d).Apart (fun v => ok v.1 ∧ ok' v.2) := by
  intro v w rest rest' hv hw h
  simp only [pair, List.append_assoc] at h
  obtain ⟨hfirst, h⟩ := hc _ _ _ _ hv.1 hw.1 h
  obtain ⟨hsecond, hrest⟩ := hd _ _ _ _ hv.2 hw.2 h
  exact ⟨Prod.ext hfirst hsecond, hrest⟩

theorem iso_apart {c : Codec ε β} {pack : β → α} {ok : β → Prop} (hc : c.Apart ok) :
    (c.iso unpack pack).Apart (fun v => ok (unpack v)) := by
  intro v w rest rest' hv hw h
  obtain ⟨hnorm, hrest⟩ := hc _ _ _ _ hv hw h
  exact ⟨congrArg pack hnorm, hrest⟩

theorem guarded_apart {v₀ : α} {check : α → Option ε} {hv : ∀ n, c.fits n v₀ = true}
    {hc₀ : check (c.norm v₀) = none} {ok : β → Prop} (hd : d.Apart ok) :
    (guarded c v₀ check d hv hc₀).Apart ok := by
  intro v w rest rest' hv hw h
  simp only [guarded, List.append_assoc] at h
  exact hd _ _ _ _ hv hw (List.append_cancel_left h)

theorem dependent_apart {c : Codec ε γ} {header : α → γ} {check : Nat → γ → Option ε}
    {body : γ → Codec ε α} {hw : ∀ g g', (body g).write = (body g').write} {ok' : γ → Prop}
    (hc : c.Apart ok') (hheader : ∀ v, ok v → ok' (header v))
    (hbody : ∀ g, (body g).Apart (fun v => ok v ∧ c.norm (header v) = g)) :
    (dependent c header check body hw).Apart ok := by
  intro v w rest rest' hv hw' h
  simp only [dependent, List.append_assoc] at h
  obtain ⟨hnorm, h⟩ := hc _ _ _ _ (hheader v hv) (hheader w hw') h
  rw [hw (header v) (c.norm (header v)), hw (header w) (c.norm (header v))] at h
  obtain ⟨hsame, hrest⟩ := hbody (c.norm (header v)) _ _ _ _ ⟨hv, rfl⟩ ⟨hw', hnorm.symm⟩ h
  refine ⟨?_, hrest⟩
  show (body (c.norm (header v))).norm v = (body (c.norm (header w))).norm w
  rw [← hnorm]
  exact hsame

theorem repeated_apart (hc : c.Apart ok) (k : Nat) :
    (repeated c k).Apart (fun vs => vs.length = k ∧ ∀ v ∈ vs, ok v) := by
  intro vs ws rest rest' hvs hws h
  obtain ⟨rfl, hvs⟩ := hvs
  obtain ⟨hlength, hws⟩ := hws
  have hmany : ∀ (vs ws : List α), ws.length = vs.length → (∀ v ∈ vs, ok v) → (∀ w ∈ ws, ok w) →
      vs.flatMap c.write ++ rest = ws.flatMap c.write ++ rest' →
      vs.map c.norm = ws.map c.norm ∧ rest = rest' := by
    intro vs
    induction vs with
    | nil =>
      intro ws hlength _ _ h
      rw [List.length_nil, List.length_eq_zero_iff] at hlength
      subst hlength
      exact ⟨rfl, h⟩
    | cons v vs ih =>
      intro ws hlength hvs hws h
      cases ws with
      | nil => simp at hlength
      | cons w ws =>
        simp only [List.flatMap_cons, List.append_assoc] at h
        obtain ⟨hhead, h⟩ := hc _ _ _ _ (hvs v List.mem_cons_self)
          (hws w List.mem_cons_self) h
        obtain ⟨htail, hrest⟩ := ih ws (by simpa using hlength)
          (fun x hx => hvs x (List.mem_cons_of_mem _ hx))
          (fun x hx => hws x (List.mem_cons_of_mem _ hx)) h
        exact ⟨by rw [List.map_cons, List.map_cons, hhead, htail], hrest⟩
  exact hmany vs ws hlength hvs hws h

theorem refined_apart {c : Codec ε β} {parse : β → Except ε α} {fits : Nat → α → Bool}
    {hfits : ∀ n v, fits n v = true → c.fits n (unpack v) = true ∧ parse (c.norm (unpack v)) = .ok v}
    {ok : β → Prop} (hc : c.Apart ok) (hinj : ∀ v w, c.norm (unpack v) = c.norm (unpack w) → v = w)
    :
    (refined c unpack parse fits hfits).Apart (fun v => ok (unpack v)) := by
  intro v w rest rest' hv hw h
  obtain ⟨hnorm, hrest⟩ := hc _ _ _ _ hv hw h
  exact ⟨hinj v w hnorm, hrest⟩

end Codec

end DpuFabric.Lib
