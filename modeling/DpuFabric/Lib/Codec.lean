/-
  Lib.Codec — PREFIX CODECS THAT CARRY THEIR OWN ROUND-TRIP LAW.

  A `Codec ε α` is a writer, a reader that consumes a prefix of its input, a
  decidable predicate `fits` (the values the reader accepts back under a
  given sequence limit) and `norm` (what comes back: the value itself, or the
  value without the parts that are not written).  The law

      fits n v  →  read n (write v ++ rest) = ok (norm v, rest)

  is a FIELD, so a description that does not read back what it writes cannot
  be built, and every composite inherits the law from its parts:

      pair, iso      — products and records
      guarded        — a fixed prefix that the reader insists on
      dependent      — a length or an index that says how to go on
      repeated       — a counted sequence

  The converse of the law is `ExactAt`: the reader takes a written value back
  ONLY if it fits.  It holds value by value, and composites inherit it the
  same way.  `FaithfulAt` asks the same of a read that gives the written part
  of the value, whatever the value is.
-/
import DpuFabric.Lib.Checked
import Mathlib.Algebra.GroupWithZero.Nat

namespace DpuFabric.Lib

variable {k n v : Nat}

variable {ε α β γ : Type}

/-- A writer and a reader of one type, with their law. -/
structure Codec (ε α : Type) where
  write : α → List UInt8
  read : Nat → List UInt8 → Except ε (α × List UInt8)
  fits : Nat → α → Bool
  norm : α → α
  law : ∀ n v rest, fits n v = true → read n (write v ++ rest) = .ok (norm v, rest)

namespace Codec

/-! ## §1. Products and records. -/

/-- Two values, one after the other. -/
def pair (c : Codec ε α) (d : Codec ε β) : Codec ε (α × β) where
  write v := c.write v.1 ++ d.write v.2
  read n bytes := do
    let (a, bytes) ← c.read n bytes
    let (b, bytes) ← d.read n bytes
    return ((a, b), bytes)
  fits n v := c.fits n v.1 && d.fits n v.2
  norm v := (c.norm v.1, d.norm v.2)
  law n v rest h := by
    simp only [Bool.and_eq_true] at h
    simp only [List.append_assoc, c.law n v.1 _ h.1, d.law n v.2 _ h.2, bind, Except.bind,
      pure, Except.pure]

/-- The same bytes, read as another type. -/
def iso (c : Codec ε β) (unpack : α → β) (pack : β → α) : Codec ε α where
  write v := c.write (unpack v)
  read n bytes := do
    let (b, bytes) ← c.read n bytes
    return (pack b, bytes)
  fits n v := c.fits n (unpack v)
  norm v := pack (c.norm (unpack v))
  law n v rest h := by
    simp only [c.law n (unpack v) rest h, bind, Except.bind, pure, Except.pure]

/-! ## §2. Raw bytes. -/

/-- Take `k` bytes off the input, or fail with `e`. -/
def takeBytes (e : ε) (k : Nat) (bytes : List UInt8) : Except ε (List UInt8 × List UInt8) :=
  if bytes.length < k then .error e else .ok (bytes.take k, bytes.drop k)

theorem takeBytes_append (e : ε) {a : List UInt8} (h : a.length = k) (rest : List UInt8) :
    takeBytes e k (a ++ rest) = .ok (a, rest) := by
  subst h
  simp [takeBytes]

/-- Little-endian bytes of a number, `k` of them. -/
def leBytes : Nat → Nat → List UInt8
  | 0, _ => []
  | k + 1, v => UInt8.ofNat (v % 256) :: leBytes k (v / 256)

/-- The number that little-endian bytes spell. -/
def leValue : List UInt8 → Nat
  | [] => 0
  | b :: bs => b.toNat + 256 * leValue bs

@[simp] theorem leBytes_length (k v : Nat) : (leBytes k v).length = k := by
  induction k generalizing v with
  | zero => rfl
  | succ k ih => simp [leBytes, ih]

theorem leValue_leBytes_mod (k v : Nat) : leValue (leBytes k v) = v % 256 ^ k := by
  induction k generalizing v with
  | zero => simp [leBytes, leValue, Nat.mod_one]
  | succ k ih =>
    have hmod : (UInt8.ofNat (v % 256)).toNat = v % 256 := by
      simp [UInt8.toNat_ofNat']
    simp only [leBytes, leValue, ih, hmod, Nat.pow_succ, Nat.mul_comm (256 ^ k) 256,
      Nat.mod_mul]

theorem leValue_leBytes (h : v < 256 ^ k) : leValue (leBytes k v) = v := by
  rw [leValue_leBytes_mod, Nat.mod_eq_of_lt h]

theorem leBytes_mod (k v : Nat) : leBytes k (v % 256 ^ k) = leBytes k v := by
  induction k generalizing v with
  | zero => rfl
  | succ k ih =>
    have hlow : v % 256 ^ (k + 1) % 256 = v % 256 := by
      rw [Nat.pow_succ, Nat.mod_mul_left_mod]
    have hhigh : v % 256 ^ (k + 1) / 256 = v / 256 % 256 ^ k := by
      rw [Nat.pow_succ, Nat.mul_comm, Nat.mod_mul_right_div_self]
    simp only [leBytes, hlow, hhigh, ih]

theorem leValue_lt (bytes : List UInt8) : leValue bytes < 256 ^ bytes.length := by
  induction bytes with
  | nil => exact Nat.one_pos
  | cons b bytes ih =>
    have hb := b.toNat_lt
    rw [leValue, List.length_cons, Nat.pow_succ]
    omega

/-- A fixed-width little-endian number, checked after it was read. -/
def number (k : Nat) (truncated : ε) (check : Nat → Option ε) : Codec ε Nat where
  write v := leBytes k v
  read _ bytes := do
    let (raw, bytes) ← takeBytes truncated k bytes
    match check (leValue raw) with
    | some e => .error e
    | none => return (leValue raw, bytes)
  fits _ v := decide (v < 256 ^ k) && (check v).isNone
  norm v := v
  law n v rest h := by
    simp only [Bool.and_eq_true, decide_eq_true_eq, Option.isNone_iff_eq_none] at h
    simp only [takeBytes_append truncated (leBytes_length k v), bind, Except.bind,
      leValue_leBytes h.1, h.2, pure, Except.pure]

/-- Exactly `k` raw bytes. -/
def raw (k : Nat) (truncated : ε) : Codec ε (List UInt8) where
  write v := v
  read _ bytes := takeBytes truncated k bytes
  fits _ v := decide (v.length = k)
  norm v := v
  law n v rest h := takeBytes_append truncated (by simpa using h) rest

/-! ## §3. Guards, dependent parts and sequences. -/

/-- A first value that the reader compares with what it expects. -/
def guarded (c : Codec ε α) (v₀ : α) (check : α → Option ε) (d : Codec ε β)
    (hv : ∀ n, c.fits n v₀ = true) (hc : check (c.norm v₀) = none) : Codec ε β where
  write v := c.write v₀ ++ d.write v
  read n bytes := do
    let (a, bytes) ← c.read n bytes
    match check a with
    | some e => .error e
    | none => d.read n bytes
  fits n v := d.fits n v
  norm := d.norm
  law n v rest h := by
    simp only [List.append_assoc, c.law n v₀ _ (hv n), bind, Except.bind, hc,
      d.law n v rest h]

/-- A header computed from the value says how to read the rest.  `check` sees
the sequence limit and the header; the bytes after the header do not depend
on it. -/
def dependent (c : Codec ε γ) (header : α → γ) (check : Nat → γ → Option ε)
    (body : γ → Codec ε α) (hw : ∀ g g', (body g).write = (body g').write) : Codec ε α where
  write v := c.write (header v) ++ (body (header v)).write v
  read n bytes := do
    let (g, bytes) ← c.read n bytes
    match check n g with
    | some e => .error e
    | none => (body g).read n bytes
  fits n v := c.fits n (header v) && (check n (c.norm (header v))).isNone
    && (body (c.norm (header v))).fits n v
  norm v := (body (c.norm (header v))).norm v
  law n v rest h := by
    simp only [Bool.and_eq_true, Option.isNone_iff_eq_none] at h
    obtain ⟨⟨h1, h2⟩, h3⟩ := h
    simp only [List.append_assoc, c.law n (header v) _ h1, bind, Except.bind, h2,
      hw (header v) (c.norm (header v)), (body (c.norm (header v))).law n v rest h3]

/-- Reads `k` elements. -/
def readMany (c : Codec ε α) (n : Nat) : Nat → List UInt8 → Except ε (List α × List UInt8)
  | 0, bytes => .ok ([], bytes)
  | k + 1, bytes => do
      let (a, bytes) ← c.read n bytes
      let (as, bytes) ← readMany c n k bytes
      return (a :: as, bytes)

theorem readMany_write (c : Codec ε α) (n : Nat) (vs : List α) (rest : List UInt8)
    (h : vs.all (c.fits n) = true) :
    readMany c n vs.length (vs.flatMap c.write ++ rest) = .ok (vs.map c.norm, rest) := by
  induction vs with
  | nil => rfl
  | cons v vs ih =>
    simp only [List.all_cons, Bool.and_eq_true] at h
    simp only [List.length_cons, readMany, List.flatMap_cons, List.append_assoc,
      c.law n v _ h.1, bind, Except.bind, ih h.2, pure, Except.pure, List.map_cons]

/-- Exactly `k` elements, one after the other. -/
def repeated (c : Codec ε α) (k : Nat) : Codec ε (List α) where
  write vs := vs.flatMap c.write
  read n bytes := readMany c n k bytes
  fits n vs := decide (vs.length = k) && vs.all (c.fits n)
  norm vs := vs.map c.norm
  law n vs rest h := by
    simp only [Bool.and_eq_true, decide_eq_true_eq] at h
    rw [← h.1]
    exact readMany_write c n vs rest h.2

/-! ## §4. Refinements. -/

/-- The reader checks the value and builds the refined one. -/
def refined (c : Codec ε β) (unpack : α → β) (parse : β → Except ε α) (fits : Nat → α → Bool)
    (h : ∀ n v, fits n v = true →
      c.fits n (unpack v) = true ∧ parse (c.norm (unpack v)) = .ok v) : Codec ε α where
  write v := c.write (unpack v)
  read n bytes := do
    let (b, bytes) ← c.read n bytes
    let a ← parse b
    return (a, bytes)
  fits := fits
  norm v := v
  law n v rest hv := by
    obtain ⟨h1, h2⟩ := h n v hv
    simp only [c.law n (unpack v) rest h1, bind, Except.bind, h2, pure, Except.pure]

/-! ## §5. What fits. -/

variable {truncated : ε} {body : γ → Codec ε α} {check : Nat → γ → Option ε} {header : α → γ}
  {c : Codec ε α} {vs : List α} {d : Codec ε β} {unpack : α → β}
  {hw : ∀ g g', (body g).write = (body g').write}

theorem number_fits_iff {check : Nat → Option ε} :
    (number k truncated check).fits n v = true ↔ v < 256 ^ k ∧ check v = none := by
  simp [number]

theorem raw_fits_iff {v : List UInt8} :
    (raw k truncated).fits n v = true ↔ v.length = k := by
  simp [raw]

theorem dependent_fits_iff {c : Codec ε γ} {v : α} :
    (dependent c header check body hw).fits n v = true
      ↔ c.fits n (header v) = true ∧ check n (c.norm (header v)) = none
        ∧ (body (c.norm (header v))).fits n v = true := by
  simp only [dependent, Bool.and_eq_true, Option.isNone_iff_eq_none, and_assoc]

theorem repeated_fits_iff :
    (repeated c k).fits n vs = true ↔ vs.length = k ∧ ∀ v ∈ vs, c.fits n v = true := by
  simp [repeated]

/-! ## §6. Exactness. -/

/-- What is written of `v` is read back only if `v` fits. -/
def ExactAt (c : Codec ε α) (v : α) : Prop :=
  ∀ n rest r, c.read n (c.write v ++ rest) = .ok r → c.fits n v = true

theorem pair_exactAt {v : α × β} (hc : c.ExactAt v.1) (hd : d.ExactAt v.2) :
    (c.pair d).ExactAt v := by
  intro n rest r h
  simp only [pair, List.append_assoc, bind_eq_ok, Prod.exists] at h
  obtain ⟨a, bytes, hfirst, h⟩ := h
  have hfits := hc n _ _ hfirst
  rw [c.law n v.1 _ hfits] at hfirst
  cases hfirst
  obtain ⟨b, bytes', hsecond, -⟩ := h
  simp only [pair, hfits, hd n _ _ hsecond, Bool.and_self]

theorem iso_exactAt {c : Codec ε β} {pack : β → α} {v : α} (hc : c.ExactAt (unpack v)) :
    (c.iso unpack pack).ExactAt v := by
  intro n rest r h
  simp only [iso, bind_eq_ok, Prod.exists] at h
  obtain ⟨b, bytes, hread, -⟩ := h
  exact hc n _ _ hread

theorem number_exactAt {check : Nat → Option ε} (hv : v < 256 ^ k) :
    (number k truncated check).ExactAt v := by
  intro n rest r h
  simp only [number, takeBytes_append truncated (leBytes_length k v), bind_eq_ok, Prod.exists] at h
  obtain ⟨raw, bytes, hraw, h⟩ := h
  cases hraw
  rw [leValue_leBytes hv] at h
  cases hcheck : check v with
  | some e => rw [hcheck] at h; exact absurd h (by simp)
  | none => simp [number, hv, hcheck]

theorem raw_exactAt {v : List UInt8} (hv : v.length = k) :
    (raw k truncated : Codec ε (List UInt8)).ExactAt v :=
  fun _ _ _ _ => decide_eq_true hv

theorem guarded_exactAt {v₀ : α} {check : α → Option ε} {hv : ∀ n, c.fits n v₀ = true}
    {hc : check (c.norm v₀) = none} {v : β} (hd : d.ExactAt v) :
    (guarded c v₀ check d hv hc).ExactAt v := by
  intro n rest r h
  simp only [guarded, List.append_assoc, c.law n v₀ _ (hv n), bind, Except.bind, hc] at h
  exact hd n _ _ h

theorem dependent_exactAt {c : Codec ε γ} {v : α} (hc : c.ExactAt (header v))
    (hbody : (body (c.norm (header v))).ExactAt v) :
    (dependent c header check body hw).ExactAt v := by
  intro n rest r h
  simp only [dependent, List.append_assoc, bind_eq_ok, Prod.exists] at h
  obtain ⟨g, bytes, hheader, h⟩ := h
  have hfits := hc n _ _ hheader
  rw [c.law n (header v) _ hfits] at hheader
  cases hheader
  cases hcheck : check n (c.norm (header v)) with
  | some e => rw [hcheck] at h; exact absurd h (by simp)
  | none =>
    rw [hcheck] at h
    simp only [hw (header v) (c.norm (header v))] at h
    simp only [dependent, hfits, hcheck, hbody n _ _ h, Option.isNone_none, Bool.and_self]

theorem readMany_exact {rest : List UInt8} {r : List α × List UInt8} (hc : ∀ v ∈ vs, c.ExactAt v)
    (h : readMany c n vs.length (vs.flatMap c.write ++ rest) = .ok r) :
    vs.all (c.fits n) = true := by
  induction vs generalizing r with
  | nil => rfl
  | cons v vs ih =>
    simp only [List.length_cons, readMany, List.flatMap_cons, List.append_assoc, bind_eq_ok,
      Prod.exists] at h
    obtain ⟨a, bytes, hhead, h⟩ := h
    have hfits := hc v (by simp) n _ _ hhead
    rw [c.law n v _ hfits] at hhead
    cases hhead
    obtain ⟨as, bytes', htail, -⟩ := h
    simp only [List.all_cons, hfits, Bool.true_and]
    exact ih (fun w hw => hc w (by simp [hw])) htail

theorem repeated_exactAt (hk : vs.length = k) (hc : ∀ v ∈ vs, c.ExactAt v) :
    (repeated c k).ExactAt vs := by
  subst hk
  intro n rest r h
  have hall : vs.all (c.fits n) = true := readMany_exact hc h
  simp only [repeated, hall, decide_true, Bool.and_self]

theorem refined_exactAt {c : Codec ε β} {parse : β → Except ε α} {fits : Nat → α → Bool}
    {hfits : ∀ n v, fits n v = true → c.fits n (unpack v) = true ∧ parse (c.norm (unpack v)) = .ok v}
    {v : α} (hv : ∀ n, c.fits n (unpack v) = true → fits n v = true) (hc : c.ExactAt (unpack v)) :
    (refined c unpack parse fits hfits).ExactAt v := by
  intro n rest r h
  simp only [refined, bind_eq_ok, Prod.exists] at h
  obtain ⟨b, bytes, hread, -⟩ := h
  exact hv n (hc n _ _ hread)

/-! ## §7. Faithfulness. -/

/-- What is written of `v` gives the written part of `v` again only if `v`
fits.  Unlike exactness this also holds of a value whose count or length was
cut on the way out, as the reader then finds fewer elements. -/
def FaithfulAt (c : Codec ε α) (v : α) : Prop :=
  ∀ n rest r, c.read n (c.write v ++ rest) = .ok (c.norm v, r) → c.fits n v = true

theorem ExactAt.faithfulAt {v : α} (h : c.ExactAt v) : c.FaithfulAt v :=
  fun n rest _ hread => h n rest _ hread

theorem pair_faithfulAt {v : α × β} (hc : c.FaithfulAt v.1) (hd : d.FaithfulAt v.2) :
    (c.pair d).FaithfulAt v := by
  intro n rest r h
  simp only [pair, List.append_assoc, bind_eq_ok, Prod.exists] at h
  obtain ⟨a, bytes, hfirst, b, bytes', hsecond, h⟩ := h
  cases h
  have hfits := hc n _ _ hfirst
  rw [c.law n v.1 _ hfits] at hfirst
  cases hfirst
  simp only [pair, hfits, hd n _ _ hsecond, Bool.and_self]

theorem iso_faithfulAt {c : Codec ε β} {pack : β → α} {v : α} (hpack : Function.Injective pack)
    (hc : c.FaithfulAt (unpack v)) :
    (c.iso unpack pack).FaithfulAt v := by
  intro n rest r h
  simp only [iso, bind_eq_ok, Prod.exists] at h
  obtain ⟨b, bytes, hread, h⟩ := h
  have hb : pack b = pack (c.norm (unpack v)) := congrArg Prod.fst (Except.ok.inj h)
  rw [hpack hb] at hread
  exact hc n _ _ hread

theorem raw_faithfulAt {v : List UInt8} :
    (raw k truncated : Codec ε (List UInt8)).FaithfulAt v := by
  intro n rest r h
  have htake : takeBytes truncated k (v ++ rest) = .ok (v, r) := h
  unfold takeBytes at htake
  split at htake
  · simp at htake
  rename_i hlong
  have hv : (v ++ rest).take k = v := congrArg Prod.fst (Except.ok.inj htake)
  have hlength := congrArg List.length hv
  rw [List.length_take] at hlength
  exact decide_eq_true (by omega)

theorem guarded_faithfulAt {v₀ : α} {check : α → Option ε} {hv : ∀ n, c.fits n v₀ = true}
    {hc : check (c.norm v₀) = none} {v : β} (hd : d.FaithfulAt v) :
    (guarded c v₀ check d hv hc).FaithfulAt v := by
  intro n rest r h
  simp only [guarded, List.append_assoc, c.law n v₀ _ (hv n), bind, Except.bind, hc] at h
  exact hd n _ _ h

theorem dependent_faithfulAt {c : Codec ε γ} {v : α} (hc : c.ExactAt (header v))
    (hbody : (body (c.norm (header v))).FaithfulAt v) :
    (dependent c header check body hw).FaithfulAt v := by
  intro n rest r h
  simp only [dependent, List.append_assoc, bind_eq_ok, Prod.exists] at h
  obtain ⟨g, bytes, hheader, h⟩ := h
  have hfits := hc n _ _ hheader
  rw [c.law n (header v) _ hfits] at hheader
  cases hheader
  cases hcheck : check n (c.norm (header v)) with
  | some e => rw [hcheck] at h; exact absurd h (by simp)
  | none =>
    rw [hcheck] at h
    simp only [hw (header v) (c.norm (header v))] at h
    simp only [dependent, hfits, hcheck, hbody n _ _ h, Option.isNone_none, Bool.and_self]

theorem readMany_length {bytes : List UInt8} {r : List α × List UInt8}
    (h : readMany c n k bytes = .ok r) : r.1.length = k := by
  induction k generalizing bytes r with
  | zero => cases h; rfl
  | succ k ih =>
    simp only [readMany, bind_eq_ok, Prod.exists] at h
    obtain ⟨a, bytes', -, as, bytes'', htail, h⟩ := h
    cases h
    rw [List.length_cons, ih htail]

theorem readMany_faithful {rest r : List UInt8} (hc : ∀ v ∈ vs, c.FaithfulAt v)
    (h : readMany c n vs.length (vs.flatMap c.write ++ rest) = .ok (vs.map c.norm, r)) :
    vs.all (c.fits n) = true := by
  induction vs generalizing r with
  | nil => rfl
  | cons v vs ih =>
    simp only [List.length_cons, readMany, List.flatMap_cons, List.append_assoc, bind_eq_ok,
      Prod.exists] at h
    obtain ⟨a, bytes, hhead, as, bytes', htail, h⟩ := h
    cases h
    have hfits := hc v (by simp) n _ _ hhead
    rw [c.law n v _ hfits] at hhead
    cases hhead
    simp only [List.all_cons, hfits, Bool.true_and]
    exact ih (fun w hw => hc w (by simp [hw])) htail

theorem repeated_faithfulAt (hc : ∀ v ∈ vs, c.FaithfulAt v) :
    (repeated c k).FaithfulAt vs := by
  intro n rest r h
  have hread : readMany c n k (vs.flatMap c.write ++ rest) = .ok (vs.map c.norm, r) := h
  obtain rfl : vs.length = k := by simpa using readMany_length hread
  have hall : vs.all (c.fits n) = true := readMany_faithful hc hread
  simp only [repeated, hall, decide_true, Bool.and_self]

end Codec

end DpuFabric.Lib
