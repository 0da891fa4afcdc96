/-
  Core.Resources — RESOURCE VECTORS AS NUMBERS WITHOUT A BOUND.

  `amount` reads a component as a natural number, so that demands can be
  summed without a word size.  The operations of the planner in these terms:

      covers_iff          — a comparison of amounts, component by component
      isZero_iff          — no amount of anything
      subtract_ok         — an exact difference; no component wraps
      headroom_ok         — the same for the free capacity
      headroom_exact_iff  — the share that stays free, where no product wraps
-/
import DpuFabric.Core.Bounded
import DpuFabric.Lib.Checked
import Mathlib.Order.Bounds.Basic

namespace DpuFabric

open Lib

/-- The components of a resource vector. -/
inductive Resource where
  | cpu | memory | network | crypto | storage
  deriving DecidableEq, Repr

namespace ResourceVector

/-- One component, as a number. -/
def amount (a : ResourceVector) : Resource → Nat
  | .cpu => a.cpuMillicores.toNat
  | .memory => a.memoryBytes.toNat
  | .network => a.networkBps.toNat
  | .crypto => a.cryptoOpsPerSec.toNat
  | .storage => a.storageBytes.toNat

variable {a b c : ResourceVector} {x : Resource}

/-! ## §1. Amounts. -/

theorem covers_iff : a.covers b = true ↔ ∀ x, b.amount x ≤ a.amount x := by
  simp only [covers, components, List.zip_cons_cons, List.zip_nil_right, List.all_cons,
    List.all_nil, Bool.and_true, Bool.and_eq_true, decide_eq_true_eq, UInt64.le_iff_toNat_le]
  constructor
  · intro h x
    cases x with
    | cpu => exact h.1
    | memory => exact h.2.1
    | network => exact h.2.2.1
    | crypto => exact h.2.2.2.1
    | storage => exact h.2.2.2.2
  · exact fun h => ⟨h .cpu, h .memory, h .network, h .crypto, h .storage⟩

theorem isZero_iff : a.isZero = true ↔ ∀ x, a.amount x = 0 := by
  simp only [isZero, components, List.all_cons, List.all_nil, Bool.and_true, Bool.and_eq_true,
    decide_eq_true_eq, ← UInt64.toNat_inj]
  constructor
  · intro h x
    cases x with
    | cpu => exact h.1
    | memory => exact h.2.1
    | network => exact h.2.2.1
    | crypto => exact h.2.2.2.1
    | storage => exact h.2.2.2.2
  · exact fun h => ⟨h .cpu, h .memory, h .network, h .crypto, h .storage⟩

theorem checkedSub_some {x y z : UInt64} (h : checkedSub x y = some z) :
    z.toNat + y.toNat = x.toNat := by
  unfold checkedSub at h
  split at h
  · next hle =>
    injection h with h
    rw [← h, UInt64.toNat_sub_of_le _ _ (UInt64.le_iff_toNat_le.mpr hle)]
    omega
  · simp at h

theorem combine_one {f : UInt64 → UInt64 → Option UInt64} {code : ReasonCode} {x y z : UInt64}
    {name : String} (h : (match f x y with
      | some z => (Except.ok z : Result UInt64)
      | none => .error (refuse code (txt name))) = .ok z) : f x y = some z := by
  split at h
  · next w hw =>
    injection h with h
    rw [hw, h]
  · simp at h

/-- **A difference is exact in every component.** -/
theorem subtract_ok (h : a.subtract b = .ok c) (x : Resource) :
    c.amount x + b.amount x = a.amount x := by
  unfold subtract combine at h
  simp only [bind_eq_ok, pure_eq_ok] at h
  obtain ⟨cpu, hcpu, memory, hmemory, network, hnetwork, crypto, hcrypto, storage, hstorage, rfl⟩ := h
  cases x with
  | cpu => exact checkedSub_some (combine_one hcpu)
  | memory => exact checkedSub_some (combine_one hmemory)
  | network => exact checkedSub_some (combine_one hnetwork)
  | crypto => exact checkedSub_some (combine_one hcrypto)
  | storage => exact checkedSub_some (combine_one hstorage)

theorem subtract_covered (h : a.covers b = true) : ∃ c, a.subtract b = .ok c := by
  have hle := covers_iff.mp h
  have hone : ∀ x y : UInt64, y.toNat ≤ x.toNat → checkedSub x y = some (x - y) :=
    fun x y hxy => by rw [checkedSub, if_pos hxy]
  unfold subtract combine
  dsimp only
  rw [hone _ _ (hle .cpu), hone _ _ (hle .memory), hone _ _ (hle .network), hone _ _ (hle .crypto),
    hone _ _ (hle .storage)]
  exact ⟨_, rfl⟩

theorem headroom_ok (h : a.headroom b = .ok c) (x : Resource) :
    c.amount x + b.amount x = a.amount x := by
  unfold headroom at h
  split at h
  · simp at h
  · exact subtract_ok h x

/-! ## §2. The headroom of a requirement. -/

/-- The free share of one component in thousandths, without a word size. -/
def permille (a b : ResourceVector) (x : Resource) : Nat :=
  1000 * (a.amount x - b.amount x) / a.amount x

/-- One component, as the code holds it. -/
def word (a : ResourceVector) : Resource → UInt64
  | .cpu => a.cpuMillicores
  | .memory => a.memoryBytes
  | .network => a.networkBps
  | .crypto => a.cryptoOpsPerSec
  | .storage => a.storageBytes

/-- The share, as the code computes it. -/
def ratio (a b : ResourceVector) (x : Resource) : UInt64 := (a.word x - b.word x) * 1000 / a.word x

/-- The least share of the components of which something is required. -/
def IsHeadroom (share : Resource → Nat) (b : ResourceVector) (n : Nat) : Prop :=
  IsLeast {q | ∃ x, 0 < b.amount x ∧ q = share x} n

theorem word_toNat (a : ResourceVector) (x : Resource) : (a.word x).toNat = a.amount x := by
  cases x <;> rfl

theorem word_ne_zero : b.word x ≠ 0 ↔ 0 < b.amount x := by
  rw [← word_toNat, Nat.pos_iff_ne_zero, ne_eq, ne_eq, ← UInt64.toNat_inj]
  rfl

theorem ratio_toNat (h : b.amount x ≤ a.amount x) :
    (a.ratio b x).toNat = 1000 * (a.amount x - b.amount x) % 2 ^ 64 / a.amount x := by
  rw [← word_toNat, ← word_toNat, ← UInt64.le_iff_toNat_le] at h
  rw [ratio, UInt64.toNat_div, UInt64.toNat_mul, UInt64.toNat_sub_of_le _ _ h, word_toNat,
    word_toNat, Nat.mul_comm]
  rfl

/-- One turn of the loop. -/
def turn (a b : ResourceVector) (worst : UInt64) (x : Resource) : UInt64 :=
  if b.word x = 0 then worst else if a.ratio b x < worst then a.ratio b x else worst

/-- The loop leaves the least of the shares and the value it starts with. -/
theorem foldl_turn (xs : List Resource) (worst : UInt64) :
    xs.foldl (turn a b) worst ≤ worst
      ∧ (∀ x ∈ xs, b.word x ≠ 0 → xs.foldl (turn a b) worst ≤ a.ratio b x)
      ∧ (xs.foldl (turn a b) worst = worst
        ∨ ∃ x ∈ xs, b.word x ≠ 0 ∧ xs.foldl (turn a b) worst = a.ratio b x) := by
  induction xs generalizing worst with
  | nil => simp
  | cons x xs ih =>
    have hnext := ih (turn a b worst x)
    simp only [List.foldl_cons, List.forall_mem_cons]
    generalize xs.foldl (turn a b) (turn a b worst x) = least at hnext ⊢
    unfold turn at hnext
    grind

/-- What the code answers: the least of its shares.  All of them are below the
thousand that the loop starts with. -/
theorem headroomPermille_least (hzero : b.isZero = false) (hcovers : a.covers b = true) :
    ∃ n, a.headroomPermille b = .ok n ∧ n.toNat ≤ 1000
      ∧ IsHeadroom (fun x => (a.ratio b x).toNat) b n.toNat := by
  have hle := covers_iff.mp hcovers
  have hworst : a.headroomPermille b = .ok ([Resource.cpu, .memory, .network, .crypto,
      .storage].foldl (turn a b) 1000).toUInt32 := by
    rw [headroomPermille, hzero, hcovers]
    rfl
  obtain ⟨hstart, hall, hsome⟩ := foldl_turn (a := a) (b := b)
    [Resource.cpu, .memory, .network, .crypto, .storage] 1000
  generalize List.foldl (turn a b) _ _ = worst at hworst hstart hall hsome
  have hstart : worst.toNat ≤ 1000 := UInt64.le_iff_toNat_le.mp hstart
  have hlower : ∀ x, 0 < b.amount x → worst.toNat ≤ (a.ratio b x).toNat := fun x hx =>
    UInt64.le_iff_toNat_le.mp (hall x (by cases x <;> decide) (word_ne_zero.mpr hx))
  refine ⟨_, hworst, ?_⟩
  rw [UInt64.toNat_toUInt32, Nat.mod_eq_of_lt (hstart.trans_lt (by decide))]
  refine ⟨hstart, ?_, fun q ⟨x, hx, hq⟩ => hq ▸ hlower x hx⟩
  rcases hsome with hsame | ⟨x, -, hx, hsame⟩
  · obtain ⟨x, hx⟩ : ∃ x, 0 < b.amount x := by
      by_contra hnone
      rw [isZero_iff.mpr fun x => Nat.eq_zero_of_not_pos fun hx => hnone ⟨x, hx⟩] at hzero
      simp at hzero
    have hlt : (a.ratio b x).toNat < 1000 := by
      have hx' := hle x
      rw [ratio_toNat hx']
      refine Nat.div_lt_of_lt_mul ((Nat.mod_le _ _).trans_lt ?_)
      omega
    have hless := (hlower x hx).trans_lt hlt
    rw [hsame] at hless
    exact absurd hless (lt_irrefl 1000)
  · exact ⟨x, word_ne_zero.mp hx, congrArg _ hsame⟩

/-- A product that leaves 64 bits gives a smaller share. -/
theorem ratio_lt (hle : b.amount x ≤ a.amount x)
    (h : 2 ^ 64 ≤ 1000 * (a.amount x - b.amount x)) : (a.ratio b x).toNat < a.permille b x := by
  have hword : a.amount x < 2 ^ 64 := word_toNat a x ▸ (a.word x).toNat_lt
  rw [ratio_toNat hle, permille, Nat.div_lt_iff_lt_mul (by omega)]
  have hdiv := Nat.lt_div_mul_add (a := 1000 * (a.amount x - b.amount x)) (b := a.amount x) (by omega)
  omega

/-- One unit of one resource. -/
def unit : Resource → ResourceVector
  | .cpu => { cpuMillicores := 1 }
  | .memory => { memoryBytes := 1 }
  | .network => { networkBps := 1 }
  | .crypto => { cryptoOpsPerSec := 1 }
  | .storage => { storageBytes := 1 }

theorem unit_amount (x y : Resource) : (unit x).amount y = if y = x then 1 else 0 := by
  cases x <;> cases y <;> rfl

/-- **The headroom against a limit is exact, whatever is required**, iff no
product can leave 64 bits.  It is then at most 1000, and never grows with the
requirement. -/
theorem headroom_exact_iff (l : ResourceVector) :
    (∀ r, r.isZero = false → l.covers r = true →
        ∃ n, l.headroomPermille r = .ok n ∧ IsHeadroom (l.permille r) r n.toNat ∧ n.toNat ≤ 1000
          ∧ ∀ r' n', (∀ x, r.amount x ≤ r'.amount x) → l.headroomPermille r' = .ok n' →
            n'.toNat ≤ n.toNat)
      ↔ ∀ x, 1000 * (l.amount x - 1) < 2 ^ 64 := by
  constructor
  · -- one unit of a resource with a limit too large
    intro hexact x
    by_contra hwraps
    have hle : ∀ y, (unit x).amount y ≤ l.amount y := fun y => by
      rw [unit_amount]
      split
      · next hy =>
        rw [hy]
        omega
      · exact Nat.zero_le _
    have hzero : (unit x).isZero = false := by cases x <;> decide
    obtain ⟨n, hn, ⟨⟨y, hy, hshare⟩, -⟩, -⟩ := hexact _ hzero (covers_iff.mpr hle)
    obtain ⟨n', hn', -, -, hlower⟩ := headroomPermille_least hzero (covers_iff.mpr hle)
    obtain rfl := Except.ok.inj (hn.symm.trans hn')
    obtain rfl : y = x := by
      by_contra hne
      rw [unit_amount, if_neg hne] at hy
      exact lt_irrefl 0 hy
    have hlt := ratio_lt (hle y) (by rw [unit_amount, if_pos rfl]; exact not_lt.mp hwraps)
    exact absurd (hlower ⟨y, hy, rfl⟩) (not_le.mpr (hshare ▸ hlt))
  · intro hbound
    have hexact : ∀ r : ResourceVector, r.isZero = false → l.covers r = true →
        ∃ n, l.headroomPermille r = .ok n ∧ n.toNat ≤ 1000
          ∧ IsHeadroom (l.permille r) r n.toNat := by
      intro r hzero hcovers
      have hle := covers_iff.mp hcovers
      obtain ⟨n, hn, hmax, ⟨x, hx, hat⟩, hlower⟩ := headroomPermille_least hzero hcovers
      have hsame : ∀ x, 0 < r.amount x → (l.ratio r x).toNat = l.permille r x := by
        intro x hx
        have hx' := hbound x
        rw [ratio_toNat (hle x), Nat.mod_eq_of_lt (by omega)]
        rfl
      refine ⟨n, hn, hmax, ⟨x, hx, hat.trans (hsame x hx)⟩, fun q ⟨y, hy, hq⟩ => ?_⟩
      exact hlower ⟨y, hy, hq.trans (hsame y hy).symm⟩
    intro r hzero hcovers
    obtain ⟨n, hn, hmax, hleast⟩ := hexact r hzero hcovers
    refine ⟨n, hn, hleast, hmax, fun r' n' hgrows hn' => ?_⟩
    have hchecked : r'.isZero = false ∧ l.covers r' = true := by
      unfold headroomPermille at hn'
      split at hn'
      · simp at hn'
      split at hn'
      · simp at hn'
      · simp_all
    obtain ⟨m, hm, -, -, hlower⟩ := hexact r' hchecked.1 hchecked.2
    obtain rfl := Except.ok.inj (hn'.symm.trans hm)
    obtain ⟨⟨x, hx, hat⟩, -⟩ := hleast
    calc n'.toNat ≤ l.permille r' x := hlower ⟨x, hx.trans_le (hgrows x), rfl⟩
      _ ≤ l.permille r x := Nat.div_le_div_right
          (Nat.mul_le_mul_left _ (Nat.sub_le_sub_left (hgrows x) _))
      _ = n.toNat := hat.symm

/-- Almost all is free, and the answer is that nothing is. -/
theorem headroom_wraps :
    headroomPermille { cpuMillicores := 18446744073709551615 } { cpuMillicores := 1 } = .ok 0
      ∧ ¬ IsHeadroom (permille { cpuMillicores := 18446744073709551615 } { cpuMillicores := 1 })
        { cpuMillicores := 1 } 0 := by
  refine ⟨rfl, ?_⟩
  rintro ⟨⟨x, hx, hzero⟩, -⟩
  cases x with
  | cpu => simp [permille, amount] at hzero
  | _ => simp [amount] at hx

end ResourceVector

end DpuFabric
