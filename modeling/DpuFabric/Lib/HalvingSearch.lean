/-
  Lib.HalvingSearch — HALVING SEARCH OVER A LIST, AND THE SORTED TABLES IT IS MEANT FOR.

  `lowerBound` is the halving search of the standard library: it only ever
  LOOKS at the probed midpoints, so on a list that is not partitioned by the
  predicate it still returns a position — just not a meaningful one.

  A table is a list of entries with a key; `SortedBy key xs` says the keys
  are strictly increasing (hence unique).
-/
import Mathlib.Data.List.Sort
import Mathlib.Order.Basic

namespace DpuFabric.Lib

variable {α : Type*} {κ : Type*}

/-! ## §1. The search loop. -/

/-- The halving loop on the window that starts at `first` and has `len`
entries.  The window at least halves with every probe, so `len` itself is
enough fuel. -/
def lowerBoundLoop (less : α → Bool) (xs : List α) : Nat → Nat → Nat → Nat
  | 0, first, _ => first
  | fuel + 1, first, len =>
    if len = 0 then first
    else
      match xs[first + len / 2]? with
      | some x =>
        if less x then
          lowerBoundLoop less xs fuel (first + len / 2 + 1) (len - len / 2 - 1)
        else lowerBoundLoop less xs fuel first (len / 2)
      | none => first

/-- First position at which `less` fails, found by halving. -/
def lowerBound (less : α → Bool) (xs : List α) : Nat :=
  lowerBoundLoop less xs xs.length 0 xs.length

theorem lowerBoundLoop_le (less : α → Bool) (xs : List α) :
    ∀ fuel first len, lowerBoundLoop less xs fuel first len ≤ first + len
  | 0, first, len => by simp only [lowerBoundLoop]; omega
  | fuel + 1, first, len => by
      simp only [lowerBoundLoop]
      split
      · omega
      split
      · split
        · have := lowerBoundLoop_le less xs fuel (first + len / 2 + 1) (len - len / 2 - 1)
          omega
        · have := lowerBoundLoop_le less xs fuel first (len / 2)
          omega
      · omega

theorem lowerBound_le_length (less : α → Bool) (xs : List α) : lowerBound less xs ≤ xs.length := by
  have := lowerBoundLoop_le less xs xs.length 0 xs.length
  simpa [lowerBound] using this

theorem lowerBoundLoop_map {β : Type*} (less : β → Bool) (f : α → β) (xs : List α) :
    ∀ fuel first len, lowerBoundLoop less (xs.map f) fuel first len
      = lowerBoundLoop (fun x => less (f x)) xs fuel first len
  | 0, _, _ => rfl
  | fuel + 1, first, len => by
      simp only [lowerBoundLoop, List.getElem?_map]
      cases xs[first + len / 2]? with
      | none => rfl
      | some x => simp only [Option.map_some, lowerBoundLoop_map less f xs fuel]

theorem lowerBound_map {β : Type*} (less : β → Bool) (f : α → β) (xs : List α) :
    lowerBound less (xs.map f) = lowerBound (fun x => less (f x)) xs := by
  simp only [lowerBound, List.length_map, lowerBoundLoop_map]

/-! ## §2. Correctness on a partitioned list. -/

/-- Every entry that satisfies `less` comes before every entry that does not. -/
def PartitionedBy (less : α → Bool) (xs : List α) : Prop :=
  xs.Pairwise (fun x y => less y = true → less x = true)

variable {less : α → Bool}

theorem PartitionedBy.less_iff {xs : List α} (h : PartitionedBy less xs) {i : Nat} {x : α}
    (hx : xs[i]? = some x) : less x = true ↔ i < (xs.takeWhile less).length := by
  induction xs generalizing i with
  | nil => simp at hx
  | cons y ys ih =>
    rw [PartitionedBy, List.pairwise_cons] at h
    cases i with
    | zero =>
      simp only [List.getElem?_cons_zero, Option.some.injEq] at hx
      subst hx
      by_cases hy : less y = true <;> simp [hy]
    | succ i =>
      simp only [List.getElem?_cons_succ] at hx
      have hmem : x ∈ ys := List.mem_of_getElem? hx
      by_cases hy : less y = true
      · simpa [List.takeWhile_cons, hy] using ih h.2 hx
      · have : ¬ less x = true := fun hlx => hy (h.1 x hmem hlx)
        simp [hy, this]

theorem lowerBoundLoop_eq {xs : List α} (h : PartitionedBy less xs) :
    ∀ fuel first len, len ≤ fuel → first ≤ (xs.takeWhile less).length →
      (xs.takeWhile less).length ≤ first + len → first + len ≤ xs.length →
      lowerBoundLoop less xs fuel first len = (xs.takeWhile less).length
  | 0, first, len, hf, hlo, hhi, _ => by
      simp only [lowerBoundLoop]; omega
  | fuel + 1, first, len, hf, hlo, hhi, hlen => by
      simp only [lowerBoundLoop]
      split
      · omega
      have hmid : first + len / 2 < xs.length := by omega
      have hget : xs[first + len / 2]? = some xs[first + len / 2] :=
        List.getElem?_eq_getElem hmid
      simp only [hget]
      have hiff := h.less_iff hget
      split
      · next hl =>
        have := hiff.mp hl
        exact lowerBoundLoop_eq h fuel _ _ (by omega) (by omega) (by omega) (by omega)
      · next hl =>
        have : ¬ first + len / 2 < (xs.takeWhile less).length := fun hlt => hl (hiff.mpr hlt)
        exact lowerBoundLoop_eq h fuel _ _ (by omega) (by omega) (by omega) (by omega)

/-- **On a partitioned list the search is exact.** -/
theorem lowerBound_eq_takeWhile {xs : List α} (h : PartitionedBy less xs) :
    lowerBound less xs = (xs.takeWhile less).length :=
  lowerBoundLoop_eq h _ _ _ (Nat.le_refl _) (Nat.zero_le _)
    (by simpa using (List.takeWhile_prefix less).length_le) (by simp)

/-! ## §3. Tables with strictly increasing keys. -/

/-- The keys are strictly increasing, so they are also unique. -/
def SortedBy [LT κ] (key : α → κ) (xs : List α) : Prop :=
  xs.Pairwise (fun x y => key x < key y)

instance [LT κ] [DecidableLT κ] (key : α → κ) (xs : List α) :
    Decidable (SortedBy key xs) :=
  inferInstanceAs (Decidable (xs.Pairwise _))

section Sorted

variable [LinearOrder κ] {key : α → κ}

/-- Position of the entry with key `k`, as the halving search sees it. -/
def findKey (key : α → κ) (xs : List α) (k : κ) : Option Nat :=
  match xs[lowerBound (fun x => decide (key x < k)) xs]? with
  | some x => if key x = k then some (lowerBound (fun x => decide (key x < k)) xs) else none
  | none => none

variable {i : Nat} {k : κ} {xs : List α} {x y : α}

/-- What is found carries the key — on ANY list, sorted or not. -/
theorem findKey_some (h : findKey key xs k = some i) :
    ∃ x, xs[i]? = some x ∧ key x = k := by
  simp only [findKey] at h
  split at h
  · next x hx =>
    split at h
    · next hk =>
      injection h with h
      subst h
      exact ⟨x, hx, hk⟩
    · simp at h
  · simp at h

/-- Looking a key up in a table is looking it up in the list of its keys. -/
theorem findKey_map (xs : List α) (k : κ) :
    findKey (fun x => x) (xs.map key) k = findKey key xs k := by
  simp only [findKey, lowerBound_map, List.getElem?_map]
  cases xs[lowerBound (fun x => decide (key x < k)) xs]? with
  | none => rfl
  | some x => rfl

theorem SortedBy.partitioned (h : SortedBy key xs) (k : κ) :
    PartitionedBy (fun x => decide (key x < k)) xs := by
  refine List.Pairwise.imp ?_ h
  intro x y hxy hy
  simp only [decide_eq_true_eq] at hy ⊢
  exact lt_trans hxy hy

theorem SortedBy.lt_of_getElem? (h : SortedBy key xs) {j : Nat} (hx : xs[i]? = some x)
    (hy : xs[j]? = some y) (hij : i < j) : key x < key y := by
  obtain ⟨hi, rfl⟩ := List.getElem?_eq_some_iff.mp hx
  obtain ⟨hj, rfl⟩ := List.getElem?_eq_some_iff.mp hy
  exact List.pairwise_iff_getElem.mp h i j hi hj hij

/-- **On a sorted table the search finds exactly the entry with the key.** -/
theorem SortedBy.findKey_eq_some_iff (h : SortedBy key xs) :
    findKey key xs k = some i ↔ ∃ x, xs[i]? = some x ∧ key x = k := by
  refine ⟨findKey_some, ?_⟩
  rintro ⟨x, hx, hk⟩
  have hpart := h.partitioned k
  -- the boundary is at most `i` (the entry at `i` is not below `k`) and not
  -- before `i` (everything before `i` is strictly below `k`)
  have hpos : lowerBound (fun x => decide (key x < k)) xs = i := by
    rw [lowerBound_eq_takeWhile hpart]
    apply le_antisymm
    · by_contra hlt
      have := (hpart.less_iff hx).mpr (by omega)
      simp [hk] at this
    · by_contra hlt
      have hlt' : (xs.takeWhile (fun x => decide (key x < k))).length < i := by omega
      obtain ⟨hi, rfl⟩ := List.getElem?_eq_some_iff.mp hx
      have hget := List.getElem?_eq_getElem (lt_trans hlt' hi)
      have hlow := h.lt_of_getElem? hget hx hlt'
      have := (hpart.less_iff hget).mp (by simpa [hk] using hlow)
      omega
  simp only [findKey, hpos, hx, hk, if_pos]

theorem SortedBy.findKey_eq_none_iff (h : SortedBy key xs) :
    findKey key xs k = none ↔ ∀ x ∈ xs, key x ≠ k := by
  constructor
  · intro hnone x hx hk
    obtain ⟨i, hi⟩ := List.mem_iff_getElem?.mp hx
    have := h.findKey_eq_some_iff.mpr ⟨x, hi, hk⟩
    exact absurd (hnone.symm.trans this) (by simp)
  · intro hall
    cases hf : findKey key xs k with
    | none => rfl
    | some i =>
      obtain ⟨x, hx, hk⟩ := findKey_some hf
      exact absurd hk (hall x (List.mem_of_getElem? hx))

theorem sortedBy_iff_map : SortedBy key xs ↔ (xs.map key).Pairwise (· < ·) :=
  List.pairwise_map.symm

/-- Replacing an entry by one with the same key keeps a table sorted. -/
theorem SortedBy.set (h : SortedBy key xs) (hx : xs[i]? = some x) (hk : key y = key x) :
    SortedBy key (xs.set i y) := by
  obtain ⟨hi, rfl⟩ := List.getElem?_eq_some_iff.mp hx
  have hmap : (xs.set i y).map key = xs.map key := by
    rw [List.map_set, hk]
    apply List.ext_getElem?
    intro j
    by_cases hij : i = j
    · subst hij; simp [hi]
    · simp [List.getElem?_set_ne hij]
  rw [sortedBy_iff_map, hmap, ← sortedBy_iff_map]
  exact h

theorem SortedBy.nodup (h : SortedBy key xs) : (xs.map key).Nodup :=
  List.Pairwise.imp (fun hlt => ne_of_lt hlt) (sortedBy_iff_map.mp h)

/-- Sorting makes a table strictly sorted exactly if no key is repeated. -/
theorem sortedBy_insertionSort_iff :
    SortedBy key (xs.insertionSort (fun a b => key a ≤ key b)) ↔ (xs.map key).Nodup := by
  have hperm := (List.perm_insertionSort (fun a b => key a ≤ key b) xs).map key
  refine ⟨fun h => hperm.nodup_iff.mp h.nodup, fun h => ?_⟩
  have hsorted : (xs.insertionSort (fun a b => key a ≤ key b)).Pairwise
      (fun a b => key a ≤ key b) := by
    have : Std.Total (fun a b : α => key a ≤ key b) := ⟨fun a b => le_total (key a) (key b)⟩
    have : IsTrans α (fun a b => key a ≤ key b) := ⟨fun _ _ _ => le_trans⟩
    exact List.pairwise_insertionSort _ xs
  refine List.Pairwise.imp ?_ (hsorted.and (List.pairwise_map.mp (hperm.nodup_iff.mpr h)))
  intro a b hab
  exact lt_of_le_of_ne hab.1 hab.2

theorem SortedBy.eraseIdx_eq_filter (h : SortedBy key xs) (hx : xs[i]? = some x) :
    xs.eraseIdx i = xs.filter (fun y => !decide (key y = key x)) := by
  induction xs generalizing i with
  | nil => simp at hx
  | cons y ys ih =>
    obtain ⟨hlt, hys⟩ := List.pairwise_cons.mp h
    cases i with
    | zero =>
      simp only [List.getElem?_cons_zero, Option.some.injEq] at hx
      subst hx
      have hkeep : ys.filter (fun z => !decide (key z = key y)) = ys :=
        List.filter_eq_self.mpr fun z hz => by simp [(hlt z hz).ne']
      simp [hkeep]
    | succ i =>
      rw [List.getElem?_cons_succ] at hx
      have hne : key y ≠ key x := (hlt x (List.mem_of_getElem? hx)).ne
      simp [hne, ih hys hx]

theorem SortedBy.filter (h : SortedBy key xs) (p : α → Bool) :
    SortedBy key (xs.filter p) :=
  List.Pairwise.filter p h

/-- Inserting a NEW key at its lower bound keeps a table sorted. -/
theorem SortedBy.insertIdx (h : SortedBy key xs) (hnew : ∀ x ∈ xs, key x ≠ key y) :
    SortedBy key (xs.insertIdx (lowerBound (fun x => decide (key x < key y)) xs) y) := by
  rw [lowerBound_eq_takeWhile (h.partitioned _)]
  induction xs with
  | nil => simp [SortedBy]
  | cons x xs ih =>
    rw [SortedBy, List.pairwise_cons] at h
    by_cases hx : key x < key y
    · simp only [List.takeWhile_cons, hx, decide_true, if_true, List.length_cons,
        List.insertIdx_succ_cons]
      refine List.pairwise_cons.mpr ⟨?_, ih h.2 (fun z hz => hnew z (by simp [hz]))⟩
      intro z hz
      rcases (List.mem_insertIdx (by
        simpa using (List.takeWhile_prefix _).length_le)).mp hz with rfl | hz
      · exact hx
      · exact h.1 z hz
    · simp only [List.takeWhile_cons, hx, decide_false, Bool.false_eq_true, if_false,
        List.length_nil, List.insertIdx_zero]
      have hyx : key y < key x :=
        lt_of_le_of_ne (not_lt.mp hx) (fun he => hnew x (by simp) he.symm)
      refine List.pairwise_cons.mpr ⟨?_, List.pairwise_cons.mpr h⟩
      intro z hz
      rcases List.mem_cons.mp hz with rfl | hz
      · exact hyx
      · exact lt_trans hyx (h.1 z hz)

/-- Sorting forgets in which order a list was given, if entries with the same
key are the same. -/
theorem insertionSort_eq_of_perm {ys : List α} (h : xs.Perm ys)
    (hkey : ∀ x ∈ xs, ∀ y ∈ xs, key x = key y → x = y) :
    xs.insertionSort (fun a b => key a ≤ key b) = ys.insertionSort (fun a b => key a ≤ key b) := by
  have : Std.Total (fun a b : α => key a ≤ key b) := ⟨fun a b => le_total (key a) (key b)⟩
  have : IsTrans α (fun a b => key a ≤ key b) := ⟨fun _ _ _ => le_trans⟩
  have hperm := ((List.perm_insertionSort (fun a b => key a ≤ key b) xs).trans h).trans
    (List.perm_insertionSort (fun a b => key a ≤ key b) ys).symm
  refine hperm.eq_of_pairwise (fun x y hx hy hxy hyx => ?_) (List.pairwise_insertionSort _ xs)
    (List.pairwise_insertionSort _ ys)
  exact hkey x ((List.mem_insertionSort _).mp hx) y
    (h.mem_iff.mpr ((List.mem_insertionSort _).mp hy)) (le_antisymm hxy hyx)

/-! ## §4. Runs of equal keys. -/

/-- In a list with increasing keys the entries of one key are those that
follow its lower bound. -/
theorem drop_lowerBound_takeWhile (h : xs.Pairwise (fun x y => key x ≤ key y)) (k : κ) :
    (xs.drop (lowerBound (fun x => decide (key x < k)) xs)).takeWhile
        (fun x => decide (key x = k))
      = xs.filter (fun x => decide (key x = k)) := by
  have hpart : PartitionedBy (fun x => decide (key x < k)) xs := by
    refine h.imp ?_
    intro x y hxy hy
    exact decide_eq_true (lt_of_le_of_lt hxy (of_decide_eq_true hy))
  rw [lowerBound_eq_takeWhile hpart]
  clear hpart
  induction xs with
  | nil => rfl
  | cons x xs ih =>
    obtain ⟨hhead, htail⟩ := List.pairwise_cons.mp h
    by_cases hlt : key x < k
    · simpa [hlt, hlt.ne] using ih htail
    -- from here on every key is at least `k`, so the run of `k` is in front
    have hdrop : ((x :: xs).takeWhile (fun x => decide (key x < k))).length = 0 := by
      simp [hlt]
    rw [hdrop, List.drop_zero]
    clear ih hdrop
    have hge : ∀ y ∈ x :: xs, k ≤ key y := by
      intro y hy
      rcases List.mem_cons.mp hy with rfl | hy
      · exact not_lt.mp hlt
      · exact (not_lt.mp hlt).trans (hhead y hy)
    exact takeWhile_eq_filter h hge
where
  takeWhile_eq_filter {ys : List α} (hys : ys.Pairwise (fun x y => key x ≤ key y))
      (hge : ∀ y ∈ ys, k ≤ key y) :
      ys.takeWhile (fun x => decide (key x = k)) = ys.filter (fun x => decide (key x = k)) := by
    induction ys with
    | nil => rfl
    | cons y ys ih =>
      obtain ⟨hhead, htail⟩ := List.pairwise_cons.mp hys
      by_cases hy : key y = k
      · simpa [hy] using ih htail fun z hz => hge z (List.mem_cons_of_mem _ hz)
      have hlt : k < key y := lt_of_le_of_ne (hge y List.mem_cons_self) (Ne.symm hy)
      have hnone : ys.filter (fun x => decide (key x = k)) = [] :=
        List.filter_eq_nil_iff.mpr fun z hz => by
          simpa using (hlt.trans_le (hhead z hz)).ne'
      simp [hy, hnone]

end Sorted

end DpuFabric.Lib
