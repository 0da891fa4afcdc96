/-
  Lib.Tables — REPLACING OR ADDING AN ENTRY OF A SORTED TABLE.

  `upsert key xs x` replaces every entry that carries the key of `x`, or adds
  `x` at the end if there is none, and sorts the result.  On a strictly
  sorted table this is the update of a finite map:

      SortedBy.upsert        — the table stays strictly sorted
      SortedBy.find?_upsert  — the new entry is found under its key, every
                               other key finds what it found before
-/
import DpuFabric.Lib.HalvingSearch

namespace DpuFabric.Lib

variable {α : Type*} {κ : Type*} {key : α → κ} {xs : List α}

section Update

-- the callers' tests for equality and order need not be those of a linear order
variable [DecidableEq κ] [LE κ] [DecidableLE κ]

/-- Replaces the entries with the key of `x`, or adds `x`; then sorts. -/
def upsert (key : α → κ) (xs : List α) (x : α) : List α :=
  let updated := match xs.find? (fun c => decide (key c = key x)) with
    | none => xs ++ [x]
    | some _ => xs.map (fun c => if key c = key x then x else c)
  updated.insertionSort (fun a b => key a ≤ key b)

theorem upsert_of_none {x : α} (h : xs.find? (fun c => decide (key c = key x)) = none) :
    upsert key xs x = (xs ++ [x]).insertionSort (fun a b => key a ≤ key b) := by
  unfold upsert
  rw [h]

theorem upsert_of_some {x y : α} (h : xs.find? (fun c => decide (key c = key x)) = some y) :
    upsert key xs x = (xs.map fun c => if key c = key x then x else c).insertionSort
      (fun a b => key a ≤ key b) := by
  unfold upsert
  rw [h]

omit [LE κ] [DecidableLE κ] in
theorem find?_key_eq_none {k : κ} (h : xs.find? (fun c => decide (key c = k)) = none) {c : α}
    (hc : c ∈ xs) : key c ≠ k := by
  simpa using List.find?_eq_none.mp h c hc

theorem mem_upsert {x c : α} : c ∈ upsert key xs x ↔ c = x ∨ (c ∈ xs ∧ key c ≠ key x) := by
  unfold upsert
  rw [List.mem_insertionSort]
  split
  · next hnone =>
    simp only [List.mem_append, List.mem_singleton]
    constructor
    · rintro (hc | rfl)
      · exact .inr ⟨hc, find?_key_eq_none hnone hc⟩
      · exact .inl rfl
    · rintro (rfl | ⟨hc, -⟩)
      · exact .inr rfl
      · exact .inl hc
  · next y hfind =>
    have hy := List.mem_of_find?_eq_some hfind
    have hk : key y = key x :=
      of_decide_eq_true (List.find?_some (p := fun c => decide (key c = key x)) hfind)
    simp only [List.mem_map]
    constructor
    · rintro ⟨d, hd, rfl⟩
      by_cases hdx : key d = key x
      · rw [if_pos hdx]
        exact .inl rfl
      · rw [if_neg hdx]
        exact .inr ⟨hd, hdx⟩
    · rintro (rfl | ⟨hc, hne⟩)
      · exact ⟨y, hy, if_pos hk⟩
      · exact ⟨c, hc, if_neg hne⟩

end Update

section Sorted

variable [LinearOrder κ] [DecidableEq κ] [DecidableLE κ]

omit [DecidableLE κ] in
/-- On a sorted table the entry with a key is the one that is found. -/
theorem SortedBy.find?_eq_some_iff (h : SortedBy key xs) {k : κ} {x : α} :
    xs.find? (fun c => decide (key c = k)) = some x ↔ x ∈ xs ∧ key x = k := by
  constructor
  · intro hfind
    exact ⟨List.mem_of_find?_eq_some hfind,
      of_decide_eq_true (List.find?_some (p := fun c => decide (key c = k)) hfind)⟩
  · rintro ⟨hx, rfl⟩
    cases hfind : xs.find? (fun c => decide (key c = key x)) with
    | none => exact absurd (List.find?_eq_none.mp hfind x hx) (by simp)
    | some y =>
      have hy := List.mem_of_find?_eq_some hfind
      have hk : key y = key x :=
        of_decide_eq_true (List.find?_some (p := fun c => decide (key c = key x)) hfind)
      rw [List.inj_on_of_nodup_map h.nodup hy hx hk]

/-- **An update keeps a table strictly sorted.** -/
theorem SortedBy.upsert (h : SortedBy key xs) (x : α) : SortedBy key (upsert key xs x) := by
  obtain rfl : ‹DecidableLE κ› = fun a b => LinearOrder.toDecidableLE a b := Subsingleton.elim _ _
  unfold Lib.upsert
  rw [sortedBy_insertionSort_iff]
  split
  · next hnone =>
    rw [List.map_append, List.map_singleton]
    refine List.nodup_append.mpr ⟨h.nodup, List.nodup_singleton _, ?_⟩
    intro k hk k' hk'
    obtain ⟨c, hc, rfl⟩ := List.mem_map.mp hk
    rw [List.mem_singleton.mp hk']
    exact find?_key_eq_none hnone hc
  · have hkeys : (xs.map fun c => if key c = key x then x else c).map key = xs.map key := by
      rw [List.map_map]
      refine List.map_congr_left fun c _ => ?_
      show key (if key c = key x then x else c) = key c
      split
      · next hk => exact hk.symm
      · rfl
    rw [hkeys]
    exact h.nodup

/-- **What is found after an update.** -/
theorem SortedBy.find?_upsert (h : SortedBy key xs) (x : α) (k : κ) :
    (Lib.upsert key xs x).find? (fun c => decide (key c = k))
      = if k = key x then some x else xs.find? (fun c => decide (key c = k)) := by
  have hsorted := h.upsert x
  by_cases hk : k = key x
  · rw [if_pos hk]
    exact hsorted.find?_eq_some_iff.mpr ⟨mem_upsert.mpr (.inl rfl), hk.symm⟩
  rw [if_neg hk]
  cases hold : xs.find? (fun c => decide (key c = k)) with
  | some d =>
    obtain ⟨hd, rfl⟩ := h.find?_eq_some_iff.mp hold
    exact hsorted.find?_eq_some_iff.mpr ⟨mem_upsert.mpr (.inr ⟨hd, hk⟩), rfl⟩
  | none =>
    refine List.find?_eq_none.mpr fun c hc => ?_
    rcases mem_upsert.mp hc with rfl | ⟨hmem, -⟩
    · simpa using fun heq => hk heq.symm
    · exact List.find?_eq_none.mp hold c hmem

end Sorted

end DpuFabric.Lib
