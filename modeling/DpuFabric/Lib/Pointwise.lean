/-
  Lib.Pointwise — CHANGING A LIST ENTRY BY ENTRY.

  `List.Forall₂ R` relates two lists entry by entry.  The rules here follow
  the ways in which a program changes a list in place: all entries, one
  entry, one entry added at the end; and they lead from an entry of one list
  to its partner in the other.
-/
import Mathlib.Data.List.Forall2

namespace DpuFabric.Lib

variable {α : Type}

variable {xs : List α} {β : Type} {x y : α} {k : Nat} {ys : List β}

theorem forall₂_mem_right {R : α → β → Prop} (h : List.Forall₂ R xs ys) {y : β} (hy : y ∈ ys) :
    ∃ x ∈ xs, R x y := by
  induction h with
  | nil => simp at hy
  | cons hxy _ ih =>
    rcases List.mem_cons.mp hy with rfl | hy
    · exact ⟨_, List.mem_cons_self, hxy⟩
    · obtain ⟨x, hx, hr⟩ := ih hy
      exact ⟨x, List.mem_cons_of_mem _ hx, hr⟩

theorem forall₂_mem_left {R : α → β → Prop} (h : List.Forall₂ R xs ys) (hx : x ∈ xs) :
    ∃ y ∈ ys, R x y :=
  forall₂_mem_right (R := flip R) (List.Forall₂.flip h) hx

theorem map_eq_of_forall₂ {γ : Type} {f : α → γ} {g : β → γ}
    (h : List.Forall₂ (fun x y => f x = g y) xs ys) : xs.map f = ys.map g := by
  have heq := List.forall₂_map_left_iff.mpr (List.forall₂_map_right_iff.mpr h)
  rwa [List.forall₂_eq_eq_eq] at heq

theorem mem_modify {f : α → α} (h : y ∈ xs.modify k f) : y ∈ xs ∨ ∃ x ∈ xs, y = f x := by
  obtain ⟨j, hj⟩ := List.mem_iff_getElem?.mp h
  rw [List.getElem?_modify] at hj
  obtain ⟨x, hx, rfl⟩ := Option.map_eq_some_iff.mp hj
  have hmem := List.mem_of_getElem? hx
  split
  · exact .inr ⟨x, hmem, rfl⟩
  · exact .inl hmem

variable {R : α → α → Prop}

theorem forall₂_map_of {f : α → α} {ys : List α} (h : List.Forall₂ R xs ys)
    (hf : ∀ x y, R x y → R x (f y)) : List.Forall₂ R xs (ys.map f) :=
  List.forall₂_map_right_iff.mpr (h.imp hf)

theorem forall₂_set {ys : List α} {y' : α} (h : List.Forall₂ R xs ys) (hk : ys[k]? = some y)
    (hy : ∀ x, R x y → R x y') : List.Forall₂ R xs (ys.set k y') := by
  induction h generalizing k with
  | nil => simp at hk
  | cons hxy htail ih =>
    cases k with
    | zero =>
      simp only [List.getElem?_cons_zero, Option.some.injEq] at hk
      subst hk
      exact .cons (hy _ hxy) htail
    | succ k => exact .cons hxy (ih (by simpa using hk))

theorem forall₂_set_self (hrefl : ∀ x, R x x) {x' : α} (hk : xs[k]? = some x) (hx : R x x') :
    List.Forall₂ R xs (xs.set k x') := by
  induction xs generalizing k with
  | nil => simp at hk
  | cons y ys ih =>
    cases k with
    | zero =>
      simp only [List.getElem?_cons_zero, Option.some.injEq] at hk
      subst hk
      exact .cons hx (List.forall₂_same.mpr fun z _ => hrefl z)
    | succ k => exact .cons (hrefl y) (ih (by simpa using hk))

theorem forall₂_append_one {ys : List α} (h : List.Forall₂ R xs ys) (hxy : R x y) :
    List.Forall₂ R (xs ++ [x]) (ys ++ [y]) :=
  List.rel_append h (.cons hxy .nil)

end DpuFabric.Lib
