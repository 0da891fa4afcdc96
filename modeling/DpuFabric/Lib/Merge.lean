/-
  Lib.Merge — MERGED LISTS, AND A RUN THAT MAKES MOVES WHICH ANOTHER ONE SKIPS.

  `Merge xs ys zs` says that `zs` holds the elements of `xs` and of `ys`, each
  in its order.  The one rule is about two runs side by side, over the merge
  and over `xs` alone (`Merge.simulate`).
-/
import DpuFabric.Lib.Runs

namespace DpuFabric.Lib

variable {α : Type}

/-- The third list is a merge of the first two. -/
inductive Merge : List α → List α → List α → Prop where
  | nil : Merge [] [] []
  | left {xs ys zs : List α} (x : α) : Merge xs ys zs → Merge (x :: xs) ys (x :: zs)
  | right {xs ys zs : List α} (y : α) : Merge xs ys zs → Merge xs (y :: ys) (y :: zs)

variable {xs ys zs : List α}

theorem Merge.sublist_left (h : Merge xs ys zs) : xs.Sublist zs := by
  induction h with
  | nil => exact List.Sublist.slnil
  | left x _ ih => exact ih.cons_cons x
  | right y _ ih => exact ih.cons y

theorem Merge.sublist_right (h : Merge xs ys zs) : ys.Sublist zs := by
  induction h with
  | nil => exact List.Sublist.slnil
  | left x _ ih => exact ih.cons x
  | right y _ ih => exact ih.cons_cons y

/-- **Two runs side by side**: what relates them survives the moves that both
make and those that only the first one makes. -/
theorem Merge.simulate {σ : Type} {step : σ → α → σ} {R : σ → σ → Prop} (h : Merge xs ys zs)
    (hboth : ∀ x s t, R s t → R (step s x) (step t x))
    (hskip : ∀ y ∈ ys, ∀ s t, R s t → R (step s y) t) {s t : σ} (hst : R s t) :
    R (runMoves step s zs) (runMoves step t xs) := by
  induction h generalizing s t with
  | nil => exact hst
  | left x _ ih => exact ih hskip (hboth x s t hst)
  | right y _ ih =>
    refine ih (fun z hz => hskip z (List.mem_cons_of_mem _ hz)) ?_
    exact hskip y List.mem_cons_self s t hst

end DpuFabric.Lib
