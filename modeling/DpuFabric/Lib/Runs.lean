/-
  Lib.Runs — RUNS OF A DETERMINISTIC SYSTEM, AND THEIR INVARIANTS.

  A system is a state and a step function; what the environment chooses is
  the list of moves.  `Meets ok s ms` says that every move of the run is made
  in a state that allows it.  One rule then carries every safety theorem:

      run_invariant  — what holds at the start and is kept by every allowed
                       step holds in every state of an allowed run
-/
import Mathlib.Data.List.Basic

namespace DpuFabric.Lib

variable {σ μ : Type} (step : σ → μ → σ)

/-- The state after a list of moves. -/
def runMoves (s : σ) (ms : List μ) : σ := ms.foldl step s

/-- Every move is made in a state that allows it. -/
def Meets (ok : σ → μ → Prop) : σ → List μ → Prop
  | _, [] => True
  | s, m :: ms => ok s m ∧ Meets ok (step s m) ms

@[simp] theorem runMoves_nil (s : σ) : runMoves step s [] = s := rfl

@[simp] theorem runMoves_cons (s : σ) (m : μ) (ms : List μ) :
    runMoves step s (m :: ms) = runMoves step (step s m) ms := rfl

theorem runMoves_append (s : σ) (ms ns : List μ) :
    runMoves step s (ms ++ ns) = runMoves step (runMoves step s ms) ns := by
  simp [runMoves, List.foldl_append]

variable {step}

instance Meets.decidable (ok : σ → μ → Prop) [∀ s m, Decidable (ok s m)] :
    ∀ s ms, Decidable (Meets step ok s ms)
  | _, [] => inferInstanceAs (Decidable True)
  | s, m :: ms =>
    have := Meets.decidable ok (step s m) ms
    inferInstanceAs (Decidable (ok s m ∧ Meets step ok (step s m) ms))

theorem Meets.imp {ok ok' : σ → μ → Prop} (h : ∀ s m, ok s m → ok' s m) :
    ∀ {s : σ} {ms : List μ}, Meets step ok s ms → Meets step ok' s ms
  | _, [], _ => trivial
  | _, _ :: _, ⟨hm, hms⟩ => ⟨h _ _ hm, hms.imp h⟩

theorem meets_any {ok : σ → μ → Prop} (h : ∀ s m, ok s m) :
    ∀ {s : σ} (ms : List μ), Meets step ok s ms
  | _, [] => trivial
  | _, _ :: ms => ⟨h _ _, meets_any h ms⟩

theorem meets_each {ok : σ → μ → Prop} :
    ∀ {s : σ} {ms : List μ}, (∀ m ∈ ms, ∀ s, ok s m) → Meets step ok s ms
  | _, [], _ => trivial
  | _, _ :: _, h =>
    ⟨h _ List.mem_cons_self _, meets_each fun m hm => h m (List.mem_cons_of_mem _ hm)⟩

theorem meets_append {ok : σ → μ → Prop} {s : σ} {ms ns : List μ} :
    Meets step ok s (ms ++ ns) ↔ Meets step ok s ms ∧ Meets step ok (runMoves step s ms) ns := by
  induction ms generalizing s with
  | nil => simp [Meets]
  | cons m ms ih => simp only [List.cons_append, Meets, ih, runMoves_cons, and_assoc]

theorem Meets.and {ok ok' : σ → μ → Prop} :
    ∀ {s : σ} {ms : List μ}, Meets step ok s ms → Meets step ok' s ms →
      Meets step (fun s m => ok s m ∧ ok' s m) s ms
  | _, [], _, _ => trivial
  | _, _ :: _, ⟨hm, hms⟩, ⟨hm', hms'⟩ => ⟨⟨hm, hm'⟩, hms.and hms'⟩

theorem meets_reached {Q : σ → Prop} :
    ∀ {s : σ} {ms : List μ}, (∀ k, Q (runMoves step s (ms.take k))) →
      Meets step (fun s m => Q (step s m)) s ms
  | _, [], _ => trivial
  | _, _ :: _, h => ⟨h 1, meets_reached fun k => h (k + 1)⟩

/-- **The invariant rule.** -/
theorem run_invariant {ok : σ → μ → Prop} {inv : σ → Prop}
    (hstep : ∀ s m, inv s → ok s m → inv (step s m)) :
    ∀ {s : σ} {ms : List μ}, inv s → Meets step ok s ms → inv (runMoves step s ms)
  | _, [], hs, _ => hs
  | s, m :: _, hs, ⟨hm, hms⟩ => run_invariant (s := step s m) hstep (hstep s m hs hm) hms

theorem run_preserves {inv : σ → Prop} (hstep : ∀ s m, inv s → inv (step s m)) :
    ∀ {s : σ} (ms : List μ), inv s → inv (runMoves step s ms)
  | _, [], hs => hs
  | s, m :: ms, hs => run_preserves (s := step s m) hstep ms (hstep s m hs)

end DpuFabric.Lib
