/-
  Lib.Checked — COMPUTATIONS THAT MAY REFUSE: INVERSION OF BINDS AND FOLDS.

  A successful computation in `Except` went through every one of its parts.
  These rules take it apart without unfolding the monad:

      bind_eq_ok          — a bind
      eq_ok_getD          — a computation that is known to succeed
      foldlM_nil_ok,
      foldlM_cons_ok      — one turn of a loop
      foldlM_invariant    — what every turn keeps, the loop keeps
      foldlM_refusal      — a loop that refuses does so in one of its turns
      foldl_prefix        — the same for a loop that cannot refuse, with the
                            part of the list that is done
-/
import Mathlib.Data.List.Basic

namespace DpuFabric.Lib

variable {ε α β σ : Type}

theorem bind_eq_ok {x : Except ε α} {f : α → Except ε β} {b : β} :
    (x >>= f) = .ok b ↔ ∃ a, x = .ok a ∧ f a = .ok b := by
  cases x with
  | error e => simp [bind, Except.bind]
  | ok a => simp [bind, Except.bind]

theorem pure_eq_ok {a b : α} : (pure a : Except ε α) = .ok b ↔ a = b := by
  simp [pure, Except.pure]

theorem eq_ok_getD {x : Except ε α} (a : α) (h : x.toOption.isSome = true) :
    x = .ok (x.toOption.getD a) := by
  cases x with
  | error e => simp [Except.toOption] at h
  | ok a => rfl

variable {f : σ → α → Except ε σ} {s t : σ} {l : List α}

theorem foldlM_nil_ok :
    ([] : List α).foldlM f s = .ok t ↔ s = t := by
  rw [List.foldlM_nil, pure_eq_ok]

theorem foldlM_cons_ok {a : α} :
    (a :: l).foldlM f s = .ok t ↔ ∃ s', f s a = .ok s' ∧ l.foldlM f s' = .ok t := by
  rw [List.foldlM_cons, bind_eq_ok]

/-- **The loop rule.** -/
theorem foldlM_invariant {P : σ → Prop} (hstep : ∀ a ∈ l, ∀ s s', P s → f s a = .ok s' → P s')
    (hs : P s) (h : l.foldlM f s = .ok t) : P t := by
  induction l generalizing s with
  | nil =>
    rw [foldlM_nil_ok] at h
    exact h ▸ hs
  | cons a l ih =>
    obtain ⟨s', hs', hrest⟩ := foldlM_cons_ok.mp h
    exact ih (fun b hb => hstep b (by simp [hb])) (hstep a (by simp) s s' hs hs') hrest

/-- A refusal comes from a turn, in a state that the turns before it kept. -/
theorem foldlM_refusal {P : σ → Prop} {e : ε} (hstep : ∀ a ∈ l, ∀ s s', P s → f s a = .ok s' → P s')
    (hs : P s) (h : l.foldlM f s = .error e) : ∃ a ∈ l, ∃ s', P s' ∧ f s' a = .error e := by
  induction l generalizing s with
  | nil => simp [pure, Except.pure] at h
  | cons a l ih =>
    rw [List.foldlM_cons] at h
    cases hturn : f s a with
    | error e' =>
      rw [hturn] at h
      injection h with h
      exact ⟨a, List.mem_cons_self, s, hs, h ▸ hturn⟩
    | ok s' =>
      rw [hturn] at h
      obtain ⟨b, hb, t, ht, hrefuses⟩ := ih (fun b hb => hstep b (List.mem_cons_of_mem _ hb))
        (hstep a List.mem_cons_self s s' hs hturn) h
      exact ⟨b, List.mem_cons_of_mem _ hb, t, ht, hrefuses⟩

theorem foldlM_prefix {P : List α → σ → Prop}
    (hstep : ∀ a ∈ l, ∀ done s s', P done s → f s a = .ok s' → P (done ++ [a]) s') (hs : P [] s)
    (h : l.foldlM f s = .ok t) : P l t := by
  have hloop : ∀ (rest done : List α) (s : σ), (∀ a ∈ rest, a ∈ l) → P done s →
      rest.foldlM f s = .ok t → P (done ++ rest) t := by
    intro rest
    induction rest with
    | nil =>
      intro done s _ hdone h
      rw [foldlM_nil_ok] at h
      rw [List.append_nil, ← h]
      exact hdone
    | cons a rest ih =>
      intro done s hmem hdone h
      obtain ⟨s', hs', hrest⟩ := foldlM_cons_ok.mp h
      rw [List.append_cons]
      exact ih _ _ (fun b hb => hmem b (List.mem_cons_of_mem _ hb))
        (hstep a (hmem a List.mem_cons_self) done s s' hdone hs') hrest
  exact hloop l [] s (fun _ ha => ha) hs h

/-- **The loop rule for a plain fold**, over the part that is done. -/
theorem foldl_prefix {f : σ → α → σ} {P : List α → σ → Prop}
    (hstep : ∀ a ∈ l, ∀ done s, P done s → P (done ++ [a]) (f s a)) (hs : P [] s) :
    P l (l.foldl f s) := by
  have hloop : ∀ (rest done : List α) (s : σ), (∀ a ∈ rest, a ∈ l) → P done s →
      P (done ++ rest) (rest.foldl f s) := by
    intro rest
    induction rest with
    | nil =>
      intro done s _ h
      rwa [List.append_nil]
    | cons a rest ih =>
      intro done s hmem h
      rw [List.append_cons]
      exact ih _ _ (fun b hb => hmem b (List.mem_cons_of_mem _ hb))
        (hstep a (hmem a List.mem_cons_self) done s h)
  exact hloop l [] s (fun _ ha => ha) hs

end DpuFabric.Lib
