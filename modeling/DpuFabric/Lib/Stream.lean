/-
  Lib.Stream — READING FRAMES FROM A STREAM THAT ARRIVES IN PIECES.

  A decoder looks at a buffer and answers: not enough yet, a frame that took
  so many elements, or a refusal.  A reader keeps a buffer, asks the decoder,
  and receives another piece only when the decoder wants more.  The law that
  makes the pieces irrelevant is `Steady`: an answer other than "not enough"
  stays the same whatever follows the buffer.
-/
import Mathlib.Data.List.Basic

namespace DpuFabric.Lib

variable {β φ ε σ : Type}

/-! ## §1. Decoders. -/

/-- The answer of a decoder. -/
inductive Decoded (φ ε : Type) where
  | incomplete
  | complete (frame : φ) (consumed : Nat)
  | refused (reason : ε)

/-- An answer stays the same whatever follows, and a frame takes something. -/
structure Steady (decode : List β → Decoded φ ε) : Prop where
  complete : ∀ {b f n} (rest : List β), decode b = .complete f n →
    decode (b ++ rest) = .complete f n
  refused : ∀ {b e} (rest : List β), decode b = .refused e → decode (b ++ rest) = .refused e
  consumed : ∀ {b f n}, decode b = .complete f n → 0 < n ∧ n ≤ b.length

/-- How a stream ends: with a remainder that is no frame yet, or refused. -/
inductive Ending (β ε : Type) where
  | closed (rest : List β)
  | refused (reason : ε)

/-- The frames of a whole stream, one after another, and its ending. -/
inductive Parses (decode : List β → Decoded φ ε) : List β → List φ → Ending β ε → Prop where
  | closed {b} (h : decode b = .incomplete) : Parses decode b [] (.closed b)
  | refused {b e} (h : decode b = .refused e) : Parses decode b [] (.refused e)
  | frame {b f n fs o} (h : decode b = .complete f n) (rest : Parses decode (b.drop n) fs o) :
      Parses decode b (f :: fs) o

section Inversion

variable {decode : List β → Decoded φ ε} {b : List β} {fs : List φ} {o : Ending β ε}

theorem Parses.of_incomplete (h : Parses decode b fs o) (hd : decode b = .incomplete) :
    fs = [] ∧ o = .closed b := by
  cases h with
  | closed _ => exact ⟨rfl, rfl⟩
  | refused h => rw [hd] at h; cases h
  | frame h _ => rw [hd] at h; cases h

theorem Parses.of_refused {e : ε} (h : Parses decode b fs o) (hd : decode b = .refused e) :
    fs = [] ∧ o = .refused e := by
  cases h with
  | closed h => rw [hd] at h; cases h
  | refused h =>
    rw [hd] at h
    cases h
    exact ⟨rfl, rfl⟩
  | frame h _ => rw [hd] at h; cases h

theorem Parses.of_complete {f : φ} {n : Nat} (h : Parses decode b fs o)
    (hd : decode b = .complete f n) : ∃ gs, fs = f :: gs ∧ Parses decode (b.drop n) gs o := by
  cases h with
  | closed h => rw [hd] at h; cases h
  | refused h => rw [hd] at h; cases h
  | frame h rest =>
    rw [hd] at h
    cases h
    exact ⟨_, rfl, rest⟩

end Inversion

theorem Steady.parses {decode : List β → Decoded φ ε} (hsteady : Steady decode) (b : List β) :
    ∃ fs o, Parses decode b fs o := by
  induction hm : b.length using Nat.strongRecOn generalizing b with
  | ind m ih =>
    cases hd : decode b with
    | incomplete => exact ⟨[], _, .closed hd⟩
    | refused e => exact ⟨[], _, .refused hd⟩
    | complete f n =>
      have ⟨hpos, hle⟩ := hsteady.consumed hd
      obtain ⟨fs, o, hrest⟩ := ih (b.drop n).length (by rw [List.length_drop]; omega) _ rfl
      exact ⟨f :: fs, o, .frame hd hrest⟩

/-! ## §2. The reading loop. -/

/-- What the owner of the loop does at each answer; `handle` also says
whether the loop ends there. -/
structure Handlers (β φ ε σ : Type) where
  handle : σ → φ → σ × Bool
  refuse : σ → ε → σ
  close : σ → List β → σ
  reset : σ → σ

/-- The loop between two turns.  What is still to be received is a list: a
piece, or `none` for a broken connection; its end is an orderly close. -/
structure Reader (β σ : Type) where
  buffer : List β := []
  incoming : List (Option (List β))
  state : σ
  ended : Bool := false

/-- One turn of the loop. -/
def Reader.step (decode : List β → Decoded φ ε) (h : Handlers β φ ε σ) (r : Reader β σ) :
    Reader β σ :=
  if r.ended then r
  else
    match decode r.buffer with
    | .refused e => { r with state := h.refuse r.state e, ended := true }
    | .complete f n =>
      let (state, ended) := h.handle r.state f
      { r with buffer := r.buffer.drop n, state, ended }
    | .incomplete =>
      match r.incoming with
      | [] => { r with state := h.close r.state r.buffer, ended := true }
      | none :: incoming => { r with incoming, state := h.reset r.state, ended := true }
      | some piece :: incoming => { r with buffer := r.buffer ++ piece, incoming }

/-- The loop after `k` turns. -/
def Reader.run (decode : List β → Decoded φ ε) (h : Handlers β φ ε σ) : Nat → Reader β σ →
    Reader β σ
  | 0, r => r
  | k + 1, r => run decode h k (r.step decode h)

/-- The frames of a stream served without a loop, and whether one of them
ended it. -/
def Handlers.serve (h : Handlers β φ ε σ) : σ → List φ → σ × Bool
  | s, [] => (s, false)
  | s, f :: fs =>
    let (s', ended) := h.handle s f
    if ended then (s', true) else h.serve s' fs

/-- The ending of the stream, when no frame ended the loop before. -/
def Handlers.finish (h : Handlers β φ ε σ) (served : σ × Bool) : Ending β ε → σ
  | .closed rest => if served.2 then served.1 else h.close served.1 rest
  | .refused e => if served.2 then served.1 else h.refuse served.1 e

section Loop

variable {decode : List β → Decoded φ ε} {h : Handlers β φ ε σ} {r : Reader β σ}

/-! ## §3. Pieces do not matter. -/

theorem Reader.run_succ (k : Nat) : r.run decode h (k + 1) = (r.step decode h).run decode h k := rfl

theorem Reader.step_ended (hr : r.ended = true) : r.step decode h = r := by
  unfold Reader.step
  rw [if_pos hr]

theorem Reader.run_ended (hr : r.ended = true) (k : Nat) : r.run decode h k = r := by
  induction k with
  | zero => rfl
  | succ k ih =>
    rw [run_succ, step_ended hr, ih]

theorem Reader.run_stays {n k : Nat} (hr : (r.run decode h n).ended = true) (hk : n ≤ k) :
    r.run decode h k = r.run decode h n := by
  induction n generalizing r k with
  | zero => exact run_ended hr k
  | succ n ih =>
    cases k with
    | zero => omega
    | succ k => exact ih hr (by omega)

section Turns

variable (hr : r.ended = false)

include hr

theorem Reader.step_refused {e : ε} (hd : decode r.buffer = .refused e) :
    r.step decode h = { r with state := h.refuse r.state e, ended := true } := by
  unfold Reader.step
  rw [hr, if_neg Bool.false_ne_true, hd]

theorem Reader.step_complete {f : φ} {n : Nat} (hd : decode r.buffer = .complete f n) :
    r.step decode h = { r with
      buffer := r.buffer.drop n, state := (h.handle r.state f).1,
      ended := (h.handle r.state f).2 } := by
  unfold Reader.step
  rw [hr, if_neg Bool.false_ne_true, hd]

theorem Reader.step_closed (hd : decode r.buffer = .incomplete) (hi : r.incoming = []) :
    r.step decode h = { r with state := h.close r.state r.buffer, ended := true } := by
  unfold Reader.step
  rw [hr, if_neg Bool.false_ne_true, hd, hi]

theorem Reader.step_reset {incoming : List (Option (List β))}
    (hd : decode r.buffer = .incomplete) (hi : r.incoming = none :: incoming) :
    r.step decode h = { r with incoming, state := h.reset r.state, ended := true } := by
  unfold Reader.step
  rw [hr, if_neg Bool.false_ne_true, hd, hi]

theorem Reader.step_piece {piece : List β} {incoming : List (Option (List β))}
    (hd : decode r.buffer = .incomplete) (hi : r.incoming = some piece :: incoming) :
    r.step decode h = { r with buffer := r.buffer ++ piece, incoming } := by
  unfold Reader.step
  rw [hr, if_neg Bool.false_ne_true, hd, hi]

end Turns

/-- **The loop ends as the whole stream says, however the stream is cut.** -/
theorem Reader.ends (hsteady : Steady decode) {pieces : List (List β)} {fs : List φ}
    {o : Ending β ε} (hr : r.ended = false) (hi : r.incoming = pieces.map some)
    (hp : Parses decode (r.buffer ++ pieces.flatten) fs o) :
    ∃ n, (r.run decode h n).ended = true
      ∧ (r.run decode h n).state = h.finish (h.serve r.state fs) o := by
  -- a turn either uses up a piece or takes a frame out of the buffer
  induction hm : pieces.length + r.buffer.length + pieces.flatten.length using
    Nat.strongRecOn generalizing r pieces fs with
  | ind m ih =>
    cases hd : decode r.buffer with
    | refused e =>
      obtain ⟨rfl, rfl⟩ := hp.of_refused (hsteady.refused _ hd)
      refine ⟨1, ?_⟩
      show (r.step decode h).ended = true ∧ (r.step decode h).state = h.refuse r.state e
      rw [step_refused hr hd]
      exact ⟨rfl, rfl⟩
    | complete f n =>
      obtain ⟨gs, rfl, hgs⟩ := hp.of_complete (hsteady.complete _ hd)
      have ⟨hpos, hle⟩ := hsteady.consumed hd
      rw [List.drop_append_of_le_length hle] at hgs
      have hstep := step_complete (h := h) hr hd
      cases hstop : (h.handle r.state f).2 with
      | true =>
        refine ⟨1, ?_⟩
        show (r.step decode h).ended = true ∧ (r.step decode h).state = _
        rw [hstep]
        have hserve : h.serve r.state (f :: gs) = ((h.handle r.state f).1, true) := by
          simp only [Handlers.serve, hstop, if_true]
        rw [hserve]
        exact ⟨hstop, by cases o <;> rfl⟩
      | false =>
        have hserve : h.serve r.state (f :: gs) = h.serve (h.handle r.state f).1 gs := by
          simp only [Handlers.serve, hstop, Bool.false_eq_true, if_false]
        have hlen : (r.buffer.drop n).length < r.buffer.length := by
          rw [List.length_drop]
          omega
        obtain ⟨k, hk⟩ := ih _ (by
          subst hm
          show pieces.length + (r.buffer.drop n).length + pieces.flatten.length < _
          omega) (r := { r with
            buffer := r.buffer.drop n, state := (h.handle r.state f).1, ended := false })
          rfl hi hgs rfl
        refine ⟨k + 1, ?_⟩
        rw [hserve, run_succ, hstep, hstop]
        exact hk
    | incomplete =>
      cases pieces with
      | nil =>
        rw [List.flatten_nil, List.append_nil] at hp
        obtain ⟨rfl, rfl⟩ := hp.of_incomplete hd
        refine ⟨1, ?_⟩
        show (r.step decode h).ended = true
          ∧ (r.step decode h).state = h.close r.state r.buffer
        rw [step_closed hr hd hi]
        exact ⟨rfl, rfl⟩
      | cons piece pieces =>
        rw [List.flatten_cons, ← List.append_assoc] at hp
        obtain ⟨k, hk⟩ := ih _ (by
          subst hm
          show pieces.length + (r.buffer ++ piece).length + pieces.flatten.length < _
          simp only [List.length_cons, List.length_append, List.flatten_cons]
          omega) (r := { r with
            buffer := r.buffer ++ piece, incoming := pieces.map some }) hr rfl hp rfl
        refine ⟨k + 1, ?_⟩
        rw [run_succ, step_piece hr hd hi]
        exact hk

/-! ## §4. The buffer. -/

/-- Every piece still to come has at most `most` elements. -/
def Reader.Pieces (r : Reader β σ) (most : Nat) : Prop :=
  ∀ piece, some piece ∈ r.incoming → piece.length ≤ most

variable {limit most : Nat}

theorem Reader.step_buffer_le (hlimit : ∀ b, decode b = .incomplete → b.length ≤ limit)
    (hp : r.Pieces most) (hb : r.buffer.length ≤ limit + most) :
    (r.step decode h).Pieces most ∧ (r.step decode h).buffer.length ≤ limit + most := by
  by_cases hr : r.ended = true
  · rw [step_ended hr]
    exact ⟨hp, hb⟩
  have hr' : r.ended = false := Bool.eq_false_iff.mpr hr
  cases hd : decode r.buffer with
  | refused e =>
    rw [step_refused hr' hd]
    exact ⟨hp, hb⟩
  | complete f n =>
    rw [step_complete hr' hd]
    refine ⟨hp, ?_⟩
    show (r.buffer.drop n).length ≤ limit + most
    rw [List.length_drop]
    omega
  | incomplete =>
    match hi : r.incoming with
    | [] =>
      rw [step_closed hr' hd hi]
      exact ⟨hp, hb⟩
    | none :: incoming =>
      rw [step_reset hr' hd hi]
      exact ⟨fun piece hm => hp piece (by rw [hi]; exact List.mem_cons_of_mem _ hm), hb⟩
    | some piece :: incoming =>
      rw [step_piece hr' hd hi]
      refine ⟨fun q hm => hp q (by rw [hi]; exact List.mem_cons_of_mem _ hm), ?_⟩
      show (r.buffer ++ piece).length ≤ limit + most
      have hone := hp piece (by rw [hi]; exact List.mem_cons_self)
      have hopen := hlimit _ hd
      rw [List.length_append]
      omega

/-- **The buffer is bounded in every turn.** -/
theorem Reader.buffer_le (hlimit : ∀ b, decode b = .incomplete → b.length ≤ limit)
    (hp : r.Pieces most) (hb : r.buffer.length ≤ limit + most) (k : Nat) :
    (r.run decode h k).buffer.length ≤ limit + most := by
  induction k generalizing r with
  | zero => exact hb
  | succ k ih =>
    have hstep := step_buffer_le (h := h) hlimit hp hb
    exact ih hstep.1 hstep.2

end Loop

end DpuFabric.Lib
