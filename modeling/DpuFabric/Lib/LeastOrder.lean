/-
  Lib.LeastOrder — THE LEAST ORDER OF A DEPENDENCY RELATION.

  `needs a b` reads "a waits for b".  An order respects the relation when
  whatever a node waits for stands before it.  An order is GREEDY when each of
  its nodes is the least of those that could have come next.  The two meet in
  one statement:

      a greedy order that has every node respects the relation, and among the
      orders of the same nodes that respect it, it is lexicographically least

  and the other side is a walk: as long as every node of a set waits for a
  node of the set, following the relation ends in a cycle.
-/
import Mathlib.Data.List.Chain
import Mathlib.Data.List.Nodup
import Mathlib.Data.List.Lex
import Mathlib.Data.List.Perm.Subperm
import Mathlib.Order.Bounds.Basic
import Mathlib.Logic.Relation

namespace DpuFabric.Lib

variable {α : Type} {needs : α → α → Prop}

/-! ## §1. Acyclic relations. -/

/-- No node waits for itself, directly or through others. -/
def Acyclic (needs : α → α → Prop) : Prop := ∀ a, ¬ Relation.TransGen needs a a

/-- A walk that comes back to a node it has visited: consecutive nodes are
joined, and the last one occurs before. -/
structure CycleWalk (needs : α → α → Prop) (walk : List α) (last : α) : Prop where
  joined : (walk ++ [last]).IsChain needs
  returns : last ∈ walk

variable {a : α}

theorem transGen_of_isChain {b : α} {l : List α} (h : (a :: (l ++ [b])).IsChain needs) :
    Relation.TransGen needs a b := by
  induction l generalizing a with
  | nil => exact .single (List.isChain_cons_cons.mp h).1
  | cons c l ih =>
    obtain ⟨hhead, htail⟩ := List.isChain_cons_cons.mp h
    exact .head hhead (ih htail)

theorem CycleWalk.not_acyclic {walk : List α} {last : α} (h : CycleWalk needs walk last) :
    ¬ Acyclic needs := by
  obtain ⟨front, back, rfl⟩ := List.append_of_mem h.returns
  have hround : (last :: (back ++ [last])).IsChain needs := by
    have hjoined := h.joined
    rw [List.append_assoc, List.cons_append] at hjoined
    exact hjoined.right_of_append
  exact fun hacyclic => hacyclic last (transGen_of_isChain hround)

/-! ## §2. Orders that respect the relation. -/

theorem notMem_front {front back : List α} (h : (front ++ a :: back).Nodup) :
    a ∉ front := by
  have hdisjoint := (List.nodup_append.mp h).2.2
  exact fun hmem => hdisjoint a hmem a List.mem_cons_self rfl

section Orders

variable [DecidableEq α]

/-- What a node waits for stands before it. -/
def Respects (needs : α → α → Prop) (order : List α) : Prop :=
  ∀ a b, needs a b → order.idxOf b < order.idxOf a

theorem Respects.transGen {order : List α} (h : Respects needs order) {a b : α}
    (hpath : Relation.TransGen needs a b) : order.idxOf b < order.idxOf a := by
  induction hpath with
  | single hneeds => exact h _ _ hneeds
  | tail _ hneeds ih => exact (h _ _ hneeds).trans ih

theorem Respects.acyclic {order : List α} (h : Respects needs order) : Acyclic needs :=
  fun _ hcycle => lt_irrefl _ (h.transGen hcycle)

theorem idxOf_middle {front back : List α} {a : α} (h : a ∉ front) :
    (front ++ a :: back).idxOf a = front.length := by
  rw [List.idxOf_append_of_notMem h, List.idxOf_cons_self, Nat.add_zero]

theorem mem_front_of_idxOf_lt {front back : List α} {b : α}
    (h : (front ++ back).idxOf b < front.length) : b ∈ front := by
  by_contra hout
  rw [List.idxOf_append_of_notMem hout] at h
  omega

/-- An order cut into blocks: what stands in an earlier block stands before. -/
theorem idxOf_flatten_lt {blocks : List (List α)} (h : blocks.flatten.Nodup) {i j : Nat}
    {earlier later : List α} {x y : α} (hi : blocks[i]? = some earlier) (hx : x ∈ earlier)
    (hj : blocks[j]? = some later) (hy : y ∈ later) (hij : i < j) :
    blocks.flatten.idxOf x < blocks.flatten.idxOf y := by
  have hcut : blocks.flatten = (blocks.take j).flatten ++ (blocks.drop j).flatten := by
    rw [← List.flatten_append, List.take_append_drop]
  have hfront : x ∈ (blocks.take j).flatten := by
    refine List.mem_flatten.mpr ⟨earlier, List.mem_of_getElem? (i := i) ?_, hx⟩
    rw [List.getElem?_take_of_lt hij, hi]
  have hback : y ∈ (blocks.drop j).flatten := by
    refine List.mem_flatten.mpr ⟨later, List.mem_of_getElem? (i := 0) ?_, hy⟩
    rw [List.getElem?_drop, Nat.add_zero, hj]
  rw [hcut] at h ⊢
  have hout : y ∉ (blocks.take j).flatten :=
    fun hmem => (List.nodup_append.mp h).2.2 y hmem y hback rfl
  rw [List.idxOf_append_of_mem hfront, List.idxOf_append_of_notMem hout]
  have hlt := List.idxOf_lt_length_of_mem hfront
  omega

end Orders

/-! ## §3. Greedy orders. -/

/-- The nodes that may come next: everything they wait for is done. -/
def readySet (needs : α → α → Prop) (nodes done : List α) : Set α :=
  { a | a ∈ nodes ∧ a ∉ done ∧ ∀ b, needs a b → b ∈ done }

/-- Where nothing is ready, every node that is left waits for another one. -/
theorem waits_of_none_ready {nodes order : List α} (hends : ∀ a b, needs a b → b ∈ nodes)
    (hnone : readySet needs nodes order = ∅) (ha : a ∈ nodes) (hout : a ∉ order) :
    ∃ b, needs a b ∧ b ∈ nodes ∧ b ∉ order := by
  by_contra hstuck
  have hready : a ∈ readySet needs nodes order := by
    refine ⟨ha, hout, fun b hneeds => ?_⟩
    by_contra hb
    exact hstuck ⟨b, hneeds, hends a b hneeds, hb⟩
  rw [hnone] at hready
  exact hready

section Greedy

variable [LinearOrder α] {nodes order : List α}

/-- Each node of the order is the least that could have come next. -/
def Greedy (needs : α → α → Prop) (nodes order : List α) : Prop :=
  ∀ done a rest, order = done ++ a :: rest → IsLeast (readySet needs nodes done) a

theorem Greedy.nil : Greedy needs nodes [] := by
  intro done a rest h
  exact absurd h.symm (by simp)

theorem Greedy.concat {a : α} (h : Greedy needs nodes order)
    (hleast : IsLeast (readySet needs nodes order) a) : Greedy needs nodes (order ++ [a]) := by
  intro done b rest heq
  rcases List.eq_nil_or_concat rest with rfl | ⟨rest, c, rfl⟩
  · obtain ⟨rfl, hab⟩ := List.append_inj' heq rfl
    obtain rfl := List.singleton_inj.mp hab
    exact hleast
  · rw [List.concat_eq_append, ← List.cons_append, ← List.append_assoc] at heq
    exact h done b rest (List.append_inj' heq rfl).1

theorem Greedy.respects (h : Greedy needs nodes order) (hends : ∀ a b, needs a b → a ∈ order) :
    Respects needs order := by
  intro a b hneeds
  obtain ⟨done, rest, rfl⟩ := List.append_of_mem (hends a b hneeds)
  obtain ⟨⟨-, hnew, hdone⟩, -⟩ := h done a rest rfl
  rw [idxOf_middle hnew, List.idxOf_append_of_mem (hdone b hneeds)]
  exact List.idxOf_lt_length_of_mem (hdone b hneeds)

/-- The first node of the remaining part of an order that respects the
relation could come next. -/
theorem Respects.ready {done rest : List α} {a : α} (h : Respects needs (done ++ a :: rest))
    (hnodup : (done ++ a :: rest).Nodup) (ha : a ∈ nodes) : a ∈ readySet needs nodes done := by
  have hnew := notMem_front hnodup
  refine ⟨ha, hnew, fun b hneeds => ?_⟩
  have hlt := h a b hneeds
  rw [idxOf_middle hnew] at hlt
  exact mem_front_of_idxOf_lt hlt

/-- Two orders that agree on what is done: the greedy one goes on with the
same node or a smaller one. -/
theorem Greedy.least_from (done : List α) {rest other : List α}
    (hgreedy : Greedy needs nodes (done ++ rest)) (hrespects : Respects needs (done ++ other))
    (hnodup : (done ++ other).Nodup) (hsub : ∀ a ∈ other, a ∈ nodes)
    (hlength : rest.length = other.length) :
    done ++ rest = done ++ other ∨ List.Lex (· < ·) (done ++ rest) (done ++ other) := by
  induction rest generalizing done other with
  | nil =>
    obtain rfl := List.length_eq_zero_iff.mp hlength.symm
    exact .inl rfl
  | cons a rest ih =>
    cases other with
    | nil => simp at hlength
    | cons b other =>
      have hle : a ≤ b := (hgreedy done a rest rfl).2
        (hrespects.ready hnodup (hsub b List.mem_cons_self))
      rcases hle.lt_or_eq with hlt | rfl
      · exact .inr (List.Lex.append_left _ (.rel hlt) done)
      -- the same node is next in both, so it joins what is done
      have hshift : ∀ l : List α, done ++ a :: l = (done ++ [a]) ++ l := by simp
      rw [hshift] at hgreedy hrespects hnodup
      rw [hshift rest, hshift other]
      exact ih (done ++ [a]) hgreedy hrespects hnodup
        (fun c hc => hsub c (List.mem_cons_of_mem _ hc)) (by simpa using hlength)

/-- **A greedy order is the least** of those that respect the relation. -/
theorem Greedy.least (hgreedy : Greedy needs nodes order) (hnodup : order.Nodup)
    (hsub : ∀ a ∈ order, a ∈ nodes) {other : List α} (hperm : other.Perm order)
    (hrespects : Respects needs other) : order = other ∨ List.Lex (· < ·) order other :=
  hgreedy.least_from [] hrespects (hperm.nodup_iff.mpr hnodup)
    (fun a ha => hsub a (hperm.mem_iff.mp ha)) hperm.length_eq.symm

end Greedy

end DpuFabric.Lib
