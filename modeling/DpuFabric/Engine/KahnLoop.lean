/-
  Engine.KahnLoop — THE ORDERING LOOP ENDS (`DependencyGraph::topological_order`).

  The loop has no counter: it runs until the ready set is empty.  What bounds
  it is that a service enters the set only when its indegree FALLS to zero, so
  the services that are emitted or ready are distinct, and all of them are
  among the nodes (`Kahn.Distinct`).  After as many turns as there are nodes
  the ready set is therefore empty, and an order that is too short leaves a
  node out.
-/
import DpuFabric.Engine.Dependency

namespace DpuFabric

open Lib

variable {edges : List (ServiceId × ServiceId)} {x : Kahn × List ServiceId} {s : ServiceId}

namespace DependencyGraph

/-! ## §1. The parts of the ordering. -/

/-- The nodes: the services in order, each once. -/
def orderNodes (services : List ServiceId) : List ServiceId :=
  unique (services.insertionSort (· ≤ ·))

/-- The ordering edges between nodes. -/
def orderEdges (g : DependencyGraph) (services : List ServiceId) : List Dependency :=
  g.edges.filter (fun e => decide (e.kind ≠ .requiresCapability)
    && (findKey (fun x : ServiceId => x) (orderNodes services) e.fromService).isSome
    && (findKey (fun x : ServiceId => x) (orderNodes services) e.toService).isSome)

/-- Their endpoints, in order. -/
def orderPairs (g : DependencyGraph) (services : List ServiceId) : List (ServiceId × ServiceId) :=
  ((orderEdges g services).map (fun e => (e.fromService, e.toService))).insertionSort
    (fun a b => toLex a ≤ toLex b)

/-- The loop at its start. -/
def orderStart (g : DependencyGraph) (services : List ServiceId) : Kahn :=
  let indegree := fun s =>
    ((orderEdges g services).filter (fun e => decide (e.fromService = s))).length
  { ready := (orderNodes services).filter (fun s => decide (indegree s = 0)), indegree }

/-- The emitted order. -/
def emitted (g : DependencyGraph) (services : List ServiceId) : List ServiceId :=
  kahnLoop (orderPairs g services) (orderNodes services).length (orderStart g services) []

/-- The nodes that were not emitted. -/
def unresolved (g : DependencyGraph) (services : List ServiceId) : List ServiceId :=
  (orderNodes services).filter (fun s => decide (s ∉ emitted g services))

theorem topologicalOrder_eq (g : DependencyGraph) (services : List ServiceId) :
    g.topologicalOrder services
      = if (emitted g services).length ≠ (orderNodes services).length then
          (.error (refuse .dependencyCycle (txt "dependency cycle detected")),
            match unresolved g services with
            | [] => []
            | cursor :: _ => cyclePath (orderPairs g services) (unresolved g services)
                ((unresolved g services).length + 1) cursor [cursor])
        else (.ok (emitted g services), []) := rfl

/-! ## §2. One turn. -/

/-- One turn of the loop: the smallest ready service is emitted. -/
def kahnTurn (edges : List (ServiceId × ServiceId)) (x : Kahn × List ServiceId) :
    Kahn × List ServiceId :=
  match x.1.ready with
  | [] => x
  | current :: ready =>
    (edges.foldl (Kahn.relax current) { x.1 with ready }, x.2 ++ [current])

/-- The loop after some turns. -/
def kahnAfter (edges : List (ServiceId × ServiceId)) : Nat → Kahn × List ServiceId →
    Kahn × List ServiceId
  | 0, x => x
  | n + 1, x => kahnAfter edges n (kahnTurn edges x)

theorem kahnTurn_nil (h : x.1.ready = []) : kahnTurn edges x = x := by
  unfold kahnTurn
  rw [h]

theorem kahnAfter_nil (h : x.1.ready = []) (n : Nat) : kahnAfter edges n x = x := by
  induction n with
  | zero => rfl
  | succ n ih => rw [kahnAfter, kahnTurn_nil h, ih]

theorem kahnLoop_eq (edges : List (ServiceId × ServiceId)) (fuel : Nat) (k : Kahn)
    (order : List ServiceId) : kahnLoop edges fuel k order = (kahnAfter edges fuel (k, order)).2 := by
  induction fuel generalizing k order with
  | zero => rfl
  | succ fuel ih =>
    simp only [kahnLoop]
    split
    · next hready => rw [kahnAfter_nil (x := (k, order)) hready]
    next current ready hready =>
    rw [ih, kahnAfter, kahnTurn]
    simp only [hready]

/-- The emitted and the ready services are distinct nodes without open
requirements. -/
structure Kahn.Distinct (nodes : List ServiceId) (x : Kahn × List ServiceId) : Prop where
  nodup : (x.2 ++ x.1.ready).Nodup
  inside : ∀ s ∈ x.2 ++ x.1.ready, s ∈ nodes
  closed : ∀ s ∈ x.2 ++ x.1.ready, x.1.indegree s = 0

variable {nodes order : List ServiceId} {k : Kahn}

theorem setInsert_perm {ready : List ServiceId} (h : s ∉ ready) :
    (setInsert ready s).Perm (s :: ready) := by
  rw [setInsert, if_neg h]
  exact List.perm_orderedInsert _ _ _

/-- An edge is relaxed: its dependent joins the ready set when its last
requirement is emitted. -/
theorem Kahn.Distinct.relax (h : Kahn.Distinct nodes (k, order)) (current : ServiceId)
    {edge : ServiceId × ServiceId} (hedge : edge.1 ∈ nodes) :
    Kahn.Distinct nodes (k.relax current edge, order) := by
  unfold Kahn.relax
  split
  · exact h
  split
  · exact h
  next hopen =>
  have hnew : edge.1 ∉ order ++ k.ready := fun hmem => hopen (h.closed _ hmem)
  have hkeep : ∀ s ∈ order ++ k.ready,
      (if s = edge.1 then k.indegree s - 1 else k.indegree s) = 0 := by
    intro s hs
    have hne : s ≠ edge.1 := fun heq => hnew (heq ▸ hs)
    rw [if_neg hne]
    exact h.closed s hs
  simp only [if_true]
  split
  · next hzero =>
    have hperm : (order ++ setInsert k.ready edge.1).Perm (edge.1 :: (order ++ k.ready)) :=
      ((setInsert_perm fun hr => hnew (List.mem_append_right _ hr)).append_left order).trans
        List.perm_middle
    refine ⟨hperm.nodup_iff.mpr (List.nodup_cons.mpr ⟨hnew, h.nodup⟩), fun s hs => ?_,
      fun s hs => ?_⟩
    · rcases List.mem_cons.mp (hperm.mem_iff.mp hs) with rfl | hs
      · exact hedge
      · exact h.inside s hs
    · rcases List.mem_cons.mp (hperm.mem_iff.mp hs) with rfl | hs
      · simpa using hzero
      · exact hkeep s hs
  · exact ⟨h.nodup, h.inside, hkeep⟩

theorem Kahn.Distinct.relaxAll (current : ServiceId)
    (hedges : ∀ e ∈ edges, e.1 ∈ nodes) (h : Kahn.Distinct nodes (k, order)) :
    Kahn.Distinct nodes (edges.foldl (Kahn.relax current) k, order) := by
  induction edges generalizing k with
  | nil => exact h
  | cons e edges ih =>
    exact ih (fun e' he' => hedges e' (List.mem_cons_of_mem _ he'))
      (h.relax current (hedges e List.mem_cons_self))

theorem Kahn.Distinct.turn (hedges : ∀ e ∈ edges, e.1 ∈ nodes) (h : Kahn.Distinct nodes x) :
    Kahn.Distinct nodes (kahnTurn edges x) := by
  unfold kahnTurn
  split
  · exact h
  next current ready hready =>
  refine Kahn.Distinct.relaxAll current hedges ?_
  have hmove : x.2 ++ [current] ++ ready = x.2 ++ x.1.ready := by
    rw [hready, List.append_assoc, List.singleton_append]
  exact ⟨hmove ▸ h.nodup, hmove ▸ h.inside, hmove ▸ h.closed⟩

theorem Kahn.Distinct.after
    (hedges : ∀ e ∈ edges, e.1 ∈ nodes) (h : Kahn.Distinct nodes x) (n : Nat) :
    Kahn.Distinct nodes (kahnAfter edges n x) := by
  induction n generalizing x with
  | zero => exact h
  | succ n ih => exact ih (h.turn hedges)

/-- A loop that has not come to its end has emitted one service per turn. -/
theorem kahnAfter_length {n : Nat} (h : (kahnAfter edges n x).1.ready ≠ []) :
    (kahnAfter edges n x).2.length = x.2.length + n := by
  induction n generalizing x with
  | zero => rfl
  | succ n ih =>
    rw [kahnAfter, ih h]
    unfold kahnTurn
    split
    · next hready =>
      rw [kahnAfter_nil hready] at h
      exact absurd hready h
    · rw [List.length_append, List.length_singleton]
      omega

/-! ## §3. The whole loop. -/

theorem unique_sorted {l : List ServiceId} (h : l.Pairwise (· ≤ ·)) :
    (unique l).Pairwise (· < ·) ∧ ∀ s ∈ unique l, s ∈ l := by
  induction l with
  | nil => exact ⟨List.Pairwise.nil, fun _ hs => hs⟩
  | cons a l ih =>
    cases l with
    | nil => exact ⟨List.pairwise_singleton _ _, fun _ hs => hs⟩
    | cons b l =>
      obtain ⟨hhead, htail⟩ := List.pairwise_cons.mp h
      obtain ⟨hsorted, hsub⟩ := ih htail
      simp only [unique]
      split
      · exact ⟨hsorted, fun s hs => List.mem_cons_of_mem _ (hsub s hs)⟩
      next hne =>
      refine ⟨List.pairwise_cons.mpr ⟨fun s hs => ?_, hsorted⟩, fun s hs => ?_⟩
      · have hlt : a < b := lt_of_le_of_ne (hhead b List.mem_cons_self) hne
        have hle : b ≤ s := by
          rcases List.mem_cons.mp (hsub s hs) with rfl | hs
          · exact le_rfl
          · exact (List.pairwise_cons.mp htail).1 s hs
        exact hlt.trans_le hle
      · rcases List.mem_cons.mp hs with rfl | hs
        · exact List.mem_cons_self
        · exact List.mem_cons_of_mem _ (hsub s hs)

theorem orderNodes_nodup (services : List ServiceId) : (orderNodes services).Nodup :=
  (unique_sorted (List.pairwise_insertionSort _ _)).1.imp fun hlt => ne_of_lt hlt

variable (g : DependencyGraph) (services : List ServiceId)

theorem orderPairs_inside : ∀ e ∈ orderPairs g services, e.1 ∈ orderNodes services := by
  intro e he
  obtain ⟨edge, hedge, rfl⟩ := List.mem_map.mp ((List.mem_insertionSort _).mp he)
  obtain ⟨-, hinside⟩ := List.mem_filter.mp hedge
  simp only [Bool.and_eq_true] at hinside
  obtain ⟨i, hi⟩ := Option.isSome_iff_exists.mp hinside.1.2
  obtain ⟨s, hs, hkey⟩ := findKey_some hi
  exact hkey ▸ List.mem_of_getElem? hs

theorem orderStart_distinct : Kahn.Distinct (orderNodes services) (orderStart g services, []) where
  nodup := (orderNodes_nodup services).filter _
  inside _ hs := (List.mem_filter.mp hs).1
  closed _ hs := of_decide_eq_true (List.mem_filter.mp hs).2

theorem kahnAfter_distinct (n : Nat) : Kahn.Distinct (orderNodes services)
    (kahnAfter (orderPairs g services) n (orderStart g services, [])) :=
  (orderStart_distinct g services).after (orderPairs_inside g services) n

/-- **The loop ends** after at most one turn per node. -/
theorem kahnAfter_ends :
    (kahnAfter (orderPairs g services) (orderNodes services).length
      (orderStart g services, [])).1.ready = [] := by
  by_contra hopen
  have hlength := kahnAfter_length hopen
  obtain ⟨hnodup, hinside, -⟩ := kahnAfter_distinct g services (orderNodes services).length
  have hle := (List.subperm_of_subset hnodup hinside).length_le
  have hready := List.length_pos_of_ne_nil hopen
  rw [List.length_append, hlength] at hle
  simp only [List.length_nil] at hle
  omega

theorem unresolved_of_short (h : (emitted g services).length ≠ (orderNodes services).length) :
    unresolved g services ≠ [] := by
  intro hnone
  obtain ⟨hnodup, hinside, -⟩ := kahnAfter_distinct g services (orderNodes services).length
  have hemitted : (kahnAfter (orderPairs g services) (orderNodes services).length
      (orderStart g services, [])).2 = emitted g services := (kahnLoop_eq _ _ _ _).symm
  rw [kahnAfter_ends, List.append_nil, hemitted] at hnodup hinside
  have hle := (List.subperm_of_subset hnodup hinside).length_le
  have hsub : orderNodes services ⊆ emitted g services := by
    intro s hs
    by_contra hout
    have hmem : s ∈ unresolved g services := List.mem_filter.mpr ⟨hs, decide_eq_true hout⟩
    rw [hnone] at hmem
    simp at hmem
  have hge := (List.subperm_of_subset (orderNodes_nodup services) hsub).length_le
  exact h (le_antisymm hle hge)

theorem mem_unique {l : List ServiceId} (h : s ∈ l) : s ∈ unique l := by
  induction l with
  | nil => exact h
  | cons a l ih =>
    cases l with
    | nil => exact h
    | cons b l =>
      simp only [unique]
      split
      · next heq =>
        rcases List.mem_cons.mp h with rfl | h
        · exact ih (heq ▸ List.mem_cons_self)
        · exact ih h
      · rcases List.mem_cons.mp h with rfl | h
        · exact List.mem_cons_self
        · exact List.mem_cons_of_mem _ (ih h)

theorem mem_orderNodes : s ∈ orderNodes services ↔ s ∈ services :=
  ⟨fun h => (List.mem_insertionSort _).mp
      ((unique_sorted (List.pairwise_insertionSort _ _)).2 s h),
    fun h => mem_unique ((List.mem_insertionSort _).mpr h)⟩

theorem topologicalOrder_ok {order : List ServiceId}
    (h : (g.topologicalOrder services).1 = .ok order) :
    order.Nodup ∧ ∀ s, s ∈ order ↔ s ∈ services := by
  rw [topologicalOrder_eq] at h
  split at h
  · simp at h
  next hlength =>
  obtain rfl := Except.ok.inj h
  obtain ⟨hnodup, hinside, -⟩ := kahnAfter_distinct g services (orderNodes services).length
  rw [kahnAfter_ends, List.append_nil, ← kahnLoop_eq] at hnodup hinside
  have hperm := (List.subperm_of_subset hnodup hinside).perm_of_length_le
    (not_not.mp hlength).ge
  exact ⟨hnodup, fun s => hperm.mem_iff.trans (mem_orderNodes services)⟩

end DependencyGraph

end DpuFabric
