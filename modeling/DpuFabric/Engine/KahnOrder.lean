/-
  Engine.KahnOrder — THE TOPOLOGICAL ORDER IS RIGHT (`DependencyGraph::topological_order`).

  One invariant ties the loop to the graph (`Kahn.Tracks`): the indegree of a
  service is the number of its edges whose target is not yet emitted, each
  parallel edge on its own, and the ready set holds, in order, every service
  whose count is zero.  So the service the loop takes is the least that could
  come next, and the emitted order is greedy (`Lib.Greedy`).

  When the loop ends short, every service that is left has an edge to another
  one that is left.  The walk of the refusal therefore never gets stuck, and
  its counter is larger than the number of services it can visit.
-/
import DpuFabric.Lib.LeastOrder
import DpuFabric.Engine.KahnLoop

namespace DpuFabric

open Lib

variable {s : ServiceId} {x : Kahn × List ServiceId} {pairs : List (ServiceId × ServiceId)}
  {order : List ServiceId}

namespace DependencyGraph

/-! ## §1. The ordering relation. -/

/-- A `Requires` or `OrderingAfter` edge between two listed services: the
first waits for the second. -/
def WaitsFor (g : DependencyGraph) (services : List ServiceId) (a b : ServiceId) : Prop :=
  a ∈ services ∧ b ∈ services ∧
    ∃ e ∈ g.edges, (e.kind = .requires ∨ e.kind = .orderingAfter)
      ∧ e.fromService = a ∧ e.toService = b

section Pairs

variable (g : DependencyGraph) (services : List ServiceId)

theorem orderNodes_sorted : (orderNodes services).Pairwise (· < ·) :=
  (unique_sorted (List.pairwise_insertionSort _ _)).1

theorem findKey_orderNodes_isSome :
    (findKey (fun x : ServiceId => x) (orderNodes services) s).isSome = true ↔ s ∈ services := by
  rw [← mem_orderNodes services]
  constructor
  · intro h
    obtain ⟨i, hi⟩ := Option.isSome_iff_exists.mp h
    obtain ⟨x, hx, rfl⟩ := findKey_some hi
    exact List.mem_of_getElem? hx
  · intro h
    obtain ⟨i, hi⟩ := List.getElem?_of_mem h
    have hsorted : SortedBy (fun x : ServiceId => x) (orderNodes services) :=
      orderNodes_sorted services
    exact Option.isSome_iff_exists.mpr ⟨i, hsorted.findKey_eq_some_iff.mpr ⟨s, hi, rfl⟩⟩

theorem kind_ne_requiresCapability {kind : DependencyKind} :
    kind ≠ .requiresCapability ↔ kind = .requires ∨ kind = .orderingAfter := by
  cases kind <;> simp

/-- The sorted pairs of the source are the ordering relation. -/
theorem mem_orderPairs {a b : ServiceId} :
    (a, b) ∈ orderPairs g services ↔ WaitsFor g services a b := by
  unfold orderPairs orderEdges WaitsFor
  simp only [List.mem_insertionSort, List.mem_map, List.mem_filter, Bool.and_eq_true,
    decide_eq_true_eq, findKey_orderNodes_isSome, Prod.mk.injEq, kind_ne_requiresCapability]
  constructor
  · rintro ⟨e, ⟨he, ⟨hkind, hfrom⟩, hto⟩, rfl, rfl⟩
    exact ⟨hfrom, hto, e, he, hkind, rfl, rfl⟩
  · rintro ⟨hfrom, hto, e, he, hkind, rfl, rfl⟩
    exact ⟨e, ⟨he, ⟨hkind, hfrom⟩, hto⟩, rfl, rfl⟩

end Pairs

/-! ## §2. What the loop keeps. -/

/-- The edges of a service whose targets are not emitted yet, parallel edges
counted each. -/
def openEdges (pairs : List (ServiceId × ServiceId)) (order : List ServiceId) (s : ServiceId) :
    Nat :=
  (pairs.filter (fun e => decide (e.1 = s ∧ e.2 ∉ order))).length

/-- The indegrees count the open edges, and the ready set is ordered and
complete. -/
structure Kahn.Tracks (pairs : List (ServiceId × ServiceId)) (nodes : List ServiceId)
    (x : Kahn × List ServiceId) : Prop where
  counts : ∀ s, x.1.indegree s = openEdges pairs x.2 s
  sorted : x.1.ready.Pairwise (· < ·)
  complete : ∀ s ∈ nodes, s ∉ x.2 → x.1.indegree s = 0 → s ∈ x.1.ready

theorem openEdges_cons (e : ServiceId × ServiceId) (pairs : List (ServiceId × ServiceId))
    (order : List ServiceId) (s : ServiceId) :
    openEdges (e :: pairs) order s
      = (if e.1 = s ∧ e.2 ∉ order then 1 else 0) + openEdges pairs order s := by
  unfold openEdges
  by_cases h : e.1 = s ∧ e.2 ∉ order
  · rw [List.filter_cons, if_pos (decide_eq_true h), List.length_cons, if_pos h, Nat.add_comm]
  · rw [List.filter_cons, if_neg (fun hopen => h (of_decide_eq_true hopen)), if_neg h,
      Nat.zero_add]

theorem openEdges_eq_zero  : openEdges pairs order s = 0 ↔ ∀ t, (s, t) ∈ pairs → t ∈ order := by
  unfold openEdges
  rw [List.length_eq_zero_iff, List.filter_eq_nil_iff]
  constructor
  · intro h t ht
    by_contra hout
    exact h (s, t) ht (decide_eq_true ⟨rfl, hout⟩)
  · rintro h ⟨a, t⟩ he hopen
    obtain ⟨rfl, hout⟩ := of_decide_eq_true hopen
    exact hout (h t he)

theorem setInsert_sorted {ready : List ServiceId} (h : ready.Pairwise (· < ·)) :
    (setInsert ready s).Pairwise (· < ·) := by
  unfold setInsert
  split
  · exact h
  next hnew =>
  have hle := (h.imp fun hlt => le_of_lt hlt).orderedInsert s ready
  have hnodup : (ready.orderedInsert (· ≤ ·) s).Nodup :=
    (List.perm_orderedInsert _ _ _).nodup_iff.mpr
      (List.nodup_cons.mpr ⟨hnew, h.imp fun hlt => ne_of_lt hlt⟩)
  exact hle.and hnodup |>.imp fun hboth => lt_of_le_of_ne hboth.1 hboth.2

theorem mem_setInsert {ready : List ServiceId} {t : ServiceId} :
    t ∈ setInsert ready s ↔ t = s ∨ t ∈ ready := by
  unfold setInsert
  split
  · next hold =>
    constructor
    · exact .inr
    rintro (rfl | h)
    · exact hold
    · exact h
  · exact (List.perm_orderedInsert _ _ _).mem_iff.trans List.mem_cons

/-- In the middle of a turn: the edges seen so far count with the new order,
the others still with the old one. -/
structure Kahn.Relaxing (seen rest : List (ServiceId × ServiceId)) (nodes order : List ServiceId)
    (current : ServiceId) (k : Kahn) : Prop where
  counts : ∀ s, k.indegree s = openEdges seen (order ++ [current]) s + openEdges rest order s
  sorted : k.ready.Pairwise (· < ·)
  complete : ∀ s ∈ nodes, s ∉ order ++ [current] → k.indegree s = 0 → s ∈ k.ready

variable {nodes order : List ServiceId} {k : Kahn} {current : ServiceId}

theorem openEdges_append (seen rest : List (ServiceId × ServiceId)) (s : ServiceId) :
    openEdges (seen ++ rest) order s = openEdges seen order s + openEdges rest order s := by
  unfold openEdges
  rw [List.filter_append, List.length_append]

theorem Kahn.Relaxing.step {seen rest : List (ServiceId × ServiceId)} {e : ServiceId × ServiceId}
    (h : Kahn.Relaxing seen (e :: rest) nodes order current k) (hnew : current ∉ order) :
    Kahn.Relaxing (seen ++ [e]) rest nodes order current (k.relax current e) := by
  obtain ⟨hcounts, hsorted, hcomplete⟩ := h
  -- what the edge counts for before it is seen, and after
  have hmove : ∀ s, k.indegree s = openEdges seen (order ++ [current]) s
      + ((if e.1 = s ∧ e.2 ∉ order then 1 else 0) + openEdges rest order s) := by
    intro s
    rw [hcounts, openEdges_cons]
  have hseen : ∀ s, openEdges (seen ++ [e]) (order ++ [current]) s
      = openEdges seen (order ++ [current]) s
        + (if e.1 = s ∧ e.2 ∉ order ++ [current] then 1 else 0) := by
    intro s
    rw [openEdges_append, openEdges_cons]
    rfl
  unfold Kahn.relax
  split
  · next hother =>
    -- an edge to another service counts as before
    refine ⟨fun s => ?_, hsorted, hcomplete⟩
    have hsame : e.2 ∉ order ++ [current] ↔ e.2 ∉ order := by simp [hother]
    rw [hmove, hseen]
    simp only [hsame]
    omega
  · next htarget =>
    have htarget : e.2 = current := not_not.mp htarget
    have hout : e.2 ∉ order := htarget ▸ hnew
    have hdone : ¬ e.2 ∉ order ++ [current] := by simp [htarget]
    have hopen : k.indegree e.1 ≠ 0 := by
      rw [hmove, if_pos ⟨rfl, hout⟩]
      omega
    have hclosed : ∀ s, openEdges (seen ++ [e]) (order ++ [current]) s
        = openEdges seen (order ++ [current]) s := by
      intro s
      rw [hseen, if_neg (fun hboth => hdone hboth.2), Nat.add_zero]
    have hafter : ∀ s, (if s = e.1 then k.indegree s - 1 else k.indegree s)
        = openEdges (seen ++ [e]) (order ++ [current]) s + openEdges rest order s := by
      intro s
      rw [hclosed]
      by_cases hs : s = e.1
      · rw [if_pos hs, hmove, if_pos ⟨hs.symm, hout⟩]
        omega
      · rw [if_neg hs, hmove, if_neg (fun hboth => hs hboth.1.symm)]
        omega
    rw [if_neg hopen]
    refine ⟨hafter, ?_, fun s hs hleft hzero => ?_⟩
    · show (if _ then setInsert k.ready e.1 else k.ready).Pairwise (· < ·)
      split
      · exact setInsert_sorted hsorted
      · exact hsorted
    · show s ∈ if _ then setInsert k.ready e.1 else k.ready
      by_cases hse : s = e.1
      · subst hse
        rw [if_pos hzero]
        exact mem_setInsert.mpr (.inl rfl)
      · have hready := hcomplete s hs hleft (by simpa [hse] using hzero)
        split
        · exact mem_setInsert.mpr (.inr hready)
        · exact hready

theorem Kahn.Relaxing.all {seen rest : List (ServiceId × ServiceId)}
    (h : Kahn.Relaxing seen rest nodes order current k) (hnew : current ∉ order) :
    Kahn.Relaxing (seen ++ rest) [] nodes order current (rest.foldl (Kahn.relax current) k) := by
  induction rest generalizing seen k with
  | nil => rwa [List.append_nil]
  | cons e rest ih =>
    have hnext := ih (h.step hnew)
    rwa [List.append_assoc, List.singleton_append] at hnext

theorem Kahn.Tracks.turn (h : Kahn.Tracks pairs nodes x) (hdistinct : Kahn.Distinct nodes x) :
    Kahn.Tracks pairs nodes (kahnTurn pairs x) := by
  unfold kahnTurn
  split
  · exact h
  next current ready hready =>
  have hnodup := hdistinct.nodup
  rw [hready] at hnodup
  have hnew : current ∉ x.2 := notMem_front hnodup
  have hsorted := h.sorted
  rw [hready] at hsorted
  have hstart : Kahn.Relaxing [] pairs nodes x.2 current { x.1 with ready } := by
    refine ⟨fun s => ?_, (List.pairwise_cons.mp hsorted).2, fun s hs hleft hzero => ?_⟩
    · rw [show openEdges [] (x.2 ++ [current]) s = 0 from rfl, Nat.zero_add]
      exact h.counts s
    have hboth : s ∉ x.2 ∧ s ≠ current := by simpa using hleft
    have hmem := h.complete s hs hboth.1 hzero
    rw [hready] at hmem
    exact (List.mem_cons.mp hmem).resolve_left hboth.2
  obtain ⟨hcounts, hsorted, hcomplete⟩ := hstart.all hnew
  exact ⟨hcounts, hsorted, hcomplete⟩

theorem Kahn.Tracks.after (hpairs : ∀ e ∈ pairs, e.1 ∈ nodes) (h : Kahn.Tracks pairs nodes x)
    (hdistinct : Kahn.Distinct nodes x) (n : Nat) :
    Kahn.Tracks pairs nodes (kahnAfter pairs n x) := by
  induction n generalizing x with
  | zero => exact h
  | succ n ih => exact ih (h.turn hdistinct) (hdistinct.turn hpairs)

/-! ## §3. The emitted order is greedy. -/

section Order

variable (g : DependencyGraph) (services : List ServiceId)

theorem orderStart_tracks : Kahn.Tracks (orderPairs g services) (orderNodes services)
    (orderStart g services, []) where
  counts s := by
    -- sorting the endpoints does not change how many there are
    have hperm := List.perm_insertionSort (fun a b => toLex a ≤ toLex b)
      ((orderEdges g services).map (fun e => (e.fromService, e.toService)))
    have hcount := (hperm.filter (fun e => decide (e.1 = s ∧ e.2 ∉ ([] : List ServiceId)))).length_eq
    show ((orderEdges g services).filter (fun e => decide (e.fromService = s))).length
      = openEdges (orderPairs g services) [] s
    unfold openEdges orderPairs
    rw [hcount, List.filter_map, List.length_map]
    simp [Function.comp_def]
  sorted := (orderNodes_sorted services).filter _
  complete s hs _ hzero := List.mem_filter.mpr ⟨hs, decide_eq_true hzero⟩

/-- A service is ready for the loop exactly if it could come next. -/
theorem mem_ready_iff (htracks : Kahn.Tracks (orderPairs g services) (orderNodes services) x)
    (hdistinct : Kahn.Distinct (orderNodes services) x) (s : ServiceId) :
    s ∈ x.1.ready ↔ s ∈ readySet (WaitsFor g services) (orderNodes services) x.2 := by
  have hzero : x.1.indegree s = 0 ↔ ∀ t, WaitsFor g services s t → t ∈ x.2 := by
    rw [htracks.counts, openEdges_eq_zero]
    simp only [mem_orderPairs]
  constructor
  · intro hs
    have hmem : s ∈ x.2 ++ x.1.ready := List.mem_append_right _ hs
    refine ⟨hdistinct.inside s hmem, fun hold => ?_, hzero.mp (hdistinct.closed s hmem)⟩
    exact (List.nodup_append.mp hdistinct.nodup).2.2 s hold s hs rfl
  · rintro ⟨hnode, hnew, hdone⟩
    exact htracks.complete s hnode hnew (hzero.mpr hdone)

theorem kahnTurn_greedy (htracks : Kahn.Tracks (orderPairs g services) (orderNodes services) x)
    (hdistinct : Kahn.Distinct (orderNodes services) x)
    (h : Greedy (WaitsFor g services) (orderNodes services) x.2) :
    Greedy (WaitsFor g services) (orderNodes services) (kahnTurn (orderPairs g services) x).2 := by
  unfold kahnTurn
  split
  · exact h
  next current ready hready =>
  refine h.concat ⟨(mem_ready_iff g services htracks hdistinct current).mp ?_, fun s hs => ?_⟩
  · rw [hready]
    exact List.mem_cons_self
  -- the ready set is sorted, so its first service is the least
  have hmem := (mem_ready_iff g services htracks hdistinct s).mpr hs
  have hsorted := htracks.sorted
  rw [hready] at hmem hsorted
  rcases List.mem_cons.mp hmem with rfl | hmem
  · exact le_rfl
  · exact le_of_lt ((List.pairwise_cons.mp hsorted).1 s hmem)

theorem kahnAfter_greedy (htracks : Kahn.Tracks (orderPairs g services) (orderNodes services) x)
    (hdistinct : Kahn.Distinct (orderNodes services) x)
    (h : Greedy (WaitsFor g services) (orderNodes services) x.2) (n : Nat) :
    Greedy (WaitsFor g services) (orderNodes services)
      (kahnAfter (orderPairs g services) n x).2 := by
  induction n generalizing x with
  | zero => exact h
  | succ n ih =>
    exact ih (htracks.turn hdistinct) (hdistinct.turn (orderPairs_inside g services))
      (kahnTurn_greedy g services htracks hdistinct h)

theorem emitted_greedy :
    Greedy (WaitsFor g services) (orderNodes services) (emitted g services) := by
  unfold emitted
  rw [kahnLoop_eq]
  exact kahnAfter_greedy g services (orderStart_tracks g services) (orderStart_distinct g services)
    Greedy.nil _

theorem none_ready :
    readySet (WaitsFor g services) (orderNodes services) (emitted g services) = ∅ := by
  have htracks := (orderStart_tracks g services).after (orderPairs_inside g services)
    (orderStart_distinct g services) (orderNodes services).length
  have hdistinct := kahnAfter_distinct g services (orderNodes services).length
  apply Set.eq_empty_of_forall_notMem
  intro s hs
  unfold emitted at hs
  rw [kahnLoop_eq] at hs
  have hready := (mem_ready_iff g services htracks hdistinct s).mpr hs
  rw [kahnAfter_ends] at hready
  simp at hready

/-- A service that is left waits for another one that is left. -/
theorem unresolved_waits (hs : s ∈ unresolved g services) :
    ∃ t ∈ unresolved g services, (s, t) ∈ orderPairs g services := by
  obtain ⟨hnode, hout⟩ := List.mem_filter.mp hs
  have hends : ∀ a b, WaitsFor g services a b → b ∈ orderNodes services :=
    fun a b hwaits => (mem_orderNodes services).mpr hwaits.2.1
  obtain ⟨t, hwaits, htnode, htout⟩ :=
    waits_of_none_ready hends (none_ready g services) hnode (of_decide_eq_true hout)
  exact ⟨t, List.mem_filter.mpr ⟨htnode, decide_eq_true htout⟩,
    (mem_orderPairs g services).mpr hwaits⟩

/-! ## §4. The reported cycle. -/

/-- The walk of the refusal: it ends at a node it has visited.  The services
on the path are distinct and all left over, so the counter outlasts them. -/
theorem cyclePath_cycle {fuel : Nat} (front : List ServiceId) {cursor : ServiceId}
    (hjoined : (front ++ [cursor]).IsChain (WaitsFor g services))
    (hnodup : (front ++ [cursor]).Nodup)
    (hleft : ∀ s ∈ front ++ [cursor], s ∈ unresolved g services)
    (hfuel : (unresolved g services).length < fuel + front.length + 1) :
    ∃ walk last, cyclePath (orderPairs g services) (unresolved g services) fuel cursor
        (front ++ [cursor]) = walk ++ [last]
      ∧ CycleWalk (WaitsFor g services) walk last := by
  induction fuel generalizing front cursor with
  | zero =>
    have hle := (List.subperm_of_subset hnodup hleft).length_le
    rw [List.length_append, List.length_singleton] at hle
    omega
  | succ fuel ih =>
    have hcursor : cursor ∈ unresolved g services := hleft cursor (by simp)
    obtain ⟨t, ht, hpair⟩ := unresolved_waits g services hcursor
    unfold cyclePath
    split
    · next hnone =>
      -- the walk is never stuck
      exact absurd (decide_eq_true ⟨rfl, ht⟩)
        (List.find?_eq_none.mp hnone (cursor, t) hpair)
    · next e hfound =>
      have hchosen := List.find?_some hfound
      obtain ⟨hfrom, htarget⟩ := of_decide_eq_true hchosen
      have hwaits : WaitsFor g services cursor e.2 := by
        rw [← mem_orderPairs, ← hfrom]
        exact List.mem_of_find?_eq_some hfound
      have hlonger : (front ++ [cursor] ++ [e.2]).IsChain (WaitsFor g services) := by
        rw [List.append_assoc, List.singleton_append, List.isChain_append_cons_cons]
        exact ⟨hjoined, hwaits, List.isChain_singleton _⟩
      split
      · next hseen => exact ⟨front ++ [cursor], e.2, rfl, hlonger, hseen⟩
      next hfresh =>
      refine ih (front ++ [cursor]) hlonger ?_ ?_ ?_
      · exact List.nodup_append.mpr ⟨hnodup, List.nodup_singleton _, by
          intro a ha b hb
          obtain rfl := List.mem_singleton.mp hb
          exact fun heq => hfresh (heq ▸ ha)⟩
      · intro s hs
        rcases List.mem_append.mp hs with hs | hs
        · exact hleft s hs
        · obtain rfl := List.mem_singleton.mp hs
          exact htarget
      · rw [List.length_append, List.length_singleton]
        omega

/-! ## §5. The order and the refusal. -/

theorem topologicalOrder_error {refusal : Status}
    (h : (g.topologicalOrder services).1 = .error refusal) :
    ∃ walk last, (g.topologicalOrder services).2 = walk ++ [last]
      ∧ CycleWalk (WaitsFor g services) walk last := by
  rw [topologicalOrder_eq] at h ⊢
  split at h
  · next hshort =>
    rw [if_pos hshort]
    cases hleft : unresolved g services with
    | nil => exact absurd hleft (unresolved_of_short g services hshort)
    | cons cursor others =>
      show ∃ walk last, cyclePath _ (cursor :: others) _ cursor [cursor] = walk ++ [last] ∧ _
      rw [← hleft]
      refine cyclePath_cycle g services [] ?_ ?_ ?_ ?_
      · exact List.isChain_singleton _
      · exact List.nodup_singleton _
      · intro s hs
        obtain rfl := List.mem_singleton.mp hs
        rw [hleft]
        exact List.mem_cons_self
      · show _ < _ + 0 + 1
        omega
  · simp at h

theorem topologicalOrder_greedy (h : (g.topologicalOrder services).1 = .ok order) :
    Greedy (WaitsFor g services) (orderNodes services) order := by
  rw [topologicalOrder_eq] at h
  split at h
  · simp at h
  · obtain rfl := Except.ok.inj h
    exact emitted_greedy g services

theorem topologicalOrder_respects (h : (g.topologicalOrder services).1 = .ok order) : Respects
    (WaitsFor g services) order :=
  (topologicalOrder_greedy g services h).respects fun a _ hwaits =>
    ((topologicalOrder_ok g services h).2 a).mpr hwaits.1

theorem topologicalOrder_exists_iff :
    (∃ order, (g.topologicalOrder services).1 = .ok order) ↔ Acyclic (WaitsFor g services) := by
  refine ⟨?_, fun hacyclic => ?_⟩
  · rintro ⟨order, h⟩
    exact (topologicalOrder_respects g services h).acyclic
  cases h : (g.topologicalOrder services).1 with
  | ok order => exact ⟨order, rfl⟩
  | error refusal =>
    obtain ⟨walk, last, -, hcycle⟩ := topologicalOrder_error g services h
    exact absurd hacyclic hcycle.not_acyclic

/-- **The topological order is correct and complete.**  It exists exactly if
the ordering edges between the listed services have no cycle; it has every
listed service once, each after what it waits for, and no other such order is
smaller; and a refusal comes with a walk along ordering edges that returns to
a service it has passed. -/
theorem topologicalOrder_correct :
    ((∃ order, (g.topologicalOrder services).1 = .ok order) ↔ Acyclic (WaitsFor g services))
    ∧ (∀ order, (g.topologicalOrder services).1 = .ok order →
        order.Nodup ∧ (∀ s, s ∈ order ↔ s ∈ services)
        ∧ Respects (WaitsFor g services) order
        ∧ ∀ other : List ServiceId, other.Perm order → Respects (WaitsFor g services) other →
            order = other ∨ List.Lex (· < ·) order other)
    ∧ ∀ refusal, (g.topologicalOrder services).1 = .error refusal →
        2 ≤ (g.topologicalOrder services).2.length
        ∧ ∃ walk last, (g.topologicalOrder services).2 = walk ++ [last]
          ∧ CycleWalk (WaitsFor g services) walk last := by
  refine ⟨topologicalOrder_exists_iff g services, fun order h => ?_, fun refusal h => ?_⟩
  · obtain ⟨hnodup, hmem⟩ := topologicalOrder_ok g services h
    refine ⟨hnodup, hmem, topologicalOrder_respects g services h, fun other hperm hrespects => ?_⟩
    exact (topologicalOrder_greedy g services h).least hnodup
      (fun s hs => (mem_orderNodes services).mpr ((hmem s).mp hs)) hperm hrespects
  · obtain ⟨walk, last, hpath, hcycle⟩ := topologicalOrder_error g services h
    refine ⟨?_, walk, last, hpath, hcycle⟩
    have hvisited := List.length_pos_of_mem hcycle.returns
    rw [hpath, List.length_append, List.length_singleton]
    omega

end Order

end DependencyGraph

end DpuFabric
