/-
  Engine.Graph — WHAT `DependencyGraph::build` ACCEPTS.

  Sorting puts equal endpoints next to each other, so one look at neighbours
  is enough to refuse duplicates: an edge list is accepted exactly if it is
  short enough, every edge passes its own checks, and no two edges share
  endpoints and kind (`build_eq_ok_iff`).  On the sorted edges the search of
  `outgoing` finds all edges of a service (`mem_outgoing`).
-/
import DpuFabric.Engine.Dependency

namespace DpuFabric

open Lib

variable {g : DependencyGraph} {edges : List Dependency}

/-! ## §1. The canonical edge order. -/

/-- What makes two edges duplicates of each other. -/
def Dependency.endpoints (e : Dependency) : ServiceId × ServiceId × DependencyKind :=
  (e.fromService, e.toService, e.kind)

theorem DependencyKind.ordinal_injective : Function.Injective DependencyKind.ordinal := by
  intro a b h
  cases a <;> cases b <;> first | rfl | exact absurd h (by decide)

/-- The part of the sort key that names the endpoints. -/
def Dependency.endpointKey (e : Dependency) : ServiceId ×ₗ ServiceId ×ₗ Nat :=
  toLex (e.fromService, toLex (e.toService, e.kind.ordinal))

theorem Dependency.endpointKey_eq_iff {a b : Dependency} :
    a.endpointKey = b.endpointKey ↔ a.endpoints = b.endpoints := by
  simp only [Dependency.endpointKey, Dependency.endpoints, toLex_inj, Prod.mk.injEq,
    DependencyKind.ordinal_injective.eq_iff]

theorem Dependency.endpointKey_le {a b : Dependency} (h : a.sortKey ≤ b.sortKey) :
    a.endpointKey ≤ b.endpointKey := by
  simp only [Dependency.sortKey, Dependency.endpointKey, Prod.Lex.toLex_le_toLex] at h ⊢
  rcases h with h | ⟨hfrom, h | ⟨hto, h | ⟨hkind, -⟩⟩⟩
  · exact .inl h
  · exact .inr ⟨hfrom, .inl h⟩
  · exact .inr ⟨hfrom, .inr ⟨hto, h.le⟩⟩
  · exact .inr ⟨hfrom, .inr ⟨hto, hkind.le⟩⟩

theorem Dependency.sortKey_injective : Function.Injective Dependency.sortKey := by
  intro a b h
  simp only [Dependency.sortKey, toLex_inj, Prod.mk.injEq,
    DependencyKind.ordinal_injective.eq_iff] at h
  obtain ⟨hfrom, hto, hkind, hid⟩ := h
  cases a
  cases b
  simp_all

namespace DependencyGraph

theorem insertionSort_sorted (edges : List Dependency) :
    (edges.insertionSort (fun a b => a.sortKey ≤ b.sortKey)).Pairwise
      (fun a b => a.sortKey ≤ b.sortKey) := by
  have : Std.Total (fun a b : Dependency => a.sortKey ≤ b.sortKey) := ⟨fun a b => le_total _ _⟩
  have : IsTrans Dependency (fun a b => a.sortKey ≤ b.sortKey) := ⟨fun _ _ _ => le_trans⟩
  exact List.pairwise_insertionSort _ edges

/-- Neighbours are enough to find a duplicate in a sorted list. -/
theorem duplicateEdge_eq_none_iff (h : edges.Pairwise (fun a b => a.sortKey ≤ b.sortKey)) :
    duplicateEdge edges = none ↔ edges.Pairwise (fun a b => a.endpointKey < b.endpointKey) := by
  induction edges with
  | nil => simp [duplicateEdge]
  | cons a rest ih =>
    cases rest with
    | nil => simp [duplicateEdge]
    | cons b rest =>
      obtain ⟨hhead, htail⟩ := List.pairwise_cons.mp h
      have hsame : (a.fromService = b.fromService ∧ a.toService = b.toService
          ∧ a.kind = b.kind) ↔ a.endpointKey = b.endpointKey := by
        rw [Dependency.endpointKey_eq_iff]
        simp only [Dependency.endpoints, Prod.mk.injEq]
      have hab := Dependency.endpointKey_le (hhead b List.mem_cons_self)
      simp only [duplicateEdge, hsame]
      by_cases heq : a.endpointKey = b.endpointKey
      · rw [if_pos heq]
        refine ⟨fun hnone => absurd hnone (by simp), fun hsorted => ?_⟩
        exact absurd heq ((List.pairwise_cons.mp hsorted).1 b List.mem_cons_self).ne
      · rw [if_neg heq, ih htail]
        refine ⟨fun hsorted => List.pairwise_cons.mpr ⟨fun c hc => ?_, hsorted⟩,
          fun hsorted => (List.pairwise_cons.mp hsorted).2⟩
        have hlt : a.endpointKey < b.endpointKey := lt_of_le_of_ne hab heq
        rcases List.mem_cons.mp hc with rfl | hc
        · exact hlt
        · exact hlt.trans ((List.pairwise_cons.mp hsorted).1 c hc)

/-! ## §2. The accepted graphs. -/

/-- **`build` accepts** an edge list exactly if it fits, every edge is
valid, and no two edges have the same endpoints and kind. -/
theorem build_eq_ok_iff {maxEdges : Nat} :
    build edges maxEdges = .ok g ↔
      edges.length ≤ maxEdges ∧ (∀ e ∈ edges, checkEdge e = none)
      ∧ (edges.map Dependency.endpoints).Nodup
      ∧ g = { edges := edges.insertionSort (fun a b => a.sortKey ≤ b.sortKey) } := by
  have hperm := List.perm_insertionSort (fun a b : Dependency => a.sortKey ≤ b.sortKey) edges
  have hnodup : duplicateEdge (edges.insertionSort (fun a b => a.sortKey ≤ b.sortKey)) = none ↔
      (edges.map Dependency.endpoints).Nodup := by
    rw [duplicateEdge_eq_none_iff (insertionSort_sorted edges),
      ← (hperm.map Dependency.endpoints).nodup_iff]
    constructor
    · intro hsorted
      refine List.pairwise_map.mpr (hsorted.imp fun hlt heq => ?_)
      exact hlt.ne (Dependency.endpointKey_eq_iff.mpr heq)
    · intro hdistinct
      refine ((insertionSort_sorted edges).and (List.pairwise_map.mp hdistinct)).imp ?_
      intro a b hab
      exact lt_of_le_of_ne (Dependency.endpointKey_le hab.1)
        fun heq => hab.2 (Dependency.endpointKey_eq_iff.mp heq)
  unfold build
  by_cases hlength : maxEdges < edges.length
  · rw [if_pos hlength]
    exact ⟨fun h => absurd h (by simp), fun h => absurd h.1 (by omega)⟩
  rw [if_neg hlength]
  cases hcheck : edges.findSome? checkEdge with
  | some refusal =>
    refine ⟨fun h => absurd h (by simp), fun h => ?_⟩
    exact absurd (List.findSome?_eq_none_iff.mpr h.2.1) (by rw [hcheck]; simp)
  | none =>
    have hvalid := List.findSome?_eq_none_iff.mp hcheck
    simp only
    cases hdup : duplicateEdge (edges.insertionSort (fun a b => a.sortKey ≤ b.sortKey)) with
    | some previous =>
      refine ⟨fun h => absurd h (by simp), fun h => ?_⟩
      exact absurd (hnodup.mpr h.2.2.1) (by rw [hdup]; simp)
    | none =>
      simp only [Except.ok.injEq]
      exact ⟨fun h => ⟨not_lt.mp hlength, hvalid, hnodup.mp hdup, h.symm⟩,
        fun h => h.2.2.2.symm⟩

/-- The edges stand in the canonical order. -/
def Sorted (g : DependencyGraph) : Prop :=
  g.edges.Pairwise (fun a b => a.sortKey ≤ b.sortKey)

theorem sorted_of_build {maxEdges : Nat} (h : build edges maxEdges = .ok g) : g.Sorted := by
  obtain ⟨-, -, -, rfl⟩ := build_eq_ok_iff.mp h
  exact insertionSort_sorted edges

/-! ## §3. The edges of a service. -/

theorem Sorted.outgoing (h : g.Sorted) (service : ServiceId) :
    g.outgoing service = g.edges.filter (fun e => decide (e.fromService = service)) := by
  have hfrom : g.edges.Pairwise (fun a b => a.fromService ≤ b.fromService) := by
    refine h.imp fun hab => ?_
    simp only [Dependency.sortKey, Prod.Lex.toLex_le_toLex] at hab
    rcases hab with hlt | ⟨heq, -⟩
    · exact hlt.le
    · exact heq.le
  exact drop_lowerBound_takeWhile hfrom service

theorem mem_requirements_step {out : List ServiceId} {e : Dependency} {target : ServiceId} :
    (target ∈ if e.kind = .requires ∨ e.kind = .requiresCapability then
        if e.toService ∈ out then out else out ++ [e.toService]
      else out)
    ↔ target ∈ out ∨ (e.toService = target
        ∧ (e.kind = .requires ∨ e.kind = .requiresCapability)) := by
  by_cases hkind : e.kind = .requires ∨ e.kind = .requiresCapability
  · rw [if_pos hkind]
    by_cases hold : e.toService ∈ out
    · rw [if_pos hold]
      constructor
      · exact .inl
      rintro (hmem | ⟨rfl, -⟩)
      · exact hmem
      · exact hold
    · rw [if_neg hold, List.mem_append, List.mem_singleton]
      constructor
      · rintro (hmem | rfl)
        · exact .inl hmem
        · exact .inr ⟨rfl, hkind⟩
      · rintro (hmem | ⟨rfl, -⟩)
        · exact .inl hmem
        · exact .inr rfl
  · rw [if_neg hkind]
    constructor
    · exact .inl
    rintro (hmem | ⟨-, hwanted⟩)
    · exact hmem
    · exact absurd hwanted hkind

theorem mem_requirements (h : g.Sorted) {service target : ServiceId} :
    target ∈ g.requirements service ↔ ∃ e ∈ g.edges, e.fromService = service
      ∧ e.toService = target ∧ (e.kind = .requires ∨ e.kind = .requiresCapability) := by
  have hloop : ∀ (edges : List Dependency) (out : List ServiceId),
      target ∈ edges.foldl (fun out e =>
        if e.kind = .requires ∨ e.kind = .requiresCapability then
          if e.toService ∈ out then out else out ++ [e.toService]
        else out) out
      ↔ target ∈ out ∨ ∃ e ∈ edges, e.toService = target
          ∧ (e.kind = .requires ∨ e.kind = .requiresCapability) := by
    intro edges
    induction edges with
    | nil => simp
    | cons e edges ih =>
      intro out
      rw [List.foldl_cons, ih, mem_requirements_step, or_assoc, List.exists_mem_cons_iff]
  unfold requirements
  rw [hloop, h.outgoing]
  simp only [List.not_mem_nil, false_or, List.mem_filter, decide_eq_true_eq, and_assoc]

end DependencyGraph

end DpuFabric
