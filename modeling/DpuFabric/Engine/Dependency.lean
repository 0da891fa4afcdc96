/-
  Engine.Dependency — THE DEPENDENCY GRAPH AND ITS DETERMINISTIC TOPOLOGICAL ORDER
  (`engine/dependency.hpp`, `engine/dependency.cpp`).

  The order is Kahn's algorithm with the ready nodes kept in a sorted set:
  the emitted order depends on the node set and the edge set only.
-/
import DpuFabric.Model.Service

namespace DpuFabric

open Lib

/-- Ordinal of a `DependencyKind`. -/
def DependencyKind.ordinal : DependencyKind → Nat
  | .requires => 0
  | .orderingAfter => 1
  | .requiresCapability => 2

/-- The canonical edge order: (from, to, kind, id). -/
def Dependency.sortKey (e : Dependency) : ServiceId ×ₗ ServiceId ×ₗ Nat ×ₗ DependencyId :=
  toLex (e.fromService, toLex (e.toService, toLex (e.kind.ordinal, e.id)))

/-- `DependencyGraph`: the accepted edges in canonical order. -/
structure DependencyGraph where
  edges : List Dependency := []
  deriving DecidableEq, Repr

namespace DependencyGraph

/-- The per-edge checks of `build`.  The enumeration has no value outside its
list, so the kind check of the source never refuses. -/
def checkEdge (e : Dependency) : Option Status :=
  if !e.id.valid || !e.fromService.valid || !e.toService.valid then
    some (refuse .invalidIdentity (txt "dependency edge identity"))
  else if e.fromService = e.toService then some (refuse .selfDependency e.fromService.text)
  else none

/-- Two neighbours with the same endpoints and kind: the first of them. -/
def duplicateEdge : List Dependency → Option Dependency
  | a :: b :: rest =>
    if a.fromService = b.fromService ∧ a.toService = b.toService ∧ a.kind = b.kind then some a
    else duplicateEdge (b :: rest)
  | _ => none

/-- `DependencyGraph::build`. -/
def build (edges : List Dependency) (maxEdges : Nat) : Result DependencyGraph :=
  if maxEdges < edges.length then .error (refuse .boundExceeded (txt "dependency edge count"))
  else
    match edges.findSome? checkEdge with
    | some refusal => .error refusal
    | none =>
      let sorted := edges.insertionSort (fun a b => a.sortKey ≤ b.sortKey)
      match duplicateEdge sorted with
      | some previous => .error (refuse .dependencyDuplicate previous.id.text)
      | none => .ok { edges := sorted }

/-- `DependencyGraph::outgoing`. -/
def outgoing (g : DependencyGraph) (service : ServiceId) : List Dependency :=
  (g.edges.drop (lowerBound (fun e : Dependency => decide (e.fromService < service)) g.edges)).takeWhile
    (fun e => decide (e.fromService = service))

/-- `DependencyGraph::requirements`: targets that must be present, each once. -/
def requirements (g : DependencyGraph) (service : ServiceId) : List ServiceId :=
  (g.outgoing service).foldl (fun out e =>
    if e.kind = .requires ∨ e.kind = .requiresCapability then
      if e.toService ∈ out then out else out ++ [e.toService]
    else out) []

/-- `std::unique`: one entry per run of equal neighbours. -/
def unique {α : Type} [DecidableEq α] : List α → List α
  | a :: b :: rest => if a = b then unique (b :: rest) else a :: unique (b :: rest)
  | short => short

/-- Insertion into `std::set`. -/
def setInsert (ready : List ServiceId) (s : ServiceId) : List ServiceId :=
  if s ∈ ready then ready else ready.orderedInsert (· ≤ ·) s

/-- What Kahn's loop carries: the ready set and the open indegrees. -/
structure Kahn where
  ready : List ServiceId
  indegree : ServiceId → Nat

/-- One edge of the inner loop: emitting `current` releases the services that
require it. -/
def Kahn.relax (current : ServiceId) (k : Kahn) (edge : ServiceId × ServiceId) : Kahn :=
  if edge.2 ≠ current then k
  else if k.indegree edge.1 = 0 then k
  else
    let indegree := fun s => if s = edge.1 then k.indegree s - 1 else k.indegree s
    { ready := if indegree edge.1 = 0 then setInsert k.ready edge.1 else k.ready, indegree }

/-- The `while` loop.  Every node enters the ready set at most once, so the
number of nodes is enough fuel. -/
def kahnLoop (edges : List (ServiceId × ServiceId)) : Nat → Kahn → List ServiceId → List ServiceId
  | 0, _, order => order
  | fuel + 1, k, order =>
    match k.ready with
    | [] => order
    | current :: ready =>
      kahnLoop edges fuel (edges.foldl (Kahn.relax current) { k with ready })
        (order ++ [current])

/-- The reported cycle: follow the smallest edge inside the residual graph
until a node repeats. -/
def cyclePath (edges : List (ServiceId × ServiceId)) (unresolved : List ServiceId) :
    Nat → ServiceId → List ServiceId → List ServiceId
  | 0, _, path => path
  | fuel + 1, cursor, path =>
    match edges.find? (fun e => decide (e.1 = cursor ∧ e.2 ∈ unresolved)) with
    | none => path
    | some e =>
      if e.2 ∈ path then path ++ [e.2]
      else cyclePath edges unresolved fuel e.2 (path ++ [e.2])

/-- `DependencyGraph::topological_order`: the order (or the refusal), and the
cycle path. -/
def topologicalOrder (g : DependencyGraph) (services : List ServiceId) :
    Result (List ServiceId) × List ServiceId :=
  let nodes := unique (services.insertionSort (· ≤ ·))
  let inside := fun s => (findKey (fun x : ServiceId => x) nodes s).isSome
  let kept := g.edges.filter (fun e =>
    decide (e.kind ≠ .requiresCapability) && inside e.fromService && inside e.toService)
  let edges := (kept.map (fun e => (e.fromService, e.toService))).insertionSort
    (fun a b => toLex a ≤ toLex b)
  let indegree := fun s => (kept.filter (fun e => decide (e.fromService = s))).length
  let ready := nodes.filter (fun s => decide (indegree s = 0))
  let order := kahnLoop edges nodes.length { ready, indegree } []
  if order.length ≠ nodes.length then
    let unresolved := nodes.filter (fun s => decide (s ∉ order))
    let path := match unresolved with
      | [] => []
      | cursor :: _ => cyclePath edges unresolved (unresolved.length + 1) cursor [cursor]
    (.error (refuse .dependencyCycle (txt "dependency cycle detected")), path)
  else (.ok order, [])

end DependencyGraph

end DpuFabric
