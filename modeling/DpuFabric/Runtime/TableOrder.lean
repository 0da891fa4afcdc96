/-
  Runtime.TableOrder — THE INSTANCE TABLE ALONG A RUN.

  Starting from an empty runtime the table stays sorted, with unique
  identities, as long as every intent FINDS the planned identities that the
  table holds when their turn comes.  An intent that creates an instance
  before it revisits one can miss it: the search runs over a table whose end
  is no longer in order.
-/
import DpuFabric.Runtime.Core
import DpuFabric.Runtime.Fresh

namespace DpuFabric

open Lib

/-- A process starts without a store, or on a directory that holds neither a
snapshot nor a journal. -/
def StartsEmpty (s : System) : Move → Prop
  | .run (.start config) _ =>
    config.storeDirectory = none ∨ (s.disk .snapshot = none ∧ s.disk .journal = none)
  | _ => True

/-- The intent that a turn of a flush takes up finds every planned identity
that the table holds. -/
def FindsPlanned (s : System) : Move → Prop
  | .run (.call .flushEvent) _ =>
    ∀ pe, s.next = some pe → PlannedFound pe.1.runtime.state pe.2 pe.1.runtime.config.bounds
      pe.1.runtime.config.weights
  | _ => True

instance (s : System) : ∀ m, Decidable (StartsEmpty s m)
  | .run (.start _) _ => inferInstanceAs (Decidable (_ ∨ (_ ∧ _)))
  | .run (.call _) _ | .run .exit _ | .crash .. => inferInstanceAs (Decidable True)

instance (s : System) : ∀ m, Decidable (FindsPlanned s m)
  | .run (.call .flushEvent) _ => inferInstanceAs (Decidable (∀ pe, s.next = some pe → _))
  | .run (.call (.stage _)) _ | .run (.call (.flushBegin _)) _ | .run (.call .flushEnd) _
  | .run (.call .checkpoint) _ | .run (.call .close) _ | .run (.start _) _ | .run .exit _
  | .crash .. => inferInstanceAs (Decidable True)

theorem InstancesSorted.of_core {s t : RuntimeState} (h : core s = core t)
    (hs : InstancesSorted s) : InstancesSorted t := by
  have hids : tableIds s.instances = tableIds t.instances := by
    have hinst : (core s).instances.map InstanceState.id = (core t).instances.map InstanceState.id :=
      by rw [h]
    simpa [core, tableIds, Function.comp_def, InstanceState.withoutHealth] using hinst
  rw [instancesSorted_iff_ids, ← hids, ← instancesSorted_iff_ids]
  exact hs

theorem plannedFound_recounted {s : RuntimeState} {event : FabricEvent} {bounds : RuntimeBounds}
    {weights : PlacementWeights} (l : TruncationLedger) (n : UInt64) :
    PlannedFound (s.recounted l n) event bounds weights ↔ PlannedFound s event bounds weights := by
  rw [PlannedFound, intentIds_recounted]
  rfl

theorem step_instancesSorted {s : System} {m : Move} (hs : s.Holds InstancesSorted)
    (hm : StartsEmpty s m ∧ FindsPlanned s m) : (s.step m).Holds InstancesSorted := by
  refine System.step_holds InstancesSorted.of_core hs ?_ ?_
  · rintro config faults rt w rfl - hopen
    rw [(open_fresh (w := { trace := s.trace, faults }) hm.1 hopen).2]
    exact List.Pairwise.nil
  · rintro p event faults rfl hnext l n
    refine applyEvent_sorted (InstancesSorted.of_core (core_recounted _ l n).symm
      (hs p (System.next_process hnext))) ?_
    exact (plannedFound_recounted l n).mpr (hm.2 (p, event) hnext)

/-- Service `b` is deployed; then `a` and `b` together. -/
def doublingMoves : List Move :=
  .run (.start sampleConfig) [] ::
    [sampleEvent 1 (sampleTopology ["d"]), sampleEvent 2 samplePolicy,
     sampleEvent 3 (sampleService "a" none), sampleEvent 4 (sampleService "b" none),
     sampleEvent 5 (sampleGroup "g" ["a", "b"]),
     sampleEvent 6 (sampleIntent .deploy "g" 1 ["b"]),
     sampleEvent 7 (sampleIntent .deploy "g" 2 ["a", "b"])].flatMap submitMoves

end DpuFabric
