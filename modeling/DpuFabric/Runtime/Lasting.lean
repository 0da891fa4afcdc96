/-
  Runtime.Lasting — PROPERTIES OF THE CORE THAT LAST ACROSS RESTARTS, CRASHES AND FAULTS.

  The bookkeeping plays no part in most properties.  One that is about the
  core of a state, and that the reducers, the restart and the archive keep,
  holds in every state of every run (`Lasting.run`).
-/
import DpuFabric.Runtime.Standing

namespace DpuFabric

open Lib

/-- The property survives everything that happens to a state, as long as the
events are of the given kind. -/
structure Lasting (P : RuntimeState → Prop) (E : FabricEvent → Prop) : Prop where
  core : ∀ {s t : RuntimeState}, core s = core t → P s → P t
  blank : ∀ config, P (initialState config)
  restored : ∀ {s}, P s → P s.restored
  event : ∀ {s event} bounds weights, E event → P s → P (applyEvent s event bounds weights).2
  restarted : ∀ config {s}, P s → P (restartState config s)

variable {P : RuntimeState → Prop} {E : FabricEvent → Prop}

theorem Lasting.standing (hP : Lasting P E) :
    Standing (fun _ => True) E (fun _ => 0) (fun _ => P) where
  mono _ hs := hs
  edit hedit hs := hP.core hedit.core_eq hs
  blank _ := hP.blank _
  restored hs := hP.restored hs
  event _ hevent hs := hP.event _ _ hevent hs
  restarted _ hs := hP.restarted _ hs

/-- **In every run that takes up events of the given kind only, every state
has the property.** -/
theorem Lasting.run (hP : Lasting P E) {moves : List Move}
    (h : Meets System.step (TakesUp E) {} moves) : (System.after {} moves).Sound P :=
  hP.standing.run (h.imp fun _ _ htakes => ⟨fun _ _ => trivial, htakes⟩)

/-- What every event keeps holds in every state of every run. -/
theorem Lasting.always (hP : Lasting P (fun _ => True)) (moves : List Move) :
    (System.after {} moves).Sound P :=
  hP.run (meets_any takesUp_any moves)

end DpuFabric
