/-
  Runtime.Limits — THE CONFIGURED BOUNDS HOLD EVERYWHERE.

  Each bound is enforced in a place of its own: the tables of declarations by
  their reducers, the instances and the grants inside an intent, the plans and
  the decisions where they are retained, the reorder buffer by `stage` and the
  window by `BoundedHistory`.  None of the places asks what an event holds
  beyond the number it bounds, so `Bounded` holds in every run with one set of
  bounds, whatever the events are, and across every recovery with the same
  bounds.
-/
import DpuFabric.Runtime.Sized
import DpuFabric.Runtime.Window

namespace DpuFabric

open Lib

/-! ## §1. The state. -/

section Standing

variable {b : RuntimeBounds}

theorem numbered_blank (config : RuntimeConfig) : Numbered b (initialState config) := by
  refine ⟨?_, ?_, ?_, ?_⟩
  all_goals simp [initialState]

/-- The numbers and what is kept stand in every run, at the cost of the
intents; the cost is only about the attempts of an instance. -/
theorem kept_standing (hb : b.validate.ok = true) :
    Standing (fun config => config.bounds = b) (fun _ => True) (eventCost b)
      (fun n s => Numbered b s ∧ Kept b n s) where
  mono hle h := ⟨h.1, h.2.mono hle⟩
  edit hedit h := ⟨hedit.declared Numbered.keep Numbered.refreshHealth h.1,
    h.2.edit (validate_positive hb).2 hedit⟩
  blank {config} _ := ⟨numbered_blank config, kept_blank config⟩
  restored h := ⟨h.1.keep rfl, h.2.restored⟩
  event {n s event config} hconfig _ h := by
    rw [hconfig]
    exact ⟨applyEvent_numbered event h.1 _, applyEvent_kept (validate_positive hb).1 h.2 _⟩
  restarted _ h := ⟨h.1.keep rfl, h.2.restarted _⟩

end Standing

/-! ## §2. The runtime. -/

/-- Every container of a runtime that has a bound of its own is within it. -/
structure FabricRuntime.Bounded (b : RuntimeBounds) (rt : FabricRuntime) : Prop where
  dpus : rt.state.topology.dpus.length ≤ b.maxDpus
  services : rt.state.services.length ≤ b.maxServices
  groups : rt.state.groups.length ≤ b.maxServices
  dependencies : rt.state.dependencies.length ≤ b.maxDependencies
  instances : rt.state.instances.length ≤ b.maxInstances
  plans : rt.state.plans.length ≤ b.maxPlansRetained
  stages : ∀ plan ∈ rt.state.plans, plan.stages.length ≤ b.maxStages
  planExplanations : ∀ plan ∈ rt.state.plans, plan.explanations.length ≤ b.maxExplanations
  decisions : rt.state.decisions.length ≤ b.maxDecisionsRetained
  explanations : ∀ decision ∈ rt.state.decisions,
    decision.explanations.length ≤ b.maxExplanations
  grants : rt.state.authority.grants.length ≤ b.maxDpus
  ledger : rt.state.truncations.records.length ≤ 64
  pending : rt.pending.length ≤ b.maxBatchEvents
  deliveries : rt.deliveries.entries.length ≤ b.maxDuplicateWindow

/-- **CONFIGURED BOUNDS HOLD EVERYWHERE**: in every run whose processes are
started with one set of valid bounds, whatever is submitted, whatever fails
and wherever a process dies. -/
theorem configured_bounds_hold (b : RuntimeBounds) (hb : b.validate.ok = true) (moves : List Move)
    (hmoves : ∀ m ∈ moves, Configured (fun config => config.bounds = b) m) (p : Process)
    (hp : (System.after {} moves).process = some p) : p.runtime.Bounded b := by
  have hmeets : Meets System.step (fun s m => Configured (fun config => config.bounds = b) m
      ∧ TakesUp (fun _ => True) s m) {} moves :=
    meets_each fun m hm s => ⟨hmoves m hm, takesUp_any s m⟩
  obtain ⟨hnumbered, hkept⟩ := (Standing.run (kept_standing hb) hmeets).holds p hp
  have hbounds := run_bounds (hmeets.imp fun _ _ hm => hm.1) hp
  have hhandling := run_handling moves hp
  have hwindow := hhandling.window.length.trans hhandling.window.capacity.le
  have hroom := hhandling.room
  rw [hbounds] at hwindow hroom
  exact
    { dpus := hnumbered.dpus
      services := hnumbered.services
      groups := hnumbered.groups
      dependencies := hnumbered.dependencies
      instances := hkept.table.length
      plans := hkept.plans.length
      stages := fun plan hplan => (hkept.plans.sized plan hplan).stages
      planExplanations := fun plan hplan => (hkept.plans.sized plan hplan).explanations
      decisions := hkept.records.decisions
      explanations := hkept.records.explanations
      grants := hkept.records.grants
      ledger := hkept.records.ledger
      pending := hroom
      deliveries := hwindow }

/-- A deployment under the default bounds. -/
theorem deployment_within_bounds :
    ((System.after {} deployMoves).process.get deployMoves_runs).runtime.Bounded {} :=
  configured_bounds_hold {} (by decide +kernel) deployMoves (by decide +kernel) _
    (Option.some_get deployMoves_runs).symm

end DpuFabric
