/-
  Runtime.Sealed — WHICH RETAINED PLANS ARE SEALED.

  `seal` takes the identity and the digest of a plan from its body, and every
  plan that an intent is accepted with is sealed: planned, withdrawn or
  rolled back.  The archive however writes the body only (`visit`), and
  `open` does not seal again: a plan that comes back from a SNAPSHOT has no
  identity and no digest, while one that comes back by replay is planned, and
  sealed, anew.
-/
import DpuFabric.Runtime.Rollback
import DpuFabric.Runtime.Shelved

namespace DpuFabric

open Lib

/-! ## §1. Sealing. -/

/-- Identity and digest are those of the body. -/
structure DeploymentPlan.Sealed (p : DeploymentPlan) : Prop where
  digest : p.digest = canonicalDigest DeploymentPlan.visit p
  id : p.id = StrongId.literal (txt "plan-" ++ p.digest.hex.take 32)

theorem seal_sealed (p : DeploymentPlan) : p.seal.Sealed := by
  have hbody : canonicalDigest DeploymentPlan.visit p.seal
      = canonicalDigest DeploymentPlan.visit p := rfl
  exact ⟨hbody.symm, rfl⟩

section Plans

variable {s t : RuntimeState} {event : FabricEvent} {bounds : RuntimeBounds}
  {weights : PlacementWeights}

theorem intentPlan_sealed {intent : PlacementIntent} {group : ServiceGroup} {plan : DeploymentPlan}
    (h : intentPlan s event intent group bounds weights = .ok plan) : plan.Sealed := by
  unfold intentPlan at h
  split at h
  · simp only [withdrawalPlan, bind, Except.bind] at h
    split at h
    · simp at h
    · rw [← Except.ok.inj h]
      exact seal_sealed _
  · unfold rollbackPlan at h
    simp only at h
    split at h
    · simp at h
    split at h
    · simp at h
    · rw [← Except.ok.inj h]
      exact seal_sealed _
  · unfold placementPlan at h
    split at h
    · simp at h
    simp only at h
    split at h
    · simp at h
    next hfeasible =>
    obtain ⟨services, stages, hplan, -⟩ := buildPlan_body (by simpa using hfeasible)
    rw [← Except.ok.inj h, hplan]
    exact seal_sealed _

/-- A plan that is retained after an event was retained before, or is that of
the intent. -/
theorem Accepted.plan_origin (hacc : Accepted s event bounds weights t) {plan : DeploymentPlan}
    (h : plan ∈ t.plans) : plan ∈ s.plans ∨ plan.Sealed := by
  cases hacc with
  | topology body dpus =>
    have hplans : (acceptTopology s event body.snapshot dpus).plans = s.plans :=
      removeDevices_keep (f := RuntimeState.plans) (fun _ _ => rfl) _ _
    exact .inl (hplans ▸ h)
  | intent body group accepted authority r hbody hgroup hplan =>
    have hmem : plan ∈ s.plans ++ [accepted] := by
      simp only [commitIntent] at h
      split at h
      · exact mem_retainPlan h
      · exact List.mem_append_left _ h
    rcases List.mem_append.mp hmem with hold | hnew
    · exact .inl hold
    · rw [List.mem_singleton.mp hnew]
      exact .inr (intentPlan_sealed hplan)
  | _ => exact .inl h

/-- Every retained plan is sealed. -/
def AllSealed (s : RuntimeState) : Prop := ∀ plan ∈ s.plans, plan.Sealed

theorem applyEvent_sealed (h : AllSealed s) : AllSealed (applyEvent s event bounds weights).2 := by
  rcases applyEvent_cases s event bounds weights with (⟨-, hsame⟩ | ⟨-, hacc⟩) | ⟨-, -, hfenced⟩
  · rw [hsame]
    exact h
  · exact fun plan hplan => (hacc.plan_origin hplan).elim (h plan) id
  · rw [hfenced]
    exact h

end Plans

/-! ## §2. Runs. -/

/-- The move restores no snapshot that retains a plan. -/
def RestoresNoPlan (s : System) : Move → Prop
  | .run (.start config) faults => s.process = none →
      ∀ r : Recovery config { trace := s.trace, faults }, r.base.state.plans = []
  | _ => True

theorem Recovery.replayed_sealed {config : RuntimeConfig} {w : RuntimeWorld}
    (r : Recovery config w) (hbase : r.base.state.plans = []) : AllSealed r.replayed.state := by
  have hkeep : ∀ (s : RuntimeState) event l, True → AllSealed s →
      AllSealed (replayState (s.recounted l s.journaledEvents) event config.bounds
        config.weights) := by
    intro s event l _ hs
    have happlied : AllSealed (applyEvent (s.recounted l s.journaledEvents) event config.bounds
        config.weights).2 := applyEvent_sealed hs
    unfold replayState raiseWatermark
    split
    all_goals exact happlied
  have hrule := (replayRecords_rule (E := fun _ => True) hkeep r.base.state.watermark
    r.loaded.records r.based r.hconfig (fun _ _ _ _ _ => trivial)
    (fun plan hplan => by simp [hbase] at hplan)).2
  rw [r.hreplay] at hrule
  exact hrule

theorem step_sealed {s : System} {m : Move} (hs : s.Holds AllSealed) (hm : RestoresNoPlan s m) :
    (s.step m).Holds AllSealed := by
  refine System.step_holds (fun h hsealed => ?_) hs ?_ ?_
  · have hplans := congrArg RuntimeState.plans h
    exact fun plan hplan => hsealed plan (hplans.symm ▸ hplan)
  · rintro config faults rt w rfl hnone hopen
    obtain ⟨-, ⟨hstate, -⟩ | ⟨r, n, hstate⟩⟩ := open_inv hopen
    · rw [hstate]
      exact fun plan hplan => absurd hplan (by simp [initialState])
    · rw [hstate]
      exact r.replayed_sealed (hm hnone r)
  · intro p event faults _ hnext l n
    exact applyEvent_sealed (hs p (System.next_process hnext))

/-- **Retained plans are sealed**, in every state of every run that restores
no snapshot with a plan. -/
theorem plans_stay_sealed (moves : List Move) (hmoves : Meets System.step RestoresNoPlan {} moves)
    (p : Process) (hp : (System.after {} moves).process = some p) :
    ∀ plan ∈ p.runtime.state.plans, plan.digest = canonicalDigest DeploymentPlan.visit plan
      ∧ plan.id = StrongId.literal (txt "plan-" ++ plan.digest.hex.take 32) := by
  have hstep : ∀ s m, System.Holds AllSealed s → RestoresNoPlan s m →
      System.Holds AllSealed (System.step s m) := fun _ _ => step_sealed
  have hsealed := run_invariant hstep (fun _ h => absurd h (by simp)) hmoves p hp
  exact fun plan hplan => ⟨(hsealed plan hplan).digest, (hsealed plan hplan).id⟩

/-- The plan of a deployment that is replayed is sealed anew. -/
theorem replayed_plan_sealed :
    ∃ p, (System.after {} (deployment storedConfig none ++ [dies]
        ++ [.run (.start storedConfig) []])).process = some p
      ∧ p.runtime.state.plans ≠ []
      ∧ ∀ plan ∈ p.runtime.state.plans, plan.digest = canonicalDigest DeploymentPlan.visit plan := by
  obtain ⟨p, hp, hsome⟩ := desk_reaches (deployment storedConfig none ++ [dies]
    ++ [.run (.start storedConfig) []]) (fun _ rt => !rt.state.plans.isEmpty) (by decide +kernel)
  have huses : storedConfig.Uses storedOptions := by decide +kernel
  have hmeets : Meets System.step RestoresNoPlan {} (deployment storedConfig none) :=
    meets_calls rfl (by decide +kernel) (fun _ r => (recovers_nothing huses r).elim)
      (fun _ _ _ => trivial)
  have hstart : RestoresNoPlan (System.after {} (deployment storedConfig none ++ [dies]))
      (.run (.start storedConfig) []) :=
    fun _ r => congrArg RuntimeState.plans (desk_blank_base _ huses (by decide +kernel) r)
  have hguard := meets_reopened hmeets (fun _ => trivial) hstart
  refine ⟨p, hp, fun hnil => ?_, fun plan hplan => (plans_stay_sealed _ hguard p hp plan hplan).1⟩
  have hbare : p.runtime.bare.state.plans = [] := hnil
  rw [hbare] at hsome
  simp at hsome

/-- **A restored plan is not sealed.**  The deployment is closed, its snapshot
restored: the plan is there, without identity and without digest. -/
theorem restored_plan_unsealed :
    ∃ p plan, (System.after {} (deployment storedConfig none
        ++ [.run .exit [], .run (.start storedConfig) []])).process = some p
      ∧ plan ∈ p.runtime.state.plans
      ∧ ¬ (plan.digest = canonicalDigest DeploymentPlan.visit plan
        ∧ plan.id = StrongId.literal (txt "plan-" ++ plan.digest.hex.take 32)) := by
  obtain ⟨p, hp, hplan⟩ := desk_reaches (deployment storedConfig none
    ++ [.run .exit [], .run (.start storedConfig) []]) (fun _ rt => rt.state.plans.any (fun plan =>
      decide (plan.id = default ∧ plan.digest = default))) (by decide +kernel)
  simp only [List.any_eq_true, decide_eq_true_eq] at hplan
  obtain ⟨plan, hmem, hid, hdigest⟩ := hplan
  refine ⟨p, plan, hp, hmem, ?_⟩
  rintro ⟨-, hsealed⟩
  rw [hid, hdigest] at hsealed
  exact absurd hsealed (by decide +kernel)

end DpuFabric
