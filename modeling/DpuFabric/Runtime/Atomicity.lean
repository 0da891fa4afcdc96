/-
  Runtime.Atomicity — A REFUSED EVENT LEAVES NO TRACE.

  In every state of every run the fence issuer carries the epoch and the
  boot of the state, so `apply_event` refuses without a change; around it, a
  flush touches only what lies outside the `core`.
-/
import DpuFabric.Engine.Issuer
import DpuFabric.Runtime.Recovered

namespace DpuFabric

open Lib

variable {rt : FabricRuntime} {s : RuntimeState}

/-! ## §1. The issuer along a run. -/

theorem FencesCarry.of_core {t : RuntimeState} (h : core s = core t) (hs : FencesCarry s) :
    FencesCarry t := by
  have hcore : FencesCarry (core s) := ⟨hs.epoch, hs.boot⟩
  rw [h] at hcore
  exact ⟨hcore.epoch, hcore.boot⟩

theorem FencesCarry.recounted (hs : FencesCarry s) (l : TruncationLedger) (n : UInt64) :
    FencesCarry (s.recounted l n) := ⟨hs.epoch, hs.boot⟩

theorem restoreSnapshot_fencesCarry {config : RuntimeConfig} {payload : List UInt8}
    (h : restoreSnapshot config payload = .ok s) : FencesCarry s := by
  unfold restoreSnapshot at h
  split at h
  · simp at h
  split at h
  · simp at h
  injection h with h
  subst h
  exact ⟨rfl, rfl⟩

theorem replayState_fencesCarry (hs : FencesCarry s) (event : FabricEvent)
    (bounds : RuntimeBounds) (weights : PlacementWeights) :
    FencesCarry (replayState s event bounds weights) :=
  FencesCarry.of_core (core_raiseWatermark _ event).symm
    (applyEvent_fencesCarry hs event bounds weights)

theorem open_fencesCarry {config : RuntimeConfig} {w w' : RuntimeWorld}
    (h : FabricRuntime.open config w = (.ok rt, w')) : FencesCarry rt.state :=
  (open_rule (P := FencesCarry) (Q := FencesCarry) ⟨rfl, rfl⟩ ⟨rfl, rfl⟩
    (fun _ _ hrestored => restoreSnapshot_fencesCarry hrestored)
    (fun _ event l hs => replayState_fencesCarry (hs.recounted l _) event _ _)
    (fun _ _ _ => ⟨rfl, rfl⟩) h).2

theorem step_fencesCarry {s : System} {m : Move} (hs : s.Holds FencesCarry) :
    (s.step m).Holds FencesCarry := by
  refine System.step_holds FencesCarry.of_core hs ?_ ?_
  · rintro config faults rt w - - hopen
    exact open_fencesCarry hopen
  rintro p event faults - hnext l n
  have hp := hs p (System.next_process hnext)
  exact applyEvent_fencesCarry (hp.recounted l n) event _ _

theorem run_fencesCarry (trace : List (Action FileName Mark)) (moves : List Move) :
    (System.after { trace } moves).Holds FencesCarry :=
  run_preserves (fun _ _ => step_fencesCarry) moves (fun _ hp => absurd hp (by simp))

/-! ## §2. Flushes. -/

@[simp] theorem count_outcomes (r : BatchReport) (outcome : EventOutcome) :
    (r.count outcome).outcomes = r.outcomes ++ [outcome] := by
  unfold BatchReport.count
  simp only
  repeat' split
  all_goals rfl

theorem flushEvent_not_applied (hrt : FencesCarry rt.state)
    (report : BatchReport) (event : FabricEvent) (w : RuntimeWorld) :
    ∃ outcome, (flushEvent rt report event w).2.1.outcomes = report.outcomes ++ [outcome]
      ∧ (outcome.applied = false →
          core (flushEvent rt report event w).1.state = core rt.state) := by
  unfold flushEvent
  split
  · exact ⟨_, count_outcomes _ _, fun _ => rfl⟩
  obtain ⟨n, hn⟩ := journal_state rt event w
  split
  · next refusal rt' w' hj =>
    rw [hj] at hn
    simp only at hn
    exact ⟨_, rfl, fun _ => by rw [hn, core_recounted]⟩
  · next rt' w' hj =>
    rw [hj] at hn
    simp only at hn
    refine ⟨_, count_outcomes _ _, fun hrefused => ?_⟩
    simp only at hrefused ⊢
    have hrt' : FencesCarry rt'.state := hn ▸ hrt.recounted _ n
    obtain ⟨l, hl⟩ := delivered_state rt' event
    have hdelivered : FencesCarry (rt'.delivered event).state := hl ▸ hrt'.recounted l _
    rw [core_advanceState, applyEvent_refused hdelivered _ _ _ hrefused, hl, core_recounted, hn,
      core_recounted]

theorem flushEvent_fencesCarry (hrt : FencesCarry rt.state)
    (report : BatchReport) (event : FabricEvent) (w : RuntimeWorld) :
    FencesCarry (flushEvent rt report event w).1.state := by
  obtain ⟨l, n, h | h⟩ := flushEvent_state rt report event w
  · rw [h]
    exact hrt.recounted l n
  rw [h]
  exact FencesCarry.of_core (core_advanceState ..).symm
    (applyEvent_fencesCarry (hrt.recounted l n) event _ _)

/-- The loop adds one outcome per event; if none says "applied", the core
stays. -/
theorem flushLoop_not_applied (released : List FabricEvent)
    (hrt : FencesCarry rt.state) (report : BatchReport) (w : RuntimeWorld) :
    ∃ outcomes, (flushLoop released (rt, report, w)).2.1.outcomes = report.outcomes ++ outcomes
      ∧ ((∀ o ∈ outcomes, o.applied = false) →
          core (flushLoop released (rt, report, w)).1.state = core rt.state) := by
  induction released generalizing rt report w with
  | nil => exact ⟨[], (List.append_nil _).symm, fun _ => rfl⟩
  | cons event released ih =>
    obtain ⟨outcome, hout, hcore⟩ := flushEvent_not_applied hrt report event w
    obtain ⟨outcomes, houts, hcores⟩ := ih (flushEvent_fencesCarry hrt report event w)
      (flushEvent rt report event w).2.1 (flushEvent rt report event w).2.2
    refine ⟨outcome :: outcomes, ?_, fun hnone => ?_⟩
    · simp only [flushLoop, houts, hout, List.append_assoc, List.singleton_append]
    · simp only [flushLoop]
      rw [hcores (fun o ho => hnone o (by simp [ho])), hcore (hnone outcome (by simp))]

theorem flush_not_applied {rt' : FabricRuntime} {upto : LogicalInstant} {w w' : RuntimeWorld}
    {report : BatchReport} (hrt : FencesCarry rt.state)
    (h : rt.flush upto w = (.ok report, rt', w'))
    (hnone : ∀ o ∈ report.outcomes, o.applied = false) : core rt'.state = core rt.state := by
  unfold FabricRuntime.flush at h
  split at h
  · simp at h
  next released rt₁ hbegin =>
  have hstate : rt₁.state = rt.state := flushBegin_state hbegin
  have hrt₁ : FencesCarry rt₁.state := hstate ▸ hrt
  obtain ⟨outcomes, houts, hcore⟩ := flushLoop_not_applied released hrt₁ { upto } w
  simp only [FabricRuntime.flushEnd, Prod.mk.injEq, Except.ok.injEq] at h
  obtain ⟨rfl, rfl, -⟩ := h
  simp only at hnone ⊢
  rw [houts, List.nil_append] at hnone
  rw [core_refreshHealth, hcore hnone, hstate]

/-! ## §3. Every reachable state. -/

/-- **Refusal is atomic** in every state of every run, whatever the files
held at its start: a refused event changes nothing; a turn of a flush whose
outcome says "not applied", and a flush whose outcomes all do, change nothing
in the core. -/
theorem refusal_leaves_no_trace (trace : List (Action FileName Mark)) (moves : List Move)
    (p : Process) (hp : (System.after { trace } moves).process = some p) :
    (∀ event bounds weights, (applyEvent p.runtime.state event bounds weights).1.applied = false →
        (applyEvent p.runtime.state event bounds weights).2 = p.runtime.state)
      ∧ (∀ report event w, ∃ outcome,
          (flushEvent p.runtime report event w).2.1.outcomes = report.outcomes ++ [outcome]
            ∧ (outcome.applied = false →
                core (flushEvent p.runtime report event w).1.state = core p.runtime.state))
      ∧ (∀ upto w report rt w', p.runtime.flush upto w = (.ok report, rt, w') →
          (∀ o ∈ report.outcomes, o.applied = false) → core rt.state = core p.runtime.state) := by
  have hcarry : FencesCarry p.runtime.state := run_fencesCarry trace moves p hp
  exact ⟨fun event bounds weights => applyEvent_refused hcarry event bounds weights,
    flushEvent_not_applied hcarry, fun _ _ _ _ _ => flush_not_applied hcarry⟩

/-- A runtime that has only been opened. -/
def openedSample : System := System.after { trace := [] } [.run (.start sampleConfig) []]

theorem openedSample_runs : openedSample.process.isSome = true := by decide +kernel

/-- An intent for a group that nobody declared. -/
def strayIntent : FabricEvent := sampleEvent 1 (sampleIntent .deploy "g" 1 ["a"])

/-- The stray intent is refused and changes nothing. -/
theorem stray_intent_leaves_no_trace :
    ∃ p, openedSample.process = some p
      ∧ (applyEvent p.runtime.state strayIntent {} {}).1.applied = false
      ∧ (applyEvent p.runtime.state strayIntent {} {}).2 = p.runtime.state := by
  have hrefused : (applyEvent (openedSample.process.get openedSample_runs).runtime.state
      strayIntent {} {}).1.applied = false := by decide +kernel
  exact ⟨openedSample.process.get openedSample_runs, (Option.some_get openedSample_runs).symm, hrefused,
    (refusal_leaves_no_trace [] [.run (.start sampleConfig) []] _
      (Option.some_get openedSample_runs).symm).1 strayIntent {} {} hrefused⟩

end DpuFabric
