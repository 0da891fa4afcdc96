/-
  Runtime.Serving — WHAT BACKS AN INSTANCE THAT SERVES.

  `health_fresh` is a flag that several reducers write.  In the middle of a
  flush it may run ahead of the device: an attachment sets the health of the
  device to Unknown and leaves the instances alone.  Every flush ends in
  `refresh_health`, nothing else that a caller may do touches a device or the
  clock, and a recovery fences every instance.  So between the calls of a
  process the flag is what the device says.
-/
import DpuFabric.Runtime.Continuity
import DpuFabric.Runtime.Restart

namespace DpuFabric

open Lib

/-! ## §1. A refresh. -/

/-- The record of a device that the instance may serve on: attached and
healthy, on evidence that is present, fresh at the clock and no older than the
last health statement, which is the one the instance goes by. -/
structure ServedBy (clock : LogicalInstant) (i : InstanceState) (d : DpuRecord) : Prop where
  verified : i.state = .verified
  attached : d.state = .attached
  healthy : d.health = .healthy
  present : d.healthEvidence.present = true
  fresh : d.healthEvidence.freshAt clock = true
  observed : d.healthObservedAt ≤ d.healthEvidence.observedAt
  same : i.healthObservedAt = d.healthObservedAt

/-- Every serving instance has such a device. -/
def AllServed (s : RuntimeState) : Prop :=
  ∀ i ∈ s.instances, i.serving = true →
    ∃ d, s.topology.find i.dpu = some d ∧ ServedBy s.clock i d

theorem refreshInstance_served {t : TopologySnapshot} {i : InstanceState}
    (h : (refreshInstance t i).healthFresh = true) :
    ∃ d, t.find i.dpu = some d ∧ d.state = .attached ∧ d.health = .healthy ∧ d.healthFresh = true
      ∧ (refreshInstance t i).healthObservedAt = d.healthObservedAt := by
  unfold refreshInstance at h ⊢
  split at h
  · simp at h
  next d hd =>
  split at h
  · simp at h
  next hattached =>
  split at h
  · next hhealthy =>
    simp only [hd, if_neg hattached, if_pos hhealthy]
    exact ⟨d, rfl, not_not.mp hattached, hhealthy.2, hhealthy.1, rfl⟩
  · simp at h

/-- **A refresh leaves no instance serving without its device.** -/
theorem refreshHealth_served (s : RuntimeState) : AllServed (refreshHealth s) := by
  intro j hj hserving
  simp only [InstanceState.serving, Bool.and_eq_true, decide_eq_true_eq] at hserving
  obtain ⟨⟨hverified, -⟩, hfresh⟩ := hserving
  obtain ⟨i, -, rfl⟩ := List.mem_map.mp hj
  obtain ⟨d, hfind, hattached, hhealthy, hdevice, hobserved⟩ := refreshInstance_served hfresh
  have hfind' : (refreshHealth s).topology.find i.dpu = some d := hfind
  rw [refreshHealth_find, Option.map_eq_some_iff] at hfind'
  obtain ⟨r, -, rfl⟩ := hfind'
  -- the flag of the device was computed at the clock of the state
  simp only [refreshDpu, DpuRecord.healthEvidenceFresh, Bool.and_eq_true, decide_eq_true_eq]
    at hdevice
  obtain ⟨-, ⟨hpresent, hat⟩, hle⟩ := hdevice
  refine ⟨_, ?_, hverified, hattached, hhealthy, hpresent, hat, hle, hobserved⟩
  rw [InstanceState.withoutHealth_dpu (refreshInstance_withoutHealth _ i)]
  exact hfind

/-! ## §2. Between the calls. -/

/-- Where no flush is under way, serving is backed. -/
def System.Served (s : System) : Prop :=
  ∀ p, s.process = some p → p.flushing = none → AllServed p.runtime.state

/-- A call that ends outside a flush either refreshed the state or touched no
device, no instance and no clock. -/
theorem Process.call_served {p : Process} (hp : p.flushing = none → AllServed p.runtime.state)
    (c : Call) (w : RuntimeWorld) (hidle : (p.call c w).1.flushing = none) :
    AllServed (p.call c w).1.runtime.state := by
  revert hidle
  unfold Process.call
  split
  · next event hnone =>
    intro _
    obtain ⟨l, hl⟩ := stage_state p.runtime event
    rw [hl]
    exact hp hnone
  · next upto hnone =>
    split
    · exact fun _ => hp hnone
    · exact fun hidle => absurd hidle (by simp)
  · next hnone =>
    intro _
    obtain ⟨n, hn⟩ := checkpoint_state p.runtime w
    simp only [hn]
    exact hp hnone
  · next hnone =>
    intro _
    obtain ⟨n, hn⟩ := close_state p.runtime w
    simp only [hn]
    exact hp hnone
  · exact fun hidle => absurd hidle (by simp)
  · exact fun _ => refreshHealth_served p.runtime.state
  · exact hp

theorem step_served {s : System} (hs : s.Served) (m : Move) : (s.step m).Served := by
  refine System.step_rule (P := fun _ p => p.flushing = none → AllServed p.runtime.state) hs ?_
    (fun p c _ _ _ hp => Process.call_served hp c _)
  -- a recovery has fenced every instance
  intro config faults rt w _ _ hopen _ i hi hserving
  simp [((open_quenched hopen).fenced i hi).2.2] at hserving

/-- **SERVING IS ALWAYS BACKED**: whatever was called and in whatever order,
an instance that serves is Verified and its device is attached and healthy, on
evidence that is present, fresh at the clock and not older than the last
health statement. -/
theorem serving_always_backed (moves : List Move) (p : Process)
    (hp : (System.after {} moves).process = some p) (hidle : p.flushing = none)
    (i : InstanceState) (hi : i ∈ p.runtime.state.instances) (hserving : i.serving = true) :
    ∃ d, p.runtime.state.topology.find i.dpu = some d ∧ ServedBy p.runtime.state.clock i d := by
  have hstep : ∀ s m, System.Served s → System.Served (System.step s m) :=
    fun _ m hs => step_served hs m
  have hrun : (System.after {} moves).Served :=
    run_preserves hstep moves (fun _ hnone => absurd hnone (by simp))
  exact hrun p hp hidle i hi hserving

/-- A service on a device with health evidence, reported as running. -/
def servingMoves : List Move :=
  .run (.start sampleConfig) [] ::
    [sampleEvent 1 (deviceBack 1), sampleEvent 2 samplePolicy,
     sampleEvent 3 (sampleService "a" none), sampleEvent 4 (sampleGroup "g" ["a"]),
     sampleEvent 5 (sampleIntent .deploy "g" 1 ["a"]),
     sampleEvent 6 (sampleEffect "g" "a" .deploy 1 1 6)].flatMap submitMoves

theorem servingMoves_serve : ((System.after {} servingMoves).process.bind fun p =>
    p.runtime.state.instances.find? InstanceState.serving).isSome = true := by
  decide +kernel

/-- The instance serves, and its device backs it. -/
theorem deployed_serving_backed :
    ∃ p i d, (System.after {} servingMoves).process = some p ∧ i ∈ p.runtime.state.instances
      ∧ i.serving = true ∧ p.runtime.state.topology.find i.dpu = some d
      ∧ ServedBy p.runtime.state.clock i d := by
  obtain ⟨i, hfound⟩ := Option.isSome_iff_exists.mp servingMoves_serve
  obtain ⟨p, hp, hi⟩ := Option.bind_eq_some_iff.mp hfound
  have hidle : p.flushing = none := by
    have hflushing : (System.after {} servingMoves).process.bind Process.flushing = none := by
      decide +kernel
    rwa [hp] at hflushing
  have hmem := List.mem_of_find?_eq_some hi
  have hserving := List.find?_some hi
  obtain ⟨d, hd, hserved⟩ := serving_always_backed servingMoves p hp hidle i hmem hserving
  exact ⟨p, i, d, hp, hmem, hserving, hd, hserved⟩

end DpuFabric
