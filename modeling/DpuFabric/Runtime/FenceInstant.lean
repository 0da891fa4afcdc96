/-
  Runtime.FenceInstant — THE FENCE INSTANT ACROSS RESTARTS.

  Within one lifetime an instance is fenced at the instant of the event that
  fences it, and the events come in the order of their instants: its fence
  instant never moves back.  `fence_after_recovery` however fences at the
  CLOCK of the recovered state, and the replay does not follow the clock.  So
  the fence instant stays in order exactly as far as the clock is restored:

      behind the events applied before  — the restart moves it back
      ahead of the recovered watermark  — the next event moves it back
-/
import DpuFabric.Runtime.Restart

namespace DpuFabric

open Lib Relation

variable {s : RuntimeState} {v : LogicalInstant} {rt : FabricRuntime}
  {t : List (Action FileName Mark)} {config : RuntimeConfig} {j : InstanceState}
  {event : FabricEvent} {x : InstanceId} {w : RuntimeWorld}

/-! ## §1. Where an event fences. -/

theorem InstanceState.withoutHealth_fencedAt {i : InstanceState}
    (h : i.withoutHealth = j.withoutHealth) : i.effectFencedAt = j.effectFencedAt := by
  have hfield := congrArg InstanceState.effectFencedAt h
  exact hfield

section Steps

variable {s : RuntimeState} {event : FabricEvent} {bounds : RuntimeBounds}
  {weights : PlacementWeights} {i j : InstanceState}

/-- A step keeps the fence instant or sets it to that of the event. -/
theorem InstanceStep.fencedAt (h : InstanceStep s event bounds weights i j) :
    j.effectFencedAt = i.effectFencedAt ∨ j.effectFencedAt = event.instant := by
  cases h with
  | fenced | lost | withdrawn | replaced => exact .inr rfl
  | refreshed =>
    exact .inl (InstanceState.withoutHealth_fencedAt (refreshInstance_withoutHealth _ i))
  | stale => exact .inl (InstanceState.withoutHealth_fencedAt (markStale_withoutHealth _ _ i))
  | _ => exact .inl rfl

theorem steps_fencedAt (h : ReflTransGen (InstanceStep s event bounds weights) i j) :
    j.effectFencedAt = i.effectFencedAt ∨ j.effectFencedAt = event.instant := by
  induction h with
  | refl => exact .inl rfl
  | tail _ hstep ih =>
    rcases hstep.fencedAt with h | h
    · exact h ▸ ih
    · exact .inr h

/-- An instance after an event was there before, with the same fence instant,
or it is fenced at the event. -/
theorem applyEvent_fencedAt (hj : j ∈ (applyEvent s event bounds weights).2.instances) :
    j.effectFencedAt = event.instant
      ∨ ∃ i ∈ s.instances, i.id = j.id ∧ i.effectFencedAt = j.effectFencedAt := by
  rcases applyEvent_cases s event bounds weights with (⟨-, hsame⟩ | ⟨-, hacc⟩) | ⟨-, -, hfenced⟩
  · rw [hsame] at hj
    exact .inr ⟨j, hj, rfl, rfl⟩
  · obtain ⟨i, hi, hsteps⟩ := hacc.entries.origin hj
    rcases steps_fencedAt hsteps with hkept | hset
    · rcases hi with hi | hcreated
      · exact .inr ⟨i, hi, (steps_id_eq hsteps).symm, hkept.symm⟩
      · cases hcreated
        exact .inl hkept
    · exact .inl hset
  · rw [hfenced] at hj
    exact .inr ⟨j, hj, rfl, rfl⟩

end Steps

theorem advanceState_fencedAt {bounds : RuntimeBounds} {weights : PlacementWeights}
    (hj : j ∈ (advanceState s event bounds weights).instances) :
    j.effectFencedAt = event.instant
      ∨ ∃ i ∈ s.instances, i.id = j.id ∧ i.effectFencedAt = j.effectFencedAt := by
  obtain ⟨k, hk, hsame⟩ := core_instance (core_advanceState s event bounds weights).symm hj
  have hid := InstanceState.withoutHealth_id hsame
  have hat := InstanceState.withoutHealth_fencedAt hsame
  rcases applyEvent_fencedAt hk with hset | ⟨i, hi, hid', hat'⟩
  · exact .inl (hat ▸ hset)
  · exact .inr ⟨i, hi, hid'.trans hid, hat'.trans hat⟩

/-! ## §2. Where a restart fences. -/

theorem checkpointLocked_copied (rt : FabricRuntime) {st : Store} (hst : rt.store = some st)
    (w : RuntimeWorld) : Copied (rt.checkpointLocked w).2.2.trace rt.state := by
  have hnoted : Copied (w.note (.copied rt.state)).trace rt.state :=
    List.mem_append_right _ (List.mem_singleton_self _)
  have hmore : ∀ {t a}, Copied t rt.state → Copied (t ++ [a]) rt.state :=
    fun h => List.mem_append_left _ h
  have hrotate := (rotate_installs (P := fun t => Copied t rt.state) (fun _ _ _ _ h => hmore h)
    (fun _ _ h => hmore h) (fun _ _ h => hmore h) hnoted st
    (encodeBinary RuntimeState.visit rt.state)
    (fun _ _ h _ => hmore h)).finish
  unfold FabricRuntime.checkpointLocked
  simp only [hst]
  split
  all_goals exact hrotate

theorem restart_copied {st : Store} (classification : RecoveryClass)
    (w : RuntimeWorld) (hst : rt.store = some st) (hopen : rt.closed = false) :
    Copied (rt.restart classification w).2.2.trace (restartState rt.config rt.state) := by
  have hcopied : Copied ((rt.restarted classification).checkpointLocked w).2.2.trace
      (restartState rt.config rt.state) :=
    checkpointLocked_copied (rt.restarted classification) hst w
  have hopen' : (rt.restarted classification).closed = false := hopen
  simp only [FabricRuntime.restart, FabricRuntime.checkpoint, hopen', Bool.false_eq_true, if_false]
  split
  all_goals exact hcopied

section Recovery

variable {config : RuntimeConfig} {w w' : RuntimeWorld} {rt : FabricRuntime}

theorem Recovery.replayed_store (r : Recovery config w) :
    r.replayed.store = some r.store' ∧ r.replayed.closed = false := by
  obtain ⟨hstore, hclosed⟩ :=
    replayRecords_store r.base.state.watermark r.loaded.records r.base r.based
  rw [r.hreplay] at hstore hclosed
  have htake : r.base.store = some r.store' ∧ r.base.closed = false := by
    have htaken : ∀ payload, (((blankRuntime config).holding r.store'
        r.loaded.recovery).takeSnapshot payload r.read).2.1.store = some r.store'
        ∧ (((blankRuntime config).holding r.store'
          r.loaded.recovery).takeSnapshot payload r.read).2.1.closed = false := by
      intro payload
      unfold FabricRuntime.takeSnapshot
      repeat' split
      all_goals exact ⟨rfl, rfl⟩
    have hbase := htaken r.loaded.snapshot
    rw [r.htake] at hbase
    exact hbase
  exact ⟨hstore.trans htake.1, hclosed.trans htake.2⟩

theorem Recovery.open_eq (r : Recovery config w) (hrefusal : config.refusal = none) :
    FabricRuntime.open config w
      = match r.replayed.restart r.loaded.recovery.classification r.done with
        | (none, rt, w) => (.ok rt, w)
        | (some refusal, rt, w) => (.error refusal, (rt.close w).2.2) := by
  simp only [FabricRuntime.open, hrefusal, r.hdirectory, r.hopen, FabricRuntime.recover, r.hload,
    r.htake, r.hreplay, r.hstored, if_true] <;> rfl

theorem Recovery.copied (r : Recovery config w) (h : FabricRuntime.open config w = (.ok rt, w')) :
    Copied w'.trace (restartState config r.replayed.state) := by
  have hrefusal : config.refusal = none := by
    cases hnone : config.refusal with
    | none => rfl
    | some refusal =>
      rw [FabricRuntime.open, hnone] at h
      simp at h
  rw [r.open_eq hrefusal] at h
  have hcopied := restart_copied r.loaded.recovery.classification r.done r.replayed_store.1
    r.replayed_store.2
  rw [r.replayed_config] at hcopied
  split at h
  · next hrestart =>
    rw [hrestart] at hcopied
    rw [← (Prod.mk.inj h).2]
    exact hcopied
  · simp at h

end Recovery

/-! ## §3. Runs. -/

/-- The move recovers no state whose clock lies behind an event applied or a
state written before, or ahead of the recovered watermark. -/
def RestoresClock (s : System) : Move → Prop
  | .run (.start config) faults => s.process = none →
      ∀ r : Recovery config { trace := s.trace, faults },
        (∀ event ∈ liveEvents s.trace, event.instant ≤ r.replayed.state.clock)
          ∧ (∀ st, Copied s.trace st → st.clock ≤ r.replayed.state.clock)
          ∧ r.replayed.state.clock ≤ r.replayed.state.watermark
  | _ => True

/-- Every fence instant lies at an event applied, or at the clock of a state
written; and none lies ahead of the watermark. -/
structure Dated (t : List (Action FileName Mark)) (s : RuntimeState) : Prop where
  origin : ∀ i ∈ s.instances, (∃ event ∈ liveEvents t, i.effectFencedAt = event.instant)
    ∨ ∃ st, Copied t st ∧ i.effectFencedAt = st.clock
  covered : ∀ i ∈ s.instances, i.effectFencedAt ≤ s.watermark

theorem Dated.mono (h : Dated t s) (u : List (Action FileName Mark)) : Dated (t ++ u) s := by
  refine ⟨fun i hi => ?_, h.covered⟩
  rcases h.origin i hi with ⟨event, hevent, hat⟩ | ⟨st, hst, hat⟩
  · rw [liveEvents_append]
    exact .inl ⟨event, List.mem_append_left _ hevent, hat⟩
  · exact .inr ⟨st, List.mem_append_left _ hst, hat⟩

theorem refreshHealth_fencedAt (hj : j ∈ (refreshHealth s).instances) :
    ∃ i ∈ s.instances, i.id = j.id ∧ i.effectFencedAt = j.effectFencedAt := by
  obtain ⟨i, hi, hsame⟩ := core_instance (core_refreshHealth s).symm hj
  exact ⟨i, hi, InstanceState.withoutHealth_id hsame, InstanceState.withoutHealth_fencedAt hsame⟩

theorem restart_fencedAt {i : InstanceState} (hi : i ∈ (restartState config s).instances) :
    i.effectFencedAt = s.clock := by
  obtain ⟨j, -, rfl⟩ := List.mem_map.mp (show i ∈ s.instances.map _ from hi)
  rfl

theorem step_dated {s : System} {m : Move} (hordered : s.Ordered) (hs : s.Traced Dated)
    (hm : RestoresClock s m) : (s.step m).Traced Dated := by
  refine System.step_traced (fun t st u h => h.mono u) (fun _ _ _ _ h => ⟨h.origin, h.covered⟩)
    (fun t st h => ?_) hs ?_ ?_
  · refine ⟨fun j hj => ?_, fun j hj => ?_⟩
    all_goals
      obtain ⟨i, hi, -, hat⟩ := refreshHealth_fencedAt hj
      rw [← hat]
    · exact h.origin i hi
    · exact h.covered i hi
  · rintro config faults rt w rfl hnone hopen
    obtain ⟨-, ⟨hstate, -⟩ | ⟨r, n, hstate⟩⟩ := open_inv hopen
    · rw [hstate]
      exact ⟨by simp [initialState], by simp [initialState]⟩
    obtain ⟨-, -, hahead⟩ := hm hnone r
    rw [hstate]
    have hat : ∀ i ∈ (restartState config r.replayed.state).instances,
        i.effectFencedAt = r.replayed.state.clock := fun i hi => restart_fencedAt hi
    exact ⟨fun i hi => .inr ⟨_, r.copied hopen, hat i hi⟩, fun i hi => (hat i hi).trans_le hahead⟩
  · intro p event faults hm' hnext l n u htrace
    have hp := hs p (System.next_process hnext)
    have hahead := hordered.ahead hnext
    have hwatermark := advanceState_watermark (p.runtime.state.recounted l n) event
      p.runtime.config.bounds p.runtime.config.weights
    refine ⟨fun j hj => ?_, fun j hj => ?_⟩
    · rcases advanceState_fencedAt hj with hset | ⟨i, hi, -, hat⟩
      · refine .inl ⟨event, ?_, hset⟩
        rw [liveEvents_append]
        exact List.mem_append_right _ (List.mem_singleton_self _)
      · rw [← hat]
        have hold := ((hp.mono u).mono [.mark (.applied event (applyEvent
          (p.runtime.state.recounted l n) event p.runtime.config.bounds
          p.runtime.config.weights).1)]).origin i hi
        exact hold
    · rw [hwatermark]
      rcases advanceState_fencedAt hj with hset | ⟨i, hi, -, hat⟩
      · rw [hset]
        exact le_max_right _ _
      · rw [← hat]
        exact (hp.covered i hi).trans (le_max_left _ _)

/-- The process, if there is one, has an instance of the id. -/
def System.Has (x : InstanceId) (s : System) : Prop :=
  ∀ p, s.process = some p → ∃ i ∈ p.runtime.state.instances, i.id = x

/-- Every entry of the id is fenced at `v` or later. -/
def FencedFrom (x : InstanceId) (v : LogicalInstant) (s : RuntimeState) : Prop :=
  ∀ i ∈ s.instances, i.id = x → v ≤ i.effectFencedAt

/-- What holds of every later state: the fence instant is in force, and no
event will come below it. -/
structure InForce (x : InstanceId) (v : LogicalInstant) (s : RuntimeState) : Prop where
  fenced : FencedFrom x v s
  passed : v ≤ s.watermark

/-- The instant was in force at some time. -/
def WasInForce (v : LogicalInstant) (t : List (Action FileName Mark)) : Prop :=
  (∃ event ∈ liveEvents t, v ≤ event.instant) ∨ ∃ st, Copied t st ∧ v ≤ st.clock

theorem WasInForce.mono (h : WasInForce v t) (u : List (Action FileName Mark)) : WasInForce v
    (t ++ u) := by
  rcases h with ⟨event, hevent, hle⟩ | ⟨st, hst, hle⟩
  · rw [WasInForce, liveEvents_append]
    exact .inl ⟨event, List.mem_append_left _ hevent, hle⟩
  · exact .inr ⟨st, List.mem_append_left _ hst, hle⟩

theorem step_inForce {s : System} {m : Move}
    (hordered : s.Ordered) (hrecorded : WasInForce v s.trace)
    (hs : s.Traced (fun _ => InForce x v)) (hm : RestoresClock s m) (hhas : (s.step m).Has x) :
    (s.step m).Traced (fun _ => InForce x v) := by
  have hrefresh : ∀ st, InForce x v st → InForce x v (refreshHealth st) := by
    refine fun st h => ⟨fun j hj hid => ?_, h.passed⟩
    obtain ⟨i, hi, hid', hat⟩ := refreshHealth_fencedAt hj
    exact hat ▸ h.fenced i hi (hid'.trans hid)
  refine System.step_traced (fun _ _ _ h => h) (fun _ _ _ _ h => ⟨h.fenced, h.passed⟩)
    (fun _ => hrefresh) hs ?_ ?_
  · rintro config faults rt w rfl hnone hopen
    obtain ⟨-, ⟨hstate, -⟩ | ⟨r, n, hstate⟩⟩ := open_inv hopen
    · -- a blank state has no instance
      obtain ⟨i, hi, -⟩ := hhas { runtime := rt } (System.start_process hnone hopen)
      rw [hstate] at hi
      simp [initialState] at hi
    · obtain ⟨hevents, hstates, hahead⟩ := hm hnone r
      have hle : v ≤ r.replayed.state.clock := by
        rcases hrecorded with ⟨event, hevent, hle⟩ | ⟨st, hst, hle⟩
        · exact hle.trans (hevents event hevent)
        · exact hle.trans (hstates st hst)
      have hat : ∀ i ∈ (restartState config r.replayed.state).instances,
          i.effectFencedAt = r.replayed.state.clock := fun i hi => restart_fencedAt hi
      rw [hstate]
      exact ⟨fun i hi _ => (hat i hi).symm ▸ hle, hle.trans hahead⟩
  · intro p event faults hm' hnext l n u htrace
    have hp := hs p (System.next_process hnext)
    have hahead := hordered.ahead hnext
    refine ⟨fun j hj hid => ?_, ?_⟩
    · rcases advanceState_fencedAt hj with hset | ⟨i, hi, hid', hat⟩
      · rw [hset]
        exact hp.passed.trans hahead
      · exact hat ▸ hp.fenced i hi (hid'.trans hid)
    · rw [advanceState_watermark]
      exact hp.passed.trans (le_max_left _ _)

theorem FencedFrom.refuses (h : FencedFrom x v s) {body : EffectReported}
    (hbody : event.body = .effectReported body) (hid : body.report.instanceId = x)
    (hold : body.report.evidence.observedAt < v) (bounds : RuntimeBounds)
    (weights : PlacementWeights) : (applyEvent s event bounds weights).1.applied = false := by
  simp only [applyEvent, hbody, reduceEffect]
  split
  · rfl
  next k i hchecks =>
  obtain ⟨hk, hchecked⟩ := checkEffect_ok hchecks
  have hle := h i (List.mem_of_getElem? hk) (hchecked.named.symm.trans hid)
  exact absurd (hle.trans hchecked.since) (not_le.mpr hold)

/-- **A fence instant once in force stays in force**, where every recovery of
the run restores the clock: in every later state that has the instance it is
fenced at that instant or later, and a report with older evidence is
refused. -/
theorem fence_instant_never_back (pre post : List Move)
    (hclock : Meets System.step RestoresClock {} (pre ++ post)) (x : InstanceId)
    (hhas : ∀ k, (System.after {} (pre ++ post.take k)).Has x) (p q : Process)
    (hp : (System.after {} pre).process = some p)
    (hq : (System.after {} (pre ++ post)).process = some q) (v : LogicalInstant)
    (hv : FencedFrom x v p.runtime.state) :
    FencedFrom x v q.runtime.state
      ∧ ∀ event body, event.body = .effectReported body → body.report.instanceId = x →
          body.report.evidence.observedAt < v →
          (applyEvent q.runtime.state event q.runtime.config.bounds q.runtime.config.weights).1.applied
            = false := by
  obtain ⟨hpre, hpost⟩ := meets_append.mp hclock
  have hdated : (System.after {} pre).Ordered ∧ (System.after {} pre).Traced Dated := by
    have hstep : ∀ s m, System.Ordered s ∧ System.Traced Dated s → RestoresClock s m →
        System.Ordered (System.step s m) ∧ System.Traced Dated (System.step s m) :=
      fun s m hs hm => ⟨step_ordered hs.1 m, step_dated hs.1 hs.2 hm⟩
    exact run_invariant hstep ⟨fun _ h => absurd h (by simp), fun _ h => absurd h (by simp)⟩ hpre
  obtain ⟨i, hi, hid⟩ := hhas 0 p (by simpa using hp)
  have hle := hv i hi hid
  have hstart : InForce x v p.runtime.state := ⟨hv, hle.trans ((hdated.2 p hp).covered i hi)⟩
  have hrecorded : WasInForce v (System.after {} pre).trace := by
    rcases (hdated.2 p hp).origin i hi with ⟨event, hevent, hat⟩ | ⟨st, hst, hat⟩
    · exact .inl ⟨event, hevent, hat ▸ hle⟩
    · exact .inr ⟨st, hst, hat ▸ hle⟩
  -- from here on the order of the events, the record of `v` and its force go along
  have hforce : (System.after (System.after {} pre) post).Traced (fun _ => InForce x v) := by
    have hstep : ∀ s m, (System.Ordered s ∧ WasInForce v (System.trace s)
          ∧ System.Traced (fun _ => InForce x v) s) →
        (RestoresClock s m ∧ System.Has x (System.step s m)) →
        System.Ordered (System.step s m) ∧ WasInForce v (System.step s m).trace
          ∧ System.Traced (fun _ => InForce x v) (System.step s m) := by
      rintro s m ⟨hordered, hrecorded, hs⟩ ⟨hm, hhas⟩
      obtain ⟨u, hu⟩ := step_trace s m
      exact ⟨step_ordered hordered m, hu ▸ hrecorded.mono u,
        step_inForce hordered hrecorded hs hm hhas⟩
    have hthroughout : Meets System.step (fun s m => System.Has x (System.step s m))
        (System.after {} pre) post := by
      refine meets_reached fun k => ?_
      have hk := hhas k
      rwa [System.after, runMoves_append] at hk
    refine (run_invariant hstep ⟨hdated.1, hrecorded, fun p' hp' => ?_⟩ (hpost.and hthroughout)).2.2
    rw [hp] at hp'
    exact Option.some.inj hp' ▸ hstart
  rw [System.after, runMoves_append] at hq
  have hfenced := (hforce q hq).fenced
  exact ⟨hfenced, fun event body hbody hx hold => hfenced.refuses hbody hx hold _ _⟩

/-- The deployment, with the clock advanced by its last event. -/
def timedDeployment : List Move :=
  deployment storedConfig none
    ++ submitMoves (sampleEvent 6 (.logicalTimeAdvanced { now := ⟨6⟩ }))

/-- Nothing in the marks is dated after `v`. -/
def datedBy (v : LogicalInstant) : Mark → Bool
  | .applied event _ => decide (event.instant ≤ v)
  | .copied st => decide (st.clock ≤ v)
  | _ => true

theorem liveEvents_marks (h : event ∈ liveEvents t) :
    ∃ result, Mark.applied event result ∈ marks t := by
  obtain ⟨a, ha, hevent⟩ := List.mem_filterMap.mp h
  split at hevent
  · next other result =>
    obtain rfl := Option.some.inj hevent
    exact ⟨result, List.mem_filterMap.mpr ⟨_, ha, rfl⟩⟩
  · simp at hevent

theorem copied_marks {st : RuntimeState} (h : Copied t st) : .copied st ∈ marks t :=
  List.mem_filterMap.mpr ⟨_, h, rfl⟩

/-- A recovery that comes up at `v`, with nothing dated after it, restores the
clock. -/
theorem restoresClock_of_open {s : System} {faults : List (Option Nat)}
    (hopen : FabricRuntime.open config { trace := s.trace, faults } = (.ok rt, w))
    (hdated : ∀ m ∈ marks s.trace, datedBy v m = true) (hclock : rt.state.clock = v)
    (hwatermark : rt.state.watermark = v) : RestoresClock s (.run (.start config) faults) := by
  intro _ r
  obtain ⟨n, hstate⟩ := r.gives hopen
  have hclock' : r.replayed.state.clock = v := by
    rw [← hclock, hstate]
    rfl
  have hwatermark' : r.replayed.state.watermark = v := by
    rw [← hwatermark, hstate]
    rfl
  rw [hclock', hwatermark']
  refine ⟨fun event hevent => ?_, fun st hst => ?_, le_refl _⟩
  · obtain ⟨result, hmark⟩ := liveEvents_marks hevent
    exact of_decide_eq_true (hdated _ hmark)
  · exact of_decide_eq_true (hdated _ (copied_marks hst))

theorem timedDeployment_restoresClock : Meets System.step RestoresClock {} timedDeployment :=
  meets_calls rfl (by decide +kernel)
    (fun _ r => (recovers_nothing (o := storedOptions) (by decide +kernel) r).elim)
    (fun _ _ _ => trivial)

theorem marks_append (t u : List (Action FileName Mark)) : marks (t ++ u) = marks t ++ marks u :=
  List.filterMap_append

/-- A run that dies and comes up with the clock restored meets the condition. -/
theorem reopened_restoresClock {moves : List Move}
    (hmeets : Meets System.step RestoresClock {} moves) (hopen : FabricRuntime.open config
      { trace := (System.after {} (moves ++ [dies])).trace, faults := [] } = (.ok rt, w))
    (hdated : ∀ m ∈ marks w.trace, datedBy v m = true) (hclock : rt.state.clock = v)
    (hwatermark : rt.state.watermark = v) :
    Meets System.step RestoresClock {} (moves ++ [dies] ++ [.run (.start config) []]) := by
  have hbefore : ∀ m ∈ marks (System.after {} (moves ++ [dies])).trace, datedBy v m = true := by
    obtain ⟨u, hu⟩ := step_trace (System.after {} (moves ++ [dies])) (.run (.start config) [])
    have hsome : (System.after {} (moves ++ [dies])).step (.run (.start config) [])
        = { trace := w.trace, process := some { runtime := rt } } := by
      simp only [System.step, System.exec, dies_none {} moves, hopen]
    rw [hsome] at hu
    simp only at hu
    rw [hu, marks_append] at hdated
    exact fun m hm => hdated m (List.mem_append_left _ hm)
  exact meets_reopened hmeets (fun _ => trivial)
    (restoresClock_of_open hopen hbefore hclock hwatermark)

/-- The instance is there before the process dies and after it comes up. -/
theorem reopened_has {moves : List Move} {p : Process}
    (hp : (System.after {} moves).process = some p) (hopen : FabricRuntime.open config
      { trace := (System.after {} (moves ++ [dies])).trace, faults := [] } = (.ok rt, w))
    (hbefore : ∃ i ∈ p.runtime.state.instances, i.id = x)
    (hafter : ∃ i ∈ rt.state.instances, i.id = x) (k : Nat) :
    (System.after {} (moves ++ [dies, .run (.start config) []].take k)).Has x := by
  intro p' hp'
  match k with
  | 0 =>
    rw [List.take_zero, List.append_nil, hp] at hp'
    exact Option.some.inj hp' ▸ hbefore
  | 1 =>
    rw [List.take_succ_cons, List.take_zero, dies_none] at hp'
    simp at hp'
  | k + 2 =>
    have hq := System.start_process (dies_none {} moves) hopen
    rw [System.after, System.after, ← runMoves_append, List.append_assoc, List.singleton_append] at hq
    rw [List.take_of_length_le (by simp), System.after, hq] at hp'
    exact Option.some.inj hp' ▸ hafter

theorem timed_fence_kept :
    ∃ p q, (System.after {} timedDeployment).process = some p
      ∧ FencedFrom (sampleInstance "g" "a") ⟨5⟩ p.runtime.state
      ∧ (System.after {} (timedDeployment ++ ([dies] ++ [.run (.start storedConfig) []]))).process
          = some q
      ∧ FencedFrom (sampleInstance "g" "a") ⟨5⟩ q.runtime.state := by
  obtain ⟨p, hp, hfive⟩ := desk_reaches timedDeployment (fun _ rt =>
    rt.state.instances.any (fun i => decide (i.id = sampleInstance "g" "a"))
      && rt.state.instances.all (fun i => decide ((⟨5⟩ : LogicalInstant) ≤ i.effectFencedAt)))
    (by decide +kernel)
  obtain ⟨rt, w, hopen, hsix⟩ := desk_reopens timedDeployment storedConfig (fun seen rt =>
    seen.all (datedBy ⟨6⟩)
      && rt.state.instances.any (fun i => decide (i.id = sampleInstance "g" "a"))
      && decide (rt.state.clock = ⟨6⟩ ∧ rt.state.watermark = ⟨6⟩)) (by decide +kernel)
  have hmeets := timedDeployment_restoresClock
  generalize timedDeployment = moves at *
  simp only [Bool.and_eq_true, List.any_eq_true, List.all_eq_true, decide_eq_true_eq] at hfive hsix
  obtain ⟨⟨hdated, hafter⟩, hclock, hwatermark⟩ := hsix
  have hq := System.start_process (dies_none {} moves) hopen
  rw [System.after, System.after, ← runMoves_append, List.append_assoc, List.singleton_append] at hq
  have hguard := reopened_restoresClock hmeets hopen hdated hclock hwatermark
  rw [List.append_assoc, List.singleton_append] at hguard
  have hfenced : FencedFrom (sampleInstance "g" "a") ⟨5⟩ p.runtime.state :=
    fun i hi _ => hfive.2 i hi
  exact ⟨p, _, hp, hfenced, hq, (fence_instant_never_back moves _ hguard _
    (reopened_has hp hopen hfive.1 hafter) p _ hp hq ⟨5⟩ hfenced).1⟩

/-- **A restart moves the fence instant back.**  The deployment is fenced at 5;
its journal is replayed with the clock at 0, and that is where the restart
fences. -/
theorem restart_moves_fence_back :
    ∃ p q i j, (System.after {} (deployment storedConfig none)).process = some p
      ∧ (System.after {} (deployment storedConfig none ++ [dies]
          ++ [.run (.start storedConfig) []])).process = some q
      ∧ i ∈ p.runtime.state.instances ∧ j ∈ q.runtime.state.instances ∧ i.id = j.id
      ∧ j.effectFencedAt < i.effectFencedAt := by
  obtain ⟨p, hp, hfive⟩ := desk_reaches (deployment storedConfig none) (fun _ rt =>
    rt.state.instances.any (fun i => decide (i.id = sampleInstance "g" "a"
      ∧ i.effectFencedAt = ⟨5⟩))) (by decide +kernel)
  obtain ⟨q, hq, hzero⟩ := desk_reaches (deployment storedConfig none ++ [dies]
    ++ [.run (.start storedConfig) []]) (fun _ rt => rt.state.instances.any (fun j =>
      decide (j.id = sampleInstance "g" "a" ∧ j.effectFencedAt = ⟨0⟩))) (by decide +kernel)
  simp only [List.any_eq_true, decide_eq_true_eq] at hfive hzero
  obtain ⟨i, hi, hid, hat⟩ := hfive
  obtain ⟨j, hj, hid', hat'⟩ := hzero
  refine ⟨p, q, i, j, hp, hq, hi, hj, hid.trans hid'.symm, ?_⟩
  rw [hat, hat']
  decide

end DpuFabric
