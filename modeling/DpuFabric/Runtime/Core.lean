/-
  Runtime.Core — THE CORE OF A STATE, AND WHICH CALLS REACH IT.

  `core` forgets the bookkeeping of a state: watermark, clock, the health and
  freshness of devices and instances, the ledger, the decisions and the
  journal counter.  Every call of a runtime leaves the core alone, except the
  turn of a flush in which an event reaches `applyEvent`; so a property of
  the core is kept by a process as soon as `applyEvent` keeps it
  (`Process.call_invariant`).
-/
import DpuFabric.Engine.InstanceTable
import DpuFabric.Runtime.System

namespace DpuFabric

open Lib

/-! ## §1. The core. -/

/-- An instance without its health axis. -/
def InstanceState.withoutHealth (i : InstanceState) : InstanceState :=
  { i with health := .unknown, healthFresh := false, healthObservedAt := {} }

section WithoutHealth

variable {i j : InstanceState} (h : i.withoutHealth = j.withoutHealth)
include h

theorem InstanceState.withoutHealth_id : i.id = j.id := by
  have hfield := congrArg InstanceState.id h
  exact hfield

theorem InstanceState.withoutHealth_state : i.state = j.state := by
  have hfield := congrArg InstanceState.state h
  exact hfield

theorem InstanceState.withoutHealth_dpu : i.dpu = j.dpu := by
  have hfield := congrArg InstanceState.dpu h
  exact hfield

theorem InstanceState.withoutHealth_attempts : i.attempts = j.attempts := by
  have hfield := congrArg InstanceState.attempts h
  exact hfield

theorem InstanceState.withoutHealth_replica :
    i.group = j.group ∧ i.service = j.service ∧ i.index = j.index := by
  have hgroup := congrArg InstanceState.group h
  have hservice := congrArg InstanceState.service h
  have hindex := congrArg InstanceState.index h
  exact ⟨hgroup, hservice, hindex⟩

end WithoutHealth

/-- A device without its freshness. -/
def DpuRecord.withoutFreshness (d : DpuRecord) : DpuRecord := { d with healthFresh := false }

/-- A state without its bookkeeping. -/
def core (s : RuntimeState) : RuntimeState :=
  { s with
    clock := {}
    watermark := {}
    topology := { s.topology with dpus := s.topology.dpus.map DpuRecord.withoutFreshness }
    instances := s.instances.map InstanceState.withoutHealth
    truncations := {}
    decisions := []
    journaledEvents := 0 }

/-- States with one core have the same instances, up to health. -/
theorem core_instance {s t : RuntimeState} (h : core s = core t) {i : InstanceState}
    (hi : i ∈ t.instances) : ∃ j ∈ s.instances, j.withoutHealth = i.withoutHealth := by
  have hmem : i.withoutHealth ∈ (core s).instances := by
    rw [h]
    exact List.mem_map_of_mem hi
  exact List.mem_map.mp hmem

theorem refreshInstance_withoutHealth (t : TopologySnapshot) (i : InstanceState) :
    (refreshInstance t i).withoutHealth = i.withoutHealth := by
  unfold refreshInstance
  repeat' split
  all_goals rfl

theorem markStale_withoutHealth (clock : LogicalInstant) (dpus : List DpuRecord)
    (i : InstanceState) : (markStale clock dpus i).withoutHealth = i.withoutHealth := by
  unfold markStale
  split <;> rfl

theorem core_refreshHealth (s : RuntimeState) : core (refreshHealth s) = core s := by
  simp only [core, refreshHealth, List.map_map, Function.comp_def, refreshInstance_withoutHealth,
    markStale_withoutHealth]
  rfl

theorem core_raiseWatermark (s : RuntimeState) (event : FabricEvent) :
    core (raiseWatermark s event) = core s := by
  unfold raiseWatermark
  split <;> rfl

theorem core_followClock (s : RuntimeState) (event : FabricEvent) :
    core (followClock s event) = core s := by
  unfold followClock
  split
  · rw [core_refreshHealth]; rfl
  · rfl

theorem core_recordDecision (s : RuntimeState) (decision : Decision) (n : Nat) :
    core (recordDecision s decision n) = core s := by
  unfold recordDecision
  split <;> rfl

theorem core_advanceState (s : RuntimeState) (event : FabricEvent) (bounds : RuntimeBounds)
    (weights : PlacementWeights) :
    core (advanceState s event bounds weights) = core (applyEvent s event bounds weights).2 := by
  simp only [advanceState, core_recordDecision, core_followClock, core_raiseWatermark]

variable {event : FabricEvent} {p : Process} {s : System}

/-- **The rule for what follows the reducer in a turn**: watermark, clock,
refresh and decision log. -/
theorem advanceState_rule {P : RuntimeState → Prop}
    (hlog : ∀ s decisions truncations, P s → P { s with decisions, truncations })
    (hwatermark : ∀ s watermark, s.watermark ≤ watermark → P s → P { s with watermark })
    (hclock : ∀ s clock, P s → P { s with clock }) (hrefresh : ∀ s, P s → P (refreshHealth s))
    {s : RuntimeState} {bounds : RuntimeBounds} {weights : PlacementWeights}
    (h : P (applyEvent s event bounds weights).2) : P (advanceState s event bounds weights) := by
  simp only [advanceState]
  generalize applyEvent s event bounds weights = out at h ⊢
  have hraised : P (raiseWatermark out.2 event) := by
    unfold raiseWatermark
    split
    · next hlt => exact hwatermark _ _ hlt.le h
    · exact h
  have hfollowed : P (followClock (raiseWatermark out.2 event) event) := by
    unfold followClock
    split
    · exact hrefresh _ (hclock _ _ hraised)
    · exact hraised
  unfold recordDecision
  split
  all_goals exact hlog _ _ _ hfollowed

/-! ## §2. The calls around the reducer. -/

/-- The same state with other counters. -/
def RuntimeState.recounted (s : RuntimeState) (truncations : TruncationLedger)
    (journaledEvents : UInt64) : RuntimeState :=
  { s with truncations, journaledEvents }

@[simp] theorem core_recounted (s : RuntimeState) (l : TruncationLedger) (n : UInt64) :
    core (s.recounted l n) = core s := rfl

theorem intentPlan_recounted (s : RuntimeState) (event : FabricEvent) (intent : PlacementIntent)
    (group : ServiceGroup) (bounds : RuntimeBounds) (weights : PlacementWeights)
    (l : TruncationLedger) (n : UInt64) :
    intentPlan (s.recounted l n) event intent group bounds weights
      = intentPlan s event intent group bounds weights := by
  have hwithdraw : ∀ entries, withdrawalServices (s.recounted l n) entries
      = withdrawalServices s entries := by
    intro entries
    induction entries with
    | nil => rfl
    | cons entry rest ih => simp only [withdrawalServices, ih]; rfl
  unfold intentPlan
  cases intent.kind with
  | withdraw => simp only [withdrawalPlan, hwithdraw]; rfl
  | _ => rfl

theorem intentIds_recounted (s : RuntimeState) (event : FabricEvent) (bounds : RuntimeBounds)
    (weights : PlacementWeights) (l : TruncationLedger) (n : UInt64) :
    intentIds (s.recounted l n) event bounds weights = intentIds s event bounds weights := by
  unfold intentIds
  cases event.body with
  | intentSubmitted body => simp only [intentPlan_recounted]; rfl
  | _ => rfl

theorem stage_state (rt : FabricRuntime) (event : FabricEvent) :
    ∃ l, (rt.stage event).2.state = rt.state.recounted l rt.state.journaledEvents := by
  unfold FabricRuntime.stage
  repeat' split
  all_goals exact ⟨_, rfl⟩

theorem flushBegin_state {rt rt' : FabricRuntime} {upto : LogicalInstant}
    {released : List FabricEvent} (h : rt.flushBegin upto = .ok (released, rt')) :
    rt'.state = rt.state := by
  unfold FabricRuntime.flushBegin at h
  split at h
  · simp at h
  · injection h with h
    rw [← (Prod.mk.inj h).2]

theorem checkpointLocked_state (rt : FabricRuntime) (w : RuntimeWorld) :
    ∃ n, (rt.checkpointLocked w).2.1.state = rt.state.recounted rt.state.truncations n := by
  unfold FabricRuntime.checkpointLocked
  split
  · exact ⟨_, rfl⟩
  simp only
  split
  all_goals exact ⟨_, rfl⟩

theorem checkpoint_state (rt : FabricRuntime) (w : RuntimeWorld) :
    ∃ n, (rt.checkpoint w).2.1.state = rt.state.recounted rt.state.truncations n := by
  unfold FabricRuntime.checkpoint
  split
  · exact ⟨_, rfl⟩
  · exact checkpointLocked_state rt w

theorem close_state (rt : FabricRuntime) (w : RuntimeWorld) :
    ∃ n, (rt.close w).2.1.state = rt.state.recounted rt.state.truncations n := by
  unfold FabricRuntime.close
  split
  · exact ⟨_, rfl⟩
  split
  · exact ⟨_, rfl⟩
  · exact checkpointLocked_state rt w

/-- **The rule for the write-ahead append**: what an append, a checkpoint and
the counting keep, the whole of it keeps. -/
theorem journal_rule {R : FabricRuntime → RuntimeWorld → FabricRuntime → RuntimeWorld → Prop}
    (hrefl : ∀ rt w, R rt w rt w)
    (htrans : ∀ {rt w rt' w' rt'' w''}, R rt w rt' w' → R rt' w' rt'' w'' → R rt w rt'' w'')
    (happend : ∀ rt st w, rt.store = some st → R rt w (rt.append st event w).2.1 (rt.append st event w).2.2)
    (hrotate : ∀ rt w, R rt w (rt.checkpointLocked w).2.1 (rt.checkpointLocked w).2.2)
    (hcount : ∀ rt w, R rt w rt.counted (w.note (.journaled event))) (rt : FabricRuntime)
    (w : RuntimeWorld) :
    R rt w (rt.journal event w).2.1 (rt.journal event w).2.2 := by
  have hfinish : ∀ status rt w, R rt w (finishAppend event (status, rt, w)).2.1
      (finishAppend event (status, rt, w)).2.2 := by
    intro status rt w
    simp only [finishAppend]
    split
    · exact hrefl rt w
    · exact hcount rt w
  unfold FabricRuntime.journal
  split
  · exact hrefl rt w
  next st hst =>
  have hfirst := happend rt st w hst
  generalize rt.append st event w = out at hfirst
  obtain ⟨appended, rt₁, w₁⟩ := out
  simp only at hfirst ⊢
  split
  · have hrotated := htrans hfirst (hrotate rt₁ w₁)
    unfold FabricRuntime.rotateAppend
    generalize rt₁.checkpointLocked w₁ = rotated at hrotated
    obtain ⟨status, rt₂, w₂⟩ := rotated
    simp only at hrotated ⊢
    split
    · exact hrotated
    split
    · exact hrotated
    · next st₂ hst₂ =>
      exact htrans hrotated (htrans (happend rt₂ st₂ w₂ hst₂) (hfinish _ _ _))
  · exact htrans hfirst (hfinish appended rt₁ w₁)

theorem journal_state (rt : FabricRuntime) (event : FabricEvent) (w : RuntimeWorld) :
    ∃ n, (rt.journal event w).2.1.state = rt.state.recounted rt.state.truncations n := by
  refine journal_rule
    (R := fun rt _ rt' _ => ∃ n, rt'.state = rt.state.recounted rt.state.truncations n)
    (fun _ _ => ⟨_, rfl⟩) ?_ (fun _ _ _ _ => ⟨_, rfl⟩) checkpointLocked_state
    (fun _ _ => ⟨_, rfl⟩) rt w
  rintro rt w rt' w' rt'' w'' ⟨n, hn⟩ ⟨m, hm⟩
  exact ⟨m, by rw [hm, hn]; rfl⟩

theorem delivered_state (rt : FabricRuntime) (event : FabricEvent) :
    ∃ l, (rt.delivered event).state = rt.state.recounted l rt.state.journaledEvents := ⟨_, rfl⟩

theorem stage_config (rt : FabricRuntime) (event : FabricEvent) :
    (rt.stage event).2.config = rt.config := by
  unfold FabricRuntime.stage
  repeat' split
  all_goals rfl

theorem checkpointLocked_config (rt : FabricRuntime) (w : RuntimeWorld) :
    (rt.checkpointLocked w).2.1.config = rt.config := by
  unfold FabricRuntime.checkpointLocked
  split
  · rfl
  · simp only
    split <;> rfl

theorem close_config (rt : FabricRuntime) (w : RuntimeWorld) :
    (rt.close w).2.1.config = rt.config := by
  unfold FabricRuntime.close
  split
  · rfl
  split
  · rfl
  · exact checkpointLocked_config rt w

theorem journal_config (rt : FabricRuntime) (event : FabricEvent) (w : RuntimeWorld) :
    (rt.journal event w).2.1.config = rt.config :=
  journal_rule (R := fun rt _ rt' _ => rt'.config = rt.config) (fun _ _ => rfl)
    (fun h h' => h'.trans h) (fun _ _ _ _ => rfl) checkpointLocked_config (fun _ _ => rfl) rt w

/-! ## §3. One turn of a flush. -/

/-- What a turn of a flush does to the state: at most the counters, or one
event on top of them. -/
theorem flushEvent_state (rt : FabricRuntime) (report : BatchReport) (event : FabricEvent)
    (w : RuntimeWorld) :
    ∃ l n, (flushEvent rt report event w).1.state = rt.state.recounted l n
      ∨ (flushEvent rt report event w).1.state
          = advanceState (rt.state.recounted l n) event rt.config.bounds rt.config.weights := by
  unfold flushEvent
  split
  · exact ⟨rt.state.truncations, rt.state.journaledEvents, .inl rfl⟩
  obtain ⟨n, hn⟩ := journal_state rt event w
  have hconfig := journal_config rt event w
  split
  · next refusal rt' w' hj =>
    rw [hj] at hn
    exact ⟨_, n, .inl hn⟩
  · next rt' w' hj =>
    rw [hj] at hn hconfig
    simp only at hn hconfig
    obtain ⟨l, hl⟩ := delivered_state rt' event
    refine ⟨l, n, .inr ?_⟩
    simp only [hl, hn]
    exact hconfig ▸ rfl

theorem flushEvent_config (rt : FabricRuntime) (report : BatchReport) (event : FabricEvent)
    (w : RuntimeWorld) : (flushEvent rt report event w).1.config = rt.config := by
  unfold flushEvent
  split
  · rfl
  have hconfig := journal_config rt event w
  split
  · next hj => rw [hj] at hconfig; exact hconfig
  · next hj => rw [hj] at hconfig; exact hconfig

/-! ## §4. Properties of the core along a run. -/

/-- The event that the next turn of a flush takes up, with its process. -/
def System.next (s : System) : Option (Process × FabricEvent) :=
  match s.process with
  | some { runtime, flushing := some { released := event :: released, report } } =>
    some ({ runtime, flushing := some { released := event :: released, report } }, event)
  | _ => none

theorem System.next_process (h : s.next = some (p, event)) : s.process = some p := by
  unfold System.next at h
  split at h
  · next hprocess =>
    rw [hprocess]
    simp only [Option.some.injEq, Prod.mk.injEq] at h
    rw [h.1]
  · simp at h

/-- A property of one optional value is decided by looking at it. -/
instance optionForallDecidable {α : Type} (o : Option α) (p : α → Prop) [∀ a, Decidable (p a)] :
    Decidable (∀ a, o = some a → p a) :=
  match o with
  | none => isTrue (fun _ h => nomatch h)
  | some a => decidable_of_iff (p a) ⟨fun h _ he => Option.some.inj he ▸ h, fun h => h a rfl⟩

/-- The property holds of the state of the present process. -/
def System.Holds (P : RuntimeState → Prop) (s : System) : Prop :=
  ∀ p, s.process = some p → P p.runtime.state

/-- **The process after a move** was just opened, or is the one before, after
a call or without one. -/
theorem System.step_rule {P : List (Action FileName Mark) → Process → Prop} {m : Move}
    (hs : ∀ p, s.process = some p → P s.trace p)
    (hstart : ∀ config faults rt w, m = .run (.start config) faults → s.process = none → FabricRuntime.open config { trace := s.trace, faults } = (.ok rt, w) → P w.trace { runtime := rt })
    (hcall : ∀ p c faults, m = .run (.call c) faults → s.process = some p → P s.trace p → P (p.call c { trace := s.trace, faults }).2.trace (p.call c { trace := s.trace, faults }).1)
    :
    ∀ q, (s.step m).process = some q → P (s.step m).trace q := by
  intro q hq
  cases m with
  | crash op faults n => simp [System.step] at hq
  | run op faults =>
    simp only [System.step, System.exec] at hq ⊢
    split at hq
    · next config hnone =>
      split at hq
      · next rt w hopen =>
        injection hq with hq
        subst hq
        exact hstart config faults rt w rfl hnone hopen
      · simp at hq
    · next p c hsome =>
      injection hq with hq
      subst hq
      exact hcall p c faults rfl hsome (hs p hsome)
    · simp at hq
    · exact hs q hq

/-- **What `open` establishes and every call keeps holds along a run.** -/
theorem run_rule {P : List (Action FileName Mark) → Process → Prop}
    (hstart : ∀ {config w rt w'}, FabricRuntime.open config w = (.ok rt, w') → P w'.trace { runtime := rt })
    (hcall : ∀ {p} {w : RuntimeWorld} c, P w.trace p → P (p.call c w).2.trace (p.call c w).1)
    (moves : List Move) (hp : (System.after {} moves).process = some p) :
    P (System.after {} moves).trace p := by
  have hstep : ∀ (s : System) (m : Move), (∀ p, s.process = some p → P s.trace p) →
      ∀ p, (s.step m).process = some p → P (s.step m).trace p :=
    fun s m hs => System.step_rule hs (fun _ _ _ _ _ _ => hstart)
      (fun p c faults _ _ hp => hcall (w := { trace := s.trace, faults }) c hp)
  exact run_preserves hstep moves (fun _ hnone => absurd hnone (by simp)) p hp

theorem System.next_of_flushing {released : List FabricEvent} {report : BatchReport}
    (hp : s.process = some p)
    (hflushing : p.flushing = some { released := event :: released, report }) :
    s.next = some (p, event) := by
  obtain ⟨runtime, flushing⟩ := p
  simp only at hflushing
  subst hflushing
  simp only [System.next, hp]

section Invariant

variable {P : RuntimeState → Prop}

/-- A call keeps a property of the core if the event it takes up does. -/
theorem Process.call_invariant (hcore : ∀ {s t : RuntimeState}, core s = core t → P s → P t)
    {p : Process} {c : Call} {w : RuntimeWorld} (hp : P p.runtime.state)
    (hevent : ∀ event released report, c = .flushEvent →
      p.flushing = some { released := event :: released, report } → ∀ l n,
        P (applyEvent (p.runtime.state.recounted l n) event p.runtime.config.bounds
          p.runtime.config.weights).2) : P (p.call c w).1.runtime.state := by
  unfold Process.call
  split
  · next event _ =>
    obtain ⟨l, hl⟩ := stage_state p.runtime event
    exact hcore (by rw [hl]; rfl) hp
  · split
    · exact hp
    next released rt hbegin =>
    simp only [flushBegin_state hbegin]
    exact hp
  · obtain ⟨n, hn⟩ := checkpoint_state p.runtime w
    exact hcore (by simp only [hn]; rfl) hp
  · obtain ⟨n, hn⟩ := close_state p.runtime w
    exact hcore (by simp only [hn]; rfl) hp
  · next event released report hflushing =>
    obtain ⟨l, n, h | h⟩ := flushEvent_state p.runtime report event w
    · exact hcore (by simp only [h]; rfl) hp
    · refine hcore ?_ (hevent event released report rfl hflushing l n)
      simp only [h, core_advanceState]
  · exact hcore (by simp only [FabricRuntime.flushEnd, core_refreshHealth]) hp
  · exact hp

/-- **What `open` establishes and every applied event keeps holds along a
run.** -/
theorem System.step_holds (hcore : ∀ {s t : RuntimeState}, core s = core t → P s → P t)
    {s : System} {m : Move} (hs : s.Holds P)
    (hstart : ∀ config faults rt w, m = .run (.start config) faults → s.process = none →
      FabricRuntime.open config { trace := s.trace, faults } = (.ok rt, w) → P rt.state)
    (hevent : ∀ p event faults, m = .run (.call .flushEvent) faults → s.next = some (p, event) →
      ∀ l n, P (applyEvent (p.runtime.state.recounted l n) event p.runtime.config.bounds
        p.runtime.config.weights).2) :
    (s.step m).Holds P := by
  refine System.step_rule (P := fun _ p => P p.runtime.state) hs hstart ?_
  intro p c faults hm hsome hp
  refine Process.call_invariant hcore hp ?_
  intro event released report hc hflushing l n
  exact hevent p event faults (hc ▸ hm) (System.next_of_flushing hsome hflushing) l n

end Invariant

end DpuFabric
