/-
  Runtime.Order — THE ORDER IN WHICH A PROCESS TAKES UP ITS EVENTS.

  `FlushOrder past p` ties the events of the past to the watermark, the
  reorder buffer, the events a flush has released and the delivery window:
  whatever the process takes up next has a key above all of the past.  Every
  call keeps it, with the event it applied added to the past, WHATEVER THE
  FILES DO; the window matters only for events that share a whole key, and
  for those the newest entry is enough.
-/
import DpuFabric.Runtime.Core

namespace DpuFabric

open Lib

variable {rt : FabricRuntime}

/-! ## §1. What the calls of the store leave alone. -/

/-- Reorder buffer, delivery window, closing flag and watermark. -/
structure SameQueue (rt rt' : FabricRuntime) : Prop where
  pending : rt'.pending = rt.pending
  deliveries : rt'.deliveries = rt.deliveries
  closed : rt'.closed = rt.closed
  watermark : rt'.state.watermark = rt.state.watermark

theorem SameQueue.trans {rt' rt'' : FabricRuntime} (h : SameQueue rt rt')
    (h' : SameQueue rt' rt'') : SameQueue rt rt'' :=
  ⟨h'.pending.trans h.pending, h'.deliveries.trans h.deliveries, h'.closed.trans h.closed,
    h'.watermark.trans h.watermark⟩

theorem checkpointLocked_queue (rt : FabricRuntime) (w : RuntimeWorld) :
    SameQueue rt (rt.checkpointLocked w).2.1 := by
  unfold FabricRuntime.checkpointLocked
  split
  · exact ⟨rfl, rfl, rfl, rfl⟩
  simp only
  split
  all_goals exact ⟨rfl, rfl, rfl, rfl⟩

theorem checkpoint_queue (rt : FabricRuntime) (w : RuntimeWorld) :
    SameQueue rt (rt.checkpoint w).2.1 := by
  unfold FabricRuntime.checkpoint
  split
  · exact ⟨rfl, rfl, rfl, rfl⟩
  · exact checkpointLocked_queue rt w

theorem close_queue (rt : FabricRuntime) (w : RuntimeWorld) :
    SameQueue rt (rt.close w).2.1 ∨ ((rt.close w).2.1.pending = []
      ∧ (rt.close w).2.1.deliveries = rt.deliveries
      ∧ (rt.close w).2.1.state.watermark = rt.state.watermark) := by
  unfold FabricRuntime.close
  split
  · exact .inl ⟨rfl, rfl, rfl, rfl⟩
  split
  · exact .inr ⟨rfl, rfl, rfl⟩
  · have hqueue := checkpointLocked_queue rt w
    exact .inr ⟨rfl, hqueue.deliveries, hqueue.watermark⟩

theorem journal_queue (rt : FabricRuntime) (event : FabricEvent) (w : RuntimeWorld) :
    SameQueue rt (rt.journal event w).2.1 :=
  journal_rule (R := fun rt _ rt' _ => SameQueue rt rt') (fun _ _ => ⟨rfl, rfl, rfl, rfl⟩)
    SameQueue.trans (fun _ _ _ _ => ⟨rfl, rfl, rfl, rfl⟩) checkpointLocked_queue
    (fun _ _ => ⟨rfl, rfl, rfl, rfl⟩) rt w

/-! ## §2. One turn, case by case. -/

/-- How a turn of a flush ends. -/
inductive Turn (rt : FabricRuntime) (event : FabricEvent) (w : RuntimeWorld) :
    FabricRuntime → RuntimeWorld → Prop where
  /-- The delivery is remembered. -/
  | suppressed (hseen : (findDelivery rt.deliveries event).isSome) : Turn rt event w rt w
  /-- The append failed. -/
  | refused (status : Status) (rt' : FabricRuntime) (w' : RuntimeWorld)
      (hnew : findDelivery rt.deliveries event = none)
      (hjournal : rt.journal event w = (some status, rt', w')) : Turn rt event w rt' w'
  /-- The event reached the reducers. -/
  | applied (rt' : FabricRuntime) (w' : RuntimeWorld) (result : ApplyResult)
      (hnew : findDelivery rt.deliveries event = none)
      (hjournal : rt.journal event w = (none, rt', w'))
      (hresult : result = (applyEvent (rt'.delivered event).state event rt'.config.bounds
        rt'.config.weights).1) :
      Turn rt event w
        { rt'.delivered event with
          state := advanceState (rt'.delivered event).state event rt'.config.bounds
            rt'.config.weights }
        (w'.note (.applied event result))

theorem flushEvent_turn (rt : FabricRuntime) (report : BatchReport) (event : FabricEvent)
    (w : RuntimeWorld) :
    Turn rt event w (flushEvent rt report event w).1 (flushEvent rt report event w).2.2 := by
  unfold flushEvent
  split
  · next seen hseen => exact .suppressed (by rw [hseen]; rfl)
  next hnew =>
  split
  · next status rt' w' hjournal => exact .refused status rt' w' hnew hjournal
  · next rt' w' hjournal => exact .applied rt' w' _ hnew hjournal rfl

theorem raiseWatermark_watermark (s : RuntimeState) (event : FabricEvent) :
    (raiseWatermark s event).watermark = max s.watermark event.instant := by
  unfold raiseWatermark
  split
  · next h => exact (max_eq_right h.le).symm
  · next h => exact (max_eq_left (not_lt.mp h)).symm

theorem advanceState_watermark (s : RuntimeState) (event : FabricEvent) (bounds : RuntimeBounds)
    (weights : PlacementWeights) :
    (advanceState s event bounds weights).watermark = max s.watermark event.instant := by
  have hclock : ∀ t : RuntimeState, (followClock t event).watermark = t.watermark := by
    intro t
    unfold followClock
    split <;> rfl
  have hrecord : ∀ (t : RuntimeState) d n, (recordDecision t d n).watermark = t.watermark := by
    intro t d n
    unfold recordDecision
    split <;> rfl
  have happly := congrArg Prod.snd (applyEvent_storeId_watermark s event bounds weights)
  simp only at happly
  simp only [advanceState, hrecord, hclock, raiseWatermark_watermark, happly]

/-! ## §3. The order. -/

/-- The events a flush has released and not taken up yet. -/
def Process.released (p : Process) : List FabricEvent :=
  (p.flushing.map Flushing.released).getD []

/-- Everything the process may take up comes after the past. -/
structure FlushOrder (past : List FabricEvent) (p : Process) : Prop where
  increasing : past.Pairwise (fun a b => eventKey a < eventKey b)
  covered : ∀ a ∈ past, a.instant ≤ p.runtime.state.watermark
  pending : ∀ q ∈ p.runtime.pending, p.runtime.state.watermark < q.instant
  sorted : p.released.Pairwise (fun a b => eventKey a ≤ eventKey b)
  between : ∀ r ∈ p.released, ∀ q ∈ p.runtime.pending, r.instant < q.instant
  ahead : ∀ r ∈ p.released, p.runtime.state.watermark ≤ r.instant
  /-- A released event that is not above the past is a remembered delivery. -/
  next : ∀ r ∈ p.released, (∀ a ∈ past, eventKey a < eventKey r)
    ∨ (findDelivery p.runtime.deliveries r).isSome
  window : p.runtime.deliveries.capacity ≠ 0

section Order

variable {past : List FabricEvent} {p : Process}

theorem flushOrder_start (hincreasing : past.Pairwise (fun a b => eventKey a < eventKey b))
    (hcovered : ∀ a ∈ past, a.instant ≤ rt.state.watermark) (hpending : rt.pending = [])
    (hwindow : rt.deliveries.capacity ≠ 0) : FlushOrder past { runtime := rt } where
  increasing := hincreasing
  covered := hcovered
  pending := by rw [hpending]; simp
  sorted := List.Pairwise.nil
  between := by simp [Process.released]
  ahead := by simp [Process.released]
  next := by simp [Process.released]
  window := hwindow

theorem FlushOrder.sameQueue (h : FlushOrder past p) (hq : SameQueue p.runtime rt) :
    FlushOrder past { p with runtime := rt } where
  increasing := h.increasing
  covered := by rw [hq.watermark]; exact h.covered
  pending := by rw [hq.watermark, hq.pending]; exact h.pending
  sorted := h.sorted
  between := by rw [hq.pending]; exact h.between
  ahead := by rw [hq.watermark]; exact h.ahead
  next := by rw [hq.deliveries]; exact h.next
  window := by rw [hq.deliveries]; exact h.window

theorem FlushOrder.dropPending (h : FlushOrder past p)
    (hpending : rt.pending = []) (hdeliveries : rt.deliveries = p.runtime.deliveries)
    (hwatermark : rt.state.watermark = p.runtime.state.watermark) :
    FlushOrder past { p with runtime := rt } where
  increasing := h.increasing
  covered := by rw [hwatermark]; exact h.covered
  pending := by rw [hpending]; simp
  sorted := h.sorted
  between := by rw [hpending]; simp
  ahead := by rw [hwatermark]; exact h.ahead
  next := by rw [hdeliveries]; exact h.next
  window := by rw [hdeliveries]; exact h.window

theorem FlushOrder.close (h : FlushOrder past p) (w : RuntimeWorld) :
    FlushOrder past { p with runtime := (p.runtime.close w).2.1 } := by
  rcases close_queue p.runtime w with hqueue | ⟨hpending, hdeliveries, hwatermark⟩
  · exact h.sameQueue hqueue
  · exact h.dropPending hpending hdeliveries hwatermark

/-- The event names its identity, its origin and the origin's epoch. -/
def FabricEvent.identified (event : FabricEvent) : Bool :=
  event.id.valid && event.origin.valid && event.originEpoch.valid

/-- What `stage` has checked of an event that it puts into the buffer. -/
structure Staged (rt : FabricRuntime) (event : FabricEvent) : Prop where
  identified : event.identified = true
  new : findDelivery rt.deliveries event = none
  later : rt.state.watermark < event.instant
  room : rt.pending.length < rt.config.bounds.maxBatchEvents

theorem stage_cases (rt : FabricRuntime) (event : FabricEvent) :
    SameQueue rt (rt.stage event).2
      ∨ ((rt.stage event).2 = { rt with pending := rt.pending ++ [event] } ∧ Staged rt event) := by
  unfold FabricRuntime.stage
  split
  · exact .inl ⟨rfl, rfl, rfl, rfl⟩
  split
  · exact .inl ⟨rfl, rfl, rfl, rfl⟩
  next hidentity =>
  split
  · exact .inl ⟨rfl, rfl, rfl, rfl⟩
  split
  · split
    all_goals exact .inl ⟨rfl, rfl, rfl, rfl⟩
  next hnew =>
  split
  · exact .inl ⟨rfl, rfl, rfl, rfl⟩
  next hlate =>
  split
  · exact .inl ⟨rfl, rfl, rfl, rfl⟩
  next hroom =>
  refine .inr ⟨rfl, ?_, hnew, not_le.mp hlate, not_le.mp hroom⟩
  simpa [FabricEvent.identified, and_assoc] using hidentity

theorem FlushOrder.stage (h : FlushOrder past p) (hidle : p.flushing = none) (event : FabricEvent) :
    FlushOrder past { p with runtime := (p.runtime.stage event).2 } := by
  rcases stage_cases p.runtime event with hqueue | ⟨hstaged, hchecked⟩
  · exact h.sameQueue hqueue
  rw [hstaged]
  have hreleased : p.released = [] := by rw [Process.released, hidle]; rfl
  refine ⟨h.increasing, h.covered, ?_, h.sorted, ?_, h.ahead, h.next, h.window⟩
  · intro q hq
    rcases List.mem_append.mp hq with hq | hq
    · exact h.pending q hq
    · rw [List.mem_singleton.mp hq]
      exact hchecked.later
  · intro r hr
    have hr' : r ∈ p.released := hr
    rw [hreleased] at hr'
    simp at hr'

/-- The released events are sorted, and later ones stay in the buffer. -/
theorem FlushOrder.flushBegin (h : FlushOrder past p) {upto : LogicalInstant}
    {released : List FabricEvent}
    (hbegin : p.runtime.flushBegin upto = .ok (released, rt)) (report : BatchReport) :
    FlushOrder past { runtime := rt, flushing := some { released, report } } := by
  unfold FabricRuntime.flushBegin at hbegin
  split at hbegin
  · simp at hbegin
  injection hbegin with hbegin
  obtain ⟨rfl, rfl⟩ := Prod.mk.inj hbegin
  have hmem : ∀ r ∈ releasedEvents p.runtime.pending upto,
      r ∈ p.runtime.pending ∧ r.instant ≤ upto := by
    intro r hr
    simpa [releasedEvents] using hr
  refine ⟨h.increasing, h.covered, ?_, ?_, ?_, ?_, ?_, h.window⟩
  · intro q hq
    exact h.pending q (List.mem_of_mem_filter hq)
  · exact List.pairwise_insertionSort _ _
  · intro r hr q hq
    have hq' : upto < q.instant := by
      simpa [retainedEvents] using (List.mem_filter.mp hq).2
    exact lt_of_le_of_lt (hmem r hr).2 hq'
  · exact fun r hr => (h.pending r (hmem r hr).1).le
  intro r hr
  refine .inl fun a ha => EventKey.lt_of_instant_lt ?_
  exact lt_of_le_of_lt (h.covered a ha) (h.pending r (hmem r hr).1)

section Turn

variable {event : FabricEvent} {released : List FabricEvent} {report : BatchReport}
  (h : FlushOrder past p)
  (hflushing : p.flushing = some { released := event :: released, report })
include h hflushing

theorem FlushOrder.skip (hq : SameQueue p.runtime rt) (report' : BatchReport) :
    FlushOrder past { runtime := rt, flushing := some { released, report := report' } } := by
  have hreleased : p.released = event :: released := by rw [Process.released, hflushing]; rfl
  have hmem : ∀ r ∈ released, r ∈ p.released := fun r hr => by
    rw [hreleased]
    exact List.mem_cons_of_mem _ hr
  have hsorted := h.sorted
  rw [hreleased] at hsorted
  refine ⟨h.increasing, ?_, ?_, (List.pairwise_cons.mp hsorted).2, ?_, ?_, ?_, ?_⟩
  · rw [hq.watermark]; exact h.covered
  · rw [hq.watermark, hq.pending]; exact h.pending
  · rw [hq.pending]; exact fun r hr => h.between r (hmem r hr)
  · rw [hq.watermark]; exact fun r hr => h.ahead r (hmem r hr)
  · rw [hq.deliveries]; exact fun r hr => h.next r (hmem r hr)
  · rw [hq.deliveries]; exact h.window

/-- The event that a turn applies comes after the past, and the events
released behind it come after both, or share its key and are remembered. -/
theorem FlushOrder.advance (hq : SameQueue p.runtime rt)
    (hnew : findDelivery p.runtime.deliveries event = none) (report' : BatchReport) :
    FlushOrder (past ++ [event])
      { runtime := { rt.delivered event with
          state := advanceState (rt.delivered event).state event rt.config.bounds
            rt.config.weights }
        flushing := some { released, report := report' } } := by
  have hreleased : p.released = event :: released := by rw [Process.released, hflushing]; rfl
  have hevent : event ∈ p.released := by rw [hreleased]; exact List.mem_cons_self
  have hmem : ∀ r ∈ released, r ∈ p.released := fun r hr => by
    rw [hreleased]
    exact List.mem_cons_of_mem _ hr
  have hsorted := h.sorted
  rw [hreleased] at hsorted
  obtain ⟨hbehind, htail⟩ := List.pairwise_cons.mp hsorted
  have hlater : ∀ a ∈ past, eventKey a < eventKey event :=
    (h.next event hevent).resolve_right (by simp [hnew])
  have hwatermark : (advanceState (rt.delivered event).state event rt.config.bounds
      rt.config.weights).watermark = max p.runtime.state.watermark event.instant := by
    rw [advanceState_watermark, ← hq.watermark]
    rfl
  have hcapacity : (rt.delivered event).deliveries.capacity = p.runtime.deliveries.capacity := by
    rw [← hq.deliveries]
    unfold FabricRuntime.delivered deliver
    simp only
    split
    all_goals exact BoundedHistory.push_capacity ..
  have hnewest : deliveryOf event ∈ (rt.delivered event).deliveries.entries := by
    have hpush := BoundedHistory.mem_push_self (h := rt.deliveries)
      (hq.deliveries ▸ h.window) (deliveryOf event)
    unfold FabricRuntime.delivered deliver
    simp only
    split
    all_goals exact hpush
  refine ⟨?_, ?_, ?_, htail, ?_, ?_, ?_, ?_⟩
  · exact List.pairwise_append.mpr ⟨h.increasing, by simp, by simpa using hlater⟩
  · intro a ha
    rw [hwatermark]
    rcases List.mem_append.mp ha with ha | ha
    · exact (h.covered a ha).trans (le_max_left _ _)
    · rw [List.mem_singleton.mp ha]
      exact le_max_right _ _
  · intro q hqp
    have hqp' : q ∈ p.runtime.pending := hq.pending ▸ hqp
    rw [hwatermark]
    exact max_lt (h.pending q hqp') (h.between event hevent q hqp')
  · intro r hr q hqp
    exact h.between r (hmem r hr) q (hq.pending ▸ hqp)
  · intro r hr
    rw [hwatermark]
    exact max_le (h.ahead r (hmem r hr)) (EventKey.instant_le_of_le (hbehind r hr))
  · intro r hr
    rcases lt_or_eq_of_le (hbehind r hr) with hlt | heq
    · refine .inl fun a ha => ?_
      rcases List.mem_append.mp ha with ha | ha
      · exact (hlater a ha).trans hlt
      · rw [List.mem_singleton.mp ha]
        exact hlt
    · -- the same key, so the same origin sequence
      refine .inr ?_
      rw [findDelivery, List.find?_isSome]
      refine ⟨deliveryOf event, hnewest, ?_⟩
      simp only [eventKey, EventKey.mk.injEq] at heq
      simp [DeliveryRecord.covers, deliveryOf, heq]
  · exact hcapacity ▸ h.window

end Turn

theorem FlushOrder.flushEnd (h : FlushOrder past p) (report : BatchReport) :
    FlushOrder past { runtime := (p.runtime.flushEnd report).2 } where
  increasing := h.increasing
  covered := h.covered
  pending := h.pending
  sorted := List.Pairwise.nil
  between := by simp [Process.released]
  ahead := by simp [Process.released]
  next := by simp [Process.released]
  window := h.window

end Order

end DpuFabric
