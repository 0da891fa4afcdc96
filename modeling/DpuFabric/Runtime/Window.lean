/-
  Runtime.Window — THE REORDER BUFFER AND THE DELIVERY WINDOW.

  A process starts with an empty window and remembers every event that it
  replays or takes up live, newest last, one record per origin sequence, as
  many as the window holds.  `Window events rt` ties the window to the events
  delivered so far; `Handling t p` adds the reorder buffer.  Both hold of
  every process of every run (`run_handling`), whatever the files do.
-/
import DpuFabric.Runtime.Marks

namespace DpuFabric

open Lib

variable {w w' : RuntimeWorld} {rt : FabricRuntime} {event : FabricEvent} {config : RuntimeConfig}

/-! ## §1. Delivered events. -/

/-- One entry of the trace, as the present process remembers it. -/
def deliveredStep (events : List FabricEvent) : Action FileName Mark → List FabricEvent
  | .mark .started => []
  | .mark (.applied event _) => events ++ [event]
  | .mark (.replayed event _) => events ++ [event]
  | _ => events

/-- The events that the present process has replayed or taken up live, in
order. -/
def deliveredEvents (t : List (Action FileName Mark)) : List FabricEvent :=
  t.foldl deliveredStep []

@[simp] theorem deliveredEvents_concat (t : List (Action FileName Mark))
    (a : Action FileName Mark) :
    deliveredEvents (t ++ [a]) = deliveredStep (deliveredEvents t) a := by
  simp [deliveredEvents]

theorem bookkept_delivered (events : List FabricEvent) :
    Bookkept (fun t => deliveredEvents t = events) where
  files _ _ h := by rw [deliveredEvents_concat, h]; rfl
  copied _ h := by rw [deliveredEvents_concat, h]; rfl
  journaled _ h := by rw [deliveredEvents_concat, h]; rfl

/-! ## §2. The window. -/

/-- The origin sequence of a record. -/
def DeliveryRecord.key (r : DeliveryRecord) : OriginId × OriginEpoch × Sequence :=
  (r.origin, r.originEpoch, r.originSeq)

theorem DeliveryRecord.covers_iff (r : DeliveryRecord) (event : FabricEvent) :
    r.covers event = true ↔ r.key = (deliveryOf event).key := by
  simp [DeliveryRecord.covers, DeliveryRecord.key, deliveryOf, and_assoc]

theorem findDelivery_eq_none_iff {deliveries : BoundedHistory DeliveryRecord}  :
    findDelivery deliveries event = none
      ↔ (deliveryOf event).key ∉ deliveries.entries.map DeliveryRecord.key := by
  simp only [findDelivery, List.find?_eq_none, DeliveryRecord.covers_iff, List.mem_map, not_exists,
    not_and]

theorem BoundedHistory.push_length {α : Type} {h : BoundedHistory α}
    (hle : h.entries.length ≤ h.capacity) (v : α) : (h.push v).2.entries.length ≤ h.capacity := by
  unfold BoundedHistory.push
  split
  · exact hle
  · simp only [BoundedHistory.excess, List.length_append, List.length_drop, List.length_singleton]
    omega

theorem push_distinct {deliveries : BoundedHistory DeliveryRecord}
    (h : (deliveries.entries.map DeliveryRecord.key).Nodup)
    (hnew : findDelivery deliveries event = none) :
    ((deliveries.push (deliveryOf event)).2.entries.map DeliveryRecord.key).Nodup := by
  rw [findDelivery_eq_none_iff] at hnew
  unfold BoundedHistory.push
  split
  · exact h
  have hkept := ((List.drop_sublist deliveries.excess deliveries.entries).map DeliveryRecord.key)
  rw [List.map_append, List.map_singleton, ← List.concat_eq_append]
  exact (h.sublist hkept).concat fun hmem => hnew (hkept.subset hmem)

/-- The window of a process that has delivered the events. -/
structure Window (events : List FabricEvent) (rt : FabricRuntime) : Prop where
  capacity : rt.deliveries.capacity = rt.config.bounds.maxDuplicateWindow
  length : rt.deliveries.entries.length ≤ rt.deliveries.capacity
  distinct : (rt.deliveries.entries.map DeliveryRecord.key).Nodup
  covered : ∀ e ∈ events, e.instant ≤ rt.state.watermark

section Window

variable {events : List FabricEvent} {rt : FabricRuntime}

theorem Window.sameQueue (h : Window events rt) {rt' : FabricRuntime} (hq : SameQueue rt rt')
    (hconfig : rt'.config = rt.config) : Window events rt' where
  capacity := by rw [hq.deliveries, hconfig]; exact h.capacity
  length := by rw [hq.deliveries]; exact h.length
  distinct := by rw [hq.deliveries]; exact h.distinct
  covered := by rw [hq.watermark]; exact h.covered

theorem delivered_deliveries (rt : FabricRuntime) (event : FabricEvent) :
    (rt.delivered event).deliveries = (rt.deliveries.push (deliveryOf event)).2 := by
  unfold FabricRuntime.delivered deliver
  simp only
  split <;> rfl

/-- A new delivery is remembered; the oldest ones make room for it. -/
theorem Window.deliver (h : Window events rt)
    (hnew : findDelivery rt.deliveries event = none) {state : RuntimeState}
    (hwatermark : state.watermark = max rt.state.watermark event.instant) :
    Window (events ++ [event]) { rt.delivered event with state } := by
  have hpush := delivered_deliveries rt event
  refine ⟨?_, ?_, ?_, ?_⟩
  · rw [hpush, BoundedHistory.push_capacity]
    exact h.capacity
  · rw [hpush, BoundedHistory.push_capacity]
    exact BoundedHistory.push_length h.length _
  · rw [hpush]
    exact push_distinct h.distinct hnew
  intro e he
  rw [hwatermark]
  rcases List.mem_append.mp he with he | he
  · exact (h.covered e he).trans (le_max_left _ _)
  · rw [List.mem_singleton.mp he]
    exact le_max_right _ _

/-- The one record of an origin sequence is the one that is found. -/
theorem Window.find (h : Window events rt) {r : DeliveryRecord} (hr : r ∈ rt.deliveries.entries)
    (hkey : r.key = (deliveryOf event).key) : findDelivery rt.deliveries event = some r := by
  have hsome : (findDelivery rt.deliveries event).isSome := by
    rw [findDelivery, List.find?_isSome]
    exact ⟨r, hr, (r.covers_iff event).mpr hkey⟩
  obtain ⟨r', hr'⟩ := Option.isSome_iff_exists.mp hsome
  have hfound : rt.deliveries.entries.find? (fun seen => seen.covers event) = some r' := hr'
  have hcovers : r'.covers event = true := by simpa using List.find?_some hfound
  have hkey' := (r'.covers_iff event).mp hcovers
  rw [hr', List.inj_on_of_nodup_map h.distinct (List.mem_of_find?_eq_some hfound) hr
    (hkey'.trans hkey.symm)]

end Window

/-! ## §3. Recovery. -/

/-- The window of a process, which the trace tells the deliveries of. -/
def Remembers (w : RuntimeWorld) (rt : FabricRuntime) : Prop :=
  Window (deliveredEvents w.trace) rt ∧ rt.pending = []

theorem Remembers.quiet {rt' : FabricRuntime} (h : Remembers w rt)
    (hsame : deliveredEvents w'.trace = deliveredEvents w.trace) (hq : SameQueue rt rt')
    (hconfig : rt'.config = rt.config) : Remembers w' rt' :=
  ⟨by rw [hsame]; exact h.1.sameQueue hq hconfig, hq.pending.trans h.2⟩

theorem replayEvent_remembers (h : Remembers w rt) (event : FabricEvent) :
    Remembers (rt.replayEvent event w).2 (rt.replayEvent event w).1 := by
  unfold FabricRuntime.replayEvent
  split
  · exact h
  next hnew =>
  refine ⟨?_, h.2⟩
  simp only [World.note, deliveredEvents_concat]
  refine h.1.deliver hnew ?_
  rw [replayState, raiseWatermark_watermark]
  exact congrArg (max · event.instant) (congrArg Prod.snd
    (applyEvent_storeId_watermark (rt.delivered event).state event _ _))

theorem restart_remembers (h : Remembers w rt) (classification : RecoveryClass) :
    Remembers (rt.restart classification w).2.2 (rt.restart classification w).2.1 := by
  have hrestarted : Remembers w (rt.restarted classification) := h.quiet rfl ⟨rfl, rfl, rfl, rfl⟩ rfl
  have hend : Remembers ((rt.restarted classification).checkpoint w).2.2
      ((rt.restarted classification).checkpoint w).2.1 :=
    hrestarted.quiet (checkpoint_passes (bookkept_delivered _) (rt.restarted classification) rfl).finish
      (checkpoint_queue _ w) (checkpoint_config _ w)
  simp only [FabricRuntime.restart]
  split
  · exact hend
  · exact hend.quiet rfl ⟨rfl, rfl, rfl, rfl⟩ rfl

theorem blank_remembers (hnone : deliveredEvents w.trace = []) :
    Remembers w (blankRuntime config) := by
  refine ⟨?_, rfl⟩
  rw [hnone]
  exact ⟨rfl, Nat.zero_le _, List.nodup_nil, by simp⟩

/-- Up to the snapshot nothing is delivered, so its watermark need not cover
anything. -/
theorem remembers_walk : Walk (fun rt w => Remembers w rt ∧ deliveredEvents w.trace = [])
    (fun rt w => Remembers w rt) where
  opened o h := by
    have hnone := (storeOpen_passes (bookkept_delivered []).plain.calm h.2 o).finish
    exact ⟨h.1.quiet (hnone.trans h.2.symm) ⟨rfl, rfl, rfl, rfl⟩ rfl, hnone⟩
  loaded st h := by
    have hnone := (load_passes (bookkept_delivered []).plain h.2 st).finish
    exact ⟨h.1.quiet (hnone.trans h.2.symm) ⟨rfl, rfl, rfl, rfl⟩ rfl, hnone⟩
  held _ _ _ h := ⟨h.1.quiet rfl ⟨rfl, rfl, rfl, rfl⟩ rfl, h.2⟩
  based h := h.1
  restored _ _ h := by
    refine ⟨?_, h.1.2⟩
    simp only [World.note, deliveredEvents_concat, deliveredStep, h.2]
    exact ⟨h.1.1.capacity, h.1.1.length, h.1.1.distinct, by simp⟩
  replayed event h := replayEvent_remembers h event
  recovery _ h := h.quiet rfl ⟨rfl, rfl, rfl, rfl⟩ rfl
  restarted classification h := restart_remembers h classification
  fresh h := h.quiet rfl ⟨rfl, rfl, rfl, rfl⟩ rfl

/-- **An opened runtime** remembers what it replayed and has staged nothing. -/
theorem open_remembers (h : FabricRuntime.open config w = (.ok rt, w')) : Remembers w' rt := by
  have hstarted : deliveredEvents (w.note .started).trace = [] := by
    simp only [World.note, deliveredEvents_concat, deliveredStep]
  exact (remembers_walk.open _ ⟨blank_remembers hstarted, hstarted⟩).1 rt w' h

/-- An opened runtime has staged nothing, and its window is not empty. -/
theorem open_buffer (h : FabricRuntime.open config w = (.ok rt, w')) :
    rt.pending = [] ∧ rt.deliveries.capacity ≠ 0 := by
  have hremembers := open_remembers h
  refine ⟨hremembers.2, ?_⟩
  rw [hremembers.1.capacity, (open_inv h).1]
  unfold FabricRuntime.open at h
  split at h
  · simp at h
  · next hrefusal => exact RuntimeBounds.validate_window (RuntimeConfig.bounds_ok hrefusal)

/-! ## §4. Calls. -/

/-- The buffer and the window of a process. -/
structure Handling (t : List (Action FileName Mark)) (p : Process) : Prop where
  window : Window (deliveredEvents t) p.runtime
  room : p.runtime.pending.length ≤ p.runtime.config.bounds.maxBatchEvents
  identified : ∀ e, e ∈ p.runtime.pending ∨ e ∈ p.released → e.identified = true

section Handling

variable {t : List (Action FileName Mark)} {p : Process}

/-- A call that leaves the queue as it is, or drops some of it. -/
theorem Handling.keep (h : Handling t p) {t' : List (Action FileName Mark)} {q : Process}
    (hsame : deliveredEvents t' = deliveredEvents t)
    (hdeliveries : q.runtime.deliveries = p.runtime.deliveries)
    (hconfig : q.runtime.config = p.runtime.config)
    (hwatermark : q.runtime.state.watermark = p.runtime.state.watermark)
    (hlength : q.runtime.pending.length ≤ p.runtime.pending.length)
    (hmem : ∀ e, e ∈ q.runtime.pending ∨ e ∈ q.released →
      e ∈ p.runtime.pending ∨ e ∈ p.released) : Handling t' q where
  window := by
    rw [hsame]
    exact
      { capacity := by rw [hdeliveries, hconfig]; exact h.window.capacity
        length := by rw [hdeliveries]; exact h.window.length
        distinct := by rw [hdeliveries]; exact h.window.distinct
        covered := by rw [hwatermark]; exact h.window.covered }
  room := by rw [hconfig]; exact hlength.trans h.room
  identified e he := h.identified e (hmem e he)

theorem Handling.stage (h : Handling t p) (event : FabricEvent) :
    Handling t { p with runtime := (p.runtime.stage event).2 } := by
  rcases stage_cases p.runtime event with hqueue | ⟨hstaged, hchecked⟩
  · refine h.keep rfl hqueue.deliveries (stage_config _ _) hqueue.watermark ?_ ?_
    · exact (congrArg List.length hqueue.pending).le
    · rw [hqueue.pending]
      exact fun _ => id
  · rw [hstaged]
    refine ⟨⟨h.window.capacity, h.window.length, h.window.distinct, h.window.covered⟩, ?_, ?_⟩
    · rw [List.length_append]
      exact hchecked.room
    rintro e (he | he)
    · rcases List.mem_append.mp he with he | he
      · exact h.identified e (.inl he)
      · rw [List.mem_singleton.mp he]
        exact hchecked.identified
    · exact h.identified e (.inr he)

theorem Handling.flushBegin (h : Handling t p) {upto : LogicalInstant} {released : List FabricEvent}
    (hbegin : p.runtime.flushBegin upto = .ok (released, rt)) (report : BatchReport) :
    Handling t { runtime := rt, flushing := some { released, report } } := by
  unfold FabricRuntime.flushBegin at hbegin
  split at hbegin
  · simp at hbegin
  injection hbegin with hbegin
  obtain ⟨rfl, rfl⟩ := Prod.mk.inj hbegin
  refine h.keep rfl rfl rfl rfl (List.length_filter_le _ _) ?_
  rintro e (he | he)
  · exact .inl (List.mem_of_mem_filter he)
  · exact .inl (List.mem_of_mem_filter ((List.mem_insertionSort _).mp he))

/-- A turn of a flush delivers its event, or leaves the queue as it is. -/
theorem Handling.turn (h : Handling w.trace p) {released : List FabricEvent} {report : BatchReport}
    (hflushing : p.flushing = some { released := event :: released, report })
    (hturn : Turn p.runtime event w rt w') (report' : BatchReport) :
    Handling w'.trace { runtime := rt, flushing := some { released, report := report' } } := by
  have hreleased : ∀ e ∈ released, e ∈ p.released := by
    intro e he
    rw [Process.released, hflushing]
    exact List.mem_cons_of_mem _ he
  have hqueue := journal_queue p.runtime event w
  have hconfig := journal_config p.runtime event w
  have hquiet : deliveredEvents (p.runtime.journal event w).2.2.trace = deliveredEvents w.trace :=
    (journal_passes (bookkept_delivered _) p.runtime event rfl).finish
  cases hturn with
  | suppressed hseen =>
    refine h.keep rfl rfl rfl rfl le_rfl ?_
    exact fun e he => he.imp id (hreleased e)
  | refused status _ _ hnew hj =>
    rw [hj] at hqueue hconfig hquiet
    refine h.keep hquiet hqueue.deliveries hconfig hqueue.watermark
      (congrArg List.length hqueue.pending).le ?_
    rw [hqueue.pending]
    exact fun e he => he.imp id (hreleased e)
  | applied rt₁ w₁ result hnew hj hresult =>
    rw [hj] at hqueue hconfig hquiet
    have hwindow : Window (deliveredEvents w.trace) rt₁ := h.window.sameQueue hqueue hconfig
    refine ⟨?_, ?_, ?_⟩
    · simp only [World.note, deliveredEvents_concat, hquiet]
      refine hwindow.deliver (hqueue.deliveries ▸ hnew) ?_
      rw [advanceState_watermark]
      rfl
    · have hroom := h.room
      rw [← hqueue.pending, ← hconfig] at hroom
      exact hroom
    · rintro e (he | he)
      · exact h.identified e (.inl (hqueue.pending ▸ he))
      · exact h.identified e (.inr (hreleased e he))

/-- **Every call keeps the buffer and the window.** -/
theorem Handling.call (h : Handling w.trace p) (c : Call) :
    Handling (p.call c w).2.trace (p.call c w).1 := by
  have hqueued : ∀ {rt : FabricRuntime} {w' : RuntimeWorld}, SameQueue p.runtime rt →
      rt.config = p.runtime.config → deliveredEvents w'.trace = deliveredEvents w.trace →
      Handling w'.trace { p with runtime := rt } := by
    intro rt w' hqueue hconfig hquiet
    refine h.keep hquiet hqueue.deliveries hconfig hqueue.watermark
      (congrArg List.length hqueue.pending).le ?_
    rw [hqueue.pending]
    exact fun _ => id
  unfold Process.call
  split
  · next event _ => exact h.stage event
  · split
    · exact h
    · next hbegin => exact h.flushBegin hbegin _
  · exact hqueued (checkpoint_queue _ w) (checkpoint_config _ w)
      (checkpoint_passes (bookkept_delivered _) p.runtime rfl).finish
  · have hquiet : deliveredEvents (p.runtime.close w).2.2.trace = deliveredEvents w.trace :=
      (close_passes (bookkept_delivered _) p.runtime rfl).finish
    obtain hqueue | ⟨hdropped, hdeliveries, hwatermark⟩ := close_queue p.runtime w
    · exact hqueued hqueue (close_config _ w) hquiet
    refine h.keep hquiet hdeliveries (close_config _ w) hwatermark ?_ ?_
    all_goals simp only [hdropped]
    · exact Nat.zero_le _
    · exact fun e he => he.imp (fun he => absurd he (by simp)) id
  · next event released report hflushing => exact h.turn hflushing (flushEvent_turn ..) _
  · refine h.keep rfl rfl rfl rfl le_rfl ?_
    exact fun e he => he.imp id (fun he => absurd he (by simp [Process.released]))
  · exact h

end Handling

/-! ## §5. Runs. -/

theorem Remembers.handling (h : Remembers w rt) : Handling w.trace { runtime := rt } where
  window := h.1
  room := by rw [h.2]; exact Nat.zero_le _
  identified e he := by simp [h.2, Process.released] at he

theorem step_handling {s : System} (hs : ∀ p, s.process = some p → Handling s.trace p) (m : Move) :
    ∀ p, (s.step m).process = some p → Handling (s.step m).trace p :=
  System.step_rule hs (fun _ _ _ _ _ _ hopen => (open_remembers hopen).handling)
    (fun _ c faults _ _ h => h.call (w := { trace := s.trace, faults }) c)

/-- **The buffer and the window of every process of every run.** -/
theorem run_handling (moves : List Move) {p : Process}
    (hp : (System.after {} moves).process = some p) : Handling (System.after {} moves).trace p :=
  run_rule (fun hopen => (open_remembers hopen).handling) (fun c h => h.call c) moves hp

end DpuFabric
