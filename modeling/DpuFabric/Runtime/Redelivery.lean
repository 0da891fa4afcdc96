/-
  Runtime.Redelivery — WHAT IS DELIVERED TWICE IS TAKEN UP ONCE.

  `submit` stages its events one by one and then flushes up to the largest of
  their instants.  An event whose delivery is remembered does not get past
  `stage`, and its instant is already below the watermark, so it releases
  nothing either: a batch with redeliveries merged into it leaves the runtime
  and its files exactly as the batch alone does (`redelivery_idempotent`).
-/
import DpuFabric.Lib.Merge
import DpuFabric.Runtime.Traced
import Mathlib.Order.MinMax

namespace DpuFabric

open Lib

variable {rt : FabricRuntime} {s : Staging}

/-! ## §1. Redeliveries. -/

/-- The second event is the first one once more: the same identity, instant and
body, and no payload digest or the right one. -/
structure Redelivery (e d : FabricEvent) : Prop where
  id : d.id = e.id
  origin : d.origin = e.origin
  originEpoch : d.originEpoch = e.originEpoch
  originSeq : d.originSeq = e.originSeq
  instant : d.instant = e.instant
  body : d.body = e.body
  payload : d.payloadDigest.isZero = true ∨ d.payloadDigest = d.computePayloadDigest

/-- The process has delivered the event and remembers it. -/
structure Remembered (t : List (Action FileName Mark)) (rt : FabricRuntime) (e : FabricEvent) :
    Prop where
  delivered : e ∈ deliveredEvents t
  recorded : deliveryOf e ∈ rt.deliveries.entries

/-- The record of a delivery does not look at the payload digest that the event
carries. -/
theorem Redelivery.deliveryOf_eq {e d : FabricEvent} (h : Redelivery e d) :
    deliveryOf d = deliveryOf e := by
  have hdigest : eventDigest d = eventDigest e := by
    simp only [eventDigest, FabricEvent.computePayloadDigest, h.id, h.origin, h.originEpoch,
      h.originSeq, h.instant, h.body]
  simp only [deliveryOf, hdigest, h.origin, h.originEpoch, h.originSeq]

/-! ## §2. Staging. -/

/-- `stage` would suppress the event. -/
def FabricRuntime.suppresses (rt : FabricRuntime) (event : FabricEvent) : Bool :=
  decide ((rt.stage event).1.code = .duplicateSuppressed)

/-- What staging leaves as it was, and what it puts into the buffer. -/
structure StagedFrom (rt rt' : FabricRuntime) : Prop where
  deliveries : rt'.deliveries = rt.deliveries
  closed : rt'.closed = rt.closed
  watermark : rt'.state.watermark = rt.state.watermark
  pending : ∀ q ∈ rt'.pending, rt.state.watermark < q.instant

section Stage

variable {rt rt' : FabricRuntime} {event : FabricEvent}

theorem StagedFrom.stage (h : StagedFrom rt rt') (event : FabricEvent) :
    StagedFrom rt (rt'.stage event).2 := by
  rcases stage_cases rt' event with hqueue | ⟨hstaged, hchecked⟩
  · refine ⟨hqueue.deliveries.trans h.deliveries, hqueue.closed.trans h.closed,
      hqueue.watermark.trans h.watermark, ?_⟩
    rw [hqueue.pending]
    exact h.pending
  · rw [hstaged]
    refine ⟨h.deliveries, h.closed, h.watermark, fun q hq => ?_⟩
    rcases List.mem_append.mp hq with hq | hq
    · exact h.pending q hq
    · rw [List.mem_singleton.mp hq, ← h.watermark]
      exact hchecked.later

/-- An event whose origin sequence is remembered changes nothing. -/
theorem stage_remembered (h : (findDelivery rt.deliveries event).isSome = true) :
    (rt.stage event).2 = rt := by
  obtain ⟨seen, hseen⟩ := Option.isSome_iff_exists.mp h
  unfold FabricRuntime.stage
  rw [hseen]
  simp only
  repeat' split
  all_goals rfl

theorem stage_duplicate_iff :
    (rt.stage event).1.code = .duplicateSuppressed
      ↔ rt.closed = false ∧ event.identified = true
        ∧ (event.payloadDigest.isZero = true ∨ event.payloadDigest = event.computePayloadDigest)
        ∧ ∃ seen, findDelivery rt.deliveries event = some seen
          ∧ seen.digest = eventDigest event := by
  unfold FabricRuntime.stage
  split
  · next hclosed => simp [hclosed]
  next hopen =>
  split
  · next hidentity =>
    have hunidentified : event.identified = false := by
      simp only [FabricEvent.identified]
      revert hidentity
      cases event.id.valid <;> cases event.origin.valid <;> cases event.originEpoch.valid <;> simp
    simp [hunidentified]
  · next hidentity =>
    have hidentified : event.identified = true := by
      simpa [FabricEvent.identified, and_assoc] using hidentity
    split
    · next hpayload =>
      simp only [Bool.and_eq_true, Bool.not_eq_true', decide_eq_false_iff_not] at hpayload
      simp [hpayload]
    · next hpayload =>
      have hcarried : event.payloadDigest.isZero = true
          ∨ event.payloadDigest = event.computePayloadDigest := by
        by_cases hzero : event.payloadDigest.isZero = true
        · exact .inl hzero
        · exact .inr (by simpa [hzero] using hpayload)
      split
      · next seen hseen =>
        split
        · next hsame => simp [hopen, hidentified, hcarried, hseen, hsame]
        · next hother => simp [hseen, hother]
      · next hnew =>
        split
        · simp [hnew]
        · split <;> simp [hnew, Status.success]

theorem StagedFrom.suppresses_eq (h : StagedFrom rt rt') (event : FabricEvent) :
    rt'.suppresses event = rt.suppresses event := by
  simp only [FabricRuntime.suppresses, stage_duplicate_iff, h.deliveries, h.closed]

theorem stage_suppressed (h : rt.suppresses event = true) :
    rt.stage event
      = (refuse .duplicateSuppressed (txt "duplicate delivery suppressed"), rt) := by
  obtain ⟨hopen, hidentity, hpayload, seen, hseen, hsame⟩ :=
    stage_duplicate_iff.mp (of_decide_eq_true h)
  simp only [FabricEvent.identified, Bool.and_eq_true] at hidentity
  unfold FabricRuntime.stage
  rw [hseen]
  rcases hpayload with hzero | hcarried
  · simp [hopen, hidentity, hzero, hsame]
  · simp [hopen, hidentity, ← hcarried, hsame]

end Stage

/-! ## §3. The staging loop. -/

theorem Staging.step_runtime (s : Staging) (event : FabricEvent) :
    (s.step event).runtime = (s.runtime.stage event).2 := by
  unfold Staging.step
  simp only
  repeat' split
  all_goals rfl

theorem Staging.step_upto (s : Staging) (event : FabricEvent) :
    (s.step event).upto = max s.upto event.instant := by
  have hmax : (if s.upto < event.instant then event.instant else s.upto)
      = max s.upto event.instant := by
    split
    · next h => exact (max_eq_right h.le).symm
    · next h => exact (max_eq_left (not_lt.mp h)).symm
  unfold Staging.step
  simp only
  repeat' split
  all_goals first | exact hmax | simp_all

/-- The staging loops over two batches, one with redeliveries merged in: one
runtime, and horizons that differ below the watermark only. -/
structure Alike (rt : FabricRuntime) (s t : Staging) : Prop where
  runtime : s.runtime = t.runtime
  staged : StagedFrom rt t.runtime
  horizon : ∀ i, rt.state.watermark < i → (i ≤ s.upto ↔ i ≤ t.upto)

theorem Alike.both {t : Staging} (h : Alike rt s t) (event : FabricEvent) :
    Alike rt (s.step event) (t.step event) where
  runtime := by rw [Staging.step_runtime, Staging.step_runtime, h.runtime]
  staged := by
    rw [Staging.step_runtime]
    exact h.staged.stage event
  horizon i hi := by
    rw [Staging.step_upto, Staging.step_upto, le_max_iff, le_max_iff, h.horizon i hi]

theorem Alike.skip {t : Staging} (h : Alike rt s t) {d : FabricEvent}
    (hseen : (findDelivery rt.deliveries d).isSome = true)
    (hcovered : d.instant ≤ rt.state.watermark) : Alike rt (s.step d) t where
  runtime := by
    rw [Staging.step_runtime, h.runtime]
    exact stage_remembered (by rw [h.staged.deliveries]; exact hseen)
  staged := h.staged
  horizon i hi := by
    have hbelow : ¬ i ≤ d.instant := not_le.mpr (lt_of_le_of_lt hcovered hi)
    rw [Staging.step_upto, le_max_iff, h.horizon i hi]
    exact or_iff_left hbelow

/-- What a suppressed event is reported as. -/
def suppressedOutcome (event : FabricEvent) : EventOutcome :=
  { id := event.id, code := .duplicateSuppressed, detail := txt "duplicate delivery suppressed" }

theorem staging_duplicates (events : List FabricEvent) (hs : StagedFrom rt s.runtime) :
    (events.foldl Staging.step s).duplicates
      = s.duplicates ++ (events.filter rt.suppresses).map suppressedOutcome := by
  induction events generalizing s with
  | nil => simp
  | cons event rest ih =>
    have hstep : StagedFrom rt (s.step event).runtime := by
      rw [Staging.step_runtime]
      exact hs.stage event
    rw [List.foldl_cons, ih hstep]
    cases hsuppressed : rt.suppresses event with
    | true =>
      have hstage := stage_suppressed ((hs.suppresses_eq event).trans hsuppressed)
      have hduplicates : (s.step event).duplicates
          = s.duplicates ++ [suppressedOutcome event] := by
        unfold Staging.step
        rw [hstage]
        rfl
      rw [hduplicates, List.filter_cons_of_pos hsuppressed, List.map_cons, List.append_assoc]
      rfl
    | false =>
      have hcode : (s.runtime.stage event).1.code ≠ .duplicateSuppressed :=
        of_decide_eq_false ((hs.suppresses_eq event).trans hsuppressed)
      have hduplicates : (s.step event).duplicates = s.duplicates := by
        unfold Staging.step
        simp only [if_neg hcode]
        split <;> rfl
      rw [hduplicates, List.filter_cons_of_neg (by simp [hsuppressed])]

/-! ## §4. The flush. -/

theorem flushEvent_report (rt : FabricRuntime) (r r' : BatchReport) (event : FabricEvent)
    (w : RuntimeWorld) :
    (flushEvent rt r event w).1 = (flushEvent rt r' event w).1
      ∧ (flushEvent rt r event w).2.2 = (flushEvent rt r' event w).2.2 := by
  unfold flushEvent
  split
  · exact ⟨rfl, rfl⟩
  · split
    all_goals exact ⟨rfl, rfl⟩

theorem flushLoop_report (events : List FabricEvent) (rt : FabricRuntime) (r r' : BatchReport)
    (w : RuntimeWorld) :
    (flushLoop events (rt, r, w)).1 = (flushLoop events (rt, r', w)).1
      ∧ (flushLoop events (rt, r, w)).2.2 = (flushLoop events (rt, r', w)).2.2 := by
  induction events generalizing rt r r' w with
  | nil => exact ⟨rfl, rfl⟩
  | cons event rest ih =>
    obtain ⟨hruntime, hworld⟩ := flushEvent_report rt r r' event w
    unfold flushLoop
    generalize flushEvent rt r event w = one at hruntime hworld ⊢
    generalize flushEvent rt r' event w = other at hruntime hworld ⊢
    obtain ⟨rt₁, r₁, w₁⟩ := one
    obtain ⟨rt₂, r₂, w₂⟩ := other
    obtain rfl : rt₁ = rt₂ := hruntime
    obtain rfl : w₁ = w₂ := hworld
    exact ih rt₁ r₁ r₂ w₁

theorem flush_horizon {u v : LogicalInstant}
    (h : ∀ q ∈ rt.pending, q.instant ≤ u ↔ q.instant ≤ v) (w : RuntimeWorld) :
    (rt.flush u w).2 = (rt.flush v w).2 := by
  have hreleased : releasedEvents rt.pending u = releasedEvents rt.pending v := by
    unfold releasedEvents
    rw [List.filter_congr fun q hq => decide_eq_decide.mpr (h q hq)]
  have hretained : retainedEvents rt.pending u = retainedEvents rt.pending v :=
    List.filter_congr fun q hq => congrArg (! ·) (decide_eq_decide.mpr (h q hq))
  obtain ⟨hruntime, hworld⟩ := flushLoop_report (releasedEvents rt.pending v)
    { rt with pending := retainedEvents rt.pending v } { upto := u } { upto := v } w
  unfold FabricRuntime.flush FabricRuntime.flushBegin
  by_cases hclosed : rt.closed = true
  · simp only [if_pos hclosed]
  simp only [if_neg hclosed, hreleased, hretained, Prod.mk.injEq]
  refine ⟨?_, hworld⟩
  -- the runtime that `flushEnd` leaves has nothing of the report
  exact congrArg (fun after : FabricRuntime => (after.flushEnd {}).2) hruntime

/-- The events that a flush takes up live are among the released ones. -/
theorem flushLoop_live (events : List FabricEvent) (rt : FabricRuntime) (r : BatchReport)
    (w : RuntimeWorld) :
    ∃ u, (flushLoop events (rt, r, w)).2.2.trace = w.trace ++ u
      ∧ ∀ e ∈ liveEvents u, e ∈ events := by
  induction events generalizing rt r w with
  | nil => exact ⟨[], (List.append_nil _).symm, by simp [liveEvents]⟩
  | cons event rest ih =>
    obtain ⟨_, _, u, hlive, hturn⟩ := (flushEvent_turn rt r event w).traced
    unfold flushLoop
    obtain ⟨v, hv, hmem⟩ := ih (flushEvent rt r event w).1 (flushEvent rt r event w).2.1
      (flushEvent rt r event w).2.2
    have hlater : ∀ e ∈ liveEvents v, e ∈ event :: rest :=
      fun e he => List.mem_cons_of_mem _ (hmem e he)
    rcases hturn with ⟨-, htrace⟩ | ⟨-, htrace⟩
    · refine ⟨u ++ v, ?_, ?_⟩
      · rw [hv, htrace, List.append_assoc]
      · rw [liveEvents_append, hlive]
        exact hlater
    · generalize (applyEvent _ event _ _).1 = result at htrace
      refine ⟨u ++ ([.mark (.applied event result)] ++ v), ?_, ?_⟩
      · rw [hv, htrace, List.append_assoc, List.append_assoc]
      rw [liveEvents_append, liveEvents_append, hlive, List.nil_append]
      intro e he
      rcases List.mem_append.mp he with he | he
      · obtain rfl : e = event := by simpa [liveEvents] using he
        exact List.mem_cons_self
      · exact hlater e he

theorem flush_live (rt : FabricRuntime) (upto : LogicalInstant) (w : RuntimeWorld) :
    ∃ u, (rt.flush upto w).2.2.trace = w.trace ++ u ∧ ∀ e ∈ liveEvents u, e ∈ rt.pending := by
  unfold FabricRuntime.flush FabricRuntime.flushBegin
  by_cases hclosed : rt.closed = true
  · simp only [if_pos hclosed]
    exact ⟨[], (List.append_nil _).symm, by simp [liveEvents]⟩
  simp only [if_neg hclosed]
  obtain ⟨u, hu, hmem⟩ := flushLoop_live (releasedEvents rt.pending upto)
    { rt with pending := retainedEvents rt.pending upto } { upto } w
  refine ⟨u, hu, fun e he => ?_⟩
  exact List.mem_of_mem_filter ((List.mem_insertionSort _).mp (hmem e he))

theorem flush_ok (hopen : rt.closed = false) (upto : LogicalInstant) (w : RuntimeWorld) : ∃ report,
    (rt.flush upto w).1 = .ok report := by
  unfold FabricRuntime.flush FabricRuntime.flushBegin
  simp [hopen]

/-! ## §5. Submitting. -/

/-- The staging loop of a batch. -/
def FabricRuntime.staging (rt : FabricRuntime) (events : List FabricEvent) : Staging :=
  events.foldl Staging.step { runtime := rt }

section Submit

variable {rt : FabricRuntime} {events : List FabricEvent}
  (hfits : events.length ≤ rt.config.bounds.maxBatchEvents) (w : RuntimeWorld)
include hfits

theorem submit_runtime :
    (rt.submit events w).2 = ((rt.staging events).runtime.flush (rt.staging events).upto w).2 := by
  unfold FabricRuntime.submit
  rw [if_neg (not_lt.mpr hfits)]
  simp only [FabricRuntime.staging]
  split
  · next h => rw [h]
  · next h => rw [h]

theorem submit_report {report : BatchReport}
    (h : ((rt.staging events).runtime.flush (rt.staging events).upto w).1 = .ok report) :
    (rt.submit events w).1 = .ok (mergeReport report (rt.staging events)) := by
  unfold FabricRuntime.submit
  rw [if_neg (not_lt.mpr hfits)]
  simp only [FabricRuntime.staging] at h ⊢
  split
  · next hflush => rw [hflush] at h; exact absurd h (by simp)
  · next hflush => rw [hflush] at h; rw [Except.ok.inj h]

end Submit

theorem mergeReport_duplicates (report : BatchReport) (s : Staging) :
    s.duplicates.Subperm (mergeReport report s).outcomes := by
  have hall : s.duplicates.Subperm (report.outcomes ++ s.duplicates ++ s.failures) := by
    refine List.Sublist.subperm ?_
    exact (List.sublist_append_right _ _).trans (List.sublist_append_left _ _)
  unfold mergeReport
  simp only
  split
  · exact hall
  · exact hall.trans (List.perm_insertionSort _ _).symm.subperm

theorem step_live_identified {s : System} (hs : ∀ p, s.process = some p → Handling s.trace p)
    (hlive : ∀ e ∈ liveEvents s.trace, e.identified = true) (m : Move) :
    ∀ e ∈ liveEvents (s.step m).trace, e.identified = true := by
  have hexec : ∀ op faults, ∃ u, (s.exec op faults).trace = s.trace ++ u
      ∧ ∀ e ∈ liveEvents u, e.identified = true := by
    intro op faults
    obtain ⟨u, hu, hnone | ⟨p, event, _, _, v, -, hnext, hv, rfl, -⟩⟩ := exec_traced s op faults
    · exact ⟨u, hu, by simp [hnone]⟩
    refine ⟨_, hu, fun e he => ?_⟩
    rw [liveEvents_append, hv, List.nil_append] at he
    obtain rfl : e = event := by simpa [liveEvents] using he
    exact (hs p (System.next_process hnext)).identified e (.inr (System.next_released hnext))
  cases m with
  | run op faults =>
    obtain ⟨u, hu, hidentified⟩ := hexec op faults
    intro e he
    rw [System.step, hu, liveEvents_append] at he
    exact (List.mem_append.mp he).elim (hlive e) (hidentified e)
  | crash op faults n =>
    obtain ⟨u, hu, hidentified⟩ := hexec op faults
    intro e he
    simp only [System.step, hu, List.drop_left, liveEvents_append] at he
    refine (List.mem_append.mp he).elim (hlive e) fun he => hidentified e ?_
    exact ((List.take_sublist n u).filterMap _).subset he

/-- Every event that a flush has taken up names its identity. -/
theorem run_live_identified (moves : List Move) :
    ∀ e ∈ liveEvents (System.after {} moves).trace, e.identified = true := by
  have hstep : ∀ (s : System) (m : Move),
      ((∀ p, s.process = some p → Handling s.trace p)
        ∧ ∀ e ∈ liveEvents s.trace, e.identified = true) →
      (∀ p, (s.step m).process = some p → Handling (s.step m).trace p)
        ∧ ∀ e ∈ liveEvents (s.step m).trace, e.identified = true :=
    fun s m hs => ⟨step_handling hs.1 m, step_live_identified hs.1 hs.2 m⟩
  exact (run_preserves hstep moves ⟨fun _ hp => absurd hp (by simp),
    fun _ he => absurd he (by simp [liveEvents])⟩).2

/-- **Redelivery is idempotent**: with redeliveries merged into it, a batch
leaves the runtime and its files as it does alone, none of them is taken up,
and they are reported as suppressed. -/
theorem redelivery_idempotent (moves : List Move) (p : Process)
    (hp : (System.after {} moves).process = some p)
    (batch redelivered merged : List FabricEvent) (hmerge : Merge batch redelivered merged)
    (hredelivered : ∀ d ∈ redelivered, ∃ e,
      Remembered (System.after {} moves).trace p.runtime e ∧ Redelivery e d)
    (hfits : merged.length ≤ p.runtime.config.bounds.maxBatchEvents) (faults : List (Option Nat)) :
    let w : RuntimeWorld := { trace := (System.after {} moves).trace, faults }
    (p.runtime.submit merged w).2 = (p.runtime.submit batch w).2
      ∧ (∃ u, (p.runtime.submit merged w).2.2.trace = w.trace ++ u
          ∧ ∀ d ∈ redelivered, d ∉ liveEvents u)
      ∧ (p.runtime.closed = false → ∃ report, (p.runtime.submit merged w).1 = .ok report
          ∧ ((redelivered.filter FabricEvent.identified).map suppressedOutcome).Subperm
              report.outcomes)
      ∧ ∀ e ∈ liveEvents w.trace, e.identified = true := by
  intro w
  have hwindow := (run_handling moves hp).window
  obtain ⟨past, horder⟩ := run_ordered moves p hp
  -- a redelivery finds its record, and lies below the watermark
  have hfound : ∀ d ∈ redelivered, findDelivery p.runtime.deliveries d = some (deliveryOf d)
      ∧ d.instant ≤ p.runtime.state.watermark := by
    intro d hd
    obtain ⟨e, hremembered, hagain⟩ := hredelivered d hd
    have hrecord := hagain.deliveryOf_eq
    refine ⟨hwindow.find (by rw [hrecord]; exact hremembered.recorded) rfl, ?_⟩
    rw [hagain.instant]
    exact hwindow.covered e hremembered.delivered
  have hstart : StagedFrom p.runtime p.runtime := ⟨rfl, rfl, rfl, horder.pending⟩
  have halike : Alike p.runtime (p.runtime.staging merged) (p.runtime.staging batch) := by
    have hboth : ∀ x s t, Alike p.runtime s t → Alike p.runtime (s.step x) (t.step x) :=
      fun x _ _ h => h.both x
    refine hmerge.simulate hboth (fun d hd s t h => h.skip ?_ (hfound d hd).2)
      ⟨rfl, hstart, fun _ _ => Iff.rfl⟩
    rw [(hfound d hd).1]
    rfl
  have hbatch : batch.length ≤ p.runtime.config.bounds.maxBatchEvents :=
    hmerge.sublist_left.length_le.trans hfits
  have hstaged : StagedFrom p.runtime (p.runtime.staging merged).runtime := by
    rw [halike.runtime]
    exact halike.staged
  refine ⟨?_, ?_, fun hopen => ?_, run_live_identified moves⟩
  · rw [submit_runtime hfits, submit_runtime hbatch, halike.runtime]
    exact flush_horizon (fun q hq => halike.horizon _ (halike.staged.pending q hq)) w
  · rw [submit_runtime hfits]
    obtain ⟨u, hu, hlive⟩ := flush_live (p.runtime.staging merged).runtime
      (p.runtime.staging merged).upto w
    refine ⟨u, hu, fun d hd hmem => ?_⟩
    have hlate := hstaged.pending d (hlive d hmem)
    exact absurd (hfound d hd).2 (not_le.mpr hlate)
  · obtain ⟨report, hreport⟩ := flush_ok (hstaged.closed.trans hopen)
      (p.runtime.staging merged).upto w
    refine ⟨_, submit_report hfits w hreport, ?_⟩
    refine List.Subperm.trans ?_ (mergeReport_duplicates report _)
    rw [FabricRuntime.staging, staging_duplicates merged hstart]
    refine List.Sublist.subperm (List.Sublist.map _ ?_)
    have hsuppressed : ∀ d ∈ redelivered.filter FabricEvent.identified,
        p.runtime.suppresses d = true := by
      intro d hd
      obtain ⟨hd, hidentified⟩ := List.mem_filter.mp hd
      obtain ⟨e, hremembered, hagain⟩ := hredelivered d hd
      exact decide_eq_true (stage_duplicate_iff.mpr
        ⟨hopen, hidentified, hagain.payload, _, (hfound d hd).1, rfl⟩)
    have hkept := List.filter_eq_self.mpr hsuppressed
    rw [← hkept]
    exact (List.filter_sublist.trans hmerge.sublist_right).filter _

/-- The time is reported. -/
def timeReport : FabricEvent := sampleEvent 1 (.logicalTimeAdvanced { now := ⟨1⟩ })

def reportedMoves : List Move := .run (.start sampleConfig) [] :: submitMoves timeReport

theorem reportedMoves_runs : (System.after {} reportedMoves).process.isSome = true := by
  decide +kernel

def reportedProcess : Process := (System.after {} reportedMoves).process.get reportedMoves_runs

/-- The report comes again with the next batch. -/
theorem time_report_redelivered :
    (reportedProcess.runtime.submit [sampleEvent 2 samplePolicy, timeReport]
        { trace := (System.after {} reportedMoves).trace }).2
      = (reportedProcess.runtime.submit [sampleEvent 2 samplePolicy]
          { trace := (System.after {} reportedMoves).trace }).2 := by
  have hremembered : ∀ d ∈ [timeReport], ∃ e,
      Remembered (System.after {} reportedMoves).trace reportedProcess.runtime e
        ∧ Redelivery e d := by
    intro d hd
    rw [List.mem_singleton.mp hd]
    refine ⟨timeReport, ⟨by decide +kernel, by decide +kernel⟩,
      ⟨rfl, rfl, rfl, rfl, rfl, rfl, .inl ?_⟩⟩
    decide +kernel
  exact (redelivery_idempotent reportedMoves reportedProcess
    (Option.some_get reportedMoves_runs).symm [sampleEvent 2 samplePolicy] [timeReport] _
    (.left _ (.right _ .nil)) hremembered (by decide +kernel) []).1

/-! ## §6. The order of a batch. -/

section Batch

variable {rt : FabricRuntime} {events events' : List FabricEvent}

/-- What `stage` takes it takes whatever is in the buffer, if there is room. -/
theorem stage_accepted {event : FabricEvent} {pending : List FabricEvent}
    (h : (rt.stage event).1.code = .ok) (hroom : pending.length < rt.config.bounds.maxBatchEvents) :
    (FabricRuntime.stage { rt with pending } event).2 = { rt with pending := pending ++ [event] } := by
  unfold FabricRuntime.stage at h ⊢
  repeat' split at h
  all_goals first
    | (simp [refuse] at h; done)
    | skip
  next hclosed hidentity hpayload _ hnew hlater _ =>
  simp only [if_neg hclosed, if_neg hidentity, if_neg hpayload, hnew, if_neg hlater,
    if_neg (not_le.mpr hroom)]

theorem staging_accepted {s : Staging} {pending : List FabricEvent}
    (hs : s.runtime = { rt with pending }) (hstage : ∀ e ∈ events, (rt.stage e).1.code = .ok)
    (hroom : pending.length + events.length ≤ rt.config.bounds.maxBatchEvents) :
    let t := events.foldl Staging.step s
    t.runtime = { rt with pending := pending ++ events } ∧ s.upto ≤ t.upto
      ∧ ∀ e ∈ events, e.instant ≤ t.upto := by
  induction events generalizing s pending with
  | nil => exact ⟨by rw [List.append_nil]; exact hs, le_rfl, by simp⟩
  | cons event rest ih =>
    obtain ⟨hevent, hrest⟩ := List.forall_mem_cons.mp hstage
    rw [List.length_cons] at hroom
    have hstep : (s.step event).runtime = { rt with pending := pending ++ [event] } := by
      rw [Staging.step_runtime, hs]
      exact stage_accepted hevent (by omega)
    obtain ⟨hruntime, hupto, hcovers⟩ := ih hstep hrest (by rw [List.length_append]; simp; omega)
    rw [Staging.step_upto, max_le_iff] at hupto
    rw [List.append_assoc] at hruntime
    exact ⟨hruntime, hupto.1, List.forall_mem_cons.mpr ⟨hupto.2, hcovers⟩⟩

theorem flush_order (hopen : rt.closed = false) (hperm : events.Perm events')
    (hkeys : ∀ a ∈ events, ∀ b ∈ events, eventKey a = eventKey b → a = b) {upto : LogicalInstant}
    (hall : ∀ e ∈ events, e.instant ≤ upto) (w : RuntimeWorld) :
    FabricRuntime.flush { rt with pending := events } upto w
      = FabricRuntime.flush { rt with pending := events' } upto w := by
  have hreleased : releasedEvents events upto = releasedEvents events' upto :=
    insertionSort_eq_of_perm (hperm.filter _) fun a ha b hb =>
      hkeys a (List.mem_of_mem_filter ha) b (List.mem_of_mem_filter hb)
  have hnone : ∀ {es}, es.Perm events → retainedEvents es upto = [] := fun hes =>
    List.filter_eq_nil_iff.mpr fun e he => by simp [hall e (hes.mem_iff.mp he)]
  simp only [FabricRuntime.flush, FabricRuntime.flushBegin, hopen, hreleased, hnone (.refl _),
    hnone hperm.symm]
  rfl

/-- **A batch may come in any order**: neither the runtime nor the files can
tell. -/
theorem submit_in_any_order (hopen : rt.closed = false) (hbuffer : rt.pending = [])
    (hstage : ∀ e ∈ events, (rt.stage e).1.code = .ok)
    (hfits : events.length ≤ rt.config.bounds.maxBatchEvents)
    (hkeys : ∀ a ∈ events, ∀ b ∈ events, eventKey a = eventKey b → a = b)
    (hperm : events.Perm events') (w : RuntimeWorld) :
    (rt.submit events w).2 = (rt.submit events' w).2 := by
  have hself : rt = { rt with pending := [] } := by rw [← hbuffer]
  have hstaging : ∀ {es}, es.Perm events → es.length ≤ rt.config.bounds.maxBatchEvents
      ∧ (rt.staging es).runtime = { rt with pending := es }
      ∧ ∀ e ∈ events, e.instant ≤ (rt.staging es).upto := by
    intro es hes
    have hroom := hes.length_eq.trans_le hfits
    obtain ⟨hruntime, -, hcovers⟩ := staging_accepted (s := { runtime := rt }) hself
      (fun e he => hstage e (hes.mem_iff.mp he)) (by simpa using hroom)
    exact ⟨hroom, hruntime, fun e he => hcovers e (hes.mem_iff.mpr he)⟩
  obtain ⟨-, hruntime, hcovers⟩ := hstaging (.refl _)
  obtain ⟨hroom, hruntime', hcovers'⟩ := hstaging hperm.symm
  rw [submit_runtime hfits, submit_runtime hroom, hruntime, hruntime',
    flush_order hopen hperm hkeys hcovers]
  exact flush_horizon (fun e he => ⟨fun _ => hcovers' e (hperm.mem_iff.mpr he),
    fun _ => hcovers e (hperm.mem_iff.mpr he)⟩) w

end Batch

theorem policies_in_any_order :
    (reportedProcess.runtime.submit [sampleEvent 2 samplePolicy, sampleEvent 3 samplePolicy] {}).2
      = (reportedProcess.runtime.submit [sampleEvent 3 samplePolicy, sampleEvent 2 samplePolicy]
          {}).2 :=
  submit_in_any_order (by decide +kernel) (by decide +kernel) (by decide +kernel)
    (by decide +kernel) (by decide +kernel) (.swap _ _ _) _

end DpuFabric
