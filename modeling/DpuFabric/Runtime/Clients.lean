/-
  Runtime.Clients — CLIENTS THAT SUBMIT AT THE SAME TIME.

  `submit` takes the mutex once per event and once more for its flush, so the
  calls of several clients interleave.  `Contest` is one runtime and its
  clients; a schedule says who makes the next locked step.  A client that is
  not interrupted does what `submit` does (`uninterrupted_submit`).

  A flush goes through the whole buffer, whoever staged what is in it.  If it
  comes in the middle of another call, that call loses its outcomes, or finds
  its instant closed.  Where no flush reaches into another call (`Spares`),
  every client learns the fate of its own events (`own_fate_learned`).
-/
import DpuFabric.Runtime.Atomicity
import DpuFabric.Runtime.Redelivery
import Mathlib.Data.Fintype.Basic
import Mathlib.Logic.Function.Basic

namespace DpuFabric

open Lib

variable {event : FabricEvent} {rt : FabricRuntime}

/-! ## §1. Calls in progress. -/

/-- A call of `submit` between two of its locked steps. -/
structure Submitter where
  /-- The events that are not staged yet. -/
  left : List FabricEvent
  upto : LogicalInstant := {}
  failures : List EventOutcome := []
  duplicates : List EventOutcome := []
  /-- The watermark that the call found at its first step. -/
  began : Option LogicalInstant := none
  answer : Option (Result BatchReport) := none

/-- The variables of the staging loop, over the runtime as it is now. -/
def Submitter.loop (c : Submitter) (rt : FabricRuntime) : Staging :=
  { runtime := rt, upto := c.upto, failures := c.failures, duplicates := c.duplicates }

/-- A new call; a batch that is too large is refused before the first lock. -/
def Submitter.enter (config : RuntimeConfig) (events : List FabricEvent) : Submitter :=
  if config.bounds.maxBatchEvents < events.length then
    { left := events
      answer := some (.error (refuse .batchTooLarge (txt "batch exceeds the configured bound"))) }
  else { left := events }

/-- The call at its first step notes the watermark. -/
def Submitter.entered (c : Submitter) (rt : FabricRuntime) : Submitter :=
  { c with began := some (c.began.getD rt.state.watermark) }

/-- The call after a turn of its staging loop. -/
def Submitter.staged (c : Submitter) (loop : Staging) (rest : List FabricEvent) : Submitter :=
  { c with left := rest, upto := loop.upto, failures := loop.failures,
           duplicates := loop.duplicates }

/-- The call after its flush. -/
def Submitter.answered (c : Submitter) (flushed : Result BatchReport) (rt : FabricRuntime) :
    Submitter :=
  { c with answer := some (flushed.map fun report => mergeReport report (c.loop rt)) }

/-- One runtime and its clients. -/
structure Contest (ι : Type) where
  runtime : FabricRuntime
  world : RuntimeWorld
  client : ι → Submitter

variable {ι : Type} [DecidableEq ι]

/-- The next locked step of a client: one turn of the staging loop, or the
flush. -/
def Contest.step (s : Contest ι) (i : ι) : Contest ι :=
  let c := (s.client i).entered s.runtime
  match c.answer, c.left with
  | some _, _ => s
  | none, event :: rest =>
    let loop := (c.loop s.runtime).step event
    { s with
      runtime := loop.runtime
      client := Function.update s.client i (c.staged loop rest) }
  | none, [] =>
    let (flushed, runtime, world) := s.runtime.flush c.upto s.world
    { runtime, world
      client := Function.update s.client i (c.answered flushed runtime) }

/-- The clients come with their batches. -/
def Contest.start (rt : FabricRuntime) (w : RuntimeWorld) (submitted : ι → List FabricEvent) :
    Contest ι :=
  { runtime := rt, world := w, client := fun i => Submitter.enter rt.config (submitted i) }

section Steps

variable {s : Contest ι} {i : ι}

theorem Contest.step_answered {answer : Result BatchReport}
    (h : (s.client i).answer = some answer) : s.step i = s := by
  simp only [Contest.step, Submitter.entered, h]

theorem Contest.step_stage {rest : List FabricEvent}
    (hanswer : (s.client i).answer = none) (hleft : (s.client i).left = event :: rest) :
    s.step i =
      { s with
        runtime := (((s.client i).loop s.runtime).step event).runtime
        client := Function.update s.client i (((s.client i).entered s.runtime).staged
          (((s.client i).loop s.runtime).step event) rest) } := by
  simp only [Contest.step, Submitter.entered, hanswer, hleft]
  rfl

theorem Contest.step_flush (hanswer : (s.client i).answer = none) (hleft : (s.client i).left = []) :
    s.step i =
      { runtime := (s.runtime.flush (s.client i).upto s.world).2.1
        world := (s.runtime.flush (s.client i).upto s.world).2.2
        client := Function.update s.client i (((s.client i).entered s.runtime).answered
          (s.runtime.flush (s.client i).upto s.world).1 s.runtime) } := by
  simp only [Contest.step, Submitter.entered, hanswer, hleft]
  rfl

end Steps

theorem run_alone (i : ι) (events : List FabricEvent) {s : Contest ι}
    (hanswer : (s.client i).answer = none) (hleft : (s.client i).left = events) :
    let loop := events.foldl Staging.step ((s.client i).loop s.runtime)
    let out := loop.runtime.flush loop.upto s.world
    let t := runMoves Contest.step s (List.replicate (events.length + 1) i)
    t.runtime = out.2.1 ∧ t.world = out.2.2
      ∧ (t.client i).answer = some (out.1.map fun report => mergeReport report loop) := by
  induction events generalizing s with
  | nil =>
    simp only [List.length_nil, Nat.zero_add, List.replicate_one, runMoves_cons, runMoves_nil,
      List.foldl_nil, Contest.step_flush hanswer hleft, Function.update_self]
    exact ⟨rfl, rfl, rfl⟩
  | cons event rest ih =>
    have hstep := Contest.step_stage hanswer hleft
    have hclient : (s.step i).client i = ((s.client i).entered s.runtime).staged
        (((s.client i).loop s.runtime).step event) rest := by
      rw [hstep]
      exact Function.update_self ..
    have hloop : ((s.step i).client i).loop (s.step i).runtime
        = ((s.client i).loop s.runtime).step event := by
      rw [hclient, hstep]
      rfl
    have hrest := ih (s := s.step i) (by rw [hclient]; exact hanswer) (by rw [hclient]; rfl)
    rw [hloop, show (s.step i).world = s.world by rw [hstep]] at hrest
    exact hrest

/-- **A client that is not interrupted does what `submit` does.** -/
theorem uninterrupted_submit (rt : FabricRuntime) (w : RuntimeWorld)
    (submitted : ι → List FabricEvent) (i : ι) :
    let t := runMoves Contest.step (Contest.start rt w submitted)
      (List.replicate ((submitted i).length + 1) i)
    t.runtime = (rt.submit (submitted i) w).2.1 ∧ t.world = (rt.submit (submitted i) w).2.2
      ∧ (t.client i).answer = some (rt.submit (submitted i) w).1 := by
  unfold FabricRuntime.submit
  split
  · next hlarge =>
    have hanswer : ((Contest.start rt w submitted).client i).answer
        = some (.error (refuse .batchTooLarge (txt "batch exceeds the configured bound"))) := by
      simp [Contest.start, Submitter.enter, hlarge]
    have hstays : ∀ n, runMoves Contest.step (Contest.start rt w submitted)
        (List.replicate n i) = Contest.start rt w submitted := by
      intro n
      induction n with
      | zero => rfl
      | succ n ih => rw [List.replicate_succ, runMoves_cons, Contest.step_answered hanswer, ih]
    simp only [hstays]
    exact ⟨rfl, rfl, hanswer⟩
  · next hfits =>
    have hclient : (Contest.start rt w submitted).client i = { left := submitted i } := by
      simp [Contest.start, Submitter.enter, hfits]
    have hrun := run_alone i (submitted i) (s := Contest.start rt w submitted)
      (by rw [hclient]) (by rw [hclient])
    rw [hclient] at hrun
    simp only at hrun ⊢
    refine ⟨hrun.1.trans ?_, hrun.2.1.trans ?_, hrun.2.2.trans ?_⟩
    all_goals
      simp only [Submitter.loop]
      split
      all_goals
        next h =>
          simp only [Contest.start, h, Except.map]

/-! ## §2. What the steps do to the buffer and the outcomes. -/

/-- How often an event of the list has the identity. -/
def timesStaged (events : List FabricEvent) (x : EventId) : Nat :=
  (events.map FabricEvent.id).count x

/-- How often an outcome of the list is about the identity. -/
def timesReported (outcomes : List EventOutcome) (x : EventId) : Nat :=
  (outcomes.map EventOutcome.id).count x

@[simp] theorem timesStaged_append (xs ys : List FabricEvent) (x : EventId) :
    timesStaged (xs ++ ys) x = timesStaged xs x + timesStaged ys x := by
  simp [timesStaged]

@[simp] theorem timesReported_append (xs ys : List EventOutcome) (x : EventId) :
    timesReported (xs ++ ys) x = timesReported xs x + timesReported ys x := by
  simp [timesReported]

theorem timesReported_perm {xs ys : List EventOutcome} (h : xs.Perm ys) (x : EventId) :
    timesReported xs x = timesReported ys x :=
  (h.map EventOutcome.id).count_eq x

/-- One turn of the staging loop puts the event into the buffer, or reports
it. -/
theorem Staging.step_counts (s : Staging) (event : FabricEvent) (hopen : s.runtime.closed = false)
    (x : EventId) :
    timesReported (s.step event).duplicates x + timesReported (s.step event).failures x
        + timesStaged (s.step event).runtime.pending x
      = timesReported s.duplicates x + timesReported s.failures x
        + timesStaged s.runtime.pending x + timesStaged [event] x := by
  have hone : ∀ code detail, timesReported
      [{ id := event.id, code := code, applied := false, detail := detail }] x
      = timesStaged [event] x := fun _ _ => rfl
  unfold Staging.step FabricRuntime.stage
  simp only [hopen, Bool.false_eq_true, if_false]
  repeat' split
  all_goals simp_all [Status.ok, isInformational, Status.success]
  all_goals omega

theorem stage_buffer (rt : FabricRuntime) (event : FabricEvent) :
    (rt.stage event).2.closed = rt.closed
      ∧ (rt.stage event).2.state.watermark = rt.state.watermark
      ∧ ((rt.stage event).2.pending = rt.pending
        ∨ (rt.stage event).2.pending = rt.pending ++ [event]) := by
  rcases stage_cases rt event with hqueue | ⟨hstaged, -⟩
  · exact ⟨hqueue.closed, hqueue.watermark, .inl hqueue.pending⟩
  · rw [hstaged]
    exact ⟨rfl, rfl, .inr rfl⟩

theorem stage_late (h : (rt.stage event).1.code = .lateEventRejected) :
    event.instant ≤ rt.state.watermark := by
  unfold FabricRuntime.stage at h
  repeat' split at h
  all_goals first | assumption | exact absurd h (by simp [Status.success])

/-- Staging refuses an event as late below the watermark only. -/
theorem Staging.step_late (s : Staging) (event : FabricEvent) {o : EventOutcome}
    (ho : o ∈ (s.step event).failures) (hcode : o.code = .lateEventRejected) :
    o ∈ s.failures ∨ (o.id = event.id ∧ event.instant ≤ s.runtime.state.watermark) := by
  have hlate : (s.runtime.stage event).1.code = .lateEventRejected →
      event.instant ≤ s.runtime.state.watermark := stage_late
  unfold Staging.step at ho
  generalize s.runtime.stage event = out at ho hlate
  simp only at ho
  split at ho
  · exact .inl ho
  split at ho
  · rcases List.mem_append.mp ho with ho | ho
    · exact .inl ho
    · rw [List.mem_singleton.mp ho] at hcode ⊢
      exact .inr ⟨rfl, hlate hcode⟩
  · exact .inl ho

theorem flushEvent_outcomes (rt : FabricRuntime) (r : BatchReport) (event : FabricEvent)
    (w : RuntimeWorld) :
    (flushEvent rt r event w).2.1.outcomes.map EventOutcome.id
      = r.outcomes.map EventOutcome.id ++ [event.id] := by
  unfold flushEvent
  split
  · next seen _ =>
    rw [count_outcomes, List.map_append]
    unfold duplicateOutcome
    split <;> rfl
  · split
    · simp [BatchReport.refusedBy]
    · simp

/-- What a turn of a flush leaves, and how far it raises the watermark. -/
theorem Turn.reach {rt' : FabricRuntime} {w w' : RuntimeWorld} (h : Turn rt event w rt' w') :
    rt'.pending = rt.pending ∧ rt'.closed = rt.closed
      ∧ rt'.state.watermark ≤ max rt.state.watermark event.instant := by
  have hqueue := journal_queue rt event w
  cases h with
  | suppressed => exact ⟨rfl, rfl, le_max_left _ _⟩
  | refused status _ _ hnew hj =>
    rw [hj] at hqueue
    exact ⟨hqueue.pending, hqueue.closed, hqueue.watermark.le.trans (le_max_left _ _)⟩
  | applied rt₁ w₁ result hnew hj hresult =>
    rw [hj] at hqueue
    refine ⟨hqueue.pending, hqueue.closed, ?_⟩
    rw [advanceState_watermark, ← hqueue.watermark]
    exact le_rfl

theorem flushLoop_reach (events : List FabricEvent) (rt : FabricRuntime) (r : BatchReport)
    (w : RuntimeWorld) {upto : LogicalInstant} (hupto : ∀ e ∈ events, e.instant ≤ upto) :
    (flushLoop events (rt, r, w)).1.pending = rt.pending
      ∧ (flushLoop events (rt, r, w)).1.closed = rt.closed
      ∧ (flushLoop events (rt, r, w)).1.state.watermark ≤ max rt.state.watermark upto
      ∧ (flushLoop events (rt, r, w)).2.1.outcomes.map EventOutcome.id
          = r.outcomes.map EventOutcome.id ++ events.map FabricEvent.id := by
  induction events generalizing rt r w with
  | nil => exact ⟨rfl, rfl, le_max_left _ _, by simp [flushLoop]⟩
  | cons event rest ih =>
    obtain ⟨hpending, hclosed, hmark⟩ := (flushEvent_turn rt r event w).reach
    have houtcomes := flushEvent_outcomes rt r event w
    unfold flushLoop
    generalize flushEvent rt r event w = out at hpending hclosed hmark houtcomes ⊢
    obtain ⟨rt₁, r₁, w₁⟩ := out
    obtain ⟨hpending', hclosed', hmark', houtcomes'⟩ :=
      ih rt₁ r₁ w₁ fun e he => hupto e (List.mem_cons_of_mem _ he)
    refine ⟨hpending'.trans hpending, hclosed'.trans hclosed, hmark'.trans ?_, ?_⟩
    · refine max_le (hmark.trans ?_) (le_max_right _ _)
      exact max_le_max le_rfl (hupto event List.mem_cons_self)
    · rw [houtcomes', houtcomes, List.append_assoc]
      rfl

/-- **What a flush does to the buffer and the watermark**, and what it
reports. -/
theorem flush_reach (hopen : rt.closed = false) (upto : LogicalInstant) (w : RuntimeWorld) :
    (rt.flush upto w).2.1.pending = retainedEvents rt.pending upto
      ∧ (rt.flush upto w).2.1.closed = false
      ∧ (rt.flush upto w).2.1.state.watermark ≤ max rt.state.watermark upto
      ∧ ∃ report, (rt.flush upto w).1 = .ok report
        ∧ report.outcomes.map EventOutcome.id
          = (releasedEvents rt.pending upto).map FabricEvent.id := by
  have hreleased : ∀ e ∈ releasedEvents rt.pending upto, e.instant ≤ upto := by
    intro e he
    have hmem := (List.mem_insertionSort _).mp he
    exact of_decide_eq_true (List.mem_filter.mp hmem).2
  obtain ⟨hpending, hclosed, hmark, houtcomes⟩ := flushLoop_reach _
    { rt with pending := retainedEvents rt.pending upto } { upto } w hreleased
  unfold FabricRuntime.flush FabricRuntime.flushBegin
  simp only [hopen, Bool.false_eq_true, if_false]
  rw [hopen] at hpending hclosed hmark houtcomes
  exact ⟨hpending, hclosed, hmark, _, rfl, houtcomes⟩

theorem flush_closed (hclosed : rt.closed = true) (upto : LogicalInstant) (w : RuntimeWorld) :
    rt.flush upto w = (.error (refuse .storeClosed (txt "runtime is closed")), rt, w) := by
  unfold FabricRuntime.flush FabricRuntime.flushBegin
  simp [hclosed]

theorem timesStaged_split (pending : List FabricEvent) (upto : LogicalInstant) (x : EventId) :
    timesStaged (releasedEvents pending upto) x + timesStaged (retainedEvents pending upto) x
      = timesStaged pending x := by
  have hreleased : timesStaged (releasedEvents pending upto) x
      = timesStaged (pending.filter fun e => decide (e.instant ≤ upto)) x :=
    ((List.perm_insertionSort _ _).map FabricEvent.id).count_eq x
  rw [hreleased, ← timesStaged_append]
  exact ((List.filter_append_perm _ pending).map FabricEvent.id).count_eq x

/-! ## §3. What a client learns. -/

/-- The call refused the event as late; only `stage` does. -/
def RefusedLate (c : Submitter) (e : FabricEvent) : Prop :=
  ∃ o ∈ c.failures, o.id = e.id ∧ o.code = .lateEventRejected

instance (c : Submitter) (e : FabricEvent) : Decidable (RefusedLate c e) :=
  inferInstanceAs (Decidable (∃ o ∈ _, _))

/-- The client learns the fate of its own events: a report has one outcome for
each of them, and none is refused as late that was not late when the call
began. -/
structure LearnsFate (events : List FabricEvent) (c : Submitter) : Prop where
  outcomes : ∀ report, c.answer = some (.ok report) →
    ∀ e ∈ events, timesReported report.outcomes e.id = 1
  late : ∀ e ∈ events, RefusedLate c e → ∃ i, c.began = some i ∧ e.instant ≤ i

/-- The events of the clients have identities of their own. -/
structure OwnIds (submitted : ι → List FabricEvent) : Prop where
  nodup : ∀ i, ((submitted i).map FabricEvent.id).Nodup
  apart : ∀ i j, i ≠ j → ∀ e ∈ submitted i, ∀ f ∈ submitted j, e.id ≠ f.id

/-- A client that is about to flush does not reach into another call: the other
client has not begun, or is done, or all its events are later. -/
def Spares (submitted : ι → List FabricEvent) (s : Contest ι) (i : ι) : Prop :=
  (s.client i).answer = none → (s.client i).left = [] → ∀ j, j ≠ i →
    (s.client j).began = none ∨ (s.client j).answer.isSome = true
      ∨ ∀ e ∈ submitted j, (s.client i).upto < e.instant

instance [Fintype ι] (submitted : ι → List FabricEvent) (s : Contest ι) (i : ι) :
    Decidable (Spares submitted s i) := by
  unfold Spares
  infer_instance

/-- A call in progress that has gone through the events `past`. -/
structure InCall (events past : List FabricEvent) (rt : FabricRuntime) (c : Submitter) : Prop where
  split : events = past ++ c.left
  /-- Each of them is in the buffer or reported, once. -/
  counted : rt.closed = false → ∀ e ∈ events,
    timesReported c.duplicates e.id + timesReported c.failures e.id + timesStaged rt.pending e.id
      = timesStaged past e.id
  own : ∀ q ∈ rt.pending, ∀ e ∈ events, q.id = e.id → q ∈ past
  horizon : ∀ e ∈ past, e.instant ≤ c.upto
  unbegun : c.began = none → past = []
  overtaken : ∀ i, c.began = some i → ∀ e ∈ events, e.instant ≤ rt.state.watermark → e.instant ≤ i
  late : ∀ e ∈ events, RefusedLate c e → ∃ i, c.began = some i ∧ e.instant ≤ i

section Calls

variable {events past : List FabricEvent} {rt rt' : FabricRuntime} {c : Submitter}

theorem InCall.entered (h : InCall events past rt c) : InCall events past rt (c.entered rt) where
  split := h.split
  counted := h.counted
  own := h.own
  horizon := h.horizon
  unbegun hnone := absurd hnone (by simp [Submitter.entered])
  overtaken i hi e he hmark := by
    cases hbegan : c.began with
    | none =>
      simp only [Submitter.entered, hbegan, Option.getD_none, Option.some.injEq] at hi
      exact hi ▸ hmark
    | some j =>
      simp only [Submitter.entered, hbegan, Option.getD_some, Option.some.injEq] at hi
      exact hi ▸ h.overtaken j hbegan e he hmark
  late e he hrefused := by
    obtain ⟨i, hbegan, hlate⟩ := h.late e he hrefused
    exact ⟨i, by simp [Submitter.entered, hbegan], hlate⟩

theorem InCall.staged (h : InCall events past rt c)
    {rest : List FabricEvent} (hleft : c.left = event :: rest) (hbegan : c.began.isSome = true)
    (hnodup : (events.map FabricEvent.id).Nodup) :
    InCall events (past ++ [event]) ((c.loop rt).step event).runtime
      (c.staged ((c.loop rt).step event) rest) := by
  obtain ⟨hclosed, hmark, hpending⟩ := stage_buffer rt event
  have hruntime : ((c.loop rt).step event).runtime = (rt.stage event).2 :=
    Staging.step_runtime (c.loop rt) event
  have hevent : event ∈ events := by
    rw [h.split, hleft]
    exact List.mem_append_right _ List.mem_cons_self
  obtain ⟨i, hi⟩ := Option.isSome_iff_exists.mp hbegan
  refine ⟨?_, fun hopen e he => ?_, fun q hq e he hid => ?_, fun e he => ?_, fun hnone => ?_,
    fun j hj e he hlow => ?_, fun e he hrefused => ?_⟩
  · rw [h.split, hleft, List.append_assoc]
    rfl
  · rw [hruntime, hclosed] at hopen
    have hcounts := Staging.step_counts (c.loop rt) event hopen e.id
    rw [timesStaged_append, ← h.counted hopen e he]
    exact hcounts
  · rw [hruntime] at hq
    rcases hpending with hsame | hmore
    · exact List.mem_append_left _ (h.own q (hsame ▸ hq) e he hid)
    rcases List.mem_append.mp (hmore ▸ hq) with hq | hq
    · exact List.mem_append_left _ (h.own q hq e he hid)
    · exact List.mem_append_right _ hq
  · show e.instant ≤ ((c.loop rt).step event).upto
    rw [Staging.step_upto]
    rcases List.mem_append.mp he with he | he
    · exact (h.horizon e he).trans (le_max_left _ _)
    · rw [List.mem_singleton.mp he]
      exact le_max_right _ _
  · exact absurd (hi.symm.trans hnone) (by simp)
  · rw [hruntime, hmark] at hlow
    exact h.overtaken j hj e he hlow
  obtain ⟨o, ho, hid, hcode⟩ := hrefused
  rcases Staging.step_late (c.loop rt) event ho hcode with ho | ⟨hsame, hlow⟩
  · exact h.late e he ⟨o, ho, hid, hcode⟩
  -- the identity is the event's own, so this is the event
  obtain rfl : e = event := List.inj_on_of_nodup_map hnodup he hevent (hid.symm.trans hsame)
  exact ⟨i, hi, h.overtaken i hi e he hlow⟩

/-- A step of another client that leaves the events of this one alone. -/
theorem InCall.keep (h : InCall events past rt c) (hclosed : rt'.closed = rt.closed)
    (hcount : rt.closed = false → ∀ e ∈ events,
      timesStaged rt'.pending e.id = timesStaged rt.pending e.id)
    (hmem : ∀ q ∈ rt'.pending, ∀ e ∈ events, q.id = e.id → q ∈ rt.pending)
    (hmark : c.began ≠ none → ∀ e ∈ events, e.instant ≤ rt'.state.watermark →
      e.instant ≤ rt.state.watermark) : InCall events past rt' c where
  split := h.split
  counted hopen e he := by
    rw [hclosed] at hopen
    rw [hcount hopen e he]
    exact h.counted hopen e he
  own q hq e he hid := h.own q (hmem q hq e he hid) e he hid
  horizon := h.horizon
  unbegun := h.unbegun
  overtaken i hi e he hlow := h.overtaken i hi e he (hmark (by simp [hi]) e he hlow)
  late := h.late

theorem InCall.otherStage (h : InCall events past rt c) (hother : ∀ e ∈ events, event.id ≠ e.id) :
    InCall events past (rt.stage event).2 c := by
  obtain ⟨hclosed, hmark, hpending⟩ := stage_buffer rt event
  refine h.keep hclosed (fun _ e he => ?_) (fun q hq e he hid => ?_) fun _ e he hlow => ?_
  · rcases hpending with hsame | hmore
    · rw [hsame]
    have hnone : timesStaged [event] e.id = 0 := by
      simp [timesStaged, hother e he]
    rw [hmore, timesStaged_append, hnone, Nat.add_zero]
  · rcases hpending with hsame | hmore
    · exact hsame ▸ hq
    rcases List.mem_append.mp (hmore ▸ hq) with hq | hq
    · exact hq
    · rw [List.mem_singleton.mp hq] at hid
      exact absurd hid (hother e he)
  · rw [hmark] at hlow
    exact hlow

theorem InCall.otherFlush (h : InCall events past rt c) {upto : LogicalInstant}
    (hspared : c.began = none ∨ ∀ e ∈ events, upto < e.instant) (w : RuntimeWorld) :
    InCall events past (rt.flush upto w).2.1 c := by
  cases hopen : rt.closed with
  | true =>
    rw [flush_closed hopen]
    exact h
  | false =>
    obtain ⟨hpending, hclosed, hmark, -⟩ := flush_reach hopen upto w
    -- nothing of this client is released
    have hlater : ∀ q ∈ rt.pending, ∀ e ∈ events, q.id = e.id → ¬ q.instant ≤ upto := by
      intro q hq e he hid
      have hpast := h.own q hq e he hid
      rcases hspared with hnone | hspared
      · rw [h.unbegun hnone] at hpast
        simp at hpast
      refine not_le.mpr (hspared q ?_)
      rw [h.split]
      exact List.mem_append_left _ hpast
    have hreleased : ∀ e ∈ events, timesStaged (releasedEvents rt.pending upto) e.id = 0 := by
      intro e he
      refine List.count_eq_zero.mpr fun hmem => ?_
      obtain ⟨q, hq, hid⟩ := List.mem_map.mp hmem
      obtain ⟨hq, hlow⟩ := List.mem_filter.mp ((List.mem_insertionSort _).mp hq)
      exact hlater q hq e he hid (of_decide_eq_true hlow)
    refine h.keep (hclosed.trans hopen.symm) (fun _ e he => ?_) (fun q hq _ _ _ => ?_)
      fun hbegun e he hlow => ?_
    · rw [hpending, ← timesStaged_split rt.pending upto, hreleased e he, Nat.zero_add]
    · rw [hpending] at hq
      exact List.mem_of_mem_filter hq
    have hspared := hspared.resolve_left hbegun
    rcases le_max_iff.mp (hlow.trans hmark) with hlow | hlow
    · exact hlow
    · exact absurd (hspared e he) (not_lt.mpr hlow)

/-- The client's own flush: what it staged is released, and reported with the
rest. -/
theorem InCall.answered (h : InCall events past rt c) (hleft : c.left = [])
    (hnodup : (events.map FabricEvent.id).Nodup) (w : RuntimeWorld) :
    LearnsFate events (c.answered (rt.flush c.upto w).1 rt) := by
  have hdone : events = past := by rw [h.split, hleft, List.append_nil]
  refine ⟨fun report hreport e he => ?_, h.late⟩
  simp only [Submitter.answered, Option.some.injEq] at hreport
  cases hopen : rt.closed with
  | true =>
    rw [flush_closed hopen] at hreport
    simp [Except.map] at hreport
  | false =>
    obtain ⟨-, -, -, flushed, hflushed, houtcomes⟩ := flush_reach hopen c.upto w
    rw [hflushed] at hreport
    have hmerged : mergeReport flushed (c.loop rt) = report := Except.ok.inj hreport
    have hall : timesReported report.outcomes e.id
        = timesReported flushed.outcomes e.id
          + timesReported c.duplicates e.id + timesReported c.failures e.id := by
      rw [← hmerged, ← timesReported_append, ← timesReported_append]
      unfold mergeReport
      simp only
      split
      · rfl
      · exact timesReported_perm (List.perm_insertionSort _ _) e.id
    have hretained : timesStaged (retainedEvents rt.pending c.upto) e.id = 0 := by
      refine List.count_eq_zero.mpr fun hmem => ?_
      obtain ⟨q, hq, hid⟩ := List.mem_map.mp hmem
      obtain ⟨hq, hhigh⟩ := List.mem_filter.mp hq
      have hlow := h.horizon q (h.own q hq e he hid)
      simp [hlow] at hhigh
    have hreleased : timesReported flushed.outcomes e.id = timesStaged rt.pending e.id := by
      rw [← timesStaged_split rt.pending c.upto, hretained, Nat.add_zero]
      exact congrArg (List.count e.id) houtcomes
    have hone : timesStaged past e.id = 1 := by
      rw [← hdone]
      exact List.count_eq_one_of_mem hnodup (List.mem_map_of_mem he)
    have hcounted := h.counted hopen e he
    omega

end Calls

/-! ## §4. Schedules. -/

/-- Every client is in the middle of its call or has learned the fate of its
events. -/
def Contest.Fair (submitted : ι → List FabricEvent) (s : Contest ι) : Prop :=
  ∀ i, LearnsFate (submitted i) (s.client i)
    ∧ ((s.client i).answer = none → ∃ past, InCall (submitted i) past s.runtime (s.client i))

theorem step_fair {submitted : ι → List FabricEvent} (hids : OwnIds submitted) {s : Contest ι}
    (hs : s.Fair submitted) {i : ι} (hspares : Spares submitted s i) :
    (s.step i).Fair submitted := by
  cases hanswer : (s.client i).answer with
  | some answer =>
    rw [Contest.step_answered hanswer]
    exact hs
  | none =>
    obtain ⟨past, hcall⟩ := (hs i).2 hanswer
    have hentered := hcall.entered
    cases hleft : (s.client i).left with
    | cons event rest =>
      rw [Contest.step_stage hanswer hleft]
      intro j
      by_cases hj : j = i
      · subst hj
        have hstaged := hentered.staged hleft rfl (hids.nodup j)
        simp only [Function.update_self]
        exact ⟨⟨fun report hreport => absurd (hanswer.symm.trans hreport) (by simp),
          hstaged.late⟩, fun _ => ⟨_, hstaged⟩⟩
      · simp only [Function.update_of_ne hj]
        refine ⟨(hs j).1, fun hnone => ?_⟩
        obtain ⟨past', hother⟩ := (hs j).2 hnone
        refine ⟨past', ?_⟩
        rw [Staging.step_runtime]
        refine hother.otherStage fun e he => ?_
        refine hids.apart i j (Ne.symm hj) event ?_ e he
        rw [hcall.split, hleft]
        exact List.mem_append_right _ List.mem_cons_self
    | nil =>
      rw [Contest.step_flush hanswer hleft]
      intro j
      by_cases hj : j = i
      · subst hj
        simp only [Function.update_self]
        refine ⟨hentered.answered hleft (hids.nodup j) s.world, fun hnone => ?_⟩
        simp [Submitter.answered] at hnone
      · simp only [Function.update_of_ne hj]
        refine ⟨(hs j).1, fun hnone => ?_⟩
        obtain ⟨past', hother⟩ := (hs j).2 hnone
        refine ⟨past', hother.otherFlush ?_ s.world⟩
        rcases hspares hanswer hleft j hj with hunbegun | hdone | hlater
        · exact .inl hunbegun
        · simp [hnone] at hdone
        · exact .inr hlater

omit [DecidableEq ι] in
theorem start_fair {submitted : ι → List FabricEvent}
    (hfresh : ∀ i, ∀ e ∈ submitted i, ∀ q ∈ rt.pending, q.id ≠ e.id) (w : RuntimeWorld) :
    (Contest.start rt w submitted).Fair submitted := by
  intro i
  show LearnsFate _ (Submitter.enter rt.config (submitted i))
    ∧ ((Submitter.enter rt.config (submitted i)).answer = none →
        ∃ past, InCall (submitted i) past rt (Submitter.enter rt.config (submitted i)))
  unfold Submitter.enter
  split
  · exact ⟨⟨fun _ h => absurd h (by simp), fun _ _ ⟨_, ho, _⟩ => absurd ho (by simp)⟩,
      fun h => absurd h (by simp)⟩
  refine ⟨⟨fun _ h => absurd h (by simp), fun _ _ ⟨_, ho, _⟩ => absurd ho (by simp)⟩,
    fun _ => ⟨[], ?_⟩⟩
  refine ⟨rfl, fun _ e he => ?_, fun q hq e he hid => absurd hid (hfresh i e he q hq), by simp,
    fun _ => rfl, by simp, fun _ _ ⟨_, ho, _⟩ => absurd ho (by simp)⟩
  have hnone : timesStaged rt.pending e.id = 0 := by
    refine List.count_eq_zero.mpr fun hmem => ?_
    obtain ⟨q, hq, hid⟩ := List.mem_map.mp hmem
    exact hfresh i e he q hq hid
  simpa [timesReported, timesStaged] using hnone

section Progress

variable {s : Contest ι} {i : ι}

theorem Contest.step_other {j : ι} (hj : j ≠ i) : (s.step j).client i = s.client i := by
  cases hanswer : (s.client j).answer with
  | some answer => rw [Contest.step_answered hanswer]
  | none =>
    cases hleft : (s.client j).left with
    | cons event rest =>
      rw [Contest.step_stage hanswer hleft]
      exact Function.update_of_ne (Ne.symm hj) ..
    | nil =>
      rw [Contest.step_flush hanswer hleft]
      exact Function.update_of_ne (Ne.symm hj) ..

theorem run_answered {answer : Result BatchReport} (h : (s.client i).answer = some answer)
    (schedule : List ι) : ((runMoves Contest.step s schedule).client i).answer = some answer := by
  have hstep : ∀ (t : Contest ι) j, (t.client i).answer = some answer →
      ((t.step j).client i).answer = some answer := by
    intro t j ht
    by_cases hj : j = i
    · subst hj
      rw [Contest.step_answered ht]
      exact ht
    · rw [Contest.step_other hj]
      exact ht
  exact run_preserves hstep schedule h

theorem Contest.step_open (h : s.runtime.closed = false) (j : ι) :
    (s.step j).runtime.closed = false := by
  cases hanswer : (s.client j).answer with
  | some answer => rw [Contest.step_answered hanswer]; exact h
  | none =>
    cases hleft : (s.client j).left with
    | cons event rest =>
      rw [Contest.step_stage hanswer hleft]
      show (Staging.step _ event).runtime.closed = false
      rw [Staging.step_runtime]
      exact (stage_buffer s.runtime event).1.trans h
    | nil =>
      rw [Contest.step_flush hanswer hleft]
      exact (flush_reach h _ _).2.1

/-- **A client gets its report** once it has made a step for every event and one
for the flush. -/
theorem run_reports (schedule : List ι) {s : Contest ι} (hopen : s.runtime.closed = false)
    (hanswer : (s.client i).answer = none) (hturns : (s.client i).left.length < schedule.count i) :
    ∃ report, ((runMoves Contest.step s schedule).client i).answer = some (.ok report) := by
  induction schedule generalizing s with
  | nil => simp at hturns
  | cons j rest ih =>
    rw [runMoves_cons]
    have hopen' := Contest.step_open hopen j
    by_cases hj : j = i
    · subst hj
      rw [List.count_cons_self] at hturns
      cases hleft : (s.client j).left with
      | cons event others =>
        have hclient := congrArg (fun t => t.client j) (Contest.step_stage hanswer hleft)
        simp only [Function.update_self] at hclient
        refine ih hopen' (by rw [hclient]; exact hanswer) ?_
        rw [hclient]
        rw [hleft, List.length_cons] at hturns
        exact Nat.lt_of_succ_lt_succ hturns
      | nil =>
        obtain ⟨-, -, -, flushed, hflushed, -⟩ := flush_reach hopen (s.client j).upto s.world
        have hclient := congrArg (fun t => t.client j) (Contest.step_flush hanswer hleft)
        simp only [Function.update_self, hflushed] at hclient
        refine ⟨mergeReport flushed ((s.client j).loop s.runtime), run_answered ?_ rest⟩
        rw [hclient]
        rfl
    · have hclient := Contest.step_other (s := s) hj
      rw [List.count_cons_of_ne hj] at hturns
      exact ih hopen' (by rw [hclient]; exact hanswer) (by rw [hclient]; exact hturns)

end Progress

/-- **Each client learns the fate of its own events** in every schedule whose
flushes spare the calls of the others. -/
theorem own_fate_learned (submitted : ι → List FabricEvent) (hids : OwnIds submitted)
    (rt : FabricRuntime) (hfresh : ∀ i, ∀ e ∈ submitted i, ∀ q ∈ rt.pending, q.id ≠ e.id)
    (w : RuntimeWorld) (schedule : List ι)
    (hspares : Meets Contest.step (Spares submitted) (Contest.start rt w submitted) schedule)
    (i : ι) : let c := (runMoves Contest.step (Contest.start rt w submitted) schedule).client i
    LearnsFate (submitted i) c
      ∧ (rt.closed = false → (submitted i).length ≤ rt.config.bounds.maxBatchEvents →
          (submitted i).length < schedule.count i → ∃ report, c.answer = some (.ok report)) := by
  have hstep : ∀ (s : Contest ι) i, s.Fair submitted → Spares submitted s i →
      (s.step i).Fair submitted := fun _ _ hs hspares => step_fair hids hs hspares
  have hrun : (runMoves Contest.step (Contest.start rt w submitted) schedule).Fair submitted :=
    run_invariant hstep (start_fair hfresh w) hspares
  refine ⟨(hrun i).1, fun hopen hfits hturns => ?_⟩
  have hclient : (Contest.start rt w submitted).client i = { left := submitted i } := by
    simp [Contest.start, Submitter.enter, not_lt.mpr hfits]
  exact run_reports schedule hopen (by rw [hclient]) (by rw [hclient]; exact hturns)

/-! ## §5. Two clients. -/

/-- The runtime that has only been opened. -/
def openedRuntime : FabricRuntime := (openedSample.process.get openedSample_runs).runtime

/-- A report of the time, with an identity of its own. -/
def clientEvent (name : String) (sequence instant : UInt64) : FabricEvent :=
  { id := .literal (txt name), origin := .literal (txt "o"), originEpoch := ⟨1⟩,
    originSeq := ⟨sequence⟩, instant := ⟨instant⟩, body := .logicalTimeAdvanced { now := ⟨instant⟩ } }
    
/-- One client has two events of one instant, the other one event later on. -/
def rivalEvents : Bool → List FabricEvent
  | true => [clientEvent "a" 1 1, clientEvent "b" 2 1]
  | false => [clientEvent "c" 3 2]

theorem rivalEvents_ids : OwnIds rivalEvents := ⟨by decide +kernel, by decide +kernel⟩

/-- One client comes after the other. -/
def rivalsInTurn : Contest Bool :=
  runMoves Contest.step (Contest.start openedRuntime {} rivalEvents)
    [true, true, true, false, false]

/-- Both learn their fate. -/
theorem rivals_in_turn :
    LearnsFate (rivalEvents true) (rivalsInTurn.client true)
      ∧ LearnsFate (rivalEvents false) (rivalsInTurn.client false) := by
  have hfate := own_fate_learned rivalEvents rivalEvents_ids openedRuntime (by decide +kernel) {}
    [true, true, true, false, false] (by decide +kernel)
  exact ⟨(hfate true).1, (hfate false).1⟩

/-- The second client comes and goes while the first one is staging. -/
def rivalsEnd : Contest Bool :=
  runMoves Contest.step (Contest.start openedRuntime {} rivalEvents)
    [true, false, false, true, true]

theorem rivalsEnd_reports :
    ((rivalsEnd.client true).answer.bind Except.toOption).isSome = true := by decide +kernel

/-- The first client hears nothing of its first event, and its second one is
refused as late. -/
theorem rival_loses_events :
    OwnIds rivalEvents
      ∧ (∃ report, (rivalsEnd.client true).answer.bind Except.toOption = some report
        ∧ timesReported report.outcomes (clientEvent "a" 1 1).id = 0)
      ∧ RefusedLate (rivalsEnd.client true) (clientEvent "b" 2 1)
      ∧ (rivalsEnd.client true).began = some ⟨0⟩ ∧ ¬ (clientEvent "b" 2 1).instant ≤ ⟨0⟩ :=
  ⟨⟨by decide +kernel, by decide +kernel⟩,
    ⟨_, (Option.some_get rivalsEnd_reports).symm, by decide +kernel⟩,
    by decide +kernel, by decide +kernel, by decide⟩

end DpuFabric
