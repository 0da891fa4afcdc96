/-
  Runtime.Reports — WHAT A BATCH REPORT COUNTS.

  The counters of a report follow the class of the reason code, the state
  follows the `applied` flag.  The two agree for every result of a reducer but
  one: the failure of an effect is applied under a code that refuses
  (`applyEvent_informational`, `AcceptsFailure.applied`).
-/
import DpuFabric.Engine.Attempts
import DpuFabric.Runtime.Atomicity
import DpuFabric.Runtime.Redelivery

namespace DpuFabric

open Lib

variable {report : BatchReport} {w : RuntimeWorld} {rt : FabricRuntime} {events : List FabricEvent}
  {upto : LogicalInstant}

/-! ## §1. Applied under a refusing code. -/

/-- A report of failure that passes the checks of `reduce_effect`. -/
def AcceptsFailure (s : RuntimeState) (event : FabricEvent) : Prop :=
  ∃ body k i, event.body = .effectReported body ∧ body.report.status = .failed
    ∧ checkEffect s event body.report = .ok (k, i)

section Codes

variable {s : RuntimeState} {event : FabricEvent} {bounds : RuntimeBounds}
  {weights : PlacementWeights}

theorem guardedBy_applied {refusal : Option Refusal} {effect : ApplyResult × RuntimeState}
    (heffect : effect.1.applied = true → isInformational effect.1.code = true)
    (h : (guardedBy s refusal effect).1.applied = true) :
    isInformational (guardedBy s refusal effect).1.code = true := by
  cases refusal with
  | some r => simp [guardedBy, Refusal.toResult] at h
  | none => exact heffect h

theorem reduceEffect_informational {body : EffectReported}
    (hbody : event.body = .effectReported body) (h : (reduceEffect s event body).1.applied = true) :
    isInformational (reduceEffect s event body).1.code = true ∨ AcceptsFailure s event := by
  unfold reduceEffect at h ⊢
  cases hchecks : checkEffect s event body.report with
  | error refusal =>
    rw [hchecks] at h
    simp [Refusal.toResult] at h
  | ok found =>
    obtain ⟨k, i⟩ := found
    simp only [acceptEffect]
    by_cases hfailed : body.report.status = .failed
    · exact .inr ⟨body, k, i, hbody, hfailed, hchecks⟩
    rw [if_neg hfailed]
    left
    split <;> rfl

theorem reduceIntent_informational {body : IntentSubmitted}
    (h : (reduceIntent s event body bounds weights).1.applied = true) :
    isInformational (reduceIntent s event body bounds weights).1.code = true := by
  unfold reduceIntent at h ⊢
  cases haccept : acceptIntent s event body.intent bounds weights with
  | error refusal =>
    rw [haccept] at h
    simp [Refusal.toResult] at h
  | ok out =>
    simp only [acceptIntent, bind_eq_ok] at haccept
    obtain ⟨group, -, plan, -, authority, -, haccept⟩ := haccept
    split at haccept
    · simp at haccept
    rw [pure_eq_ok] at haccept
    subst haccept
    rfl

/-- **What is applied is reported under an informational code**, but for the
failure of an effect. -/
theorem applyEvent_informational (h : (applyEvent s event bounds weights).1.applied = true) :
    isInformational (applyEvent s event bounds weights).1.code = true
      ∨ AcceptsFailure s event := by
  unfold applyEvent at h ⊢
  cases hbody : event.body with
  | effectReported body =>
    rw [hbody] at h
    exact reduceEffect_informational hbody h
  | intentSubmitted body =>
    rw [hbody] at h
    exact .inl (reduceIntent_informational h)
  | coordinatorAdvanced body =>
    rw [hbody] at h
    refine .inl (guardedBy_applied (fun happlied => ?_) h)
    split at happlied
    · simp at happlied
    · rfl
  | dependencyDeclared body =>
    rw [hbody] at h
    simp only [reduceDependency] at h ⊢
    split at h
    · simp [Refusal.toResult] at h
    · exact .inl (guardedBy_applied (fun _ => rfl) h)
  | topologyObserved body =>
    rw [hbody] at h
    refine .inl (guardedBy_applied (fun happlied => ?_) h)
    split at happlied
    · simp [Refusal.toResult] at happlied
    · rfl
  | capabilityObserved body | executionAcknowledged body =>
    rw [hbody] at h
    simp only [reduceCapability, reduceAcknowledged] at h ⊢
    split at h
    · simp [Refusal.toResult] at h
    · exact .inl rfl
  | _ =>
    rw [hbody] at h
    exact .inl (guardedBy_applied (fun _ => rfl) h)

theorem failInstance_core {instances : List InstanceState} {k : Nat} {i : InstanceState}
    (hk : instances[k]? = some i) {a : AttemptRecord} (ha : i.currentAttempt = some a)
    (hopen : a.outcome = .opened) (instant : LogicalInstant) :
    (instances.set k (failInstance i instant)).map InstanceState.withoutHealth
      ≠ instances.map InstanceState.withoutHealth := by
  intro heq
  have hlt : k < instances.length := (List.getElem?_eq_some_iff.mp hk).1
  have hat := congrArg (fun l : List InstanceState => l[k]?) heq
  simp only [List.getElem?_map, List.getElem?_set_self hlt, hk, Option.map_some,
    Option.some.injEq] at hat
  have hattempts := InstanceState.withoutHealth_attempts hat
  obtain ⟨earlier, hsplit⟩ := List.getLast?_eq_some_iff.mp ha
  rw [failInstance, closeLastAttempt, hsplit, mapLastAttempt_concat] at hattempts
  have hlast := List.append_cancel_left hattempts
  have houtcome := congrArg AttemptRecord.outcome (List.cons.inj hlast).1
  rw [hopen] at houtcome
  simp at houtcome

/-- The failure of an effect is applied, under a refusing code, and changes
the core. -/
theorem AcceptsFailure.applied (h : AcceptsFailure s event) (bounds : RuntimeBounds)
    (weights : PlacementWeights) :
    (applyEvent s event bounds weights).1.applied = true
      ∧ isInformational (applyEvent s event bounds weights).1.code = false
      ∧ core (applyEvent s event bounds weights).2 ≠ core s := by
  obtain ⟨body, k, i, hbody, hfailed, hchecks⟩ := h
  obtain ⟨hk, hchecked⟩ := checkEffect_ok hchecks
  obtain ⟨a, ha, -, hopen⟩ := hchecked.attempt
  simp only [applyEvent, hbody, reduceEffect, hchecks, acceptEffect, hfailed, if_true]
  refine ⟨rfl, rfl, fun hcore => ?_⟩
  exact failInstance_core hk ha hopen event.instant (congrArg RuntimeState.instances hcore)

end Codes

/-! ## §2. Turns. -/

theorem journal_refusal {rt' : FabricRuntime} {event : FabricEvent} {w' : RuntimeWorld}
    {status : Status} (h : rt.journal event w = (some status, rt', w')) : status.ok = false := by
  have hfinish : ∀ {out : Status × FabricRuntime × RuntimeWorld},
      finishAppend event out = (some status, rt', w') → status.ok = false := by
    rintro ⟨appended, rt₁, w₁⟩ hout
    simp only [finishAppend] at hout
    split at hout
    · next hbad =>
      obtain rfl : appended = status := by simpa using congrArg Prod.fst hout
      simpa using hbad
    · simp at hout
  unfold FabricRuntime.journal at h
  split at h
  · simp at h
  split at h
  split at h
  · unfold FabricRuntime.rotateAppend at h
    split at h
    split at h
    · next rotated _ _ _ hbad =>
      obtain rfl : rotated = status := by simpa using congrArg Prod.fst h
      simpa using hbad
    · split at h
      · simp at h
      · exact hfinish h
  · exact hfinish h

/-- A turn of the loop of `flush`, about to be made. -/
structure FlushTurn where
  runtime : FabricRuntime
  report : BatchReport
  event : FabricEvent
  world : RuntimeWorld

namespace FlushTurn

/-- The turn, made. -/
def made (t : FlushTurn) : FabricRuntime × BatchReport × RuntimeWorld :=
  flushEvent t.runtime t.report t.event t.world

/-- The turn counts its event as refused or suppressed. -/
def CountedOut (t : FlushTurn) : Prop :=
  t.made.2.1.refused ≠ t.report.refused ∨ t.made.2.1.suppressed ≠ t.report.suppressed

/-- The turn leaves placement, authority and lifecycle as they are. -/
def LeavesCore (t : FlushTurn) : Prop := core t.made.1.state = core t.runtime.state

/-- The event is new, its append does not fail, and it is a report of failure
that passes the checks of `reduce_effect`. -/
def TakesFailure (t : FlushTurn) : Prop :=
  findDelivery t.runtime.deliveries t.event = none
    ∧ (t.runtime.journal t.event t.world).1 = none
    ∧ AcceptsFailure t.runtime.state t.event

/-- The outcome of a turn, and what it tells about the turn. -/
structure Told (t : FlushTurn) (o : EventOutcome) : Prop where
  counted : t.made.2.1 = t.report.count o
  idle : o.applied = false → t.LeavesCore
  informed : o.applied = true → isInformational o.code = true ∨ t.TakesFailure
  failed : t.TakesFailure →
    o.applied = true ∧ isInformational o.code = false ∧ ¬ t.LeavesCore

/-- **Every turn adds one outcome.** -/
theorem told {t : FlushTurn} (hcarry : FencesCarry t.runtime.state) : ∃ o, t.Told o := by
  obtain ⟨rt, report, event, w⟩ := t
  cases hseen : findDelivery rt.deliveries event with
  | some seen =>
    have hmade : flushEvent rt report event w
        = (rt, report.count (duplicateOutcome event seen), w) := by
      unfold flushEvent
      rw [hseen]
    have hidle : (duplicateOutcome event seen).applied = false := by
      unfold duplicateOutcome
      split <;> rfl
    refine ⟨duplicateOutcome event seen, congrArg (fun m => m.2.1) hmade, fun _ => ?_, ?_, ?_⟩
    · exact congrArg (fun m => core m.1.state) hmade
    · intro happlied
      rw [hidle] at happlied
      simp at happlied
    · intro hfailure
      exact absurd (hseen.symm.trans hfailure.1) (by simp)
  | none =>
    obtain ⟨n, hn⟩ := journal_state rt event w
    match hjournal : rt.journal event w with
    | (some status, rt', w') =>
      have hmade : flushEvent rt report event w
          = (rt', report.refusedBy event status, w') := by
        unfold flushEvent
        rw [hseen, hjournal]
      rw [hjournal] at hn
      refine ⟨{ id := event.id, code := status.code, detail := status.detail }, ?_, fun _ => ?_,
        fun happlied => absurd happlied (by simp), fun hfailure => ?_⟩
      · refine (congrArg (fun m => m.2.1) hmade).trans ?_
        have hrefusing : isInformational status.code = false := journal_refusal hjournal
        simp only [BatchReport.refusedBy, BatchReport.count, hrefusing, Bool.not_false, if_true]
      · refine (congrArg (fun m => core m.1.state) hmade).trans ?_
        show core rt'.state = core rt.state
        rw [hn, core_recounted]
      · exact absurd ((congrArg Prod.fst hjournal).symm.trans hfailure.2.1) (by simp)
    | (none, rt', w') =>
      rw [hjournal] at hn
      obtain ⟨l, hl⟩ := delivered_state rt' event
      -- the counters play no part in the checks
      have hstate : (rt'.delivered event).state = rt.state.recounted l n := by rw [hl, hn]; rfl
      have hcarry' : FencesCarry (rt'.delivered event).state := hstate ▸ hcarry.recounted l n
      have hcore : core (rt'.delivered event).state = core rt.state := by
        rw [hstate, core_recounted]
      have hfailure : AcceptsFailure (rt'.delivered event).state event
          ↔ AcceptsFailure rt.state event := by rw [hstate]; exact Iff.rfl
      let applied := (applyEvent (rt'.delivered event).state event rt'.config.bounds
        rt'.config.weights)
      have hmade : flushEvent rt report event w
          = ({ rt'.delivered event with
                state := advanceState (rt'.delivered event).state event rt'.config.bounds
                  rt'.config.weights },
             report.count { id := event.id, code := applied.1.code,
                            applied := applied.1.applied, detail := applied.1.detail },
             w'.note (.applied event applied.1)) := by
        unfold flushEvent
        rw [hseen, hjournal]
        rfl
      have hafter : core (flushEvent rt report event w).1.state = core applied.2 := by
        rw [hmade]
        exact core_advanceState ..
      refine ⟨_, congrArg (fun m => m.2.1) hmade, fun hidle => ?_, fun happlied => ?_,
        fun htakes => ?_⟩
      · refine hafter.trans (Eq.trans ?_ hcore)
        exact congrArg core (applyEvent_refused hcarry' _ _ _ hidle)
      · rcases applyEvent_informational happlied with hcode | haccepts
        · exact .inl hcode
        · exact .inr ⟨hseen, congrArg Prod.fst hjournal, hfailure.mp haccepts⟩
      · have haccepts := hfailure.mpr htakes.2.2
        obtain ⟨happlied, hcode, hchanged⟩ :=
          haccepts.applied rt'.config.bounds rt'.config.weights
        refine ⟨happlied, hcode, fun hleaves => hchanged ?_⟩
        exact hafter.symm.trans (Eq.trans hleaves hcore.symm)

section Told

variable {t : FlushTurn} {o : EventOutcome} (h : t.Told o)
include h

/-- A turn counts its event out unless it was applied under an informational
code. -/
theorem Told.countedOut_iff :
    t.CountedOut ↔ ¬ (isInformational o.code = true ∧ o.applied = true) := by
  unfold CountedOut
  rw [h.counted]
  unfold BatchReport.count
  by_cases hcode : isInformational o.code = true <;> by_cases happlied : o.applied = true <;>
    simp [hcode, happlied]

/-- **One turn**: what it counts out leaves the core alone, exactly if it
takes no failure report. -/
theorem Told.leaves_iff : (t.CountedOut → t.LeavesCore) ↔ ¬ t.TakesFailure := by
  constructor
  · intro hleaves htakes
    obtain ⟨-, hcode, hchanged⟩ := h.failed htakes
    refine hchanged (hleaves (h.countedOut_iff.mpr ?_))
    simp [hcode]
  · intro hnone hout
    refine h.idle (Bool.eq_false_iff.mpr fun happlied => ?_)
    rcases h.informed happlied with hcode | htakes
    · exact h.countedOut_iff.mp hout ⟨hcode, happlied⟩
    · exact hnone htakes

end Told

end FlushTurn

/-- The turns of the loop of `flush`. -/
def flushTurns : List FabricEvent → FabricRuntime × BatchReport × RuntimeWorld → List FlushTurn
  | [], _ => []
  | event :: rest, (rt, report, w) =>
    ⟨rt, report, event, w⟩ :: flushTurns rest (flushEvent rt report event w)

/-- The turns of a flush. -/
def FabricRuntime.turns (rt : FabricRuntime) (upto : LogicalInstant) (w : RuntimeWorld) :
    List FlushTurn :=
  flushTurns (releasedEvents rt.pending upto)
    ({ rt with pending := retainedEvents rt.pending upto }, { upto }, w)

theorem flushTurns_fencesCarry
    (hrt : FencesCarry rt.state) (report : BatchReport) (w : RuntimeWorld) :
    ∀ t ∈ flushTurns events (rt, report, w), FencesCarry t.runtime.state := by
  induction events generalizing rt report w with
  | nil => exact fun t ht => absurd ht (by simp [flushTurns])
  | cons event rest ih =>
    intro t ht
    rcases List.mem_cons.mp ht with rfl | ht
    · exact hrt
    · exact ih (flushEvent_fencesCarry hrt report event w) _ _ t ht

/-! ## §3. The counters. -/

namespace EventOutcome

/-- Counted as applied. -/
def isApplied (o : EventOutcome) : Bool := isInformational o.code && o.applied

/-- Counted as suppressed. -/
def isSuppressed (o : EventOutcome) : Bool := isInformational o.code && !o.applied

/-- Counted as refused. -/
def isRefused (o : EventOutcome) : Bool := !isInformational o.code

end EventOutcome

/-- The counters are the numbers of outcomes of the three classes, in 64
bits. -/
structure BatchReport.Tallied (r : BatchReport) : Prop where
  applied : r.applied = accounting (r.outcomes.countP EventOutcome.isApplied)
  suppressed : r.suppressed = accounting (r.outcomes.countP EventOutcome.isSuppressed)
  refused : r.refused = accounting (r.outcomes.countP EventOutcome.isRefused)

theorem accounting_add (m n : Nat) : accounting (m + n) = accounting m + accounting n :=
  UInt64.ofNat_add m n

theorem count_tallied {r : BatchReport} (h : r.Tallied) (o : EventOutcome) :
    (r.count o).Tallied := by
  obtain ⟨happlied, hsuppressed, hrefused⟩ := h
  unfold BatchReport.count
  by_cases hcode : isInformational o.code = true <;> by_cases hflag : o.applied = true <;>
    constructor <;>
    simp [hcode, hflag, happlied, hsuppressed, hrefused, List.countP_append,
      EventOutcome.isApplied, EventOutcome.isSuppressed, EventOutcome.isRefused,
      accounting_add] <;> rfl

/-- The whole loop: the counters keep up with the outcomes, and an outcome
that is new is the outcome of a turn. -/
theorem flushLoop_tallied (events : List FabricEvent)
    (hrt : FencesCarry rt.state) (hreport : report.Tallied) (w : RuntimeWorld) :
    (flushLoop events (rt, report, w)).2.1.Tallied
      ∧ ∀ o ∈ (flushLoop events (rt, report, w)).2.1.outcomes,
          o ∈ report.outcomes ∨ ∃ t ∈ flushTurns events (rt, report, w), t.Told o := by
  induction events generalizing rt report w with
  | nil => exact ⟨hreport, fun o ho => .inl ho⟩
  | cons event rest ih =>
    obtain ⟨first, htold⟩ := FlushTurn.told (t := ⟨rt, report, event, w⟩) hrt
    have hcounted : (flushEvent rt report event w).2.1 = report.count first := htold.counted
    have htallied : (flushEvent rt report event w).2.1.Tallied := by
      rw [hcounted]
      exact count_tallied hreport first
    obtain ⟨hall, hfrom⟩ := ih (flushEvent_fencesCarry hrt report event w) htallied
      (flushEvent rt report event w).2.2
    refine ⟨hall, fun o ho => ?_⟩
    rcases hfrom o ho with hold | ⟨t, ht, hto⟩
    · rw [hcounted, count_outcomes] at hold
      rcases List.mem_append.mp hold with hold | hold
      · exact .inl hold
      · obtain rfl : o = first := List.mem_singleton.mp hold
        exact .inr ⟨_, List.mem_cons_self, htold⟩
    · exact .inr ⟨t, List.mem_cons_of_mem _ ht, hto⟩

/-- **A report adds up**: the counters sum to the number of outcomes, and the
first one counts the outcomes whose flag is set. -/
structure BatchReport.AddsUp (r : BatchReport) : Prop where
  total : r.applied + r.suppressed + r.refused = accounting r.outcomes.length
  /-- The counters are 64 bits wide; below that the sum is exact. -/
  exact : r.outcomes.length < 2 ^ 64 →
    r.applied.toNat + r.suppressed.toNat + r.refused.toNat = r.outcomes.length
  applied : r.applied = accounting (r.outcomes.countP EventOutcome.applied)

theorem countP_classes (outcomes : List EventOutcome) :
    outcomes.countP EventOutcome.isApplied + outcomes.countP EventOutcome.isSuppressed
      + outcomes.countP EventOutcome.isRefused = outcomes.length := by
  induction outcomes with
  | nil => rfl
  | cons o rest ih =>
    have hone : (if o.isApplied then 1 else 0) + (if o.isSuppressed then 1 else 0)
        + (if o.isRefused then 1 else 0) = 1 := by
      unfold EventOutcome.isApplied EventOutcome.isSuppressed EventOutcome.isRefused
      cases isInformational o.code <;> cases o.applied <;> rfl
    simp only [List.countP_cons, List.length_cons]
    omega

theorem accounting_toNat {n : Nat} (h : n < 2 ^ 64) : (accounting n).toNat = n :=
  UInt64.toNat_ofNat_of_lt' h

theorem BatchReport.Tallied.addsUp {r : BatchReport} (h : r.Tallied)
    (hflags : ∀ o ∈ r.outcomes, o.applied = true → isInformational o.code = true) : r.AddsUp := by
  have hclasses := countP_classes r.outcomes
  refine ⟨?_, fun hlt => ?_, ?_⟩
  · rw [h.applied, h.suppressed, h.refused, ← accounting_add, ← accounting_add, hclasses]
  · rw [h.applied, h.suppressed, h.refused, accounting_toNat (by omega),
      accounting_toNat (by omega), accounting_toNat (by omega), hclasses]
  rw [h.applied]
  refine congrArg accounting (List.countP_congr fun o ho => ?_)
  simp only [EventOutcome.isApplied, Bool.and_eq_true]
  exact ⟨fun hboth => hboth.2, fun happlied => ⟨hflags o ho happlied, happlied⟩⟩

/-! ## §4. Flush and submit. -/

section Calls

variable {rt : FabricRuntime} (hrt : FencesCarry rt.state)
include hrt

theorem flush_tallied (h : (rt.flush upto w).1 = .ok report) :
    report.Tallied ∧ ∀ o ∈ report.outcomes, ∃ t ∈ rt.turns upto w, t.Told o := by
  unfold FabricRuntime.flush FabricRuntime.flushBegin at h
  by_cases hclosed : rt.closed = true
  · simp [hclosed] at h
  simp only [if_neg hclosed, Except.ok.injEq] at h
  have hbegun : FencesCarry { rt with pending := retainedEvents rt.pending upto }.state := hrt
  have hblank : BatchReport.Tallied { upto } := ⟨rfl, rfl, rfl⟩
  obtain ⟨htallied, hfrom⟩ :=
    flushLoop_tallied (releasedEvents rt.pending upto) hbegun hblank w
  rw [← h]
  refine ⟨⟨htallied.applied, htallied.suppressed, htallied.refused⟩, fun o ho => ?_⟩
  rcases hfrom o ho with hold | hturn
  · simp at hold
  · exact hturn

theorem turns_told (upto : LogicalInstant) (w : RuntimeWorld) :
    ∀ t ∈ rt.turns upto w, ∃ o, t.Told o := by
  intro t ht
  have hbegun : FencesCarry { rt with pending := retainedEvents rt.pending upto }.state := hrt
  exact FlushTurn.told (flushTurns_fencesCarry hbegun _ _ t ht)

/-- A flush that takes no failure report sets the flag under informational
codes only. -/
theorem flush_flags (h : (rt.flush upto w).1 = .ok report)
    (hnone : ∀ t ∈ rt.turns upto w, ¬ t.TakesFailure) :
    ∀ o ∈ report.outcomes, o.applied = true → isInformational o.code = true := by
  intro o ho happlied
  obtain ⟨t, ht, htold⟩ := (flush_tallied hrt h).2 o ho
  rcases htold.informed happlied with hcode | htakes
  · exact hcode
  · exact absurd htakes (hnone t ht)

theorem flush_adds_up_iff (h : (rt.flush upto w).1 = .ok report) :
    (report.AddsUp ∧ ∀ t ∈ rt.turns upto w, t.CountedOut → t.LeavesCore)
      ↔ ∀ t ∈ rt.turns upto w, ¬ t.TakesFailure := by
  constructor
  · rintro ⟨-, hleaves⟩ t ht
    obtain ⟨o, htold⟩ := turns_told hrt upto w t ht
    exact htold.leaves_iff.mp (hleaves t ht)
  · intro hnone
    refine ⟨(flush_tallied hrt h).1.addsUp (flush_flags hrt h hnone), fun t ht => ?_⟩
    obtain ⟨o, htold⟩ := turns_told hrt upto w t ht
    exact htold.leaves_iff.mpr (hnone t ht)

end Calls

/-- What the staging loop has put aside: suppressed under their code, or
refused; none of it applied. -/
structure Staging.Sorted (s : Staging) : Prop where
  duplicates : ∀ o ∈ s.duplicates, o.isSuppressed = true
  failures : ∀ o ∈ s.failures, o.isRefused = true ∧ o.applied = false

theorem Staging.step_sorted {s : Staging} (h : s.Sorted) (event : FabricEvent) :
    (s.step event).Sorted := by
  unfold Staging.step
  simp only
  split
  · next hcode =>
    refine ⟨fun o ho => ?_, h.failures⟩
    rcases List.mem_append.mp ho with ho | ho
    · exact h.duplicates o ho
    · rw [List.mem_singleton.mp ho]
      simp [EventOutcome.isSuppressed, hcode, isInformational]
  · split
    · next hbad =>
      refine ⟨h.duplicates, fun o ho => ?_⟩
      rcases List.mem_append.mp ho with ho | ho
      · exact h.failures o ho
      · rw [List.mem_singleton.mp ho]
        exact ⟨hbad, rfl⟩
    · exact ⟨h.duplicates, h.failures⟩

theorem staging_sorted (rt : FabricRuntime) (events : List FabricEvent) :
    (rt.staging events).Sorted := by
  have hloop : ∀ s : Staging, s.Sorted → (events.foldl Staging.step s).Sorted := by
    induction events with
    | nil => exact fun s hs => hs
    | cons event rest ih => exact fun s hs => ih _ (Staging.step_sorted hs event)
  exact hloop _ ⟨fun o ho => absurd ho (by simp), fun o ho => absurd ho (by simp)⟩

theorem staging_core (rt : FabricRuntime) (events : List FabricEvent) :
    core (rt.staging events).runtime.state = core rt.state := by
  have hstep : ∀ (s : Staging) event, core (s.step event).runtime.state = core s.runtime.state := by
    intro s event
    obtain ⟨l, hl⟩ := stage_state s.runtime event
    have hruntime : (s.step event).runtime = (s.runtime.stage event).2 := by
      unfold Staging.step
      simp only
      repeat' split
      all_goals rfl
    rw [hruntime, hl, core_recounted]
  have hloop : ∀ s : Staging, core (events.foldl Staging.step s).runtime.state
      = core s.runtime.state := by
    induction events with
    | nil => exact fun s => rfl
    | cons event rest ih => exact fun s => (ih _).trans (hstep s event)
  exact hloop _

theorem mergeReport_perm (report : BatchReport) (s : Staging) :
    (mergeReport report s).outcomes.Perm (report.outcomes ++ s.duplicates ++ s.failures) := by
  unfold mergeReport
  simp only
  split
  · exact List.Perm.refl _
  · exact List.perm_insertionSort _ _

theorem mergeReport_tallied (h : report.Tallied) {s : Staging} (hs : s.Sorted) :
    (mergeReport report s).Tallied := by
  -- neither list has outcomes of another class
  have hduplicates : ∀ o ∈ s.duplicates, o.isApplied = false ∧ o.isRefused = false := by
    intro o ho
    have := hs.duplicates o ho
    simp_all [EventOutcome.isSuppressed, EventOutcome.isApplied, EventOutcome.isRefused]
  have hfailures : ∀ o ∈ s.failures, o.isApplied = false ∧ o.isSuppressed = false := by
    intro o ho
    have := (hs.failures o ho).1
    simp_all [EventOutcome.isSuppressed, EventOutcome.isApplied, EventOutcome.isRefused]
  have hnone : ∀ {l : List EventOutcome} {Q : EventOutcome → Bool}, (∀ o ∈ l, Q o = false) →
      l.countP Q = 0 := fun h => List.countP_eq_zero.mpr (by simpa using h)
  refine ⟨?_, ?_, ?_⟩ <;>
    rw [(mergeReport_perm report s).countP_eq, List.countP_append, List.countP_append]
  · rw [hnone fun o ho => (hduplicates o ho).1, hnone fun o ho => (hfailures o ho).1]
    exact h.applied
  · rw [List.countP_eq_length.mpr hs.duplicates, hnone fun o ho => (hfailures o ho).2, Nat.add_zero,
      accounting_add, ← h.suppressed]
    rfl
  · rw [hnone fun o ho => (hduplicates o ho).2,
      List.countP_eq_length.mpr fun o ho => (hs.failures o ho).1, Nat.add_zero, accounting_add,
      ← h.refused]
    rfl

theorem submit_ok (h : (rt.submit events w).1 = .ok report) :
    ∃ flushed, ((rt.staging events).runtime.flush (rt.staging events).upto w).1 = .ok flushed
      ∧ report = mergeReport flushed (rt.staging events) := by
  unfold FabricRuntime.submit at h
  split at h
  · simp at h
  simp only at h
  split at h
  · simp at h
  · next flushed rt' w' hflush =>
    exact ⟨flushed, congrArg Prod.fst hflush, (Except.ok.inj h).symm⟩

theorem submit_adds_up_iff (hrt : FencesCarry rt.state) (h : (rt.submit events w).1 = .ok report) :
    (report.AddsUp
        ∧ (∀ n, core (rt.staging (events.take n)).runtime.state = core rt.state)
        ∧ ∀ t ∈ (rt.staging events).runtime.turns (rt.staging events).upto w,
            t.CountedOut → t.LeavesCore)
      ↔ ∀ t ∈ (rt.staging events).runtime.turns (rt.staging events).upto w,
          ¬ t.TakesFailure := by
  obtain ⟨flushed, hflush, rfl⟩ := submit_ok h
  have hstaged : FencesCarry (rt.staging events).runtime.state :=
    FencesCarry.of_core (staging_core rt events).symm hrt
  have hflushed := flush_adds_up_iff hstaged hflush
  constructor
  · rintro ⟨-, -, hleaves⟩ t ht
    obtain ⟨o, htold⟩ := turns_told hstaged _ w t ht
    exact htold.leaves_iff.mp (hleaves t ht)
  · intro hnone
    refine ⟨?_, fun n => staging_core rt (events.take n), (hflushed.mpr hnone).2⟩
    refine (mergeReport_tallied (flush_tallied hstaged hflush).1
      (staging_sorted rt events)).addsUp fun o ho happlied => ?_
    have hparts := (mergeReport_perm flushed (rt.staging events)).mem_iff.mp ho
    rcases List.mem_append.mp hparts with hparts | hfailure
    · rcases List.mem_append.mp hparts with hflushedOutcome | hduplicate
      · exact flush_flags hstaged hflush hnone o hflushedOutcome happlied
      have hsuppressed := (staging_sorted rt events).duplicates o hduplicate
      simp only [EventOutcome.isSuppressed, Bool.and_eq_true] at hsuppressed
      exact hsuppressed.1
    · have hidle := ((staging_sorted rt events).failures o hfailure).2
      rw [hidle] at happlied
      simp at happlied

/-- **Reports and the state they describe**, in every state of every run: a
report of `flush` or `submit` adds up and what it counts as refused or
suppressed leaves placement, authority and lifecycle alone, exactly if no turn
of the flush takes a report of failure. -/
theorem batch_reports_add_up_iff (trace : List (Action FileName Mark)) (moves : List Move)
    (p : Process) (hp : (System.after { trace } moves).process = some p) (w : RuntimeWorld) :
    (∀ upto report, (p.runtime.flush upto w).1 = .ok report →
        ((report.AddsUp ∧ ∀ t ∈ p.runtime.turns upto w, t.CountedOut → t.LeavesCore)
          ↔ ∀ t ∈ p.runtime.turns upto w, ¬ t.TakesFailure))
      ∧ (∀ events report, (p.runtime.submit events w).1 = .ok report →
          ((report.AddsUp
              ∧ (∀ n, core (p.runtime.staging (events.take n)).runtime.state
                  = core p.runtime.state)
              ∧ ∀ t ∈ (p.runtime.staging events).runtime.turns (p.runtime.staging events).upto w,
                  t.CountedOut → t.LeavesCore)
            ↔ ∀ t ∈ (p.runtime.staging events).runtime.turns (p.runtime.staging events).upto w,
                ¬ t.TakesFailure)) := by
  have hcarry : FencesCarry p.runtime.state := run_fencesCarry trace moves p hp
  exact ⟨fun _ _ h => flush_adds_up_iff hcarry h, fun _ _ h => submit_adds_up_iff hcarry h⟩

/-- The stray intent alone: one outcome, refused, and nothing changed. -/
theorem stray_intent_reported :
    ∃ p report, openedSample.process = some p
      ∧ (p.runtime.submit [strayIntent] {}).1 = .ok report
      ∧ report.AddsUp ∧ report.refused = 1 ∧ report.outcomes.length = 1 := by
  let p := openedSample.process.get openedSample_runs
  have hp : openedSample.process = some p := (Option.some_get openedSample_runs).symm
  have hreport : ((p.runtime.submit [strayIntent] {}).1.toOption.map fun report =>
      (report.refused, report.outcomes.length)) = some (1, 1) := by decide +kernel
  have hevents : ((p.runtime.staging [strayIntent]).runtime.turns
      (p.runtime.staging [strayIntent]).upto {}).map FlushTurn.event = [strayIntent] := by
    decide +kernel
  cases hsubmit : (p.runtime.submit [strayIntent] {}).1 with
  | error status =>
    rw [hsubmit] at hreport
    simp [Except.toOption] at hreport
  | ok report =>
    rw [hsubmit] at hreport
    simp only [Except.toOption, Option.map_some, Option.some.injEq, Prod.mk.injEq] at hreport
    have hiff := (batch_reports_add_up_iff [] [.run (.start sampleConfig) []] p hp {}).2
      [strayIntent] report hsubmit
    have hnone : ∀ t ∈ (p.runtime.staging [strayIntent]).runtime.turns
        (p.runtime.staging [strayIntent]).upto {}, ¬ t.TakesFailure := by
      rintro t ht ⟨-, -, body, k, i, hbody, -⟩
      have hevent : t.event ∈ [strayIntent] := hevents ▸ List.mem_map_of_mem ht
      rw [List.mem_singleton.mp hevent] at hbody
      simp [strayIntent, sampleEvent, sampleIntent] at hbody
    exact ⟨p, report, hp, hsubmit, (hiff.mpr hnone).1, hreport.1, hreport.2⟩

/-- A service deployed, and no report on it yet. -/
def awaitingMoves : List Move :=
  .run (.start sampleConfig) [] ::
    [sampleEvent 1 (sampleTopology ["d"]), sampleEvent 2 samplePolicy,
     sampleEvent 3 (sampleService "a" none), sampleEvent 4 (sampleGroup "g" ["a"]),
     sampleEvent 5 (sampleIntent .deploy "g" 1 ["a"])].flatMap submitMoves

theorem awaitingMoves_run :
    (System.after { trace := [] } awaitingMoves).process.isSome = true := by decide +kernel

/-- The executor reports that the deployment failed. -/
def failureReport : FabricEvent :=
  sampleEvent 6 (.effectReported { report := {
    instanceId := sampleInstance "g" "a"
    attempt := ⟨1⟩
    fence := { epoch := ⟨1⟩, boot := ⟨1⟩, serial := 1 }
    kind := .deploy
    status := .failed
    evidence := { sampleEvidence with observedAt := ⟨6⟩ } } })

/-- **The failure of an effect is counted as refused**, with its flag set and
the instance Failed. -/
theorem failure_report_counted_out :
    ∃ p report, (System.after { trace := [] } awaitingMoves).process = some p
      ∧ (p.runtime.submit [failureReport] {}).1 = .ok report
      ∧ report.applied = 0 ∧ report.refused = 1
      ∧ report.outcomes.map EventOutcome.applied = [true] ∧ ¬ report.AddsUp
      ∧ ∃ t ∈ (p.runtime.staging [failureReport]).runtime.turns
          (p.runtime.staging [failureReport]).upto {}, t.CountedOut ∧ ¬ t.LeavesCore := by
  let p := (System.after { trace := [] } awaitingMoves).process.get awaitingMoves_run
  have hreport : ((p.runtime.submit [failureReport] {}).1.toOption.map fun report =>
      (report.applied, report.refused, report.outcomes.map EventOutcome.applied))
        = some (0, 1, [true]) := by decide +kernel
  have hturns : ((p.runtime.staging [failureReport]).runtime.turns
      (p.runtime.staging [failureReport]).upto {}).any (fun t =>
        decide (t.made.2.1.refused ≠ t.report.refused)
          && decide (core t.made.1.state ≠ core t.runtime.state)) = true := by decide +kernel
  cases hsubmit : (p.runtime.submit [failureReport] {}).1 with
  | error status =>
    rw [hsubmit] at hreport
    simp [Except.toOption] at hreport
  | ok report =>
    rw [hsubmit] at hreport
    simp only [Except.toOption, Option.map_some, Option.some.injEq, Prod.mk.injEq] at hreport
    obtain ⟨happlied, hrefused, hflags⟩ := hreport
    obtain ⟨t, ht, hboth⟩ := List.any_eq_true.mp hturns
    simp only [Bool.and_eq_true, decide_eq_true_eq] at hboth
    refine ⟨p, report, (Option.some_get awaitingMoves_run).symm, hsubmit, happlied, hrefused, hflags, ?_,
      t, ht, .inl hboth.1, hboth.2⟩
    intro hadds
    have hcount : report.outcomes.countP EventOutcome.applied = 1 := by
      have hmapped := List.countP_map (p := id) (l := report.outcomes) (f := EventOutcome.applied)
      rw [hflags] at hmapped
      exact hmapped.symm
    have hone := hadds.applied
    rw [happlied, hcount] at hone
    exact absurd hone (by decide)

end DpuFabric
