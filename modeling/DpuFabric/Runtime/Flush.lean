/-
  Runtime.Flush — STAGE, FLUSH, SUBMIT, CHECKPOINT, CLOSE (`engine/runtime.hpp`,
  `engine/runtime.cpp`).

  `flush` releases the staged events up to an instant in key order and puts
  each of them through the same turn: duplicate check, write-ahead append
  (with a rotation when the journal is full), delivery window, reducer,
  watermark and clock, decision.  The turn is `flushEvent`; the whole call is
  the turns between `flushBegin` and `flushEnd`.

  The marks in the trace say which events were journaled and which ones
  reached `applyEvent`, live or in a replay; no function reads them.
-/
import DpuFabric.Engine.Intent
import DpuFabric.Persist.Store

namespace DpuFabric

open Lib

/-! ## §1. The runtime object. -/

/-- `RuntimeConfig`. -/
structure RuntimeConfig where
  bounds : RuntimeBounds := {}
  storeId : StoreId := default
  coordinator : OriginId := default
  epoch : CoordinatorEpoch := default
  boot : BootIncarnation := default
  storeDirectory : Option Text := none
  fsyncJournal : Bool := true
  weights : PlacementWeights := {}
  deriving DecidableEq, Repr

/-- `DeliveryRecord`. -/
structure DeliveryRecord where
  origin : OriginId := default
  originEpoch : OriginEpoch := default
  originSeq : Sequence := default
  digest : Digest := default
  deriving DecidableEq, Repr

/-- The record of an event's delivery. -/
def deliveryOf (event : FabricEvent) : DeliveryRecord :=
  { origin := event.origin, originEpoch := event.originEpoch, originSeq := event.originSeq,
    digest := eventDigest event }

/-- The record is about the event's origin sequence. -/
def DeliveryRecord.covers (seen : DeliveryRecord) (event : FabricEvent) : Bool :=
  decide (seen.origin = event.origin) && decide (seen.originEpoch = event.originEpoch)
    && decide (seen.originSeq = event.originSeq)

/-- The first remembered delivery with the event's origin sequence. -/
def findDelivery (deliveries : BoundedHistory DeliveryRecord) (event : FabricEvent) :
    Option DeliveryRecord :=
  deliveries.entries.find? (fun seen => seen.covers event)

/-- `EventOutcome`. -/
structure EventOutcome where
  id : EventId := default
  code : ReasonCode := .ok
  applied : Bool := false
  detail : Text := []
  deriving DecidableEq, Repr

/-- `BatchReport`. -/
structure BatchReport where
  upto : LogicalInstant := {}
  applied : UInt64 := 0
  suppressed : UInt64 := 0
  refused : UInt64 := 0
  evicted : UInt64 := 0
  stateDigest : Digest := default
  outcomes : List EventOutcome := []
  truncations : List TruncationRecord := []
  primary : ReasonCode := .ok
  deriving DecidableEq, Repr

/-- `RecoverySummary`. -/
structure RecoverySummary where
  classification : RecoveryClass := .fresh
  recoveredFromStore : Bool := false
  tornTail : Bool := false
  journalRecordsReplayed : UInt64 := 0
  recordsDropped : Nat := 0
  previousEpoch : CoordinatorEpoch := default
  previousBoot : BootIncarnation := default
  restartFenced : List InstanceId := []
  deriving DecidableEq, Repr

/-- `FabricRuntime` and its `Impl`. -/
structure FabricRuntime where
  config : RuntimeConfig
  state : RuntimeState := {}
  pending : List FabricEvent := []
  deliveries : BoundedHistory DeliveryRecord := {}
  store : Option Store := none
  closed : Bool := false
  stateDigest : Digest := default
  durableDigest : Digest := default
  recovery : RecoverySummary := {}
  deriving DecidableEq, Repr

/-- What the runtime leaves in the trace besides its file-system calls. -/
inductive Mark where
  /-- A runtime object was built, with a blank state. -/
  | started
  /-- The state of the loaded snapshot was taken over. -/
  | restored
  /-- `rotate` was called with this state. -/
  | copied (state : RuntimeState)
  /-- `append_event` returned success. -/
  | journaled (event : FabricEvent)
  /-- `apply_event` was called by `flush`. -/
  | applied (event : FabricEvent) (result : ApplyResult)
  /-- `apply_event` was called by `replay_event`. -/
  | replayed (event : FabricEvent) (result : ApplyResult)
  deriving DecidableEq, Repr

/-- The world of the runtime. -/
abbrev RuntimeWorld := World FileName Mark

/-- `accounting_u64`. -/
def accounting (n : Nat) : UInt64 := UInt64.ofNat n

/-! ## §2. Staging. -/

/-- `FabricRuntime::stage`. -/
def FabricRuntime.stage (rt : FabricRuntime) (event : FabricEvent) : Status × FabricRuntime :=
  if rt.closed then (refuse .storeClosed (txt "runtime is closed"), rt)
  else if !event.id.valid || !event.origin.valid || !event.originEpoch.valid then
    (refuse .invalidIdentity (txt "event identity is incomplete"), rt)
  else if !event.payloadDigest.isZero && !decide (event.payloadDigest = event.computePayloadDigest)
  then (refuse .invalidDigest (txt "event payload digest does not match its body"), rt)
  else
    match findDelivery rt.deliveries event with
    | some seen =>
      if seen.digest = eventDigest event then
        (refuse .duplicateSuppressed (txt "duplicate delivery suppressed"), rt)
      else
        (refuse .conflictingDuplicate
          (txt "same origin sequence delivered with different content"), rt)
    | none =>
      if event.instant ≤ rt.state.watermark then
        (refuse .lateEventRejected (txt "event is older than the released watermark"),
         { rt with state := { rt.state with
            truncations := rt.state.truncations.note (txt "ingest.late") 1 0
              .lateEventRejected } })
      else if rt.config.bounds.maxBatchEvents ≤ rt.pending.length then
        (refuse .queueFull (txt "reorder buffer is full"),
         { rt with state := { rt.state with
            truncations := rt.state.truncations.note (txt "ingest.pending")
              (accounting (rt.pending.length + 1)) (accounting rt.pending.length)
              .queueFull } })
      else (.success, { rt with pending := rt.pending ++ [event] })

/-! ## §3. Checkpoints. -/

/-- `FabricRuntime::checkpoint_locked`. -/
def FabricRuntime.checkpointLocked (rt : FabricRuntime) (w : RuntimeWorld) :
    Status × FabricRuntime × RuntimeWorld :=
  match rt.store with
  | none => (.success, rt, w)
  | some st =>
    let (rotated, st, w) :=
      st.rotate (encodeBinary RuntimeState.visit rt.state) (w.note (.copied rt.state))
    if !rotated.ok then (rotated, { rt with store := some st }, w)
    else
      (.success, { rt with store := some st, state := { rt.state with journaledEvents := 0 } }, w)

/-- `FabricRuntime::checkpoint`. -/
def FabricRuntime.checkpoint (rt : FabricRuntime) (w : RuntimeWorld) :
    Status × FabricRuntime × RuntimeWorld :=
  if rt.closed then (refuse .storeClosed (txt "runtime is closed"), rt, w)
  else rt.checkpointLocked w

/-- `FabricRuntime::close`, which is also what the destructor runs. -/
def FabricRuntime.close (rt : FabricRuntime) (w : RuntimeWorld) :
    Status × FabricRuntime × RuntimeWorld :=
  if rt.closed then (.success, rt, w)
  else
    match rt.store with
    | none => (.success, { rt with closed := true, pending := [] }, w)
    | some _ =>
      let (checkpointed, rt, w) := rt.checkpointLocked w
      let (storeClosed, st, w) := match rt.store with
        | some st => let (status, st, w) := st.close w; (status, some st, w)
        | none => (.success, none, w)
      (if !checkpointed.ok then checkpointed else storeClosed,
       { rt with store := st, closed := true, pending := [] }, w)

/-! ## §4. One turn of the flush loop. -/

/-- `append_event` on the runtime's store. -/
def FabricRuntime.append (rt : FabricRuntime) (st : Store) (event : FabricEvent)
    (w : RuntimeWorld) : Status × FabricRuntime × RuntimeWorld :=
  let (appended, st, w) := st.appendEvent event w
  (appended, { rt with store := some st }, w)

/-- The runtime once an append is counted. -/
def FabricRuntime.counted (rt : FabricRuntime) : FabricRuntime :=
  { rt with state := { rt.state with journaledEvents := rt.state.journaledEvents + 1 } }

/-- The end of the append of a turn: refused, or counted. -/
def finishAppend (event : FabricEvent) :
    Status × FabricRuntime × RuntimeWorld → Option Status × FabricRuntime × RuntimeWorld
  | (appended, rt, w) =>
    if !appended.ok then (some appended, rt, w) else (none, rt.counted, w.note (.journaled event))

/-- The append of a turn that found the journal full: rotate and try again. -/
def FabricRuntime.rotateAppend (rt : FabricRuntime) (event : FabricEvent) (w : RuntimeWorld) :
    Option Status × FabricRuntime × RuntimeWorld :=
  match rt.checkpointLocked w with
  | (rotated, rt, w) =>
    if !rotated.ok then (some rotated, rt, w)
    else
      match rt.store with
      | none => (none, rt, w)
      | some st => finishAppend event (rt.append st event w)

/-- The write-ahead append of a turn: the refusal that skips the event, if
there is one. -/
def FabricRuntime.journal (rt : FabricRuntime) (event : FabricEvent) (w : RuntimeWorld) :
    Option Status × FabricRuntime × RuntimeWorld :=
  match rt.store with
  | none => (none, rt, w)
  | some st =>
    match rt.append st event w with
    | (appended, rt, w) =>
      if appended.code = .boundExceeded then rt.rotateAppend event w
      else finishAppend event (appended, rt, w)

/-- Remembers a delivery; evictions are accounted in the ledger. -/
def deliver (deliveries : BoundedHistory DeliveryRecord) (ledger : TruncationLedger)
    (event : FabricEvent) : BoundedHistory DeliveryRecord × TruncationLedger :=
  let (evicted, deliveries) := deliveries.push (deliveryOf event)
  if 0 < evicted then
    (deliveries, ledger.note (txt "delivery.window")
      (accounting (evicted + deliveries.entries.length))
      (accounting deliveries.entries.length) .duplicateWindowEvicted)
  else (deliveries, ledger)

/-- The runtime once the delivery is remembered. -/
def FabricRuntime.delivered (rt : FabricRuntime) (event : FabricEvent) : FabricRuntime :=
  let (deliveries, truncations) := deliver rt.deliveries rt.state.truncations event
  { rt with deliveries, state := { rt.state with truncations } }

/-- The larger of the watermark and the event's instant. -/
def raiseWatermark (s : RuntimeState) (event : FabricEvent) : RuntimeState :=
  if s.watermark < event.instant then { s with watermark := event.instant } else s

/-- The clock follows the events; health is recomputed when it moves. -/
def followClock (s : RuntimeState) (event : FabricEvent) : RuntimeState :=
  if s.clock < event.instant then refreshHealth { s with clock := event.instant } else s

/-- The generations in force, stamped on an explanation that carries none. -/
def stampExplanation (d : Decision) (e : Explanation) : Explanation :=
  { e with
    topology := if e.topology.valid then e.topology else d.topology
    capability := if e.capability.valid then e.capability else d.capability
    policy := if e.policy.valid then e.policy else d.policy
    deployment := if e.deployment.valid then e.deployment else d.deployment
    evidenceDigest := if e.evidenceDigest.isZero then d.evidenceDigest else e.evidenceDigest }

/-- The decision without its explanations. -/
def decisionHeader (s : RuntimeState) (event : FabricEvent) (applied : ApplyResult) : Decision :=
  { operation := match (StrongId.parse event.id.text : Result OperationId) with
      | .ok operation => if event.id.valid then operation else default
      | .error _ => default
    kind := applied.kind
    accepted := applied.accepted
    primary := applied.code
    instant := event.instant
    epoch := s.epoch
    boot := s.boot
    topology := s.topologyGeneration
    capability := s.capabilityGeneration
    policy := s.policyGeneration
    deployment := s.deploymentGeneration
    evidenceDigest := event.computePayloadDigest
    policyDigest := s.policy.policyDigest }

/-- The truncation record of a decision with too many explanations. -/
def explanationTruncation (count limit : Nat) : TruncationRecord :=
  { container := txt "decision.explanations", requested := accounting count,
    accepted := accounting limit, dropped := accounting (count - limit),
    reason := .historyTruncated }

/-- The decision of one event. -/
def decisionOf (s : RuntimeState) (event : FabricEvent) (applied : ApplyResult)
    (maxExplanations : Nat) : Decision :=
  let header := decisionHeader s event applied
  let explanations := sortExplanations ((applied.explanations
    ++ [makeExplanation applied.code applied.kind event.id.text (eventKindName event)]).map
      (stampExplanation header))
  let decision := { header with
    explanations := explanations.take maxExplanations
    truncations := if maxExplanations < explanations.length
      then [explanationTruncation explanations.length maxExplanations] else [] }
  { decision with decisionDigest := canonicalDigest Decision.visit decision }

/-- Appends a decision, dropping the oldest one when the log is full. -/
def recordDecision (s : RuntimeState) (decision : Decision) (maxRetained : Nat) : RuntimeState :=
  if maxRetained ≤ s.decisions.length then
    { s with
      decisions := s.decisions.tail ++ [decision]
      truncations := s.truncations.note (txt "decision.history") (accounting (maxRetained + 1))
        (accounting maxRetained) .historyTruncated }
  else { s with decisions := s.decisions ++ [decision] }

/-- What a turn does to the state once the event is journaled and delivered. -/
def advanceState (s : RuntimeState) (event : FabricEvent) (bounds : RuntimeBounds)
    (weights : PlacementWeights) : RuntimeState :=
  let (applied, s) := applyEvent s event bounds weights
  let s := followClock (raiseWatermark s event) event
  recordDecision s (decisionOf s event applied bounds.maxExplanations) bounds.maxDecisionsRetained

/-- Counts an outcome in the report. -/
def BatchReport.count (r : BatchReport) (outcome : EventOutcome) : BatchReport :=
  let r := { r with outcomes := r.outcomes ++ [outcome] }
  if !isInformational outcome.code then { r with refused := r.refused + 1 }
  else if outcome.applied then { r with applied := r.applied + 1 }
  else { r with suppressed := r.suppressed + 1 }

/-- The outcome of an event whose origin sequence is remembered. -/
def duplicateOutcome (event : FabricEvent) (seen : DeliveryRecord) : EventOutcome :=
  if seen.digest = eventDigest event then
    { id := event.id, code := .duplicateSuppressed,
      detail := txt "duplicate delivery suppressed" }
  else
    { id := event.id, code := .conflictingDuplicate,
      detail := txt "same origin sequence with different content" }

/-- An append that failed counts as refused whatever its code. -/
def BatchReport.refusedBy (r : BatchReport) (event : FabricEvent) (status : Status) : BatchReport :=
  { r with
    refused := r.refused + 1
    outcomes := r.outcomes ++ [{ id := event.id, code := status.code, detail := status.detail }] }

/-- One turn of the loop of `flush`. -/
def flushEvent (rt : FabricRuntime) (report : BatchReport) (event : FabricEvent)
    (w : RuntimeWorld) : FabricRuntime × BatchReport × RuntimeWorld :=
  match findDelivery rt.deliveries event with
  | some seen => (rt, report.count (duplicateOutcome event seen), w)
  | none =>
    match rt.journal event w with
    | (some refusal, rt, w) => (rt, report.refusedBy event refusal, w)
    | (none, rt, w) =>
      let rt := rt.delivered event
      let applied := (applyEvent rt.state event rt.config.bounds rt.config.weights).1
      ({ rt with state := advanceState rt.state event rt.config.bounds rt.config.weights },
       report.count { id := event.id, code := applied.code, applied := applied.applied,
                      detail := applied.detail },
       w.note (.applied event applied))

/-! ## §5. Whole flushes. -/

/-- The events a flush releases, in key order; the sort is stable. -/
def releasedEvents (pending : List FabricEvent) (upto : LogicalInstant) : List FabricEvent :=
  (pending.filter (fun e => decide (e.instant ≤ upto))).insertionSort
    (fun a b => eventKey a ≤ eventKey b)

/-- The events a flush keeps. -/
def retainedEvents (pending : List FabricEvent) (upto : LogicalInstant) : List FabricEvent :=
  pending.filter (fun e => !decide (e.instant ≤ upto))

/-- `flush` up to its loop: the events to go through, and the runtime without
them. -/
def FabricRuntime.flushBegin (rt : FabricRuntime) (upto : LogicalInstant) :
    Result (List FabricEvent × FabricRuntime) :=
  if rt.closed then .error (refuse .storeClosed (txt "runtime is closed"))
  else .ok (releasedEvents rt.pending upto, { rt with pending := retainedEvents rt.pending upto })

/-- The loop of `flush`. -/
def flushLoop : List FabricEvent → FabricRuntime × BatchReport × RuntimeWorld →
    FabricRuntime × BatchReport × RuntimeWorld
  | [], acc => acc
  | event :: rest, (rt, report, w) => flushLoop rest (flushEvent rt report event w)

/-- `TruncationLedger::total_dropped`. -/
def TruncationLedger.totalDropped (l : TruncationLedger) : UInt64 :=
  l.records.foldl (fun total row => saturatingAdd total row.dropped) 0

/-- `flush` after its loop. -/
def FabricRuntime.flushEnd (rt : FabricRuntime) (report : BatchReport) :
    BatchReport × FabricRuntime :=
  let state := refreshHealth rt.state
  let stateDigest := canonicalDigest RuntimeState.visit state
  ({ report with
      evicted := state.truncations.totalDropped
      truncations := state.truncations.records
      stateDigest
      primary := ((report.outcomes.find? (fun o => !isInformational o.code)).map
        EventOutcome.code).getD report.primary },
   { rt with
      state
      stateDigest
      durableDigest := canonicalDigest PlacementProjection.visit (placementProjection state) })

/-- `FabricRuntime::flush`. -/
def FabricRuntime.flush (rt : FabricRuntime) (upto : LogicalInstant) (w : RuntimeWorld) :
    Result BatchReport × FabricRuntime × RuntimeWorld :=
  match rt.flushBegin upto with
  | .error refusal => (.error refusal, rt, w)
  | .ok (released, rt) =>
    let (rt, report, w) := flushLoop released (rt, { upto }, w)
    let (report, rt) := rt.flushEnd report
    (.ok report, rt, w)

/-! ## §6. Submitting a batch. -/

/-- What the staging loop of `submit` collects. -/
structure Staging where
  runtime : FabricRuntime
  upto : LogicalInstant := {}
  failures : List EventOutcome := []
  duplicates : List EventOutcome := []

/-- One turn of the staging loop. -/
def Staging.step (s : Staging) (event : FabricEvent) : Staging :=
  let upto := if s.upto < event.instant then event.instant else s.upto
  let (staged, runtime) := s.runtime.stage event
  let outcome : EventOutcome := { id := event.id, code := staged.code, detail := staged.detail }
  if staged.code = .duplicateSuppressed then
    { s with runtime, upto, duplicates := s.duplicates ++ [outcome] }
  else if !staged.ok then { s with runtime, upto, failures := s.failures ++ [outcome] }
  else { s with runtime, upto }

/-- The report of a batch with the outcomes of its staging. -/
def mergeReport (report : BatchReport) (s : Staging) : BatchReport :=
  let outcomes := report.outcomes ++ s.duplicates ++ s.failures
  { report with
    suppressed := report.suppressed + accounting s.duplicates.length
    refused := report.refused + accounting s.failures.length
    primary := s.failures.foldl (fun primary o =>
      if isInformational primary then o.code else primary) report.primary
    outcomes := if s.failures = [] ∧ s.duplicates = [] then outcomes
      else outcomes.insertionSort (fun a b => a.id ≤ b.id) }

/-- `FabricRuntime::submit`. -/
def FabricRuntime.submit (rt : FabricRuntime) (events : List FabricEvent) (w : RuntimeWorld) :
    Result BatchReport × FabricRuntime × RuntimeWorld :=
  if rt.config.bounds.maxBatchEvents < events.length then
    (.error (refuse .batchTooLarge (txt "batch exceeds the configured bound")), rt, w)
  else
    let staging := events.foldl Staging.step { runtime := rt }
    match staging.runtime.flush staging.upto w with
    | (.error refusal, rt, w) => (.error refusal, rt, w)
    | (.ok report, rt, w) => (.ok (mergeReport report staging), rt, w)

end DpuFabric
