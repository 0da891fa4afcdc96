/-
  Runtime.Open — OPENING A RUNTIME AND REPLAYING ITS JOURNAL (`engine/runtime.cpp`).

  `open` rebuilds the state from the snapshot, replays the journal records
  whose instant lies above the snapshot's watermark, fences everything and
  writes a new base.  A replay is NOT a flush: it does not follow the clock,
  refreshes no health and takes no decision.  When `open` refuses after the
  store is held, the runtime object is destroyed, and its destructor closes
  it like any other runtime, checkpoint included.
-/
import DpuFabric.Runtime.Flush

namespace DpuFabric

open Lib

/-! ## §1. Replay. -/

/-- The state after one replayed event. -/
def replayState (s : RuntimeState) (event : FabricEvent) (bounds : RuntimeBounds)
    (weights : PlacementWeights) : RuntimeState :=
  raiseWatermark (applyEvent s event bounds weights).2 event

/-- `replay_event`; a remembered delivery is passed over. -/
def FabricRuntime.replayEvent (rt : FabricRuntime) (event : FabricEvent) (w : RuntimeWorld) :
    FabricRuntime × RuntimeWorld :=
  match findDelivery rt.deliveries event with
  | some _ => (rt, w)
  | none =>
    let rt := rt.delivered event
    ({ rt with state := replayState rt.state event rt.config.bounds rt.config.weights },
     w.note (.replayed event (applyEvent rt.state event rt.config.bounds rt.config.weights).1))

/-- The sequence limit that `open` passes to the decoder. -/
def RuntimeConfig.decodeLimit (config : RuntimeConfig) : Nat := config.bounds.maxInstances + 1024

/-- The replay loop of `open`: the refusal that ends it, if there is one. -/
def replayRecords (snapshotWatermark : LogicalInstant) :
    List (List UInt8) → FabricRuntime → RuntimeWorld → Option Status × FabricRuntime × RuntimeWorld
  | [], rt, w => (none, rt, w)
  | record :: rest, rt, w =>
    match decodeBinary FabricEvent.visit rt.config.decodeLimit record with
    | .error refusal =>
      (some (refuse .storeCorrupt (txt "journal record could not be decoded: "
        ++ refusal.message)), rt, w)
    | .ok event =>
      if event.instant ≤ snapshotWatermark then
        -- already covered by the snapshot
        replayRecords snapshotWatermark rest rt w
      else
        let (rt, w) := rt.replayEvent event w
        let recovery := { rt.recovery with
          journalRecordsReplayed := rt.recovery.journalRecordsReplayed + 1 }
        replayRecords snapshotWatermark rest { rt with recovery } w

/-! ## §2. Restart. -/

/-- The instance claimed liveness before the restart. -/
def InstanceState.claimedLiveness (i : InstanceState) : Bool :=
  match i.state with
  | .verified | .acknowledged | .deploying | .authorized | .planned | .unverified => true
  | _ => false

/-- `fence_after_recovery`. -/
def fenceAfterRecovery (s : RuntimeState) : RuntimeState :=
  { s with
    instances := s.instances.map (fun i => fenceInstance i s.clock .restartFenced)
    restartFenced := (s.instances.filter InstanceState.claimedLiveness).map InstanceState.id }

/-- `Counter::next`. -/
def Counter.next {tag : CounterTag} (c : Counter tag) : Result (Counter tag) :=
  match checkedAdd c.value 1 with
  | some v => .ok ⟨v⟩
  | none => .error (refuse .arithmeticOverflow (txt "counter exhausted"))

/-- The boot incarnation of the new process. -/
def nextBoot (config : RuntimeConfig) (s : RuntimeState) : BootIncarnation :=
  let boot := if s.boot < config.boot then config.boot else s.boot
  let candidate := match boot.next with
    | .ok next => next
    | .error _ => boot.saturatingNext
  if candidate < boot then boot else candidate

/-- The state of a recovered runtime, before its first checkpoint. -/
def restartState (config : RuntimeConfig) (s : RuntimeState) : RuntimeState :=
  let boot := nextBoot config s
  let epoch := if s.epoch < config.epoch then config.epoch else s.epoch
  fenceAfterRecovery { s with boot, epoch, fences := s.fences.reset epoch boot }

/-! ## §3. Recovery. -/

/-- The blank state of a configuration. -/
def initialState (config : RuntimeConfig) : RuntimeState :=
  { storeId := config.storeId
    coordinator := config.coordinator
    epoch := config.epoch
    boot := config.boot
    fences := FenceIssuer.reset {} config.epoch config.boot }

/-- The runtime object as `open` builds it. -/
def blankRuntime (config : RuntimeConfig) : FabricRuntime :=
  { config
    state := initialState config
    deliveries := { capacity := config.bounds.maxDuplicateWindow } }

/-- The digests that end every successful `open`. -/
def FabricRuntime.digested (rt : FabricRuntime) : FabricRuntime :=
  { rt with
    stateDigest := canonicalDigest RuntimeState.visit rt.state
    durableDigest := canonicalDigest PlacementProjection.visit (placementProjection rt.state) }

/-- The state of a decoded snapshot, or the refusal. -/
def restoreSnapshot (config : RuntimeConfig) (payload : List UInt8) : Result RuntimeState :=
  match decodeBinary RuntimeState.visit config.decodeLimit payload with
  | .error refusal =>
    .error (refuse .storeCorrupt (txt "snapshot payload could not be decoded: "
      ++ refusal.message))
  | .ok restored =>
    if restored.storeId.valid ∧ restored.storeId ≠ config.storeId then
      .error (refuse .storeSemanticsIncompatible (txt "store identity does not match"))
    else .ok { restored with fences := restored.fences.reset restored.epoch restored.boot }

/-- What a restored snapshot keeps of the state it was taken of. -/
def RuntimeState.restored (s : RuntimeState) : RuntimeState :=
  { s.visited with fences := s.fences.reset s.epoch s.boot }

/-- Takes the snapshot over, if there is one. -/
def FabricRuntime.takeSnapshot (rt : FabricRuntime) (payload : List UInt8) (w : RuntimeWorld) :
    Option Status × FabricRuntime × RuntimeWorld :=
  if payload = [] then (none, rt, w)
  else
    match restoreSnapshot rt.config payload with
    | .error refusal => (some refusal, rt, w)
    | .ok state =>
      (none, { rt with
        state
        recovery := { rt.recovery with
          previousEpoch := state.epoch, previousBoot := state.boot
          recoveredFromStore := true } }, w.note .restored)

/-- The recovered runtime before its first checkpoint. -/
def FabricRuntime.restarted (rt : FabricRuntime) (classification : RecoveryClass) :
    FabricRuntime :=
  let state := restartState rt.config rt.state
  { rt with
    state
    recovery := { rt.recovery with
      restartFenced := state.restartFenced
      classification :=
        if classification = RecoveryClass.emptyStore then .cleanReopen else classification } }

/-- The end of `open` for a store that held something. -/
def FabricRuntime.restart (rt : FabricRuntime) (classification : RecoveryClass)
    (w : RuntimeWorld) : Option Status × FabricRuntime × RuntimeWorld :=
  let (checkpointed, rt, w) := (rt.restarted classification).checkpoint w
  if !checkpointed.ok then (some checkpointed, rt, w) else (none, rt.digested, w)

/-- The end of `open` for a store that held nothing. -/
def FabricRuntime.startFresh (rt : FabricRuntime) : FabricRuntime :=
  { rt with state := { rt.state with
      fences := rt.state.fences.reset rt.state.epoch rt.state.boot } }.digested

/-- The runtime with its store and the store's account of the files. -/
def FabricRuntime.holding (rt : FabricRuntime) (st : Store) (recovery : StoreRecovery) :
    FabricRuntime :=
  { rt with
    store := some st
    recovery := { rt.recovery with
      classification := recovery.classification
      tornTail := decide (recovery.classification = RecoveryClass.tornTailTruncated)
      recordsDropped := recovery.recordsDropped } }

/-- `open` from `Store::load` on. -/
def FabricRuntime.recover (rt : FabricRuntime) (st : Store) (w : RuntimeWorld) :
    Option Status × FabricRuntime × RuntimeWorld :=
  match st.load w with
  | (.error refusal, st, w) => (some refusal, { rt with store := some st }, w)
  | (.ok loaded, st, w) =>
    match (rt.holding st loaded.recovery).takeSnapshot loaded.snapshot w with
    | (some refusal, rt, w) => (some refusal, rt, w)
    | (none, rt, w) =>
      match replayRecords rt.state.watermark loaded.records rt w with
      | (some refusal, rt, w) => (some refusal, rt, w)
      | (none, rt, w) =>
        if loaded.snapshot ≠ [] ∨ loaded.records ≠ [] then
          rt.restart loaded.recovery.classification w
        else (none, rt.startFresh, w)

/-! ## §4. Opening. -/

/-- The checks on a configuration. -/
def RuntimeConfig.refusal (config : RuntimeConfig) : Option Status :=
  if !config.bounds.validate.ok then some config.bounds.validate
  else if !config.storeId.valid then
    some (refuse .invalidIdentity (txt "store identity is required"))
  else if !config.coordinator.valid then
    some (refuse .invalidIdentity (txt "coordinator identity is required"))
  else if !config.epoch.valid then
    some (refuse .invalidIdentity (txt "coordinator epoch is required"))
  else if !config.boot.valid then
    some (refuse .invalidIdentity (txt "boot incarnation is required"))
  else none

theorem RuntimeConfig.bounds_ok {config : RuntimeConfig} (h : config.refusal = none) :
    config.bounds.validate.ok = true := by
  unfold RuntimeConfig.refusal at h
  split at h
  · simp at h
  · next hok => simpa using hok

/-- The options of the store of a configuration. -/
def RuntimeConfig.storeOptions (config : RuntimeConfig) (directory : Text) : StoreOptions :=
  { directory
    maxJournalBytes := config.bounds.maxJournalBytes
    maxRecordBytes := config.bounds.maxFrameBytes
    fsync := config.fsyncJournal }

/-- `FabricRuntime::open`. -/
def FabricRuntime.open (config : RuntimeConfig) (w : RuntimeWorld) :
    Result FabricRuntime × RuntimeWorld :=
  match config.refusal with
  | some refusal => (.error refusal, w)
  | none =>
    let w := w.note .started
    match config.storeDirectory with
    | none => (.ok (blankRuntime config).digested, w)
    | some directory =>
      match Store.open (config.storeOptions directory) w with
      | (.error refusal, w) => (.error refusal, w)
      | (.ok st, w) =>
        match (blankRuntime config).recover st w with
        | (none, rt, w) => (.ok rt, w)
        | (some refusal, rt, w) =>
          -- the destructor of the runtime that is given up
          (.error refusal, (rt.close w).2.2)

end DpuFabric
