/-
  Transport.Server — THE FRAMED-PROTOCOL SERVER (`transport/frame.hpp`,
  `transport/server.cpp`).

  `dispatch` answers one request frame from the runtime; `Connection` is what
  `handle_connection` reads and writes, and its loop is the reading loop of
  `Lib.Stream` over `decode_frame`.  What a connection does not decide itself
  is given by its `Host`: the JSON text of an export, what the other workers
  did to the shared runtime before a request, and which sends fail.
-/
import DpuFabric.Engine.RoundTrip
import DpuFabric.Runtime.Flush
import DpuFabric.Transport.Frame

namespace DpuFabric

/-! ## §1. The runtime's answers. -/

def EventOutcome.visit : Visit EventOutcome :=
  .object "EventOutcome" (by decide)
    (.field "id" .id <| .field "code" (.enum ReasonCode.names) <| .field "applied" .bool <|
     .last "detail" .text)
    (fun v => (v.id, v.code, v.applied, v.detail))
    (fun (id, code, applied, detail) => { id, code, applied, detail })

def BatchReport.visit : Visit BatchReport :=
  .object "BatchReport" (by decide)
    (.field "upto" LogicalInstant.visit <| .field "applied" .u64 <| .field "suppressed" .u64 <|
     .field "refused" .u64 <| .field "evicted" .u64 <| .field "state_digest" .digest <|
     .field "outcomes" (.vec EventOutcome.visit) <|
     .field "truncations" (.vec TruncationRecord.visit) <|
     .last "primary" (.enum ReasonCode.names))
    (fun v => (v.upto, v.applied, v.suppressed, v.refused, v.evicted, v.stateDigest, v.outcomes,
      v.truncations, v.primary))
    (fun (upto, applied, suppressed, refused, evicted, stateDigest, outcomes, truncations,
        primary) =>
      { upto, applied, suppressed, refused, evicted, stateDigest, outcomes, truncations, primary })

def RecoverySummary.visit : Visit RecoverySummary :=
  .object "RecoverySummary" (by decide)
    (.field "classification" (.enum RecoveryClass.names) <|
     .field "recovered_from_store" .bool <| .field "torn_tail" .bool <|
     .field "journal_records_replayed" .u64 <|
     .field "records_dropped" (.unsigned (2 ^ 64 - 1)) <| .field "previous_epoch" .counter <|
     .field "previous_boot" .counter <| .last "restart_fenced" (.vec .id))
    (fun v => (v.classification, v.recoveredFromStore, v.tornTail, v.journalRecordsReplayed,
      v.recordsDropped, v.previousEpoch, v.previousBoot, v.restartFenced))
    (fun (classification, recoveredFromStore, tornTail, journalRecordsReplayed, recordsDropped,
        previousEpoch, previousBoot, restartFenced) =>
      { classification, recoveredFromStore, tornTail, journalRecordsReplayed, recordsDropped,
        previousEpoch, previousBoot, restartFenced })

/-- `FabricRuntime::state_digest`: of the state as it is now. -/
def FabricRuntime.readStateDigest (rt : FabricRuntime) : Digest :=
  canonicalDigest RuntimeState.visit rt.state

/-- `FabricRuntime::durable_digest`. -/
def FabricRuntime.readDurableDigest (rt : FabricRuntime) : Digest :=
  canonicalDigest PlacementProjection.visit (placementProjection rt.state)

/-- `FabricRuntime::explain_last_decision`. -/
def FabricRuntime.explainLastDecision (rt : FabricRuntime) : List Explanation :=
  (rt.state.decisions.getLast?.map Decision.explanations).getD []

/-- `FabricRuntime::explain_instance`. -/
def FabricRuntime.explainInstance (rt : FabricRuntime) (id : InstanceId) : List Explanation :=
  match findInstance rt.state.instances id with
  | none => [makeExplanation .instanceNotFound .lifecycle id.text (txt "no such instance")]
  | some (_, found) =>
    sortExplanations (found.reasons ++ [makeExplanation .ok .lifecycle id.text
      (txt "state " ++ enumName LifecycleState.names found.state ++ txt " health "
        ++ enumName HealthState.names found.health
        ++ (if found.healthFresh then txt " (fresh)" else txt " (not fresh)"))])

namespace Transport

/-! ## §2. Payloads. -/

/-- `RefusalPayload`. -/
structure RefusalPayload where
  code : ReasonCode := .ok
  detail : Text := []

def RefusalPayload.visit : Visit RefusalPayload :=
  .object "RefusalPayload" (by decide)
    (.field "code" (.enum ReasonCode.names) <| .last "detail" .text)
    (fun v => (v.code, v.detail)) (fun (code, detail) => { code, detail })

/-- `PingRequest`. -/
structure PingRequest where
  nonce : Text := []

def PingRequest.visit : Visit PingRequest :=
  .object "PingRequest" (by decide) (.last "nonce" .text) (fun v => v.nonce) (fun nonce => { nonce })

/-- `PingResponse`. -/
structure PingResponse where
  nonce : Text := []
  product : Text := []
  version : Text := []

def PingResponse.visit : Visit PingResponse :=
  .object "PingResponse" (by decide)
    (.field "nonce" .text <| .field "product" .text <| .last "version" .text)
    (fun v => (v.nonce, v.product, v.version))
    (fun (nonce, product, version) => { nonce, product, version })

/-- `SubmitRequest`. -/
structure SubmitRequest where
  events : List FabricEvent := []

def SubmitRequest.visit : Visit SubmitRequest :=
  .object "SubmitRequest" (by decide) (.last "events" (.vec FabricEvent.visit))
    (fun v => v.events) (fun events => { events })

/-- `SubmitResponse`. -/
structure SubmitResponse where
  report : BatchReport := {}
  stateDigest : Digest := default
  durableDigest : Digest := default

def SubmitResponse.visit : Visit SubmitResponse :=
  .object "SubmitResponse" (by decide)
    (.field "report" BatchReport.visit <| .field "state_digest" .digest <|
     .last "durable_digest" .digest)
    (fun v => (v.report, v.stateDigest, v.durableDigest))
    (fun (report, stateDigest, durableDigest) => { report, stateDigest, durableDigest })

/-- `QueryResponse`. -/
structure QueryResponse where
  stateDigest : Digest := default
  durableDigest : Digest := default
  instances : UInt64 := 0
  staged : UInt64 := 0
  recovery : RecoverySummary := {}

def QueryResponse.visit : Visit QueryResponse :=
  .object "QueryResponse" (by decide)
    (.field "state_digest" .digest <| .field "durable_digest" .digest <|
     .field "instances" .u64 <| .field "staged" .u64 <| .last "recovery" RecoverySummary.visit)
    (fun v => (v.stateDigest, v.durableDigest, v.instances, v.staged, v.recovery))
    (fun (stateDigest, durableDigest, instances, staged, recovery) =>
      { stateDigest, durableDigest, instances, staged, recovery })

/-- `ExplainRequest`. -/
structure ExplainRequest where
  hasInstance : Bool := false
  instanceId : InstanceId := default

def ExplainRequest.visit : Visit ExplainRequest :=
  .object "ExplainRequest" (by decide) (.field "has_instance" .bool <| .last "instance" .id)
    (fun v => (v.hasInstance, v.instanceId))
    (fun (hasInstance, instanceId) => { hasInstance, instanceId })

/-- `ExplainResponse`. -/
structure ExplainResponse where
  explanations : List Explanation := []

def ExplainResponse.visit : Visit ExplainResponse :=
  .object "ExplainResponse" (by decide) (.last "explanations" (.vec Explanation.visit))
    (fun v => v.explanations) (fun explanations => { explanations })

/-- `ExportRequest`. -/
structure ExportRequest where
  pretty : Bool := true

def ExportRequest.visit : Visit ExportRequest :=
  .object "ExportRequest" (by decide) (.last "pretty" .bool) (fun v => v.pretty)
    (fun pretty => { pretty })

/-- `ExportResponse`. -/
structure ExportResponse where
  document : Text := []

def ExportResponse.visit : Visit ExportResponse :=
  .object "ExportResponse" (by decide) (.last "document" .text) (fun v => v.document)
    (fun document => { document })

/-- `ShutdownResponse`. -/
structure ShutdownResponse where
  instances : UInt64 := 0
  stateDigest : Digest := default

def ShutdownResponse.visit : Visit ShutdownResponse :=
  .object "ShutdownResponse" (by decide)
    (.field "instances" .u64 <| .last "state_digest" .digest)
    (fun v => (v.instances, v.stateDigest))
    (fun (instances, stateDigest) => { instances, stateDigest })

/-! ## §3. The payloads are archived types. -/

instance : Visit.Named RecoveryClass.names :=
  .of_rows

instance : Archived EventOutcome.visit := archivedObject

instance : Archived BatchReport.visit := archivedObject

instance : Archived RecoverySummary.visit := archivedObject

instance : Archived RefusalPayload.visit := archivedObject

instance : Archived PingRequest.visit := archivedObject

instance : Archived PingResponse.visit := archivedObject

instance : Archived SubmitRequest.visit := archivedObject

instance : Archived SubmitResponse.visit := archivedObject

instance : Archived QueryResponse.visit := archivedObject

instance : Archived ExplainRequest.visit := archivedObject

instance : Archived ExplainResponse.visit := archivedObject

instance : Archived ExportRequest.visit := archivedObject

instance : Archived ExportResponse.visit := archivedObject

instance : Archived ShutdownResponse.visit := archivedObject

/-! ## §4. Dispatch. -/

/-- `ServerOptions`, as far as a connection reads them. -/
structure ServerOptions where
  maxFrameBytes : Nat := 1024 * 1024
  exportAllowed : Bool := true

/-- The shared runtime and the world it runs in. -/
structure Served where
  runtime : FabricRuntime
  world : RuntimeWorld := {}

/-- What a connection does not decide itself. -/
structure Host where
  options : ServerOptions := {}
  /-- `export_json().to_text(pretty)`. -/
  document : FabricRuntime → Bool → Text
  /-- What the other workers do to the runtime before the n-th request here. -/
  others : Nat → Served → Served
  /-- Whether the n-th `send_all` of the connection fails. -/
  sendFails : Nat → Bool

/-- A response with a status and a payload. -/
def Frame.reply (f : Frame) {α : Type} (status : ResponseStatus) (c : Visit α) (v : α) : Frame :=
  { f.setStatus status with payload := encodeBinary c v }

/-- A refusal with a code and a detail. -/
def Frame.refusal (f : Frame) (code : ReasonCode) (detail : Text) : Frame :=
  f.reply .refused RefusalPayload.visit { code, detail }

/-- `decode_binary<T>(request.payload)`, or the refusal of the request. -/
def withBody {α : Type} (c : Visit α) (request response : Frame) (s : Served)
    (run : α → Frame × Served) : Frame × Served :=
  match decodeBinary c Visit.maxDecodedSequence request.payload with
  | .error status => (response.refusal status.code status.detail, s)
  | .ok body => run body

/-- `Server::Impl::dispatch`: the response, whether the server shuts down
after it, and the runtime. -/
def dispatch (host : Host) (s : Served) (request : Frame) : Frame × Bool × Served :=
  let response : Frame :=
    { ({} : Frame) with op := request.op, requestId := request.requestId }
  match request.op with
  | .ping =>
    let (response, s) := withBody PingRequest.visit request response s fun body =>
      (response.reply .ok PingResponse.visit
        { nonce := body.nonce, product := txt "DPU Service Fabric", version := txt "1.0.0" }, s)
    (response, false, s)
  | .submit =>
    let (response, s) := withBody SubmitRequest.visit request response s fun body =>
      match s.runtime.submit body.events s.world with
      | (.error status, runtime, world) =>
        (response.refusal status.code status.detail, { runtime, world })
      | (.ok report, runtime, world) =>
        (response.reply .ok SubmitResponse.visit
          { report, stateDigest := runtime.readStateDigest,
            durableDigest := runtime.readDurableDigest }, { runtime, world })
    (response, false, s)
  | .query =>
    (response.reply .ok QueryResponse.visit
      { stateDigest := s.runtime.readStateDigest, durableDigest := s.runtime.readDurableDigest,
        instances := .ofNat s.runtime.state.instances.length,
        staged := .ofNat s.runtime.pending.length, recovery := s.runtime.recovery }, false, s)
  | .explain =>
    let (response, s) := withBody ExplainRequest.visit request response s fun body =>
      (response.reply .ok ExplainResponse.visit
        { explanations := if body.hasInstance then s.runtime.explainInstance body.instanceId
            else s.runtime.explainLastDecision }, s)
    (response, false, s)
  | .exportState =>
    let response := match decodeBinary ExportRequest.visit Visit.maxDecodedSequence
        request.payload with
      | .error status => response.refusal status.code (txt "export is refused by server policy")
      | .ok body =>
        if !host.options.exportAllowed then
          response.refusal .unsupportedOperation (txt "export is refused by server policy")
        else
          let document := host.document s.runtime body.pretty
          if host.options.maxFrameBytes / 2 < document.length then
            response.refusal .frameOversized (txt "export exceeds the frame bound")
          else response.reply .ok ExportResponse.visit { document }
    (response, false, s)
  | .shutdown =>
    (response.reply .ok ShutdownResponse.visit
      { instances := .ofNat s.runtime.state.instances.length,
        stateDigest := s.runtime.readStateDigest }, true, s)

/-! ## §5. The connection loop. -/

/-- `ServerStats`, as far as a connection writes them. -/
structure ServerStats where
  requests : UInt64 := 0
  refusals : UInt64 := 0
  framesRejected : UInt64 := 0
  connectionsCancelled : UInt64 := 0
  shutdownRequested : Bool := false
  deriving DecidableEq, Repr

/-- The counters once a request is answered. -/
def ServerStats.answered (stats : ServerStats) (response : Frame) : ServerStats :=
  let stats := { stats with requests := stats.requests + 1 }
  if response.status ≠ ResponseStatus.ok.raw then { stats with refusals := stats.refusals + 1 }
  else stats

/-- What `handle_connection` changes, with a record of the requests that
reached `dispatch` and of the bytes that were sent. -/
structure Connection where
  served : Served
  stats : ServerStats := {}
  stopping : Bool := false
  dispatched : List Frame := []
  sent : List (List UInt8) := []
  sends : Nat := 0

/-- One `send_all`. -/
def Connection.send (host : Host) (c : Connection) (bytes : List UInt8) : Bool × Connection :=
  if host.sendFails c.sends then (false, { c with sends := c.sends + 1 })
  else (true, { c with sent := c.sent ++ [bytes], sends := c.sends + 1 })

/-- The request of a frame: dispatched and counted. -/
def Connection.request (host : Host) (c : Connection) (frame : Frame) :
    Frame × Bool × Connection :=
  let (response, shutdown, served) :=
    dispatch host (host.others c.dispatched.length c.served) frame
  (response, shutdown, { c with
    served, stats := c.stats.answered response, dispatched := c.dispatched ++ [frame] })

/-- The response to a request: sent, and whether the loop ends. -/
def Connection.respond (host : Host) (c : Connection) (response : Frame) (shutdown : Bool) :
    Connection × Bool :=
  match encodeFrame response host.options.maxFrameBytes with
  | .error _ =>
    ({ c with stats := { c.stats with framesRejected := c.stats.framesRejected + 1 } }, true)
  | .ok bytes =>
    match c.send host bytes with
    | (false, c) =>
      ({ c with stats := { c.stats with
          connectionsCancelled := c.stats.connectionsCancelled + 1 } }, true)
    | (true, c) =>
      if shutdown then
        ({ c with stats := { c.stats with shutdownRequested := true }, stopping := true }, true)
      else (c, false)

/-- A frame that was received whole. -/
def Connection.handle (host : Host) (c : Connection) (frame : Frame) : Connection × Bool :=
  let (response, shutdown, c) := c.request host frame
  c.respond host response shutdown

/-- A framing violation: an error frame is sent if it can be, and the
connection is dropped. -/
def Connection.violation (host : Host) (c : Connection) (status : Status) : Connection :=
  let refusal := ({} : Frame).reply .error RefusalPayload.visit
    { code := status.code, detail := status.detail }
  let c := match encodeFrame refusal host.options.maxFrameBytes with
    | .error _ => c
    | .ok bytes => (c.send host bytes).2
  { c with stats := { c.stats with
      framesRejected := c.stats.framesRejected + 1
      connectionsCancelled := c.stats.connectionsCancelled + 1 } }

/-- The peer is gone. -/
def Connection.cancelled (c : Connection) : Connection :=
  { c with stats := { c.stats with connectionsCancelled := c.stats.connectionsCancelled + 1 } }

/-- What the loop does at each answer of the decoder. -/
def connectionHandlers (host : Host) : Lib.Handlers UInt8 Frame Status Connection where
  handle c frame := c.handle host frame
  refuse c status := c.violation host status
  close c rest := if rest.isEmpty then c else c.cancelled
  reset c := c.cancelled

/-- The size of `incoming`, the most one `recv_some` returns. -/
def receiveBytes : Nat := 16384

/-- The decoder of a server. -/
def Host.decode (host : Host) (buffer : List UInt8) : Lib.Decoded Frame Status :=
  decoded (decodeFrame buffer host.options.maxFrameBytes)

/-- `handle_connection` before its loop: a connection that was queued when a
shutdown began is never served. -/
def Connection.accept (c : Connection) (incoming : List (Option (List UInt8))) :
    Lib.Reader UInt8 Connection :=
  { incoming, state := c, ended := c.stopping }

/-- `handle_connection` after `k` turns of its loop. -/
def handleConnection (host : Host) (c : Connection) (incoming : List (Option (List UInt8)))
    (k : Nat) : Lib.Reader UInt8 Connection :=
  (c.accept incoming).run host.decode (connectionHandlers host) k

end Transport

end DpuFabric
