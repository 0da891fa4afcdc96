/-
  Model.Event — EVENTS: THE ONLY WAY RUNTIME STATE CHANGES (`model/event.hpp`,
  `model/model.cpp`).

  The total order over event keys is a `LinearOrder` on `EventKey`; two
  events that share a whole key are NOT the same event, which is what the
  ordering results have to be careful about.
-/
import DpuFabric.Model.Lifecycle

namespace DpuFabric

open Lib

/-! ## §1. Bodies. -/

/-- `TopologyObserved`. -/
structure TopologyObserved where
  snapshot : TopologySnapshot := {}
  deriving DecidableEq, Repr

def TopologyObserved.visit : Visit TopologyObserved :=
  .object "TopologyObserved" (by decide)
    (.last "snapshot" TopologySnapshot.visit)
    (fun v => v.snapshot) (fun snapshot => { snapshot })

/-- `CapabilityObserved`. -/
structure CapabilityObserved where
  dpu : DpuId := default
  capabilities : CapabilitySet := {}
  generation : CapabilityGeneration := default
  topology : TopologyGeneration := default
  evidence : EvidenceRef := {}
  deriving DecidableEq, Repr

def CapabilityObserved.visit : Visit CapabilityObserved :=
  .object "CapabilityObserved" (by decide)
    (.field "dpu" .id <| .field "capabilities" CapabilitySet.visit <|
     .field "generation" .counter <| .field "topology" .counter <|
     .last "evidence" EvidenceRef.visit)
    (fun v => (v.dpu, v.capabilities, v.generation, v.topology, v.evidence))
    (fun (dpu, capabilities, generation, topology, evidence) =>
      { dpu, capabilities, generation, topology, evidence })

/-- `HealthObserved`. -/
structure HealthObserved where
  dpu : DpuId := default
  health : HealthState := .unknown
  evidence : EvidenceRef := {}
  deriving DecidableEq, Repr

def HealthObserved.visit : Visit HealthObserved :=
  .object "HealthObserved" (by decide)
    (.field "dpu" .id <| .field "health" (.enum HealthState.names) <|
     .last "evidence" EvidenceRef.visit)
    (fun v => (v.dpu, v.health, v.evidence))
    (fun (dpu, health, evidence) =>
      { dpu, health, evidence })

/-- `PolicyAdvanced`. -/
structure PolicyAdvanced where
  policy : PolicyState := {}
  deriving DecidableEq, Repr

def PolicyAdvanced.visit : Visit PolicyAdvanced :=
  .object "PolicyAdvanced" (by decide)
    (.last "policy" PolicyState.visit)
    (fun v => v.policy) (fun policy => { policy })

/-- `DpuAttached`. -/
structure DpuAttached where
  dpu : DpuId := default
  attachment : HostAttachmentId := default
  domain : IsolationDomainId := default
  topology : TopologyGeneration := default
  evidence : EvidenceRef := {}
  deriving DecidableEq, Repr

def DpuAttached.visit : Visit DpuAttached :=
  .object "DpuAttached" (by decide)
    (.field "dpu" .id <| .field "attachment" .id <| .field "domain" .id <|
     .field "topology" .counter <| .last "evidence" EvidenceRef.visit)
    (fun v => (v.dpu, v.attachment, v.domain, v.topology, v.evidence))
    (fun (dpu, attachment, domain, topology, evidence) =>
      { dpu, attachment, domain, topology, evidence })

/-- `DpuLost`. -/
structure DpuLost where
  dpu : DpuId := default
  topology : TopologyGeneration := default
  evidence : EvidenceRef := {}
  deriving DecidableEq, Repr

def DpuLost.visit : Visit DpuLost :=
  .object "DpuLost" (by decide)
    (.field "dpu" .id <| .field "topology" .counter <| .last "evidence" EvidenceRef.visit)
    (fun v => (v.dpu, v.topology, v.evidence))
    (fun (dpu, topology, evidence) =>
      { dpu, topology, evidence })

/-- `ServiceDeclared`. -/
structure ServiceDeclared where
  service : ServiceDefinition := {}
  deriving DecidableEq, Repr

def ServiceDeclared.visit : Visit ServiceDeclared :=
  .object "ServiceDeclared" (by decide)
    (.last "service" ServiceDefinition.visit)
    (fun v => v.service) (fun service => { service })

/-- `GroupDeclared`. -/
structure GroupDeclared where
  group : ServiceGroup := {}
  deriving DecidableEq, Repr

def GroupDeclared.visit : Visit GroupDeclared :=
  .object "GroupDeclared" (by decide)
    (.last "group" ServiceGroup.visit)
    (fun v => v.group) (fun group => { group })

/-- `DependencyDeclared`. -/
structure DependencyDeclared where
  dependency : Dependency := {}
  deriving DecidableEq, Repr

def DependencyDeclared.visit : Visit DependencyDeclared :=
  .object "DependencyDeclared" (by decide)
    (.last "dependency" Dependency.visit)
    (fun v => v.dependency) (fun dependency => { dependency })

/-- `IntentSubmitted`. -/
structure IntentSubmitted where
  intent : PlacementIntent := {}
  deriving DecidableEq, Repr

def IntentSubmitted.visit : Visit IntentSubmitted :=
  .object "IntentSubmitted" (by decide)
    (.last "intent" PlacementIntent.visit)
    (fun v => v.intent) (fun intent => { intent })

/-- `ExecutionAcknowledged`. -/
structure ExecutionAcknowledged where
  instanceId : InstanceId := default
  attempt : AttemptNumber := default
  fence : FenceToken := {}
  acknowledgedAt : LogicalInstant := {}
  deriving DecidableEq, Repr

def ExecutionAcknowledged.visit : Visit ExecutionAcknowledged :=
  .object "ExecutionAcknowledged" (by decide)
    (.field "instance" .id <| .field "attempt" .counter <| .field "fence" FenceToken.visit <|
     .last "acknowledged_at" LogicalInstant.visit)
    (fun v => (v.instanceId, v.attempt, v.fence, v.acknowledgedAt))
    (fun (instanceId, attempt, fence, acknowledgedAt) =>
      { instanceId, attempt, fence, acknowledgedAt })

/-- `EffectReported`. -/
structure EffectReported where
  report : EffectReport := {}
  deriving DecidableEq, Repr

def EffectReported.visit : Visit EffectReported :=
  .object "EffectReported" (by decide)
    (.last "report" EffectReport.visit)
    (fun v => v.report) (fun report => { report })

/-- `CoordinatorAdvanced`. -/
structure CoordinatorAdvanced where
  epoch : CoordinatorEpoch := default
  coordinator : OriginId := default
  deriving DecidableEq, Repr

def CoordinatorAdvanced.visit : Visit CoordinatorAdvanced :=
  .object "CoordinatorAdvanced" (by decide)
    (.field "epoch" .counter <| .last "coordinator" .id)
    (fun v => (v.epoch, v.coordinator))
    (fun (epoch, coordinator) =>
      { epoch, coordinator })

/-- `LogicalTimeAdvanced`. -/
structure LogicalTimeAdvanced where
  now : LogicalInstant := {}
  deriving DecidableEq, Repr

def LogicalTimeAdvanced.visit : Visit LogicalTimeAdvanced :=
  .object "LogicalTimeAdvanced" (by decide)
    (.last "now" LogicalInstant.visit)
    (fun v => v.now) (fun now => { now })

/-- `QuiesceRequested`. -/
structure QuiesceRequested where
  service : ServiceId := default
  deriving DecidableEq, Repr

def QuiesceRequested.visit : Visit QuiesceRequested :=
  .object "QuiesceRequested" (by decide)
    (.last "service" .id)
    (fun v => v.service) (fun service => { service })

/-- `FabricEventBody`. -/
inductive FabricEventBody where
  | topologyObserved (body : TopologyObserved)
  | capabilityObserved (body : CapabilityObserved)
  | healthObserved (body : HealthObserved)
  | policyAdvanced (body : PolicyAdvanced)
  | dpuAttached (body : DpuAttached)
  | dpuLost (body : DpuLost)
  | serviceDeclared (body : ServiceDeclared)
  | groupDeclared (body : GroupDeclared)
  | dependencyDeclared (body : DependencyDeclared)
  | intentSubmitted (body : IntentSubmitted)
  | executionAcknowledged (body : ExecutionAcknowledged)
  | effectReported (body : EffectReported)
  | coordinatorAdvanced (body : CoordinatorAdvanced)
  | logicalTimeAdvanced (body : LogicalTimeAdvanced)
  | quiesceRequested (body : QuiesceRequested)
  deriving DecidableEq, Repr

namespace FabricEventBody

/-- Index of the active alternative. -/
def index : FabricEventBody → Nat
  | .topologyObserved _ => 0
  | .capabilityObserved _ => 1
  | .healthObserved _ => 2
  | .policyAdvanced _ => 3
  | .dpuAttached _ => 4
  | .dpuLost _ => 5
  | .serviceDeclared _ => 6
  | .groupDeclared _ => 7
  | .dependencyDeclared _ => 8
  | .intentSubmitted _ => 9
  | .executionAcknowledged _ => 10
  | .effectReported _ => 11
  | .coordinatorAdvanced _ => 12
  | .logicalTimeAdvanced _ => 13
  | .quiesceRequested _ => 14

/-- `event_kind_name`. -/
def kindName : FabricEventBody → Text
  | .topologyObserved _ => txt "TopologyObserved"
  | .capabilityObserved _ => txt "CapabilityObserved"
  | .healthObserved _ => txt "HealthObserved"
  | .policyAdvanced _ => txt "PolicyAdvanced"
  | .dpuAttached _ => txt "DpuAttached"
  | .dpuLost _ => txt "DpuLost"
  | .serviceDeclared _ => txt "ServiceDeclared"
  | .groupDeclared _ => txt "GroupDeclared"
  | .dependencyDeclared _ => txt "DependencyDeclared"
  | .intentSubmitted _ => txt "IntentSubmitted"
  | .executionAcknowledged _ => txt "ExecutionAcknowledged"
  | .effectReported _ => txt "EffectReported"
  | .coordinatorAdvanced _ => txt "CoordinatorAdvanced"
  | .logicalTimeAdvanced _ => txt "LogicalTimeAdvanced"
  | .quiesceRequested _ => txt "QuiesceRequested"

/-- The active alternative, written by its own description. -/
def write : FabricEventBody → List UInt8
  | .topologyObserved b => TopologyObserved.visit.write b
  | .capabilityObserved b => CapabilityObserved.visit.write b
  | .healthObserved b => HealthObserved.visit.write b
  | .policyAdvanced b => PolicyAdvanced.visit.write b
  | .dpuAttached b => DpuAttached.visit.write b
  | .dpuLost b => DpuLost.visit.write b
  | .serviceDeclared b => ServiceDeclared.visit.write b
  | .groupDeclared b => GroupDeclared.visit.write b
  | .dependencyDeclared b => DependencyDeclared.visit.write b
  | .intentSubmitted b => IntentSubmitted.visit.write b
  | .executionAcknowledged b => ExecutionAcknowledged.visit.write b
  | .effectReported b => EffectReported.visit.write b
  | .coordinatorAdvanced b => CoordinatorAdvanced.visit.write b
  | .logicalTimeAdvanced b => LogicalTimeAdvanced.visit.write b
  | .quiesceRequested b => QuiesceRequested.visit.write b

def fits (n : Nat) : FabricEventBody → Bool
  | .topologyObserved b => TopologyObserved.visit.fits n b
  | .capabilityObserved b => CapabilityObserved.visit.fits n b
  | .healthObserved b => HealthObserved.visit.fits n b
  | .policyAdvanced b => PolicyAdvanced.visit.fits n b
  | .dpuAttached b => DpuAttached.visit.fits n b
  | .dpuLost b => DpuLost.visit.fits n b
  | .serviceDeclared b => ServiceDeclared.visit.fits n b
  | .groupDeclared b => GroupDeclared.visit.fits n b
  | .dependencyDeclared b => DependencyDeclared.visit.fits n b
  | .intentSubmitted b => IntentSubmitted.visit.fits n b
  | .executionAcknowledged b => ExecutionAcknowledged.visit.fits n b
  | .effectReported b => EffectReported.visit.fits n b
  | .coordinatorAdvanced b => CoordinatorAdvanced.visit.fits n b
  | .logicalTimeAdvanced b => LogicalTimeAdvanced.visit.fits n b
  | .quiesceRequested b => QuiesceRequested.visit.fits n b

def norm : FabricEventBody → FabricEventBody
  | .topologyObserved b => .topologyObserved (TopologyObserved.visit.norm b)
  | .capabilityObserved b => .capabilityObserved (CapabilityObserved.visit.norm b)
  | .healthObserved b => .healthObserved (HealthObserved.visit.norm b)
  | .policyAdvanced b => .policyAdvanced (PolicyAdvanced.visit.norm b)
  | .dpuAttached b => .dpuAttached (DpuAttached.visit.norm b)
  | .dpuLost b => .dpuLost (DpuLost.visit.norm b)
  | .serviceDeclared b => .serviceDeclared (ServiceDeclared.visit.norm b)
  | .groupDeclared b => .groupDeclared (GroupDeclared.visit.norm b)
  | .dependencyDeclared b => .dependencyDeclared (DependencyDeclared.visit.norm b)
  | .intentSubmitted b => .intentSubmitted (IntentSubmitted.visit.norm b)
  | .executionAcknowledged b => .executionAcknowledged (ExecutionAcknowledged.visit.norm b)
  | .effectReported b => .effectReported (EffectReported.visit.norm b)
  | .coordinatorAdvanced b => .coordinatorAdvanced (CoordinatorAdvanced.visit.norm b)
  | .logicalTimeAdvanced b => .logicalTimeAdvanced (LogicalTimeAdvanced.visit.norm b)
  | .quiesceRequested b => .quiesceRequested (QuiesceRequested.visit.norm b)

/-- Reads one alternative and wraps it. -/
def readAs {β : Type} (c : Visit β) (wrap : β → FabricEventBody) (n : Nat) (bytes : List UInt8) :
    Result (FabricEventBody × List UInt8) := do
  let (b, bytes) ← c.read n bytes
  return (wrap b, bytes)

theorem readAs_write {β : Type} (c : Visit β) (wrap : β → FabricEventBody) (n : Nat) (b : β)
    (rest : List UInt8) (h : c.fits n b = true) :
    readAs c wrap n (c.write b ++ rest) = .ok (wrap (c.norm b), rest) := by
  simp only [readAs, c.law n b rest h, bind, Except.bind, pure, Except.pure]

/-- `variant_read`: the alternative that the index selects. -/
def readAlternative (i n : Nat) (bytes : List UInt8) : Result (FabricEventBody × List UInt8) :=
  match i with
  | 0 => readAs TopologyObserved.visit .topologyObserved n bytes
  | 1 => readAs CapabilityObserved.visit .capabilityObserved n bytes
  | 2 => readAs HealthObserved.visit .healthObserved n bytes
  | 3 => readAs PolicyAdvanced.visit .policyAdvanced n bytes
  | 4 => readAs DpuAttached.visit .dpuAttached n bytes
  | 5 => readAs DpuLost.visit .dpuLost n bytes
  | 6 => readAs ServiceDeclared.visit .serviceDeclared n bytes
  | 7 => readAs GroupDeclared.visit .groupDeclared n bytes
  | 8 => readAs DependencyDeclared.visit .dependencyDeclared n bytes
  | 9 => readAs IntentSubmitted.visit .intentSubmitted n bytes
  | 10 => readAs ExecutionAcknowledged.visit .executionAcknowledged n bytes
  | 11 => readAs EffectReported.visit .effectReported n bytes
  | 12 => readAs CoordinatorAdvanced.visit .coordinatorAdvanced n bytes
  | 13 => readAs LogicalTimeAdvanced.visit .logicalTimeAdvanced n bytes
  | 14 => readAs QuiesceRequested.visit .quiesceRequested n bytes
  | _ => .error (refuse .invalidEnumeration (txt "variant index out of range"))

def alternative (i : Nat) : Visit FabricEventBody where
  write := write
  read n bytes := readAlternative i n bytes
  fits n v := decide (v.index = i) && fits n v
  norm := norm
  law n v rest h := by
    simp only [Bool.and_eq_true, decide_eq_true_eq] at h
    obtain ⟨rfl, hf⟩ := h
    cases v <;> exact readAs_write _ _ n _ rest hf

/-- `variant_value`: an object with the index and the alternative. -/
def visit : Visit FabricEventBody :=
  Visit.typeName "Variant" (by decide) <|
    Codec.dependent (Visit.u32) (fun v => UInt32.ofNat v.index)
      (fun _ i => if 15 ≤ i.toNat then
        some (refuse .invalidEnumeration (txt "variant index out of range")) else none)
      (fun i => alternative i.toNat) (fun _ _ => rfl)

end FabricEventBody

/-! ## §2. Events. -/

/-- `FabricEvent`. -/
structure FabricEvent where
  id : EventId := default
  origin : OriginId := default
  originEpoch : OriginEpoch := default
  originSeq : Sequence := default
  instant : LogicalInstant := {}
  wallClock : WallClockMs := {}
  evidenceClass : EvidenceClass := .unknown
  payloadDigest : Digest := default
  body : FabricEventBody := .topologyObserved {}
  deriving DecidableEq, Repr

def FabricEvent.visit : Visit FabricEvent :=
  .object "FabricEvent" (by decide)
    (.field "id" .id <| .field "origin" .id <| .field "origin_epoch" .counter <|
     .field "origin_seq" .counter <| .field "at" LogicalInstant.visit <|
     .field "wall_clock" WallClockMs.visit <|
     .field "evidence_class" (.enum EvidenceClass.names) <| .last "body" FabricEventBody.visit)
    (fun v => (v.id, v.origin, v.originEpoch, v.originSeq, v.instant, v.wallClock,
      v.evidenceClass, v.body))
    (fun (id, origin, originEpoch, originSeq, instant, wallClock, evidenceClass, body) =>
      { id, origin, originEpoch, originSeq, instant, wallClock, evidenceClass, body })

/-- What the archive keeps of an event. -/
def FabricEvent.visited (e : FabricEvent) : FabricEvent := { e with payloadDigest := default }

/-- `FabricEvent::compute_payload_digest`. -/
def FabricEvent.computePayloadDigest (e : FabricEvent) : Digest :=
  canonicalDigest FabricEventBody.visit e.body

/-- `event_kind_name`. -/
def eventKindName (e : FabricEvent) : Text := e.body.kindName

/-! ## §3. The total order over event keys. -/

/-- `EventKey`. -/
structure EventKey where
  instant : LogicalInstant
  origin : OriginId
  originEpoch : OriginEpoch
  originSeq : Sequence
  id : EventId

/-- The key as a lexicographic tuple. -/
def EventKey.toLexKey (k : EventKey) :
    LogicalInstant ×ₗ OriginId ×ₗ OriginEpoch ×ₗ Sequence ×ₗ EventId :=
  toLex (k.instant, toLex (k.origin, toLex (k.originEpoch, toLex (k.originSeq, k.id))))

theorem EventKey.toLexKey_injective : Function.Injective EventKey.toLexKey := by
  rintro ⟨⟩ ⟨⟩ h
  simpa [EventKey.toLexKey] using h

/-- `event_key_less` as a linear order. -/
instance : LinearOrder EventKey := LinearOrder.lift' EventKey.toLexKey EventKey.toLexKey_injective

/-- `event_key`. -/
def eventKey (e : FabricEvent) : EventKey :=
  ⟨e.instant, e.origin, e.originEpoch, e.originSeq, e.id⟩

theorem EventKey.lt_of_instant_lt {a b : EventKey} (h : a.instant < b.instant) : a < b :=
  Prod.Lex.left _ _ h

theorem EventKey.instant_le_of_le {a b : EventKey} (h : a ≤ b) : a.instant ≤ b.instant := by
  by_contra hlt
  exact absurd h (not_le.mpr (EventKey.lt_of_instant_lt (not_le.mp hlt)))

/-- `EventIdentity`. -/
structure EventIdentity where
  id : EventId := default
  origin : OriginId := default
  originEpoch : OriginEpoch := default
  originSeq : Sequence := default
  instant : LogicalInstant := {}
  payload : Digest := default
  deriving DecidableEq, Repr

def EventIdentity.visit : Visit EventIdentity :=
  .object "EventIdentity" (by decide)
    (.field "id" .id <| .field "origin" .id <| .field "origin_epoch" .counter <|
     .field "origin_seq" .counter <| .field "at" LogicalInstant.visit <| .last "payload" .digest)
    (fun v => (v.id, v.origin, v.originEpoch, v.originSeq, v.instant, v.payload))
    (fun (id, origin, originEpoch, originSeq, instant, payload) =>
      { id, origin, originEpoch, originSeq, instant, payload })

/-- `event_digest`: over the identity and the body, for duplicate detection. -/
def eventDigest (e : FabricEvent) : Digest :=
  canonicalDigest EventIdentity.visit
    { id := e.id, origin := e.origin, originEpoch := e.originEpoch, originSeq := e.originSeq,
      instant := e.instant, payload := e.computePayloadDigest }

end DpuFabric
