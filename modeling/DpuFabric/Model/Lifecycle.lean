/-
  Model.Lifecycle — FENCES, ATTEMPTS, INSTANCES, DECISIONS AND PLANS (`model/lifecycle.hpp`,
  `model/plan.hpp`).

  `DeploymentPlan.visit` describes a plan WITHOUT its identity and its digest
  (both are computed from the description), so a plan that went through the
  archive comes back with them reset.
-/
import DpuFabric.Model.Service

namespace DpuFabric

/-! ## §1. Fences and attempts. -/

/-- `FenceToken`. -/
structure FenceToken where
  epoch : CoordinatorEpoch := default
  boot : BootIncarnation := default
  serial : UInt64 := 0
  deriving DecidableEq, Repr

def FenceToken.visit : Visit FenceToken :=
  .object "FenceToken" (by decide)
    (.field "epoch" .counter <| .field "boot" .counter <| .last "serial" .u64)
    (fun v => (v.epoch, v.boot, v.serial))
    (fun (epoch, boot, serial) =>
      { epoch, boot, serial })

/-- `FenceToken::valid`. -/
def FenceToken.valid (t : FenceToken) : Bool := decide (t.serial ≠ 0)

/-- `AttemptRecord`. -/
structure AttemptRecord where
  number : AttemptNumber := default
  fence : FenceToken := {}
  phase : LifecycleState := .absent
  outcome : AttemptOutcome := .opened
  openedAt : LogicalInstant := {}
  closedAt : LogicalInstant := {}
  requestDigest : Digest := default
  closeReason : ReasonCode := .ok
  deriving DecidableEq, Repr

def AttemptRecord.visit : Visit AttemptRecord :=
  .object "AttemptRecord" (by decide)
    (.field "number" .counter <| .field "fence" FenceToken.visit <|
     .field "phase" (.enum LifecycleState.names) <|
     .field "outcome" (.enum AttemptOutcome.names) <| .field "opened_at" LogicalInstant.visit <|
     .field "closed_at" LogicalInstant.visit <| .field "request_digest" .digest <|
     .last "close_reason" (.enum ReasonCode.names))
    (fun v => (v.number, v.fence, v.phase, v.outcome, v.openedAt, v.closedAt, v.requestDigest,
      v.closeReason))
    (fun (number, fence, phase, outcome, openedAt, closedAt, requestDigest, closeReason) =>
      { number, fence, phase, outcome, openedAt, closedAt, requestDigest, closeReason })

/-- `AttemptRecord::open`. -/
def AttemptRecord.isOpen (a : AttemptRecord) : Bool := decide (a.outcome = .opened)

/-! ## §2. Explanations and decisions. -/

/-- `Explanation`. -/
structure Explanation where
  code : ReasonCode := .ok
  kind : DecisionKind := .placement
  subject : Text := []
  note : Text := []
  evidenceDigest : Digest := default
  topology : TopologyGeneration := default
  capability : CapabilityGeneration := default
  policy : PolicyGeneration := default
  deployment : DeploymentGeneration := default
  deriving DecidableEq, Repr

def Explanation.visit : Visit Explanation :=
  .object "Explanation" (by decide)
    (.field "code" (.enum ReasonCode.names) <| .field "kind" (.enum DecisionKind.names) <|
     .field "subject" .text <| .field "note" .text <| .field "evidence_digest" .digest <|
     .field "topology" .counter <| .field "capability" .counter <| .field "policy" .counter <|
     .last "deployment" .counter)
    (fun v => (v.code, v.kind, v.subject, v.note, v.evidenceDigest, v.topology, v.capability,
      v.policy, v.deployment))
    (fun (code, kind, subject, note, evidenceDigest, topology, capability, policy, deployment) =>
      { code, kind, subject, note, evidenceDigest, topology, capability, policy, deployment })

/-- `operator<` of `Explanation`. -/
def Explanation.less (a b : Explanation) : Bool :=
  if a.code ≠ b.code then decide (a.code.value < b.code.value)
  else if a.subject ≠ b.subject then decide (Text.codes a.subject < Text.codes b.subject)
  else if a.note ≠ b.note then decide (Text.codes a.note < Text.codes b.note)
  else decide (a.deployment < b.deployment)

/-- `std::sort` of explanations.  The order leaves some entries equivalent;
the model keeps those in arrival order. -/
def sortExplanations (es : List Explanation) : List Explanation :=
  es.insertionSort (fun a b => Explanation.less b a = false)

/-- `Decision`. -/
structure Decision where
  operation : OperationId := default
  kind : DecisionKind := .placement
  accepted : Bool := false
  primary : ReasonCode := .ok
  instant : LogicalInstant := {}
  epoch : CoordinatorEpoch := default
  boot : BootIncarnation := default
  topology : TopologyGeneration := default
  capability : CapabilityGeneration := default
  policy : PolicyGeneration := default
  deployment : DeploymentGeneration := default
  evidenceDigest : Digest := default
  policyDigest : Digest := default
  decisionDigest : Digest := default
  explanations : List Explanation := []
  truncations : List TruncationRecord := []
  deriving DecidableEq, Repr

def Decision.visit : Visit Decision :=
  .object "Decision" (by decide)
    (.field "operation" .id <| .field "kind" (.enum DecisionKind.names) <|
     .field "accepted" .bool <| .field "primary" (.enum ReasonCode.names) <|
     .field "at" LogicalInstant.visit <| .field "epoch" .counter <| .field "boot" .counter <|
     .field "topology" .counter <| .field "capability" .counter <| .field "policy" .counter <|
     .field "deployment" .counter <| .field "evidence_digest" .digest <|
     .field "policy_digest" .digest <| .field "decision_digest" .digest <|
     .field "explanations" (.vec Explanation.visit) <|
     .last "truncations" (.vec TruncationRecord.visit))
    (fun v => (v.operation, v.kind, v.accepted, v.primary, v.instant, v.epoch, v.boot,
      v.topology, v.capability, v.policy, v.deployment, v.evidenceDigest, v.policyDigest,
      v.decisionDigest, v.explanations, v.truncations))
    (fun (operation, kind, accepted, primary, instant, epoch, boot, topology, capability,
      policy, deployment, evidenceDigest, policyDigest, decisionDigest, explanations,
      truncations) =>
      { operation, kind, accepted, primary, instant, epoch, boot, topology, capability, policy,
        deployment, evidenceDigest, policyDigest, decisionDigest, explanations, truncations })

/-! ## §3. Instances and effect reports. -/

/-- `InstanceState`. -/
structure InstanceState where
  id : InstanceId := default
  service : ServiceId := default
  group : ServiceGroupId := default
  version : ServiceVersion := {}
  index : ReplicaIndex := default
  incarnation : Incarnation := default
  dpu : DpuId := default
  attachment : HostAttachmentId := default
  domain : IsolationDomainId := default
  deploymentGeneration : DeploymentGeneration := default
  state : LifecycleState := .absent
  health : HealthState := .unknown
  healthFresh : Bool := false
  healthObservedAt : LogicalInstant := {}
  topologyGeneration : TopologyGeneration := default
  capabilityGeneration : CapabilityGeneration := default
  attempts : List AttemptRecord := []
  verifiedDigest : Digest := default
  verifiedAt : LogicalInstant := {}
  verifiedEvidence : EvidenceRef := {}
  effectFenceSerial : UInt64 := 0
  effectFencedAt : LogicalInstant := {}
  fenceReason : ReasonCode := .ok
  reasons : List Explanation := []
  deriving DecidableEq, Repr

def InstanceState.visit : Visit InstanceState :=
  .object "InstanceState" (by decide)
    (.field "id" .id <| .field "service" .id <| .field "group" .id <|
     .field "version" ServiceVersion.visit <| .field "index" .counter <|
     .field "incarnation" .counter <| .field "dpu" .id <| .field "attachment" .id <|
     .field "domain" .id <| .field "deployment_generation" .counter <|
     .field "state" (.enum LifecycleState.names) <| .field "health" (.enum HealthState.names) <|
     .field "health_fresh" .bool <| .field "health_observed_at" LogicalInstant.visit <|
     .field "topology_generation" .counter <| .field "capability_generation" .counter <|
     .field "attempts" (.vec AttemptRecord.visit) <| .field "verified_digest" .digest <|
     .field "verified_at" LogicalInstant.visit <| .field "verified_evidence" EvidenceRef.visit <|
     .field "effect_fence_serial" .u64 <| .field "effect_fenced_at" LogicalInstant.visit <|
     .field "fence_reason" (.enum ReasonCode.names) <| .last "reasons" (.vec Explanation.visit))
    (fun v => (v.id, v.service, v.group, v.version, v.index, v.incarnation, v.dpu, v.attachment,
      v.domain, v.deploymentGeneration, v.state, v.health, v.healthFresh, v.healthObservedAt,
      v.topologyGeneration, v.capabilityGeneration, v.attempts, v.verifiedDigest, v.verifiedAt,
      v.verifiedEvidence, v.effectFenceSerial, v.effectFencedAt, v.fenceReason, v.reasons))
    (fun (id, service, group, version, index, incarnation, dpu, attachment, domain,
      deploymentGeneration, state, health, healthFresh, healthObservedAt, topologyGeneration,
      capabilityGeneration, attempts, verifiedDigest, verifiedAt, verifiedEvidence,
      effectFenceSerial, effectFencedAt, fenceReason, reasons) =>
      { id, service, group, version, index, incarnation, dpu, attachment, domain,
        deploymentGeneration, state, health, healthFresh, healthObservedAt, topologyGeneration,
        capabilityGeneration, attempts, verifiedDigest, verifiedAt, verifiedEvidence,
        effectFenceSerial, effectFencedAt, fenceReason, reasons })

/-- `InstanceState::current_attempt`. -/
def InstanceState.currentAttempt (i : InstanceState) : Option AttemptRecord := i.attempts.getLast?

/-- `InstanceState::serving`. -/
def InstanceState.serving (i : InstanceState) : Bool :=
  decide (i.state = .verified) && decide (i.health = .healthy) && i.healthFresh

/-- `EffectReport`. -/
structure EffectReport where
  operation : OperationId := default
  instanceId : InstanceId := default
  attempt : AttemptNumber := default
  fence : FenceToken := {}
  kind : EffectKind := .deploy
  status : EffectStatus := .failed
  reportedAt : LogicalInstant := {}
  evidence : EvidenceRef := {}
  payloadDigest : Digest := default
  effectDigest : Digest := default
  isPartial : Bool := false
  deriving DecidableEq, Repr

def EffectReport.visit : Visit EffectReport :=
  .object "EffectReport" (by decide)
    (.field "operation" .id <| .field "instance" .id <| .field "attempt" .counter <|
     .field "fence" FenceToken.visit <| .field "kind" (.enum EffectKind.names) <|
     .field "status" (.enum EffectStatus.names) <| .field "reported_at" LogicalInstant.visit <|
     .field "evidence" EvidenceRef.visit <| .field "payload_digest" .digest <|
     .field "effect_digest" .digest <| .last "partial" .bool)
    (fun v => (v.operation, v.instanceId, v.attempt, v.fence, v.kind, v.status, v.reportedAt,
      v.evidence, v.payloadDigest, v.effectDigest, v.isPartial))
    (fun (operation, instanceId, attempt, fence, kind, status, reportedAt, evidence,
      payloadDigest, effectDigest, isPartial) =>
      { operation, instanceId, attempt, fence, kind, status, reportedAt, evidence,
        payloadDigest, effectDigest, isPartial })

/-! ## §4. Plans. -/

/-- `PlannedReplica`. -/
structure PlannedReplica where
  index : ReplicaIndex := default
  dpu : DpuId := default
  attachment : HostAttachmentId := default
  domain : IsolationDomainId := default
  score : UInt64 := 0
  eligibilityDigest : Digest := default
  deriving DecidableEq, Repr

def PlannedReplica.visit : Visit PlannedReplica :=
  .object "PlannedReplica" (by decide)
    (.field "index" .counter <| .field "dpu" .id <| .field "attachment" .id <|
     .field "domain" .id <| .field "score" .u64 <| .last "eligibility_digest" .digest)
    (fun v => (v.index, v.dpu, v.attachment, v.domain, v.score, v.eligibilityDigest))
    (fun (index, dpu, attachment, domain, score, eligibilityDigest) =>
      { index, dpu, attachment, domain, score, eligibilityDigest })

/-- `ServicePlan`. -/
structure ServicePlan where
  service : ServiceId := default
  version : ServiceVersion := {}
  desiredReplicas : UInt32 := 0
  placedReplicas : UInt32 := 0
  replicas : List PlannedReplica := []
  deriving DecidableEq, Repr

def ServicePlan.visit : Visit ServicePlan :=
  .object "ServicePlan" (by decide)
    (.field "service" .id <| .field "version" ServiceVersion.visit <|
     .field "desired_replicas" .u32 <| .field "placed_replicas" .u32 <|
     .last "replicas" (.vec PlannedReplica.visit))
    (fun v => (v.service, v.version, v.desiredReplicas, v.placedReplicas, v.replicas))
    (fun (service, version, desiredReplicas, placedReplicas, replicas) =>
      { service, version, desiredReplicas, placedReplicas, replicas })

/-- `PlanStage`. -/
structure PlanStage where
  index : UInt32 := 0
  instances : List InstanceId := []
  maxUnavailable : UInt32 := 0
  deriving DecidableEq, Repr

def PlanStage.visit : Visit PlanStage :=
  .object "PlanStage" (by decide)
    (.field "index" .u32 <| .field "instances" (.vec .id) <| .last "max_unavailable" .u32)
    (fun v => (v.index, v.instances, v.maxUnavailable))
    (fun (index, instances, maxUnavailable) =>
      { index, instances, maxUnavailable })

/-- `DeploymentPlan`. -/
structure DeploymentPlan where
  id : PlanId := default
  generation : DeploymentGeneration := default
  group : ServiceGroupId := default
  kind : IntentKind := .deploy
  rollbackTarget : Option DeploymentGeneration := none
  services : List ServicePlan := []
  stages : List PlanStage := []
  outcome : ReasonCode := .ok
  topology : TopologyGeneration := default
  capability : CapabilityGeneration := default
  policy : PolicyGeneration := default
  epoch : CoordinatorEpoch := default
  boot : BootIncarnation := default
  createdAt : LogicalInstant := {}
  digest : Digest := default
  explanations : List Explanation := []
  deriving DecidableEq, Repr

def DeploymentPlan.visit : Visit DeploymentPlan :=
  .object "DeploymentPlan" (by decide)
    (.field "generation" .counter <| .field "group" .id <|
     .field "kind" (.enum IntentKind.names) <| .field "rollback_target" (.opt .counter) <|
     .field "services" (.vec ServicePlan.visit) <| .field "stages" (.vec PlanStage.visit) <|
     .field "outcome" (.enum ReasonCode.names) <| .field "topology" .counter <|
     .field "capability" .counter <| .field "policy" .counter <| .field "epoch" .counter <|
     .field "boot" .counter <| .field "created_at" LogicalInstant.visit <|
     .last "explanations" (.vec Explanation.visit))
    (fun v => (v.generation, v.group, v.kind, v.rollbackTarget, v.services, v.stages, v.outcome,
      v.topology, v.capability, v.policy, v.epoch, v.boot, v.createdAt, v.explanations))
    (fun (generation, group, kind, rollbackTarget, services, stages, outcome, topology,
      capability, policy, epoch, boot, createdAt, explanations) =>
      { generation, group, kind, rollbackTarget, services, stages, outcome, topology,
        capability, policy, epoch, boot, createdAt, explanations })

/-- `DeploymentPlan::seal`: digest and identity from the canonical body. -/
def DeploymentPlan.seal (p : DeploymentPlan) : DeploymentPlan :=
  { p with
    digest := canonicalDigest DeploymentPlan.visit p
    id := StrongId.literal (txt "plan-" ++ ((canonicalDigest DeploymentPlan.visit p).hex).take 32) }

/-- What the archive keeps of a plan. -/
def DeploymentPlan.visited (p : DeploymentPlan) : DeploymentPlan :=
  { p with id := default, digest := default }

/-- `PlanOutcome`. -/
structure PlanOutcome where
  feasible : Bool := false
  primary : ReasonCode := .ok
  plan : DeploymentPlan := {}
  explanations : List Explanation := []
  truncations : List TruncationRecord := []
  deriving DecidableEq, Repr

end DpuFabric
