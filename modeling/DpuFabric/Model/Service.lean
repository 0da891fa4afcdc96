/-
  Model.Service — DECLARATIONS: SERVICES, GROUPS, DEPENDENCIES, INTENTS, POLICY
  (`model/service.hpp`).
-/
import DpuFabric.Model.Device

namespace DpuFabric

/-- `ServiceDefinition`. -/
structure ServiceDefinition where
  id : ServiceId := default
  version : ServiceVersion := {}
  displayName : Text := []
  compatibility : CompatibilityRequirement := {}
  resources : ResourceVector := {}
  isolation : IsolationRequirement := {}
  replicas : ReplicaPolicy := {}
  deriving DecidableEq, Repr

def ServiceDefinition.visit : Visit ServiceDefinition :=
  .object "ServiceDefinition" (by decide)
    (.field "id" .id <| .field "version" ServiceVersion.visit <| .field "display_name" .text <|
     .field "compatibility" CompatibilityRequirement.visit <|
     .field "resources" ResourceVector.visit <| .field "isolation" IsolationRequirement.visit <|
     .last "replicas" ReplicaPolicy.visit)
    (fun v => (v.id, v.version, v.displayName, v.compatibility, v.resources, v.isolation,
      v.replicas))
    (fun (id, version, displayName, compatibility, resources, isolation, replicas) =>
      { id, version, displayName, compatibility, resources, isolation, replicas })

/-- `Dependency`. -/
structure Dependency where
  id : DependencyId := default
  fromService : ServiceId := default
  toService : ServiceId := default
  kind : DependencyKind := .requires
  deriving DecidableEq, Repr

def Dependency.visit : Visit Dependency :=
  .object "Dependency" (by decide)
    (.field "id" .id <| .field "from" .id <| .field "to" .id <|
     .last "kind" (.enum DependencyKind.names))
    (fun v => (v.id, v.fromService, v.toService, v.kind))
    (fun (id, fromService, toService, kind) =>
      { id, fromService, toService, kind })

/-- `ServiceGroup`. -/
structure ServiceGroup where
  id : ServiceGroupId := default
  members : List ServiceId := []
  exclusiveScope : Option ExclusiveScopeId := none
  antiAffinity : AntiAffinityPolicy := {}
  deriving DecidableEq, Repr

def ServiceGroup.visit : Visit ServiceGroup :=
  .object "ServiceGroup" (by decide)
    (.field "id" .id <| .field "members" (.vec .id) <| .field "exclusive_scope" (.opt .id) <|
     .last "anti_affinity" AntiAffinityPolicy.visit)
    (fun v => (v.id, v.members, v.exclusiveScope, v.antiAffinity))
    (fun (id, members, exclusiveScope, antiAffinity) =>
      { id, members, exclusiveScope, antiAffinity })

/-- `ServiceReplicaIntent`. -/
structure ServiceReplicaIntent where
  service : ServiceId := default
  desiredReplicas : UInt32 := 0
  deriving DecidableEq, Repr

def ServiceReplicaIntent.visit : Visit ServiceReplicaIntent :=
  .object "ServiceReplicaIntent" (by decide)
    (.field "service" .id <| .last "desired_replicas" .u32)
    (fun v => (v.service, v.desiredReplicas))
    (fun (service, desiredReplicas) =>
      { service, desiredReplicas })

/-- `StagedRolloutPolicy`. -/
structure StagedRolloutPolicy where
  batchSize : UInt32 := 1
  maxUnavailable : UInt32 := 0
  verifyBetweenStages : Bool := true
  deriving DecidableEq, Repr

def StagedRolloutPolicy.visit : Visit StagedRolloutPolicy :=
  .object "StagedRolloutPolicy" (by decide)
    (.field "batch_size" .u32 <| .field "max_unavailable" .u32 <|
     .last "verify_between_stages" .bool)
    (fun v => (v.batchSize, v.maxUnavailable, v.verifyBetweenStages))
    (fun (batchSize, maxUnavailable, verifyBetweenStages) =>
      { batchSize, maxUnavailable, verifyBetweenStages })

/-- `PlacementIntent`. -/
structure PlacementIntent where
  id : OperationId := default
  group : ServiceGroupId := default
  kind : IntentKind := .deploy
  generation : DeploymentGeneration := default
  rollbackTarget : Option DeploymentGeneration := none
  services : List ServiceReplicaIntent := []
  staging : StagedRolloutPolicy := {}
  origin : OriginId := default
  originEpoch : OriginEpoch := default
  originSeq : Sequence := default
  submittedAt : LogicalInstant := {}
  deriving DecidableEq, Repr

def PlacementIntent.visit : Visit PlacementIntent :=
  .object "PlacementIntent" (by decide)
    (.field "id" .id <| .field "group" .id <| .field "kind" (.enum IntentKind.names) <|
     .field "generation" .counter <| .field "rollback_target" (.opt .counter) <|
     .field "services" (.vec ServiceReplicaIntent.visit) <|
     .field "staging" StagedRolloutPolicy.visit <| .field "origin" .id <|
     .field "origin_epoch" .counter <| .field "origin_seq" .counter <|
     .last "submitted_at" LogicalInstant.visit)
    (fun v => (v.id, v.group, v.kind, v.generation, v.rollbackTarget, v.services, v.staging,
      v.origin, v.originEpoch, v.originSeq, v.submittedAt))
    (fun (id, group, kind, generation, rollbackTarget, services, staging, origin, originEpoch,
      originSeq, submittedAt) =>
      { id, group, kind, generation, rollbackTarget, services, staging, origin, originEpoch,
        originSeq, submittedAt })

/-- `PolicyState`. -/
structure PolicyState where
  generation : PolicyGeneration := default
  maxReplicasPerDpuCeiling : UInt32 := 4
  maxInstancesPerGroup : UInt32 := 64
  maxStageBatch : UInt32 := 16
  allowSyntheticEvidence : Bool := true
  requireExclusiveScopeForDedicatedDevice : Bool := true
  allowRollbackAcrossPolicy : Bool := false
  evidenceValidityTicks : UInt64 := 64
  policyDigest : Digest := default
  evidence : EvidenceRef := {}
  deriving DecidableEq, Repr

def PolicyState.visit : Visit PolicyState :=
  .object "PolicyState" (by decide)
    (.field "generation" .counter <| .field "max_replicas_per_dpu_ceiling" .u32 <|
     .field "max_instances_per_group" .u32 <| .field "max_stage_batch" .u32 <|
     .field "allow_synthetic_evidence" .bool <|
     .field "require_exclusive_scope_for_dedicated_device" .bool <|
     .field "allow_rollback_across_policy" .bool <| .field "evidence_validity_ticks" .u64 <|
     .field "policy_digest" .digest <| .last "evidence" EvidenceRef.visit)
    (fun v => (v.generation, v.maxReplicasPerDpuCeiling, v.maxInstancesPerGroup,
      v.maxStageBatch, v.allowSyntheticEvidence, v.requireExclusiveScopeForDedicatedDevice,
      v.allowRollbackAcrossPolicy, v.evidenceValidityTicks, v.policyDigest, v.evidence))
    (fun (generation, maxReplicasPerDpuCeiling, maxInstancesPerGroup, maxStageBatch,
      allowSyntheticEvidence, requireExclusiveScopeForDedicatedDevice,
      allowRollbackAcrossPolicy, evidenceValidityTicks, policyDigest, evidence) =>
      { generation, maxReplicasPerDpuCeiling, maxInstancesPerGroup, maxStageBatch,
        allowSyntheticEvidence, requireExclusiveScopeForDedicatedDevice,
        allowRollbackAcrossPolicy, evidenceValidityTicks, policyDigest, evidence })

/-- `StagedRolloutPolicy::validate`. -/
def StagedRolloutPolicy.validate (p : StagedRolloutPolicy) (ceiling : Nat) : Status :=
  if p.batchSize = 0 then refuse .valueOutOfRange (txt "batch size must be positive")
  else if ceiling < p.batchSize.toNat then
    refuse .boundExceeded (txt "batch size exceeds policy ceiling")
  else if p.batchSize ≤ p.maxUnavailable ∧ 1 < p.batchSize then
    refuse .stagingInfeasible (txt "max_unavailable must be below batch size")
  else .success

/-- `PolicyState::valid`. -/
def PolicyState.valid (p : PolicyState) : Bool := p.generation.valid

end DpuFabric
