/-
  Engine.State — RUNTIME STATE AND THE HELPERS EVERY REDUCER USES (`engine/runtime.hpp`,
  `engine/runtime.cpp`).

  The instance table is looked up by halving (`findInstance`), so what it
  finds is only meaningful while the table is sorted; `refreshHealth`
  recomputes the health axis and nothing else; `fenceInstance` withdraws what
  was proven about one instance.
-/
import DpuFabric.Engine.Planner
import DpuFabric.Model.Event

namespace DpuFabric

open Lib

/-! ## §1. The state. -/

/-- `RuntimeState`. -/
structure RuntimeState where
  storeId : StoreId := default
  coordinator : OriginId := default
  epoch : CoordinatorEpoch := default
  boot : BootIncarnation := default
  clock : LogicalInstant := {}
  watermark : LogicalInstant := {}
  topologyGeneration : TopologyGeneration := default
  capabilityGeneration : CapabilityGeneration := default
  policyGeneration : PolicyGeneration := default
  deploymentGeneration : DeploymentGeneration := default
  policy : PolicyState := {}
  topology : TopologySnapshot := {}
  services : List ServiceDefinition := []
  groups : List ServiceGroup := []
  dependencies : List Dependency := []
  instances : List InstanceState := []
  plans : List DeploymentPlan := []
  authority : AuthorityRegistry := {}
  fences : FenceIssuer := {}
  truncations : TruncationLedger := {}
  decisions : List Decision := []
  restartFenced : List InstanceId := []
  journaledEvents : UInt64 := 0
  deriving DecidableEq, Repr

def RuntimeState.visit : Visit RuntimeState :=
  .object "RuntimeState" (by decide)
    (.field "store_id" .id <| .field "coordinator" .id <| .field "epoch" .counter <|
     .field "boot" .counter <| .field "clock" LogicalInstant.visit <|
     .field "watermark" LogicalInstant.visit <| .field "topology_generation" .counter <|
     .field "capability_generation" .counter <| .field "policy_generation" .counter <|
     .field "deployment_generation" .counter <| .field "policy" PolicyState.visit <|
     .field "topology" TopologySnapshot.visit <|
     .field "services" (.vec ServiceDefinition.visit) <|
     .field "groups" (.vec ServiceGroup.visit) <|
     .field "dependencies" (.vec Dependency.visit) <|
     .field "instances" (.vec InstanceState.visit) <|
     .field "plans" (.vec DeploymentPlan.visit) <| .field "authority" AuthorityRegistry.visit <|
     .field "fences" FenceIssuer.visit <| .field "truncations" TruncationLedger.visit <|
     .field "decisions" (.vec Decision.visit) <| .field "restart_fenced" (.vec .id) <|
     .last "journaled_events" .u64)
    (fun v => (v.storeId, v.coordinator, v.epoch, v.boot, v.clock, v.watermark,
      v.topologyGeneration, v.capabilityGeneration, v.policyGeneration, v.deploymentGeneration,
      v.policy, v.topology, v.services, v.groups, v.dependencies, v.instances, v.plans,
      v.authority, v.fences, v.truncations, v.decisions, v.restartFenced, v.journaledEvents))
    (fun (storeId, coordinator, epoch, boot, clock, watermark, topologyGeneration,
      capabilityGeneration, policyGeneration, deploymentGeneration, policy, topology, services,
      groups, dependencies, instances, plans, authority, fences, truncations, decisions,
      restartFenced, journaledEvents) =>
      { storeId, coordinator, epoch, boot, clock, watermark, topologyGeneration,
        capabilityGeneration, policyGeneration, deploymentGeneration, policy, topology,
        services, groups, dependencies, instances, plans, authority, fences, truncations,
        decisions, restartFenced, journaledEvents })

/-- What the archive keeps of a state: everything but the identity and the
digest of the retained plans. -/
def RuntimeState.visited (s : RuntimeState) : RuntimeState :=
  { s with plans := s.plans.map DeploymentPlan.visited }

/-- `PlacementProjection`. -/
structure PlacementProjection where
  storeId : StoreId := default
  epoch : CoordinatorEpoch := default
  clock : LogicalInstant := {}
  watermark : LogicalInstant := {}
  topologyGeneration : TopologyGeneration := default
  capabilityGeneration : CapabilityGeneration := default
  policyGeneration : PolicyGeneration := default
  deploymentGeneration : DeploymentGeneration := default
  policy : PolicyState := {}
  services : List ServiceDefinition := []
  groups : List ServiceGroup := []
  dependencies : List Dependency := []
  plans : List DeploymentPlan := []
  deriving DecidableEq, Repr

/-- `placement_projection`. -/
def placementProjection (s : RuntimeState) : PlacementProjection :=
  { storeId := s.storeId
    epoch := s.epoch
    clock := s.clock
    watermark := s.watermark
    topologyGeneration := s.topologyGeneration
    capabilityGeneration := s.capabilityGeneration
    policyGeneration := s.policyGeneration
    deploymentGeneration := s.deploymentGeneration
    policy := s.policy
    services := s.services
    groups := s.groups
    dependencies := s.dependencies
    plans := s.plans }

def PlacementProjection.visit : Visit PlacementProjection :=
  .object "PlacementProjection" (by decide)
    (.field "store_id" .id <| .field "epoch" .counter <| .field "clock" LogicalInstant.visit <|
     .field "watermark" LogicalInstant.visit <| .field "topology_generation" .counter <|
     .field "capability_generation" .counter <| .field "policy_generation" .counter <|
     .field "deployment_generation" .counter <| .field "policy" PolicyState.visit <|
     .field "services" (.vec ServiceDefinition.visit) <|
     .field "groups" (.vec ServiceGroup.visit) <|
     .field "dependencies" (.vec Dependency.visit) <| .last "plans" (.vec DeploymentPlan.visit))
    (fun v => (v.storeId, v.epoch, v.clock, v.watermark, v.topologyGeneration,
      v.capabilityGeneration, v.policyGeneration, v.deploymentGeneration, v.policy, v.services,
      v.groups, v.dependencies, v.plans))
    (fun (storeId, epoch, clock, watermark, topologyGeneration, capabilityGeneration,
      policyGeneration, deploymentGeneration, policy, services, groups, dependencies, plans) =>
      { storeId, epoch, clock, watermark, topologyGeneration, capabilityGeneration,
        policyGeneration, deploymentGeneration, policy, services, groups, dependencies, plans })

/-! ## §2. Apply results. -/

/-- `ApplyResult`. -/
structure ApplyResult where
  code : ReasonCode := .ok
  applied : Bool := false
  detail : Text := []
  explanations : List Explanation := []
  kind : DecisionKind := .ingest
  accepted : Bool := false
  deriving DecidableEq, Repr

/-- The result of a reducer that returns before it touched the state.
`accepted` is set by the two reducers that take a no-op for an answer. -/
structure Refusal where
  kind : DecisionKind
  code : ReasonCode
  detail : Text := []
  explanations : List Explanation := []
  accepted : Bool := false
  deriving DecidableEq, Repr

def Refusal.toResult (r : Refusal) : ApplyResult :=
  { code := r.code, applied := false, detail := r.detail, explanations := r.explanations,
    kind := r.kind, accepted := r.accepted }

/-- A refusal whose detail is also its only explanation. -/
def Refusal.explained (kind : DecisionKind) (code : ReasonCode) (subject detail : Text) : Refusal :=
  { kind, code, detail, explanations := [makeExplanation code kind subject detail] }

/-- An applied result with one explanation. -/
def appliedResult (kind : DecisionKind) (code : ReasonCode) (explanations : List Explanation) :
    ApplyResult :=
  { code, applied := true, accepted := true, kind, explanations }

/-- First refusal of a reducer's checks, or its effect. -/
def guardedBy (s : RuntimeState) (refusal : Option Refusal)
    (effect : ApplyResult × RuntimeState) : ApplyResult × RuntimeState :=
  match refusal with
  | some r => (r.toResult, s)
  | none => effect

/-! ## §3. Lookup. -/

/-- `find_instance`: position and entry, as the halving search sees them. -/
def findInstance (instances : List InstanceState) (id : InstanceId) :
    Option (Nat × InstanceState) :=
  (findKey InstanceState.id instances id).bind (fun k => (instances[k]?).map (fun i => (k, i)))

/-- `find_group`. -/
def findGroup (groups : List ServiceGroup) (id : ServiceGroupId) : Option ServiceGroup :=
  groups.find? (fun g => decide (g.id = id))

/-- `sort_instances`. -/
def sortInstances (instances : List InstanceState) : List InstanceState :=
  instances.insertionSort (fun a b => a.id ≤ b.id)

/-! ## §4. Health. -/

/-- The device's health evidence is fresh at `clock`. -/
def DpuRecord.healthEvidenceFresh (d : DpuRecord) (clock : LogicalInstant) : Bool :=
  d.healthEvidence.present && d.healthEvidence.freshAt clock
    && decide (d.healthObservedAt ≤ d.healthEvidence.observedAt)

/-- A device that makes no health statement at all. -/
def DpuRecord.healthSilent (d : DpuRecord) : Bool :=
  decide (d.state = .lost) || decide (d.health = .unknown)

/-- The device part of `refresh_health`. -/
def refreshDpu (clock : LogicalInstant) (d : DpuRecord) : DpuRecord :=
  { d with healthFresh := !d.healthSilent && d.healthEvidenceFresh clock }

/-- The instance part of `refresh_health`. -/
def refreshInstance (t : TopologySnapshot) (i : InstanceState) : InstanceState :=
  match t.find i.dpu with
  | none => { i with healthFresh := false }
  | some d =>
    if d.state ≠ .attached then { i with healthFresh := false }
    else if d.healthFresh ∧ d.health = .healthy then
      { i with health := d.health, healthFresh := true, healthObservedAt := d.healthObservedAt }
    else { i with health := d.health, healthFresh := false }

/-- What the first loop does to the instances of a device that stopped being
fresh. -/
def markStale (clock : LogicalInstant) (dpus : List DpuRecord) (i : InstanceState) :
    InstanceState :=
  if dpus.any (fun d => !d.healthSilent && !d.healthEvidenceFresh clock && decide (i.dpu = d.id))
  then { i with healthFresh := false } else i

/-- `refresh_health`. -/
def refreshHealth (s : RuntimeState) : RuntimeState :=
  let topology := { s.topology with dpus := s.topology.dpus.map (refreshDpu s.clock) }
  let marked := s.instances.map (markStale s.clock s.topology.dpus)
  { s with topology, instances := marked.map (refreshInstance topology) }

/-! ## §5. Fencing and attempts. -/

/-- Closes an open attempt as cancelled. -/
def AttemptRecord.cancel (instant : LogicalInstant) (reason : ReasonCode) (a : AttemptRecord) :
    AttemptRecord :=
  if a.outcome = .opened then
    { a with outcome := .cancelled, closeReason := reason, closedAt := instant,
             phase := .cancelled }
  else a

/-- The lifecycle position that fencing leaves behind. -/
def fencedState : LifecycleState → LifecycleState
  | .verified | .acknowledged | .deploying | .authorized | .planned => .unverified
  | s => s

/-- `fence_instance`. -/
def fenceInstance (i : InstanceState) (instant : LogicalInstant) (reason : ReasonCode) :
    InstanceState :=
  { i with
    effectFenceSerial := saturatingAdd i.effectFenceSerial 1
    effectFencedAt := instant
    fenceReason := reason
    health := .unknown
    healthFresh := false
    attempts := i.attempts.map (AttemptRecord.cancel instant reason)
    state := fencedState i.state
    reasons := [makeExplanation reason .recovery i.id.text
      (txt "previously proven effect is no longer authoritative")] }

/-- `cancel_open_attempts`. -/
def cancelOpenAttempts (i : InstanceState) (instant : LogicalInstant) (reason : ReasonCode)
    (next : LifecycleState) : InstanceState :=
  { i with attempts := i.attempts.map (AttemptRecord.cancel instant reason), state := next }

/-- `fence_instance_without_state`. -/
def fenceInstanceWithoutState (i : InstanceState) (instant : LogicalInstant)
    (reason : ReasonCode) : InstanceState :=
  { i with
    effectFenceSerial := saturatingAdd i.effectFenceSerial 1
    effectFencedAt := instant
    fenceReason := reason }

/-- Assignment through `instance->attempts.back()`. -/
def mapLastAttempt (f : AttemptRecord → AttemptRecord) : List AttemptRecord → List AttemptRecord
  | [] => []
  | [a] => [f a]
  | a :: b :: rest => a :: mapLastAttempt f (b :: rest)

/-- Number of the next attempt: one, or the successor of the last. -/
def nextAttemptNumber (attempts : List AttemptRecord) : AttemptNumber :=
  match attempts.getLast? with
  | none => ⟨1⟩
  | some a => a.number.saturatingNext

/-- Releases every grant over a device, scope by scope. -/
def releaseDevice (r : AuthorityRegistry) (dpu : DpuId) : AuthorityRegistry :=
  ((r.grants.filter (fun g => decide (g.dpu = dpu))).map AuthorityGrant.scope).foldl
    (fun r scope => (r.release scope dpu).2) r

/-- `fence_instance` for device loss: the instance ends up lost. -/
def loseInstance (i : InstanceState) (instant : LogicalInstant) : InstanceState :=
  { fenceInstance i instant .dpuLost with state := .lost }

end DpuFabric
