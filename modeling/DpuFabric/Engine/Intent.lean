/-
  Engine.Intent — RECONCILIATION AND PLACEMENT INTENTS (`engine/runtime.cpp`).

  `reconcile` walks the planned replicas in plan order, CREATING missing
  instances at the end of the table while later replicas are still looked up
  in it by halving; the table is sorted again only when the whole intent is
  committed.  `reduceIntent` works on a trial copy: plan, authority claims,
  reconciliation and commit, or no change at all.
-/
import DpuFabric.Engine.Reducers

namespace DpuFabric

open Lib

/-! ## §1. Reconciling one planned replica. -/

/-- `ReconcileStats`. -/
structure ReconcileStats where
  created : Nat := 0
  replaced : Nat := 0
  unchanged : Nat := 0
  attempts : Nat := 0
  quiesced : Nat := 0
  deriving DecidableEq, Repr

/-- The part of the trial state that reconciliation changes. -/
structure Reconciling where
  instances : List InstanceState
  fences : FenceIssuer
  stats : ReconcileStats := {}
  deriving DecidableEq, Repr

/-- A freshly opened attempt. -/
def openedAttempt (number : AttemptNumber) (fence : FenceToken) (phase : LifecycleState)
    (instant : LogicalInstant) (request : Digest) : AttemptRecord :=
  { number, fence, phase, outcome := .opened, openedAt := instant, requestDigest := request }

/-- A new instance for a planned replica. -/
def createdInstance (plan : DeploymentPlan) (group : ServiceGroup) (event : FabricEvent)
    (id : InstanceId) (sp : ServicePlan) (replica : PlannedReplica) (fence : FenceToken) :
    InstanceState :=
  { id
    service := sp.service
    group := group.id
    version := sp.version
    index := replica.index
    incarnation := ⟨1⟩
    dpu := replica.dpu
    attachment := replica.attachment
    domain := replica.domain
    deploymentGeneration := plan.generation
    state := .authorized
    health := .unknown
    healthFresh := false
    topologyGeneration := plan.topology
    capabilityGeneration := plan.capability
    effectFencedAt := event.instant
    fenceReason := .ok
    attempts := [openedAttempt ⟨1⟩ fence .authorized event.instant plan.digest]
    reasons := [makeExplanation .ok .placement id.text
      (txt "instance authorized at generation " ++ decimal plan.generation.value.toNat)] }

/-- The instance holds a closed lifecycle position. -/
def InstanceState.terminal (i : InstanceState) : Bool :=
  decide (i.state = .withdrawn) || decide (i.state = .failed) || decide (i.state = .lost)

/-- No open attempt stands for the instance. -/
def InstanceState.staleAttempt (i : InstanceState) : Bool :=
  match i.currentAttempt with
  | none => true
  | some a => !a.isOpen

/-- The instance moves, changes version or starts over. -/
def InstanceState.mustReplace (i : InstanceState) (sp : ServicePlan) (replica : PlannedReplica) :
    Bool :=
  decide (i.dpu ≠ replica.dpu) || decide (i.version ≠ sp.version) || i.terminal

/-- Adds an authorized attempt to an instance. -/
def authorizeAttempt (i : InstanceState) (plan : DeploymentPlan) (event : FabricEvent)
    (fence : FenceToken) : InstanceState :=
  { i with
    attempts := i.attempts
      ++ [openedAttempt (nextAttemptNumber i.attempts) fence .authorized event.instant plan.digest]
    state := .authorized }

/-- An existing instance placed anew: fenced, then authorized again. -/
def replacedInstance (i : InstanceState) (plan : DeploymentPlan) (event : FabricEvent)
    (sp : ServicePlan) (replica : PlannedReplica) (fence : FenceToken) : InstanceState :=
  let moved := { i with
    incarnation := i.incarnation.saturatingNext
    dpu := replica.dpu
    attachment := replica.attachment
    domain := replica.domain
    version := sp.version
    deploymentGeneration := plan.generation
    topologyGeneration := plan.topology
    capabilityGeneration := plan.capability }
  authorizeAttempt
    (fenceInstance moved event.instant (if i.terminal then .superseded else .attemptSuperseded))
    plan event fence

/-- An existing instance that only needs authority again. -/
def reattemptedInstance (i : InstanceState) (plan : DeploymentPlan) (event : FabricEvent)
    (fence : FenceToken) : InstanceState :=
  { authorizeAttempt i plan event fence with deploymentGeneration := plan.generation }

/-- One turn of the replica loop of `reconcile`. -/
def reconcileReplica (plan : DeploymentPlan) (group : ServiceGroup) (event : FabricEvent)
    (bounds : RuntimeBounds) (r : Reconciling) (p : ServicePlan × PlannedReplica) :
    Result Reconciling :=
  let id := makeInstanceId group.id p.1.service p.2.index
  match findInstance r.instances id with
  | none =>
    if bounds.maxInstances ≤ r.instances.length then
      .error (refuse .boundExceeded (txt "instance table full"))
    else
      match r.fences.issue id with
      | .error refusal => .error refusal
      | .ok (fence, fences) =>
        .ok { instances := r.instances ++ [createdInstance plan group event id p.1 p.2 fence]
              fences
              stats := { r.stats with created := r.stats.created + 1 } }
  | some (k, i) =>
    if i.mustReplace p.1 p.2 then
      match r.fences.issue id with
      | .error refusal => .error refusal
      | .ok (fence, fences) =>
        .ok { instances := r.instances.set k (replacedInstance i plan event p.1 p.2 fence)
              fences
              stats := { r.stats with replaced := r.stats.replaced + 1 } }
    else if i.staleAttempt then
      match r.fences.issue id with
      | .error refusal => .error refusal
      | .ok (fence, fences) =>
        .ok { instances := r.instances.set k (reattemptedInstance i plan event fence)
              fences
              stats := { r.stats with attempts := r.stats.attempts + 1 } }
    else
      .ok { instances := r.instances.set k { i with deploymentGeneration := plan.generation }
            fences := r.fences
            stats := { r.stats with unchanged := r.stats.unchanged + 1 } }

/-! ## §2. Quiescing what the plan no longer covers. -/

/-- Identities of the planned replicas. -/
def plannedIds (group : ServiceGroup) (plan : DeploymentPlan) : List InstanceId :=
  rolloutOrder group.id plan.services

/-- The instances the second loop of `reconcile` touches. -/
def uncovered (group : ServiceGroup) (plan : DeploymentPlan) (i : InstanceState) : Bool :=
  decide (i.group = group.id)
    && (decide (plan.kind = .withdraw)
        || decide (i.service ∉ plan.services.map ServicePlan.service)
        || decide (i.id ∉ plannedIds group plan))
    && decide (i.state ≠ .withdrawn)

/-- The attempt that a withdrawal opens on a quiesced instance. -/
def withdrawalAttempt (i : InstanceState) (plan : DeploymentPlan) (event : FabricEvent)
    (fence : FenceToken) : InstanceState :=
  { i with
    attempts := i.attempts
      ++ [openedAttempt (nextAttemptNumber i.attempts) fence .quiescing event.instant plan.digest] }

/-- One turn of the second loop: the entry, the issuer and the count. -/
def quiesceUncovered (plan : DeploymentPlan) (group : ServiceGroup) (event : FabricEvent)
    (fences : FenceIssuer) (i : InstanceState) : Result (InstanceState × FenceIssuer) :=
  if !uncovered group plan i then .ok (i, fences)
  else
    let quiesced := quiesceInstance event.instant i
    if plan.kind ≠ .withdraw then .ok (quiesced, fences)
    else
      match fences.issue i.id with
      | .error refusal => .error refusal
      | .ok (fence, fences) => .ok (withdrawalAttempt quiesced plan event fence, fences)

/-- The second loop of `reconcile`, entry by entry. -/
def quiesceLoop (plan : DeploymentPlan) (group : ServiceGroup) (event : FabricEvent) :
    FenceIssuer → List InstanceState → Result (List InstanceState × FenceIssuer)
  | fences, [] => .ok ([], fences)
  | fences, i :: rest => do
      let (i, fences) ← quiesceUncovered plan group event fences i
      let (rest, fences) ← quiesceLoop plan group event fences rest
      return (i :: rest, fences)

/-- `reconcile`. -/
def reconcile (s : RuntimeState) (plan : DeploymentPlan) (group : ServiceGroup)
    (event : FabricEvent) (bounds : RuntimeBounds) : Result Reconciling := do
  let placed ← (ServicePlan.flatten plan.services).foldlM
    (reconcileReplica plan group event bounds) { instances := s.instances, fences := s.fences }
  let (instances, fences) ← quiesceLoop plan group event placed.fences placed.instances
  let quiesced := (placed.instances.filter (uncovered group plan)).length
  return { instances, fences, stats := { placed.stats with quiesced } }

/-- The explanation `reconcile` leaves. -/
def reconcileExplanation (group : ServiceGroup) (stats : ReconcileStats) : Explanation :=
  makeExplanation .ok .placement group.id.text
    (txt "instances created=" ++ decimal stats.created ++ txt " replaced=" ++ decimal stats.replaced
      ++ txt " reattempted=" ++ decimal stats.attempts ++ txt " unchanged="
      ++ decimal stats.unchanged ++ txt " quiesced=" ++ decimal stats.quiesced)

/-! ## §3. The plan of an intent. -/

/-- The checks of `reduce_intent` in front of the plan: the group, or the
first refusal. -/
def checkIntent (s : RuntimeState) (intent : PlacementIntent) : Except Refusal ServiceGroup :=
  let refuse := fun code (detail : String) =>
    Except.error (Refusal.explained .placement code intent.id.text (txt detail))
  match findGroup s.groups intent.group with
  | none =>
    .error (.explained .placement .groupNotDeclared intent.group.text
      (txt "intent names an undeclared group"))
  | some group =>
    if !intent.generation.valid then
      .error { kind := .placement, code := .invalidIdentity,
               detail := txt "intent generation missing" }
    else if !s.topologyGeneration.valid then
      refuse .evidenceMissing "no topology generation has been accepted"
    else if !s.policy.generation.valid then
      refuse .evidenceMissing "no policy generation has been accepted"
    else if intent.generation < s.deploymentGeneration then
      refuse .planGenerationRegressed "deployment generation regressed"
    else if intent.generation = s.deploymentGeneration ∧ intent.kind ≠ .withdraw then
      refuse .noPlacementChange "deployment generation already accepted"
    else .ok group

/-- The services a withdrawal plan names, all of them without replicas. -/
def withdrawalServices (s : RuntimeState) :
    List ServiceReplicaIntent → Except Refusal (List ServicePlan)
  | [] => .ok []
  | entry :: rest =>
    match findService s.services entry.service with
    | none =>
      .error { kind := .placement, code := .serviceNotDeclared,
               detail := txt "withdrawal names an undeclared service",
               explanations := [makeExplanation .serviceNotDeclared .withdrawal
                 entry.service.text (txt "withdrawal names an undeclared service")] }
    | some definition => do
        let others ← withdrawalServices s rest
        return { service := definition.id, version := definition.version } :: others

/-- The plan of a withdrawal. -/
def withdrawalPlan (s : RuntimeState) (event : FabricEvent) (intent : PlacementIntent)
    (group : ServiceGroup) : Except Refusal DeploymentPlan := do
  let services ← withdrawalServices s intent.services
  let plan : DeploymentPlan :=
    { generation := intent.generation
      group := group.id
      kind := .withdraw
      topology := s.topologyGeneration
      policy := s.policyGeneration
      epoch := s.epoch
      boot := s.boot
      createdAt := event.instant
      services
      outcome := .ok }
  return plan.seal

/-- The plan of a rollback: the LAST retained plan of the target generation,
stamped with the present.  The source reads the target without looking
whether it is there; the model then reads the default generation. -/
def rollbackPlan (s : RuntimeState) (event : FabricEvent) (intent : PlacementIntent) :
    Except Refusal DeploymentPlan :=
  let refuse := fun (detail : String) =>
    Except.error { kind := .placement, code := .rollbackUnavailable, detail := txt detail,
                   explanations := [makeExplanation .rollbackUnavailable .rollback intent.id.text
                     (txt detail)] }
  let target := intent.rollbackTarget.getD default
  match (s.plans.filter (fun p => decide (p.generation = target))).getLast? with
  | none => refuse "rollback target generation is not retained"
  | some source =>
    if s.policy.allowRollbackAcrossPolicy = false ∧ source.policy ≠ s.policyGeneration then
      refuse "rollback target was planned under a different policy generation"
    else
      let plan := { source with
        generation := intent.generation
        kind := .rollback
        rollbackTarget := some target
        createdAt := event.instant
        epoch := s.epoch
        boot := s.boot
        topology := s.topologyGeneration
        policy := s.policyGeneration
        explanations := [makeExplanation .ok .rollback intent.id.text
          (txt "rollback to generation " ++ decimal target.value.toNat)] }
      .ok plan.seal

/-- The request that an intent makes of the planner. -/
def planRequest (s : RuntimeState) (event : FabricEvent) (intent : PlacementIntent)
    (group : ServiceGroup) (graph : DependencyGraph) (bounds : RuntimeBounds) : PlanRequest :=
  { topology := s.topology
    policy := s.policy
    services := s.services
    dependencies := graph
    group
    intent
    authority := s.authority
    generation := intent.generation
    now := event.instant
    epoch := s.epoch
    boot := s.boot
    bounds }

/-- The plan of every other kind of intent. -/
def placementPlan (s : RuntimeState) (event : FabricEvent) (intent : PlacementIntent)
    (group : ServiceGroup) (bounds : RuntimeBounds) (weights : PlacementWeights) :
    Except Refusal DeploymentPlan :=
  match DependencyGraph.build s.dependencies bounds.maxDependencies with
  | .error refusal =>
    .error { kind := .placement, code := refusal.code, detail := refusal.detail }
  | .ok graph =>
    let outcome := buildPlan (planRequest s event intent group graph bounds) weights
    if !outcome.feasible then
      .error { kind := .placement, code := outcome.primary, detail := txt "plan is infeasible",
               explanations := outcome.explanations }
    else .ok outcome.plan

/-- The plan of an intent, by its kind. -/
def intentPlan (s : RuntimeState) (event : FabricEvent) (intent : PlacementIntent)
    (group : ServiceGroup) (bounds : RuntimeBounds) (weights : PlacementWeights) :
    Except Refusal DeploymentPlan :=
  match intent.kind with
  | .withdraw => withdrawalPlan s event intent group
  | .rollback => rollbackPlan s event intent
  | _ => placementPlan s event intent group bounds weights

/-! ## §4. Authority claims and commit. -/

/-- One turn of the claim loop. -/
def claimReplica (s : RuntimeState) (event : FabricEvent) (group : ServiceGroup)
    (bounds : RuntimeBounds) (registry : AuthorityRegistry) (p : ServicePlan × PlannedReplica) :
    Except Refusal AuthorityRegistry :=
  match (findService s.services p.1.service).bind (fun d => d.isolation.exclusiveScope) with
  | none => .ok registry
  | some scope =>
    match registry.claim scope group.id p.2.dpu s.epoch s.boot event.instant bounds.maxDpus with
    | .ok claimed => .ok claimed
    | .error refusal =>
      .error { kind := .placement, code := refusal.code, detail := refusal.detail,
               explanations := [makeExplanation refusal.code .authority p.2.dpu.text
                 refusal.detail] }

/-- The claim loop. -/
def claimAll (s : RuntimeState) (event : FabricEvent) (group : ServiceGroup)
    (bounds : RuntimeBounds) (plan : DeploymentPlan) : Except Refusal AuthorityRegistry :=
  (ServicePlan.flatten plan.services).foldlM (claimReplica s event group bounds) s.authority

/-- The retained plans, and the ledger that accounts for the ones dropped. -/
def retainPlan (s : RuntimeState) (bounds : RuntimeBounds) (plan : DeploymentPlan) :
    List DeploymentPlan × TruncationLedger :=
  let plans := s.plans ++ [plan]
  if bounds.maxPlansRetained < plans.length then
    let excess := plans.length - bounds.maxPlansRetained
    (plans.drop excess,
     s.truncations.note (txt "plan.history") (UInt64.ofNat (excess + bounds.maxPlansRetained))
       (UInt64.ofNat bounds.maxPlansRetained) .historyTruncated)
  else (plans, s.truncations)

/-- The state after an accepted intent. -/
def commitIntent (s : RuntimeState) (bounds : RuntimeBounds) (plan : DeploymentPlan)
    (authority : AuthorityRegistry) (r : Reconciling) : RuntimeState :=
  let retained := if plan.kind ≠ .withdraw then retainPlan s bounds plan
    else (s.plans, s.truncations)
  { s with
    authority
    fences := r.fences
    plans := retained.1
    truncations := retained.2
    deploymentGeneration := plan.generation
    instances := sortInstances r.instances }

/-- `reduce_intent`, as checks, plan, claims, reconciliation. -/
def acceptIntent (s : RuntimeState) (event : FabricEvent) (intent : PlacementIntent)
    (bounds : RuntimeBounds) (weights : PlacementWeights) :
    Except Refusal (ApplyResult × RuntimeState) := do
  let group ← checkIntent s intent
  let plan ← intentPlan s event intent group bounds weights
  let authority ← claimAll s event group bounds plan
  match reconcile s plan group event bounds with
  | .error refusal =>
    .error { kind := .placement, code := refusal.code, detail := refusal.detail }
  | .ok r =>
    return (appliedResult .placement .ok [reconcileExplanation group r.stats,
        makeExplanation .ok .placement plan.id.text
          (txt "plan accepted at generation " ++ decimal plan.generation.value.toNat
            ++ txt " with " ++ decimal plan.stages.length ++ txt " stages")],
      commitIntent s bounds plan authority r)

/-- `reduce_intent`. -/
def reduceIntent (s : RuntimeState) (event : FabricEvent) (body : IntentSubmitted)
    (bounds : RuntimeBounds) (weights : PlacementWeights) : ApplyResult × RuntimeState :=
  match acceptIntent s event body.intent bounds weights with
  | .error refusal => (refusal.toResult, s)
  | .ok accepted => accepted

/-! ## §5. The dispatcher. -/

/-- `apply_event`. -/
def applyEvent (s : RuntimeState) (event : FabricEvent) (bounds : RuntimeBounds)
    (weights : PlacementWeights) : ApplyResult × RuntimeState :=
  match event.body with
  | .logicalTimeAdvanced body => reduceTime s body
  | .coordinatorAdvanced body => reduceCoordinator s event body
  | .serviceDeclared body => reduceService s body bounds
  | .groupDeclared body => reduceGroup s body bounds
  | .dependencyDeclared body => reduceDependency s body bounds
  | .policyAdvanced body => reducePolicy s event body
  | .topologyObserved body => reduceTopology s event body bounds
  | .capabilityObserved body => reduceCapability s event body bounds
  | .healthObserved body => reduceHealth s event body
  | .dpuAttached body => reduceAttached s event body
  | .dpuLost body => reduceLost s event body
  | .quiesceRequested body => reduceQuiesce s event body
  | .executionAcknowledged body => reduceAcknowledged s body
  | .effectReported body => reduceEffect s event body
  | .intentSubmitted body => reduceIntent s event body bounds weights

end DpuFabric
