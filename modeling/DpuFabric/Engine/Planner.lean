/-
  Engine.Planner — DETERMINISTIC PLACEMENT PLANNING (`engine/planner.hpp`,
  `engine/planner.cpp`).

  `buildPlan` is the source's `build_plan`, cut into its phases: intent
  validation, the service set, the dependency closure, the candidate loop,
  the placement loop, the rollout stages and the sealed plan.  The request's
  pointers are values here (its one caller sets all of them), and the maps
  keyed by identity text are functions of the identity.
-/
import DpuFabric.Engine.Authority
import DpuFabric.Engine.Dependency
import DpuFabric.Engine.Eligibility

namespace DpuFabric

open Lib

/-! ## §1. Instance identities and scores. -/

/-- `make_instance_id`. -/
def makeInstanceId (group : ServiceGroupId) (service : ServiceId) (index : ReplicaIndex) :
    InstanceId :=
  let readable := txt "i-" ++ group.text ++ txt "." ++ service.text ++ txt "."
    ++ decimal index.value.toNat
  if readable.length ≤ 64 then StrongId.literal readable
  else
    StrongId.literal (txt "i-" ++ ((sha256 (group.text ++ txt "." ++ service.text)).hex).take 24
      ++ txt "." ++ decimal index.value.toNat)

/-- `PlacementWeights`. -/
structure PlacementWeights where
  capacity : UInt64 := 1000
  isolationMatch : UInt64 := 100000
  domainSpread : UInt64 := 100
  dpuPressure : UInt64 := 10
  deriving DecidableEq, Repr

/-- The capacity term of a score. -/
def capacityScore (dpu : DpuRecord) (service : ServiceDefinition) (weights : PlacementWeights) :
    UInt64 :=
  match dpu.capacity.headroom dpu.allocated with
  | .error _ => 0
  | .ok free =>
    match free.headroomPermille service.resources with
    | .error _ => 0
    | .ok permille => saturatingAdd 0 (saturatingMul permille.toUInt64 weights.capacity)

/-- `score_placement`. -/
def scorePlacement (dpu : DpuRecord) (service : ServiceDefinition)
    (replicasOnDpu replicasInDomain : UInt32) (weights : PlacementWeights) : UInt64 :=
  let score := capacityScore dpu service weights
  let score := if service.isolation.kind ≠ .none ∧ dpu.profile.supports service.isolation.kind = true
    then saturatingAdd score weights.isolationMatch else score
  let slack : UInt64 := if 100 ≤ replicasInDomain then 0 else (100 - replicasInDomain).toUInt64
  let score := saturatingAdd score (saturatingMul slack weights.domainSpread)
  let penalty := saturatingMul replicasOnDpu.toUInt64 weights.dpuPressure
  if penalty < score then score - penalty else 0

/-! ## §2. Requests, explanations, refusals. -/

/-- `PlanRequest`. -/
structure PlanRequest where
  topology : TopologySnapshot
  policy : PolicyState
  services : List ServiceDefinition
  dependencies : DependencyGraph
  group : ServiceGroup
  intent : PlacementIntent
  authority : AuthorityRegistry
  generation : DeploymentGeneration
  now : LogicalInstant
  epoch : CoordinatorEpoch
  boot : BootIncarnation
  bounds : RuntimeBounds

/-- `ExplanationSink`: a bounded collector that counts what it drops. -/
structure ExplanationSink where
  out : List Explanation := []
  limit : Nat
  requested : UInt64 := 0
  dropped : UInt64 := 0

namespace ExplanationSink

/-- `ExplanationSink::add`. -/
def add (s : ExplanationSink) (e : Explanation) : ExplanationSink :=
  if s.limit ≤ s.out.length then
    { s with requested := s.requested + 1, dropped := s.dropped + 1 }
  else { s with requested := s.requested + 1, out := s.out ++ [e] }

/-- `ExplanationSink::flush`: the truncation record, if anything was dropped. -/
def flush (s : ExplanationSink) : List TruncationRecord :=
  if s.dropped = 0 then []
  else [{ container := txt "plan.explanations", requested := s.requested,
          accepted := s.requested - s.dropped, dropped := s.dropped, reason := .historyTruncated }]

end ExplanationSink

/-- `make_explanation`. -/
def makeExplanation (code : ReasonCode) (kind : DecisionKind) (subject note : Text) : Explanation :=
  { code, kind, subject, note }

/-- `sink.flush(); fail(code); return outcome;`. -/
def failPlan (sink : ExplanationSink) (code : ReasonCode)
    (truncations : List TruncationRecord) : PlanOutcome :=
  { feasible := false, primary := code, plan := {}, explanations := sink.out,
    truncations := truncations ++ sink.flush }

/-- `find_service` over the declared services. -/
def findService (services : List ServiceDefinition) (id : ServiceId) : Option ServiceDefinition :=
  services.find? (fun s => decide (s.id = id))

/-! ## §3. Intent validation. -/

/-- The checks in front of the planner: code and explanation of the first that
refuses. -/
def validateIntent (r : PlanRequest) : Option (ReasonCode × Explanation) :=
  let intent := r.intent
  if !intent.id.valid || !intent.group.valid || !intent.generation.valid then
    some (.malformedInput, makeExplanation .malformedInput .placement (txt "<intent>")
      (txt "intent identity or generation missing"))
  else if intent.group ≠ r.group.id then
    some (.groupNotDeclared, makeExplanation .groupNotDeclared .placement intent.group.text
      (txt "intent names a group that is not declared"))
  else if intent.services = [] then
    some (.malformedInput, makeExplanation .malformedInput .placement intent.id.text
      (txt "intent carries no service replica intents"))
  else if r.bounds.maxServices < intent.services.length then
    some (.boundExceeded, makeExplanation .boundExceeded .placement intent.id.text
      (txt "intent exceeds the service bound"))
  else if intent.kind = .rollback ∧ intent.rollbackTarget = none then
    some (.rollbackUnavailable, makeExplanation .rollbackUnavailable .rollback intent.id.text
      (txt "rollback intent has no target generation"))
  else
    let staging := intent.staging.validate r.policy.maxStageBatch.toNat
    if !staging.ok then
      some (staging.code, makeExplanation staging.code .placement intent.id.text
        (txt "invalid staging policy"))
    else none

/-! ## §4. The service set. -/

/-- What the loop over the intent's services collects. -/
structure ServiceSet where
  sink : ExplanationSink
  services : List ServiceId := []
  desired : List (ServiceId × UInt32) := []
  rejected : Bool := false

/-- `desired_by_service[id]`. -/
def ServiceSet.desiredOf (s : ServiceSet) (id : ServiceId) : UInt32 :=
  ((s.desired.find? (fun d => decide (d.1 = id))).map Prod.snd).getD 0

/-- The reason an entry of the intent is refused, if it is. -/
def refuseEntry (r : PlanRequest) (seen : List ServiceId) (entry : ServiceReplicaIntent) :
    Option Explanation :=
  match findService r.services entry.service with
  | none => some (makeExplanation .serviceNotDeclared .dependency entry.service.text
      (txt "service is not declared"))
  | some service =>
    if entry.service ∉ r.group.members then
      some (makeExplanation .intentNotAccepted .placement entry.service.text
        (txt "service is not a member of the group"))
    else
      let policyOk := service.replicas.validate r.bounds.maxReplicasPerService
      if !policyOk.ok then
        some (makeExplanation policyOk.code .placement entry.service.text
          (txt "service replica policy is invalid"))
      else if entry.desiredReplicas < service.replicas.min
          ∨ service.replicas.max < entry.desiredReplicas then
        some (makeExplanation .replicaBoundExceeded .placement entry.service.text
          (txt "desired replicas outside the declared replica policy"))
      else if r.policy.maxInstancesPerGroup < entry.desiredReplicas then
        some (makeExplanation .replicaBoundExceeded .placement entry.service.text
          (txt "desired replicas exceed policy ceiling"))
      else if entry.service ∈ seen then
        some (makeExplanation .duplicateIdentity .placement entry.service.text
          (txt "service intent appears twice"))
      else none

/-- One turn of the loop. -/
def ServiceSet.step (r : PlanRequest) (s : ServiceSet) (entry : ServiceReplicaIntent) : ServiceSet :=
  match refuseEntry r (s.desired.map Prod.fst) entry with
  | some e => { s with sink := s.sink.add e, rejected := true }
  | none =>
    { s with services := s.services ++ [entry.service],
             desired := s.desired ++ [(entry.service, entry.desiredReplicas)] }

def collectServices (r : PlanRequest) (sink : ExplanationSink) : ServiceSet :=
  r.intent.services.foldl (ServiceSet.step r) { sink }

/-- Requirements outside the intent: every one of them refuses. -/
def checkRequirements (r : PlanRequest) (s : ServiceSet) : ServiceSet :=
  s.services.foldl (fun acc service =>
    (r.dependencies.requirements service).foldl (fun acc required =>
      if required ∈ s.services then acc
      else
        let e := match findService r.services required with
          | none => makeExplanation .serviceNotDeclared .dependency service.text
              (txt "requires undeclared service " ++ required.text)
          | some _ => makeExplanation .dependencyUnsatisfied .dependency service.text
              (txt "requires " ++ required.text ++ txt " which is not part of the intent")
        { acc with sink := acc.sink.add e, rejected := true }) acc) s

/-- The cycle as the explanation spells it. -/
def cycleText : List ServiceId → Text
  | [] => []
  | [s] => s.text
  | s :: rest => s.text ++ txt " -> " ++ cycleText rest

/-! ## §5. Placement. -/

/-- What the placement loop carries from service to service. -/
structure Placement where
  sink : ExplanationSink
  replicasOnDpu : DpuId → UInt32 := fun _ => 0
  replicasInDomain : IsolationDomainId → UInt32 := fun _ => 0
  domainReplicas : IsolationDomainId → UInt32 := fun _ => 0
  remaining : DpuId → Option ResourceVector := fun _ => none
  scopeOwner : DpuId → Option ExclusiveScopeId
  services : List ServicePlan := []
  infeasible : Option ReasonCode := none

/-- Increments one entry of a counting map. -/
def bump {κ : Type} [DecidableEq κ] (f : κ → UInt32) (k : κ) : κ → UInt32 :=
  fun x => if x = k then f x + 1 else f x

/-- `Candidate`. -/
structure Candidate where
  dpu : DpuRecord
  score : UInt64
  evidence : Digest

/-- Why a device is no candidate for a service, if it is not. -/
def refuseCandidate (r : PlanRequest) (p : Placement) (service : ServiceDefinition)
    (dpu : DpuRecord) : Option Explanation :=
  let verdict := EligibilityEvaluator.evaluate dpu service r.policy r.now
  if !verdict.eligible then
    some (makeExplanation verdict.primary .eligibility dpu.id.text
      (txt "ineligible for " ++ service.id.text))
  else if verdict.unknown then
    some (makeExplanation verdict.primary .eligibility dpu.id.text
      (txt "unknown capability state blocks " ++ service.id.text))
  else
    match service.isolation.exclusiveScope, p.scopeOwner dpu.id with
    | some scope, some owner =>
      if owner ≠ scope then
        some (makeExplanation .exclusiveScopeConflict .authority dpu.id.text
          (txt "DPU is exclusively owned by scope " ++ owner.text))
      else none
    | _, _ => none

/-- One turn of the candidate loop. -/
def candidateStep (r : PlanRequest) (weights : PlacementWeights) (p : Placement)
    (service : ServiceDefinition) (acc : ExplanationSink × List Candidate) (dpu : DpuRecord) :
    ExplanationSink × List Candidate :=
  match refuseCandidate r p service dpu with
  | some e => (acc.1.add e, acc.2)
  | none =>
    (acc.1, acc.2 ++ [{
      dpu
      evidence := (EligibilityEvaluator.evaluate dpu service r.policy r.now).evidenceDigest
      score := scorePlacement dpu service (p.replicasOnDpu dpu.id)
        (p.replicasInDomain dpu.domain) weights }])

/-- Candidate order: score descending, then identity. -/
def Candidate.before (a b : Candidate) : Prop :=
  b.score < a.score ∨ (a.score = b.score ∧ a.dpu.id ≤ b.dpu.id)

instance : DecidableRel Candidate.before := fun _ _ =>
  inferInstanceAs (Decidable (_ ∨ (_ ∧ _)))

/-- What the replica loop of one service carries. -/
structure Placing where
  placement : Placement
  plan : ServicePlan
  domainsUsed : IsolationDomainId → UInt32 := fun _ => 0

/-- The per-device cap: the tighter of the group's policy and the ceiling. -/
def maxPerDpu (r : PlanRequest) : UInt32 :=
  let ceiling := if r.policy.maxReplicasPerDpuCeiling < 1 then 1 else r.policy.maxReplicasPerDpuCeiling
  let cap := r.group.antiAffinity.maxReplicasPerDpu
  if ceiling < cap then ceiling else cap

/-- Free resources of a device, as far as this plan has used them. -/
def Placement.free (p : Placement) (dpu : DpuRecord) : ResourceVector :=
  match p.remaining dpu.id with
  | some left => left
  | none =>
    match dpu.capacity.headroom dpu.allocated with
    | .ok left => left
    | .error _ => {}

/-- Whether the replica loop takes this candidate.  The per-domain count is
the group-wide one, the distinctness count is per service. -/
def Placing.accepts (r : PlanRequest) (service : ServiceDefinition) (s : Placing) (dpu : DpuRecord) :
    Bool :=
  decide (s.plan.placedReplicas < s.plan.desiredReplicas)
    && decide (s.placement.replicasOnDpu dpu.id < maxPerDpu r)
    && (match r.group.antiAffinity.maxReplicasPerDomain with
        | some cap => decide (s.placement.domainReplicas dpu.domain < cap)
        | none => true)
    && !(r.group.antiAffinity.requireDistinctDomains && decide (0 < s.domainsUsed dpu.domain))
    && (s.placement.free dpu).covers service.resources

/-- One turn of the replica loop; once the desired count is placed no further
candidate is accepted, which is the loop's `break`. -/
def Placing.step (r : PlanRequest) (service : ServiceDefinition) (s : Placing) (c : Candidate) :
    Placing :=
  if !s.accepts r service c.dpu then s
  else
    let p := s.placement
    let dpu := c.dpu
    { placement := { p with
        replicasOnDpu := bump p.replicasOnDpu dpu.id
        replicasInDomain := bump p.replicasInDomain dpu.domain
        domainReplicas := bump p.domainReplicas dpu.domain
        remaining := match (p.free dpu).subtract service.resources with
          | .ok after => fun d => if d = dpu.id then some after else p.remaining d
          | .error _ => p.remaining
        scopeOwner := match service.isolation.exclusiveScope with
          | some scope => fun d => if d = dpu.id then some scope else p.scopeOwner d
          | none => p.scopeOwner }
      plan := { s.plan with
        replicas := s.plan.replicas ++ [{
          index := ⟨s.plan.placedReplicas.toUInt64⟩
          dpu := dpu.id
          attachment := dpu.attachment
          domain := dpu.domain
          score := c.score
          eligibilityDigest := c.evidence }]
        placedReplicas := s.plan.placedReplicas + 1 }
      domainsUsed := bump s.domainsUsed dpu.domain }

/-- One turn of the loop over the ordered services. -/
def Placement.step (r : PlanRequest) (weights : PlacementWeights) (devices : List DpuRecord)
    (set : ServiceSet) (p : Placement) (id : ServiceId) : Placement :=
  match findService r.services id with
  | none => p
  | some service =>
    let found := devices.foldl (candidateStep r weights p service) (p.sink, [])
    let candidates := found.2.insertionSort Candidate.before
    let placing := candidates.foldl (Placing.step r service)
      { placement := { p with sink := found.1 },
        plan := { service := service.id, version := service.version,
                  desiredReplicas := set.desiredOf id, placedReplicas := 0 } }
    let plan := placing.plan
    let p := { placing.placement with services := placing.placement.services ++ [plan] }
    if plan.placedReplicas < plan.desiredReplicas then
      let code := if candidates = [] then ReasonCode.noEligibleDpu else .insufficientEligibleDpus
      { p with
        sink := p.sink.add (makeExplanation code .placement service.id.text
          (txt "placed " ++ decimal plan.placedReplicas.toNat ++ txt " of "
            ++ decimal plan.desiredReplicas.toNat ++ txt " replicas"))
        infeasible := some code }
    else p

/-- Candidate device order. -/
def orderedDevices (r : PlanRequest) : List DpuRecord :=
  r.topology.dpus.insertionSort (fun a b => a.id ≤ b.id)

/-- The planner's local view of exclusive ownership. -/
def initialOwners (r : PlanRequest) : DpuId → Option ExclusiveScopeId := fun d =>
  (r.authority.grants.find? (fun g => decide (g.dpu = d))).map AuthorityGrant.scope

/-- The placement loop. -/
def placeServices (r : PlanRequest) (weights : PlacementWeights) (set : ServiceSet)
    (sink : ExplanationSink) (order : List ServiceId) : Placement :=
  order.foldl (Placement.step r weights (orderedDevices r) set)
    { sink, scopeOwner := initialOwners r }

/-! ## §6. Rollout stages and the sealed plan. -/

/-- All planned replicas with the plan of their service, in plan order. -/
def ServicePlan.flatten (services : List ServicePlan) : List (ServicePlan × PlannedReplica) :=
  services.flatMap (fun sp => sp.replicas.map (fun replica => (sp, replica)))

/-- The order in which instances roll out. -/
def rolloutOrder (group : ServiceGroupId) (services : List ServicePlan) : List InstanceId :=
  (ServicePlan.flatten services).map (fun (sp, replica) =>
    makeInstanceId group sp.service replica.index)

/-- The staging loop.  The batch size is positive by validation, so the number
of instances is enough fuel; `none` is the stage bound. -/
def buildStages (batch : Nat) (maxUnavailable : UInt32) (maxStages : Nat) :
    Nat → List InstanceId → List PlanStage → Option (List PlanStage)
  | _, [], stages => some stages
  | 0, _, stages => some stages
  | fuel + 1, rest, stages =>
    if maxStages ≤ stages.length then none
    else buildStages batch maxUnavailable maxStages fuel (rest.drop batch)
      (stages ++ [{ index := UInt32.ofNat stages.length, instances := rest.take batch,
                    maxUnavailable }])

/-- The truncation record of a rollout that needs more stages than allowed. -/
def stageTruncation (r : PlanRequest) (total : Nat) : TruncationRecord :=
  let batch := r.intent.staging.batchSize.toNat
  let requested := UInt64.ofNat ((total + batch - 1) / batch)
  let accepted := UInt64.ofNat r.bounds.maxStages
  { container := txt "plan.stages", requested, accepted, dropped := requested - accepted,
    reason := .boundExceeded }

/-- Why a placed service is placed. -/
def placedExplanation (generation : DeploymentGeneration) (sp : ServicePlan) : Explanation :=
  makeExplanation .ok .placement sp.service.text
    (txt "placed " ++ decimal sp.placedReplicas.toNat ++ txt " replicas at generation "
      ++ decimal generation.value.toNat)

/-- The plan before it is sealed. -/
def planBody (r : PlanRequest) (services : List ServicePlan) (stages : List PlanStage) :
    DeploymentPlan :=
  { generation := r.intent.generation
    group := r.group.id
    kind := r.intent.kind
    rollbackTarget := r.intent.rollbackTarget
    topology := r.topology.generation
    policy := r.policy.generation
    epoch := r.epoch
    boot := r.boot
    createdAt := r.now
    services, stages
    outcome := .ok
    explanations := (services.map (placedExplanation r.intent.generation)).take
      r.bounds.maxExplanations }

/-- Staging and sealing of a feasible placement. -/
def finishPlan (r : PlanRequest) (p : Placement) : PlanOutcome :=
  let rollout := rolloutOrder r.group.id p.services
  match buildStages r.intent.staging.batchSize.toNat r.intent.staging.maxUnavailable
      r.bounds.maxStages rollout.length rollout [] with
  | none => failPlan p.sink .boundExceeded [stageTruncation r rollout.length]
  | some stages =>
    let sink := (p.services.map (placedExplanation r.intent.generation)).foldl
      ExplanationSink.add p.sink
    { feasible := true, primary := .ok, plan := (planBody r p.services stages).seal,
      explanations := sink.out, truncations := sink.flush }

/-- `build_plan`. -/
def buildPlan (r : PlanRequest) (weights : PlacementWeights) : PlanOutcome :=
  let sink : ExplanationSink := { limit := r.bounds.maxExplanations }
  match validateIntent r with
  | some (code, e) => failPlan (sink.add e) code []
  | none =>
    let set := collectServices r sink
    if set.rejected then failPlan set.sink .intentNotAccepted []
    else
      match r.dependencies.topologicalOrder set.services with
      | (.error _, cycle) =>
        failPlan (set.sink.add (makeExplanation .dependencyCycle .dependency (cycleText cycle)
          (txt "dependency cycle among intent services"))) .dependencyCycle []
      | (.ok order, _) =>
        let closed := checkRequirements r set
        if closed.rejected then failPlan closed.sink .dependencyUnsatisfied []
        else if r.bounds.maxDpus < r.topology.dpus.length then
          failPlan (closed.sink.add (makeExplanation .boundExceeded .placement
            (txt "<topology>") (txt "topology exceeds the DPU bound"))) .boundExceeded []
        else
          let p := placeServices r weights closed closed.sink order
          match p.infeasible with
          | some code => failPlan p.sink code []
          | none => finishPlan r p

end DpuFabric
