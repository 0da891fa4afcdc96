/-
  Engine.Reducers — ONE REDUCER PER EVENT KIND (`engine/runtime.cpp`).

  Every reducer has the same shape: checks that may refuse before anything
  is touched, and one effect.  The checks of `reduceX` are `xRefusal` (the
  first refusal, in the source's order) and the effect is a function of the
  state; `guardedBy` puts them together.  `reduceCoordinator` is the one
  reducer that can refuse AFTER it changed something, so it keeps its own
  body.
-/
import DpuFabric.Engine.State

namespace DpuFabric

open Lib

/-! ## §1. Time and coordinator. -/

/-- `reduce_time`. -/
def reduceTime (s : RuntimeState) (body : LogicalTimeAdvanced) : ApplyResult × RuntimeState :=
  guardedBy s
    (if body.now < s.clock then
      some (.explained .ingest .staleGeneration (txt "<clock>")
        (txt "logical time cannot move backwards"))
    else none)
    (appliedResult .ingest .ok
      [makeExplanation .ok .ingest (txt "<clock>") (txt "logical time advanced")],
     refreshHealth { s with clock := body.now })

/-- State after an accepted coordinator change. -/
def advanceCoordinator (s : RuntimeState) (event : FabricEvent) (body : CoordinatorAdvanced)
    (fences : FenceIssuer) : RuntimeState :=
  { s with
    authority := s.authority.fenceAll.2
    fences
    epoch := body.epoch
    coordinator := if body.coordinator.valid then body.coordinator else s.coordinator
    instances := s.instances.map (fun i => fenceInstance i event.instant .staleAuthority) }

/-- `reduce_coordinator`.  The grants are dropped before the fence issuer is
asked, so a refusal of the issuer leaves the registry empty. -/
def reduceCoordinator (s : RuntimeState) (event : FabricEvent) (body : CoordinatorAdvanced) :
    ApplyResult × RuntimeState :=
  guardedBy s
    (if body.epoch < s.epoch then
      some (.explained .authority .epochRegressed body.coordinator.text
        (txt "coordinator epoch cannot regress"))
    else none)
    (match s.fences.advanceEpoch body.epoch s.boot with
      | .error refusal =>
        ({ code := refusal.code, detail := refusal.detail, kind := .authority },
         { s with authority := s.authority.fenceAll.2 })
      | .ok fences =>
        (appliedResult .authority .ok [makeExplanation .ok .authority body.coordinator.text
          (txt "coordinator advanced to epoch " ++ decimal body.epoch.value.toNat ++ txt "; "
            ++ decimal s.authority.fenceAll.1 ++ txt " authority grants fenced")],
         advanceCoordinator s event body fences))

/-! ## §2. Declarations. -/

/-- The checks of `reduce_service`. -/
def serviceRefusal (s : RuntimeState) (service : ServiceDefinition) (bounds : RuntimeBounds) :
    Option Refusal :=
  if !service.id.valid || !service.version.valid then
    some (.explained .lifecycle .invalidIdentity service.id.text
      (txt "service identity or version missing"))
  else if bounds.maxTextBytes < service.displayName.length then
    some { kind := .lifecycle, code := .oversizedInput,
           detail := txt "service display name exceeds bound" }
  else if !(service.replicas.validate bounds.maxReplicasPerService).ok then
    some (.explained .lifecycle (service.replicas.validate bounds.maxReplicasPerService).code
      service.id.text (txt "invalid replica policy"))
  else if bounds.maxCapabilitiesPerDpu < service.compatibility.capabilities.length then
    some { kind := .lifecycle, code := .boundExceeded,
           detail := txt "capability requirement count exceeds bound" }
  else if service.compatibility.capabilities.any (fun c => !c.key.valid) then
    some { kind := .lifecycle, code := .invalidIdentity,
           detail := txt "capability requirement without a key" }
  else
    match findService s.services service.id with
    | some existing =>
      if service.version.less existing.version then
        some (.explained .lifecycle .generationRegressed service.id.text
          (txt "service version cannot regress"))
      else none
    | none =>
      if bounds.maxServices ≤ s.services.length then
        some { kind := .lifecycle, code := .boundExceeded, detail := txt "service table full" }
      else none

/-- The service table after a declaration: replaced where it was, or added. -/
def declareService (services : List ServiceDefinition) (service : ServiceDefinition) :
    List ServiceDefinition :=
  let updated : List ServiceDefinition := match findService services service.id with
    | none => services ++ [service]
    | some _ => services.map (fun c => if c.id = service.id then service else c)
  updated.insertionSort (fun a b => a.id ≤ b.id)

/-- `reduce_service`. -/
def reduceService (s : RuntimeState) (body : ServiceDeclared) (bounds : RuntimeBounds) :
    ApplyResult × RuntimeState :=
  guardedBy s (serviceRefusal s body.service bounds)
    (appliedResult .lifecycle .ok [makeExplanation .ok .lifecycle body.service.id.text
      (txt "service declared at version " ++ body.service.version.toText)],
     { s with services := declareService s.services body.service })

/-- The checks of `reduce_group`. -/
def groupRefusal (s : RuntimeState) (group : ServiceGroup) (bounds : RuntimeBounds) :
    Option Refusal :=
  if !group.id.valid then
    some { kind := .lifecycle, code := .invalidIdentity, detail := txt "group identity missing" }
  else if bounds.maxServices < group.members.length then
    some { kind := .lifecycle, code := .boundExceeded,
           detail := txt "group membership exceeds bound" }
  else if !group.antiAffinity.validate.ok then
    some (.explained .lifecycle group.antiAffinity.validate.code group.id.text
      (txt "invalid anti-affinity policy"))
  else
    match group.members.find? (fun m => (findService s.services m).isNone) with
    | some member =>
      some (.explained .lifecycle .serviceNotDeclared group.id.text
        (txt "group member " ++ member.text ++ txt " is not declared"))
    | none =>
      if (findGroup s.groups group.id).isNone ∧ bounds.maxServices ≤ s.groups.length then
        some { kind := .lifecycle, code := .boundExceeded, detail := txt "group table full" }
      else none

def declareGroup (groups : List ServiceGroup) (group : ServiceGroup) : List ServiceGroup :=
  let updated : List ServiceGroup := match findGroup groups group.id with
    | none => groups ++ [group]
    | some _ => groups.map (fun c => if c.id = group.id then group else c)
  updated.insertionSort (fun a b => a.id ≤ b.id)

/-- `reduce_group`. -/
def reduceGroup (s : RuntimeState) (body : GroupDeclared) (bounds : RuntimeBounds) :
    ApplyResult × RuntimeState :=
  guardedBy s (groupRefusal s body.group bounds)
    (appliedResult .lifecycle .ok
      [makeExplanation .ok .lifecycle body.group.id.text (txt "group declared")],
     { s with groups := declareGroup s.groups body.group })

/-- `reduce_dependency`. -/
def reduceDependency (s : RuntimeState) (body : DependencyDeclared) (bounds : RuntimeBounds) :
    ApplyResult × RuntimeState :=
  match DependencyGraph.build (s.dependencies ++ [body.dependency]) bounds.maxDependencies with
  | .error refusal =>
    ((Refusal.explained .dependency refusal.code body.dependency.id.text refusal.detail).toResult,
     s)
  | .ok graph =>
    guardedBy s
      (if (findService s.services body.dependency.fromService).isNone
          ∨ (findService s.services body.dependency.toService).isNone then
        some (.explained .dependency .serviceNotDeclared body.dependency.id.text
          (txt "dependency endpoint is not declared"))
      else none)
      (appliedResult .dependency .ok
        [makeExplanation .ok .dependency body.dependency.id.text (txt "dependency declared")],
       { s with dependencies := graph.edges })

/-- The checks of `reduce_policy`. -/
def policyRefusal (s : RuntimeState) (event : FabricEvent) (policy : PolicyState) :
    Option Refusal :=
  let refuse := fun code (detail : String) =>
    some (Refusal.explained .eligibility code (txt "<policy>") (txt detail))
  if !policy.generation.valid then refuse .invalidIdentity "policy generation missing"
  else if policy.generation < s.policyGeneration then
    refuse .staleGeneration "policy generation regressed"
  else if !policy.evidence.present then
    refuse .evidenceMissing "policy carries no evidence reference"
  else if !policy.evidence.freshAt event.instant then
    refuse .evidenceStale "policy evidence is stale at the event instant"
  else if policy.maxStageBatch = 0 ∨ policy.maxInstancesPerGroup = 0
      ∨ policy.maxReplicasPerDpuCeiling = 0 ∨ policy.evidenceValidityTicks = 0 then
    refuse .valueOutOfRange "policy carries an impossible zero bound"
  else none

/-- `reduce_policy`. -/
def reducePolicy (s : RuntimeState) (event : FabricEvent) (body : PolicyAdvanced) :
    ApplyResult × RuntimeState :=
  guardedBy s (policyRefusal s event body.policy)
    (appliedResult .eligibility .ok [makeExplanation .ok .eligibility (txt "<policy>")
      (txt "policy generation " ++ decimal body.policy.generation.value.toNat
        ++ txt " accepted")],
     { s with policy := body.policy, policyGeneration := body.policy.generation })

/-! ## §3. Topology. -/

/-- One device of an observed topology: its refusal, or the record as it is
taken over.  `prev` is the identity of the device before it in order. -/
def takeDevice (s : RuntimeState) (event : FabricEvent) (bounds : RuntimeBounds)
    (prev : Option DpuId) (dpu : DpuRecord) : Except Refusal DpuRecord :=
  if !dpu.id.valid || !dpu.attachment.valid || !dpu.domain.valid then
    .error (.explained .eligibility .invalidIdentity dpu.id.text
      (txt "device record is missing an identity"))
  else if prev = some dpu.id then
    .error (.explained .eligibility .duplicateIdentity dpu.id.text
      (txt "duplicate device " ++ dpu.id.text))
  else
    match dpu.capabilities.normalize bounds.maxCapabilitiesPerDpu with
    | .error refusal =>
      .error (.explained .eligibility refusal.code dpu.id.text
        (txt "invalid capability set for " ++ dpu.id.text))
    | .ok capabilities =>
      .ok { dpu with
        capabilities
        capabilityGeneration := if dpu.capabilityGeneration.valid then dpu.capabilityGeneration
          else s.capabilityGeneration
        healthFresh := dpu.healthEvidenceFresh event.instant }

/-- The device loop of `reduce_topology`, over the sorted devices. -/
def takeDevices (s : RuntimeState) (event : FabricEvent) (bounds : RuntimeBounds) :
    Option DpuId → List DpuRecord → Except Refusal (List DpuRecord)
  | _, [] => .ok []
  | prev, dpu :: rest => do
      let taken ← takeDevice s event bounds prev dpu
      let others ← takeDevices s event bounds (some dpu.id) rest
      return taken :: others

/-- The checks of `reduce_topology` in front of the device loop. -/
def topologyRefusal (s : RuntimeState) (snapshot : TopologySnapshot) (bounds : RuntimeBounds) :
    Option Refusal :=
  if !snapshot.generation.valid then
    some { kind := .eligibility, code := .invalidIdentity,
           detail := txt "topology generation missing" }
  else if snapshot.generation < s.topologyGeneration then
    some (.explained .eligibility .staleGeneration (txt "<topology>")
      (txt "topology generation regressed"))
  else if bounds.maxDpus < snapshot.dpus.length then
    some { kind := .eligibility, code := .boundExceeded,
           detail := txt "topology exceeds the DPU bound" }
  else none

/-- A device that left: its instances are lost, its grants released. -/
def removeDevice (event : FabricEvent) (s : RuntimeState) (id : DpuId) : RuntimeState :=
  { s with
    instances := s.instances.map (fun i => if i.dpu = id then loseInstance i event.instant else i)
    authority := releaseDevice s.authority id }

/-- Highest capability generation among the devices, from `floor` up. -/
def highestCapability (floor : CapabilityGeneration) (dpus : List DpuRecord) :
    CapabilityGeneration :=
  dpus.foldl (fun highest d =>
    if highest < d.capabilityGeneration then d.capabilityGeneration else highest) floor

/-- The effect of an accepted topology. -/
def acceptTopology (s : RuntimeState) (event : FabricEvent) (snapshot : TopologySnapshot)
    (dpus : List DpuRecord) : RuntimeState :=
  let candidate := { snapshot with dpus }
  let removed := (s.topology.dpus.filter (fun d => (candidate.find d.id).isNone)).map DpuRecord.id
  let replaced := { s with topology := candidate, topologyGeneration := snapshot.generation }
  let fenced := removed.foldl (removeDevice event) replaced
  refreshHealth { fenced with
    capabilityGeneration := highestCapability s.capabilityGeneration dpus }

/-- `reduce_topology`. -/
def reduceTopology (s : RuntimeState) (event : FabricEvent) (body : TopologyObserved)
    (bounds : RuntimeBounds) : ApplyResult × RuntimeState :=
  guardedBy s (topologyRefusal s body.snapshot bounds)
    (match takeDevices s event bounds none
        (body.snapshot.dpus.insertionSort (fun a b => a.id ≤ b.id)) with
      | .error refusal => (refusal.toResult, s)
      | .ok dpus =>
        (appliedResult .eligibility .ok [makeExplanation .ok .eligibility (txt "<topology>")
          (txt "accepted topology generation " ++ decimal body.snapshot.generation.value.toNat
            ++ txt " with " ++ decimal dpus.length ++ txt " devices")],
         acceptTopology s event body.snapshot dpus))

/-! ## §4. Device observations. -/

/-- The checks of `reduce_capability`, and the set as it is taken over. -/
def checkCapability (s : RuntimeState) (event : FabricEvent) (body : CapabilityObserved)
    (bounds : RuntimeBounds) : Except Refusal CapabilitySet :=
  let refuse := fun code (detail : String) =>
    Except.error (Refusal.explained .eligibility code body.dpu.text (txt detail))
  match s.topology.find body.dpu with
  | none => refuse .dpuUnavailable "capability evidence for an unknown device"
  | some dpu =>
    if body.generation < dpu.capabilityGeneration then
      refuse .staleGeneration "capability generation regressed"
    else
      match body.capabilities.normalize bounds.maxCapabilitiesPerDpu with
      | .error refusal => refuse refusal.code "invalid capability set"
      | .ok capabilities =>
        if !body.evidence.freshAt event.instant then
          refuse .evidenceStale "capability evidence is stale at the event instant"
        else if body.evidence.observedAt < dpu.healthObservedAt ∧ dpu.state = .lost then
          refuse .evidenceStale "capability evidence predates device loss"
        else .ok capabilities

/-- The device after an accepted capability observation. -/
def observeCapability (body : CapabilityObserved) (capabilities : CapabilitySet)
    (dpu : DpuRecord) : DpuRecord :=
  { dpu with
    capabilities
    capabilityGeneration := body.generation
    deviceEvidence := body.evidence
    topologyGeneration := if body.topology.valid ∧ dpu.topologyGeneration < body.topology
      then body.topology else dpu.topologyGeneration }

/-- `reduce_capability`. -/
def reduceCapability (s : RuntimeState) (event : FabricEvent) (body : CapabilityObserved)
    (bounds : RuntimeBounds) : ApplyResult × RuntimeState :=
  match checkCapability s event body bounds with
  | .error refusal => (refusal.toResult, s)
  | .ok capabilities =>
    (appliedResult .eligibility .ok [makeExplanation .ok .eligibility body.dpu.text
      (txt "capability generation " ++ decimal body.generation.value.toNat
        ++ txt " accepted")],
     { s with
       topology := s.topology.update body.dpu (observeCapability body capabilities)
       capabilityGeneration := if s.capabilityGeneration < body.generation then body.generation
         else s.capabilityGeneration })

/-- The checks of `reduce_health`. -/
def healthRefusal (s : RuntimeState) (event : FabricEvent) (body : HealthObserved) :
    Option Refusal :=
  let refuse := fun code (detail : String) =>
    some (Refusal.explained .eligibility code body.dpu.text (txt detail))
  match s.topology.find body.dpu with
  | none => refuse .dpuUnavailable "health evidence for an unknown device"
  | some dpu =>
    if !body.evidence.present then refuse .evidenceMissing "health evidence has no reference"
    else if body.evidence.observedAt < dpu.healthObservedAt then
      refuse .evidenceStale "health evidence predates the last invalidation"
    else if !body.evidence.freshAt event.instant then
      refuse .evidenceStale "health evidence is stale at the event instant"
    else none

/-- The device after an accepted health observation. -/
def observeHealth (clock : LogicalInstant) (event : FabricEvent) (body : HealthObserved)
    (dpu : DpuRecord) : DpuRecord :=
  { dpu with
    health := body.health
    healthEvidence := body.evidence
    healthObservedAt := body.evidence.observedAt
    healthFresh := decide (dpu.state ≠ .lost)
      && (body.evidence.freshAt clock || decide (clock ≤ event.instant)) }

/-- `reduce_health`. -/
def reduceHealth (s : RuntimeState) (event : FabricEvent) (body : HealthObserved) :
    ApplyResult × RuntimeState :=
  guardedBy s (healthRefusal s event body)
    (appliedResult .eligibility .ok [makeExplanation .ok .eligibility body.dpu.text
      (txt "health " ++ enumName HealthState.names body.health
        ++ txt " recorded with fresh evidence")],
     refreshHealth { s with
       topology := s.topology.update body.dpu (observeHealth s.clock event body) })

/-- The checks of `reduce_attached`. -/
def attachedRefusal (s : RuntimeState) (event : FabricEvent) (body : DpuAttached) :
    Option Refusal :=
  let refuse := fun code (detail : String) =>
    some (Refusal.explained .eligibility code body.dpu.text (txt detail))
  match s.topology.find body.dpu with
  | none => refuse .dpuUnavailable "attachment for an unknown device"
  | some dpu =>
    if !body.evidence.present || !body.evidence.freshAt event.instant then
      refuse (if body.evidence.present then .evidenceStale else .evidenceMissing)
        "attachment requires fresh evidence"
    else if body.evidence.observedAt < dpu.healthObservedAt then
      refuse .evidenceStale "attachment evidence predates the last invalidation"
    else if body.topology.valid ∧ body.topology < s.topologyGeneration then
      refuse .staleGeneration "attachment topology generation regressed"
    else none

/-- The device after an accepted attachment. -/
def attachDevice (body : DpuAttached) (dpu : DpuRecord) : DpuRecord :=
  { dpu with
    state := .attached
    attachment := if body.attachment.valid then body.attachment else dpu.attachment
    domain := if body.domain.valid then body.domain else dpu.domain
    deviceEvidence := body.evidence
    health := .unknown
    healthFresh := false
    healthObservedAt := body.evidence.observedAt }

/-- `reduce_attached`. -/
def reduceAttached (s : RuntimeState) (event : FabricEvent) (body : DpuAttached) :
    ApplyResult × RuntimeState :=
  guardedBy s (attachedRefusal s event body)
    (appliedResult .eligibility .ok [makeExplanation .ok .eligibility body.dpu.text
      (txt "device attached with fresh evidence")],
     { s with topology := s.topology.update body.dpu (attachDevice body) })

/-- The checks of `reduce_lost`; a second report is taken and changes nothing. -/
def lostRefusal (s : RuntimeState) (body : DpuLost) : Option Refusal :=
  match s.topology.find body.dpu with
  | none =>
    some (.explained .lifecycle .dpuUnavailable body.dpu.text
      (txt "loss reported for an unknown device"))
  | some dpu =>
    if dpu.state = .lost then
      some { kind := .lifecycle, code := .duplicateSuppressed,
             detail := txt "device already reported lost", accepted := true }
    else none

/-- The effect of an accepted loss. -/
def loseDevice (s : RuntimeState) (event : FabricEvent) (dpu : DpuId) : RuntimeState :=
  { s with
    topology := s.topology.update dpu (fun d =>
      { d with state := .lost, health := .unknown, healthFresh := false,
               healthObservedAt := event.instant })
    instances := s.instances.map (fun i => if i.dpu = dpu then loseInstance i event.instant else i)
    authority := releaseDevice s.authority dpu }

/-- `reduce_lost`. -/
def reduceLost (s : RuntimeState) (event : FabricEvent) (body : DpuLost) :
    ApplyResult × RuntimeState :=
  guardedBy s (lostRefusal s body)
    (appliedResult .lifecycle .ok [makeExplanation .dpuLost .lifecycle body.dpu.text
      (txt "device lost; "
        ++ decimal (s.instances.filter (fun i => decide (i.dpu = body.dpu))).length
        ++ txt " instances fenced and no continuity is claimed without fresh evidence")],
     loseDevice s event body.dpu)

/-! ## §5. Quiesce, acknowledgements, effects. -/

/-- The instances a quiesce request touches. -/
def quiesces (service : ServiceId) (i : InstanceState) : Bool :=
  decide (i.service = service) && decide (i.state ≠ .withdrawn)

/-- One touched instance: open attempts cancelled, quiescing. -/
def quiesceInstance (instant : LogicalInstant) (i : InstanceState) : InstanceState :=
  { cancelOpenAttempts i instant .quiesceRequested .quiescing with healthFresh := false }

def quiesceExplanation (service : ServiceId) (affected : Nat) : Explanation :=
  makeExplanation .quiesceRequested .withdrawal service.text
    (decimal affected
      ++ txt " instances quiesced; withdrawal still requires a verified effect")

/-- `reduce_quiesce`: taken but not applied when no instance is touched. -/
def reduceQuiesce (s : RuntimeState) (event : FabricEvent) (body : QuiesceRequested) :
    ApplyResult × RuntimeState :=
  let affected := (s.instances.filter (quiesces body.service)).length
  guardedBy s
    (if affected = 0 then
      some { kind := .withdrawal, code := .noPlacementChange, accepted := true,
             explanations := [quiesceExplanation body.service affected] }
    else none)
    (appliedResult .withdrawal .ok [quiesceExplanation body.service affected],
     { s with instances := s.instances.map (fun i =>
        if quiesces body.service i then quiesceInstance event.instant i else i) })

/-- The checks of `reduce_acknowledged`: position and entry of the instance. -/
def checkAcknowledged (s : RuntimeState) (body : ExecutionAcknowledged) :
    Except Refusal (Nat × InstanceState) :=
  match findInstance s.instances body.instanceId with
  | none => .error { kind := .lifecycle, code := .instanceNotFound,
                     detail := txt "acknowledgement for an unknown instance" }
  | some (k, i) =>
    if !s.fences.validate body.instanceId body.fence then
      .error (.explained .lifecycle .fenceMismatch body.instanceId.text
        (txt "acknowledgement carries a stale fence"))
    else
      match i.currentAttempt with
      | none =>
        .error (.explained .lifecycle .attemptSuperseded body.instanceId.text
          (txt "acknowledgement targets a superseded attempt"))
      | some a =>
        if a.number ≠ body.attempt ∨ a.isOpen = false then
          .error (.explained .lifecycle .attemptSuperseded body.instanceId.text
            (txt "acknowledgement targets a superseded attempt"))
        else .ok (k, i)

/-- An acknowledged instance. -/
def acknowledgeInstance (i : InstanceState) : InstanceState :=
  { i with
    attempts := mapLastAttempt (fun a => { a with phase := .acknowledged }) i.attempts
    state := .acknowledged }

/-- `reduce_acknowledged`. -/
def reduceAcknowledged (s : RuntimeState) (body : ExecutionAcknowledged) :
    ApplyResult × RuntimeState :=
  match checkAcknowledged s body with
  | .error refusal => (refusal.toResult, s)
  | .ok (k, i) =>
    (appliedResult .lifecycle .acknowledgementOnly
      [makeExplanation .acknowledgementOnly .lifecycle body.instanceId.text
        (txt "acknowledged; an acknowledgement is not a verified effect")],
     { s with instances := s.instances.set k (acknowledgeInstance i) })

/-- The checks of `reduce_effect`: position and entry of the instance. -/
def checkEffect (s : RuntimeState) (event : FabricEvent) (report : EffectReport) :
    Except Refusal (Nat × InstanceState) :=
  let refuse := fun code (detail : String) =>
    Except.error (Refusal.explained .lifecycle code report.instanceId.text (txt detail))
  match findInstance s.instances report.instanceId with
  | none => refuse .instanceNotFound "effect report for an unknown instance"
  | some (k, i) =>
    match i.currentAttempt with
    | none => refuse .attemptSuperseded "effect report targets a superseded attempt"
    | some attempt =>
      if attempt.number ≠ report.attempt then
        refuse .attemptSuperseded "effect report targets a superseded attempt"
      else if !s.fences.validate report.instanceId report.fence then
        refuse .fenceMismatch "effect report carries a stale fence"
      else if attempt.isOpen = false then
        refuse .attemptNotOpen "effect report targets a closed attempt"
      else if !report.evidence.present then
        refuse .evidenceMissing "effect report carries no evidence"
      else if report.evidence.observedAt < i.effectFencedAt then
        refuse .evidenceStale "effect evidence predates the instance fencing instant"
      else if !report.evidence.freshAt event.instant then
        refuse .evidenceStale "effect evidence is stale at the report instant"
      else if report.isPartial ∨ report.status = .partly then
        refuse .effectPartial "partial effect cannot be reported as success"
      else if report.status = .refused then
        refuse .effectReportUnmatched "executor refused the effect"
      else .ok (k, i)

/-- The last attempt, closed with an outcome. -/
def closeLastAttempt (i : InstanceState) (instant : LogicalInstant) (outcome : AttemptOutcome)
    (reason : ReasonCode) (phase : LifecycleState) : List AttemptRecord :=
  mapLastAttempt (fun a => { a with outcome, closeReason := reason, closedAt := instant, phase })
    i.attempts

/-- An instance whose executor reported failure. -/
def failInstance (i : InstanceState) (instant : LogicalInstant) : InstanceState :=
  { i with
    attempts := closeLastAttempt i instant .failed .effectFailed .failed
    state := .failed
    health := .unknown
    healthFresh := false }

/-- An instance whose withdrawal is proven. -/
def withdrawInstance (i : InstanceState) (instant : LogicalInstant) : InstanceState :=
  fenceInstanceWithoutState
    { i with
      attempts := closeLastAttempt i instant .verified .ok .verified
      state := .withdrawn
      health := .unknown
      healthFresh := false } instant .withdrawn

/-- An instance whose effect is proven. -/
def verifyInstance (i : InstanceState) (instant : LogicalInstant) (report : EffectReport) :
    InstanceState :=
  { i with
    attempts := closeLastAttempt i instant .verified .ok .verified
    state := .verified
    verifiedDigest := report.effectDigest
    verifiedAt := instant
    verifiedEvidence := report.evidence }

/-- The effect of a report that passed the checks. -/
def acceptEffect (s : RuntimeState) (event : FabricEvent) (report : EffectReport) (k : Nat)
    (i : InstanceState) : ApplyResult × RuntimeState :=
  if report.status = .failed then
    (appliedResult .lifecycle .effectFailed [makeExplanation .effectFailed .lifecycle
      report.instanceId.text (txt "executor reported failure; state is Failed")],
     { s with instances := s.instances.set k (failInstance i event.instant) })
  else if report.kind = .withdraw then
    (appliedResult .lifecycle .withdrawn [makeExplanation .withdrawn .withdrawal
      report.instanceId.text (txt "withdrawal verified; authority released")],
     { s with
       instances := s.instances.set k (withdrawInstance i event.instant)
       authority := releaseDevice s.authority i.dpu })
  else
    (appliedResult .lifecycle .ok [makeExplanation .ok .lifecycle report.instanceId.text
      (txt "effect verified against attempt " ++ decimal report.attempt.value.toNat)],
     { s with instances := s.instances.set k (verifyInstance i event.instant report) })

/-- `reduce_effect`. -/
def reduceEffect (s : RuntimeState) (event : FabricEvent) (body : EffectReported) :
    ApplyResult × RuntimeState :=
  match checkEffect s event body.report with
  | .error refusal => (refusal.toResult, s)
  | .ok (k, i) => acceptEffect s event body.report k i

end DpuFabric
