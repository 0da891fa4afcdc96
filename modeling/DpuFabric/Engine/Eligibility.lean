/-
  Engine.Eligibility — PLACEMENT ELIGIBILITY (`engine/eligibility.hpp`,
  `engine/eligibility.cpp`).

  One list of requirement results per (device, service) pair.  A requirement
  that cannot be evaluated against fresh evidence is `unknown`, and a device
  is eligible only when nothing is violated and nothing is unknown.
-/
import DpuFabric.Model.Service

namespace DpuFabric

/-- `RequirementOutcome`. -/
inductive RequirementOutcome where
  | satisfied | violated | unknown
  deriving DecidableEq, Repr

/-- `RequirementResult`. -/
structure RequirementResult where
  outcome : RequirementOutcome := .unknown
  code : ReasonCode := .ok
  subject : Text := []
  note : Text := []
  deriving DecidableEq, Repr

/-- `Eligibility`. -/
structure Eligibility where
  eligible : Bool := false
  unknown : Bool := false
  primary : ReasonCode := .ok
  results : List RequirementResult := []
  evidenceDigest : Digest := default
  topology : TopologyGeneration := default
  capability : CapabilityGeneration := default
  deriving DecidableEq, Repr

namespace EligibilityEvaluator

def satisfied (subject : Text) (note : String) : RequirementResult :=
  { outcome := .satisfied, code := .ok, subject, note := txt note }

def violated (code : ReasonCode) (subject note : Text) : RequirementResult :=
  { outcome := .violated, code, subject, note }

def unknown (code : ReasonCode) (subject note : Text) : RequirementResult :=
  { outcome := .unknown, code, subject, note }

/-- `ordered_compare`: `none` when the kinds cannot be ordered. -/
def orderedCompare (a b : CapabilityValue) : Option Ordering :=
  if a.kind ≠ b.kind then none
  else
    match a.kind with
    | .integer => some (compare a.integer.toInt b.integer.toInt)
    | .version =>
      some (if a.version.less b.version then .lt else if b.version.less a.version then .gt else .eq)
    | .flag => some (if a.flag = b.flag then .eq else if a.flag then .gt else .lt)
    | .text =>
      some (if Text.codes a.text < Text.codes b.text then .lt
        else if Text.codes b.text < Text.codes a.text then .gt else .eq)
    | .unknown => none

/-- `AtLeast` and `AtMost`: the comparison the operator accepts. -/
def evaluateOrdered (observed required : CapabilityValue) (subject : Text)
    (accepts : Ordering → Bool) : RequirementResult :=
  match orderedCompare observed required with
  | none => violated .unsupportedValue subject (txt "capability value kinds are not orderable")
  | some cmp =>
    if accepts cmp then satisfied subject "ordered"
    else violated .capabilityMismatch subject (txt "ordering requirement not met")

/-- `EligibilityEvaluator::evaluate_capability`. -/
def evaluateCapability (capabilities : CapabilitySet) (capabilitiesKnown : Bool)
    (requirement : CapabilityRequirement) : RequirementResult :=
  let subject := requirement.key.text
  if !capabilitiesKnown then
    unknown .capabilityUnknown subject
      (txt "capability state unknown: no fresh capability evidence")
  else
    match requirement.op, capabilities.find requirement.key with
    | .absent, none => satisfied subject "known absent"
    | .absent, some _ =>
      violated .capabilityMismatch subject (txt "capability present but must be absent")
    | _, none => violated .capabilityMissing subject (txt "capability absent from fresh evidence")
    | .present, some observed =>
      if observed.value.kind = .flag ∧ observed.value.flag = false then
        violated .capabilityMismatch subject (txt "capability flag is false")
      else satisfied subject "present"
    | .equals, some observed =>
      if observed.value = requirement.value then satisfied subject "equal"
      else violated .capabilityMismatch subject (txt "value differs: observed "
        ++ observed.value.toText ++ txt ", required " ++ requirement.value.toText)
    | .atLeast, some observed =>
      evaluateOrdered observed.value requirement.value subject (fun c => decide (c ≠ .lt))
    | .atMost, some observed =>
      evaluateOrdered observed.value requirement.value subject (fun c => decide (c ≠ .gt))
    | .oneOf, some observed =>
      if observed.value ∈ requirement.alternatives then satisfied subject "alternative"
      else violated .capabilityMismatch subject (txt "no alternative matched")

/-- The evidence chain: the result it contributes, if any; none means that the
capabilities are known. -/
def evidenceResult (dpu : DpuRecord) (policy : PolicyState) (now : LogicalInstant) :
    Option RequirementResult :=
  if !dpu.deviceEvidence.present then
    some (unknown .evidenceMissing dpu.id.text (txt "no device evidence reference"))
  else if !dpu.deviceEvidence.freshAt now then
    some (unknown .evidenceStale dpu.id.text
      (txt "device evidence is stale at the decision instant"))
  else if dpu.deviceEvidence.provenance.evidenceClass = .unsupported then
    some (unknown .capabilityUnknown dpu.id.text (txt "device evidence is marked unsupported"))
  else if dpu.deviceEvidence.provenance.evidenceClass = .synthetic
      ∧ policy.allowSyntheticEvidence = false then
    some (violated .capabilityUnknown dpu.id.text (txt "policy rejects synthetic device evidence"))
  else if !dpu.capabilityGeneration.valid then
    some (unknown .capabilityUnknown dpu.id.text (txt "no capability generation"))
  else none

/-- Identity and attachment of the device. -/
def deviceResults (dpu : DpuRecord) : List RequirementResult :=
  (if !dpu.id.valid then
    [violated .invalidIdentity (txt "<dpu>") (txt "device record has no identity")] else [])
  ++ (if dpu.state ≠ .attached then
    [violated .dpuUnavailable dpu.id.text
      (txt "device state is " ++ enumName DpuState.names dpu.state)] else [])

/-- Architecture, firmware and datapath, each only where it is required. -/
def profileResults (dpu : DpuRecord) (requirement : CompatibilityRequirement) (known : Bool) :
    List RequirementResult :=
  (match requirement.architecture with
    | none => []
    | some wanted =>
      if dpu.profile.architecture = .unknown then
        [unknown .capabilityUnknown dpu.id.text (txt "architecture unknown")]
      else if dpu.profile.architecture ≠ wanted then
        [violated .architectureMismatch dpu.id.text (txt "architecture is "
          ++ enumName DpuArchitecture.names dpu.profile.architecture)]
      else [satisfied dpu.id.text "architecture"])
  ++ (match requirement.minFirmware with
    | none => []
    | some level =>
      if !known then [unknown .capabilityUnknown dpu.id.text (txt "firmware level unknown")]
      else if dpu.profile.firmware.less level then
        [violated .firmwareLevelUnsupported dpu.id.text (txt "firmware "
          ++ dpu.profile.firmware.toText ++ txt " below required " ++ level.toText)]
      else [satisfied dpu.id.text "firmware"])
  ++ (match requirement.datapath with
    | none => []
    | some wanted =>
      if wanted = .unspecified then []
      else if !known then
        [unknown .capabilityUnknown dpu.id.text (txt "datapath class unknown")]
      else if dpu.profile.datapath ≠ wanted then
        [violated .datapathUnsupported dpu.id.text (txt "datapath is "
          ++ enumName DatapathClass.names dpu.profile.datapath)]
      else [satisfied dpu.id.text "datapath"])

/-- Isolation: the required kinds, the exclusive scope a dedicated device
needs, and the kind of the service itself. -/
def isolationResults (dpu : DpuRecord) (service : ServiceDefinition) (policy : PolicyState)
    (known : Bool) : List RequirementResult :=
  service.compatibility.requiredIsolation.map (fun kind =>
    if !known then
      unknown .capabilityUnknown dpu.id.text
        (txt "isolation " ++ enumName IsolationKind.names kind ++ txt " unknown")
    else if !dpu.profile.supports kind then
      violated .isolationUnsupported dpu.id.text
        (txt "isolation " ++ enumName IsolationKind.names kind ++ txt " unsupported")
    else satisfied dpu.id.text "isolation")
  ++ (if service.isolation.kind = .dedicatedDevice
        ∧ policy.requireExclusiveScopeForDedicatedDevice = true
        ∧ service.isolation.exclusiveScope = none then
      [violated .exclusiveScopeRequired service.id.text
        (txt "dedicated device isolation requires an exclusive scope")] else [])
  ++ (if service.isolation.kind ≠ .none ∨ service.isolation.exclusiveScope.isSome then
      if !known then
        [unknown .capabilityUnknown dpu.id.text (txt "isolation capability unknown")]
      else if service.isolation.kind ≠ .none ∧ dpu.profile.supports service.isolation.kind = false
      then [violated .isolationUnsupported dpu.id.text (txt "service isolation kind unsupported")]
      else [satisfied dpu.id.text "isolation kind"]
    else [])

/-- Capacity: an all-zero capacity, or one without fresh evidence, is unknown. -/
def capacityResult (dpu : DpuRecord) (service : ServiceDefinition) (known : Bool) :
    RequirementResult :=
  if !known || dpu.capacity.isZero then
    unknown .capacityUnknown dpu.id.text (txt "device capacity unknown")
  else
    match dpu.capacity.headroom dpu.allocated with
    | .error _ =>
      violated .allocationExhausted dpu.id.text (txt "accounted allocation exceeds capacity")
    | .ok free =>
      if !free.covers service.resources then
        violated .allocationExhausted dpu.id.text (txt "insufficient free capacity")
      else satisfied dpu.id.text "capacity"

/-- The aggregation loop: violated, unknown, primary code. -/
def aggregate (results : List RequirementResult) : Bool × Bool × ReasonCode :=
  results.foldl (fun (violated, unknown, primary) entry =>
    match entry.outcome with
    | .violated => (true, unknown, if violated then primary else entry.code)
    | .unknown =>
      (violated, true, if violated = false ∧ primary = .ok then entry.code else primary)
    | .satisfied => (violated, unknown, primary)) (false, false, .ok)

/-- `EligibilityEvaluator::evaluate`. -/
def evaluate (dpu : DpuRecord) (service : ServiceDefinition) (policy : PolicyState)
    (now : LogicalInstant) : Eligibility :=
  let evidence := evidenceResult dpu policy now
  let known := evidence.isNone
  let results := deviceResults dpu ++ evidence.toList
    ++ profileResults dpu service.compatibility known
    ++ isolationResults dpu service policy known
    ++ [capacityResult dpu service known]
    ++ service.compatibility.capabilities.map (evaluateCapability dpu.capabilities known)
  let (violated, unknown, primary) := aggregate results
  { eligible := !violated && !unknown, unknown, primary, results,
    evidenceDigest := dpu.deviceEvidence.digest, topology := dpu.topologyGeneration,
    capability := dpu.capabilityGeneration }

end EligibilityEvaluator

end DpuFabric
