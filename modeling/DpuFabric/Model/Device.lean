/-
  Model.Device — CAPABILITIES, EVIDENCE AND TOPOLOGY (`model/capability.hpp`,
  `model/topology.hpp`, `model/model.cpp`).

  Records with their archive descriptions, and the checks the reducers run
  on them before they believe an observation.
-/
import DpuFabric.Core.Archive
import DpuFabric.Lib.HalvingSearch

namespace DpuFabric

open Lib

/-! ## §1. Capabilities. -/

/-- `CapabilityValue`. -/
structure CapabilityValue where
  kind : CapabilityValueKind := .unknown
  flag : Bool := false
  integer : Int64 := 0
  text : Text := []
  version : ServiceVersion := {}
  deriving DecidableEq, Repr

def CapabilityValue.visit : Visit CapabilityValue :=
  .object "CapabilityValue" (by decide)
    (.field "kind" (.enum CapabilityValueKind.names) <| .field "flag" .bool <|
     .field "integer" .i64 <| .field "text" .text <| .last "version" ServiceVersion.visit)
    (fun v => (v.kind, v.flag, v.integer, v.text, v.version))
    (fun (kind, flag, integer, text, version) =>
      { kind, flag, integer, text, version })

/-- `Capability`. -/
structure Capability where
  key : CapabilityKey := default
  value : CapabilityValue := {}
  generation : CapabilityGeneration := default
  deriving DecidableEq, Repr

def Capability.visit : Visit Capability :=
  .object "Capability" (by decide)
    (.field "key" .id <| .field "value" CapabilityValue.visit <| .last "generation" .counter)
    (fun v => (v.key, v.value, v.generation))
    (fun (key, value, generation) =>
      { key, value, generation })

/-- `CapabilitySet`. -/
structure CapabilitySet where
  entries : List Capability := []
  deriving DecidableEq, Repr

def CapabilitySet.visit : Visit CapabilitySet :=
  .object "CapabilitySet" (by decide)
    (.last "entries" (.vec Capability.visit))
    (fun v => v.entries) (fun entries => { entries })

/-- `std::to_string` of a signed number. -/
def signedDecimal (n : Int) : Text :=
  if n < 0 then txt "-" ++ decimal n.natAbs else decimal n.natAbs

/-- `CapabilityValue::to_string`. -/
def CapabilityValue.toText (v : CapabilityValue) : Text :=
  match v.kind with
  | .unknown => txt "unknown"
  | .flag => if v.flag then txt "true" else txt "false"
  | .integer => signedDecimal v.integer.toInt
  | .text => v.text
  | .version => v.version.toText

/-- The entry checks of `normalize`, after sorting; `prev` is the key of the
entry before. -/
def CapabilitySet.checkEntries (prev : Option CapabilityKey) : List Capability → Option Status
  | [] => none
  | entry :: rest =>
    if !entry.key.valid then some (refuse .invalidIdentity (txt "capability key missing"))
    else if entry.value.kind = .unknown then some (refuse .capabilityUnknown entry.key.text)
    else if 256 < entry.value.text.length then some (refuse .oversizedInput entry.key.text)
    else if prev = some entry.key then some (refuse .duplicateIdentity entry.key.text)
    else checkEntries (some entry.key) rest

/-- `CapabilitySet::normalize`: the set in key order, or the refusal. -/
def CapabilitySet.normalize (s : CapabilitySet) (maxEntries : Nat) : Result CapabilitySet :=
  if maxEntries < s.entries.length then
    .error (refuse .boundExceeded (txt "capability set exceeds bound"))
  else
    let sorted := s.entries.insertionSort (fun a b => a.key ≤ b.key)
    match CapabilitySet.checkEntries none sorted with
    | some refusal => .error refusal
    | none => .ok { entries := sorted }

/-- `CapabilitySet::find`. -/
def CapabilitySet.find (s : CapabilitySet) (key : CapabilityKey) : Option Capability :=
  (findKey Capability.key s.entries key).bind (fun i => s.entries[i]?)

/-- `DpuProfile`. -/
structure DpuProfile where
  architecture : DpuArchitecture := .unknown
  firmware : FirmwareApiLevel := {}
  isolation : List IsolationKind := []
  datapath : DatapathClass := .unspecified
  vendor : Text := []
  model : Text := []
  deriving DecidableEq, Repr

def DpuProfile.visit : Visit DpuProfile :=
  .object "DpuProfile" (by decide)
    (.field "architecture" (.enum DpuArchitecture.names) <|
     .field "firmware" FirmwareApiLevel.visit <|
     .field "isolation" (.vec (.enum IsolationKind.names)) <|
     .field "datapath" (.enum DatapathClass.names) <| .field "vendor" .text <|
     .last "model" .text)
    (fun v => (v.architecture, v.firmware, v.isolation, v.datapath, v.vendor, v.model))
    (fun (architecture, firmware, isolation, datapath, vendor, model) =>
      { architecture, firmware, isolation, datapath, vendor, model })

/-- `CapabilityRequirement`. -/
structure CapabilityRequirement where
  key : CapabilityKey := default
  op : CapabilityOp := .present
  value : CapabilityValue := {}
  alternatives : List CapabilityValue := []
  deriving DecidableEq, Repr

def CapabilityRequirement.visit : Visit CapabilityRequirement :=
  .object "CapabilityRequirement" (by decide)
    (.field "key" .id <| .field "op" (.enum CapabilityOp.names) <|
     .field "value" CapabilityValue.visit <| .last "alternatives" (.vec CapabilityValue.visit))
    (fun v => (v.key, v.op, v.value, v.alternatives))
    (fun (key, op, value, alternatives) =>
      { key, op, value, alternatives })

/-- `CompatibilityRequirement`. -/
structure CompatibilityRequirement where
  architecture : Option DpuArchitecture := none
  minFirmware : Option FirmwareApiLevel := none
  requiredIsolation : List IsolationKind := []
  datapath : Option DatapathClass := none
  capabilities : List CapabilityRequirement := []
  deriving DecidableEq, Repr

def CompatibilityRequirement.visit : Visit CompatibilityRequirement :=
  .object "CompatibilityRequirement" (by decide)
    (.field "architecture" (.opt (.enum DpuArchitecture.names)) <|
     .field "min_firmware" (.opt FirmwareApiLevel.visit) <|
     .field "required_isolation" (.vec (.enum IsolationKind.names)) <|
     .field "datapath" (.opt (.enum DatapathClass.names)) <|
     .last "capabilities" (.vec CapabilityRequirement.visit))
    (fun v => (v.architecture, v.minFirmware, v.requiredIsolation, v.datapath, v.capabilities))
    (fun (architecture, minFirmware, requiredIsolation, datapath, capabilities) =>
      { architecture, minFirmware, requiredIsolation, datapath, capabilities })

/-- `IsolationRequirement`. -/
structure IsolationRequirement where
  kind : IsolationKind := .none
  exclusiveScope : Option ExclusiveScopeId := none
  deriving DecidableEq, Repr

def IsolationRequirement.visit : Visit IsolationRequirement :=
  .object "IsolationRequirement" (by decide)
    (.field "kind" (.enum IsolationKind.names) <| .last "exclusive_scope" (.opt .id))
    (fun v => (v.kind, v.exclusiveScope))
    (fun (kind, exclusiveScope) =>
      { kind, exclusiveScope })

/-- `ReplicaPolicy`. -/
structure ReplicaPolicy where
  min : UInt32 := 0
  preferred : UInt32 := 1
  max : UInt32 := 1
  deriving DecidableEq, Repr

def ReplicaPolicy.visit : Visit ReplicaPolicy :=
  .object "ReplicaPolicy" (by decide)
    (.field "min" .u32 <| .field "preferred" .u32 <| .last "max" .u32)
    (fun v => (v.min, v.preferred, v.max))
    (fun (min, preferred, max) =>
      { min, preferred, max })

/-- `AntiAffinityPolicy`. -/
structure AntiAffinityPolicy where
  spreadAcrossDpus : Bool := true
  maxReplicasPerDpu : UInt32 := 1
  maxReplicasPerDomain : Option UInt32 := none
  requireDistinctDomains : Bool := false
  deriving DecidableEq, Repr

def AntiAffinityPolicy.visit : Visit AntiAffinityPolicy :=
  .object "AntiAffinityPolicy" (by decide)
    (.field "spread_across_dpus" .bool <| .field "max_replicas_per_dpu" .u32 <|
     .field "max_replicas_per_domain" (.opt .u32) <| .last "require_distinct_domains" .bool)
    (fun v => (v.spreadAcrossDpus, v.maxReplicasPerDpu, v.maxReplicasPerDomain,
      v.requireDistinctDomains))
    (fun (spreadAcrossDpus, maxReplicasPerDpu, maxReplicasPerDomain, requireDistinctDomains) =>
      { spreadAcrossDpus, maxReplicasPerDpu, maxReplicasPerDomain, requireDistinctDomains })

/-- `DpuProfile::supports`. -/
def DpuProfile.supports (p : DpuProfile) (kind : IsolationKind) : Bool :=
  decide (kind ∈ p.isolation)

/-- `ReplicaPolicy::validate`. -/
def ReplicaPolicy.validate (p : ReplicaPolicy) (ceiling : Nat) : Status :=
  if p.max = 0 then refuse .valueOutOfRange (txt "max replicas must be positive")
  else if p.preferred < p.min ∨ p.max < p.preferred then
    refuse .valueOutOfRange (txt "replica policy is not monotone")
  else if ceiling < p.max.toNat then
    refuse .replicaBoundExceeded (txt "max replicas exceeds bound")
  else .success

/-- `AntiAffinityPolicy::validate`. -/
def AntiAffinityPolicy.validate (p : AntiAffinityPolicy) : Status :=
  if p.maxReplicasPerDpu = 0 then
    refuse .valueOutOfRange (txt "max replicas per DPU must be positive")
  else if p.maxReplicasPerDomain = some 0 then
    refuse .valueOutOfRange (txt "max replicas per domain must be positive")
  else .success

/-! ## §2. Provenance and evidence. -/

/-- `Provenance`. -/
structure Provenance where
  origin : OriginId := default
  originEpoch : OriginEpoch := default
  originSeq : Sequence := default
  observedAt : LogicalInstant := {}
  wallClock : WallClockMs := {}
  evidenceClass : EvidenceClass := .unknown
  source : Text := []
  deriving DecidableEq, Repr

def Provenance.visit : Visit Provenance :=
  .object "Provenance" (by decide)
    (.field "origin" .id <| .field "origin_epoch" .counter <| .field "origin_seq" .counter <|
     .field "observed_at" LogicalInstant.visit <| .field "wall_clock" WallClockMs.visit <|
     .field "evidence_class" (.enum EvidenceClass.names) <| .last "source" .text)
    (fun v => (v.origin, v.originEpoch, v.originSeq, v.observedAt, v.wallClock, v.evidenceClass,
      v.source))
    (fun (origin, originEpoch, originSeq, observedAt, wallClock, evidenceClass, source) =>
      { origin, originEpoch, originSeq, observedAt, wallClock, evidenceClass, source })

/-- `EvidenceRef`. -/
structure EvidenceRef where
  id : EvidenceId := default
  kind : EvidenceKind := .topology
  capabilityGeneration : CapabilityGeneration := default
  topologyGeneration : TopologyGeneration := default
  policyGeneration : PolicyGeneration := default
  observedAt : LogicalInstant := {}
  validUntil : LogicalInstant := {}
  digest : Digest := default
  provenance : Provenance := {}
  deriving DecidableEq, Repr

def EvidenceRef.visit : Visit EvidenceRef :=
  .object "EvidenceRef" (by decide)
    (.field "id" .id <| .field "kind" (.enum EvidenceKind.names) <|
     .field "capability_generation" .counter <| .field "topology_generation" .counter <|
     .field "policy_generation" .counter <| .field "observed_at" LogicalInstant.visit <|
     .field "valid_until" LogicalInstant.visit <| .field "digest" .digest <|
     .last "provenance" Provenance.visit)
    (fun v => (v.id, v.kind, v.capabilityGeneration, v.topologyGeneration, v.policyGeneration,
      v.observedAt, v.validUntil, v.digest, v.provenance))
    (fun (id, kind, capabilityGeneration, topologyGeneration, policyGeneration, observedAt,
      validUntil, digest, provenance) =>
      { id, kind, capabilityGeneration, topologyGeneration, policyGeneration, observedAt,
        validUntil, digest, provenance })

/-- `EvidenceRef::fresh_at`: evaluated at a logical instant. -/
def EvidenceRef.freshAt (e : EvidenceRef) (now : LogicalInstant) : Bool :=
  decide (now ≤ e.validUntil) && decide (e.observedAt ≤ now)

/-- `EvidenceRef::present`. -/
def EvidenceRef.present (e : EvidenceRef) : Bool := e.id.valid

/-! ## §3. Topology. -/

/-- `DpuRecord`. -/
structure DpuRecord where
  id : DpuId := default
  attachment : HostAttachmentId := default
  domain : IsolationDomainId := default
  profile : DpuProfile := {}
  capabilities : CapabilitySet := {}
  capacity : ResourceVector := {}
  allocated : ResourceVector := {}
  state : DpuState := .unknown
  topologyGeneration : TopologyGeneration := default
  capabilityGeneration : CapabilityGeneration := default
  deviceEvidence : EvidenceRef := {}
  healthEvidence : EvidenceRef := {}
  health : HealthState := .unknown
  healthObservedAt : LogicalInstant := {}
  healthFresh : Bool := false
  deriving DecidableEq, Repr

def DpuRecord.visit : Visit DpuRecord :=
  .object "DpuRecord" (by decide)
    (.field "id" .id <| .field "attachment" .id <| .field "domain" .id <|
     .field "profile" DpuProfile.visit <| .field "capabilities" CapabilitySet.visit <|
     .field "capacity" ResourceVector.visit <| .field "allocated" ResourceVector.visit <|
     .field "state" (.enum DpuState.names) <| .field "topology_generation" .counter <|
     .field "capability_generation" .counter <| .field "device_evidence" EvidenceRef.visit <|
     .field "health_evidence" EvidenceRef.visit <| .field "health" (.enum HealthState.names) <|
     .field "health_observed_at" LogicalInstant.visit <| .last "health_fresh" .bool)
    (fun v => (v.id, v.attachment, v.domain, v.profile, v.capabilities, v.capacity, v.allocated,
      v.state, v.topologyGeneration, v.capabilityGeneration, v.deviceEvidence, v.healthEvidence,
      v.health, v.healthObservedAt, v.healthFresh))
    (fun (id, attachment, domain, profile, capabilities, capacity, allocated, state,
      topologyGeneration, capabilityGeneration, deviceEvidence, healthEvidence, health,
      healthObservedAt, healthFresh) =>
      { id, attachment, domain, profile, capabilities, capacity, allocated, state,
        topologyGeneration, capabilityGeneration, deviceEvidence, healthEvidence, health,
        healthObservedAt, healthFresh })

/-- `TopologySnapshot`. -/
structure TopologySnapshot where
  generation : TopologyGeneration := default
  observedAt : LogicalInstant := {}
  dpus : List DpuRecord := []
  evidence : EvidenceRef := {}
  provenance : Provenance := {}
  deriving DecidableEq, Repr

def TopologySnapshot.visit : Visit TopologySnapshot :=
  .object "TopologySnapshot" (by decide)
    (.field "generation" .counter <| .field "observed_at" LogicalInstant.visit <|
     .field "dpus" (.vec DpuRecord.visit) <| .field "evidence" EvidenceRef.visit <|
     .last "provenance" Provenance.visit)
    (fun v => (v.generation, v.observedAt, v.dpus, v.evidence, v.provenance))
    (fun (generation, observedAt, dpus, evidence, provenance) =>
      { generation, observedAt, dpus, evidence, provenance })

/-- `DpuRecord::attached`. -/
def DpuRecord.attached (d : DpuRecord) : Bool := decide (d.state = .attached)

/-- `TopologySnapshot::find`: the first device with that identity. -/
def TopologySnapshot.find (t : TopologySnapshot) (id : DpuId) : Option DpuRecord :=
  t.dpus.find? (fun d => decide (d.id = id))

/-- Assignment through the pointer that the mutable `find` returns. -/
def TopologySnapshot.update (t : TopologySnapshot) (id : DpuId) (f : DpuRecord → DpuRecord) :
    TopologySnapshot :=
  { t with dpus := t.dpus.modify (t.dpus.findIdx (fun d => decide (d.id = id))) f }

theorem TopologySnapshot.find_update (t : TopologySnapshot) (id : DpuId)
    {f : DpuRecord → DpuRecord} (hf : ∀ r, (f r).id = r.id) (d : DpuId) :
    (t.update id f).find d = if d = id then (t.find d).map f else t.find d := by
  simp only [update, find]
  induction t.dpus with
  | nil => simp
  | cons r rest ih =>
    by_cases hr : r.id = id
    · by_cases hd : d = id
      · subst hd
        simp [List.findIdx_cons, hr, hf]
      · simp [List.findIdx_cons, hr, hd, hf, Ne.symm hd]
    · by_cases hrd : r.id = d
      · have hd : d ≠ id := fun h => hr (hrd.trans h)
        simp [List.findIdx_cons, hrd, hd]
      · simpa [List.findIdx_cons, hr, hrd] using ih

theorem TopologySnapshot.find_map (t : TopologySnapshot) {f : DpuRecord → DpuRecord}
    (hf : ∀ r, (f r).id = r.id) (d : DpuId) :
    TopologySnapshot.find { t with dpus := t.dpus.map f } d = (t.find d).map f := by
  simp [find, List.find?_map, Function.comp_def, hf]

theorem TopologySnapshot.find_id {t : TopologySnapshot} {d : DpuId} {r : DpuRecord}
    (h : t.find d = some r) : r.id = d := by
  simpa using List.find?_some h

end DpuFabric
