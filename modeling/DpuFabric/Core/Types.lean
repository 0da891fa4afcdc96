/-
  Core.Types — IDENTITIES, COUNTERS, TIME, VERSIONS (`core/types.hpp`,
  `core/resources.cpp`).

  Textual identities carry the proof that their text went through the parse
  boundary, so an ill-formed identity cannot be built; the phantom tag keeps
  a device identity from being used where a service identity is expected.
  Counters and instants are 64-bit words ordered by their value.
-/
import Mathlib.Data.Prod.Lex
import DpuFabric.Core.Reason

namespace DpuFabric

/-! ## §1. Enumerations (`DPUF_DECLARE_ENUM`), each with its table of names. -/

inductive DpuArchitecture where
  | unknown | aarch64 | x86_64 | riscV64
  deriving DecidableEq, Repr, Inhabited

def DpuArchitecture.names : List (DpuArchitecture × String) := [
  (.unknown, "Unknown"), (.aarch64, "Aarch64"), (.x86_64, "X86_64"), (.riscV64, "RiscV64")]

inductive DatapathClass where
  | unspecified | none | packetProcessor | cryptoOffload | storageOffload | memoryFabric
  deriving DecidableEq, Repr, Inhabited

def DatapathClass.names : List (DatapathClass × String) := [
  (.unspecified, "Unspecified"), (.none, "None"), (.packetProcessor, "PacketProcessor"),
  (.cryptoOffload, "CryptoOffload"), (.storageOffload, "StorageOffload"),
  (.memoryFabric, "MemoryFabric")]

inductive IsolationKind where
  | none | process | virtualization | confidentialDomain | dedicatedDevice
  deriving DecidableEq, Repr, Inhabited

def IsolationKind.names : List (IsolationKind × String) := [
  (.none, "None"), (.process, "Process"), (.virtualization, "Virtualization"),
  (.confidentialDomain, "ConfidentialDomain"), (.dedicatedDevice, "DedicatedDevice")]

inductive DpuState where
  | unknown | attached | detached | lost | quarantined | retired
  deriving DecidableEq, Repr, Inhabited

def DpuState.names : List (DpuState × String) := [
  (.unknown, "Unknown"), (.attached, "Attached"), (.detached, "Detached"), (.lost, "Lost"),
  (.quarantined, "Quarantined"), (.retired, "Retired")]

inductive HealthState where
  | unknown | healthy | degraded | unhealthy
  deriving DecidableEq, Repr, Inhabited

def HealthState.names : List (HealthState × String) := [
  (.unknown, "Unknown"), (.healthy, "Healthy"), (.degraded, "Degraded"),
  (.unhealthy, "Unhealthy")]

inductive EvidenceClass where
  | unknown | real | synthetic | unsupported
  deriving DecidableEq, Repr, Inhabited

def EvidenceClass.names : List (EvidenceClass × String) := [
  (.unknown, "Unknown"), (.real, "Real"), (.synthetic, "Synthetic"),
  (.unsupported, "Unsupported")]

inductive EvidenceKind where
  | topology | capability | health | policy | execution | authority
  deriving DecidableEq, Repr, Inhabited

def EvidenceKind.names : List (EvidenceKind × String) := [
  (.topology, "Topology"), (.capability, "Capability"), (.health, "Health"),
  (.policy, "Policy"), (.execution, "Execution"), (.authority, "Authority")]

inductive LifecycleState where
  | absent | planned | authorized | deploying | acknowledged | unverified | verified
  | quiescing | withdrawn | failed | lost | superseded | cancelled
  deriving DecidableEq, Repr, Inhabited

def LifecycleState.names : List (LifecycleState × String) := [
  (.absent, "Absent"), (.planned, "Planned"), (.authorized, "Authorized"),
  (.deploying, "Deploying"), (.acknowledged, "Acknowledged"), (.unverified, "Unverified"),
  (.verified, "Verified"), (.quiescing, "Quiescing"), (.withdrawn, "Withdrawn"),
  (.failed, "Failed"), (.lost, "Lost"), (.superseded, "Superseded"), (.cancelled, "Cancelled")]

inductive DependencyKind where
  | requires | orderingAfter | requiresCapability
  deriving DecidableEq, Repr, Inhabited

def DependencyKind.names : List (DependencyKind × String) := [
  (.requires, "Requires"), (.orderingAfter, "OrderingAfter"),
  (.requiresCapability, "RequiresCapability")]

inductive CapabilityOp where
  | present | absent | equals | atLeast | atMost | oneOf
  deriving DecidableEq, Repr, Inhabited

def CapabilityOp.names : List (CapabilityOp × String) := [
  (.present, "Present"), (.absent, "Absent"), (.equals, "Equals"), (.atLeast, "AtLeast"),
  (.atMost, "AtMost"), (.oneOf, "OneOf")]

inductive CapabilityValueKind where
  | unknown | flag | integer | text | version
  deriving DecidableEq, Repr, Inhabited

def CapabilityValueKind.names : List (CapabilityValueKind × String) := [
  (.unknown, "Unknown"), (.flag, "Flag"), (.integer, "Integer"), (.text, "Text"),
  (.version, "Version")]

inductive IntentKind where
  | deploy | rollout | scale | replace | withdraw | rollback
  deriving DecidableEq, Repr, Inhabited

def IntentKind.names : List (IntentKind × String) := [
  (.deploy, "Deploy"), (.rollout, "Rollout"), (.scale, "Scale"), (.replace, "Replace"),
  (.withdraw, "Withdraw"), (.rollback, "Rollback")]

inductive EffectKind where
  | deploy | withdraw | replace | restart | configure
  deriving DecidableEq, Repr, Inhabited

def EffectKind.names : List (EffectKind × String) := [
  (.deploy, "Deploy"), (.withdraw, "Withdraw"), (.replace, "Replace"), (.restart, "Restart"),
  (.configure, "Configure")]

inductive EffectStatus where
  | succeeded | partly | failed | refused
  deriving DecidableEq, Repr, Inhabited

def EffectStatus.names : List (EffectStatus × String) := [
  (.succeeded, "Succeeded"), (.partly, "Partial"), (.failed, "Failed"), (.refused, "Refused")]

inductive AttemptOutcome where
  | opened | verified | failed | cancelled | fenced | superseded | quiesced | withdrawn
  deriving DecidableEq, Repr, Inhabited

def AttemptOutcome.names : List (AttemptOutcome × String) := [
  (.opened, "Open"), (.verified, "Verified"), (.failed, "Failed"), (.cancelled, "Cancelled"),
  (.fenced, "Fenced"), (.superseded, "Superseded"), (.quiesced, "Quiesced"),
  (.withdrawn, "Withdrawn")]

inductive DecisionKind where
  | placement | authority | eligibility | dependency | lifecycle | rollback | withdrawal
  | ingest | recovery
  deriving DecidableEq, Repr, Inhabited

def DecisionKind.names : List (DecisionKind × String) := [
  (.placement, "Placement"), (.authority, "Authority"), (.eligibility, "Eligibility"),
  (.dependency, "Dependency"), (.lifecycle, "Lifecycle"), (.rollback, "Rollback"),
  (.withdrawal, "Withdrawal"), (.ingest, "Ingest"), (.recovery, "Recovery")]

inductive RecoveryClass where
  | fresh | cleanReopen | tornTailTruncated | emptyStore | refusedCorrupt | refusedVersion
  | refusedTruncated | refusedIntegrity
  deriving DecidableEq, Repr, Inhabited

def RecoveryClass.names : List (RecoveryClass × String) := [
  (.fresh, "Fresh"), (.cleanReopen, "CleanReopen"), (.tornTailTruncated, "TornTailTruncated"),
  (.emptyStore, "EmptyStore"), (.refusedCorrupt, "RefusedCorrupt"),
  (.refusedVersion, "RefusedVersion"), (.refusedTruncated, "RefusedTruncated"),
  (.refusedIntegrity, "RefusedIntegrity")]

/-! ## §2. Checked arithmetic. -/

/-- `checked_add` on 64-bit words: `none` instead of wrapping. -/
def checkedAdd (a b : UInt64) : Option UInt64 :=
  if a.toNat + b.toNat < 2 ^ 64 then some (a + b) else none

theorem checkedAdd_toNat {a b c : UInt64} (h : checkedAdd a b = some c) :
    c.toNat = a.toNat + b.toNat := by
  unfold checkedAdd at h
  split at h
  · next hlt =>
    rw [← Option.some.inj h, UInt64.toNat_add]
    exact Nat.mod_eq_of_lt hlt
  · simp at h

/-- `checked_sub` on 64-bit words. -/
def checkedSub (a b : UInt64) : Option UInt64 :=
  if b.toNat ≤ a.toNat then some (a - b) else none

/-- `checked_mul` on 64-bit words. -/
def checkedMul (a b : UInt64) : Option UInt64 :=
  if a.toNat * b.toNat < 2 ^ 64 then some (a * b) else none

/-- `std::numeric_limits<std::uint64_t>::max()`. -/
def maxU64 : UInt64 := 18446744073709551615

def saturatingAdd (a b : UInt64) : UInt64 := (checkedAdd a b).getD maxU64

def saturatingMul (a b : UInt64) : UInt64 := (checkedMul a b).getD maxU64

/-! ## §3. Time. -/

/-- `LogicalInstant`: the only clock that decides anything. -/
structure LogicalInstant where
  ticks : UInt64 := 0
  deriving Repr, Inhabited

theorem LogicalInstant.ticks_injective :
    Function.Injective (fun t : LogicalInstant => t.ticks.toNat) := by
  rintro ⟨a⟩ ⟨b⟩ h
  simpa [UInt64.toNat_inj] using h

instance : LinearOrder LogicalInstant :=
  LinearOrder.lift' (fun t => t.ticks.toNat) LogicalInstant.ticks_injective

/-- `WallClockMs`: provenance only. -/
structure WallClockMs where
  ms : Int64 := 0
  deriving DecidableEq, Repr, Inhabited

/-! ## §4. Identities. -/

/-- `std::isalpha` in the C locale. -/
def isAlpha (c : UInt8) : Bool :=
  (decide (65 ≤ c.toNat) && decide (c.toNat ≤ 90))
    || (decide (97 ≤ c.toNat) && decide (c.toNat ≤ 122))

/-- `std::isdigit`. -/
def isDigit (c : UInt8) : Bool := decide (48 ≤ c.toNat) && decide (c.toNat ≤ 57)

/-- A byte that may stand anywhere in an identity: `[A-Za-z0-9._:-]`. -/
def isIdentityByte (c : UInt8) : Bool :=
  isAlpha c || isDigit c
    || decide (c.toNat = 46) || decide (c.toNat = 95) || decide (c.toNat = 58)
    || decide (c.toNat = 45)

/-- `validate_identity_text`. -/
def validateIdentityText (t : Text) : Bool :=
  match t with
  | [] => false
  | c :: _ => decide (t.length ≤ 64) && (isAlpha c || isDigit c) && t.all isIdentityByte

theorem validateIdentityText_length {t : Text} (h : validateIdentityText t = true) :
    t.length ≤ 64 := by
  cases t with
  | nil => simp
  | cons c cs =>
    simp only [validateIdentityText, Bool.and_eq_true, decide_eq_true_eq] at h
    exact h.1.1

/-- The tag types of `StrongId`. -/
inductive IdTag where
  | dpu | service | serviceGroup | serviceInstance | dependency | hostAttachment | isolationDomain
  | evidence | plan | origin | store | capabilityKey | exclusiveScope | operation | event
  deriving DecidableEq, Repr

/-- `StrongId<Tag>`: empty (default constructed) or a validated text. -/
structure StrongId (tag : IdTag) where
  text : Text
  wf : text = [] ∨ validateIdentityText text = true
  deriving Repr

namespace StrongId

variable {tag : IdTag}

instance : Inhabited (StrongId tag) := ⟨⟨[], .inl rfl⟩⟩

theorem codes_injective : Function.Injective (fun i : StrongId tag => Text.codes i.text) := by
  rintro ⟨a, ha⟩ ⟨b, hb⟩ h
  have : a = b := Text.codes_injective h
  subst this
  rfl

/-- `operator<=>` of `StrongId`: the order of its text. -/
instance : LinearOrder (StrongId tag) :=
  LinearOrder.lift' (fun i => Text.codes i.text) codes_injective

instance : LawfulBEq (StrongId tag) := inferInstance

/-- `valid()`: not default constructed. -/
def valid (i : StrongId tag) : Bool := !i.text.isEmpty

/-- `StrongId::parse`. -/
def parse (t : Text) : Result (StrongId tag) :=
  if 64 < t.length then
    .error (refuse .oversizedInput (txt "identity text exceeds 64 characters"))
  else if h : validateIdentityText t = true then .ok ⟨t, .inr h⟩
  else .error (refuse .invalidIdentity t)

/-- `StrongId::literal`.  The source terminates on invalid text; the model
then returns the default identity, and `makeInstanceId_text` shows that the
one data-derived use never gets there. -/
def literal (t : Text) : StrongId tag :=
  if h : validateIdentityText t = true then ⟨t, .inr h⟩ else default

theorem literal_text {t : Text} (h : validateIdentityText t = true) :
    (literal t : StrongId tag).text = t := by
  simp [literal, h]

end StrongId

abbrev DpuId := StrongId .dpu
abbrev ServiceId := StrongId .service
abbrev ServiceGroupId := StrongId .serviceGroup
abbrev InstanceId := StrongId .serviceInstance
abbrev DependencyId := StrongId .dependency
abbrev HostAttachmentId := StrongId .hostAttachment
abbrev IsolationDomainId := StrongId .isolationDomain
abbrev EvidenceId := StrongId .evidence
abbrev PlanId := StrongId .plan
abbrev OriginId := StrongId .origin
abbrev StoreId := StrongId .store
abbrev CapabilityKey := StrongId .capabilityKey
abbrev ExclusiveScopeId := StrongId .exclusiveScope
abbrev OperationId := StrongId .operation
abbrev EventId := StrongId .event

/-! ## §5. Counters. -/

/-- The tag types of `Counter`. -/
inductive CounterTag where
  | topologyGeneration | capabilityGeneration | policyGeneration | deploymentGeneration
  | coordinatorEpoch | bootIncarnation | attemptNumber | replicaIndex | originEpoch | sequence
  | incarnation
  deriving DecidableEq, Repr

/-- `Counter<Tag>`. -/
structure Counter (tag : CounterTag) where
  value : UInt64 := 0
  deriving Repr, Inhabited

namespace Counter

variable {tag : CounterTag}

theorem value_injective : Function.Injective (fun c : Counter tag => c.value.toNat) := by
  rintro ⟨a⟩ ⟨b⟩ h
  simpa [UInt64.toNat_inj] using h

instance : LinearOrder (Counter tag) :=
  LinearOrder.lift' (fun c => c.value.toNat) value_injective

/-- `valid()`: not zero. -/
def valid (c : Counter tag) : Bool := decide (c.value ≠ 0)

/-- `saturating_next`. -/
def saturatingNext (c : Counter tag) : Counter tag := ⟨saturatingAdd c.value 1⟩

end Counter

abbrev TopologyGeneration := Counter .topologyGeneration
abbrev CapabilityGeneration := Counter .capabilityGeneration
abbrev PolicyGeneration := Counter .policyGeneration
abbrev DeploymentGeneration := Counter .deploymentGeneration
abbrev CoordinatorEpoch := Counter .coordinatorEpoch
abbrev BootIncarnation := Counter .bootIncarnation
abbrev AttemptNumber := Counter .attemptNumber
abbrev ReplicaIndex := Counter .replicaIndex
abbrev OriginEpoch := Counter .originEpoch
abbrev Sequence := Counter .sequence
abbrev Incarnation := Counter .incarnation

/-! ## §6. Versions. -/

/-- `ServiceVersion`. -/
structure ServiceVersion where
  major : UInt32 := 0
  minor : UInt32 := 0
  patch : UInt32 := 0
  prerelease : Text := []
  deriving DecidableEq, Repr, Inhabited

namespace ServiceVersion

/-- `valid()`. -/
def valid (v : ServiceVersion) : Bool :=
  decide (v.major ≠ 0) || decide (v.minor ≠ 0) || decide (v.patch ≠ 0)

/-- `operator<`: a release orders after its own pre-releases. -/
def less (a b : ServiceVersion) : Bool :=
  if a.major ≠ b.major then decide (a.major < b.major)
  else if a.minor ≠ b.minor then decide (a.minor < b.minor)
  else if a.patch ≠ b.patch then decide (a.patch < b.patch)
  else if a.prerelease = b.prerelease then false
  else if a.prerelease = [] then false
  else if b.prerelease = [] then true
  else decide (Text.codes a.prerelease < Text.codes b.prerelease)

/-- `to_string()`. -/
def toText (v : ServiceVersion) : Text :=
  decimal v.major.toNat ++ txt "." ++ decimal v.minor.toNat ++ txt "." ++ decimal v.patch.toNat
    ++ (if v.prerelease = [] then [] else txt "-" ++ v.prerelease)

end ServiceVersion

/-- `FirmwareApiLevel`. -/
structure FirmwareApiLevel where
  major : UInt32 := 0
  minor : UInt32 := 0
  deriving DecidableEq, Repr, Inhabited

/-- The defaulted `operator<`: by `major`, then by `minor`. -/
def FirmwareApiLevel.less (a b : FirmwareApiLevel) : Bool :=
  if a.major ≠ b.major then decide (a.major < b.major) else decide (a.minor < b.minor)

def FirmwareApiLevel.toText (v : FirmwareApiLevel) : Text :=
  decimal v.major.toNat ++ txt "." ++ decimal v.minor.toNat

end DpuFabric
