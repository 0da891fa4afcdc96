/-
  Core.Reason — TEXT, REASON CODES AND STATUS (`core/reason.hpp`, `core/result.hpp`).

  A `std::string` is a list of bytes here: identities, details and journal
  payloads are compared and measured as bytes, never as characters.  A
  `Result<T>` is `Except Status T`.
-/
import Mathlib.Algebra.GroupWithZero.Nat
import Mathlib.Data.List.Lex
import Mathlib.Order.Basic

namespace DpuFabric

/-! ## §1. Text. -/

/-- A `std::string`: bytes, in order. -/
abbrev Text := List UInt8

/-- The bytes of a literal of the source (all of them are ASCII). -/
def txt (s : String) : Text := s.toList.map (fun c => UInt8.ofNat c.toNat)

/-- `std::to_string` of an unsigned number. -/
def decimal (n : Nat) : Text := (Nat.toDigits 10 n).map (fun c => UInt8.ofNat c.toNat)

/-- Bytes as numbers: the order of `std::string` is the lexicographic order
of these. -/
def Text.codes (t : Text) : List Nat := t.map UInt8.toNat

theorem Text.codes_injective : Function.Injective Text.codes := by
  intro a b h
  exact List.map_injective_iff.mpr (fun _ _ hxy => UInt8.toNat_inj.mp hxy) h

/-! ## §2. Named enumerations. -/

/-- `to_string` of an enumeration, by its table of names. -/
def enumName {α : Type} [DecidableEq α] (table : List (α × String)) (v : α) : Text :=
  match table.find? (fun row => decide (row.1 = v)) with
  | some row => txt row.2
  | none => txt "Unknown"

/-- `from_string` of an enumeration: first row with that name. -/
def enumFromName {α : Type} (table : List (α × String)) (t : Text) : Option α :=
  (table.find? (fun row => decide (txt row.2 = t))).map Prod.fst

/-! ## §3. Reason codes. -/

/-- `ReasonCode`. -/
inductive ReasonCode where
  | ok | malformedInput | missingField | invalidIdentity | valueOutOfRange | oversizedInput
  | truncatedInput | unsupportedVersion | invalidEnumeration | duplicateIdentity
  | conflictingDuplicate | arithmeticOverflow | invalidStateTransition | unsupportedValue
  | invalidDigest | invalidTag | unknownField | invalidEncoding | unsupportedOperation
  | staleOriginEpoch | staleGeneration | staleAuthority | fenceMismatch | fenceSuperseded
  | attemptSuperseded | attemptCancelled | attemptNotOpen | authorityNotGranted
  | authorityRevoked | exclusiveScopeConflict | epochRegressed | bootFenced | lateEventRejected
  | duplicateSuppressed | generationRegressed | authorityHeldElsewhere | capabilityUnknown
  | capabilityMissing | capabilityMismatch | compatibilityUnsatisfied | dpuIneligible
  | dpuUnavailable | capacityUnknown | hostAttachmentMismatch | firmwareLevelUnsupported
  | isolationUnsupported | evidenceStale | evidenceMissing | evidenceSuperseded
  | evidenceConflicting | healthIndeterminate | continuityUnproven | architectureMismatch
  | datapathUnsupported | allocationExhausted | dependencyCycle | dependencyUnsatisfied
  | dependencyUnknown | dependencyKindUnsupported | serviceNotDeclared | groupNotDeclared
  | selfDependency | dependencyDuplicate | serviceVersionUnavailable | noEligibleDpu
  | insufficientEligibleDpus | replicaBoundExceeded | antiAffinityUnsatisfiable
  | isolationDomainExhausted | planInfeasible | planGenerationRegressed | rollbackUnavailable
  | intentNotAccepted | noPlacementChange | exclusiveScopeRequired | stagingInfeasible
  | lifecycleConflict | instanceNotFound | serviceNotFound | withdrawalInProgress
  | quiesceIncomplete | verifiedEffectMissing | acknowledgementOnly | cancelledAttemptReport
  | effectReportUnmatched | effectPartial | effectFailed | restartFenced | dpuLost
  | instanceNotReady | quiesceRequested | withdrawn | superseded | cancelled | storeNotFound
  | storeCorrupt | storeTruncated | storeVersionIncompatible | storeSemanticsIncompatible
  | storeIntegrityFailure | storeRecordOversized | storeIoFailure | storeRecoveryRefused
  | storeAlreadyOpen | storeTornTailRecovered | storeCompacted | storeCreated | storeReopened
  | storeClosed | protocolViolation | frameOversized | frameTruncated | unknownOperation
  | requestQueueFull | responseQueueFull | connectionClosed | transportFailure
  | requestIdReused | serverBusy | shutdownInProgress | unauthorizedPeer | handshakeRejected
  | boundExceeded | truncationDropped | evictionOccurred | historyTruncated
  | retryBudgetExhausted | queueFull | batchTooLarge | metadataLimitExceeded
  | duplicateWindowEvicted | depthLimitExceeded | invalidAccounting
  deriving DecidableEq, Repr, Inhabited

/-- `kReasonTable`: the numeric value and the name of every code. -/
def ReasonCode.table : List (ReasonCode × Nat × String) := [
  (.ok, 0, "Ok"),
  (.malformedInput, 1, "MalformedInput"),
  (.missingField, 2, "MissingField"),
  (.invalidIdentity, 3, "InvalidIdentity"),
  (.valueOutOfRange, 4, "ValueOutOfRange"),
  (.oversizedInput, 5, "OversizedInput"),
  (.truncatedInput, 6, "TruncatedInput"),
  (.unsupportedVersion, 7, "UnsupportedVersion"),
  (.invalidEnumeration, 8, "InvalidEnumeration"),
  (.duplicateIdentity, 9, "DuplicateIdentity"),
  (.conflictingDuplicate, 10, "ConflictingDuplicate"),
  (.arithmeticOverflow, 11, "ArithmeticOverflow"),
  (.invalidStateTransition, 12, "InvalidStateTransition"),
  (.unsupportedValue, 13, "UnsupportedValue"),
  (.invalidDigest, 14, "InvalidDigest"),
  (.invalidTag, 15, "InvalidTag"),
  (.unknownField, 16, "UnknownField"),
  (.invalidEncoding, 17, "InvalidEncoding"),
  (.unsupportedOperation, 18, "UnsupportedOperation"),
  (.staleOriginEpoch, 100, "StaleOriginEpoch"),
  (.staleGeneration, 101, "StaleGeneration"),
  (.staleAuthority, 102, "StaleAuthority"),
  (.fenceMismatch, 103, "FenceMismatch"),
  (.fenceSuperseded, 104, "FenceSuperseded"),
  (.attemptSuperseded, 105, "AttemptSuperseded"),
  (.attemptCancelled, 106, "AttemptCancelled"),
  (.attemptNotOpen, 107, "AttemptNotOpen"),
  (.authorityNotGranted, 108, "AuthorityNotGranted"),
  (.authorityRevoked, 109, "AuthorityRevoked"),
  (.exclusiveScopeConflict, 110, "ExclusiveScopeConflict"),
  (.epochRegressed, 111, "EpochRegressed"),
  (.bootFenced, 112, "BootFenced"),
  (.lateEventRejected, 113, "LateEventRejected"),
  (.duplicateSuppressed, 114, "DuplicateSuppressed"),
  (.generationRegressed, 115, "GenerationRegressed"),
  (.authorityHeldElsewhere, 116, "AuthorityHeldElsewhere"),
  (.capabilityUnknown, 200, "CapabilityUnknown"),
  (.capabilityMissing, 201, "CapabilityMissing"),
  (.capabilityMismatch, 202, "CapabilityMismatch"),
  (.compatibilityUnsatisfied, 203, "CompatibilityUnsatisfied"),
  (.dpuIneligible, 204, "DpuIneligible"),
  (.dpuUnavailable, 205, "DpuUnavailable"),
  (.capacityUnknown, 206, "CapacityUnknown"),
  (.hostAttachmentMismatch, 207, "HostAttachmentMismatch"),
  (.firmwareLevelUnsupported, 208, "FirmwareLevelUnsupported"),
  (.isolationUnsupported, 209, "IsolationUnsupported"),
  (.evidenceStale, 210, "EvidenceStale"),
  (.evidenceMissing, 211, "EvidenceMissing"),
  (.evidenceSuperseded, 212, "EvidenceSuperseded"),
  (.evidenceConflicting, 213, "EvidenceConflicting"),
  (.healthIndeterminate, 214, "HealthIndeterminate"),
  (.continuityUnproven, 215, "ContinuityUnproven"),
  (.architectureMismatch, 216, "ArchitectureMismatch"),
  (.datapathUnsupported, 217, "DatapathUnsupported"),
  (.allocationExhausted, 218, "AllocationExhausted"),
  (.dependencyCycle, 300, "DependencyCycle"),
  (.dependencyUnsatisfied, 301, "DependencyUnsatisfied"),
  (.dependencyUnknown, 302, "DependencyUnknown"),
  (.dependencyKindUnsupported, 303, "DependencyKindUnsupported"),
  (.serviceNotDeclared, 304, "ServiceNotDeclared"),
  (.groupNotDeclared, 305, "GroupNotDeclared"),
  (.selfDependency, 306, "SelfDependency"),
  (.dependencyDuplicate, 307, "DependencyDuplicate"),
  (.serviceVersionUnavailable, 308, "ServiceVersionUnavailable"),
  (.noEligibleDpu, 400, "NoEligibleDpu"),
  (.insufficientEligibleDpus, 401, "InsufficientEligibleDpus"),
  (.replicaBoundExceeded, 402, "ReplicaBoundExceeded"),
  (.antiAffinityUnsatisfiable, 403, "AntiAffinityUnsatisfiable"),
  (.isolationDomainExhausted, 404, "IsolationDomainExhausted"),
  (.planInfeasible, 405, "PlanInfeasible"),
  (.planGenerationRegressed, 406, "PlanGenerationRegressed"),
  (.rollbackUnavailable, 407, "RollbackUnavailable"),
  (.intentNotAccepted, 408, "IntentNotAccepted"),
  (.noPlacementChange, 409, "NoPlacementChange"),
  (.exclusiveScopeRequired, 410, "ExclusiveScopeRequired"),
  (.stagingInfeasible, 411, "StagingInfeasible"),
  (.lifecycleConflict, 500, "LifecycleConflict"),
  (.instanceNotFound, 501, "InstanceNotFound"),
  (.serviceNotFound, 502, "ServiceNotFound"),
  (.withdrawalInProgress, 503, "WithdrawalInProgress"),
  (.quiesceIncomplete, 504, "QuiesceIncomplete"),
  (.verifiedEffectMissing, 505, "VerifiedEffectMissing"),
  (.acknowledgementOnly, 506, "AcknowledgementOnly"),
  (.cancelledAttemptReport, 507, "CancelledAttemptReport"),
  (.effectReportUnmatched, 508, "EffectReportUnmatched"),
  (.effectPartial, 509, "EffectPartial"),
  (.effectFailed, 510, "EffectFailed"),
  (.restartFenced, 511, "RestartFenced"),
  (.dpuLost, 512, "DpuLost"),
  (.instanceNotReady, 513, "InstanceNotReady"),
  (.quiesceRequested, 514, "QuiesceRequested"),
  (.withdrawn, 515, "Withdrawn"),
  (.superseded, 516, "Superseded"),
  (.cancelled, 517, "Cancelled"),
  (.storeNotFound, 700, "StoreNotFound"),
  (.storeCorrupt, 701, "StoreCorrupt"),
  (.storeTruncated, 702, "StoreTruncated"),
  (.storeVersionIncompatible, 703, "StoreVersionIncompatible"),
  (.storeSemanticsIncompatible, 704, "StoreSemanticsIncompatible"),
  (.storeIntegrityFailure, 705, "StoreIntegrityFailure"),
  (.storeRecordOversized, 706, "StoreRecordOversized"),
  (.storeIoFailure, 707, "StoreIoFailure"),
  (.storeRecoveryRefused, 708, "StoreRecoveryRefused"),
  (.storeAlreadyOpen, 709, "StoreAlreadyOpen"),
  (.storeTornTailRecovered, 710, "StoreTornTailRecovered"),
  (.storeCompacted, 711, "StoreCompacted"),
  (.storeCreated, 712, "StoreCreated"),
  (.storeReopened, 713, "StoreReopened"),
  (.storeClosed, 714, "StoreClosed"),
  (.protocolViolation, 800, "ProtocolViolation"),
  (.frameOversized, 801, "FrameOversized"),
  (.frameTruncated, 802, "FrameTruncated"),
  (.unknownOperation, 803, "UnknownOperation"),
  (.requestQueueFull, 804, "RequestQueueFull"),
  (.responseQueueFull, 805, "ResponseQueueFull"),
  (.connectionClosed, 806, "ConnectionClosed"),
  (.transportFailure, 807, "TransportFailure"),
  (.requestIdReused, 808, "RequestIdReused"),
  (.serverBusy, 809, "ServerBusy"),
  (.shutdownInProgress, 810, "ShutdownInProgress"),
  (.unauthorizedPeer, 811, "UnauthorizedPeer"),
  (.handshakeRejected, 812, "HandshakeRejected"),
  (.boundExceeded, 900, "BoundExceeded"),
  (.truncationDropped, 901, "TruncationDropped"),
  (.evictionOccurred, 902, "EvictionOccurred"),
  (.historyTruncated, 903, "HistoryTruncated"),
  (.retryBudgetExhausted, 904, "RetryBudgetExhausted"),
  (.queueFull, 905, "QueueFull"),
  (.batchTooLarge, 906, "BatchTooLarge"),
  (.metadataLimitExceeded, 907, "MetadataLimitExceeded"),
  (.duplicateWindowEvicted, 908, "DuplicateWindowEvicted"),
  (.depthLimitExceeded, 909, "DepthLimitExceeded"),
  (.invalidAccounting, 910, "InvalidAccounting")]

def ReasonCode.names : List (ReasonCode × String) :=
  ReasonCode.table.map (fun row => (row.1, row.2.2))

/-- The numeric value of a code, which orders explanations. -/
def ReasonCode.value (c : ReasonCode) : Nat :=
  match ReasonCode.table.find? (fun row => decide (row.1 = c)) with
  | some row => row.2.1
  | none => 0

def ReasonCode.toText (c : ReasonCode) : Text := enumName ReasonCode.names c

/-- `is_informational`: the code does not refuse an operation. -/
def isInformational : ReasonCode → Bool
  | .ok | .duplicateSuppressed | .storeTornTailRecovered | .storeCompacted | .storeCreated
  | .storeReopened | .storeClosed | .truncationDropped | .evictionOccurred | .historyTruncated
  | .duplicateWindowEvicted | .quiesceRequested | .withdrawn | .superseded | .cancelled
  | .dpuLost | .acknowledgementOnly => true
  | _ => false

/-! ## §4. Status. -/

/-- `kMaxStatusDetail`. -/
def maxStatusDetail : Nat := 256

/-- A reason code with a bounded detail.  Only `refuse` builds one with a
detail, so every detail is at most `maxStatusDetail` bytes. -/
structure Status where
  code : ReasonCode
  detail : Text
  bounded : detail.length ≤ maxStatusDetail
  deriving DecidableEq

/-- `Status::success`. -/
def Status.success : Status := ⟨.ok, [], by simp⟩

/-- `refuse` (and the `Status` constructor): the detail is cut to its bound. -/
def refuse (code : ReasonCode) (detail : Text) : Status :=
  ⟨code, detail.take maxStatusDetail, List.length_take_le _ _⟩

/-- `Status::ok`. -/
def Status.ok (s : Status) : Bool := isInformational s.code

/-- `Status::message`. -/
def Status.message (s : Status) : Text :=
  s.code.toText ++ (if s.detail = [] then [] else txt ": " ++ s.detail)

@[simp] theorem Status.success_ok : Status.success.ok = true := rfl

@[simp] theorem refuse_code (code : ReasonCode) (detail : Text) :
    (refuse code detail).code = code := rfl

/-- `Result<T>`. -/
abbrev Result (α : Type) := Except Status α

end DpuFabric
