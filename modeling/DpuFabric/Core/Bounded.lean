/-
  Core.Bounded — BOUNDED CONTAINERS, RESOURCES AND RUNTIME BOUNDS (`core/bounded.hpp`,
  `core/bounded.cpp`, `core/resources.hpp`, `core/resources.cpp`).

  Nothing here is about one service: the truncation ledger accounts for what
  a bound dropped, `BoundedHistory` is the FIFO behind the delivery window,
  `ResourceVector` does checked arithmetic, and `RuntimeBounds.validate` is
  the gate every configuration passes before a runtime opens.
-/
import DpuFabric.Core.Types

namespace DpuFabric

variable {b : RuntimeBounds}

/-! ## §1. The truncation ledger. -/

/-- `TruncationRecord`. -/
structure TruncationRecord where
  container : Text := []
  requested : UInt64 := 0
  accepted : UInt64 := 0
  dropped : UInt64 := 0
  reason : ReasonCode := .truncationDropped
  deriving DecidableEq, Repr

/-- `TruncationLedger`. -/
structure TruncationLedger where
  records : List TruncationRecord := []
  ledgerOverflow : UInt64 := 0
  deriving DecidableEq, Repr, Inhabited

namespace TruncationLedger

/-- `kMaxRecords`. -/
def maxRecords : Nat := 64

/-- Aggregation into an existing row, `none` on accounting overflow. -/
def accumulate (row : TruncationRecord) (requested accepted : UInt64) :
    Option TruncationRecord :=
  match checkedAdd row.requested requested, checkedAdd row.accepted accepted with
  | some r, some a => some { row with requested := r, accepted := a, dropped := r - a }
  | _, _ => none

/-- `TruncationLedger::record`: the status and the ledger afterwards. -/
def record (l : TruncationLedger) (container : Text) (requested accepted : UInt64)
    (reason : ReasonCode) : Status × TruncationLedger :=
  if requested < accepted then
    (refuse .invalidAccounting (txt "accepted exceeds requested"), l)
  else if container = [] ∨ 64 < container.length then
    (refuse .valueOutOfRange (txt "container label length"), l)
  else
    let same := fun row : TruncationRecord => decide (row.container = container ∧ row.reason = reason)
    match l.records.find? same with
    | some row =>
      match accumulate row requested accepted with
      | some row' =>
        (.success, { l with records := l.records.set (l.records.findIdx same) row' })
      | none => (refuse .arithmeticOverflow (txt "truncation accounting overflow"), l)
    | none =>
      if maxRecords ≤ l.records.length then
        match checkedAdd l.ledgerOverflow 1 with
        | some n => (refuse .boundExceeded (txt "truncation ledger full"),
            { l with ledgerOverflow := n })
        | none => (refuse .arithmeticOverflow (txt "ledger overflow counter"), l)
      else
        (.success, { l with records := l.records ++
          [{ container, requested, accepted, dropped := requested - accepted, reason }] })

/-- The call sites all ignore the status. -/
def note (l : TruncationLedger) (container : Text) (requested accepted : UInt64)
    (reason : ReasonCode) : TruncationLedger :=
  (l.record container requested accepted reason).2

end TruncationLedger

/-! ## §2. The bounded FIFO. -/

/-- `BoundedHistory<T>`. -/
structure BoundedHistory (α : Type) where
  entries : List α := []
  capacity : Nat := 0
  evicted : Nat := 0
  rejected : Nat := 0
  deriving DecidableEq, Repr

namespace BoundedHistory

variable {α : Type}

/-- Entries that `push` drops from the front before appending. -/
def excess (h : BoundedHistory α) : Nat := h.entries.length + 1 - h.capacity

/-- `BoundedHistory::push`: number of evictions, and the history afterwards. -/
def push (h : BoundedHistory α) (v : α) : Nat × BoundedHistory α :=
  if h.capacity = 0 then (0, { h with rejected := h.rejected + 1 })
  else
    (h.excess, { h with
      entries := h.entries.drop h.excess ++ [v]
      evicted := h.evicted + h.excess })

@[simp] theorem push_capacity (h : BoundedHistory α) (v : α) :
    (h.push v).2.capacity = h.capacity := by
  unfold push
  split <;> rfl

theorem mem_push_self {h : BoundedHistory α} (hc : h.capacity ≠ 0) (v : α) :
    v ∈ (h.push v).2.entries := by
  simp [push, hc]

end BoundedHistory

/-! ## §3. Resource vectors. -/

/-- `ResourceVector`. -/
structure ResourceVector where
  cpuMillicores : UInt64 := 0
  memoryBytes : UInt64 := 0
  networkBps : UInt64 := 0
  cryptoOpsPerSec : UInt64 := 0
  storageBytes : UInt64 := 0
  deriving DecidableEq, Repr, Inhabited

namespace ResourceVector

/-- The five components with the names the refusals carry. -/
def components (a : ResourceVector) : List (UInt64 × String) :=
  [(a.cpuMillicores, "cpu_millicores"), (a.memoryBytes, "memory_bytes"),
   (a.networkBps, "network_bps"), (a.cryptoOpsPerSec, "crypto_ops_per_sec"),
   (a.storageBytes, "storage_bytes")]

/-- Component-wise operation; the first component that fails is named. -/
def combine (f : UInt64 → UInt64 → Option UInt64) (code : ReasonCode)
    (a b : ResourceVector) : Result ResourceVector := do
  let one := fun (x y : UInt64) (name : String) =>
    match f x y with
    | some z => (Except.ok z : Result UInt64)
    | none => .error (refuse code (txt name))
  let cpuMillicores ← one a.cpuMillicores b.cpuMillicores "cpu_millicores"
  let memoryBytes ← one a.memoryBytes b.memoryBytes "memory_bytes"
  let networkBps ← one a.networkBps b.networkBps "network_bps"
  let cryptoOpsPerSec ← one a.cryptoOpsPerSec b.cryptoOpsPerSec "crypto_ops_per_sec"
  let storageBytes ← one a.storageBytes b.storageBytes "storage_bytes"
  return { cpuMillicores, memoryBytes, networkBps, cryptoOpsPerSec, storageBytes }

/-- `ResourceVector::add`. -/
def add (a b : ResourceVector) : Result ResourceVector :=
  combine checkedAdd .arithmeticOverflow a b

/-- `ResourceVector::subtract`. -/
def subtract (a b : ResourceVector) : Result ResourceVector :=
  combine checkedSub .valueOutOfRange a b

/-- `ResourceVector::is_zero`. -/
def isZero (a : ResourceVector) : Bool := a.components.all (fun c => decide (c.1 = 0))

/-- `ResourceVector::covers`. -/
def covers (a required : ResourceVector) : Bool :=
  (a.components.zip required.components).all (fun c => decide (c.2.1 ≤ c.1.1))

/-- `ResourceVector::headroom`. -/
def headroom (a other : ResourceVector) : Result ResourceVector :=
  if !a.covers other then .error (refuse .allocationExhausted (txt "capacity not covered"))
  else a.subtract other

/-- `ResourceVector::headroom_permille`.  The product wraps like the source's
64-bit multiplication; the result is at most 1000, so narrowing never fails. -/
def headroomPermille (a other : ResourceVector) : Result UInt32 :=
  if other.isZero then .error (refuse .valueOutOfRange (txt "zero requirement"))
  else if !a.covers other then
    .error (refuse .allocationExhausted (txt "capacity not covered"))
  else
    let worst := (a.components.zip other.components).foldl (fun worst c =>
      if c.2.1 = 0 then worst
      else
        let ratio := ((c.1.1 - c.2.1) * 1000) / c.1.1
        if ratio < worst then ratio else worst) (1000 : UInt64)
    .ok worst.toUInt32

end ResourceVector

/-! ## §4. Runtime bounds. -/

/-- `RuntimeBounds`, with the source's defaults. -/
structure RuntimeBounds where
  maxDpus : Nat := 1024
  maxServices : Nat := 256
  maxInstances : Nat := 4096
  maxBatchEvents : Nat := 1024
  maxDependencies : Nat := 1024
  maxCapabilitiesPerDpu : Nat := 64
  maxReplicasPerService : Nat := 16
  maxHistory : Nat := 2048
  maxPlansRetained : Nat := 64
  maxDecisionsRetained : Nat := 512
  maxStages : Nat := 64
  maxWorkers : Nat := 8
  maxJournalBytes : Nat := 4 * 1024 * 1024
  maxFrameBytes : Nat := 1024 * 1024
  maxPendingRequests : Nat := 128
  maxDuplicateWindow : Nat := 4096
  maxExplanations : Nat := 64
  maxPendingIntents : Nat := 64
  maxTextBytes : Nat := 256
  evidenceValidityTicks : UInt64 := 64
  deriving DecidableEq, Repr, Inhabited

namespace RuntimeBounds

/-- The `checks` table of `validate`: value, compile-time ceiling, name. -/
def checks (b : RuntimeBounds) : List (Nat × Nat × String) := [
  (b.maxDpus, 4096, "max_dpus"),
  (b.maxServices, 1024, "max_services"),
  (b.maxInstances, 16384, "max_instances"),
  (b.maxBatchEvents, 4096, "max_batch_events"),
  (b.maxDependencies, 4096, "max_dependencies"),
  (b.maxCapabilitiesPerDpu, 256, "max_capabilities_per_dpu"),
  (b.maxReplicasPerService, 64, "max_replicas_per_service"),
  (b.maxHistory, 8192, "max_history"),
  (b.maxPlansRetained, 512, "max_plans_retained"),
  (b.maxDecisionsRetained, 4096, "max_decisions_retained"),
  (b.maxStages, 256, "max_stages"),
  (b.maxWorkers, 64, "max_workers"),
  (b.maxJournalBytes, 64 * 1024 * 1024, "max_journal_bytes"),
  (b.maxFrameBytes, 4 * 1024 * 1024, "max_frame_bytes"),
  (b.maxPendingRequests, 1024, "max_pending_requests")]

/-- One row of the table: zero is out of range, more than the ceiling is
refused. -/
def checkOne (value ceiling : Nat) (name : String) : Option Status :=
  if value = 0 then some (refuse .valueOutOfRange (txt name))
  else if ceiling < value then some (refuse .boundExceeded (txt name))
  else none

/-- `RuntimeBounds::validate`. -/
def validate (b : RuntimeBounds) : Status :=
  match b.checks.findSome? (fun c => checkOne c.1 c.2.1 c.2.2) with
  | some refusal => refusal
  | none =>
    if b.maxDuplicateWindow = 0 ∨ b.maxExplanations = 0 ∨ b.maxPendingIntents = 0
        ∨ b.maxTextBytes = 0 then refuse .valueOutOfRange (txt "zero bound")
    else if 4096 < b.maxTextBytes then refuse .boundExceeded (txt "max_text_bytes")
    else if 8192 < b.maxDuplicateWindow then refuse .boundExceeded (txt "max_duplicate_window")
    else if 8192 < b.maxExplanations then refuse .boundExceeded (txt "max_explanations")
    else if 1024 < b.maxPendingIntents then refuse .boundExceeded (txt "max_pending_intents")
    else if b.evidenceValidityTicks = 0 then
      refuse .valueOutOfRange (txt "evidence_validity_ticks")
    else .success

theorem checkOne_refuses {value ceiling : Nat} {name : String} {refusal : Status}
    (h : checkOne value ceiling name = some refusal) : refusal.ok = false := by
  unfold checkOne at h
  split at h
  · injection h with h
    subst h
    rfl
  · split at h
    · injection h with h
      subst h
      rfl
    · simp at h

theorem validate_checks (h : b.validate.ok = true) :
    ∀ c ∈ b.checks, checkOne c.1 c.2.1 c.2.2 = none := by
  unfold validate at h
  split at h
  · next refusal hsome =>
    obtain ⟨c, -, hc⟩ := List.exists_of_findSome?_eq_some hsome
    rw [checkOne_refuses hc] at h
    simp at h
  · next hnone => exact List.findSome?_eq_none_iff.mp hnone

/-- A configuration that passes has a delivery window that holds at least one
delivery. -/
theorem validate_window (h : b.validate.ok = true) : b.maxDuplicateWindow ≠ 0 := by
  intro hz
  have hnone : b.checks.findSome? (fun c => checkOne c.1 c.2.1 c.2.2) = none :=
    List.findSome?_eq_none_iff.mpr (validate_checks h)
  rw [validate, hnone] at h
  simp only [hz, true_or, if_true] at h
  simp [Status.ok, isInformational] at h

/-- A row of bounds that pass: not zero, and within its ceiling. -/
theorem validate_row (h : b.validate.ok = true) {value ceiling : Nat}
    (name : String) (hmem : (value, ceiling, name) ∈ b.checks) : value ≠ 0 ∧ value ≤ ceiling := by
  have hrow := validate_checks h _ hmem
  simp only [checkOne] at hrow
  split at hrow
  · simp at hrow
  next hzero =>
  split at hrow
  · simp at hrow
  · next hle => exact ⟨hzero, not_lt.mp hle⟩

/-- Frames stay far below the four gigabytes of a length field. -/
theorem validate_frame (h : b.validate.ok = true) :
    b.maxFrameBytes ≠ 0 ∧ b.maxFrameBytes ≤ 4 * 1024 * 1024 :=
  validate_row h "max_frame_bytes" (by simp [checks])

theorem validate_journal (h : b.validate.ok = true) :
    b.maxJournalBytes ≠ 0 ∧ b.maxJournalBytes ≤ 64 * 1024 * 1024 :=
  validate_row h "max_journal_bytes" (by simp [checks])

end RuntimeBounds

end DpuFabric
