/-
  Core.Truncation — THE TRUNCATION LEDGER AGAINST ITS CALLS (`core/bounded.cpp`).

  A run of `TruncationLedger::record` is kept with the answer each call got.
  The table has at most `kMaxRecords` rows, one for a pair of container and
  reason, and a row is the sum of the successful calls for its pair.
-/
import Mathlib.Algebra.BigOperators.Group.List.Basic
import Mathlib.Data.List.Induction
import Mathlib.Data.List.Nodup
import DpuFabric.Core.Bounded

namespace DpuFabric.TruncationLedger

/-! ## §1. Calls and their history. -/

/-- The arguments of `TruncationLedger::record`. -/
structure Call where
  container : Text
  requested : UInt64
  accepted : UInt64
  reason : ReasonCode

/-- What the table is aggregated by. -/
abbrev Call.key (c : Call) : Text × ReasonCode := (c.container, c.reason)

abbrev rowKey (row : TruncationRecord) : Text × ReasonCode := (row.container, row.reason)

/-- A ledger, and the calls that made it with their answers, the newest first. -/
structure Kept where
  ledger : TruncationLedger := {}
  history : List (Call × Status) := []

def call (l : TruncationLedger) (c : Call) : Status × TruncationLedger :=
  l.record c.container c.requested c.accepted c.reason

def Kept.step (k : Kept) (c : Call) : Kept :=
  ⟨(k.ledger.call c).2, (c, (k.ledger.call c).1) :: k.history⟩

def run (calls : List Call) : Kept := calls.foldl Kept.step {}

/-- What a call adds to the sums of a pair: its argument if it succeeded and is for the pair. -/
def share (amount : Call → UInt64) (key : Text × ReasonCode) (a : Call × Status) : Nat :=
  if a.2.ok = true ∧ a.1.key = key then (amount a.1).toNat else 0

/-- The sum of an argument over the successful calls for a pair. -/
def total (amount : Call → UInt64) (key : Text × ReasonCode) (history : List (Call × Status)) :
    Nat :=
  (history.map (share amount key)).sum

/-- The two refusals of a full table; the second once the counter has no room either. -/
def tableFull (answer : Status) : Bool :=
  answer = refuse .boundExceeded (txt "truncation ledger full") ∨
    answer = refuse .arithmeticOverflow (txt "ledger overflow counter")

/-- What a row says of the calls made so far. -/
structure Totals (history : List (Call × Status)) (row : TruncationRecord) : Prop where
  balanced : row.requested.toNat = row.accepted.toNat + row.dropped.toNat
  requested : row.requested.toNat = total Call.requested (rowKey row) history
  accepted : row.accepted.toNat = total Call.accepted (rowKey row) history

/-- What a ledger says of the calls made so far. -/
structure Accounts (k : Kept) : Prop where
  bounded : k.ledger.records.length ≤ maxRecords
  distinct : (k.ledger.records.map rowKey).Nodup
  totals : ∀ row ∈ k.ledger.records, Totals k.history row
  -- no successful call is missing from the table
  recorded : ∀ a ∈ k.history, a.2.ok = true → a.1.key ∈ k.ledger.records.map rowKey
  overflow : k.ledger.ledgerOverflow.toNat =
    min (k.history.countP fun a => tableFull a.2) (2 ^ 64 - 1)

/-! ## §2. What one call does. -/

/-- A row with one more call in it. -/
structure Adds (c : Call) (row row' : TruncationRecord) : Prop where
  key : rowKey row' = rowKey row
  requested : row'.requested.toNat = row.requested.toNat + c.requested.toNat
  accepted : row'.accepted.toNat = row.accepted.toNat + c.accepted.toNat
  dropped : row'.dropped = row'.requested - row'.accepted

/-- The three ways a call goes; a refusal leaves the rows. -/
inductive Outcome (l : TruncationLedger) (c : Call) : Status × TruncationLedger → Prop
  | refused (s : Status) (n : UInt64) : s.ok = false →
      n.toNat = min (l.ledgerOverflow.toNat + if tableFull s then 1 else 0) (2 ^ 64 - 1) →
      Outcome l c (s, { l with ledgerOverflow := n })
  | added (as bs : List TruncationRecord) (row row' : TruncationRecord) :
      c.accepted ≤ c.requested → l.records = as ++ row :: bs → rowKey row = c.key →
      Adds c row row' → Outcome l c (.success, { l with records := as ++ row' :: bs })
  | fresh : c.accepted ≤ c.requested → l.records.length < maxRecords →
      c.key ∉ l.records.map rowKey →
      Outcome l c (.success, { l with records := l.records ++
        [⟨c.container, c.requested, c.accepted, c.requested - c.accepted, c.reason⟩] })

variable {c : Call} {row : TruncationRecord} {history : List (Call × Status)}
  {key : Text × ReasonCode} {k : Kept}

theorem accumulate_adds {row' : TruncationRecord}
    (h : accumulate row c.requested c.accepted = some row') : Adds c row row' := by
  unfold accumulate at h
  split at h
  case h_1 r a hr ha =>
    cases h
    exact ⟨rfl, checkedAdd_toNat hr, checkedAdd_toNat ha, rfl⟩
  case h_2 => cases h

/-- `set` at the index the search found replaces what the search found. -/
theorem set_findIdx {α : Type} {p : α → Bool} {as bs : List α} {x : α} (y : α)
    (hx : p x = true) (has : ∀ a ∈ as, p a = false) :
    (as ++ x :: bs).set ((as ++ x :: bs).findIdx p) y = as ++ y :: bs := by
  have hi : (as ++ x :: bs).findIdx p = as.length := by
    have hlt : ¬ as.findIdx p < as.length := by
      rw [List.findIdx_lt_length]
      simpa using has
    rw [List.findIdx_append, if_neg hlt, List.findIdx_cons, hx, cond_true, Nat.zero_add]
  rw [hi, List.set_append_right _ _ le_rfl]
  simp

/-- A refusal that does not count. -/
theorem Outcome.unchanged {l : TruncationLedger} {s : Status} (hs : s.ok = false)
    (hfull : tableFull s = false) : Outcome l c (s, l) := by
  refine .refused s l.ledgerOverflow hs ?_
  have := l.ledgerOverflow.toNat_lt
  rw [hfull, if_neg Bool.false_ne_true]
  omega

theorem call_outcome (l : TruncationLedger) (c : Call) : Outcome l c (l.call c) := by
  unfold call record
  split
  case isTrue => exact .unchanged (by decide) (by decide)
  case isFalse hlt =>
    have hle : c.accepted ≤ c.requested := UInt64.not_lt.mp hlt
    split
    case isTrue => exact .unchanged (by decide) (by decide)
    case isFalse =>
      extract_lets same
      split
      case h_1 row hrow =>
        obtain ⟨hkey, as, bs, hsplit, has⟩ := List.find?_eq_some_iff_append.mp hrow
        split
        case h_1 row' hrow' =>
          rw [hsplit, set_findIdx _ hkey (by simpa using has)]
          refine .added as bs row row' hle hsplit ?_ (accumulate_adds hrow')
          simpa [same] using hkey
        case h_2 => exact .unchanged (by decide) (by decide)
      case h_2 hnone =>
        have hroom := l.ledgerOverflow.toNat_lt
        split
        case isTrue =>
          split
          case h_1 n hn =>
            refine .refused _ n (by decide) ?_
            have hn' : n.toNat = l.ledgerOverflow.toNat + 1 := checkedAdd_toNat hn
            have := n.toNat_lt
            rw [if_pos (by decide)]
            omega
          case h_2 hn =>
            refine .refused _ l.ledgerOverflow (by decide) ?_
            have : ¬ l.ledgerOverflow.toNat + 1 < 2 ^ 64 := by
              intro hlt
              cases (if_pos hlt).symm.trans hn
            rw [if_pos (by decide)]
            omega
        case isFalse hlen =>
          refine .fresh hle (Nat.lt_of_not_le hlen) ?_
          simpa [same] using hnone

/-! ## §3. The whole run. -/

theorem total_refused {amount : Call → UInt64} {s : Status} (hs : s.ok = false) :
    total amount key ((c, s) :: history) = total amount key history := by
  simp [total, share, hs]

theorem total_success {amount : Call → UInt64} :
    total amount key ((c, .success) :: history) =
      total amount key history + if c.key = key then (amount c).toNat else 0 := by
  have hok : Status.success.ok = true := rfl
  simp [total, share, hok, Nat.add_comm]

theorem Accounts.total_absent (h : Accounts k) (habsent : key ∉ k.ledger.records.map rowKey)
    (amount : Call → UInt64) :
    total amount key k.history = 0 := by
  have hzero : ∀ a ∈ k.history, share amount key a = 0 := by
    intro a ha
    refine if_neg fun hshare => habsent ?_
    exact hshare.2 ▸ h.recorded a ha hshare.1
  rw [total, List.map_congr_left hzero]
  simp

theorem Totals.other (h : Totals history row) (hkey : c.key ≠ rowKey row) :
    Totals ((c, .success) :: history) row := by
  refine ⟨h.balanced, ?_, ?_⟩
  · rw [total_success, if_neg hkey, h.requested, Nat.add_zero]
  · rw [total_success, if_neg hkey, h.accepted, Nat.add_zero]

theorem dropped_balanced {r a : UInt64} (h : a.toNat ≤ r.toNat) :
    r.toNat = a.toNat + (r - a).toNat := by
  rw [UInt64.toNat_sub_of_le _ _ (UInt64.le_iff_toNat_le.mpr h)]
  omega

/-- A successful call: its row is the only one that changes, and the table keeps its keys. -/
theorem Accounts.credit (h : Accounts k) {rs : List TruncationRecord}
    (hbounded : rs.length ≤ maxRecords) (hdistinct : (rs.map rowKey).Nodup)
    (hkept : k.ledger.records.map rowKey ⊆ rs.map rowKey) (hmem : row ∈ rs)
    (hold : ∀ other ∈ rs, other = row ∨ other ∈ k.ledger.records) (hkey : rowKey row = c.key)
    (htotals : Totals ((c, .success) :: k.history) row) :
    Accounts ⟨{ k.ledger with records := rs }, (c, .success) :: k.history⟩ := by
  refine ⟨hbounded, hdistinct, fun other hother => ?_, ?_, ?_⟩
  · by_cases hsame : rowKey other = rowKey row
    · exact List.inj_on_of_nodup_map hdistinct hother hmem hsame ▸ htotals
    · refine (h.totals other ?_).other fun heq => hsame (heq.symm.trans hkey.symm)
      exact (hold other hother).resolve_left fun heq => hsame (heq ▸ rfl)
  · rintro a (_ | ⟨_, ha⟩) hok
    · exact hkey ▸ List.mem_map_of_mem hmem
    · exact hkept (h.recorded a ha hok)
  · have hnot : tableFull .success = false := by decide
    rw [h.overflow, List.countP_cons, hnot]
    rfl

theorem Accounts.step (h : Accounts k) (c : Call) : Accounts (k.step c) := by
  have hout := call_outcome k.ledger c
  unfold Kept.step
  revert hout
  generalize k.ledger.call c = out
  rintro (⟨s, n, hs, hn⟩ | ⟨as, bs, row, row', hle, hsplit, hkey, hadds⟩ | ⟨hle, hlen, hnew⟩)
  · refine ⟨h.bounded, h.distinct, fun row hrow => ?_, ?_, ?_⟩
    · have hrow := h.totals row hrow
      exact ⟨hrow.balanced, by rw [total_refused hs, hrow.requested],
        by rw [total_refused hs, hrow.accepted]⟩
    · rintro a (_ | ⟨_, ha⟩) hok
      · cases hs.symm.trans hok
      · exact h.recorded a ha hok
    · rw [hn, h.overflow, List.countP_cons]
      split <;> omega
  · -- the row found gets the call
    have hmap : (as ++ row' :: bs).map rowKey = k.ledger.records.map rowKey := by
      simp only [hsplit, List.map_append, List.map_cons, hadds.key]
    have hlen : (as ++ row' :: bs).length = k.ledger.records.length := by
      simpa using congrArg List.length hmap
    have hrow := h.totals row (by simp [hsplit])
    have hmem : row' ∈ as ++ row' :: bs := by simp
    refine h.credit (hlen ▸ h.bounded) (hmap ▸ h.distinct) (hmap ▸ List.Subset.refl _) hmem ?_
      (hadds.key.trans hkey) ⟨?_, ?_, ?_⟩
    · intro other hother
      grind
    · rw [hadds.dropped]
      refine dropped_balanced ?_
      have := hrow.balanced
      have := UInt64.le_iff_toNat_le.mp hle
      rw [hadds.requested, hadds.accepted]
      omega
    · rw [total_success, hadds.key, if_pos hkey.symm, ← hrow.requested, hadds.requested]
    · rw [total_success, hadds.key, if_pos hkey.symm, ← hrow.accepted, hadds.accepted]
  · refine h.credit ?_ ?_ ?_ (List.mem_append_right _ (List.mem_singleton_self _)) ?_ rfl
      ⟨dropped_balanced (UInt64.le_iff_toNat_le.mp hle), ?_, ?_⟩
    · rwa [List.length_append]
    · rw [List.map_append, List.nodup_append]
      refine ⟨h.distinct, List.nodup_singleton _, ?_⟩
      grind
    · rw [List.map_append]
      exact List.subset_append_left _ _
    · intro other hother
      grind
    · rw [total_success, if_pos rfl, h.total_absent hnew, Nat.zero_add]
    · rw [total_success, if_pos rfl, h.total_absent hnew, Nat.zero_add]

theorem run_append (calls : List Call) (c : Call) : run (calls ++ [c]) = (run calls).step c :=
  List.foldl_concat ..

theorem run_accounts (calls : List Call) : Accounts (run calls) := by
  induction calls using List.reverseRecOn with
  | nil => exact ⟨by decide, by decide, by simp [run], by simp [run], by decide⟩
  | append_singleton calls c ih =>
    rw [run_append]
    exact ih.step c

/-- After any calls the ledger accounts for exactly those that succeeded, and one that does not
succeed leaves its rows. -/
theorem record_accounting (calls : List Call) :
    Accounts (run calls) ∧
      ∀ c, ((run calls).ledger.call c).1.ok = false →
        ((run calls).ledger.call c).2.records = (run calls).ledger.records := by
  refine ⟨run_accounts calls, fun c => ?_⟩
  have hout := call_outcome (run calls).ledger c
  revert hout
  generalize (run calls).ledger.call c = out
  rintro (_ | _ | _) hs
  · rfl
  · cases hs
  · cases hs

end DpuFabric.TruncationLedger
