/-
  Lib.Spread — ONE SCAN WITH A QUOTA PER CLASS.

  Items are looked at once, in a given order, and taken as long as something
  is still wanted and the class of the item has room.  Whether a class has
  room depends on how many of it are taken (`room`), and only ever gets worse.

  However the items are ordered, the scan takes as many as any selection that
  keeps the quotas can (`spread_length`): an item that is passed over was passed
  over because its class is full.
-/
import Mathlib.Data.List.Perm.Subperm
import Mathlib.Data.List.Nodup

namespace DpuFabric.Lib

variable {α κ : Type} [DecidableEq κ] {room : Nat → Bool} {cls : α → κ} {wanted : Nat}

/-- How many items of a class are taken. -/
def ofClass (cls : α → κ) (taken : List α) (k : κ) : Nat :=
  taken.countP fun a => decide (cls a = k)

/-- One item of the scan. -/
def spreadStep (room : Nat → Bool) (cls : α → κ) (wanted : Nat) (taken : List α) (a : α) : List α :=
  if taken.length < wanted ∧ room (ofClass cls taken (cls a)) = true then taken ++ [a] else taken

/-- The scan over all items. -/
def spread (room : Nat → Bool) (cls : α → κ) (wanted : Nat) (items taken : List α) : List α :=
  items.foldl (spreadStep room cls wanted) taken

/-- A selection keeps the quotas: each class had room for each of its items. -/
def KeepsQuota (room : Nat → Bool) (cls : α → κ) (taken : List α) : Prop :=
  ∀ k n, n < ofClass cls taken k → room n = true

theorem ofClass_concat (taken : List α) (a : α) (k : κ) :
    ofClass cls (taken ++ [a]) k = ofClass cls taken k + if cls a = k then 1 else 0 := by
  unfold ofClass
  by_cases h : cls a = k <;> simp [h]

theorem ofClass_le_length (taken : List α) (k : κ) : ofClass cls taken k ≤ taken.length :=
  List.countP_le_length

/-! ## §1. What the scan keeps. -/

variable {taken : List α}

theorem scanStep_keepsQuota (h : KeepsQuota room cls taken) (a : α) :
    KeepsQuota room cls (spreadStep room cls wanted taken a) := by
  unfold spreadStep
  split
  · next htake =>
    intro k n hn
    rw [ofClass_concat] at hn
    by_cases hk : cls a = k
    · subst hk
      rw [if_pos rfl] at hn
      rcases Nat.lt_succ_iff_lt_or_eq.mp hn with hlt | rfl
      · exact h _ n hlt
      · exact htake.2
    · rw [if_neg hk, Nat.add_zero] at hn
      exact h k n hn
  · exact h

theorem spread_keepsQuota {items : List α} (h : KeepsQuota room cls taken) :
    KeepsQuota room cls (spread room cls wanted items taken) := by
  induction items generalizing taken with
  | nil => exact h
  | cons a items ih => exact ih (scanStep_keepsQuota h a)

theorem scanStep_length_le (h : taken.length ≤ wanted) (a : α) :
    (spreadStep room cls wanted taken a).length ≤ wanted := by
  unfold spreadStep
  split
  · next htake =>
    rw [List.length_append, List.length_singleton]
    exact htake.1
  · exact h

theorem spread_length_le {items : List α} (h : taken.length ≤ wanted) :
    (spread room cls wanted items taken).length ≤ wanted := by
  induction items generalizing taken with
  | nil => exact h
  | cons a items ih => exact ih (scanStep_length_le h a)

theorem spread_sublist (room : Nat → Bool) (cls : α → κ) (wanted : Nat) (items taken : List α) :
    ∃ part, spread room cls wanted items taken = taken ++ part ∧ part.Sublist items := by
  induction items generalizing taken with
  | nil => exact ⟨[], by simp [spread], List.Sublist.refl _⟩
  | cons a items ih =>
    obtain ⟨part, hscan, hsub⟩ := ih (spreadStep room cls wanted taken a)
    by_cases htake : taken.length < wanted ∧ room (ofClass cls taken (cls a)) = true
    · refine ⟨a :: part, ?_, hsub.cons_cons a⟩
      show spread room cls wanted items (spreadStep room cls wanted taken a) = _
      rw [hscan, spreadStep, if_pos htake, List.append_assoc, List.singleton_append]
    · refine ⟨part, ?_, hsub.cons a⟩
      show spread room cls wanted items (spreadStep room cls wanted taken a) = _
      rw [hscan, spreadStep, if_neg htake]

/-! ## §2. What the scan misses. -/

section Missed

variable (hroom : ∀ m n, m ≤ n → room n = true → room m = true)

include hroom

variable {items : List α}

theorem spread_full {taken : List α} {k : κ} (h : room (ofClass cls taken k) = false) :
    room (ofClass cls (spread room cls wanted items taken) k) = false := by
  obtain ⟨part, hscan, -⟩ := spread_sublist room cls wanted items taken
  rw [← Bool.not_eq_true] at h ⊢
  refine fun hopen => h (hroom _ _ ?_ hopen)
  unfold ofClass
  rw [hscan, List.countP_append]
  exact Nat.le_add_right _ _

/-- As long as something is wanted, an item is only passed over if its class
is full. -/
theorem spread_missed {taken : List α}
    (hshort : (spread room cls wanted items taken).length < wanted) {a : α} (ha : a ∈ items) :
    a ∈ spread room cls wanted items taken
      ∨ room (ofClass cls (spread room cls wanted items taken) (cls a)) = false := by
  induction items generalizing taken with
  | nil => simp at ha
  | cons b items ih =>
    rcases List.mem_cons.mp ha with rfl | ha
    · obtain ⟨part, hscan, -⟩ :=
        spread_sublist room cls wanted items (spreadStep room cls wanted taken a)
      cases hopen : room (ofClass cls taken (cls a)) with
      | true =>
        -- the scan was short at the end, so it was short here
        have hlonger : (spreadStep room cls wanted taken a).length < wanted := by
          have hend : (spread room cls wanted items (spreadStep room cls wanted taken a)).length
              < wanted := hshort
          rw [hscan, List.length_append] at hend
          omega
        have hwanted : taken.length < wanted := by
          unfold spreadStep at hlonger
          split at hlonger
          · rw [List.length_append] at hlonger
            omega
          · exact hlonger
        left
        show a ∈ spread room cls wanted items (spreadStep room cls wanted taken a)
        rw [hscan, spreadStep, if_pos ⟨hwanted, hopen⟩]
        simp
      | false =>
        right
        have hstep : spreadStep room cls wanted taken a = taken := by
          rw [spreadStep, if_neg (by simp [hopen])]
        show room (ofClass cls
          (spread room cls wanted items (spreadStep room cls wanted taken a)) (cls a)) = false
        rw [hstep]
        exact spread_full hroom hopen
    · exact ih hshort ha

/-- **The scan takes as many as any selection** of items that keeps the
quotas. -/
theorem spread_length [DecidableEq α] {chosen : List α} (hnodup : chosen.Nodup)
    (hsub : ∀ a ∈ chosen, a ∈ items) (hquota : KeepsQuota room cls chosen)
    (hwanted : chosen.length = wanted) : (spread room cls wanted items []).length = wanted := by
  by_contra hne
  have hshort : (spread room cls wanted items []).length < wanted :=
    Nat.lt_of_le_of_ne (spread_length_le (Nat.zero_le _)) hne
  generalize htaken : spread room cls wanted items [] = taken at hshort
  have hmissed : ∀ a ∈ chosen, a ∈ taken ∨ room (ofClass cls taken (cls a)) = false := by
    intro a ha
    rw [← htaken] at hshort ⊢
    exact spread_missed hroom hshort (hsub a ha)
  -- class by class the selection has no more than the scan
  have hclass : ∀ k, ofClass cls chosen k ≤ ofClass cls taken k := by
    intro k
    by_cases hfull : room (ofClass cls taken k) = true
    · have hin : ∀ a ∈ chosen.filter (fun a => decide (cls a = k)),
          a ∈ taken.filter (fun a => decide (cls a = k)) := by
        intro a ha
        obtain ⟨hmem, hk⟩ := List.mem_filter.mp ha
        rcases hmissed a hmem with htook | hnot
        · exact List.mem_filter.mpr ⟨htook, hk⟩
        · rw [of_decide_eq_true hk, hfull] at hnot
          simp at hnot
      have hle := (List.subperm_of_subset (hnodup.filter _) hin).length_le
      unfold ofClass
      rwa [List.countP_eq_length_filter, List.countP_eq_length_filter]
    · by_contra hmore
      exact hfull (hquota k _ (Nat.not_le.mp hmore))
  have hcounts : (chosen.map cls).Subperm (taken.map cls) := by
    refine List.subperm_ext_iff.mpr fun k _ => ?_
    have hk := hclass k
    unfold ofClass at hk
    rwa [List.count_eq_countP, List.count_eq_countP, List.countP_map, List.countP_map]
  have hle := hcounts.length_le
  rw [List.length_map, List.length_map] at hle
  omega

end Missed

end DpuFabric.Lib
