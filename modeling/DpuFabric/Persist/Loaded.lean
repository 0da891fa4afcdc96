/-
  Persist.Loaded — WHAT `load` CAN RETURN, WHATEVER THE FILES HOLD AND WHATEVER FAILS.

  A file is read whole or not at all, and a failed probe reads as "no such
  file".  So the snapshot payload is nothing or what the snapshot file parses
  to, and every journal record is one of the records of the journal file.
-/
import DpuFabric.Persist.Moments

namespace DpuFabric

open Lib

variable {st : Store} {payload raw : List UInt8} {recovery recovery' : StoreRecovery}

variable {μ : Type} {o : StoreOptions} {w w' : World FileName μ}

/-! ## §1. Reading. -/

theorem fileExists_disk (f g : FileName) (w : World FileName μ) :
    (fileExists f w).2.disk g = w.disk g :=
  World.disk_perform_of_not_touches rfl w

theorem fileExists_missing {f : FileName} (h : w.disk f = none) : (fileExists f w).1 = false := by
  simp [fileExists, h]

theorem readWholeFile_ok {f : FileName} {maxBytes : Nat}
    (h : readWholeFile o f maxBytes w = (.ok raw, w')) :
    raw = (w.disk f).getD [] ∧ raw.length ≤ maxBytes := by
  unfold readWholeFile at h
  simp only at h
  split at h
  · simp at h
  split at h
  · simp at h
  next hsize =>
  split at h
  · simp at h
  · cases h
    exact ⟨rfl, not_lt.mp hsize⟩

/-! ## §2. The snapshot. -/

/-- The payload that `load` returns is empty or parsed from the file. -/
theorem loadSnapshot_ok (h : loadSnapshot o recovery w = (.ok payload, recovery', w')) :
    payload = [] ∨ ∃ raw, w.disk .snapshot = some raw
      ∧ raw.length ≤ o.maxRecordBytes + frameHeaderBytes + frameDigestBytes
      ∧ parseSnapshot o raw = .ok payload := by
  unfold loadSnapshot at h
  simp only at h
  split at h
  · cases h
    exact .inl rfl
  next w₁ hfound =>
  have hdisk := fileExists_disk .snapshot .snapshot w
  rw [hfound] at hdisk
  simp only at hdisk
  split at h
  · simp at h
  · cases h
    exact .inl rfl
  next raw w₂ hne hread =>
  obtain ⟨hraw, hsize⟩ := readWholeFile_ok hread
  split at h
  · simp at h
  next hparse =>
  cases h
  refine .inr ⟨raw, ?_, hsize, hparse⟩
  rw [hdisk] at hraw
  cases hfile : w.disk .snapshot with
  | none =>
    rw [hfile, Option.getD_none] at hraw
    exact absurd hraw hne
  | some bytes => rw [hraw, hfile, Option.getD_some]

theorem loadSnapshot_disk (recovery : StoreRecovery) {g : FileName} (hg : g ≠ .temp)
    (w : World FileName μ) : (loadSnapshot o recovery w).2.2.disk g = w.disk g :=
  (loadSnapshot_passes (calm_disk hg _) rfl o recovery).finish

/-! ## §3. The journal. -/

/-- The complete records that the journal file starts with. -/
def journalRecords (o : StoreOptions) (d : Disk FileName) : List (List UInt8) :=
  match scan o.format o.semantic o.maxRecordBytes ((d .journal).getD []) with
  | .clean records => records
  | .torn records _ => records
  | .refused _ _ => []

theorem loadJournal_ok {records : List (List UInt8)}
    (h : loadJournal o recovery w = (.ok records, recovery', w')) :
    records.Sublist (journalRecords o w.disk) := by
  unfold loadJournal at h
  split at h
  · cases h
    exact List.nil_sublist _
  next w₁ hfound =>
  have hdisk := fileExists_disk .journal .journal w
  rw [hfound] at hdisk
  simp only at hdisk
  split at h
  · simp at h
  next raw w₂ hread =>
  obtain ⟨hraw, -⟩ := readWholeFile_ok hread
  rw [hdisk] at hraw
  simp only [journalRecords, ← hraw]
  simp only at h
  split at h
  · simp at h
  · next hscan =>
    cases h
    rw [hscan]
  · next hscan =>
    split at h
    · simp at h
    · cases h
      rw [hscan]

/-- **What `load` returns.** -/
theorem load_ok {st' : Store} {loaded : Loaded} (h : st.load w = (.ok loaded, st', w')) :
    (loaded.snapshot = [] ∨ ∃ raw, w.disk .snapshot = some raw
        ∧ raw.length ≤ st.options.maxRecordBytes + frameHeaderBytes + frameDigestBytes
        ∧ parseSnapshot st.options raw = .ok loaded.snapshot)
      ∧ loaded.records.Sublist (journalRecords st.options w.disk) := by
  unfold Store.load at h
  split at h
  · simp at h
  next snapshot recovery w₁ hsnapshot =>
  have hdisk := loadSnapshot_disk (o := st.options) st.recovery (g := .journal) (by simp) w
  rw [hsnapshot] at hdisk
  split at h
  · simp at h
  next records recovery₂ w₂ hjournal =>
  cases h
  refine ⟨loadSnapshot_ok hsnapshot, ?_⟩
  have hrecords := loadJournal_ok hjournal
  simp only at hdisk
  rwa [journalRecords, hdisk, ← journalRecords] at hrecords

/-! ## §4. Opening without faults. -/

theorem Store.open_usable (h : Store.open o w = (.ok st, w')) : o.usable := by
  unfold Store.open at h
  split at h
  · simp at h
  next hdirectory =>
  split at h
  · simp at h
  next hbounds =>
  rw [not_or] at hbounds
  exact ⟨hdirectory, hbounds⟩

/-- A store opened without faults leaves the files to be read without
faults. -/
theorem Store.open_clean_inv {t : List (Action FileName μ)}
    (h : Store.open o (World.clean t) = (.ok st, w')) :
    ∃ u, w' = World.clean (t ++ u) ∧ (∀ a ∈ u, Idle a) ∧ st.options = o := by
  obtain ⟨st', u, hopen, hidle, hoptions, -⟩ := Store.open_clean (Store.open_usable h) t
  rw [hopen] at h
  cases h
  exact ⟨u, rfl, hidle, hoptions⟩

end DpuFabric
