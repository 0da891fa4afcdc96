/-
  Runtime.Fresh — OPENING A RUNTIME WHERE NOTHING IS STORED.

  Without a snapshot and without a journal, `open` builds the blank state of
  its configuration, whatever fails on the way: a failed probe of a missing
  file still reads "no such file".
-/
import DpuFabric.Persist.Loaded
import DpuFabric.Runtime.Open

namespace DpuFabric

open Lib

variable {μ : Type}

/-! ## §1. The files that opening a store leaves alone. -/

/-- `Store::open` changes neither the snapshot nor the journal. -/
theorem Store.open_disk (o : StoreOptions) {g : FileName} (hg : g ≠ .temp)
    (w : World FileName μ) : (Store.open o w).2.disk g = w.disk g :=
  (storeOpen_passes (calm_disk hg _) rfl o).finish

/-! ## §2. Loading nothing. -/

theorem Store.load_missing (st : Store) {w : World FileName μ} (hs : w.disk .snapshot = none)
    (hj : w.disk .journal = none) :
    ∃ recovery st' w', st.load w = (.ok { recovery, snapshot := [], records := [] }, st', w') := by
  have hsnapshot : loadSnapshot st.options st.recovery w
      = (.ok [], { st.recovery with classification := .emptyStore },
          (fileExists .snapshot w).2) := by
    unfold loadSnapshot
    have hf := fileExists_missing hs
    split
    · next hw => simp only [hw]
    · next hw => rw [hw] at hf; exact absurd hf (by simp)
  have hj' : (fileExists .snapshot w).2.disk .journal = none := by
    rw [fileExists_disk]; exact hj
  have hjournal : ∀ recovery, loadJournal st.options recovery (fileExists .snapshot w).2
      = (.ok [], recovery, (fileExists .journal (fileExists .snapshot w).2).2) := by
    intro recovery
    unfold loadJournal
    have hf := fileExists_missing hj'
    split
    · next hw => simp only [hw]
    · next hw => rw [hw] at hf; exact absurd hf (by simp)
  refine ⟨{ st.recovery with classification := .emptyStore },
    { st with recovery := { st.recovery with classification := .emptyStore } },
    (fileExists .journal (fileExists .snapshot w).2).2, ?_⟩
  simp only [Store.load, hsnapshot, hjournal]

/-- **A runtime that opens where nothing is stored starts blank.** -/
theorem open_fresh {config : RuntimeConfig} {w w' : RuntimeWorld} {rt : FabricRuntime}
    (hfresh : config.storeDirectory = none
      ∨ (w.disk .snapshot = none ∧ w.disk .journal = none))
    (h : FabricRuntime.open config w = (.ok rt, w')) :
    rt.config = config ∧ rt.state = initialState config := by
  unfold FabricRuntime.open at h
  split at h
  · simp at h
  simp only at h
  split at h
  · obtain ⟨h, -⟩ := Prod.mk.inj h
    injection h with h
    subst h
    exact ⟨rfl, rfl⟩
  · next directory hdir =>
    obtain ⟨hs, hj⟩ := hfresh.resolve_left (by simp [hdir])
    have hs₁ := Store.open_disk (config.storeOptions directory)
      (show FileName.snapshot ≠ .temp by simp) (w.note .started)
    have hj₁ := Store.open_disk (config.storeOptions directory)
      (show FileName.journal ≠ .temp by simp) (w.note .started)
    rw [World.disk_note] at hs₁ hj₁
    split at h
    · simp at h
    next st w₁ hopen =>
    rw [hopen] at hs₁ hj₁
    obtain ⟨recovery, st', w₂, hload⟩ :=
      Store.load_missing st (hs₁.trans hs) (hj₁.trans hj)
    simp only [FabricRuntime.recover, hload, FabricRuntime.takeSnapshot, if_true,
      replayRecords, ne_eq, not_true_eq_false, or_self, if_false] at h
    obtain ⟨h, -⟩ := Prod.mk.inj h
    injection h with h
    subst h
    exact ⟨rfl, rfl⟩

end DpuFabric
