/-
  Persist.Rotation — A ROTATION CUT OFF ANYWHERE.

  `rotate` is run under any plan of faults and its trace is cut after any
  number of calls; a failed write leaves any part of its bytes.  A store
  opened on what is left loads the old snapshot with the journal, the new
  snapshot with the journal, or the new snapshot alone: as long as the header
  of a frame can say the length of the new payload
  (`rotation_crash_atomic_iff`).
-/
import DpuFabric.Persist.Truncated

namespace DpuFabric

open Lib World

variable {payload : List UInt8} {st : Store}

variable {μ : Type} {o : StoreOptions}

/-! ## §1. What the calls of a rotation do to a directory that loads. -/

section Steps

variable {snapshot : List UInt8} {records : List (List UInt8)} {tail : List UInt8}

/-- A directory that loads so. -/
def LoadsAs (o : StoreOptions) (snapshot : List UInt8) (records : List (List UInt8))
    (t : List (Action FileName μ)) : Prop :=
  Loads o (diskAfter t) snapshot records []

theorem loadsAs_calm :
    KeptByCalm (LoadsAs o snapshot records : List (Action FileName μ) → Prop) := by
  intro t op fault hcalm h
  refine h.congr ?_ ?_
  · rw [diskAfter_concat, FileOp.apply_of_not_touches hcalm.1]
  · rw [journalFile, diskAfter_concat, FileOp.apply_of_not_touches hcalm.2, journalFile]

theorem LoadsAs.renameFailed {t : List (Action FileName μ)} (h : LoadsAs o snapshot records t)
    (n : Nat) : LoadsAs o snapshot records (t ++ [.file (.rename .temp .snapshot) (some n)]) := by
  unfold LoadsAs
  rw [diskAfter_concat]
  exact h

/-- The journal opened for writing is empty; a failed opening leaves it. -/
theorem LoadsAs.emptied {t : List (Action FileName μ)} (h : LoadsAs o snapshot records t)
    (fault : Option Nat) :
    LoadsAs o snapshot records (t ++ [.file (.openWrite .journal) fault])
      ∨ LoadsAs o snapshot [] (t ++ [.file (.openWrite .journal) fault]) := by
  unfold LoadsAs
  rw [diskAfter_concat]
  cases fault with
  | some n => exact .inl h
  | none =>
    refine .inr ⟨?_, Nat.zero_le _, .done⟩
    unfold SnapshotReads
    rw [FileOp.apply_of_not_touches (by simp [FileOp.touches])]
    exact h.snapshot

theorem LoadsAs.installed {t : List (Action FileName μ)}
    (h : LoadsAs o snapshot records t) (htemp : diskAfter t .temp = some (snapshotFrame o payload))
    (hfits : (snapshotFrame o payload).length ≤ o.maxRecordBytes) (h32 : payload.length < 2 ^ 32) :
    LoadsAs o payload records (t ++ [.file (.rename .temp .snapshot) none]) := by
  have hle := (payload_length_le .snapshot o.format o.semantic payload).trans hfits
  have hdisk : diskAfter (t ++ [.file (.rename .temp .snapshot) none])
      = ((diskAfter t).set .temp none).set .snapshot (some (snapshotFrame o payload)) := by
    rw [diskAfter_concat]
    simp only [FileOp.apply, htemp]
  have hjournal : journalFile (diskAfter (t ++ [.file (.rename .temp .snapshot) none]))
      = journalFile (diskAfter t) := by
    rw [journalFile, hdisk, Disk.set_of_ne _ _ (by simp), Disk.set_of_ne _ _ (by simp), journalFile]
  have hwhole := whole_frame .snapshot o.format o.semantic hle h32 []
  rw [List.append_nil] at hwhole
  refine ⟨.inr ⟨snapshotFrame o payload, ?_, hwhole, frame_length _ _ _ _⟩, ?_, ?_⟩
  · rw [hdisk, Disk.set_self]
  · rw [hjournal]
    exact h.fits
  · rw [hjournal]
    exact h.journal

end Steps

/-! ## §2. Every cut. -/

/-- What is left of a rotation that is cut off after `n` calls. -/
def rotationCut (st : Store) (payload : List UInt8) (t : List (Action FileName μ))
    (faults : List (Option Nat)) (n : Nat) : List (Action FileName μ) :=
  (st.rotate payload { trace := t, faults }).2.2.trace.take (t.length + n)

/-- A store opened on these files loads them as the old snapshot with the
journal, the new snapshot with the journal, or the new snapshot alone. -/
def RecoversRotation (o : StoreOptions) (snapshot payload : List UInt8)
    (records : List (List UInt8)) (cut : List (Action FileName μ)) : Prop :=
  ∃ st u loaded, Store.open o (clean cut) = (.ok st, clean (cut ++ u))
    ∧ (st.load (clean (cut ++ u))).1 = .ok loaded
    ∧ ((loaded.snapshot = snapshot ∧ loaded.records = records)
      ∨ (loaded.snapshot = payload ∧ loaded.records = records)
      ∨ (loaded.snapshot = payload ∧ loaded.records = []))

theorem recoversRotation_of_loads (ho : o.usable) {snapshot : List UInt8}
    {records : List (List UInt8)} {cut : List (Action FileName μ)}
    (h : LoadsAs o snapshot records cut ∨ LoadsAs o payload records cut ∨ LoadsAs o payload [] cut) :
    RecoversRotation o snapshot payload records cut := by
  have hopens : ∀ {s rs}, LoadsAs o s rs cut → ∃ st u loaded,
      Store.open o (clean cut) = (.ok st, clean (cut ++ u))
        ∧ (st.load (clean (cut ++ u))).1 = .ok loaded
        ∧ loaded.snapshot = s ∧ loaded.records = rs := by
    intro s rs h
    obtain ⟨st, u, recovery, v, hopen, hload, -⟩ := reopen_of_loads ho h
    exact ⟨st, u, _, hopen, congrArg Prod.fst hload, rfl, rfl⟩
  rcases h with h | h | h
  all_goals
    obtain ⟨st, u, loaded, hopen, hload, hloaded⟩ := hopens h
  · exact ⟨st, u, loaded, hopen, hload, .inl hloaded⟩
  · exact ⟨st, u, loaded, hopen, hload, .inr (.inl hloaded)⟩
  · exact ⟨st, u, loaded, hopen, hload, .inr (.inr hloaded)⟩

/-- After a rotation in which nothing failed, the snapshot file is the frame. -/
theorem rotated_snapshot (hopen : st.closed = false)
    (hfits : (snapshotFrame st.options payload).length ≤ st.options.maxRecordBytes)
    (t : List (Action FileName μ)) :
    (st.rotate payload (clean t)).2.2.disk .snapshot
      = some (snapshotFrame st.options payload) := by
  have hrelease : ∀ step ∈ releaseSteps st, step.1.touches FileName.snapshot = false :=
    fun step hstep => (releaseSteps_calm st step hstep).1
  have htruncate : ∀ step ∈ truncateSteps st.options, step.1.touches FileName.snapshot = false :=
    List.forall_mem_cons.mpr ⟨rfl, fun step hstep => (settleSteps_calm _ step hstep).1⟩
  have hrenamed : calls (snapshotSteps st.options (snapshotFrame st.options payload))
      = (calls (tempSteps st.options (snapshotFrame st.options payload))
        ++ [.file (.rename .temp .snapshot) none] : List (Action FileName μ)) := by
    simp [snapshotSteps, calls]
  rw [rotate_clean hopen, if_neg (by omega), disk_clean, rotateCalls, ← List.append_assoc,
    ← List.append_assoc, diskAfter_calls htruncate, diskAfter_calls hrelease, hrenamed,
    ← List.append_assoc, diskAfter_concat]
  simp only [FileOp.apply, diskAfter_tempSteps, Disk.set_self]

/-- A snapshot that reads back has a length that the header can say. -/
theorem SnapshotReads.length_lt {d : Disk FileName} {q : List UInt8}
    (h : SnapshotReads o d q) (hfile : d .snapshot = some (snapshotFrame o payload)) :
    payload.length < 2 ^ 32 := by
  rcases h with ⟨hempty, -⟩ | ⟨raw, hraw, hwhole, hsize⟩
  · rw [hfile, Option.getD_some] at hempty
    exact absurd hempty (frame_ne_nil _ _ _ _)
  obtain rfl := Option.some.inj (hraw.symm.trans hfile)
  have hlength := frame_length .snapshot o.format o.semantic payload
  have hlt := hwhole.heads.length_lt
  rw [snapshotFrame] at hsize
  omega

/-- A rotation that is not cut off is loaded only within that length. -/
theorem length_lt_of_recovers (st : Store) (hopen : st.closed = false)
    (hfits : (snapshotFrame st.options payload).length ≤ st.options.maxRecordBytes)
    {t : List (Action FileName μ)} {snapshot : List UInt8} {records : List (List UInt8)}
    (h : ∀ n, RecoversRotation st.options snapshot payload records (rotationCut st payload t [] n)) : payload.length < 2 ^ 32 := by
  have hfile := rotated_snapshot hopen hfits t
  set done := (st.rotate payload (clean t)).2.2.trace with hdone
  have hcut : rotationCut st payload t [] done.length = done :=
    List.take_of_length_le (Nat.le_add_left _ _)
  obtain ⟨st', u, loaded, hstore, hload, -⟩ := h done.length
  rw [hcut] at hstore hload
  obtain ⟨v, hv, hidle, hoptions⟩ := Store.open_clean_inv hstore
  have huv : done ++ u = done ++ v := congrArg World.trace hv
  rw [huv] at hload
  obtain ⟨tail, hloads⟩ := loads_of_load hload
  have hsame := (idle_files hidle done).1
  rw [hoptions] at hloads
  exact hloads.snapshot.length_lt (hsame.trans hfile)

/-- **A rotation is crash-atomic**, as long as the header can say the length
of the new payload. -/
theorem rotation_crash_atomic_iff (o : StoreOptions) (ho : o.usable) (st : Store)
    (hst : st.options = o) (hopen : st.closed = false) (t : List (Action FileName μ))
    (snapshot : List UInt8) (records : List (List UInt8))
    (hloads : Loads o (diskAfter t) snapshot records []) (payload : List UInt8)
    (hfits : (snapshotFrame o payload).length ≤ o.maxRecordBytes) :
    (∀ faults n, RecoversRotation o snapshot payload records (rotationCut st payload t faults n))
      ↔ payload.length < 2 ^ 32 := by
  subst hst
  constructor
  · intro hrecovers
    exact length_lt_of_recovers st hopen hfits (hrecovers [])
  intro h32 faults n
  refine recoversRotation_of_loads ho ?_
  -- the old directory up to the rename, then the new snapshot with the
  -- journal or without
  have hphases := rotate_phases (P := LoadsAs st.options snapshot records)
    (Q := fun t' => LoadsAs st.options payload records t' ∨ LoadsAs st.options payload [] t')
    loadsAs_calm (fun t' k h => h.renameFailed k)
    (fun t' op fault hcalm h => h.imp (loadsAs_calm t' op fault hcalm)
      (loadsAs_calm t' op fault hcalm))
    (fun t' fault h => h.elim (fun h => h.emptied fault)
      (fun h => .inr ((h.emptied fault).elim id id)))
    (w := { trace := t, faults }) hloads st payload
    (fun t' _ h htemp => .inl (h.installed htemp hfits h32))
  exact hphases.cut n

theorem loads_nothing (o : StoreOptions) :
    Loads o (diskAfter ([] : List (Action FileName μ))) [] [] [] :=
  ⟨.inl ⟨rfl, rfl⟩, Nat.zero_le _, .done⟩

/-- The first rotation of a store, cut off while the temporary file is
written. -/
theorem first_rotation_cut :
    (snapshotFrame sampleOptions [1]).length ≤ sampleOptions.maxRecordBytes
      ∧ RecoversRotation sampleOptions [] [1] [] (rotationCut
        { options := sampleOptions, closed := false } [1] ([] : List (Action FileName Unit))
        [none, none, some 7] 3) := by
  have hfits : (snapshotFrame sampleOptions [1]).length ≤ sampleOptions.maxRecordBytes := by
    rw [snapshotFrame, frame_length]
    decide
  exact ⟨hfits, (rotation_crash_atomic_iff sampleOptions ⟨by decide, by decide, by decide⟩ _ rfl rfl
    [] [] [] (loads_nothing _) [1] hfits).mpr (by decide) _ _⟩

/-- A snapshot of four gigabytes is within the bound of the store and makes
its directory unreadable. -/
theorem large_snapshot_unreadable :
    (snapshotFrame largeOptions (List.replicate (2 ^ 32) 0)).length ≤ largeOptions.maxRecordBytes
      ∧ ¬ ∀ n, RecoversRotation largeOptions [] (List.replicate (2 ^ 32) 0) [] (rotationCut
        { options := largeOptions, closed := false } (List.replicate (2 ^ 32) 0)
        ([] : List (Action FileName Unit)) [] n) := by
  have hfits : (snapshotFrame largeOptions (List.replicate (2 ^ 32) 0)).length
      ≤ largeOptions.maxRecordBytes := by
    rw [snapshotFrame, frame_length, List.length_replicate]
    decide
  refine ⟨hfits, fun h => ?_⟩
  have hlt := length_lt_of_recovers { options := largeOptions, closed := false } rfl hfits h
  rw [List.length_replicate] at hlt
  exact absurd hlt (by decide)

/-! ## §3. What `rotate` answers. -/

theorem rotation_refusal (framed : List UInt8) {step : FileOp FileName × Status}
    (h : step ∈ snapshotSteps st.options framed ∨ step ∈ releaseSteps st
      ∨ step ∈ truncateSteps st.options) : step.2.ok = false := by
  revert step
  simp only [or_imp, forall_and]
  refine ⟨?_, ?_, ?_⟩
  · simp [snapshotSteps, tempSteps]
  · unfold releaseSteps
    split <;> simp
  · unfold truncateSteps settleSteps
    split <;> simp

/-- The calls up to the rename: seven of them, and only the last one touches
the snapshot. -/
theorem snapshotSteps_disk (o : StoreOptions) (framed : List UInt8) (w : World FileName μ) :
    (w.runSteps (snapshotSteps o framed)).2.disk .snapshot
      = if w.smooth 7 then some framed else w.disk .snapshot := by
  have hcalm : (w.runSteps (tempSteps o framed)).2.disk .snapshot = w.disk .snapshot :=
    disk_runSteps_of_not_touches (by simp [tempSteps, FileOp.touches]) w
  have hseven := w.smooth_add 6 1
  rw [snapshotSteps, runSteps_append]
  rcases runSteps_smooth (tempSteps o framed) w with
    ⟨hsmooth, w₁, hrun, hfaults⟩ | ⟨hrough, s, -, w₁, hrun⟩
  · rw [hrun] at hcalm ⊢
    have hlast : w.smooth 7 = (w₁.faults.headD none).isNone := by
      rw [show (7 : Nat) = 6 + 1 from rfl, hseven, show w.smooth 6 = true from hsmooth,
        show w.faults.drop 6 = w₁.faults from hfaults.symm]
      cases w₁.faults <;> simp
    have htemp : w₁.disk .temp = some framed := by
      rw [World.disk, runSteps_none hrun]
      exact diskAfter_tempSteps o framed w.trace
    rw [hlast]
    simp only [runSteps, perform]
    cases hfault : w₁.faults.headD none with
    | none =>
      simp only [Option.isNone_none, if_true]
      show diskAfter (w₁.trace ++ [_]) _ = _
      rw [diskAfter_concat]
      simp only [FileOp.apply, show diskAfter w₁.trace .temp = some framed from htemp,
        Disk.set_self]
    | some n =>
      simp only [Option.isNone_some, Bool.false_eq_true, if_false]
      show diskAfter (w₁.trace ++ [_]) _ = _
      rw [diskAfter_concat]
      exact hcalm
  · have hseven' : w.smooth 7 = false := by
      rw [show (7 : Nat) = 6 + 1 from rfl, hseven, show w.smooth 6 = false from hrough, Bool.false_and]
    rw [hrun] at hcalm ⊢
    rw [hseven']
    exact hcalm

/-- The number of calls of a rotation. -/
def Store.rotationCalls (st : Store) : Nat :=
  7 + ((releaseSteps st).length + (truncateSteps st.options).length)

/-- **What `rotate` answers, and what it has done**: it reports success if the
frame fits and no call fails; the new snapshot is in place as soon as the
rename went through. -/
theorem rotate_answer (hopen : st.closed = false) (payload : List UInt8) (w : World FileName μ) :
    ((st.rotate payload w).1.ok = true
        ↔ (snapshotFrame st.options payload).length ≤ st.options.maxRecordBytes
          ∧ w.smooth st.rotationCalls = true)
      ∧ (st.rotate payload w).2.2.disk .snapshot
          = if (snapshotFrame st.options payload).length ≤ st.options.maxRecordBytes
                ∧ w.smooth 7 = true
            then some (snapshotFrame st.options payload) else w.disk .snapshot := by
  have hrelease : ∀ step ∈ releaseSteps st, step.1.touches FileName.snapshot = false :=
    fun step hstep => (releaseSteps_calm st step hstep).1
  have htruncate : ∀ step ∈ truncateSteps st.options, step.1.touches FileName.snapshot = false :=
    List.forall_mem_cons.mpr ⟨rfl, fun step hstep => (settleSteps_calm _ step hstep).1⟩
  unfold Store.rotate
  simp only [hopen, Bool.false_eq_true, if_false]
  by_cases hfits : (snapshotFrame st.options payload).length ≤ st.options.maxRecordBytes
  · rw [if_neg (not_lt.mpr hfits)]
    simp only [hfits, true_and]
    have hdisk := snapshotSteps_disk st.options (snapshotFrame st.options payload) w
    rcases runSteps_smooth (snapshotSteps st.options (snapshotFrame st.options payload)) w with
      ⟨hsmooth, w₁, hrun, hfaults⟩ | ⟨hrough, s, hs, w₁, hrun⟩
    · rw [hrun] at hdisk ⊢
      replace hsmooth : w.smooth 7 = true := hsmooth
      replace hfaults : w₁.faults = w.faults.drop 7 := hfaults
      simp only [hsmooth, if_true] at hdisk ⊢
      -- what is left are the calls on the journal
      have hcalls : w.smooth st.rotationCalls
          = w₁.smooth ((releaseSteps st).length + (truncateSteps st.options).length) := by
        rw [Store.rotationCalls, smooth_add, hsmooth, Bool.true_and, ← hfaults]
        rfl
      rw [hcalls, smooth_add]
      have hreleased := disk_runSteps_of_not_touches hrelease w₁
      rcases runSteps_smooth (releaseSteps st) w₁ with
        ⟨hsmooth₁, w₂, hrun₁, hfaults₁⟩ | ⟨hrough₁, s, hs, w₂, hrun₁⟩
      · rw [hrun₁] at hreleased ⊢
        simp only [hsmooth₁, Bool.true_and]
        rw [← hfaults₁]
        have htruncated := disk_runSteps_of_not_touches htruncate w₂
        rcases runSteps_smooth (truncateSteps st.options) w₂ with
          ⟨hsmooth₂, w₃, hrun₂, -⟩ | ⟨hrough₂, s, hs, w₃, hrun₂⟩
        · rw [hrun₂] at htruncated ⊢
          exact ⟨⟨fun _ => hsmooth₂, fun _ => rfl⟩, htruncated.trans (hreleased.trans hdisk)⟩
        have hbad := rotation_refusal [] (.inr (.inr hs))
        rw [hrun₂] at htruncated ⊢
        refine ⟨⟨fun hok => absurd (hok.symm.trans hbad) (by simp), fun hgood => ?_⟩, ?_⟩
        · exact absurd (hgood.symm.trans hrough₂) (by simp)
        · exact htruncated.trans (hreleased.trans hdisk)
      · have hbad := rotation_refusal [] (.inr (.inl hs))
        rw [hrun₁] at hreleased ⊢
        simp only [hrough₁, Bool.false_and, Bool.false_eq_true, iff_false]
        exact ⟨by simp [hbad], hreleased.trans hdisk⟩
    · replace hrough : w.smooth 7 = false := hrough
      have hbad := rotation_refusal _ (.inl hs)
      rw [hrun] at hdisk ⊢
      rw [Store.rotationCalls, smooth_add, hrough]
      simp only [hrough, Bool.false_and, Bool.false_eq_true, if_false] at hdisk ⊢
      exact ⟨by simp [hbad], hdisk⟩
  · rw [if_pos (not_le.mp hfits)]
    simp only [hfits, false_and, if_false, iff_false]
    exact ⟨by decide, trivial⟩

end DpuFabric
