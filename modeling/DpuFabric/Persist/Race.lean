/-
  Persist.Race — A REFUSED `open` DURING THE OWNER'S `rotate`.

  `Store::open` looks for a temporary snapshot and removes it BEFORE it tries
  the lock.  The owner of the directory may be between writing that file and
  renaming it.  The refused `open` is harmless exactly in the interleavings
  in which it removes no file (`refused_open_harmless_iff`); in another one
  the owner's rotation fails (`refused_open_breaks_rotation`).
-/
import DpuFabric.Lib.FileRace
import DpuFabric.Persist.Truncated

namespace DpuFabric

open Lib World

variable {μ : Type}

/-! ## §1. The two programs. -/

/-- `Store::rotate`, call by call. -/
def rotateProg (st : Store) (payload : List UInt8) : FileProg FileName Status :=
  if st.closed then .done (refuse .storeClosed (txt "store is closed"))
  else if st.options.maxRecordBytes < (snapshotFrame st.options payload).length then
    .done (refuse .storeRecordOversized (txt "snapshot exceeds bound"))
  else
    .ofSteps (snapshotSteps st.options (snapshotFrame st.options payload))
      (.ofSteps (releaseSteps st) (.ofSteps (truncateSteps st.options) (.done .success)))

/-- `Store::open`, call by call. -/
def openProg (o : StoreOptions) : FileProg FileName Status :=
  if o.directory = [] then .done (refuse .malformedInput (txt "store directory is required"))
  else if o.maxRecordBytes = 0 ∨ o.maxJournalBytes = 0 then
    .done (refuse .valueOutOfRange (txt "store bounds must be positive"))
  else
    .ofSteps prepareSteps <| .call (.probe .snapshot) fun _ => .call (.probe .journal)
      fun foundJournal => .call (.probe .temp) fun tempFound =>
        .ofSteps (lockSteps tempFound) <|
          if foundJournal then .call (.size .journal) fun _ => .done .success
          else .done .success

theorem snapshotSteps_ready (o : StoreOptions) (framed : List UInt8) (d : Disk FileName) :
    FileProg.ReadySteps false d (snapshotSteps o framed) := by
  simp [snapshotSteps, tempSteps, FileProg.ReadySteps, FileOp.Ready, FileOp.apply]

theorem releaseSteps_ready (st : Store) (d : Disk FileName) :
    FileProg.ReadySteps false d (releaseSteps st) := by
  unfold releaseSteps
  split <;> simp [FileProg.ReadySteps, FileOp.Ready]

theorem truncateSteps_ready (o : StoreOptions) (d : Disk FileName) :
    FileProg.ReadySteps false d (truncateSteps o) := by
  unfold truncateSteps settleSteps
  split <;> simp [FileProg.ReadySteps, FileOp.Ready]

theorem rotateProg_run (st : Store) (payload : List UInt8) (w : World FileName μ) :
    (rotateProg st payload).run false w.disk w.faults
      = ((st.rotate payload w).1, (st.rotate payload w).2.2.disk,
          (st.rotate payload w).2.2.faults) := by
  unfold rotateProg Store.rotate
  generalize snapshotFrame st.options payload = framed
  by_cases hclosed : st.closed = true
  · rw [if_pos hclosed, if_pos hclosed]
    rfl
  rw [if_neg hclosed, if_neg hclosed]
  simp only
  by_cases hsize : st.options.maxRecordBytes < framed.length
  · rw [if_pos hsize, if_pos hsize]
    rfl
  rw [if_neg hsize, if_neg hsize, FileProg.run_ofSteps (snapshotSteps_ready _ _ _)]
  cases w.runSteps (snapshotSteps st.options framed) with
  | mk refusal w₁ =>
    cases refusal with
    | some refusal => rfl
    | none =>
      simp only
      rw [FileProg.run_ofSteps (releaseSteps_ready _ _)]
      cases w₁.runSteps (releaseSteps st) with
      | mk refusal w₂ =>
        cases refusal with
        | some refusal => rfl
        | none =>
          simp only
          rw [FileProg.run_ofSteps (truncateSteps_ready _ _)]
          cases w₂.runSteps (truncateSteps st.options) with
          | mk refusal w₃ => cases refusal <;> rfl

theorem probe_run {ε : Type} (f : FileName) (next : Bool → FileProg FileName ε)
    (w : World FileName μ) :
    (FileProg.call (.probe f) next).run false w.disk w.faults
      = (next (fileExists f w).1).run false (fileExists f w).2.disk (fileExists f w).2.faults := by
  have hdisk : (w.perform (.probe f)).2.disk = w.disk := by
    rw [World.disk_perform, FileOp.apply_readOnly rfl]
  unfold fileExists
  simp only [hdisk]
  rw [FileProg.run, World.perform]
  cases w.faults.headD none with
  | some n => rfl
  | none => simp only [FileOp.attempt, Option.isNone_none, Bool.true_and]

/-- The size of the journal is asked for, and no file is changed. -/
theorem size_run (w : World FileName μ) :
    (FileProg.call (.size .journal) fun _ => .done Status.success).run false w.disk w.faults
      = (Status.success, (initialJournalBytes true w).2.disk,
          (initialJournalBytes true w).2.faults) := by
  have hdisk : (w.perform (.size .journal)).2.disk = w.disk := by
    rw [World.disk_perform, FileOp.apply_readOnly rfl]
  unfold initialJournalBytes
  simp only [if_true, hdisk]
  cases hfault : w.faults.headD none <;>
    simp only [FileProg.run, hfault, World.perform] <;> rfl

theorem openProg_run (o : StoreOptions) (w : World FileName μ) :
    (openProg o).run false w.disk w.faults
      = (match (Store.open o w).1 with
          | .ok _ => Status.success
          | .error refusal => refusal,
          (Store.open o w).2.disk, (Store.open o w).2.faults) := by
  unfold openProg Store.open
  by_cases hdirectory : o.directory = []
  · rw [if_pos hdirectory, if_pos hdirectory]
    rfl
  rw [if_neg hdirectory, if_neg hdirectory]
  by_cases hbounds : o.maxRecordBytes = 0 ∨ o.maxJournalBytes = 0
  · rw [if_pos hbounds, if_pos hbounds]
    rfl
  rw [if_neg hbounds, if_neg hbounds, FileProg.run_ofSteps
    (by simp [prepareSteps, FileProg.ReadySteps, FileOp.Ready])]
  cases w.runSteps prepareSteps with
  | mk refusal w₁ =>
    cases refusal with
    | some refusal => rfl
    | none =>
      simp only [probe_run]
      cases fileExists .snapshot w₁ with
      | mk foundSnapshot w₂ =>
        simp only
        cases fileExists .journal w₂ with
        | mk foundJournal w₃ =>
          simp only
          cases fileExists .temp w₃ with
          | mk tempFound w₄ =>
            simp only
            rw [FileProg.run_ofSteps
              (by cases tempFound <;> simp [lockSteps, FileProg.ReadySteps, FileOp.Ready])]
            cases w₄.runSteps (lockSteps tempFound) with
            | mk refusal w₅ =>
              cases refusal with
              | some refusal => rfl
              | none =>
                cases foundJournal with
                | false => rfl
                | true => exact size_run w₅

/-! ## §2. What the other process may change. -/

/-- The process is about to remove the temporary file. -/
def Removing {ε : Type} (p : Proc FileName ε) : Prop :=
  ∃ next, p.prog = .call (.remove .temp) next ∧ p.faults.headD none = none

/-- The other process removes no file with this call. -/
def RemovesNothing (r : Race FileName Status Status) (who : Party) : Prop :=
  who = .other → Removing r.other → r.disk .temp = none

/-- Calls that read, or remove the temporary file. -/
def OpenCall (op : FileOp FileName) : Prop := op.readOnly = true ∨ op = .remove .temp

theorem openProg_calls (o : StoreOptions) : (openProg o).Calls OpenCall := by
  unfold openProg
  split
  · trivial
  split
  · trivial
  refine FileProg.calls_ofSteps (by simp [prepareSteps, OpenCall, FileOp.readOnly]) ?_
  refine ⟨.inl rfl, fun _ => ⟨.inl rfl, fun foundJournal => ⟨.inl rfl, fun tempFound => ?_⟩⟩⟩
  refine FileProg.calls_ofSteps ?_ ?_
  · cases tempFound <;> simp [lockSteps, OpenCall, FileOp.readOnly]
  cases foundJournal
  · trivial
  · exact ⟨.inl rfl, fun _ => trivial⟩

theorem step_calls {ε : Type} {p : Proc FileName ε} (h : p.prog.Calls OpenCall) (held : Bool)
    (d : Disk FileName) : (p.step held d).1.prog.Calls OpenCall := by
  unfold Proc.step
  split
  · exact h
  rename_i op next hprog
  rw [hprog] at h
  exact h.2 _

/-- **One call of `open` leaves the files, unless it removes one.** -/
theorem step_disk_iff {ε : Type} {p : Proc FileName ε} (h : p.prog.Calls OpenCall) (held : Bool)
    (d : Disk FileName) : (p.step held d).2 = d ↔ (Removing p → d .temp = none) := by
  obtain ⟨prog, faults⟩ := p
  cases prog with
  | done result => exact ⟨fun _ ⟨_, hprog, _⟩ => (nomatch hprog), fun _ => rfl⟩
  | call op next =>
    obtain hread | rfl := h.1
    · -- a call that reads is not the removal
      refine ⟨fun _ ⟨_, hprog, _⟩ => ?_, fun _ => FileOp.attempt_readOnly hread _ _ _⟩
      injection hprog with hop
      rw [hop] at hread
      exact nomatch hread
    · cases hfault : faults.headD none with
      | some n =>
        refine ⟨fun _ ⟨_, _, hnone⟩ => ?_, fun _ => ?_⟩
        · rw [hfault] at hnone
          exact nomatch hnone
        rw [Proc.step]
        simp only [hfault]
        rfl
      | none =>
        have hstep : (Proc.step held ⟨.call (.remove .temp) next, faults⟩ d).2
            = d.set .temp none := by
          rw [Proc.step]
          simp only [hfault]
          rfl
        rw [hstep]
        constructor
        · intro hsame _
          rw [← hsame, Disk.set_self]
        intro hgone
        funext g
        by_cases hg : g = .temp
        · rw [hg, Disk.set_self, hgone ⟨next, rfl, hfault⟩]
        · rw [Disk.set_of_ne _ _ hg]

/-- Over a whole schedule: no call of `open` changes a file exactly when none
removes one. -/
theorem meets_unharmed_iff {r : Race FileName Status Status} {schedule : List Party}
    (h : r.other.prog.Calls OpenCall) :
    Meets Race.step Race.Unharmed r schedule ↔ Meets Race.step RemovesNothing r schedule := by
  induction schedule generalizing r with
  | nil => exact Iff.rfl
  | cons who schedule ih =>
    cases who with
    | owner =>
      refine and_congr ⟨fun _ hother => (nomatch hother), fun _ hother => (nomatch hother)⟩ ?_
      exact ih h
    | other =>
      refine and_congr ?_ (ih (step_calls h true r.disk))
      have hstep := step_disk_iff h true r.disk
      exact ⟨fun hsame _ => hstep.mp (hsame rfl), fun hnone _ => hstep.mpr (hnone rfl)⟩

/-! ## §3. The refused `open`. -/

/-- The owner rotates, the other process opens. -/
def rotateRace (st : Store) (payload : List UInt8) (w : World FileName μ) (o : StoreOptions)
    (faults : List (Option Nat)) : Race FileName Status Status :=
  { disk := w.disk
    owner := { prog := rotateProg st payload, faults := w.faults }
    other := { prog := openProg o, faults } }

/-- The other process changes no file, and the owner and the files are as
they are without it: after every call, and when `rotate` returns. -/
structure LeavesAlone (st : Store) (payload : List UInt8) (w : World FileName μ)
    (r : Race FileName Status Status) (schedule : List Party) : Prop where
  unharmed : Meets Race.step Race.Unharmed r schedule
  solo : ((runMoves Race.step r schedule).owner, (runMoves Race.step r schedule).disk)
    = Proc.solo false (schedule.count .owner) (r.owner, r.disk)
  returned : (rotateProg st payload).length false w.disk w.faults ≤ schedule.count .owner →
    (runMoves Race.step r schedule).owner.prog = .done (st.rotate payload w).1
      ∧ (runMoves Race.step r schedule).disk = (st.rotate payload w).2.2.disk

/-- **A refused `open` leaves the store alone exactly when it removes no
temporary snapshot.**  The owner's store, its directory, the faults of both
processes and the order of their calls are arbitrary. -/
theorem refused_open_harmless_iff (st : Store) (payload : List UInt8) (w : World FileName μ)
    (o : StoreOptions) (faults : List (Option Nat)) (schedule : List Party) :
    LeavesAlone st payload w (rotateRace st payload w o faults) schedule
      ↔ Meets Race.step RemovesNothing (rotateRace st payload w o faults) schedule := by
  have hiff : Meets Race.step Race.Unharmed (rotateRace st payload w o faults) schedule
      ↔ Meets Race.step RemovesNothing (rotateRace st payload w o faults) schedule :=
    meets_unharmed_iff (openProg_calls o)
  refine ⟨fun h => hiff.mp h.unharmed, fun h => ?_⟩
  have hsolo := Race.race_solo (hiff.mpr h)
  refine ⟨hiff.mpr h, hsolo, fun hcalls => ?_⟩
  have hrun := Proc.solo_run false (rotateProg st payload) w.disk w.faults hcalls
  rw [rotateProg_run] at hrun
  have hend := hsolo.trans hrun
  exact ⟨congrArg (fun s => s.1.prog) hend, congrArg Prod.snd hend⟩

/-- The owner has written the temporary snapshot and closed it. -/
def tempWritten : List Party := List.replicate 6 .owner

/-- The other process sees the temporary snapshot, removes it and is refused
the lock. -/
def openRefused : List Party := List.replicate 7 .other

theorem run_tempWritten (framed : List UInt8) (rest : FileProg FileName Status)
    (other : Proc FileName Status) :
    runMoves Race.step
        { disk := fun _ => none
          owner := { prog := .ofSteps (snapshotSteps sampleOptions framed) rest }
          other } tempWritten
      = { disk := Disk.set (fun _ => none) .temp (some framed)
          owner := { prog := .call (.rename .temp .snapshot) fun ok =>
            if ok then rest else .done (ioFailure "atomic replace failed") }
          other } := by
  have hdisk : (FileOp.write .temp framed).apply
      (Disk.set (Disk.set (fun _ => none) .temp none) FileName.temp (some [])) none
        = Disk.set (fun _ => none) .temp (some framed) := by
    funext g
    by_cases hg : g = .temp <;> simp [FileOp.apply, Disk.set, hg]
  rw [← hdisk]
  rfl

theorem run_openRefused (framed : List UInt8) (owner : Proc FileName Status) :
    runMoves Race.step
        { disk := Disk.set (fun _ => none) .temp (some framed)
          owner
          other := { prog := openProg sampleOptions } } openRefused
      = { disk := Disk.set (Disk.set (fun _ => none) .temp (some framed)) .temp none
          owner
          other := ⟨.done (refuse .storeAlreadyOpen (txt "store is already open elsewhere")), []⟩ } := by
  rw [openProg, if_neg (by decide), if_neg (by decide)]
  rfl

/-- **A refused `open` makes the owner's rotation fail**: it removes the
snapshot that the owner is about to install. -/
theorem refused_open_breaks_rotation :
    let st : Store := { options := sampleOptions, closed := false }
    let w : World FileName Unit := clean []
    let r := rotateRace st [1] w sampleOptions []
    (runMoves Race.step r (tempWritten ++ openRefused)).disk
        ≠ (runMoves Race.step r tempWritten).disk
      ∧ (runMoves Race.step r (tempWritten ++ openRefused)).other.prog
          = .done (refuse .storeAlreadyOpen (txt "store is already open elsewhere"))
      ∧ (runMoves Race.step r (tempWritten ++ openRefused ++ [.owner])).owner.prog
          = .done (ioFailure "atomic replace failed")
      ∧ (st.rotate [1] w).1 = .success := by
  intro st w r
  have hfits : ¬ sampleOptions.maxRecordBytes < (snapshotFrame sampleOptions [1]).length := by
    rw [snapshotFrame, frame_length]
    decide
  have hrotate : (st.rotate [1] w).1 = .success := by
    rw [rotate_clean rfl, if_neg hfits]
  have hprog : rotateProg st [1]
      = .ofSteps (snapshotSteps sampleOptions (snapshotFrame sampleOptions [1]))
        (.ofSteps (releaseSteps st) (.ofSteps (truncateSteps sampleOptions) (.done .success))) := by
    rw [rotateProg, if_neg Bool.false_ne_true, if_neg hfits]
  have hwritten : runMoves Race.step r tempWritten = _ :=
    (congrArg (fun prog => runMoves Race.step ⟨fun _ => none, ⟨prog, []⟩, r.other⟩ tempWritten)
      hprog).trans (run_tempWritten _ _ _)
  have hrefused : runMoves Race.step r (tempWritten ++ openRefused) = _ :=
    (runMoves_append Race.step r tempWritten openRefused).trans
      ((congrArg (runMoves Race.step · openRefused) hwritten).trans (run_openRefused _ _))
  refine ⟨fun hsame => ?_, ?_, ?_, hrotate⟩
  · rw [hrefused, hwritten] at hsame
    have htemp := congrFun hsame .temp
    simp only [Disk.set_self] at htemp
    cases htemp
  · rw [hrefused]
  · rw [runMoves_append, hrefused]
    rfl

end DpuFabric
