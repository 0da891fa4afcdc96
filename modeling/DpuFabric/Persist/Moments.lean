/-
  Persist.Moments — EVERY MOMENT OF A STORE CALL, WHATEVER FAILS.

  Two calls decide what a store will load: the rename that installs a
  snapshot and the opening that empties the journal.  Every other call is
  PLAIN.  All the functions of the store make plain calls only, but
  `rotate`, which renames only a file that it has written whole and empties
  the journal only after the rename went through (`rotate_phases`).
-/
import DpuFabric.Persist.Durable

namespace DpuFabric

open Lib

variable {μ : Type}

/-- Neither of the two decisive calls: the snapshot file is left alone, and
the journal is not emptied. -/
def Plain (op : FileOp FileName) : Prop :=
  op.touches .snapshot = false ∧ op ≠ .openWrite .journal

/-- The property survives every plain call, failed or not. -/
def KeptByPlain (P : List (Action FileName μ) → Prop) : Prop :=
  ∀ t op fault, Plain op → P t → P (t ++ [.file op fault])

/-- The property survives every calm call, failed or not. -/
def KeptByCalm (P : List (Action FileName μ) → Prop) : Prop :=
  ∀ t op fault, Calm op → P t → P (t ++ [.file op fault])

theorem KeptByPlain.calm {P : List (Action FileName μ) → Prop} (h : KeptByPlain P) :
    KeptByCalm P := by
  refine fun t op fault hcalm => h t op fault ⟨hcalm.1, ?_⟩
  rintro rfl
  exact absurd hcalm.2 (by simp [FileOp.touches])

/-- The snapshot and the journal survive calm calls. -/
theorem calm_disk {f : FileName} (hf : f ≠ .temp) (content : Option (List UInt8)) :
    KeptByCalm (μ := μ) (fun t => diskAfter t f = content) := by
  intro t op fault hcalm h
  rw [diskAfter_concat, FileOp.apply_of_not_touches, h]
  cases f with
  | snapshot => exact hcalm.1
  | journal => exact hcalm.2
  | temp => exact absurd rfl hf

section Calm

variable {P : List (Action FileName μ) → Prop} (hcalm : KeptByCalm P) {w : World FileName μ}
  (hw : P w.trace)
include hcalm hw

theorem passes_calm (steps : List (FileOp FileName × Status))
    (hsteps : ∀ step ∈ steps, Calm step.1) : Passes P w (w.runSteps steps).2 :=
  passes_runSteps (fun step hstep t fault ht => hcalm t step.1 fault (hsteps step hstep) ht) hw

theorem fileExists_passes (f : FileName) : Passes P w (fileExists f w).2 :=
  passes_perform _ hw (fun fault => hcalm _ _ fault ⟨rfl, rfl⟩ hw)

theorem initialJournalBytes_passes (found : Bool) : Passes P w (initialJournalBytes found w).2 := by
  unfold initialJournalBytes
  split
  · exact passes_perform _ hw (fun fault => hcalm _ _ fault ⟨rfl, rfl⟩ hw)
  · exact passes_refl hw

theorem readWholeFile_passes (o : StoreOptions) (f : FileName) (maxBytes : Nat) :
    Passes P w (readWholeFile o f maxBytes w).2 := by
  unfold readWholeFile
  have hsize := passes_calm hcalm hw
    [(.size f, refuse .storeIoFailure (txt "cannot size " ++ o.path f))] (by simp [Calm, FileOp.touches])
  simp only
  generalize ((w.disk f).getD []) = bytes
  split
  · next w₁ h₁ => rw [h₁] at hsize; exact hsize
  next w₁ h₁ =>
  rw [h₁] at hsize
  split
  · exact hsize
  have hread := passes_calm hcalm hsize.finish
    ([(.openRead f, cannotOpen o f)]
      ++ (if bytes = [] then []
          else [(.read f, refuse .storeTruncated (txt "short read"))])
      ++ [(.close f, ioFailure "close failed")])
    (by split <;> simp [Calm, FileOp.touches])
  split
  · next w₂ h₂ => rw [h₂] at hread; exact hsize.trans hread
  · next w₂ h₂ => rw [h₂] at hread; exact hsize.trans hread

theorem loadSnapshot_passes (o : StoreOptions) (recovery : StoreRecovery) :
    Passes P w (loadSnapshot o recovery w).2.2 := by
  unfold loadSnapshot
  have hfound := fileExists_passes hcalm hw .snapshot
  simp only
  split
  · next w₁ h₁ => rw [h₁] at hfound; exact hfound
  next w₁ h₁ =>
  rw [h₁] at hfound
  have hread := hfound.trans (readWholeFile_passes hcalm hfound.finish o .snapshot
    (o.maxRecordBytes + frameHeaderBytes + frameDigestBytes))
  split
  · next h₂ => rw [h₂] at hread; exact hread
  · next h₂ => rw [h₂] at hread; exact hread
  next h₂ =>
  rw [h₂] at hread
  split
  all_goals exact hread

theorem storeOpen_passes (o : StoreOptions) : Passes P w (Store.open o w).2 := by
  unfold Store.open
  split
  · exact passes_refl hw
  split
  · exact passes_refl hw
  have hprepare := passes_calm hcalm hw prepareSteps (by simp [prepareSteps, Calm, FileOp.touches])
  split
  · next h₁ => rw [h₁] at hprepare; exact hprepare
  next w₁ h₁ =>
  rw [h₁] at hprepare
  have hs := hprepare.trans (fileExists_passes hcalm hprepare.finish .snapshot)
  have hj := hs.trans (fileExists_passes hcalm hs.finish .journal)
  have ht := hj.trans (fileExists_passes hcalm hj.finish .temp)
  simp only
  generalize (fileExists .temp _).1 = found at *
  have hlock := ht.trans (passes_calm hcalm ht.finish (lockSteps found) (lockSteps_calm found))
  split
  · next h₂ => rw [h₂] at hlock; exact hlock
  next h₂ =>
  rw [h₂] at hlock
  exact hlock.trans (initialJournalBytes_passes hcalm hlock.finish _)

theorem storeClose_passes (st : Store) : Passes P w (st.close w).2.2 := by
  unfold Store.close
  split
  · exact passes_refl hw
  · exact passes_calm hcalm hw (closeSteps st) (closeSteps_calm st)

end Calm

section Plain

variable {P : List (Action FileName μ) → Prop} (hplain : KeptByPlain P) {w : World FileName μ}
  (hw : P w.trace)
include hplain hw

theorem passes_plain (steps : List (FileOp FileName × Status))
    (hsteps : ∀ step ∈ steps, Plain step.1) : Passes P w (w.runSteps steps).2 :=
  passes_runSteps (fun step hstep t fault ht => hplain t step.1 fault (hsteps step hstep) ht) hw

theorem loadJournal_passes (o : StoreOptions) (recovery : StoreRecovery) :
    Passes P w (loadJournal o recovery w).2.2 := by
  unfold loadJournal
  have hfound := fileExists_passes hplain.calm hw .journal
  split
  · next w₁ h₁ => rw [h₁] at hfound; exact hfound
  next w₁ h₁ =>
  rw [h₁] at hfound
  have hread := hfound.trans
    (readWholeFile_passes hplain.calm hfound.finish o .journal o.maxJournalBytes)
  split
  · next h₂ => rw [h₂] at hread; exact hread
  next raw w₂ h₂ =>
  rw [h₂] at hread
  simp only
  split
  · exact hread
  · exact hread
  next records offset _ =>
  have hcut := hread.trans (passes_plain hplain hread.finish
    [(.resize .journal offset, ioFailure "truncate failed")] (by simp [Plain, FileOp.touches]))
  split
  · next h₃ => rw [h₃] at hcut; exact hcut
  · next h₃ => rw [h₃] at hcut; exact hcut

theorem load_passes (st : Store) : Passes P w (st.load w).2.2 := by
  unfold Store.load
  have hsnapshot := loadSnapshot_passes hplain.calm hw st.options st.recovery
  split
  · next h₁ => rw [h₁] at hsnapshot; exact hsnapshot
  next snapshot recovery w₁ h₁ =>
  rw [h₁] at hsnapshot
  have hjournal := hsnapshot.trans
    (loadJournal_passes hplain hsnapshot.finish st.options recovery)
  split
  · next h₂ => rw [h₂] at hjournal; exact hjournal
  · next h₂ => rw [h₂] at hjournal; exact hjournal

theorem appendEvent_passes (st : Store) (event : FabricEvent) :
    Passes P w (st.appendEvent event w).2.2 := by
  unfold Store.appendEvent
  split
  · exact passes_refl hw
  have happender := passes_plain hplain hw (appenderSteps st)
    (by unfold appenderSteps; split <;> simp [Plain, FileOp.touches])
  split
  · next h₁ => rw [h₁] at happender; exact happender
  next w₁ h₁ =>
  rw [h₁] at happender
  simp only
  split
  · exact happender
  split
  · exact happender
  have hwrite := happender.trans (passes_plain hplain happender.finish
    (appendSteps st.options (eventFrame st.options event))
    (by unfold appendSteps; split <;> simp [Plain, FileOp.touches]))
  split
  · next h₂ => rw [h₂] at hwrite; exact hwrite
  · next h₂ => rw [h₂] at hwrite; exact hwrite

end Plain

/-- **A rotation under faults.**  Up to the rename `P` holds, from the rename
on `Q`.  What is renamed is the whole frame, and the journal is emptied only
after that. -/
theorem rotate_phases {P Q : List (Action FileName μ) → Prop} (hP : KeptByCalm P)
    (hfailed : ∀ t n, P t → P (t ++ [.file (.rename .temp .snapshot) (some n)]))
    (hQ : KeptByCalm Q) (hempty : ∀ t fault, Q t → Q (t ++ [.file (.openWrite .journal) fault]))
    {w : World FileName μ} (hw : P w.trace) (st : Store) (payload : List UInt8)
    (hinstall : ∀ t, w.trace <+: t → P t →
      diskAfter t .temp = some (snapshotFrame st.options payload) →
      Q (t ++ [.file (.rename .temp .snapshot) none])) :
    Passes (fun t => P t ∨ Q t) w (st.rotate payload w).2.2 := by
  unfold Store.rotate
  split
  · exact passes_refl (.inl hw)
  simp only
  split
  · exact passes_refl (.inl hw)
  have htemp := passes_calm hP hw
    (tempSteps st.options (snapshotFrame st.options payload)) (tempSteps_calm _ _)
  rw [snapshotSteps, World.runSteps_append]
  cases hsteps : w.runSteps (tempSteps st.options (snapshotFrame st.options payload)) with
  | mk refusal w₁ =>
    rw [hsteps] at htemp
    have hbefore := htemp.imp fun t ht => (.inl ht : P t ∨ Q t)
    cases refusal with
    | some refusal => exact hbefore
    | none =>
      -- the temporary file is whole
      have htrace := World.runSteps_none hsteps
      have hwhole : diskAfter w₁.trace .temp
          = some (snapshotFrame st.options payload) := by
        rw [htrace]
        exact diskAfter_tempSteps _ _ _
      simp only [World.runSteps, World.perform]
      cases hfault : w₁.faults.headD none with
      | some n =>
        exact hbefore.trans ⟨_, rfl, through_cons hbefore.finish
          (through_nil (.inl (hfailed _ n htemp.finish)))⟩
      | none =>
        have hrenamed := hinstall w₁.trace (htrace ▸ List.prefix_append _ _)
          htemp.finish hwhole
        have hpast : Passes (fun t => P t ∨ Q t) w
            { trace := w₁.trace ++ [.file (.rename .temp .snapshot) none],
              faults := w₁.faults.tail } :=
          hbefore.trans ⟨_, rfl, through_cons hbefore.finish
            (through_nil (.inr hrenamed))⟩
        have hreleased := passes_calm hQ (w := { trace := w₁.trace
          ++ [.file (.rename .temp .snapshot) none], faults := w₁.faults.tail })
          hrenamed (releaseSteps st) (releaseSteps_calm st)
        simp only [Option.isNone_none]
        split
        · next h₂ =>
          rw [h₂] at hreleased
          exact hpast.trans (hreleased.imp fun _ => .inr)
        · next w₂ h₂ =>
          rw [h₂] at hreleased
          have htruncate : ∀ step ∈ truncateSteps st.options, ∀ t fault, Q t →
              Q (t ++ [.file step.1 fault]) := by
            intro step hstep t fault ht
            rcases List.mem_cons.mp hstep with rfl | hstep
            · exact hempty t fault ht
            · exact hQ t step.1 fault (settleSteps_calm _ step hstep) ht
          have hemptied := hpast.trans ((hreleased.trans
            (passes_runSteps htruncate hreleased.finish)).imp fun _ => .inr)
          split
          · next h₃ => rw [h₃] at hemptied; exact hemptied
          · next h₃ => rw [h₃] at hemptied; exact hemptied

/-- **A rotation installs its own frame.**  What plain calls, a failed rename
and the emptying of the journal keep holds throughout, if it also survives
the rename of a temporary file that holds the whole frame. -/
theorem rotate_installs {P : List (Action FileName μ) → Prop} (hplain : KeptByPlain P)
    (hfailed : ∀ t n, P t → P (t ++ [.file (.rename .temp .snapshot) (some n)]))
    (hempty : ∀ t fault, P t → P (t ++ [.file (.openWrite .journal) fault]))
    {w : World FileName μ} (hw : P w.trace) (st : Store) (payload : List UInt8)
    (hinstall : ∀ t, w.trace <+: t → P t →
      diskAfter t .temp = some (snapshotFrame st.options payload) →
      P (t ++ [.file (.rename .temp .snapshot) none])) : Passes P w (st.rotate payload w).2.2 :=
  (rotate_phases hplain.calm hfailed hplain.calm hempty hw st payload hinstall).imp
    fun _ => or_self_iff.mp

end DpuFabric
