/-
  Runtime.Standing — WHAT STANDS IN EVERY STATE OF EVERY RUN.

  A snapshot is renamed into place only when the temporary file holds the
  whole frame of the state that `rotate` was called with.  So at every moment
  of every run the snapshot file, if there is one, is the frame of a state
  that some process was in (`Backed`), and what a later process restores is
  that state without the digests of its plans.

  What happens to a state is an event or an edit of the bookkeeping (`Edit`).
  A property that both keep, and the restart and the archive as well, stands
  in every state of every run, whatever fails and wherever a process dies
  (`Standing.run`).  The property may weaken with what the events cost: it is
  indexed by a count, and holds at the cost of the events taken up so far.
-/
import DpuFabric.Engine.RoundTrip
import DpuFabric.Persist.Directory
import DpuFabric.Runtime.Fresh
import DpuFabric.Runtime.Recovered
import Mathlib.Algebra.Order.BigOperators.Group.List
import Mathlib.Algebra.Order.Group.Nat

namespace DpuFabric

open Lib

variable {w : RuntimeWorld} {rt : FabricRuntime} {s : RuntimeState} {config : RuntimeConfig}
  {m : Move} {event : FabricEvent}

/-! ## §1. What the snapshot file holds. -/

/-- `rotate` was called with this state. -/
def Copied (t : List (Action FileName Mark)) (s : RuntimeState) : Prop := .mark (.copied s) ∈ t

/-- The snapshot file, if there is one, is the frame of a copied state. -/
def Backed (t : List (Action FileName Mark)) : Prop :=
  ∀ raw, diskAfter t .snapshot = some raw → ∃ s, Copied t s ∧ ∃ format semantic,
    raw = frame .snapshot format semantic (encodeBinary RuntimeState.visit s)

/-- The files are backed by states with the property. -/
structure Sound (P : RuntimeState → Prop) (t : List (Action FileName Mark)) : Prop where
  backed : Backed t
  recorded : ∀ s, Copied t s → P s

theorem sound_nil (P : RuntimeState → Prop) : Sound P [] :=
  ⟨fun _ h => absurd h (by simp), fun _ h => absurd h (by simp [Copied])⟩

section Sound

variable {P : RuntimeState → Prop} {t : List (Action FileName Mark)}

theorem Sound.concat {a : Action FileName Mark} (h : Sound P t)
    (hdisk : diskAfter (t ++ [a]) .snapshot = diskAfter t .snapshot)
    (hmark : ∀ s, a = .mark (.copied s) → P s) : Sound P (t ++ [a]) := by
  refine ⟨fun raw hraw => ?_, fun s hs => ?_⟩
  · rw [hdisk] at hraw
    obtain ⟨s, hs, hframe⟩ := h.backed raw hraw
    exact ⟨s, List.mem_append_left _ hs, hframe⟩
  · rcases List.mem_append.mp hs with hs | hs
    · exact h.recorded s hs
    · exact hmark s (List.mem_singleton.mp hs).symm

theorem Sound.call {op : FileOp FileName} (h : Sound P t) (hop : op.touches .snapshot = false)
    (fault : Option Nat) : Sound P (t ++ [.file op fault]) := by
  refine h.concat ?_ (by simp)
  rw [diskAfter_append]
  exact FileOp.apply_of_not_touches hop _ _

theorem Sound.plain : KeptByPlain (Sound P) := fun _ _ fault hop h => h.call hop.1 fault

theorem Sound.renameFailed (h : Sound P t) (n : Nat) :
    Sound P (t ++ [.file (.rename .temp .snapshot) (some n)]) := by
  refine h.concat ?_ (by simp)
  rw [diskAfter_append]
  rfl

theorem Sound.note (h : Sound P t) {m : Mark} (hm : ∀ s, m = .copied s → P s) :
    Sound P (t ++ [.mark m]) := by
  refine h.concat ?_ (fun s hs => hm s (by simpa using hs))
  rw [diskAfter_append]
  rfl

theorem Sound.install (h : Sound P t) (hs : Copied t s) {o : StoreOptions}
    (htemp : diskAfter t .temp = some (snapshotFrame o (encodeBinary RuntimeState.visit s))) :
    Sound P (t ++ [.file (.rename .temp .snapshot) none]) := by
  refine ⟨fun raw hraw => ⟨s, List.mem_append_left _ hs, o.format, o.semantic, ?_⟩, fun s hs => ?_⟩
  · rw [diskAfter_append] at hraw
    simp only [List.foldl_cons, List.foldl_nil, Action.apply, FileOp.apply, htemp,
      Disk.set_self] at hraw
    exact (Option.some.inj hraw).symm
  · rcases List.mem_append.mp hs with hs | hs
    · exact h.recorded s hs
    · exact absurd (List.mem_singleton.mp hs) (by simp)

end Sound

/-! ## §2. Every moment of a call. -/

section Calls

variable {P : RuntimeState → Prop}

theorem note_sound (hw : Sound P w.trace) {m : Mark} (hm : ∀ s, m = .copied s → P s) : Passes
    (Sound P) w (w.note m) :=
  passes_note m hw (hw.note hm)

theorem checkpointLocked_sound (hrt : P rt.state) (hw : Sound P w.trace) : Passes (Sound P) w
    (rt.checkpointLocked w).2.2 := by
  unfold FabricRuntime.checkpointLocked
  split
  · exact passes_refl hw
  next st _ =>
  have hnote : Passes (Sound P) w (w.note (.copied rt.state)) :=
    note_sound hw fun s hs => Mark.copied.inj hs ▸ hrt
  have hrotate : Passes (Sound P) w (st.rotate (encodeBinary RuntimeState.visit rt.state)
      (w.note (.copied rt.state))).2.2 := by
    refine hnote.trans (rotate_installs Sound.plain (fun _ n h => h.renameFailed n)
      (fun _ fault h => h.call rfl fault) hnote.finish st _ fun t ht h htemp => ?_)
    refine h.install (ht.subset ?_) htemp
    exact List.mem_append_right _ (List.mem_singleton_self _)
  simp only
  split
  all_goals exact hrotate

theorem checkpoint_sound (hrt : P rt.state) (hw : Sound P w.trace) : Passes (Sound P) w
    (rt.checkpoint w).2.2 := by
  unfold FabricRuntime.checkpoint
  split
  · exact passes_refl hw
  · exact checkpointLocked_sound hrt hw

theorem close_sound (hrt : P rt.state) (hw : Sound P w.trace) : Passes (Sound P) w
    (rt.close w).2.2 := by
  unfold FabricRuntime.close
  split
  · exact passes_refl hw
  split
  · exact passes_refl hw
  have hcheckpoint := checkpointLocked_sound hrt hw
  simp only
  split
  · exact hcheckpoint.trans (storeClose_passes Sound.plain.calm hcheckpoint.finish _)
  · exact hcheckpoint

end Calls

/-! ## §3. Edits of the bookkeeping. -/

/-- The containers whose losses the runtime accounts for itself. -/
def runtimeContainers : List Text :=
  [txt "ingest.late", txt "ingest.pending", txt "delivery.window", txt "decision.history"]

/-- What happens to a state around the reducer, under a configuration of the
given kind. -/
inductive Edit (C : RuntimeConfig → Prop) (s : RuntimeState) : RuntimeState → Prop where
  | noted (container : Text) (requested accepted : UInt64) (reason : ReasonCode)
      (hcontainer : container ∈ runtimeContainers) :
      Edit C s { s with truncations := s.truncations.note container requested accepted reason }
  | counted (journaledEvents : UInt64) : Edit C s { s with journaledEvents }
  | raised (event : FabricEvent) : Edit C s (raiseWatermark s event)
  | followed (event : FabricEvent) : Edit C s (followClock s event)
  | refreshed : Edit C s (refreshHealth s)
  | decided (config : RuntimeConfig) (hconfig : C config) (event : FabricEvent)
      (applied : ApplyResult) :
      Edit C s (recordDecision s (decisionOf s event applied config.bounds.maxExplanations)
        config.bounds.maxDecisionsRetained)

theorem Edit.core_eq {C : RuntimeConfig → Prop} {t : RuntimeState} (h : Edit C s t) :
    core s = core t := by
  cases h with
  | noted | counted => rfl
  | raised event => exact (core_raiseWatermark s event).symm
  | followed event => exact (core_followClock s event).symm
  | refreshed => exact (core_refreshHealth s).symm
  | decided => exact (core_recordDecision s _ _).symm

/-! ## §4. Properties that stand. -/

/-- The events that `open` would find in the journal. -/
def journalEvents (config : RuntimeConfig) (d : Disk FileName) : List FabricEvent :=
  (journalRecords (config.storeOptions []) d).filterMap
    (fun record => (decodeBinary FabricEvent.visit config.decodeLimit record).toOption)

/-- The property stands whatever happens to a state: configurations and events
are of the given kinds, and an event weakens the property by its cost. -/
structure Standing (C : RuntimeConfig → Prop) (E : FabricEvent → Prop) (cost : FabricEvent → Nat)
    (P : Nat → RuntimeState → Prop) : Prop where
  mono : ∀ {n m s}, n ≤ m → P n s → P m s
  edit : ∀ {n s t}, Edit C s t → P n s → P n t
  blank : ∀ {config}, C config → P 0 (initialState config)
  restored : ∀ {n s}, P n s → P n s.restored
  event : ∀ {n s event config}, C config → E event → P n s →
    P (n + cost event) (applyEvent s event config.bounds config.weights).2
  restarted : ∀ {n s config}, C config → P n s → P n (restartState config s)

/-- Like `Standing`, with a condition on the event and the state that it is
taken up in.  The counters of the ledger and the journal do not matter to it. -/
structure Upheld (C : RuntimeConfig → Prop) (E : RuntimeConfig → RuntimeState → FabricEvent → Prop)
    (cost : FabricEvent → Nat) (P : Nat → RuntimeState → Prop) : Prop where
  mono : ∀ {n m s}, n ≤ m → P n s → P m s
  edit : ∀ {n s t}, Edit C s t → P n s → P n t
  blank : ∀ {config}, C config → P 0 (initialState config)
  restored : ∀ {n s}, P n s → P n s.restored
  event : ∀ {n s event config}, C config → E config s event → P n s →
    P (n + cost event) (applyEvent s event config.bounds config.weights).2
  restarted : ∀ {n s config}, C config → P n s → P n (restartState config s)
  counts : ∀ {config s event} l k, E config s event → E config (s.recounted l k) event

theorem Standing.upheld {C : RuntimeConfig → Prop} {E : FabricEvent → Prop}
    {cost : FabricEvent → Nat} {P : Nat → RuntimeState → Prop} (h : Standing C E cost P) :
    Upheld C (fun _ _ => E) cost P :=
  { h with counts := fun _ _ hevent => hevent }

/-- Every event that a replay takes up meets the condition in the state that it
is taken up in. -/
def ReplayMeets (E : RuntimeConfig → RuntimeState → FabricEvent → Prop)
    (watermark : LogicalInstant) : List (List UInt8) → FabricRuntime → RuntimeWorld → Prop
  | [], _, _ => True
  | record :: rest, rt, w =>
    match decodeBinary FabricEvent.visit rt.config.decodeLimit record with
    | .error _ => True
    | .ok event =>
      if event.instant ≤ watermark then ReplayMeets E watermark rest rt w
      else
        (findDelivery rt.deliveries event = none → E rt.config rt.state event)
          ∧ ReplayMeets E watermark rest
              { (rt.replayEvent event w).1 with
                recovery := { (rt.replayEvent event w).1.recovery with
                  journalRecordsReplayed :=
                    (rt.replayEvent event w).1.recovery.journalRecordsReplayed + 1 } }
              (rt.replayEvent event w).2

/-- The same for the replay that `recover` comes to, if it comes to one. -/
def RecoverMeets (E : RuntimeConfig → RuntimeState → FabricEvent → Prop) (rt : FabricRuntime)
    (st : Store) (w : RuntimeWorld) : Prop :=
  match st.load w with
  | (.error _, _, _) => True
  | (.ok loaded, st, w) =>
    match (rt.holding st loaded.recovery).takeSnapshot loaded.snapshot w with
    | (some _, _, _) => True
    | (none, rt, w) => ReplayMeets E rt.state.watermark loaded.records rt w

/-- The same for `open`. -/
def OpenMeets (E : RuntimeConfig → RuntimeState → FabricEvent → Prop) (config : RuntimeConfig)
    (w : RuntimeWorld) : Prop :=
  match config.storeDirectory with
  | none => True
  | some directory =>
    match Store.open (config.storeOptions directory) (w.note .started) with
    | (.error _, _) => True
    | (.ok st, w) => RecoverMeets E (blankRuntime config) st w

section Decidable

variable (E : RuntimeConfig → RuntimeState → FabricEvent → Prop)
  [∀ config s event, Decidable (E config s event)]

instance ReplayMeets.decidable (watermark : LogicalInstant) :
    ∀ records rt w, Decidable (ReplayMeets E watermark records rt w)
  | [], _, _ => .isTrue trivial
  | record :: rest, rt, w =>
    match hdecode : decodeBinary FabricEvent.visit rt.config.decodeLimit record with
    | .error _ => .isTrue (by simp only [ReplayMeets, hdecode])
    | .ok event =>
      if hcovered : event.instant ≤ watermark then
        have := ReplayMeets.decidable watermark rest rt w
        decidable_of_iff (ReplayMeets E watermark rest rt w)
          (by simp only [ReplayMeets, hdecode, if_pos hcovered])
      else
        have := ReplayMeets.decidable watermark rest
          { (rt.replayEvent event w).1 with
            recovery := { (rt.replayEvent event w).1.recovery with
              journalRecordsReplayed :=
                (rt.replayEvent event w).1.recovery.journalRecordsReplayed + 1 } }
          (rt.replayEvent event w).2
        decidable_of_iff (_ ∧ _)
          (by simp only [ReplayMeets, hdecode, if_neg hcovered]; exact Iff.rfl)

instance (rt : FabricRuntime) (st : Store) (w : RuntimeWorld) :
    Decidable (RecoverMeets E rt st w) := by
  unfold RecoverMeets
  repeat' split
  all_goals infer_instance

instance (config : RuntimeConfig) (w : RuntimeWorld) : Decidable (OpenMeets E config w) := by
  unfold OpenMeets
  repeat' split
  all_goals infer_instance

end Decidable

theorem restoreSnapshot_encode {s' : RuntimeState}
    (h32 : (encodeBinary RuntimeState.visit s).length < 2 ^ 32)
    (h : restoreSnapshot config (encodeBinary RuntimeState.visit s) = .ok s') :
    s' = s.restored := by
  unfold restoreSnapshot at h
  split at h
  · simp at h
  next restored hdecode =>
  have hrestored := decodeBinary_eq RuntimeState.visit h32 hdecode
  rw [RuntimeState.visit_norm] at hrestored
  split at h
  · simp at h
  injection h with h
  rw [← h, hrestored]
  rfl

theorem Store.open_options {μ : Type} {o : StoreOptions} {st : Store} {w w' : World FileName μ}
    (h : Store.open o w = (.ok st, w')) : st.options = o := by
  unfold Store.open at h
  repeat' split at h
  all_goals simp only [Prod.mk.injEq, reduceCtorEq, false_and, Except.ok.injEq] at h
  rw [← h.1]

theorem Sound.imp {P Q : RuntimeState → Prop} {t : List (Action FileName Mark)} (h : Sound P t)
    (himp : ∀ s, P s → Q s) : Sound Q t :=
  ⟨h.backed, fun s hs => himp s (h.recorded s hs)⟩

/-- The cost of the events in some journal records. -/
def recordsCost (cost : FabricEvent → Nat) (config : RuntimeConfig) (records : List (List UInt8)) :
    Nat :=
  ((records.filterMap fun record =>
    (decodeBinary FabricEvent.visit config.decodeLimit record).toOption).map cost).sum

theorem recordsCost_le {cost : FabricEvent → Nat}
    {records records' : List (List UInt8)} (h : records.Sublist records') :
    recordsCost cost config records ≤ recordsCost cost config records' :=
  ((h.filterMap _).map cost).sum_le_sum fun _ _ => Nat.zero_le _

section Calls

variable {C : RuntimeConfig → Prop} {E : RuntimeConfig → RuntimeState → FabricEvent → Prop}
  {cost : FabricEvent → Nat} {P : Nat → RuntimeState → Prop} (hP : Upheld C E cost P) {n : Nat}
include hP

theorem stage_stands (event : FabricEvent) (hrt : P n rt.state) : P n (rt.stage event).2.state := by
  unfold FabricRuntime.stage
  repeat' split
  all_goals first
    | exact hrt
    | exact hP.edit (.noted _ _ _ _ (by simp [runtimeContainers])) hrt

theorem delivered_stands (event : FabricEvent) (hrt : P n rt.state) :
    P n (rt.delivered event).state := by
  simp only [FabricRuntime.delivered, deliver]
  split
  · exact hP.edit (.noted _ _ _ _ (by simp [runtimeContainers])) hrt
  · exact hrt

theorem recounted_stands (journaledEvents : UInt64) (hs : P n s) :
    P n (s.recounted s.truncations journaledEvents) :=
  hP.edit (.counted journaledEvents) hs

theorem journal_stands (event : FabricEvent) (hrt : P n rt.state) (hw : Sound (P n) w.trace) :
    Passes (Sound (P n)) w (rt.journal event w).2.2 ∧ P n (rt.journal event w).2.1.state := by
  refine journal_rule (R := fun rt w rt' w' => P n rt.state → Sound (P n) w.trace →
    Passes (Sound (P n)) w w' ∧ P n rt'.state) ?_ ?_ ?_ ?_ ?_ rt w hrt hw
  · exact fun rt w hrt hw => ⟨passes_refl hw, hrt⟩
  · intro rt w rt' w' rt'' w'' h h' hrt hw
    obtain ⟨hpass, hrt'⟩ := h hrt hw
    obtain ⟨hpass', hrt''⟩ := h' hrt' hpass.finish
    exact ⟨hpass.trans hpass', hrt''⟩
  · exact fun rt st w _ hrt hw => ⟨appendEvent_passes Sound.plain hw st event, hrt⟩
  · intro rt w hrt hw
    obtain ⟨k, hk⟩ := checkpointLocked_state rt w
    exact ⟨checkpointLocked_sound hrt hw, hk ▸ recounted_stands hP k hrt⟩
  · exact fun rt w hrt hw => ⟨note_sound hw (by simp), hP.edit (.counted _) hrt⟩

theorem advanceState_stands (hconfig : C config) (hevent : E config s event) (hs : P n s) :
    P (n + cost event) (advanceState s event config.bounds config.weights) := by
  have happlied := hP.event hconfig hevent hs
  have hfollowed := hP.edit (.followed event) (hP.edit (.raised event) happlied)
  exact hP.edit (.decided config hconfig event _) hfollowed

theorem flushEvent_stands (report : BatchReport) (hconfig : C rt.config)
    (hevent : findDelivery rt.deliveries event = none → E rt.config rt.state event)
    (hrt : P n rt.state) (hw : Sound (P n) w.trace) :
    Passes (Sound (P (n + cost event))) w (flushEvent rt report event w).2.2
      ∧ P (n + cost event) (flushEvent rt report event w).1.state := by
  have hmore : ∀ s, P n s → P (n + cost event) s := fun _ => hP.mono (Nat.le_add_right _ _)
  unfold flushEvent
  split
  · exact ⟨passes_refl (hw.imp hmore), hmore _ hrt⟩
  next hnew =>
  obtain ⟨hpass, hstate⟩ := journal_stands hP event hrt hw
  obtain ⟨k, hk⟩ := journal_state rt event w
  have hsame := journal_config rt event w
  have hpass' := hpass.imp fun _ h => Sound.imp h hmore
  split
  · next hjournal =>
    rw [hjournal] at hpass' hstate
    exact ⟨hpass', hmore _ hstate⟩
  · next rt' w' hjournal =>
    rw [hjournal] at hpass' hstate hsame hk
    refine ⟨hpass'.trans (note_sound hpass'.finish (by simp)), ?_⟩
    have hconfig' : C rt'.config := hsame.symm ▸ hconfig
    -- the append and the window have moved the counters since
    obtain ⟨l, hl⟩ := delivered_state rt' event
    simp only at hk
    have hcounted : (rt'.delivered event).state = rt.state.recounted l k := by
      rw [hl, hk]
      rfl
    have hevent' : E rt'.config (rt'.delivered event).state event := by
      rw [hcounted, hsame]
      exact hP.counts l k (hevent hnew)
    exact advanceState_stands hP hconfig' hevent' (delivered_stands hP event hstate)

/-- The event that a call takes up. -/
def Process.takes (p : Process) : Call → Option FabricEvent
  | .flushEvent => p.flushing.bind fun f => f.released.head?
  | _ => none

theorem call_stands {p : Process} (c : Call) (hconfig : C p.runtime.config)
    (hp : P n p.runtime.state) (hw : Sound (P n) w.trace)
    (hevent : ∀ event, p.takes c = some event → findDelivery p.runtime.deliveries event = none →
      E p.runtime.config p.runtime.state event) :
    Passes (Sound (P (n + ((p.takes c).map cost).getD 0))) w (p.call c w).2
      ∧ P (n + ((p.takes c).map cost).getD 0) (p.call c w).1.runtime.state := by
  unfold Process.call
  split
  · exact ⟨passes_refl hw, stage_stands hP _ hp⟩
  · split
    · exact ⟨passes_refl hw, hp⟩
    · next hbegin => exact ⟨passes_refl hw, (flushBegin_state hbegin).symm ▸ hp⟩
  · obtain ⟨k, hk⟩ := checkpoint_state p.runtime w
    exact ⟨checkpoint_sound hp hw, hk ▸ recounted_stands hP k hp⟩
  · obtain ⟨k, hk⟩ := close_state p.runtime w
    exact ⟨close_sound hp hw, hk ▸ recounted_stands hP k hp⟩
  · next event released report hflushing =>
    have htakes : p.takes .flushEvent = some event := by simp [Process.takes, hflushing]
    rw [htakes]
    exact flushEvent_stands hP report hconfig (hevent event htakes) hp hw
  · next report hflushing =>
    have hnothing : p.takes .flushEnd = none := rfl
    rw [hnothing]
    exact ⟨passes_refl hw, hP.edit .refreshed hp⟩
  · exact ⟨passes_refl (hw.imp fun _ => hP.mono (Nat.le_add_right _ _)),
      hP.mono (Nat.le_add_right _ _) hp⟩

end Calls

section Open

theorem takeSnapshot_sound {P Q : RuntimeState → Prop}
    {payload : List UInt8} (hconfig : rt.config = config) (hrt : P rt.state) (hw : Sound Q w.trace)
    (hpayload : ∀ s, restoreSnapshot config payload = .ok s → P s) :
    Passes (Sound Q) w (rt.takeSnapshot payload w).2.2
      ∧ P (rt.takeSnapshot payload w).2.1.state
      ∧ (rt.takeSnapshot payload w).2.1.config = config := by
  unfold FabricRuntime.takeSnapshot
  split
  · exact ⟨passes_refl hw, hrt, hconfig⟩
  split
  · exact ⟨passes_refl hw, hrt, hconfig⟩
  next state hrestored =>
  rw [hconfig] at hrestored
  exact ⟨note_sound hw (by simp), hpayload state hrestored, hconfig⟩

variable {C : RuntimeConfig → Prop} {E : RuntimeConfig → RuntimeState → FabricEvent → Prop}
  {cost : FabricEvent → Nat} {P : Nat → RuntimeState → Prop} (hP : Upheld C E cost P) {n : Nat}
  {config : RuntimeConfig} (hconfig : C config)
include hP hconfig

theorem replayEvent_stands (hsame : rt.config = config)
    (hevent : findDelivery rt.deliveries event = none → E rt.config rt.state event)
    (hrt : P n rt.state) : P (n + cost event) (rt.replayEvent event w).1.state := by
  unfold FabricRuntime.replayEvent
  split
  · exact hP.mono (Nat.le_add_right _ _) hrt
  next hnew =>
  obtain ⟨l, hl⟩ := delivered_state rt event
  have hevent' : E config (rt.delivered event).state event := by
    rw [hl, ← hsame]
    exact hP.counts l _ (hevent hnew)
  have hdelivered := delivered_stands hP event hrt
  have happlied := hP.event hconfig hevent' hdelivered
  rw [← hsame] at happlied
  exact hP.edit (.raised event) happlied

/-- The replay copies nothing, and costs what its records cost. -/
theorem replayRecords_stands (watermark : LogicalInstant) (records : List (List UInt8))
    {Q : RuntimeState → Prop} (hsame : rt.config = config)
    (hrecords : ReplayMeets E watermark records rt w) (hrt : P n rt.state) (hw : Sound Q w.trace) :
    Passes (Sound Q) w (replayRecords watermark records rt w).2.2
      ∧ P (n + recordsCost cost config records) (replayRecords watermark records rt w).2.1.state
      ∧ (replayRecords watermark records rt w).2.1.config = config := by
  induction records generalizing rt w n with
  | nil => exact ⟨passes_refl hw, hrt, hsame⟩
  | cons record rest ih =>
    unfold ReplayMeets at hrecords
    unfold replayRecords
    split
    · exact ⟨passes_refl hw, hP.mono (Nat.le_add_right _ _) hrt, hsame⟩
    next event hdecode =>
    simp only [hdecode] at hrecords
    rw [hsame] at hdecode
    have hcost : recordsCost cost config (record :: rest)
        = cost event + recordsCost cost config rest := by
      simp [recordsCost, hdecode, Except.toOption]
    rw [hcost, ← Nat.add_assoc]
    split
    · next hcovered =>
      rw [if_pos hcovered] at hrecords
      exact ih hsame hrecords (hP.mono (Nat.le_add_right _ _) hrt) hw
    · next hnew =>
      rw [if_neg hnew] at hrecords
      have hstate := replayEvent_stands hP hconfig hsame (w := w) hrecords.1 hrt
      have hpass : Passes (Sound Q) w (rt.replayEvent event w).2 := by
        unfold FabricRuntime.replayEvent
        split
        · exact passes_refl hw
        · exact note_sound hw (by simp)
      have hconfig' := (replayEvent_config rt event w).trans hsame
      have hnext := ih (by exact hconfig') hrecords.2 hstate hpass.finish
      exact ⟨hpass.trans hnext.1, hnext.2⟩

theorem restart_stands (classification : RecoveryClass)
    (hsame : rt.config = config) (hrt : P n rt.state) (hw : Sound (P n) w.trace) :
    Passes (Sound (P n)) w (rt.restart classification w).2.2
      ∧ P n (rt.restart classification w).2.1.state := by
  have hrestarted : P n (rt.restarted classification).state :=
    hP.restarted (hsame.symm ▸ hconfig) hrt
  obtain ⟨k, hk, -⟩ := restart_state rt classification w
  refine ⟨?_, hk ▸ recounted_stands hP k (hP.restarted (hsame.symm ▸ hconfig) hrt)⟩
  have hcheckpoint := checkpoint_sound hrestarted hw
  simp only [FabricRuntime.restart]
  split
  all_goals exact hcheckpoint

omit hconfig in
theorem restored_stands (hrefusal : config.refusal = none) {t : List (Action FileName Mark)}
    (ht : Sound (P n) t) {directory : Text} {raw payload : List UInt8}
    (hraw : diskAfter t .snapshot = some raw)
    (hsize : raw.length ≤ (config.storeOptions directory).maxRecordBytes + frameHeaderBytes
      + frameDigestBytes) (hparse : parseSnapshot (config.storeOptions directory) raw = .ok payload)
    (hrestored : restoreSnapshot config payload = .ok s) : P n s := by
  obtain ⟨copied, hcopied, format, semantic, hframe⟩ := ht.backed raw hraw
  have hsmall : raw.length < 2 ^ 32 := by
    have hbound := RuntimeBounds.validate_frame (b := config.bounds)
      (RuntimeConfig.bounds_ok hrefusal)
    have hmax : (config.storeOptions directory).maxRecordBytes = config.bounds.maxFrameBytes := rfl
    rw [hmax, frameHeaderBytes, frameDigestBytes] at hsize
    omega
  have h32 : (encodeBinary RuntimeState.visit copied).length < 2 ^ 32 :=
    lt_of_le_of_lt (payload_length_le .snapshot format semantic _) (hframe ▸ hsmall)
  rw [hframe] at hparse
  rw [parseSnapshot_of_frame h32 hparse] at hrestored
  rw [restoreSnapshot_encode h32 hrestored]
  exact hP.restored (ht.recorded copied hcopied)

theorem recover_stands {st : Store}
    (hsame : rt.config = config) (hrefusal : config.refusal = none) {directory : Text}
    (hoptions : st.options = config.storeOptions directory)
    (hblank : rt.state = initialState config)
    (hw : Sound (P n) w.trace) (hmeets : RecoverMeets E rt st w) :
    Passes (Sound (P (n + ((journalEvents config w.disk).map cost).sum))) w (rt.recover st w).2.2
      ∧ P (n + ((journalEvents config w.disk).map cost).sum) (rt.recover st w).2.1.state := by
  generalize htotal : n + ((journalEvents config w.disk).map cost).sum = total
  have hmore : ∀ {k s}, k ≤ total → P k s → P total s := hP.mono
  have hstart : n ≤ total := htotal ▸ Nat.le_add_right _ _
  have hrt : P n rt.state := hblank ▸ hP.mono (Nat.zero_le _) (hP.blank hconfig)
  have hw' : Sound (P total) w.trace := hw.imp fun _ => hmore hstart
  have hload := load_passes Sound.plain hw' st
  unfold RecoverMeets at hmeets
  unfold FabricRuntime.recover
  split
  · next h₁ =>
    rw [h₁] at hload
    exact ⟨hload, hmore hstart hrt⟩
  · next loaded st' w₁ h₁ =>
    rw [h₁] at hload
    simp only [h₁] at hmeets
    obtain ⟨hsnapshot, hrecords⟩ := load_ok h₁
    rw [hoptions] at hsnapshot hrecords
    have hspent : n + recordsCost cost config loaded.records ≤ total := by
      rw [← htotal]
      exact Nat.add_le_add_left (recordsCost_le hrecords) n
    have htake : Passes (Sound (P total)) w₁
          ((rt.holding st' loaded.recovery).takeSnapshot loaded.snapshot w₁).2.2
        ∧ P n ((rt.holding st' loaded.recovery).takeSnapshot loaded.snapshot w₁).2.1.state
        ∧ ((rt.holding st' loaded.recovery).takeSnapshot loaded.snapshot w₁).2.1.config
            = config := by
      by_cases hempty : loaded.snapshot = []
      · rw [FabricRuntime.takeSnapshot, if_pos hempty]
        exact ⟨passes_refl hload.finish, hrt, hsame⟩
      obtain ⟨raw, hraw, hsize, hparse⟩ := hsnapshot.resolve_left hempty
      exact takeSnapshot_sound hsame hrt hload.finish
        fun s => restored_stands hP hrefusal hw hraw hsize hparse
    split
    · next h₂ =>
      rw [h₂] at htake
      exact ⟨hload.trans htake.1, hmore hstart htake.2.1⟩
    · next rt₁ w₂ h₂ =>
      rw [h₂] at htake
      simp only [h₂] at hmeets
      obtain ⟨hpass₂, hrt₁, hconfig₁⟩ := htake
      have hreplay := replayRecords_stands hP hconfig rt₁.state.watermark loaded.records hconfig₁
        hmeets hrt₁ hpass₂.finish
      split
      · next h₃ =>
        rw [h₃] at hreplay
        exact ⟨hload.trans (hpass₂.trans hreplay.1), hmore hspent hreplay.2.1⟩
      · next rt₂ w₃ h₃ =>
        rw [h₃] at hreplay
        obtain ⟨hpass₃, hrt₂, hconfig₂⟩ := hreplay
        split
        · obtain ⟨hpass₄, hstate⟩ := restart_stands hP hconfig
            loaded.recovery.classification hconfig₂ (hmore hspent hrt₂) hpass₃.finish
          exact ⟨hload.trans (hpass₂.trans (hpass₃.trans hpass₄)), hstate⟩
        · -- nothing was stored
          next hnothing =>
            rw [not_or, not_not, not_not] at hnothing
            refine ⟨hload.trans (hpass₂.trans hpass₃), hmore (Nat.zero_le _) ?_⟩
            simp only [hnothing.1, FabricRuntime.takeSnapshot, if_true, Prod.mk.injEq,
              true_and] at h₂
            simp only [hnothing.2, replayRecords, Prod.mk.injEq, true_and] at h₃
            obtain ⟨rfl, -⟩ := h₃
            obtain ⟨rfl, -⟩ := h₂
            simp only [FabricRuntime.startFresh, FabricRuntime.digested,
              FabricRuntime.holding, hblank]
            exact hP.blank hconfig

/-- **Every moment of `open`, and the runtime that comes out of it.** -/
theorem open_stands (hw : Sound (P n) w.trace) (hmeets : OpenMeets E config w) :
    Passes (Sound (P (n + ((journalEvents config w.disk).map cost).sum))) w
        (FabricRuntime.open config w).2
      ∧ ∀ rt, (FabricRuntime.open config w).1 = .ok rt →
        P (n + ((journalEvents config w.disk).map cost).sum) rt.state := by
  have hw' : Sound (P (n + ((journalEvents config w.disk).map cost).sum)) w.trace :=
    hw.imp fun _ => hP.mono (Nat.le_add_right _ _)
  have hblank : P (n + ((journalEvents config w.disk).map cost).sum) (initialState config) :=
    hP.mono (Nat.zero_le _) (hP.blank hconfig)
  unfold OpenMeets at hmeets
  unfold FabricRuntime.open
  split
  · exact ⟨passes_refl hw', fun _ h => absurd h (by simp)⟩
  next hrefusal =>
  have hstarted := note_sound hw (m := .started) (by simp)
  have hstarted' := note_sound hw' (m := .started) (by simp)
  simp only
  split
  · refine ⟨hstarted', fun rt h => ?_⟩
    rw [← Except.ok.inj h]
    exact hblank
  · next directory hdirectory =>
    simp only [hdirectory] at hmeets
    have hopen := hstarted.trans (storeOpen_passes Sound.plain.calm hstarted.finish
      (config.storeOptions directory))
    have hopen' := hstarted'.trans (storeOpen_passes Sound.plain.calm hstarted'.finish
      (config.storeOptions directory))
    have hdisk := Store.open_disk (config.storeOptions directory)
      (show FileName.journal ≠ .temp by simp) (w.note .started)
    rw [World.disk_note] at hdisk
    split
    · next h₁ =>
      rw [h₁] at hopen'
      exact ⟨hopen', fun _ h => absurd h (by simp)⟩
    · next st w₁ h₁ =>
      rw [h₁] at hopen hopen' hdisk
      simp only [h₁] at hmeets
      have hsame : journalEvents config w₁.disk = journalEvents config w.disk := by
        rw [journalEvents, journalRecords, hdisk]
        rfl
      obtain ⟨hrecover, hstate⟩ := recover_stands hP hconfig
        (show (blankRuntime config).config = config from rfl) hrefusal
        (Store.open_options h₁) rfl hopen.finish hmeets
      rw [hsame] at hrecover hstate
      split
      · next h₂ =>
        rw [h₂] at hrecover hstate
        exact ⟨hopen'.trans hrecover, fun _ h => Except.ok.inj h ▸ hstate⟩
      · next h₂ =>
        rw [h₂] at hrecover hstate
        exact ⟨hopen'.trans (hrecover.trans (close_sound hstate hrecover.finish)),
          fun _ h => absurd h (by simp)⟩

end Open

/-! ## §5. Every run. -/

/-- The events that a move may take up, live or from the journal, are of the
given kind. -/
def TakesUp (E : FabricEvent → Prop) (s : System) (m : Move) : Prop :=
  match m.op with
  | .start config => s.process = none → ∀ event ∈ journalEvents config s.disk, E event
  | .call .flushEvent => ∀ pe, s.next = some pe → E pe.2
  | _ => True

/-- The faults of a move. -/
def Move.faults : Move → List (Option Nat)
  | .run _ faults => faults
  | .crash _ faults _ => faults

/-- The events that a move takes up, live or from the journal, meet the condition
in the state that they are taken up in. -/
def TakesUpIn (E : RuntimeConfig → RuntimeState → FabricEvent → Prop) (s : System) (m : Move) :
    Prop :=
  match m.op with
  | .start config => s.process = none → OpenMeets E config { trace := s.trace, faults := m.faults }
  | .call .flushEvent => ∀ pe, s.next = some pe →
      findDelivery pe.1.runtime.deliveries pe.2 = none →
      E pe.1.runtime.config pe.1.runtime.state pe.2
  | _ => True

instance (E : RuntimeConfig → RuntimeState → FabricEvent → Prop)
    [∀ config s event, Decidable (E config s event)] (s : System) (m : Move) :
    Decidable (TakesUpIn E s m) := by
  unfold TakesUpIn
  generalize m.op = op
  refine Op.casesOn op (fun _ => inferInstance) (fun c => ?_) inferInstance
  apply @Call.casesOn _ c <;> infer_instance

theorem takesUp_any (s : System) (m : Move) : TakesUp (fun _ => True) s m := by
  unfold TakesUp
  split
  · exact fun _ _ _ => trivial
  · exact fun _ _ => trivial
  · trivial

/-- What the events of an operation cost: those of the journal, or the one that
a turn of a flush takes up. -/
def System.spends (cost : FabricEvent → Nat) (s : System) : Op → Nat
  | .start config =>
    match s.process with
    | none => ((journalEvents config s.disk).map cost).sum
    | some _ => 0
  | .call c => ((s.process.bind fun p => p.takes c).map cost).getD 0
  | .exit => 0

/-- What the events of a run cost. -/
def System.spent (cost : FabricEvent → Nat) : System → List Move → Nat
  | _, [] => 0
  | s, m :: moves => s.spends cost m.op + (s.step m).spent cost moves

/-- A process is started with a configuration of the given kind. -/
def Configured (C : RuntimeConfig → Prop) (m : Move) : Prop :=
  ∀ config, m.op = .start config → C config

/-- The files and the present process have the property. -/
structure System.Sound (P : RuntimeState → Prop) (s : System) : Prop where
  files : DpuFabric.Sound P s.trace
  holds : s.Holds P

/-- The present process has a configuration of the given kind. -/
def System.Runs (C : RuntimeConfig → Prop) (s : System) : Prop :=
  ∀ p, s.process = some p → C p.runtime.config

theorem Process.call_config (p : Process) (c : Call) (w : RuntimeWorld) :
    (p.call c w).1.runtime.config = p.runtime.config := by
  unfold Process.call
  split
  · exact stage_config p.runtime _
  · split
    · rfl
    next hbegin =>
    unfold FabricRuntime.flushBegin at hbegin
    split at hbegin
    · simp at hbegin
    · cases hbegin
      rfl
  · exact checkpoint_config p.runtime w
  · exact close_config p.runtime w
  · exact flushEvent_config p.runtime _ _ w
  · rfl
  · rfl

theorem step_runs {C : RuntimeConfig → Prop} {s : System} (hs : s.Runs C) (hm : Configured C m) :
    (s.step m).Runs C := by
  refine System.step_rule (P := fun _ p => C p.runtime.config) hs ?_ ?_
  · intro config faults rt w hstart _ hopen
    exact (open_inv hopen).1.symm ▸ hm config (by rw [hstart]; rfl)
  · exact fun p c faults _ _ hp => (Process.call_config p c _).symm ▸ hp

theorem System.next_takes {s : System} {p : Process}
    (hp : s.process = some p) (h : p.takes .flushEvent = some event) :
    s.next = some (p, event) := by
  obtain ⟨⟨released, report⟩, hflushing, hhead⟩ := Option.bind_eq_some_iff.mp h
  obtain ⟨rest, rfl⟩ := List.head?_eq_some_iff.mp hhead
  exact System.next_of_flushing hp hflushing

section Runs

variable {C : RuntimeConfig → Prop} {E : RuntimeConfig → RuntimeState → FabricEvent → Prop}
  {cost : FabricEvent → Nat} {P : Nat → RuntimeState → Prop} (hP : Upheld C E cost P) {n : Nat}
include hP

theorem exec_stands {s : System} (hs : s.Sound (P n)) (hruns : s.Runs C)
    (hm : Configured C m) (htakes : TakesUpIn E s m) :
    Passes (Sound (P (n + s.spends cost m.op))) { trace := s.trace, faults := m.faults }
        { trace := (s.exec m.op m.faults).trace }
      ∧ (s.exec m.op m.faults).Holds (P (n + s.spends cost m.op)) := by
  have hmore : ∀ t, P n t → P (n + s.spends cost m.op) t := fun _ => hP.mono (Nat.le_add_right _ _)
  have hsame := hs.files.imp hmore
  unfold TakesUpIn at htakes
  unfold System.exec
  split
  · next config hnone hop =>
    have hspends : s.spends cost m.op = ((journalEvents config s.disk).map cost).sum := by
      simp only [System.spends, hop, hnone]
    rw [hop] at htakes
    obtain ⟨hpass, hstate⟩ := open_stands hP (hm config hop)
      (w := { trace := s.trace, faults := m.faults }) hs.files (htakes hnone)
    rw [hspends]
    split
    · next hopen =>
      rw [hopen] at hpass hstate
      refine ⟨hpass, fun q hq => ?_⟩
      injection hq with hq
      exact hq ▸ hstate _ rfl
    · next hopen =>
      rw [hopen] at hpass
      exact ⟨hpass, fun _ hq => absurd hq (by simp)⟩
  · next p c hsome hop =>
    have hspends : s.spends cost m.op = ((p.takes c).map cost).getD 0 := by
      simp only [System.spends, hop, hsome, Option.bind_some]
    have hevent : ∀ event, p.takes c = some event →
        findDelivery p.runtime.deliveries event = none →
        E p.runtime.config p.runtime.state event := by
      intro event hevent
      cases c with
      | flushEvent =>
        rw [hop] at htakes
        exact htakes (p, event) (System.next_takes hsome hevent)
      | _ => simp [Process.takes] at hevent
    obtain ⟨hpass, hstate⟩ := call_stands hP (w := { trace := s.trace, faults := m.faults }) c
      (hruns p hsome) (hs.holds p hsome) hs.files hevent
    rw [hspends]
    refine ⟨hpass, fun q hq => ?_⟩
    injection hq with hq
    exact hq ▸ hstate
  · next runtime hsome _ =>
    exact ⟨close_sound (w := { trace := s.trace, faults := m.faults }) (hmore _ (hs.holds _ hsome)) hsame,
      fun _ hq => absurd hq (by simp)⟩
  · exact ⟨passes_refl hsame, fun q hq => hmore _ (hs.holds q hq)⟩

theorem step_stands {s : System} (hs : s.Sound (P n)) (hruns : s.Runs C)
    (hm : Configured C m) (htakes : TakesUpIn E s m) :
    (s.step m).Sound (P (n + s.spends cost m.op)) := by
  have hexec := exec_stands hP hs hruns hm htakes
  cases m with
  | run op faults => exact ⟨hexec.1.finish, hexec.2⟩
  | crash op faults k =>
    obtain ⟨u, hu, hthrough⟩ := hexec.1
    have htrace : (s.exec op faults).trace = s.trace ++ u := hu
    refine ⟨?_, fun _ hq => absurd hq (by simp [System.step])⟩
    simp only [System.step, htrace, List.drop_left]
    exact hthrough k

/-- **In every run of the given kind, the property stands at the cost of the
events taken up.** -/
theorem Upheld.run {moves : List Move}
    (h : Meets System.step (fun s m => Configured C m ∧ TakesUpIn E s m) {} moves) :
    (System.after {} moves).Sound (P (System.spent cost {} moves)) := by
  have hrun : ∀ {s : System} {moves : List Move} {n : Nat}, s.Sound (P n) → s.Runs C →
      Meets System.step (fun s m => Configured C m ∧ TakesUpIn E s m) s moves →
      (System.after s moves).Sound (P (n + s.spent cost moves)) := by
    intro s moves n hs hruns hmeets
    induction moves generalizing s n with
    | nil => exact hs
    | cons m moves ih =>
      obtain ⟨⟨hm, htakes⟩, hmeets⟩ := hmeets
      have hstep := ih (step_stands hP hs hruns hm htakes) (step_runs hruns hm) hmeets
      rwa [Nat.add_assoc] at hstep
  have hnone : ∀ p, ({} : System).process ≠ some p := fun _ hp => absurd hp (by simp)
  have hend := hrun (n := 0) ⟨sound_nil _, fun p hp => absurd hp (hnone p)⟩
    (fun p hp => absurd hp (hnone p)) h
  rwa [Nat.zero_add] at hend

end Runs

section Kinds

variable {E : FabricEvent → Prop}

/-- Where only the kind of the events matters, the journal says it all. -/
theorem replayMeets_kind {watermark : LogicalInstant} {records : List (List UInt8)}
    (h : ∀ r ∈ records, ∀ event,
      decodeBinary FabricEvent.visit rt.config.decodeLimit r = .ok event → E event) :
    ReplayMeets (fun _ _ => E) watermark records rt w := by
  induction records generalizing rt w with
  | nil => trivial
  | cons record rest ih =>
    unfold ReplayMeets
    split
    · trivial
    next event hdecode =>
    split
    · exact ih fun r hr => h r (List.mem_cons_of_mem _ hr)
    refine ⟨fun _ => h record List.mem_cons_self event hdecode, ih fun r hr => ?_⟩
    show ∀ event, decodeBinary FabricEvent.visit
      (rt.replayEvent _ w).1.config.decodeLimit r = .ok event → E event
    rw [replayEvent_config]
    exact h r (List.mem_cons_of_mem _ hr)

theorem openMeets_kind (h : ∀ event ∈ journalEvents config w.disk, E event) : OpenMeets
    (fun _ _ => E) config w := by
  unfold OpenMeets
  split
  · trivial
  next directory _ =>
  have hdisk := Store.open_disk (config.storeOptions directory)
    (show FileName.journal ≠ .temp by simp) (w.note .started)
  rw [World.disk_note] at hdisk
  split
  · trivial
  next st w₁ h₁ =>
  rw [h₁] at hdisk
  unfold RecoverMeets
  split
  · trivial
  next loaded st' w₂ h₂ =>
  have hrecords := (load_ok h₂).2
  rw [Store.open_options h₁] at hrecords
  split
  · trivial
  next rt w₃ h₃ =>
  have hconfig : rt.config = config := (takeSnapshot_inv h₃).1
  refine replayMeets_kind fun r hr event hdecode => h event ?_
  rw [hconfig] at hdecode
  refine List.mem_filterMap.mpr ⟨r, ?_, by rw [hdecode]; rfl⟩
  rw [journalRecords, ← hdisk]
  exact hrecords.subset hr

theorem takesUpIn_kind {s : System} (h : TakesUp E s m) : TakesUpIn (fun _ _ => E) s m := by
  unfold TakesUp at h
  unfold TakesUpIn
  split
  · next hop =>
    rw [hop] at h
    exact fun hnone => openMeets_kind (h hnone)
  · next hop =>
    rw [hop] at h
    exact fun pe hpe _ => h pe hpe
  · trivial

/-- **In every run of the given kind, the property stands at the cost of the
events taken up.** -/
theorem Standing.run {C : RuntimeConfig → Prop} {cost : FabricEvent → Nat}
    {P : Nat → RuntimeState → Prop} (hP : Standing C E cost P) {moves : List Move}
    (h : Meets System.step (fun s m => Configured C m ∧ TakesUp E s m) {} moves) :
    (System.after {} moves).Sound (P (System.spent cost {} moves)) :=
  hP.upheld.run (h.imp fun _ _ hm => ⟨hm.1, takesUpIn_kind hm.2⟩)

end Kinds

end DpuFabric
