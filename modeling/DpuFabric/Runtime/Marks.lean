/-
  Runtime.Marks — WHICH CALLS LEAVE WHICH MARKS.

  A live event reaches the reducers in one place only, the turn of a flush,
  and leaves its mark there (`Turn.traced`).  Every other call of a process
  extends the trace by file calls, copies of the state and journaled events
  (`Bookkept`); `open` adds the marks of a recovery to these (`Unlived`).
-/
import DpuFabric.Persist.Moments
import DpuFabric.Runtime.Order
import DpuFabric.Runtime.Recovered

namespace DpuFabric

open Lib

/-! ## §1. Calls that take up no live event. -/

/-- The mark of a live event. -/
def Mark.isApplied : Mark → Bool
  | .applied .. => true
  | _ => false

/-- The property survives what a process does to its store: file calls, copies
of the state and journaled events. -/
structure Bookkept (P : List (Action FileName Mark) → Prop) : Prop where
  files : ∀ {t} op fault, P t → P (t ++ [.file op fault])
  copied : ∀ {t} s, P t → P (t ++ [.mark (.copied s)])
  journaled : ∀ {t} event, P t → P (t ++ [.mark (.journaled event)])

section Bookkept

variable {P : List (Action FileName Mark) → Prop} (hP : Bookkept P) {w : RuntimeWorld}
include hP

theorem Bookkept.plain : KeptByPlain P := fun _ op fault _ h => hP.files op fault h

theorem checkpointLocked_passes (rt : FabricRuntime) (hw : P w.trace) :
    Passes P w (rt.checkpointLocked w).2.2 := by
  unfold FabricRuntime.checkpointLocked
  split
  · exact passes_refl hw
  next st _ =>
  have hnote := passes_note (.copied rt.state) hw (hP.copied rt.state hw)
  have hrotate := hnote.trans (rotate_installs hP.plain (fun _ _ => hP.files _ _)
    (fun _ _ => hP.files _ _) hnote.finish st (encodeBinary RuntimeState.visit rt.state)
    fun _ _ h _ => hP.files _ _ h)
  simp only
  split
  all_goals exact hrotate

theorem checkpoint_passes (rt : FabricRuntime) (hw : P w.trace) :
    Passes P w (rt.checkpoint w).2.2 := by
  unfold FabricRuntime.checkpoint
  split
  · exact passes_refl hw
  · exact checkpointLocked_passes hP rt hw

theorem close_passes (rt : FabricRuntime) (hw : P w.trace) : Passes P w (rt.close w).2.2 := by
  unfold FabricRuntime.close
  split
  · exact passes_refl hw
  split
  · exact passes_refl hw
  have hcheckpoint := checkpointLocked_passes hP rt hw
  simp only
  split
  · exact hcheckpoint.trans (storeClose_passes hP.plain.calm hcheckpoint.finish _)
  · exact hcheckpoint

theorem journal_passes (rt : FabricRuntime) (event : FabricEvent) (hw : P w.trace) :
    Passes P w (rt.journal event w).2.2 := by
  refine journal_rule (R := fun _ w _ w' => P w.trace → Passes P w w') (fun _ _ => passes_refl)
    (fun h h' hw => (h hw).trans (h' (h hw).finish))
    (fun _ st _ _ hw => appendEvent_passes hP.plain hw st event)
    (fun rt _ => checkpointLocked_passes hP rt)
    (fun _ _ hw => passes_note (.journaled event) hw (hP.journaled event hw)) rt w hw

end Bookkept

/-- The property survives file calls and every mark but that of a live event. -/
structure Unlived (P : List (Action FileName Mark) → Prop) : Prop where
  files : ∀ {t} op fault, P t → P (t ++ [.file op fault])
  marks : ∀ {t m}, m.isApplied = false → P t → P (t ++ [.mark m])

section Unlived

variable {P : List (Action FileName Mark) → Prop} (hP : Unlived P) {w : RuntimeWorld}
include hP

theorem Unlived.bookkept : Bookkept P :=
  ⟨hP.files, fun _ => hP.marks rfl, fun _ => hP.marks rfl⟩

theorem Unlived.plain : KeptByPlain P := hP.bookkept.plain

theorem Unlived.note (hw : P w.trace) {m : Mark} (hm : m.isApplied = false) :
    Passes P w (w.note m) :=
  passes_note m hw (hP.marks hm hw)

theorem restart_passes (rt : FabricRuntime) (classification : RecoveryClass) (hw : P w.trace) :
    Passes P w (rt.restart classification w).2.2 := by
  have hcheckpoint := checkpoint_passes hP.bookkept (rt.restarted classification) hw
  simp only [FabricRuntime.restart]
  split
  all_goals exact hcheckpoint

theorem unlived_walk : Walk (fun _ w' => Passes P w w') (fun _ w' => Passes P w w') where
  opened o h := h.trans (storeOpen_passes hP.plain.calm h.finish o)
  loaded st h := h.trans (load_passes hP.plain h.finish st)
  held _ _ _ h := h
  based h := h
  restored _ _ h := h.trans (hP.note h.finish rfl)
  replayed event h := by
    refine h.trans ?_
    unfold FabricRuntime.replayEvent
    split
    · exact passes_refl h.finish
    · exact hP.note h.finish rfl
  recovery _ h := h
  restarted classification h := h.trans (restart_passes hP _ classification h.finish)
  fresh h := h

theorem open_passes (config : RuntimeConfig) (hw : P w.trace) :
    Passes P w (FabricRuntime.open config w).2 := by
  obtain ⟨hok, herror⟩ := (unlived_walk hP).open config (hP.note (m := .started) hw rfl)
  cases hopen : FabricRuntime.open config w with
  | mk result w' =>
    cases result with
    | ok rt => exact hok rt w' hopen
    | error refusal =>
      obtain rfl | ⟨rt, w₁, hpass, rfl | rfl⟩ := herror refusal w' hopen
      · exact passes_refl hw
      · exact hpass
      · exact hpass.trans (close_passes hP.bookkept rt hpass.finish)

end Unlived

theorem unlived_true : Unlived (fun _ => True) := ⟨fun _ _ _ => trivial, fun _ _ => trivial⟩

/-! ## §2. Live events. -/

/-- The events that reached the reducers live, in order. -/
def liveEvents (t : List (Action FileName Mark)) : List FabricEvent :=
  t.filterMap (fun
    | .mark (.applied event _) => some event
    | _ => none)

@[simp] theorem liveEvents_append (t u : List (Action FileName Mark)) :
    liveEvents (t ++ u) = liveEvents t ++ liveEvents u := List.filterMap_append

theorem unlived_liveEvents (events : List FabricEvent) :
    Unlived (fun t => liveEvents t = events) := by
  refine ⟨fun op fault h => ?_, fun {t m} hm h => ?_⟩
  · rw [liveEvents_append, h]
    exact List.append_nil _
  rw [liveEvents_append, h]
  cases m with
  | applied => simp [Mark.isApplied] at hm
  | _ => exact List.append_nil _

/-- The events that were applied live, in order. -/
def appliedEvents (t : List (Action FileName Mark)) : List FabricEvent :=
  t.filterMap (fun
    | .mark (.applied event result) => if result.applied then some event else none
    | _ => none)

@[simp] theorem appliedEvents_append (t u : List (Action FileName Mark)) :
    appliedEvents (t ++ u) = appliedEvents t ++ appliedEvents u := List.filterMap_append

theorem appliedEvents_subset (t : List (Action FileName Mark)) :
    appliedEvents t ⊆ liveEvents t := by
  intro event hevent
  obtain ⟨a, ha, hsome⟩ := List.mem_filterMap.mp hevent
  refine List.mem_filterMap.mpr ⟨a, ha, ?_⟩
  split at hsome
  · split at hsome
    · exact hsome
    · simp at hsome
  · simp at hsome

theorem passes_unlived {w w' : RuntimeWorld}
    (h : Passes (fun t => liveEvents t = liveEvents w.trace) w w') :
    ∃ u, w'.trace = w.trace ++ u ∧ liveEvents u = [] := by
  obtain ⟨u, hu, hlive⟩ := h
  have hend := hlive.finish
  rw [liveEvents_append] at hend
  exact ⟨u, hu, List.append_cancel_left (hend.trans (List.append_nil _).symm)⟩

theorem journal_traced (rt : FabricRuntime) (event : FabricEvent) (w : RuntimeWorld) :
    ∃ u, (rt.journal event w).2.2.trace = w.trace ++ u ∧ liveEvents u = [] :=
  passes_unlived (journal_passes (unlived_liveEvents (liveEvents w.trace)).bookkept rt event rfl)

/-- **One turn of a flush**: the counters move and no live event is marked,
or the event is applied on top of them and its mark ends the trace. -/
theorem Turn.traced {rt rt' : FabricRuntime} {event : FabricEvent} {w w' : RuntimeWorld}
    (h : Turn rt event w rt' w') :
    ∃ l n u, liveEvents u = []
      ∧ ((rt'.state = rt.state.recounted l n ∧ w'.trace = w.trace ++ u)
          ∨ (rt'.state
                = advanceState (rt.state.recounted l n) event rt.config.bounds rt.config.weights
              ∧ w'.trace = w.trace ++ u ++ [.mark (.applied event
                  (applyEvent (rt.state.recounted l n) event rt.config.bounds
                    rt.config.weights).1)])) := by
  have hjournal := journal_state rt event w
  have hconfig := journal_config rt event w
  obtain ⟨u, hu, hlive⟩ := journal_traced rt event w
  cases h with
  | suppressed hseen =>
    exact ⟨rt.state.truncations, rt.state.journaledEvents, [], rfl,
      .inl ⟨rfl, (List.append_nil _).symm⟩⟩
  | refused status _ _ hnew hj =>
    rw [hj] at hjournal hu
    obtain ⟨n, hn⟩ := hjournal
    exact ⟨_, n, u, hlive, .inl ⟨hn, hu⟩⟩
  | applied rt₁ w₁ result hnew hj hresult =>
    rw [hj] at hjournal hu hconfig
    obtain ⟨n, hn⟩ := hjournal
    obtain ⟨l, hl⟩ := delivered_state rt₁ event
    have hstate : (rt₁.delivered event).state = rt.state.recounted l n := by
      rw [hl]
      simp only at hn
      rw [hn]
      rfl
    simp only at hu hconfig
    subst hresult
    refine ⟨l, n, u, hlive, .inr ⟨?_, ?_⟩⟩
    · simp only [hstate, hconfig]
    · simp only [World.note, hu, hstate, hconfig]

end DpuFabric
