/-
  Runtime.Shelved — WHERE NO CALL FAILS, THE FILES ARE A SHELF.

  The runtime with its store, over files that hold what is on the shelf, does
  call by call what the bare runtime does on the shelf (`OnShelf`).
-/
import DpuFabric.Engine.RoundTrip
import DpuFabric.Runtime.Recovered
import DpuFabric.Runtime.Shelf

namespace DpuFabric

open Lib World

variable {s : System} {config : RuntimeConfig} {moves : List Move}

variable {γ : Type} {o : StoreOptions} {g : Ghost Mark γ}

/-! ## §1. The relation. -/

/-- The files hold what is on the shelf. -/
def Shelf.On (o : StoreOptions) (g : Ghost Mark γ) (h : Shelf γ)
    (t : List (Action FileName Mark)) : Prop :=
  Reads o g h.contents h.ghost t

/-- The runtime over the files is the bare runtime `q` on the shelf. -/
structure OnShelf (o : StoreOptions) (g : Ghost Mark γ) (t : List (Action FileName Mark))
    (rt q : FabricRuntime) (h : Shelf γ) : Prop where
  files : h.On o g t
  runtime : rt.bare = q
  store : ∃ st, rt.store = some st ∧ st.options = o ∧ st.closed = rt.closed
    ∧ st.journalBytes = h.journalBytes

section On

variable {t : List (Action FileName Mark)} {h : Shelf γ}

theorem Shelf.On.idle {u : List (Action FileName Mark)} (hidle : ∀ a ∈ u, Idle a)
    (hon : h.On o g t) : h.On o g (t ++ u) :=
  (Reads.through hidle hon).finish

theorem Shelf.On.note (hon : h.On o g t) (m : Mark) : (h.note g m).On o g (t ++ [.mark m]) := by
  refine ⟨hon.stored.congr ?_ ?_, ?_⟩
  · rw [diskAfter_append]
    rfl
  · rw [diskAfter_append]
    rfl
  · rw [g.after_concat, hon.ghost]
    rfl

end On

/-! ## §2. Sizes. -/

theorem eventFrame_length (o : StoreOptions) (event : FabricEvent) :
    (eventFrame o event).length = eventBytes event := by
  rw [eventFrame, frame_length]
  rfl

theorem snapshotFrame_length (o : StoreOptions) (s : RuntimeState) :
    (snapshotFrame o (encodeBinary RuntimeState.visit s)).length = stateBytes s := by
  rw [snapshotFrame, frame_length]
  rfl

theorem journal_length (o : StoreOptions) (h : Shelf γ) :
    (journalOf o.format o.semantic h.contents.journal).length = h.journalBytes := by
  have hlength : ∀ event : FabricEvent,
      (frame .event o.format o.semantic (encodeBinary FabricEvent.visit event)).length
        = eventBytes event := eventFrame_length o
  simp only [journalOf, Shelf.contents, Shelf.journalBytes, List.flatMap_map, List.length_flatMap,
    hlength]

theorem encodeBinary_ne_nil (s : RuntimeState) : encodeBinary RuntimeState.visit s ≠ [] :=
  List.ne_nil_of_length_pos (Described.nonempty s)

/-! ## §3. Appending and rotating. -/

section Calls

variable {t : List (Action FileName Mark)} {rt q : FabricRuntime} {h : Shelf γ}

theorem append_shelved (hon : OnShelf o g t rt q h) (hopen : rt.closed = false) {st : Store}
    (hst : rt.store = some st) (event : FabricEvent) :
    ∃ rt' t', rt.append st event (clean t) = ((h.append o event).1, rt', clean t')
      ∧ OnShelf o g t' rt' q (h.append o event).2 ∧ rt'.closed = false := by
  obtain ⟨st', hst', rfl, hclosed, hbytes⟩ := hon.store
  obtain rfl : st' = st := Option.some.inj (hst'.symm.trans hst)
  have happend := appendEvent_clean (hclosed.trans hopen) event t
  rw [eventFrame_length] at happend
  have hidle := hon.files.idle (appender_idle st')
  unfold FabricRuntime.append Shelf.append
  rw [← hbytes]
  simp only [happend]
  split
  · exact ⟨_, _, rfl, ⟨hidle, hon.runtime, _, rfl, rfl, hclosed, hbytes⟩, hopen⟩
  split
  · exact ⟨_, _, rfl, ⟨hidle, hon.runtime, _, rfl, rfl, hclosed, hbytes⟩, hopen⟩
  next hrecord hjournal =>
  have hthrough := append_through rfl hon.files (p := encodeBinary FabricEvent.visit event)
    ((eventFrame_length _ event).trans_le (not_lt.mp hrecord)) (by
      rw [journal_length, ← hbytes]
      exact (congrArg _ (eventFrame_length _ event)).trans_le (not_lt.mp hjournal))
  have hcontents : ({ h with journal := h.journal ++ [event] } : Shelf γ).contents
      = { h.contents with
          journal := h.contents.journal ++ [encodeBinary FabricEvent.visit event] } := by
    simp [Shelf.contents]
  refine ⟨_, _, rfl, ⟨?_, hon.runtime, _, rfl, rfl, hclosed, ?_⟩, hopen⟩
  · rw [Shelf.On, hcontents]
    exact hthrough.2
  · simp [Shelf.journalBytes, hbytes]

theorem checkpointLocked_shelved (hon : OnShelf o g t rt q h) (hopen : rt.closed = false) :
    ∃ rt' t', rt.checkpointLocked (clean t) = ((h.checkpoint o g q).1, rt', clean t')
      ∧ OnShelf o g t' rt' (h.checkpoint o g q).2.1 (h.checkpoint o g q).2.2
      ∧ rt'.closed = false := by
  obtain ⟨st, hst, rfl, hclosed, hbytes⟩ := hon.store
  obtain rfl := hon.runtime
  have hrotate := rotate_clean (hclosed.trans hopen) (encodeBinary RuntimeState.visit rt.state)
    (t ++ [.mark (.copied rt.state)])
  rw [snapshotFrame_length] at hrotate
  have hnoted := hon.files.note (.copied rt.state)
  have hstate : rt.bare.state = rt.state := rfl
  unfold FabricRuntime.checkpointLocked Shelf.checkpoint Shelf.rotate
  simp only [hst, note_clean, hrotate, hstate]
  split
  · exact ⟨_, _, rfl, ⟨hnoted, rfl, _, rfl, rfl, hclosed, hbytes⟩, hopen⟩
  next hfits =>
  have hthrough := rotate_through rfl hnoted (p := encodeBinary RuntimeState.visit rt.state)
    ⟨encodeBinary_ne_nil _, (snapshotFrame_length _ rt.state).trans_le (not_lt.mp hfits)⟩
  exact ⟨_, _, rfl, ⟨hthrough.2, rfl, _, rfl, rfl, hclosed, rfl⟩, hopen⟩

theorem append_full {event : FabricEvent}
    (hfull : (h.append o event).1.code = .boundExceeded) : (h.append o event).2 = h := by
  unfold Shelf.append at hfull ⊢
  split
  · rfl
  split
  · rfl
  next hrecord hjournal =>
  rw [if_neg hrecord, if_neg hjournal] at hfull
  simp [Status.success] at hfull

theorem finishAppend_shelved (hon : OnShelf o g t rt q h) (hopen : rt.closed = false)
    (event : FabricEvent) (appended : Status) :
    ∃ rt' t', finishAppend event (appended, rt, clean t)
        = ((Shelf.finishAppend g event q (appended, h)).1, rt', clean t')
      ∧ OnShelf o g t' rt' (Shelf.finishAppend g event q (appended, h)).2.1
          (Shelf.finishAppend g event q (appended, h)).2.2 ∧ rt'.closed = false := by
  obtain rfl := hon.runtime
  unfold finishAppend Shelf.finishAppend
  simp only
  split
  · exact ⟨_, _, rfl, hon, hopen⟩
  · exact ⟨_, _, rfl, ⟨hon.files.note _, rfl, hon.store⟩, hopen⟩

theorem appendTurn_shelved (hon : OnShelf o g t rt q h) (hopen : rt.closed = false) {st : Store}
    (hst : rt.store = some st) (event : FabricEvent) :
    ∃ rt' t', finishAppend event (rt.append st event (clean t))
        = ((Shelf.finishAppend g event q (h.append o event)).1, rt', clean t')
      ∧ OnShelf o g t' rt' (Shelf.finishAppend g event q (h.append o event)).2.1
          (Shelf.finishAppend g event q (h.append o event)).2.2 ∧ rt'.closed = false := by
  obtain ⟨rt₁, t₁, happend, hon₁, hopen₁⟩ := append_shelved hon hopen hst event
  obtain ⟨rt₂, t₂, hfinish, hon₂, hopen₂⟩ :=
    finishAppend_shelved hon₁ hopen₁ event (h.append o event).1
  exact ⟨rt₂, t₂, happend ▸ hfinish, hon₂, hopen₂⟩

theorem journal_shelved (hon : OnShelf o g t rt q h) (hopen : rt.closed = false)
    (event : FabricEvent) :
    ∃ rt' t', rt.journal event (clean t) = ((h.journaling o g q event).1, rt', clean t')
      ∧ OnShelf o g t' rt' (h.journaling o g q event).2.1 (h.journaling o g q event).2.2
      ∧ rt'.closed = false := by
  obtain ⟨st, hst, -⟩ := hon.store
  obtain ⟨rt₁, t₁, happend, hon₁, hopen₁⟩ := append_shelved hon hopen hst event
  unfold Shelf.journaling
  by_cases hfull : (h.append o event).1.code = .boundExceeded
  · -- the journal is full: a rotation first
    rw [append_full hfull] at hon₁
    obtain ⟨rt₂, t₂, hcheckpoint, hon₂, hopen₂⟩ := checkpointLocked_shelved hon₁ hopen₁
    obtain ⟨st₂, hst₂, -⟩ := hon₂.store
    have hjournal : rt.journal event (clean t)
        = if !(h.checkpoint o g q).1.ok then (some (h.checkpoint o g q).1, rt₂, clean t₂)
          else finishAppend event (rt₂.append st₂ event (clean t₂)) := by
      simp only [FabricRuntime.journal, hst, happend, hfull, if_true, FabricRuntime.rotateAppend,
        hcheckpoint, hst₂]
    rw [hjournal, if_pos hfull]
    by_cases hok : (h.checkpoint o g q).1.ok = true
    · simp only [hok, Bool.not_true, Bool.false_eq_true, if_false]
      exact appendTurn_shelved hon₂ hopen₂ hst₂ event
    · simp only [hok, Bool.not_false, if_true]
      exact ⟨rt₂, t₂, rfl, hon₂, hopen₂⟩
  · have hjournal : rt.journal event (clean t)
        = finishAppend event (rt.append st event (clean t)) := by
      simp only [FabricRuntime.journal, hst, happend, hfull, if_false]
    rw [hjournal, if_neg hfull]
    exact appendTurn_shelved hon hopen hst event

theorem flushEvent_shelved (hon : OnShelf o g t rt q h) (hopen : rt.closed = false)
    (report : BatchReport) (event : FabricEvent) :
    ∃ rt' t', flushEvent rt report event (clean t)
        = (rt', (h.flushEvent o g q report event).2.1, clean t')
      ∧ OnShelf o g t' rt' (h.flushEvent o g q report event).1 (h.flushEvent o g q report event).2.2
      ∧ rt'.closed = false := by
  have hdeliveries : findDelivery q.deliveries event = findDelivery rt.deliveries event :=
    hon.runtime ▸ rfl
  cases hfind : findDelivery rt.deliveries event with
  | some seen =>
    simp only [flushEvent, Shelf.flushEvent, hdeliveries, hfind]
    exact ⟨rt, t, rfl, hon, hopen⟩
  | none =>
    obtain ⟨rt₁, t₁, hjournal, hon₁, hopen₁⟩ := journal_shelved hon hopen event
    simp only [flushEvent, Shelf.flushEvent, hdeliveries, hfind, hjournal]
    generalize h.journaling o g q event = journaled at hon₁ ⊢
    obtain ⟨refusal, q₁, h₁⟩ := journaled
    obtain rfl := hon₁.runtime
    cases refusal with
    | some refusal => exact ⟨_, _, rfl, hon₁, hopen₁⟩
    | none => exact ⟨_, _, rfl, ⟨hon₁.files.note _, rfl, hon₁.store⟩, hopen₁⟩

theorem close_shelved (hon : OnShelf o g t rt q h) :
    ∃ status rt' t', rt.close (clean t) = (status, rt', clean t')
      ∧ OnShelf o g t' rt' (h.close o g q).1 (h.close o g q).2 := by
  have hclosed : q.closed = rt.closed := hon.runtime ▸ rfl
  cases hopen : rt.closed with
  | true =>
    rw [hopen] at hclosed
    simp only [FabricRuntime.close, Shelf.close, hopen, hclosed, if_true]
    exact ⟨_, rt, t, rfl, hon⟩
  | false =>
    obtain ⟨st, hst, -⟩ := hon.store
    obtain ⟨rt₁, t₁, hcheckpoint, hon₁, hopen₁⟩ := checkpointLocked_shelved hon hopen
    obtain ⟨st₁, hst₁, hoptions₁, hclosed₁, hbytes₁⟩ := hon₁.store
    rw [hopen] at hclosed
    rw [hopen₁] at hclosed₁
    simp only [FabricRuntime.close, Shelf.close, hopen, hclosed, Bool.false_eq_true, if_false, hst,
      hcheckpoint, hst₁, Store.close, hclosed₁, runSteps_clean]
    refine ⟨_, _, _, rfl, hon₁.files.idle (idle_calls (closeSteps_calm st₁)), ?_, _, rfl, hoptions₁,
      rfl, hbytes₁⟩
    rw [← hon₁.runtime]
    rfl

end Calls

/-! ## §4. Opening. -/

section Open

variable {config : RuntimeConfig} {t : List (Action FileName Mark)} {rt q : FabricRuntime}
  {h : Shelf γ}

theorem restoreSnapshot_readable {s : RuntimeState} (hread : s.Readable config) :
    restoreSnapshot config (encodeBinary RuntimeState.visit s) = .ok s.restored := by
  unfold restoreSnapshot
  rw [decodeBinary_encodeBinary _ hread.1, RuntimeState.visit_norm]
  simp only
  rw [if_neg]
  · rfl
  · exact fun hother => hother.2 hread.2

theorem takeSnapshot_shelved (hread : ∀ s ∈ h.base, s.Readable config)
    (hon : OnShelf o g t rt (blankRuntime config) h) :
    ∃ rt' t', rt.takeSnapshot (h.contents.base.getD []) (clean t) = (none, rt', clean t')
      ∧ OnShelf o g t' rt' (h.takeBase g config).1 (h.takeBase g config).2
      ∧ rt'.closed = rt.closed := by
  obtain rfl : rt.config = config := congrArg (fun rt => rt.config) hon.runtime
  unfold FabricRuntime.takeSnapshot Shelf.takeBase Shelf.baseState
  cases hbase : h.base with
  | none =>
    simp only [Shelf.contents, hbase, Option.map_none, Option.getD_none, if_true,
      Option.isSome_none, Bool.false_eq_true, if_false]
    exact ⟨rt, t, rfl, hon, rfl⟩
  | some s =>
    simp only [Shelf.contents, hbase, Option.map_some, Option.getD_some, encodeBinary_ne_nil,
      if_false, restoreSnapshot_readable (hread s hbase), Option.isSome_some, if_true]
    refine ⟨_, _, rfl, ⟨hon.files.note _, ?_, hon.store⟩, rfl⟩
    exact congrArg (fun q => { q with state := s.restored }) hon.runtime

/-- `replay_event` on the bare runtime. -/
def FabricRuntime.replaying (rt : FabricRuntime) (event : FabricEvent) : FabricRuntime :=
  { rt.delivered event with
    state := replayState (rt.delivered event).state event rt.config.bounds rt.config.weights }

/-- The mark of a replayed event. -/
def FabricRuntime.replayMark (rt : FabricRuntime) (event : FabricEvent) : Mark :=
  .replayed event (applyEvent (rt.delivered event).state event rt.config.bounds rt.config.weights).1

theorem Shelf.replay_cons {watermark : LogicalInstant} {event : FabricEvent}
    (rest : List FabricEvent) (habove : ¬ event.instant ≤ watermark)
    (hnew : findDelivery q.deliveries event.visited = none) :
    Shelf.replay g watermark (event :: rest) q h
      = Shelf.replay g watermark rest (q.replaying event.visited)
          (h.note g (q.replayMark event.visited)) := by
  simp only [Shelf.replay, habove, if_false, hnew]
  rfl

theorem replayRecords_shelved (watermark : LogicalInstant) {events : List FabricEvent}
    (hread : ∀ e ∈ events, e.Readable config.decodeLimit) (hconfig : q.config = config)
    (hon : OnShelf o g t rt q h) :
    ∃ rt' t', replayRecords watermark (events.map (encodeBinary FabricEvent.visit)) rt (clean t)
        = (none, rt', clean t')
      ∧ OnShelf o g t' rt' (Shelf.replay g watermark events q h).1
          (Shelf.replay g watermark events q h).2 ∧ rt'.closed = rt.closed := by
  induction events generalizing rt q h t with
  | nil => exact ⟨rt, t, rfl, hon, rfl⟩
  | cons event rest ih =>
    have hrest : ∀ e ∈ rest, e.Readable config.decodeLimit :=
      fun e he => hread e (List.mem_cons_of_mem _ he)
    obtain rfl := hon.runtime
    have hdecode : decodeBinary FabricEvent.visit rt.config.decodeLimit
        (encodeBinary FabricEvent.visit event) = .ok event.visited := by
      have hsame : rt.config = config := hconfig
      rw [hsame, decodeBinary_encodeBinary _ (hread event List.mem_cons_self),
        FabricEvent.visit_norm]
    have hinstant : event.visited.instant = event.instant := rfl
    have hdeliveries : rt.bare.deliveries = rt.deliveries := rfl
    rw [List.map_cons, replayRecords, hdecode]
    by_cases hcovered : event.instant ≤ watermark
    · simp only [hinstant, hcovered, if_true, Shelf.replay]
      exact ih hrest hconfig hon
    simp only [hinstant, hcovered, if_false, FabricRuntime.replayEvent]
    cases hfind : findDelivery rt.deliveries event.visited with
    | some seen =>
      simp only [Shelf.replay, hcovered, if_false, hdeliveries, hfind]
      exact ih hrest hconfig ⟨hon.files, rfl, hon.store⟩
    | none =>
      have hnoted := hon.files.note (rt.bare.replayMark event.visited)
      rw [Shelf.replay_cons (q := rt.bare) rest hcovered hfind]
      have hnext : OnShelf o g (t ++ [.mark (rt.bare.replayMark event.visited)])
          { rt.replaying event.visited with
            recovery := { rt.recovery with
              journalRecordsReplayed := rt.recovery.journalRecordsReplayed + 1 } }
          (rt.bare.replaying event.visited)
          (h.note g (rt.bare.replayMark event.visited)) :=
        ⟨hnoted, rfl, hon.store⟩
      have hsame : (rt.bare.replaying event.visited).config = config := hconfig
      exact ih hrest hsame hnext

/-- The configuration opens the store with these options. -/
structure RuntimeConfig.Uses (config : RuntimeConfig) (o : StoreOptions) : Prop where
  accepted : config.refusal = none
  directory : config.storeDirectory = some o.directory
  named : o.directory ≠ []
  options : config.storeOptions o.directory = o

instance (config : RuntimeConfig) (o : StoreOptions) : Decidable (config.Uses o) :=
  decidable_of_iff (config.refusal = none ∧ config.storeDirectory = some o.directory
      ∧ o.directory ≠ [] ∧ config.storeOptions o.directory = o)
    ⟨fun h => ⟨h.1, h.2.1, h.2.2.1, h.2.2.2⟩,
      fun h => ⟨h.accepted, h.directory, h.named, h.options⟩⟩

theorem RuntimeConfig.Uses.bounds (huses : config.Uses o) :
    o.maxRecordBytes = config.bounds.maxFrameBytes
      ∧ o.maxJournalBytes = config.bounds.maxJournalBytes :=
  ⟨congrArg (fun o => o.maxRecordBytes) huses.options.symm,
    congrArg (fun o => o.maxJournalBytes) huses.options.symm⟩

theorem RuntimeConfig.Uses.record_lt (huses : config.Uses o) : o.maxRecordBytes < 2 ^ 32 := by
  have hframe := RuntimeBounds.validate_frame (RuntimeConfig.bounds_ok huses.accepted)
  have hbounds := huses.bounds
  omega

theorem RuntimeConfig.Uses.usable (huses : config.Uses o) : o.usable := by
  have hok := RuntimeConfig.bounds_ok huses.accepted
  obtain ⟨hrecord, hjournal⟩ := huses.bounds
  refine ⟨huses.named, ?_, ?_⟩
  · rw [hrecord]
    exact (RuntimeBounds.validate_frame hok).1
  · rw [hjournal]
    exact (RuntimeBounds.validate_journal hok).1

theorem takeBase_config (h : Shelf γ) : (h.takeBase g config).1.config = config := rfl

/-- The snapshot and the journal, as the runtime adds them up. -/
theorem rebuild_shelved (hread : h.Readable config) (hon : OnShelf o g t rt (blankRuntime config)
    (h.note g .started)) :
    ∃ rt₁ t₁ rt₂ t₂,
      rt.takeSnapshot (h.contents.base.getD []) (clean t) = (none, rt₁, clean t₁)
      ∧ replayRecords rt₁.state.watermark h.contents.journal rt₁ (clean t₁)
        = (none, rt₂, clean t₂)
      ∧ OnShelf o g t₂ rt₂ (h.rebuild g config).1 (h.rebuild g config).2
      ∧ rt₂.closed = rt.closed := by
  obtain ⟨rt₁, t₁, hsnapshot, hon₁, hclosed₁⟩ :=
    takeSnapshot_shelved (h := h.note g .started) hread.1 hon
  have hwatermark : rt₁.state.watermark = (h.baseState config).watermark :=
    congrArg (fun q : FabricRuntime => q.state.watermark) hon₁.runtime
  obtain ⟨rt₂, t₂, hreplay, hon₂, hclosed₂⟩ :=
    replayRecords_shelved rt₁.state.watermark hread.2 (takeBase_config _) hon₁
  rw [hwatermark] at hon₂
  exact ⟨rt₁, t₁, rt₂, t₂, hsnapshot, hreplay, hon₂, hclosed₂.trans hclosed₁⟩

theorem Recovery.loaded_shelf (huses : config.Uses o) (hon : h.On o g t)
    (r : Recovery config (clean t)) :
    r.loaded.snapshot = h.contents.base.getD [] ∧ r.loaded.records = h.contents.journal := by
  obtain ⟨st, u, hopen, hidle, hoptions, -⟩ :=
    Store.open_clean huses.usable (t ++ [.mark (.started : Mark)])
  have hon₁ := (hon.note .started).idle hidle
  obtain ⟨recovery, v, hload, -⟩ := load_stored huses.record_lt hon₁.stored st hoptions
  have hdirectory := Option.some.inj (r.hdirectory.symm.trans huses.directory)
  have hopened := r.hopen
  rw [hdirectory, huses.options, note_clean, hopen] at hopened
  obtain ⟨hstore, hworld⟩ := Prod.mk.inj hopened
  have hloaded := r.hload
  rw [← Except.ok.inj hstore, ← hworld, hload] at hloaded
  rw [← Except.ok.inj (Prod.mk.inj hloaded).1]
  exact ⟨rfl, rfl⟩

/-- The runtime `open` gives back, or the files that a refused one leaves. -/
def Opened (o : StoreOptions) (g : Ghost Mark γ) (t : List (Action FileName Mark)) :
    Result FabricRuntime → Option FabricRuntime × Shelf γ → Prop
  | .ok rt, (some q, h) => OnShelf o g t rt q h
  | .error _, (none, h) => h.On o g t
  | _, _ => False

theorem contents_empty (h : Shelf γ) :
    (h.contents.base.getD [] ≠ [] ∨ h.contents.journal ≠ [])
      ↔ ¬ (h.base.isNone = true ∧ h.journal = []) := by
  cases hbase : h.base with
  | none => simp [Shelf.contents, hbase]
  | some s => simp [Shelf.contents, hbase, encodeBinary_ne_nil]

/-- The end of `open`, once the snapshot and the journal are added up. -/
theorem restart_shelved (classification : RecoveryClass) (hon : OnShelf o g t rt q h)
    (hopen : rt.closed = false) :
    ∃ rt' t', rt.restart classification (clean t)
        = (if (h.checkpoint o g q.fenced).1.ok then none else some (h.checkpoint o g q.fenced).1,
           rt', clean t')
      ∧ OnShelf o g t' rt' (h.checkpoint o g q.fenced).2.1 (h.checkpoint o g q.fenced).2.2 := by
  obtain rfl := hon.runtime
  have hfenced : OnShelf o g t (rt.restarted classification) rt.bare.fenced h :=
    ⟨hon.files, rfl, hon.store⟩
  have hopen' : (rt.restarted classification).closed = false := hopen
  obtain ⟨rt', t', hcheckpoint, hon', -⟩ := checkpointLocked_shelved hfenced hopen'
  simp only [FabricRuntime.restart, FabricRuntime.checkpoint, hopen', Bool.false_eq_true, if_false,
    hcheckpoint]
  cases (h.checkpoint o g rt.bare.fenced).1.ok with
  | false => exact ⟨rt', t', rfl, hon'⟩
  | true => exact ⟨_, t', rfl, hon'.files, hon'.runtime, hon'.store⟩

theorem open_shelved (huses : config.Uses o) (hread : h.Readable config) (hon : h.On o g t) :
    ∃ result t', FabricRuntime.open config (clean t) = (result, clean t')
      ∧ Opened o g t' result (h.open o g config) := by
  have hnoted := hon.note .started
  obtain ⟨st, u, hopen, hidle, hoptions, hclosed, -, hbytes⟩ :=
    Store.open_clean huses.usable (t ++ [.mark .started])
  have hon₁ : (h.note g .started).On o g (t ++ [.mark .started] ++ u) := hnoted.idle hidle
  obtain ⟨recovery, v, hload, hquiet⟩ := load_stored huses.record_lt hon₁.stored st hoptions
  have hon₂ : (h.note g .started).On o g (t ++ [.mark .started] ++ u ++ v) :=
    hon₁.idle (quiet_idle hquiet)
  have hbytes : st.journalBytes = h.journalBytes := by
    rw [hbytes, hnoted.stored.journal, journal_length]
    rfl
  have hheld : OnShelf o g (t ++ [.mark .started] ++ u ++ v)
      ((blankRuntime config).holding { st with recovery } recovery) (blankRuntime config)
      (h.note g .started) :=
    ⟨hon₂, rfl, _, rfl, hoptions, hclosed, hbytes⟩
  obtain ⟨rt₁, t₁, rt₂, t₂, hsnapshot, hreplay, hon₃, hopen₃⟩ := rebuild_shelved hread hheld
  have hcontents : (h.note g .started).contents = h.contents := rfl
  simp only [FabricRuntime.open, huses.accepted, huses.directory, huses.options, note_clean, hopen,
    FabricRuntime.recover, hload, hcontents, hsnapshot, hreplay, contents_empty]
  unfold Shelf.open
  by_cases hempty : h.base.isNone = true ∧ h.journal = []
  · simp only [hempty, and_self, not_true_eq_false, if_true, if_false]
    obtain ⟨base, journal, ghost⟩ := h
    obtain ⟨hbase, rfl⟩ := hempty
    obtain rfl := Option.isNone_iff_eq_none.mp hbase
    refine ⟨_, _, rfl, hon₃.files, ?_, hon₃.store⟩
    exact congrArg (fun q : FabricRuntime => { q with
      state := { q.state with fences := q.state.fences.reset q.state.epoch q.state.boot } })
      hon₃.runtime
  · obtain ⟨rt₃, t₃, hrestart, hon₄⟩ := restart_shelved recovery.classification hon₃ hopen₃
    simp only [hempty, not_false_eq_true, if_true, if_false, hrestart]
    cases hok : ((h.rebuild g config).2.checkpoint o g (h.rebuild g config).1.fenced).1.ok with
    | true =>
      simp only [if_true, Bool.not_true, Bool.false_eq_true, if_false]
      exact ⟨_, _, rfl, hon₄⟩
    | false =>
      obtain ⟨status, rt₄, t₄, hclose, hon₅⟩ := close_shelved hon₄
      simp only [Bool.false_eq_true, if_false, Bool.not_false, if_true, hclose]
      exact ⟨_, _, rfl, hon₅.files⟩

end Open

/-! ## §5. The whole system. -/

/-- The system is the desk. -/
inductive Shelved (o : StoreOptions) (g : Ghost Mark γ) : System → Desk γ → Prop where
  | idle {t : List (Action FileName Mark)} {h : Shelf γ} (hon : h.On o g t) :
      Shelved o g { trace := t } { shelf := h }
  | busy {t : List (Action FileName Mark)} {rt q : FabricRuntime} {flushing : Option Flushing}
      {h : Shelf γ} (hon : OnShelf o g t rt q h) (hopen : flushing ≠ none → rt.closed = false) :
      Shelved o g { trace := t, process := some { runtime := rt, flushing } }
        { shelf := h, process := some { runtime := q, flushing } }

theorem Shelved.process {d : Desk γ} (hs : Shelved o g s d) {q : Process}
    (hq : d.process = some q) :
    ∃ p, s.process = some p ∧ p.runtime.bare = q.runtime ∧ p.flushing = q.flushing := by
  cases hs with
  | idle => simp at hq
  | busy hon =>
    obtain rfl := Option.some.inj hq
    exact ⟨_, rfl, hon.runtime, rfl⟩

theorem Shelved.files {d : Desk γ} (hs : Shelved o g s d) : d.shelf.On o g s.trace := by
  cases hs with
  | idle hon => exact hon
  | busy hon => exact hon.files

section Calls

variable {t : List (Action FileName Mark)} {rt q : FabricRuntime} {h : Shelf γ}
  {flushing : Option Flushing}

theorem OnShelf.memory (hon : OnShelf o g t rt q h) {rt' q' : FabricRuntime}
    (hbare : rt'.bare = q') (hstore : rt'.store = rt.store) (hclosed : rt'.closed = rt.closed) :
    OnShelf o g t rt' q' h := by
  refine ⟨hon.files, hbare, ?_⟩
  rw [hstore, hclosed]
  exact hon.store

theorem stage_bare (rt : FabricRuntime) (event : FabricEvent) :
    (rt.stage event).2.bare = (rt.bare.stage event).2 ∧ (rt.stage event).2.store = rt.store
      ∧ (rt.stage event).2.closed = rt.closed := by
  have hclosed : rt.bare.closed = rt.closed := rfl
  have hdeliveries : rt.bare.deliveries = rt.deliveries := rfl
  have hpending : rt.bare.pending = rt.pending := rfl
  have hwatermark : rt.bare.state.watermark = rt.state.watermark := rfl
  have hconfig : rt.bare.config = rt.config := rfl
  unfold FabricRuntime.stage
  rw [hclosed, hdeliveries, hwatermark, hconfig, hpending]
  repeat' split
  all_goals exact ⟨rfl, rfl, rfl⟩

theorem call_shelved (c : Call) (hon : OnShelf o g t rt q h)
    (hopen : flushing ≠ none → rt.closed = false) :
    ∃ p' t', Process.call { runtime := rt, flushing } c (clean t) = (p', clean t')
      ∧ Shelved o g { trace := t', process := some p' }
          { shelf := (h.call o g { runtime := q, flushing } c).2
            process := some (h.call o g { runtime := q, flushing } c).1 } := by
  obtain rfl := hon.runtime
  cases flushing with
  | none =>
    cases c with
    | stage event =>
      obtain ⟨hbare, hstore, hclosed⟩ := stage_bare rt event
      exact ⟨_, t, rfl, .busy (hon.memory hbare hstore hclosed) (by simp)⟩
    | flushBegin upto =>
      have hclosed : rt.bare.closed = rt.closed := rfl
      have hpending : rt.bare.pending = rt.pending := rfl
      simp only [Process.call, Shelf.call, FabricRuntime.flushBegin, hclosed, hpending]
      by_cases hrt : rt.closed = true
      · simp only [if_pos hrt]
        exact ⟨_, t, rfl, .busy hon (by simp)⟩
      simp only [if_neg hrt]
      exact ⟨_, t, rfl, .busy (hon.memory rfl rfl rfl)
        (fun _ => Bool.eq_false_iff.mpr hrt)⟩
    | checkpoint =>
      have hclosed : rt.bare.closed = rt.closed := rfl
      simp only [Process.call, Shelf.call, FabricRuntime.checkpoint, hclosed]
      cases hrt : rt.closed with
      | true => exact ⟨_, t, rfl, .busy hon (by simp)⟩
      | false =>
        obtain ⟨rt', t', hcheckpoint, hon', -⟩ := checkpointLocked_shelved hon hrt
        simp only [Bool.false_eq_true, if_false, hcheckpoint]
        exact ⟨_, t', rfl, .busy hon' (by simp)⟩
    | close =>
      obtain ⟨status, rt', t', hclose, hon'⟩ := close_shelved hon
      simp only [Process.call, Shelf.call, hclose]
      exact ⟨_, t', rfl, .busy hon' (by simp)⟩
    | flushEvent => exact ⟨_, t, rfl, .busy hon hopen⟩
    | flushEnd => exact ⟨_, t, rfl, .busy hon hopen⟩
  | some flushing =>
    obtain ⟨released, report⟩ := flushing
    cases released with
    | nil =>
      cases c with
      | flushEnd => exact ⟨_, t, rfl, .busy (hon.memory rfl rfl rfl) (by simp)⟩
      | _ => exact ⟨_, t, rfl, .busy hon hopen⟩
    | cons event released =>
      cases c with
      | flushEvent =>
        obtain ⟨rt', t', hflush, hon', hopen'⟩ :=
          flushEvent_shelved hon (hopen (by simp)) report event
        simp only [Process.call, Shelf.call, hflush]
        exact ⟨_, t', rfl, .busy hon' (fun _ => hopen')⟩
      | _ => exact ⟨_, t, rfl, .busy hon hopen⟩

end Calls

/-- A process that starts uses this store and can read the shelf. -/
def Desk.Starts (o : StoreOptions) (d : Desk γ) : Op → Prop
  | .start config => config.Uses o ∧ d.shelf.Readable config
  | _ => True

theorem exec_shelved {d : Desk γ} (op : Op) (hs : Shelved o g s d) (hstarts : d.Starts o op) :
    Shelved o g (s.exec op []) (d.exec o g op) := by
  cases hs with
  | @idle t h hon =>
    cases op with
    | start config =>
      obtain ⟨huses, hread⟩ := hstarts
      obtain ⟨result, t', hopen, hopened⟩ := open_shelved huses hread hon
      have hworld : FabricRuntime.open config { trace := t, faults := [] } = (result, clean t') :=
        hopen
      simp only [System.exec, Desk.exec, hworld]
      generalize h.open o g config = opened at hopened ⊢
      obtain ⟨opened, h'⟩ := opened
      cases result with
      | ok rt =>
        cases opened with
        | some q => exact .busy hopened (by simp)
        | none => exact hopened.elim
      | error refusal =>
        cases opened with
        | some q => exact hopened.elim
        | none => exact .idle hopened
    | call c => exact .idle hon
    | exit => exact .idle hon
  | @busy t rt q flushing h hon hopen =>
    cases op with
    | start config => exact .busy hon hopen
    | call c =>
      obtain ⟨p', t', hcall, hs'⟩ := call_shelved c hon hopen
      have hworld : Process.call { runtime := rt, flushing } c { trace := t, faults := [] }
          = (p', clean t') := hcall
      simp only [System.exec, Desk.exec, hworld]
      exact hs'
    | exit =>
      cases flushing with
      | none =>
        obtain ⟨status, rt', t', hclose, hon'⟩ := close_shelved hon
        have hworld : rt.close { trace := t, faults := [] } = (status, rt', clean t') := hclose
        simp only [System.exec, Desk.exec, hworld]
        exact .idle hon'.files
      | some flushing => exact .busy hon hopen

/-! ## §6. Runs that can be computed. -/

/-- One move, where a process dies only before its call has done anything. -/
def Desk.step (o : StoreOptions) (g : Ghost Mark γ) (d : Desk γ) : Move → Desk γ
  | .run op _ => d.exec o g op
  | .crash _ _ _ => { shelf := d.shelf }

/-- A move that `Desk.step` follows. -/
def Desk.Follows (o : StoreOptions) (d : Desk γ) : Move → Prop
  | .run op faults => faults = [] ∧ d.Starts o op
  | .crash _ _ n => n = 0

instance (o : StoreOptions) (d : Desk γ) : DecidablePred (d.Follows o)
  | .run (.start _) _ => inferInstanceAs (Decidable (_ ∧ _ ∧ _))
  | .run (.call _) _ | .run .exit _ => inferInstanceAs (Decidable (_ ∧ True))
  | .crash _ _ n => inferInstanceAs (Decidable (n = 0))

/-- The desk after the moves, if it follows them all. -/
def Desk.play (o : StoreOptions) (g : Ghost Mark γ) (d : Desk γ) : List Move → Option (Desk γ)
  | [] => some d
  | m :: moves => if d.Follows o m then (d.step o g m).play o g moves else none

theorem play_shelved {d d' : Desk γ} (hplay : d.play o g moves = some d') (hs : Shelved o g s d) :
    Shelved o g (s.after moves) d' := by
  induction moves generalizing s d with
  | nil => exact Option.some.inj hplay ▸ hs
  | cons m moves ih =>
    unfold Desk.play at hplay
    split at hplay
    · next hm =>
      refine ih hplay ?_
      cases m with
      | run op faults =>
        obtain ⟨rfl, hstarts⟩ := hm
        exact exec_shelved op hs hstarts
      | crash op faults n =>
        obtain rfl : n = 0 := hm
        have hstep : s.step (.crash op faults 0) = { trace := s.trace } := by
          simp [System.step]
        rw [hstep]
        exact .idle hs.files
    · simp at hplay

/-- A configuration with a store. -/
def storedConfig : RuntimeConfig := { sampleConfig with storeDirectory := some (txt "d") }

/-- The options of its store. -/
def storedOptions : StoreOptions := storedConfig.storeOptions (txt "d")

/-- The marks of a trace. -/
def marks (t : List (Action FileName Mark)) : List Mark :=
  t.filterMap (fun
    | .mark m => some m
    | .file _ _ => none)

/-- The ghost that records them. -/
def markGhost : Ghost Mark (List Mark) where
  start := []
  step seen
    | .mark m => seen ++ [m]
    | .file _ _ => seen
  calls _ _ _ := rfl

theorem markGhost_after (t : List (Action FileName Mark)) : markGhost.after t = marks t := by
  induction t using List.reverseRecOn with
  | nil => rfl
  | append_singleton t a ih =>
    rw [markGhost.after_concat, ih, marks, marks, List.filterMap_append]
    cases a with
    | mark m => rfl
    | file op fault => exact (List.append_nil _).symm

/-- The marks and the runtime of the last process, from an empty directory on,
if the desk follows the moves. -/
def deskRun (moves : List Move) : Option (List Mark × FabricRuntime) :=
  (Desk.play storedOptions markGhost { shelf := { ghost := [] } } moves).bind (fun d =>
    d.process.map (fun q => (d.shelf.ghost, q.runtime)))

theorem desk_reaches (moves : List Move) (P : List Mark → FabricRuntime → Bool)
    (h : (deskRun moves).any (fun out => P out.1 out.2) = true) :
    ∃ p, (System.after {} moves).process = some p
      ∧ P (marks (System.after {} moves).trace) p.runtime.bare = true := by
  obtain ⟨out, hout, hP⟩ := (Option.any_eq_true _ _).mp h
  obtain ⟨d, hplay, hd⟩ := Option.bind_eq_some_iff.mp hout
  obtain ⟨q, hq, rfl⟩ := Option.map_eq_some_iff.mp hd
  have hs : Shelved storedOptions markGhost (System.after {} moves) d :=
    play_shelved hplay (.idle ⟨stored_empty storedOptions, rfl⟩)
  obtain ⟨p, hp, hbare, -⟩ := hs.process hq
  have hmarks : marks (System.after {} moves).trace = d.shelf.ghost :=
    (markGhost_after _).symm.trans hs.files.ghost
  exact ⟨p, hp, hbare ▸ hmarks ▸ hP⟩

theorem recovers_nothing (huses : config.Uses o)
    (r : Recovery config { trace := [], faults := [] }) : False := by
  have hon : ({ ghost := () } : Shelf Unit).On o
      { start := (), step := fun _ _ => (), calls := fun _ _ _ => rfl } [] :=
    ⟨stored_empty o, rfl⟩
  obtain ⟨hsnapshot, hrecords⟩ := Recovery.loaded_shelf huses hon r
  exact r.hstored.elim (fun h => h hsnapshot) (fun h => h hrecords)

/-- From a directory without a snapshot a recovery starts with a blank
state. -/
theorem desk_blank_base (moves : List Move) (huses : config.Uses storedOptions)
    (h : (Desk.play storedOptions markGhost { shelf := { ghost := [] } } moves).any
      (fun d => d.shelf.base.isNone) = true)
    (r : Recovery config { trace := (System.after {} moves).trace, faults := [] }) :
    r.base.state = initialState config := by
  obtain ⟨d, hplay, hnone⟩ := (Option.any_eq_true _ _).mp h
  have hs : Shelved storedOptions markGhost (System.after {} moves) d :=
    play_shelved hplay (.idle ⟨stored_empty storedOptions, rfl⟩)
  obtain ⟨hsnapshot, -⟩ := Recovery.loaded_shelf huses hs.files r
  rw [Shelf.contents, Option.isNone_iff_eq_none.mp hnone] at hsnapshot
  exact (r.hbase.resolve_right fun hbase => hbase.1 hsnapshot).2

/-- A service is declared and deployed. -/
def deployment (config : RuntimeConfig) (scope : Option String) : List Move :=
  .run (.start config) []
    :: (submitMoves (sampleEvent 1 (sampleTopology ["d"]))
      ++ submitMoves (sampleEvent 2 samplePolicy)
      ++ submitMoves (sampleEvent 3 (sampleService "a" scope))
      ++ submitMoves (sampleEvent 4 (sampleGroup "g" ["a"]))
      ++ submitMoves (sampleEvent 5 (sampleIntent .deploy "g" 1 ["a"])))

/-- The process dies between two calls. -/
def dies : Move := .crash .exit [] 0

/-- **The runtime over its files is the desk**, in every run without faults in
which processes die between calls only. -/
theorem run_refines_desk (o : StoreOptions) (g : Ghost Mark γ) {d : Desk γ}
    (hplay : Desk.play o g { shelf := { ghost := g.start } } moves = some d) :
    Shelved o g (System.after {} moves) d :=
  play_shelved hplay (.idle ⟨stored_empty o, rfl⟩)

theorem deployment_refines_desk : ∃ d, Shelved storedOptions markGhost
    (System.after {} (deployment storedConfig none ++ [dies])) d := by
  have hplays : (Desk.play storedOptions markGhost { shelf := { ghost := [] } }
      (deployment storedConfig none ++ [dies])).isSome = true := by decide +kernel
  exact ⟨_, run_refines_desk _ _ (Option.eq_some_of_isSome hplays)⟩

theorem dies_none (s : System) (moves : List Move) :
    (s.after (moves ++ [dies])).process = none := by
  simp only [System.after, runMoves_append]
  rfl

/-- A call of a running process. -/
def Move.isCall : Move → Bool
  | .run (.call _) _ => true
  | _ => false

/-- A condition that only a start can break holds of a run that starts once. -/
theorem meets_calls {ok : System → Move → Prop}
    (hcons : moves = .run (.start config) [] :: moves.tail)
    (hcalls : ∀ m ∈ moves.tail, m.isCall = true) (hfirst : ok {} (.run (.start config) []))
    (hcall : ∀ s c faults, ok s (.run (.call c) faults)) : Meets System.step ok {} moves := by
  generalize moves.tail = calls at hcons hcalls
  rw [hcons]
  refine ⟨hfirst, meets_each fun m hm s => ?_⟩
  have hm' := hcalls m hm
  unfold Move.isCall at hm'
  split at hm'
  · exact hcall s _ _
  · simp at hm'

theorem meets_reopened {ok : System → Move → Prop}
    (hmoves : Meets System.step ok {} moves) (hdies : ∀ s, ok s dies)
    (hstart : ok (System.after {} (moves ++ [dies])) (.run (.start config) [])) :
    Meets System.step ok {} (moves ++ [dies] ++ [.run (.start config) []]) :=
  meets_append.mpr ⟨meets_append.mpr ⟨hmoves, hdies _, trivial⟩, hstart, trivial⟩

theorem desk_reopens (moves : List Move) (config : RuntimeConfig)
    (P : List Mark → FabricRuntime → Bool)
    (h : (deskRun (moves ++ [dies] ++ [.run (.start config) []])).any
      (fun out => P out.1 out.2) = true) :
    ∃ rt w, FabricRuntime.open config
        { trace := (System.after {} (moves ++ [dies])).trace, faults := [] } = (.ok rt, w)
      ∧ P (marks w.trace) rt.bare = true := by
  obtain ⟨p, hp, hP⟩ := desk_reaches _ P h
  have hnone := dies_none {} moves
  rw [System.after, runMoves_append] at hp hP
  simp only [System.after] at hnone ⊢
  simp only [runMoves_cons, runMoves_nil, System.step, System.exec, hnone] at hp hP
  split at hp
  · next rt w hopen =>
    obtain rfl := Option.some.inj hp
    simp only [hopen] at hP
    exact ⟨rt, w, hopen, hP⟩
  · simp at hp

end DpuFabric
