/-
  Runtime.Recovered — THE RULE FOR `open`.

  A runtime comes out of `open` blank, or by the chain
  restored snapshot → replayed records → `restartState` → checkpoint.  A
  property of the state of an open runtime is shown link by link, whatever
  the files hold and whatever fails.
-/
import DpuFabric.Runtime.Core

namespace DpuFabric

open Lib

variable {w w' : RuntimeWorld} {config : RuntimeConfig} {rt : FabricRuntime}

/-! ## §1. The links, one by one. -/

section Rule

variable {P : RuntimeState → Prop} {config : RuntimeConfig}

theorem replayEvent_config (rt : FabricRuntime) (event : FabricEvent) (w : RuntimeWorld) :
    (rt.replayEvent event w).1.config = rt.config := by
  unfold FabricRuntime.replayEvent
  split <;> rfl

theorem replayEvent_rule {event : FabricEvent} (hreplay : ∀ s l, P s →
      P (replayState (s.recounted l s.journaledEvents) event config.bounds config.weights))
    (hconfig : rt.config = config) (h : P rt.state) : P (rt.replayEvent event w).1.state := by
  unfold FabricRuntime.replayEvent
  split
  · exact h
  · subst hconfig
    exact hreplay rt.state _ h

/-- What the replayed events keep, the replay keeps; it passes over the
events up to the watermark. -/
theorem replayRecords_rule {E : FabricEvent → Prop} (hreplay : ∀ s event l, E event → P s →
      P (replayState (s.recounted l s.journaledEvents) event config.bounds config.weights))
    (watermark : LogicalInstant) (records : List (List UInt8))
    (w : RuntimeWorld) (hconfig : rt.config = config) (hrecords : ∀ r ∈ records, ∀ event,
      decodeBinary FabricEvent.visit config.decodeLimit r = .ok event →
      watermark < event.instant → E event) (h : P rt.state) :
    (replayRecords watermark records rt w).2.1.config = config
      ∧ P (replayRecords watermark records rt w).2.1.state := by
  induction records generalizing rt w with
  | nil => exact ⟨hconfig, h⟩
  | cons record rest ih =>
    have hrest : ∀ r ∈ rest, ∀ event,
        decodeBinary FabricEvent.visit config.decodeLimit r = .ok event →
        watermark < event.instant → E event :=
      fun r hr => hrecords r (List.mem_cons_of_mem _ hr)
    unfold replayRecords
    split
    · exact ⟨hconfig, h⟩
    next event hdecode =>
    rw [hconfig] at hdecode
    split
    · exact ih w hconfig hrest h
    next habove =>
    have hevent := hrecords record List.mem_cons_self event hdecode (not_le.mp habove)
    exact ih _ ((replayEvent_config rt event w).trans hconfig) hrest
      (replayEvent_rule (fun s l => hreplay s event l hevent) hconfig h)

theorem checkpoint_config (rt : FabricRuntime) (w : RuntimeWorld) :
    (rt.checkpoint w).2.1.config = rt.config := by
  unfold FabricRuntime.checkpoint
  split
  · rfl
  · exact checkpointLocked_config rt w

/-- The end of `open` changes the state once, up to a counter. -/
theorem restart_state (rt : FabricRuntime) (classification : RecoveryClass) (w : RuntimeWorld) :
    ∃ n, (rt.restart classification w).2.1.state
        = (restartState rt.config rt.state).recounted
            (restartState rt.config rt.state).truncations n
      ∧ (rt.restart classification w).2.1.config = rt.config := by
  obtain ⟨n, hn⟩ := checkpoint_state (rt.restarted classification) w
  have hconfig := checkpoint_config (rt.restarted classification) w
  simp only [FabricRuntime.restart]
  split
  all_goals exact ⟨n, hn, hconfig⟩

end Rule

/-! ## §2. The links of a recovery. -/

theorem takeSnapshot_inv {rt' : FabricRuntime} {payload : List UInt8}
    (h : rt.takeSnapshot payload w = (none, rt', w')) :
    rt'.config = rt.config
      ∧ ((payload = [] ∧ rt' = rt)
        ∨ (payload ≠ [] ∧ restoreSnapshot rt.config payload = .ok rt'.state)) := by
  unfold FabricRuntime.takeSnapshot at h
  split at h
  · next hempty =>
    cases h
    exact ⟨rfl, .inl ⟨hempty, rfl⟩⟩
  · next hne =>
    split at h
    · simp at h
    next state hrestored =>
    cases h
    exact ⟨rfl, .inr ⟨hne, hrestored⟩⟩

/-- What a successful `open` went through, from a store that held something:
the files are read, the base is taken over or blank, the records are
replayed. -/
structure Recovery (config : RuntimeConfig) (w : RuntimeWorld) where
  directory : Text
  store : Store
  opened : RuntimeWorld
  loaded : Loaded
  store' : Store
  read : RuntimeWorld
  base : FabricRuntime
  based : RuntimeWorld
  replayed : FabricRuntime
  done : RuntimeWorld
  hdirectory : config.storeDirectory = some directory
  hopen : Store.open (config.storeOptions directory) (w.note .started) = (.ok store, opened)
  hload : store.load opened = (.ok loaded, store', read)
  htake : ((blankRuntime config).holding store' loaded.recovery).takeSnapshot loaded.snapshot read
    = (none, base, based)
  hreplay : replayRecords base.state.watermark loaded.records base based = (none, replayed, done)
  hstored : loaded.snapshot ≠ [] ∨ loaded.records ≠ []

/-- What the replay of an event keeps, the replay loop keeps. -/
theorem replayRecords_walk {J : FabricRuntime → RuntimeWorld → Prop}
    (hreplay : ∀ {rt w} event, J rt w → J (rt.replayEvent event w).1 (rt.replayEvent event w).2)
    (hrecovery : ∀ {rt w} recovery, J rt w → J { rt with recovery } w)
    (watermark : LogicalInstant) (records : List (List UInt8)) (h : J rt w) :
    J (replayRecords watermark records rt w).2.1 (replayRecords watermark records rt w).2.2 := by
  induction records generalizing rt w with
  | nil => exact h
  | cons record rest ih =>
    unfold replayRecords
    split
    · exact h
    next event _ =>
    split
    · exact ih h
    · exact ih (hrecovery _ (hreplay event h))

theorem replayRecords_store (watermark : LogicalInstant) (records : List (List UInt8))
    (rt : FabricRuntime) (w : RuntimeWorld) :
    (replayRecords watermark records rt w).2.1.store = rt.store
      ∧ (replayRecords watermark records rt w).2.1.closed = rt.closed := by
  refine replayRecords_walk (J := fun rt' _ => rt'.store = rt.store ∧ rt'.closed = rt.closed)
    (fun {rt' w'} event h => ?_) (fun _ h => h) watermark records ⟨rfl, rfl⟩
  unfold FabricRuntime.replayEvent
  split
  all_goals exact h

/-- The state of the runtime that comes out. -/
def Recovery.Gives {config : RuntimeConfig} {w : RuntimeWorld} (r : Recovery config w)
    (s : RuntimeState) : Prop :=
  ∃ n, s = (restartState config r.replayed.state).recounted
    (restartState config r.replayed.state).truncations n

theorem Recovery.unique (r r' : Recovery config w) : r = r' := by
  obtain ⟨directory, store, opened, loaded, store₁, read, base, based, replayed, done, hdirectory,
    hopen, hload, htake, hreplay, hstored⟩ := r
  obtain ⟨directory', store', opened', loaded', store₁', read', base', based', replayed', done',
    hdirectory', hopen', hload', htake', hreplay', hstored'⟩ := r'
  obtain rfl := Option.some.inj (hdirectory.symm.trans hdirectory')
  obtain ⟨hstore, rfl⟩ := Prod.mk.inj (hopen.symm.trans hopen')
  obtain rfl := Except.ok.inj hstore
  obtain ⟨hloaded, hrest⟩ := Prod.mk.inj (hload.symm.trans hload')
  obtain rfl := Except.ok.inj hloaded
  obtain ⟨rfl, rfl⟩ := Prod.mk.inj hrest
  obtain ⟨-, hbase⟩ := Prod.mk.inj (htake.symm.trans htake')
  obtain ⟨rfl, rfl⟩ := Prod.mk.inj hbase
  obtain ⟨-, hreplayed⟩ := Prod.mk.inj (hreplay.symm.trans hreplay')
  obtain ⟨rfl, rfl⟩ := Prod.mk.inj hreplayed
  rfl

/-- `open` has no store, or finds nothing in it. -/
def FindsNothing (config : RuntimeConfig) (w : RuntimeWorld) : Prop :=
  ∀ directory, config.storeDirectory = some directory → ∃ store opened loaded store' read,
    Store.open (config.storeOptions directory) (w.note .started) = (.ok store, opened)
      ∧ store.load opened = (.ok loaded, store', read)
      ∧ loaded.snapshot = [] ∧ loaded.records = []

theorem Recovery.hconfig (r : Recovery config w) :
    r.base.config = config := (takeSnapshot_inv r.htake).1

theorem Recovery.hbase (r : Recovery config w) :
    (r.loaded.snapshot = [] ∧ r.base.state = initialState config)
      ∨ (r.loaded.snapshot ≠ [] ∧ restoreSnapshot config r.loaded.snapshot = .ok r.base.state) :=
  (takeSnapshot_inv r.htake).2.imp (fun hb => ⟨hb.1, by rw [hb.2]; rfl⟩) id

theorem Recovery.replayed_config (r : Recovery config w) : r.replayed.config = config := by
  have hrule := (replayRecords_rule (P := fun _ => True) (E := fun _ => True)
    (fun _ _ _ _ _ => trivial) r.base.state.watermark r.loaded.records r.based r.hconfig
    (fun _ _ _ _ _ => trivial) trivial).1
  rw [r.hreplay] at hrule
  exact hrule

/-- **What `open` returns**: a blank runtime, or a recovered one. -/
theorem open_inv (h : FabricRuntime.open config w = (.ok rt, w')) :
    rt.config = config
      ∧ ((rt.state = initialState config ∧ FindsNothing config w)
        ∨ ∃ r : Recovery config w, r.Gives rt.state) := by
  unfold FabricRuntime.open at h
  split at h
  · simp at h
  simp only at h
  split at h
  · next hnone =>
    obtain rfl := Except.ok.inj (Prod.mk.inj h).1
    exact ⟨rfl, .inl ⟨rfl, fun _ hsome => absurd (hnone.symm.trans hsome) (by simp)⟩⟩
  · next directory hdirectory =>
    split at h
    · simp at h
    next st w₁ hopen =>
    split at h
    · next rt' w₂ hrecover =>
      obtain rfl := Except.ok.inj (Prod.mk.inj h).1
      unfold FabricRuntime.recover at hrecover
      split at hrecover
      · simp at hrecover
      next loaded st' w₃ hload =>
      split at hrecover
      · simp at hrecover
      next rt₁ w₄ htake =>
      split at hrecover
      · simp at hrecover
      next rt₂ w₅ hreplay =>
      split at hrecover
      · -- something was stored
        next hstored =>
        let r : Recovery config w :=
          ⟨directory, st, w₁, loaded, st', w₃, rt₁, w₄, rt₂, w₅, hdirectory,
            hopen, hload, htake, hreplay, hstored⟩
        obtain ⟨n, hstate, hconfig'⟩ :=
          restart_state rt₂ loaded.recovery.classification w₅
        rw [hrecover] at hstate hconfig'
        rw [r.replayed_config] at hstate hconfig'
        exact ⟨hconfig', .inr ⟨r, n, hstate⟩⟩
      · -- nothing was stored
        next hnothing =>
        rw [not_or, not_not, not_not] at hnothing
        obtain ⟨-, rfl⟩ := (takeSnapshot_inv htake).2.resolve_right
          (fun hb => hb.1 hnothing.1)
        rw [hnothing.2] at hreplay
        cases hreplay
        cases hrecover
        refine ⟨rfl, .inl ⟨rfl, fun other hother => ?_⟩⟩
        obtain rfl := Option.some.inj (hdirectory.symm.trans hother)
        exact ⟨st, w₁, loaded, st', w₃, hopen, hload, hnothing⟩
    · simp at h

theorem Recovery.finds (r : Recovery config w) : ¬ FindsNothing config w := by
  intro hnothing
  obtain ⟨store, opened, loaded, store', read, hopen, hload, hsnapshot, hrecords⟩ :=
    hnothing r.directory r.hdirectory
  obtain ⟨hstore, hopened⟩ := Prod.mk.inj (hopen.symm.trans r.hopen)
  obtain rfl := Except.ok.inj hstore
  subst hopened
  obtain ⟨hloaded, -⟩ := Prod.mk.inj (hload.symm.trans r.hload)
  obtain rfl := Except.ok.inj hloaded
  exact absurd r.hstored (by simp [hsnapshot, hrecords])

theorem Recovery.gives (r : Recovery config w) (h : FabricRuntime.open config w = (.ok rt, w')) :
    r.Gives rt.state := by
  obtain ⟨-, ⟨-, hnothing⟩ | ⟨r', hgives⟩⟩ := open_inv h
  · exact absurd hnothing r.finds
  · exact r.unique r' ▸ hgives

/-! ## §3. Walking through `open`. -/

/-- What every step of `open` keeps: `J₀` up to the snapshot, `J` from there
on. -/
structure Walk (J₀ J : FabricRuntime → RuntimeWorld → Prop) : Prop where
  opened : ∀ {rt w} o, J₀ rt w → J₀ rt (Store.open o w).2
  loaded : ∀ {rt w} (st : Store), J₀ rt w → J₀ rt (st.load w).2.2
  held : ∀ {rt w} (st : Store) recovery, st.closed = false → J₀ rt w →
    J₀ { rt with store := some st, recovery } w
  based : ∀ {rt w}, J₀ rt w → J rt w
  restored : ∀ {rt w} state recovery, J₀ rt w → J { rt with state, recovery } (w.note .restored)
  replayed : ∀ {rt w} event, J rt w → J (rt.replayEvent event w).1 (rt.replayEvent event w).2
  recovery : ∀ {rt w} recovery, J rt w → J { rt with recovery } w
  restarted : ∀ {rt w} classification, J rt w →
    J (rt.restart classification w).2.1 (rt.restart classification w).2.2
  fresh : ∀ {rt w}, J rt w → J rt.startFresh w

theorem load_closed {μ : Type} (st : Store) (w : World FileName μ) :
    (st.load w).2.1.closed = st.closed := by
  unfold Store.load
  repeat' split
  all_goals rfl

theorem storeOpen_closed {μ : Type} {st : Store} {o : StoreOptions} {w w' : World FileName μ}
    (h : Store.open o w = (.ok st, w')) : st.closed = false := by
  unfold Store.open at h
  repeat' split at h
  all_goals simp only [Prod.mk.injEq, reduceCtorEq, false_and, Except.ok.injEq] at h
  rw [← h.1]

section Walk

variable {J₀ J : FabricRuntime → RuntimeWorld → Prop} (hwalk : Walk J₀ J)
include hwalk

theorem Walk.recover {st : Store} (hst : st.closed = false) (h : J₀ rt w) :
    J (rt.recover st w).2.1 (rt.recover st w).2.2 := by
  have hclosed := load_closed st w
  have hload := hwalk.loaded st h
  unfold FabricRuntime.recover
  split
  · next h₁ =>
    rw [h₁] at hclosed hload
    exact hwalk.based (hwalk.held _ _ (hclosed.trans hst) hload)
  · next loaded st' w₁ h₁ =>
    rw [h₁] at hclosed hload
    have hheld : J₀ (rt.holding st' loaded.recovery) w₁ :=
      hwalk.held _ _ (hclosed.trans hst) hload
    have htake : J ((rt.holding st' loaded.recovery).takeSnapshot loaded.snapshot w₁).2.1
        ((rt.holding st' loaded.recovery).takeSnapshot loaded.snapshot w₁).2.2 := by
      unfold FabricRuntime.takeSnapshot
      split
      · exact hwalk.based hheld
      split
      · exact hwalk.based hheld
      · exact hwalk.restored _ _ hheld
    split
    · next h₂ => rw [h₂] at htake; exact htake
    next rt₁ w₂ h₂ =>
    rw [h₂] at htake
    have hreplay := replayRecords_walk hwalk.replayed hwalk.recovery rt₁.state.watermark
      loaded.records htake
    split
    · next h₃ => rw [h₃] at hreplay; exact hreplay
    next h₃ =>
    rw [h₃] at hreplay
    split
    · exact hwalk.restarted _ hreplay
    · exact hwalk.fresh hreplay

/-- **What every step of `open` keeps, `open` keeps**; a refused one may have
closed the runtime that is given up. -/
theorem Walk.open (config : RuntimeConfig) (h : J₀ (blankRuntime config) (w.note .started)) :
    (∀ rt w', FabricRuntime.open config w = (.ok rt, w') → J rt w')
      ∧ ∀ refusal w', FabricRuntime.open config w = (.error refusal, w') →
        w' = w ∨ ∃ rt w₁, J rt w₁ ∧ (w' = w₁ ∨ w' = (rt.close w₁).2.2) := by
  unfold FabricRuntime.open
  split
  · simp
  simp only
  split
  · simp only [Prod.mk.injEq, Except.ok.injEq, reduceCtorEq, false_and, false_implies,
      implies_true, and_true]
    rintro rt w' ⟨rfl, rfl⟩
    exact hwalk.fresh (hwalk.based h)
  · next directory _ =>
    have hopen := hwalk.opened (config.storeOptions directory) h
    split
    · next h₁ =>
      rw [h₁] at hopen
      simp only [Prod.mk.injEq, reduceCtorEq, false_and, false_implies, implies_true, true_and]
      rintro refusal w' ⟨-, rfl⟩
      exact .inr ⟨_, _, hwalk.based hopen, .inl rfl⟩
    · next st w₁ h₁ =>
      rw [h₁] at hopen
      have hrecover := hwalk.recover (storeOpen_closed h₁) hopen
      split
      · next h₂ =>
        rw [h₂] at hrecover
        simp only [Prod.mk.injEq, Except.ok.injEq, reduceCtorEq, false_and, false_implies,
          implies_true, and_true]
        rintro rt w' ⟨rfl, rfl⟩
        exact hrecover
      · next h₂ =>
        rw [h₂] at hrecover
        simp only [Prod.mk.injEq, reduceCtorEq, false_and, false_implies, implies_true, true_and]
        rintro refusal w' ⟨-, rfl⟩
        exact .inr ⟨_, _, hrecover, .inr rfl⟩

end Walk

/-- **The rule for the state of every open runtime.** -/
theorem open_rule {P Q : RuntimeState → Prop}
    (hblank : P (initialState config)) (hfresh : Q (initialState config))
    (hrestore : ∀ payload s, restoreSnapshot config payload = .ok s → P s)
    (hreplay : ∀ s event l, P s →
      P (replayState (s.recounted l s.journaledEvents) event config.bounds config.weights))
    (hrestart : ∀ s n, P s → Q ((restartState config s).recounted
      (restartState config s).truncations n)) (h : FabricRuntime.open config w = (.ok rt, w')) : rt.config = config ∧ Q rt.state := by
  obtain ⟨hconfig, ⟨hstate, -⟩ | ⟨r, n, hstate⟩⟩ := open_inv h
  · exact ⟨hconfig, hstate ▸ hfresh⟩
  refine ⟨hconfig, hstate ▸ hrestart _ n ?_⟩
  have hbase : P r.base.state := by
    rcases r.hbase with ⟨-, hb⟩ | ⟨-, hb⟩
    · exact hb ▸ hblank
    · exact hrestore _ _ hb
  have hreplayed := (replayRecords_rule (E := fun _ => True)
    (fun s event l _ => hreplay s event l) r.base.state.watermark r.loaded.records r.based
    r.hconfig (fun _ _ _ _ _ => trivial) hbase).2
  rw [r.hreplay] at hreplayed
  exact hreplayed

end DpuFabric
