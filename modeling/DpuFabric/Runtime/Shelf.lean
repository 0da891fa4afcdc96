/-
  Runtime.Shelf — A STORE WITHOUT FILES.

  What a store is for: it holds the state of the last snapshot and the events
  journaled since.  A `Shelf` holds just that, as values, and the operations
  of a runtime on it are the operations of the source with the file system
  left out: no bytes, no digests, no handles.  Where no call fails, the
  runtime on its files does what the runtime on the shelf does
  (`Runtime.Shelved`).

  A ghost of the trace is carried along, so that what the runtime did in its
  earlier lifetimes can be spoken about.
-/
import DpuFabric.Persist.Directory
import DpuFabric.Runtime.System

namespace DpuFabric

open Lib

/-! ## §1. Shelves. -/

/-- The size of the record of a payload. -/
def recordBytes (payload : List UInt8) : Nat :=
  frameHeaderBytes + payload.length + frameDigestBytes

def eventBytes (event : FabricEvent) : Nat := recordBytes (encodeBinary FabricEvent.visit event)

def stateBytes (s : RuntimeState) : Nat := recordBytes (encodeBinary RuntimeState.visit s)

/-- What a store holds: the state of its snapshot, and the events since. -/
structure Shelf (γ : Type) where
  base : Option RuntimeState := none
  journal : List FabricEvent := []
  ghost : γ

variable {γ : Type}

/-- The payloads of the two files. -/
def Shelf.contents (h : Shelf γ) : Contents :=
  { base := h.base.map (encodeBinary RuntimeState.visit)
    journal := h.journal.map (encodeBinary FabricEvent.visit) }

/-- The bytes of the journal. -/
def Shelf.journalBytes (h : Shelf γ) : Nat := (h.journal.map eventBytes).sum

section Operations

variable (o : StoreOptions) (g : Ghost Mark γ)

/-- A mark. -/
def Shelf.note (h : Shelf γ) (m : Mark) : Shelf γ := { h with ghost := g.step h.ghost (.mark m) }

/-- The shelf once the snapshot is replaced. -/
def Shelf.install (h : Shelf γ) (s : RuntimeState) : Shelf γ :=
  { h with base := some s, ghost := g.installed h.ghost }

/-- `append_event`. -/
def Shelf.append (h : Shelf γ) (event : FabricEvent) : Status × Shelf γ :=
  if o.maxRecordBytes < eventBytes event then
    (refuse .storeRecordOversized (txt "event record exceeds bound"), h)
  else if o.maxJournalBytes < h.journalBytes + eventBytes event then
    (refuse .boundExceeded (txt "journal bound reached; rotation required"), h)
  else (.success, { h with journal := h.journal ++ [event] })

/-- `rotate`, with the state it is called with noted before. -/
def Shelf.rotate (h : Shelf γ) (s : RuntimeState) : Status × Shelf γ :=
  if o.maxRecordBytes < stateBytes s then
    (refuse .storeRecordOversized (txt "snapshot exceeds bound"), h.note g (.copied s))
  else (.success, { (h.note g (.copied s)).install g s with journal := [] })

/-! ## §2. The runtime on a shelf. -/

/-- The runtime without its store, its digests and its account of the
recovery. -/
def FabricRuntime.bare (rt : FabricRuntime) : FabricRuntime :=
  { config := rt.config, state := rt.state, pending := rt.pending, deliveries := rt.deliveries,
    closed := rt.closed }

/-- `checkpoint_locked`. -/
def Shelf.checkpoint (h : Shelf γ) (rt : FabricRuntime) : Status × FabricRuntime × Shelf γ :=
  match h.rotate o g rt.state with
  | (rotated, h) =>
    if !rotated.ok then (rotated, rt, h)
    else (.success, { rt with state := { rt.state with journaledEvents := 0 } }, h)

/-- The end of the append of a turn. -/
def Shelf.finishAppend (event : FabricEvent) (rt : FabricRuntime) :
    Status × Shelf γ → Option Status × FabricRuntime × Shelf γ
  | (appended, h) =>
    if !appended.ok then (some appended, rt, h)
    else (none, rt.counted, h.note g (.journaled event))

/-- The write-ahead append of a turn. -/
def Shelf.journaling (h : Shelf γ) (rt : FabricRuntime) (event : FabricEvent) :
    Option Status × FabricRuntime × Shelf γ :=
  if (h.append o event).1.code = .boundExceeded then
    match h.checkpoint o g rt with
    | (rotated, rt, h) =>
      if !rotated.ok then (some rotated, rt, h)
      else Shelf.finishAppend g event rt (h.append o event)
  else Shelf.finishAppend g event rt (h.append o event)

/-- One turn of the loop of `flush`. -/
def Shelf.flushEvent (h : Shelf γ) (rt : FabricRuntime) (report : BatchReport)
    (event : FabricEvent) : FabricRuntime × BatchReport × Shelf γ :=
  match findDelivery rt.deliveries event with
  | some seen => (rt, report.count (duplicateOutcome event seen), h)
  | none =>
    match h.journaling o g rt event with
    | (some refusal, rt, h) => (rt, report.refusedBy event refusal, h)
    | (none, rt, h) =>
      let rt := rt.delivered event
      let applied := (applyEvent rt.state event rt.config.bounds rt.config.weights).1
      ({ rt with state := advanceState rt.state event rt.config.bounds rt.config.weights },
       report.count { id := event.id, code := applied.code, applied := applied.applied,
                      detail := applied.detail },
       h.note g (.applied event applied))

/-- `close`. -/
def Shelf.close (h : Shelf γ) (rt : FabricRuntime) : FabricRuntime × Shelf γ :=
  if rt.closed then (rt, h)
  else
    let (_, rt, h) := h.checkpoint o g rt
    ({ rt with closed := true, pending := [] }, h)

/-! ## §3. Opening. -/

/-- The archive gives the event back. -/
def FabricEvent.Readable (limit : Nat) (event : FabricEvent) : Prop :=
  FabricEvent.visit.fits limit event = true

/-- The archive gives the state back, and it is the store's. -/
def RuntimeState.Readable (config : RuntimeConfig) (s : RuntimeState) : Prop :=
  RuntimeState.visit.fits config.decodeLimit s = true ∧ s.storeId = config.storeId

/-- What is on the shelf can be read. -/
def Shelf.Readable (config : RuntimeConfig) (h : Shelf γ) : Prop :=
  (∀ s ∈ h.base, s.Readable config) ∧ ∀ e ∈ h.journal, e.Readable config.decodeLimit

instance (limit : Nat) (event : FabricEvent) : Decidable (event.Readable limit) :=
  inferInstanceAs (Decidable (_ = true))

instance (config : RuntimeConfig) (s : RuntimeState) : Decidable (s.Readable config) :=
  inferInstanceAs (Decidable (_ ∧ _))

instance (config : RuntimeConfig) (h : Shelf γ) : Decidable (h.Readable config) :=
  inferInstanceAs (Decidable (_ ∧ _))

/-- The base that a recovery starts from. -/
def Shelf.baseState (config : RuntimeConfig) (h : Shelf γ) : RuntimeState :=
  (h.base.map RuntimeState.restored).getD (initialState config)

/-- The runtime that takes the base over, and the shelf. -/
def Shelf.takeBase (config : RuntimeConfig) (h : Shelf γ) : FabricRuntime × Shelf γ :=
  ({ blankRuntime config with state := h.baseState config },
   if h.base.isSome then h.note g .restored else h)

/-- The replay loop. -/
def Shelf.replay (watermark : LogicalInstant) :
    List FabricEvent → FabricRuntime → Shelf γ → FabricRuntime × Shelf γ
  | [], rt, h => (rt, h)
  | event :: rest, rt, h =>
    if event.instant ≤ watermark then replay watermark rest rt h
    else
      match findDelivery rt.deliveries event.visited with
      | some _ => replay watermark rest rt h
      | none =>
        let rt := rt.delivered event.visited
        replay watermark rest
          { rt with
            state := replayState rt.state event.visited rt.config.bounds rt.config.weights }
          (h.note g (.replayed event.visited
            (applyEvent rt.state event.visited rt.config.bounds rt.config.weights).1))

/-- The runtime that the snapshot and the journal add up to, and the shelf. -/
def Shelf.rebuild (config : RuntimeConfig) (h : Shelf γ) : FabricRuntime × Shelf γ :=
  Shelf.replay g (h.baseState config).watermark h.journal ((h.note g .started).takeBase g config).1
    ((h.note g .started).takeBase g config).2

/-- The rebuilt runtime, fenced. -/
def FabricRuntime.fenced (rt : FabricRuntime) : FabricRuntime :=
  { rt with state := restartState rt.config rt.state }

/-- `open` on a shelf that can be read. -/
def Shelf.open (config : RuntimeConfig) (h : Shelf γ) : Option FabricRuntime × Shelf γ :=
  if h.base.isNone ∧ h.journal = [] then (some (blankRuntime config), h.note g .started)
  else
    match (h.rebuild g config).2.checkpoint o g (h.rebuild g config).1.fenced with
    | (checkpointed, rt, h) =>
      if !checkpointed.ok then (none, (h.close o g rt).2) else (some rt, h)

end Operations

/-! ## §4. A desk: the shelf and the process that works on it. -/

/-- The shelf and the present process, its runtime bare. -/
structure Desk (γ : Type) where
  shelf : Shelf γ
  process : Option Process := none

section Desk

variable (o : StoreOptions) (g : Ghost Mark γ)

/-- One call of the process. -/
def Shelf.call (h : Shelf γ) (p : Process) (c : Call) : Process × Shelf γ :=
  match p.flushing, c with
  | none, .stage event => ({ p with runtime := (p.runtime.stage event).2 }, h)
  | none, .flushBegin upto =>
    match p.runtime.flushBegin upto with
    | .error _ => (p, h)
    | .ok (released, runtime) => ({ runtime, flushing := some { released, report := { upto } } }, h)
  | none, .checkpoint =>
    if p.runtime.closed then (p, h)
    else
      let (_, runtime, h) := h.checkpoint o g p.runtime
      ({ p with runtime }, h)
  | none, .close =>
    let (runtime, h) := h.close o g p.runtime
    ({ p with runtime }, h)
  | some { released := event :: released, report }, .flushEvent =>
    let (runtime, report, h) := h.flushEvent o g p.runtime report event
    ({ runtime, flushing := some { released, report } }, h)
  | some { released := [], report }, .flushEnd =>
    ({ runtime := (p.runtime.flushEnd report).2.bare }, h)
  | _, _ => (p, h)

/-- One operation. -/
def Desk.exec (d : Desk γ) (op : Op) : Desk γ :=
  match d.process, op with
  | none, .start config =>
    match d.shelf.open o g config with
    | (some runtime, shelf) => { shelf, process := some { runtime } }
    | (none, shelf) => { shelf }
  | some p, .call c =>
    let (p, shelf) := d.shelf.call o g p c
    { shelf, process := some p }
  | some { runtime, flushing := none }, .exit => { shelf := (d.shelf.close o g runtime).2 }
  | _, _ => d

end Desk

end DpuFabric
