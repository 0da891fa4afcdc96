/-
  Runtime.System — ONE STORE DIRECTORY AND THE PROCESSES THAT LIVE ON IT, ONE AFTER ANOTHER.

  The runtime's mutex makes its calls atomic, so any interleaving of callers
  is a sequence of calls; `flush` holds the mutex from `flushBegin` to
  `flushEnd`, and a call that would have to wait for it is not a move.  A
  process ends by `exit` (the destructor runs) or by a crash, which keeps any
  prefix of what the interrupted call did to the files and nothing of the
  memory.
-/
import DpuFabric.Lib.Runs
import DpuFabric.Runtime.Open

namespace DpuFabric

open Lib

/-! ## §1. Processes and calls. -/

/-- A flush that holds the mutex. -/
structure Flushing where
  released : List FabricEvent
  report : BatchReport
  deriving DecidableEq, Repr

/-- A process with an open runtime. -/
structure Process where
  runtime : FabricRuntime
  flushing : Option Flushing := none
  deriving DecidableEq, Repr

/-- The calls of a running process; `flush` is cut into its turns. -/
inductive Call where
  | stage (event : FabricEvent)
  | flushBegin (upto : LogicalInstant)
  | flushEvent
  | flushEnd
  | checkpoint
  | close
  deriving DecidableEq, Repr

/-- One call. -/
def Process.call (p : Process) (c : Call) (w : RuntimeWorld) : Process × RuntimeWorld :=
  match p.flushing, c with
  | none, .stage event => ({ p with runtime := (p.runtime.stage event).2 }, w)
  | none, .flushBegin upto =>
    match p.runtime.flushBegin upto with
    | .error _ => (p, w)
    | .ok (released, runtime) => ({ runtime, flushing := some { released, report := { upto } } }, w)
  | none, .checkpoint =>
    let (_, runtime, w) := p.runtime.checkpoint w
    ({ p with runtime }, w)
  | none, .close =>
    let (_, runtime, w) := p.runtime.close w
    ({ p with runtime }, w)
  | some { released := event :: released, report }, .flushEvent =>
    let (runtime, report, w) := DpuFabric.flushEvent p.runtime report event w
    ({ runtime, flushing := some { released, report } }, w)
  | some { released := [], report }, .flushEnd =>
    ({ runtime := (p.runtime.flushEnd report).2 }, w)
  | _, _ => (p, w)

/-! ## §2. The system. -/

/-- The directory, as the calls made on it so far, and the present process. -/
structure System where
  trace : List (Action FileName Mark) := []
  process : Option Process := none
  deriving DecidableEq, Repr

/-- The files of the directory. -/
def System.disk (s : System) : Disk FileName := diskAfter s.trace

/-- What happens to the system. -/
inductive Op where
  | start (config : RuntimeConfig)
  | call (c : Call)
  | exit
  deriving DecidableEq, Repr

/-- One operation under a plan of faults. -/
def System.exec (s : System) (op : Op) (faults : List (Option Nat)) : System :=
  match s.process, op with
  | none, .start config =>
    match FabricRuntime.open config { trace := s.trace, faults } with
    | (.ok runtime, w) => { trace := w.trace, process := some { runtime } }
    | (.error _, w) => { trace := w.trace, process := none }
  | some p, .call c =>
    let (p, w) := p.call c { trace := s.trace, faults }
    { trace := w.trace, process := some p }
  | some { runtime, flushing := none }, .exit =>
    let (_, _, w) := runtime.close { trace := s.trace, faults }
    { trace := w.trace, process := none }
  | _, _ => s

/-- A move: an operation that runs to its end, or one that the process dies
in, after `n` entries of its trace. -/
inductive Move where
  | run (op : Op) (faults : List (Option Nat))
  | crash (op : Op) (faults : List (Option Nat)) (n : Nat)
  deriving DecidableEq, Repr

/-- The operation of a move, whether it runs to its end or not. -/
def Move.op : Move → Op
  | .run op _ => op
  | .crash op _ _ => op

/-- One move. -/
def System.step (s : System) : Move → System
  | .run op faults => s.exec op faults
  | .crash op faults n =>
    { trace := s.trace ++ ((s.exec op faults).trace.drop s.trace.length).take n
      process := none }

/-- The state after a list of moves. -/
def System.after (s : System) (moves : List Move) : System := runMoves System.step s moves

/-! ## §3. A small fleet, for runs on fixed inputs. -/

/-- A configuration without a store. -/
def sampleConfig : RuntimeConfig :=
  { storeId := .literal (txt "s"), coordinator := .literal (txt "c"), epoch := ⟨1⟩, boot := ⟨1⟩ }

def sampleEvidence : EvidenceRef := { id := .literal (txt "e"), validUntil := ⟨1000⟩ }

/-- An attached device with fresh evidence. -/
def sampleDevice (name : String) : DpuRecord :=
  { id := .literal (txt name)
    attachment := .literal (txt "h")
    domain := .literal (txt "z")
    capacity := ⟨8, 8, 8, 8, 8⟩
    state := .attached
    capabilityGeneration := ⟨1⟩
    deviceEvidence := sampleEvidence }

/-- An event whose sequence number is also its instant. -/
def sampleEvent (n : UInt64) (body : FabricEventBody) : FabricEvent :=
  { id := .literal (txt "ev"), origin := .literal (txt "o"), originEpoch := ⟨1⟩, originSeq := ⟨n⟩,
    instant := ⟨n⟩, body }

def sampleTopology (names : List String) : FabricEventBody :=
  .topologyObserved { snapshot := { generation := ⟨1⟩, dpus := names.map sampleDevice } }

def samplePolicy : FabricEventBody :=
  .policyAdvanced { policy := { generation := ⟨1⟩, evidence := sampleEvidence } }

/-- A service, with an exclusive scope or without. -/
def sampleService (name : String) (scope : Option String) : FabricEventBody :=
  .serviceDeclared { service := {
    id := .literal (txt name)
    version := { major := 1 }
    isolation := { exclusiveScope := scope.map (fun t => .literal (txt t)) } } }

def sampleGroup (name : String) (members : List String) : FabricEventBody :=
  .groupDeclared { group := {
    id := .literal (txt name)
    members := members.map (fun m => .literal (txt m))
    antiAffinity := { maxReplicasPerDpu := 4 } } }

/-- An intent for one replica of each service. -/
def sampleIntent (kind : IntentKind) (group : String) (generation : UInt64)
    (services : List String) : FabricEventBody :=
  .intentSubmitted { intent := {
    id := .literal (txt "in")
    group := .literal (txt group)
    kind
    generation := ⟨generation⟩
    services := services.map (fun m => { service := .literal (txt m), desiredReplicas := 1 }) } }

/-- The first replica of a service. -/
def sampleInstance (group service : String) : InstanceId :=
  makeInstanceId (.literal (txt group)) (.literal (txt service)) ⟨0⟩

/-- A successful report on the first replica of a service, with the fence of
the first lifetime. -/
def sampleEffect (group service : String) (kind : EffectKind) (attempt serial observedAt : UInt64) :
    FabricEventBody :=
  .effectReported { report := {
    instanceId := sampleInstance group service
    attempt := ⟨attempt⟩
    fence := { epoch := ⟨1⟩, boot := ⟨1⟩, serial }
    kind
    status := .succeeded
    evidence := { sampleEvidence with observedAt := ⟨observedAt⟩ } } }

/-- Stages an event and flushes up to its instant. -/
def submitMoves (event : FabricEvent) : List Move :=
  [.run (.call (.stage event)) [], .run (.call (.flushBegin event.instant)) [],
   .run (.call .flushEvent) [], .run (.call .flushEnd) []]

end DpuFabric
