/-
  Persist.Store — THE STORE: OPEN, LOAD, APPEND, ROTATE, CLOSE (`persist/store.hpp`,
  `persist/store.cpp`).

  Every function runs against a `World`, so each of its file-system calls is
  an entry of the trace and may fail by plan.  A straight run of calls with
  early returns is a list of steps (`appendSteps`, `snapshotSteps`,
  `truncateSteps`).  The closing of a handle whose result the source ignores
  leaves no entry: it changes no file.
-/
import DpuFabric.Lib.FileTrace
import DpuFabric.Model.Event
import DpuFabric.Persist.Frame

namespace DpuFabric

open Lib

/-! ## §1. The directory and the store object. -/

/-- The files of a store directory. -/
inductive FileName where
  | snapshot | temp | journal
  deriving DecidableEq, Repr

/-- `kSnapshotName`, `kSnapshotTempName`, `kJournalName`. -/
def FileName.text : FileName → Text
  | .snapshot => txt "fabric.snapshot"
  | .temp => txt "fabric.snapshot.tmp"
  | .journal => txt "fabric.journal"

/-- `StoreOptions`. -/
structure StoreOptions where
  directory : Text := []
  maxJournalBytes : Nat := 4 * 1024 * 1024
  format : Nat := formatVersion
  semantic : Nat := semanticVersion
  fsync : Bool := true
  maxRecordBytes : Nat := 1024 * 1024
  deriving DecidableEq, Repr

/-- `join`. -/
def StoreOptions.path (o : StoreOptions) (f : FileName) : Text :=
  o.directory ++ txt "/" ++ f.text

/-- `StoreRecovery`. -/
structure StoreRecovery where
  classification : RecoveryClass := .emptyStore
  foundSnapshot : Bool := false
  foundJournal : Bool := false
  snapshotBytes : Nat := 0
  journalBytes : Nat := 0
  journalRecords : Nat := 0
  recordsDropped : Nat := 0
  tornBytesDropped : Nat := 0
  snapshotRewrites : Nat := 0
  snapshotDigest : Digest := default
  truncations : List TruncationRecord := []
  deriving DecidableEq, Repr

/-- `Store`.  `appending` says that the journal handle is held. -/
structure Store where
  options : StoreOptions
  recovery : StoreRecovery := {}
  appending : Bool := false
  journalBytes : Nat := 0
  journalRecords : Nat := 0
  closed : Bool := true
  deriving DecidableEq, Repr

variable {μ : Type}

/-- `file_exists`: a failed probe reads as "no such file". -/
def fileExists (f : FileName) (w : World FileName μ) : Bool × World FileName μ :=
  let (ok, w') := w.perform (.probe f)
  (ok && (w.disk f).isSome, w')

def ioFailure (detail : String) : Status := refuse .storeIoFailure (txt detail)

/-- The refusal of `open_file`, without the text of the error number. -/
def cannotOpen (o : StoreOptions) (f : FileName) : Status :=
  refuse .storeIoFailure (txt "cannot open " ++ o.path f)

/-! ## §2. Opening the directory. -/

/-- The calls between the option checks and the lock. -/
def prepareSteps : List (FileOp FileName × Status) :=
  [(.statDirectory, ioFailure "cannot stat store directory"),
   (.createDirectory, ioFailure "cannot create store directory")]

/-- Removes an interrupted snapshot, then takes the lock. -/
def lockSteps (tempFound : Bool) : List (FileOp FileName × Status) :=
  (if tempFound then [(FileOp.remove FileName.temp, ioFailure "remove failed")] else [])
    ++ [(.lock, refuse .storeAlreadyOpen (txt "store is already open elsewhere"))]

/-- The journal size the store starts to count from. -/
def initialJournalBytes (foundJournal : Bool) (w : World FileName μ) : Nat × World FileName μ :=
  if foundJournal then
    let (ok, w') := w.perform (.size .journal)
    (if ok then ((w.disk .journal).getD []).length else 0, w')
  else (0, w)

/-- `Store::open`. -/
def Store.open (o : StoreOptions) (w : World FileName μ) : Result Store × World FileName μ :=
  if o.directory = [] then
    (.error (refuse .malformedInput (txt "store directory is required")), w)
  else if o.maxRecordBytes = 0 ∨ o.maxJournalBytes = 0 then
    (.error (refuse .valueOutOfRange (txt "store bounds must be positive")), w)
  else
    match w.runSteps prepareSteps with
    | (some refusal, w) => (.error refusal, w)
    | (none, w) =>
      let (foundSnapshot, w) := fileExists .snapshot w
      let (foundJournal, w) := fileExists .journal w
      let (tempFound, w) := fileExists .temp w
      match w.runSteps (lockSteps tempFound) with
      | (some refusal, w) => (.error refusal, w)
      | (none, w) =>
        let (journalBytes, w) := initialJournalBytes foundJournal w
        (.ok { options := o, recovery := { foundSnapshot, foundJournal }, journalBytes,
               closed := false }, w)

/-! ## §3. Loading. -/

/-- `read_whole_file`. -/
def readWholeFile (o : StoreOptions) (f : FileName) (maxBytes : Nat) (w : World FileName μ) :
    Result (List UInt8) × World FileName μ :=
  let bytes := (w.disk f).getD []
  match w.runSteps [(.size f, refuse .storeIoFailure (txt "cannot size " ++ o.path f))] with
  | (some refusal, w) => (.error refusal, w)
  | (none, w) =>
    if maxBytes < bytes.length then
      (.error (refuse .storeRecordOversized (txt "file exceeds the configured bound")), w)
    else
      match w.runSteps ([(.openRead f, cannotOpen o f)]
          ++ (if bytes = [] then []
              else [(.read f, refuse .storeTruncated (txt "short read"))])
          ++ [(.close f, ioFailure "close failed")]) with
      | (some refusal, w) => (.error refusal, w)
      | (none, w) => (.ok bytes, w)

/-- Classification of a snapshot file that does not parse. -/
def snapshotClass (code : ReasonCode) : RecoveryClass :=
  if code = .storeVersionIncompatible ∨ code = .storeSemanticsIncompatible then .refusedVersion
  else if code = .storeTruncated then .refusedTruncated
  else if code = .storeIntegrityFailure ∨ code = .storeRecordOversized then .refusedIntegrity
  else .refusedCorrupt

/-- The payload of a snapshot file, or the refusal and its classification. -/
def parseSnapshot (o : StoreOptions) (raw : List UInt8) :
    Except (Status × RecoveryClass) (List UInt8) :=
  let parsed := parseFrame raw 0 o.format o.semantic o.maxRecordBytes
  if !parsed.complete then .error (parsed.status, snapshotClass parsed.status.code)
  else if parsed.kind ≠ .snapshot then
    .error (refuse .storeCorrupt (txt "snapshot file does not hold a snapshot record"),
      .refusedCorrupt)
  else if parsed.consumed ≠ raw.length then
    .error (refuse .storeCorrupt (txt "trailing bytes after snapshot record"), .refusedCorrupt)
  else .ok ((raw.drop parsed.payloadOffset).take parsed.payloadLength)

/-- What `Store::load` returns. -/
structure Loaded where
  recovery : StoreRecovery
  snapshot : List UInt8
  records : List (List UInt8)

/-- The snapshot half of `Store::load`: the payload, empty if there is none. -/
def loadSnapshot (o : StoreOptions) (recovery : StoreRecovery) (w : World FileName μ) :
    Except Status (List UInt8) × StoreRecovery × World FileName μ :=
  let recovery := { recovery with classification := .emptyStore }
  match fileExists .snapshot w with
  | (false, w) => (.ok [], recovery, w)
  | (true, w) =>
    match readWholeFile o .snapshot (o.maxRecordBytes + frameHeaderBytes + frameDigestBytes) w with
    | (.error refusal, w) =>
      (.error refusal,
        { recovery with classification := if refusal.code = .storeRecordOversized
            then .refusedIntegrity else .refusedCorrupt }, w)
    | (.ok [], w) => (.ok [], recovery, w)
    | (.ok raw, w) =>
      match parseSnapshot o raw with
      | .error (refusal, classification) =>
        (.error refusal, { recovery with classification }, w)
      | .ok payload =>
        (.ok payload,
          { recovery with
            snapshotDigest := sha256 payload
            snapshotBytes := raw.length
            classification := .cleanReopen }, w)

/-- The accounting of a dropped tail. -/
def tornTruncation : TruncationRecord :=
  { container := txt "store.journal.tail", requested := 1, accepted := 0, dropped := 1,
    reason := .storeTornTailRecovered }

/-- The last lines of `Store::load`. -/
def StoreRecovery.counted (r : StoreRecovery) (records : List (List UInt8)) : StoreRecovery :=
  { r with
    journalRecords := records.length
    classification := if r.classification = .emptyStore ∧ records ≠ [] then .cleanReopen
      else r.classification }

/-- The journal half of `Store::load`. -/
def loadJournal (o : StoreOptions) (recovery : StoreRecovery) (w : World FileName μ) :
    Except Status (List (List UInt8)) × StoreRecovery × World FileName μ :=
  match fileExists .journal w with
  | (false, w) => (.ok [], recovery, w)
  | (true, w) =>
    match readWholeFile o .journal o.maxJournalBytes w with
    | (.error refusal, w) =>
      (.error refusal,
        { recovery with classification := if refusal.code = .storeRecordOversized
            then .refusedIntegrity else recovery.classification }, w)
    | (.ok raw, w) =>
      let recovery := { recovery with journalBytes := raw.length }
      match scan o.format o.semantic o.maxRecordBytes raw with
      | .refused refusal classification =>
        (.error refusal, { recovery with classification }, w)
      | .clean records => (.ok records, recovery.counted records, w)
      | .torn records offset =>
        let recovery := { recovery with
          tornBytesDropped := raw.length - offset
          recordsDropped := 1
          truncations := recovery.truncations ++ [tornTruncation]
          classification := .tornTailTruncated }
        match w.runSteps [(.resize .journal offset, ioFailure "truncate failed")] with
        | (some refusal, w) => (.error refusal, recovery, w)
        | (none, w) => (.ok records, recovery.counted records, w)

/-- `Store::load`. -/
def Store.load (st : Store) (w : World FileName μ) : Result Loaded × Store × World FileName μ :=
  match loadSnapshot st.options st.recovery w with
  | (.error refusal, recovery, w) => (.error refusal, { st with recovery }, w)
  | (.ok snapshot, recovery, w) =>
    match loadJournal st.options recovery w with
    | (.error refusal, recovery, w) => (.error refusal, { st with recovery }, w)
    | (.ok records, recovery, w) =>
      (.ok { recovery, snapshot, records }, { st with recovery }, w)

/-! ## §4. Appending. -/

/-- The frame that an event is journaled as. -/
def eventFrame (o : StoreOptions) (event : FabricEvent) : List UInt8 :=
  frame .event o.format o.semantic (encodeBinary FabricEvent.visit event)

/-- `Store::ensure_appender`. -/
def appenderSteps (st : Store) : List (FileOp FileName × Status) :=
  if st.appending then [] else [(.openAppend .journal, cannotOpen st.options .journal)]

/-- The calls that put a frame on the device. -/
def appendSteps (o : StoreOptions) (framed : List UInt8) : List (FileOp FileName × Status) :=
  [(.write .journal framed, ioFailure "journal write failed"),
   (.flush .journal, ioFailure "journal flush failed")]
    ++ (if o.fsync then [(.sync .journal, ioFailure "flush to device failed")] else [])

/-- `Store::append_event`. -/
def Store.appendEvent (st : Store) (event : FabricEvent) (w : World FileName μ) :
    Status × Store × World FileName μ :=
  if st.closed then (refuse .storeClosed (txt "store is closed"), st, w)
  else
    match w.runSteps (appenderSteps st) with
    | (some refusal, w) => (refusal, st, w)
    | (none, w) =>
      let st := { st with appending := true }
      let framed := eventFrame st.options event
      if st.options.maxRecordBytes < framed.length then
        (refuse .storeRecordOversized (txt "event record exceeds bound"), st, w)
      else if st.options.maxJournalBytes < st.journalBytes + framed.length then
        (refuse .boundExceeded (txt "journal bound reached; rotation required"), st, w)
      else
        match w.runSteps (appendSteps st.options framed) with
        | (some refusal, w) => (refusal, st, w)
        | (none, w) =>
          (.success, { st with
            journalBytes := st.journalBytes + framed.length
            journalRecords := st.journalRecords + 1 }, w)

/-! ## §5. Rotating. -/

/-- The frame of a snapshot. -/
def snapshotFrame (o : StoreOptions) (payload : List UInt8) : List UInt8 :=
  frame .snapshot o.format o.semantic payload

/-- The calls that write the temporary file. -/
def tempSteps (o : StoreOptions) (framed : List UInt8) : List (FileOp FileName × Status) :=
  [(.remove .temp, ioFailure "remove failed"),
   (.openWrite .temp, cannotOpen o .temp),
   (.write .temp framed, ioFailure "snapshot write failed"),
   (.flush .temp, ioFailure "snapshot flush failed"),
   (.sync .temp, ioFailure "flush to device failed"),
   (.close .temp, ioFailure "close failed")]

/-- The calls that replace the snapshot. -/
def snapshotSteps (o : StoreOptions) (framed : List UInt8) : List (FileOp FileName × Status) :=
  tempSteps o framed ++ [(.rename .temp .snapshot, ioFailure "atomic replace failed")]

/-- The calls between the emptying of the journal and the end of a rotation. -/
def settleSteps (o : StoreOptions) : List (FileOp FileName × Status) :=
  [(.flush .journal, ioFailure "journal truncate failed")]
    ++ (if o.fsync then [(.sync .journal, ioFailure "flush to device failed")] else [])
    ++ [(.close .journal, ioFailure "close failed")]

/-- The calls that empty the journal, its handle released before. -/
def truncateSteps (o : StoreOptions) : List (FileOp FileName × Status) :=
  (.openWrite .journal, cannotOpen o .journal) :: settleSteps o

/-- Releasing the journal handle, if it is held. -/
def releaseSteps (st : Store) : List (FileOp FileName × Status) :=
  if st.appending then [(.close .journal, ioFailure "close failed")] else []

/-- `Store::rotate`. -/
def Store.rotate (st : Store) (payload : List UInt8) (w : World FileName μ) :
    Status × Store × World FileName μ :=
  if st.closed then (refuse .storeClosed (txt "store is closed"), st, w)
  else
    let framed := snapshotFrame st.options payload
    if st.options.maxRecordBytes < framed.length then
      (refuse .storeRecordOversized (txt "snapshot exceeds bound"), st, w)
    else
      match w.runSteps (snapshotSteps st.options framed) with
      | (some refusal, w) => (refusal, st, w)
      | (none, w) =>
        match w.runSteps (releaseSteps st) with
        | (some refusal, w) => (refusal, st, w)
        | (none, w) =>
          let st := { st with appending := false }
          match w.runSteps (truncateSteps st.options) with
          | (some refusal, w) => (refusal, st, w)
          | (none, w) =>
            (.success, { st with
              journalBytes := 0
              journalRecords := 0
              recovery := { st.recovery with
                snapshotRewrites := st.recovery.snapshotRewrites + 1
                snapshotDigest := sha256 payload } }, w)

/-! ## §6. Closing. -/

/-- The calls that give the journal handle back. -/
def closeSteps (st : Store) : List (FileOp FileName × Status) :=
  if st.appending then
    [(.flush .journal, ioFailure "journal flush on close failed")]
      ++ (if st.options.fsync then [(.sync .journal, ioFailure "flush to device failed")] else [])
      ++ [(.close .journal, ioFailure "close failed")]
  else []

/-- `Store::close`. -/
def Store.close (st : Store) (w : World FileName μ) : Status × Store × World FileName μ :=
  if st.closed then (.success, st, w)
  else
    let (refusal, w) := w.runSteps (closeSteps st)
    (refusal.getD .success, { st with closed := true, appending := false }, w)

end DpuFabric
