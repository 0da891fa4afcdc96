/-
  Persist.Directory — WHAT A STORE DIRECTORY LOADS AS, EXACTLY.

  `Loads` reads the two files of a directory as a snapshot payload, a list of
  records and a torn piece.  Where no call fails, `Store::load` returns
  exactly that (`load_of_loads`), and where it returns at all, the directory
  reads so (`loads_of_load`).
-/
import DpuFabric.Persist.Loaded
import DpuFabric.Persist.Reading

namespace DpuFabric

open Lib World

variable {records : List (List UInt8)} {snapshot tail : List UInt8}

variable {μ : Type} {o : StoreOptions} {t : List (Action FileName μ)}

/-! ## §1. The snapshot file. -/

/-- The bytes start with a whole record of the store's versions. -/
abbrev StoreOptions.Whole (o : StoreOptions) (rest : List UInt8) (kind : RecordKind)
    (payload : List UInt8) : Prop :=
  DpuFabric.Whole o.format o.semantic o.maxRecordBytes rest kind payload

/-- The bytes read as a journal of the store's versions. -/
abbrev StoreOptions.Reading (o : StoreOptions) (rest : List UInt8) (records : List (List UInt8))
    (tail : List UInt8) : Prop :=
  DpuFabric.Reading o.format o.semantic o.maxRecordBytes rest records tail

theorem parseSnapshot_iff {raw p : List UInt8} (hne : raw ≠ []) :
    parseSnapshot o raw = .ok p ↔ o.Whole raw .snapshot p
      ∧ raw.length = frameHeaderBytes + p.length + frameDigestBytes := by
  have hparsed := parseFrame_parsed o.format o.semantic o.maxRecordBytes
    (List.length_pos_iff.mpr hne)
  rw [List.drop_zero] at hparsed
  unfold parseSnapshot
  generalize parseFrame raw 0 o.format o.semantic o.maxRecordBytes = parsed at hparsed
  simp only
  cases hparsed with
  | torn hcomplete _ htorn =>
    rw [hcomplete]
    refine ⟨nofun, fun h => absurd htorn h.1.not_torn⟩
  | refused hcomplete _ _ hnone =>
    rw [hcomplete]
    refine ⟨nofun, fun h => absurd h.1 (hnone _ _)⟩
  | @whole kind q hwhole =>
    simp only [Bool.not_true, Bool.false_eq_true, if_false, Nat.zero_add, hwhole.payload_eq]
    constructor
    · intro h
      split at h
      · cases h
      next hkind =>
      split at h
      · cases h
      next hsize =>
      cases h
      exact ⟨not_not.mp hkind ▸ hwhole, (not_not.mp hsize).symm⟩
    · rintro ⟨hwhole', hsize⟩
      obtain ⟨rfl, rfl⟩ := hwhole.unique hwhole'
      rw [if_neg (not_not.mpr rfl), if_neg (not_not.mpr hsize.symm)]

theorem parseSnapshot_of_frame {kind : RecordKind} {format semantic : Nat} {p q : List UInt8}
    (h32 : p.length < 2 ^ 32) (h : parseSnapshot o (frame kind format semantic p) = .ok q) :
    q = p := by
  have hwhole := ((parseSnapshot_iff (frame_ne_nil _ _ _ _)).mp h).1
  have hlength : q.length = p.length := by
    have hfield := readAt_lengthField kind format semantic p.length (p ++ (sha256 p).bytes)
    rw [Nat.mod_eq_of_lt h32, ← List.append_assoc] at hfield
    exact hwhole.heads.lengthField.symm.trans hfield
  have hslice := hwhole.payload_eq
  rwa [hlength, frame, List.append_assoc, List.drop_left' (frameHeader_length ..), List.take_left,
    eq_comm] at hslice

/-- The snapshot file reads as this payload; an empty file, like none, as
the empty payload. -/
def SnapshotReads (o : StoreOptions) (d : Disk FileName) (payload : List UInt8) : Prop :=
  ((d .snapshot).getD [] = [] ∧ payload = [])
    ∨ ∃ raw, d .snapshot = some raw ∧ o.Whole raw .snapshot payload
      ∧ raw.length = frameHeaderBytes + payload.length + frameDigestBytes

/-- The classification that the snapshot file gives. -/
def snapshotClassOf (d : Disk FileName) : RecoveryClass :=
  if (d .snapshot).getD [] = [] then .emptyStore else .cleanReopen

theorem loadSnapshot_reads {payload : List UInt8} (h : SnapshotReads o (diskAfter t) payload)
    (recovery : StoreRecovery) :
    ∃ recovery' u, loadSnapshot o recovery (clean t) = (.ok payload, recovery', clean (t ++ u))
      ∧ Quiet u ∧ recovery'.classification = snapshotClassOf (diskAfter t) := by
  have hprobe : Quiet [(.file (.probe .snapshot) none : Action FileName μ)] := quiet_single rfl
  unfold loadSnapshot snapshotClassOf
  simp only [fileExists_clean]
  cases hfile : diskAfter t FileName.snapshot with
  | none =>
    rcases h with ⟨-, rfl⟩ | ⟨raw, hraw, -⟩
    · simp only [Option.isSome_none, Option.getD_none, if_true]
      exact ⟨_, _, rfl, hprobe, rfl⟩
    · rw [hfile] at hraw
      cases hraw
  | some raw =>
    have hread : (diskAfter (t ++ [.file (.probe .snapshot) none]) FileName.snapshot).getD []
        = raw := by rw [hprobe.diskAfter, hfile, Option.getD_some]
    simp only [Option.isSome_some, Option.getD_some]
    cases raw with
    | nil =>
      obtain ⟨u, hu, hquiet⟩ := readWholeFile_clean o .snapshot
        (show _ ≤ o.maxRecordBytes + frameHeaderBytes + frameDigestBytes by
          rw [hread]; exact Nat.zero_le _)
      rw [hread, List.append_assoc] at hu
      simp only [hu, if_true]
      rcases h with ⟨-, rfl⟩ | ⟨raw, hraw, hwhole, -⟩
      · exact ⟨_, _, rfl, hprobe.append hquiet, rfl⟩
      rw [hfile] at hraw
      cases hraw
      exact absurd rfl hwhole.ne_nil
    | cons b bs =>
      rcases h with ⟨hempty, -⟩ | ⟨raw, hraw, hwhole, hsize⟩
      · rw [hfile, Option.getD_some] at hempty
        cases hempty
      rw [hfile] at hraw
      cases hraw
      have hbounded := hwhole.heads.bounded
      obtain ⟨u, hu, hquiet⟩ := readWholeFile_clean o .snapshot
        (show _ ≤ o.maxRecordBytes + frameHeaderBytes + frameDigestBytes by
          rw [hread, hsize]; omega)
      have hparse := (parseSnapshot_iff (by simp)).mpr ⟨hwhole, hsize⟩
      rw [hread, List.append_assoc] at hu
      simp only [hu, hparse]
      exact ⟨_, _, rfl, hprobe.append hquiet, rfl⟩

theorem snapshotReads_of_load {recovery recovery' : StoreRecovery} {payload : List UInt8}
    {w : World FileName μ} (h : loadSnapshot o recovery (clean t) = (.ok payload, recovery', w)) :
    SnapshotReads o (diskAfter t) payload := by
  have hprobe : Quiet [(.file (.probe .snapshot) none : Action FileName μ)] := quiet_single rfl
  unfold loadSnapshot at h
  simp only [fileExists_clean] at h
  cases hfile : diskAfter t FileName.snapshot with
  | none =>
    simp only [hfile, Option.isSome_none] at h
    cases h
    exact .inl ⟨by rw [hfile]; rfl, rfl⟩
  | some raw =>
    simp only [hfile, Option.isSome_some] at h
    have hdisk : (clean (t ++ [.file (.probe .snapshot) none])).disk FileName.snapshot
        = some raw := by rw [disk_clean, hprobe.diskAfter, hfile]
    split at h
    · simp at h
    · next hread =>
      cases h
      have hraw := (readWholeFile_ok hread).1
      rw [hdisk, Option.getD_some] at hraw
      exact .inl ⟨by rw [hfile, ← hraw]; rfl, rfl⟩
    · next raw' _ hne hread =>
      have hraw := (readWholeFile_ok hread).1
      rw [hdisk, Option.getD_some] at hraw
      subst hraw
      split at h
      · simp at h
      next hparse =>
      cases h
      exact .inr ⟨_, hfile, (parseSnapshot_iff hne).mp hparse⟩

/-! ## §2. The journal file. -/

/-- The bytes of the journal file; no file has none. -/
def journalFile (d : Disk FileName) : List UInt8 := (d .journal).getD []

theorem diskAfter_resize (t : List (Action FileName μ)) (n : Nat) :
    diskAfter (t ++ [.file (.resize .journal n) none]) .journal
        = (diskAfter t .journal).map (List.take n)
      ∧ ∀ g, g ≠ .journal →
        diskAfter (t ++ [.file (.resize .journal n) none]) g = diskAfter t g := by
  rw [diskAfter_append]
  simp only [List.foldl_cons, List.foldl_nil, Action.apply, FileOp.apply]
  exact ⟨Disk.set_self _ _ _, fun g hg => Disk.set_of_ne _ _ hg⟩

/-- The classification after the journal was read. -/
def journalClassOf (before : RecoveryClass) (records : List (List UInt8)) (tail : List UInt8) :
    RecoveryClass :=
  if tail ≠ [] then .tornTailTruncated
  else if before = .emptyStore ∧ records ≠ [] then .cleanReopen
  else before

/-- A journal that reads is loaded, and its torn piece is cut off. -/
theorem loadJournal_reads (hfits : (journalFile (diskAfter t)).length ≤ o.maxJournalBytes)
    (h : o.Reading (journalFile (diskAfter t)) records tail) (recovery : StoreRecovery) :
    ∃ recovery' u, loadJournal o recovery (clean t) = (.ok records, recovery', clean (t ++ u))
      ∧ recovery'.classification = journalClassOf recovery.classification records tail
      ∧ diskAfter (t ++ u) .journal = (diskAfter t .journal).map
          (List.take ((journalFile (diskAfter t)).length - tail.length))
      ∧ (∀ g, g ≠ .journal → diskAfter (t ++ u) g = diskAfter t g) ∧ (tail = [] → Quiet u) := by
  have hprobe : Quiet [(.file (.probe .journal) none : Action FileName μ)] := quiet_single rfl
  have hscan := scan_reading h
  unfold loadJournal journalClassOf
  simp only [fileExists_clean]
  unfold journalFile at hfits h hscan
  cases hfile : diskAfter t FileName.journal with
  | none =>
    rw [hfile, Option.getD_none] at h
    cases h with
    | torn hne _ => exact absurd rfl hne
    | record hwhole _ => exact absurd rfl hwhole.ne_nil
    | done =>
      simp only [Option.isSome_none, Option.map_none]
      refine ⟨_, _, rfl, by simp, ?_, fun g _ => ?_, fun _ => hprobe⟩
      · rw [hprobe.diskAfter, hfile]
      · rw [hprobe.diskAfter]
  | some bytes =>
    rw [hfile, Option.getD_some] at hfits h hscan
    have hread : (diskAfter (t ++ [.file (.probe .journal) none]) FileName.journal).getD []
        = bytes := by rw [hprobe.diskAfter, hfile, Option.getD_some]
    obtain ⟨u, hu, hquiet⟩ := readWholeFile_clean o .journal
      (show _ ≤ o.maxJournalBytes by rw [hread]; exact hfits)
    have hsame : diskAfter (t ++ ([.file (.probe .journal) none] ++ u)) = diskAfter t :=
      (hprobe.append hquiet).diskAfter t
    rw [hread, List.append_assoc] at hu
    simp only [Option.isSome_some, hu, hscan, journalFile, hfile, Option.getD_some,
      Option.map_some]
    by_cases htail : tail = []
    · subst htail
      simp only [if_true, ne_eq, not_true, if_false, List.length_nil, Nat.sub_zero,
        List.take_length]
      refine ⟨_, _, rfl, rfl, ?_, fun g _ => ?_, fun _ => hprobe.append hquiet⟩
      · rw [hsame, hfile]
      · rw [hsame]
    · simp only [htail, if_false, ne_eq, not_false_iff, if_true, runSteps_clean]
      obtain ⟨hcut, hothers⟩ := diskAfter_resize
        (t ++ ([.file (.probe .journal) none] ++ u)) (bytes.length - tail.length)
      refine ⟨_, _, by rw [List.append_assoc], by simp [StoreRecovery.counted], ?_,
        fun g hg => ?_, False.elim⟩
      · rw [← List.append_assoc]
        refine hcut.trans ?_
        rw [hsame, hfile, Option.map_some]
      · rw [← List.append_assoc]
        exact (hothers g hg).trans (by rw [hsame])

theorem reading_of_loadJournal {recovery recovery' : StoreRecovery} {w : World FileName μ}
    (h : loadJournal o recovery (clean t) = (.ok records, recovery', w)) :
    (journalFile (diskAfter t)).length ≤ o.maxJournalBytes
      ∧ ∃ tail, o.Reading (journalFile (diskAfter t)) records tail := by
  have hprobe : Quiet [(.file (.probe .journal) none : Action FileName μ)] := quiet_single rfl
  unfold loadJournal at h
  simp only [fileExists_clean] at h
  unfold journalFile
  cases hfile : diskAfter t FileName.journal with
  | none =>
    simp only [hfile, Option.isSome_none] at h
    cases h
    exact ⟨Nat.zero_le _, [], .done⟩
  | some bytes =>
    simp only [hfile, Option.isSome_some] at h
    have hdisk : (clean (t ++ [.file (.probe .journal) none])).disk FileName.journal
        = some bytes := by rw [disk_clean, hprobe.diskAfter, hfile]
    split at h
    · simp at h
    next raw w' hread =>
    obtain ⟨hraw, hfits⟩ := readWholeFile_ok hread
    rw [hdisk, Option.getD_some] at hraw
    subst hraw
    refine ⟨hfits, ?_⟩
    have htells := scan_tells o.format o.semantic o.maxRecordBytes raw
    split at h
    · simp at h
    · next hscan =>
      cases h
      rw [hscan] at htells
      obtain ⟨qs, rfl, hreading⟩ := htells
      exact ⟨_, hreading⟩
    · next hscan =>
      rw [hscan] at htells
      obtain ⟨qs, tail, rfl, -, -, hreading⟩ := htells
      split at h
      · simp at h
      · cases h
        exact ⟨_, hreading⟩

/-! ## §3. The directory. -/

/-- The directory reads as a snapshot payload, records and a torn piece. -/
structure Loads (o : StoreOptions) (d : Disk FileName) (snapshot : List UInt8)
    (records : List (List UInt8)) (tail : List UInt8) : Prop where
  snapshot : SnapshotReads o d snapshot
  fits : (journalFile d).length ≤ o.maxJournalBytes
  journal : o.Reading (journalFile d) records tail

/-- The classification of a directory that loads. -/
def loadClass (d : Disk FileName) (records : List (List UInt8)) (tail : List UInt8) :
    RecoveryClass :=
  journalClassOf (snapshotClassOf d) records tail

/-- **A directory that reads is loaded as it reads.** -/
theorem load_of_loads (st : Store) (h : Loads st.options (diskAfter t) snapshot records tail) :
    ∃ recovery u, st.load (clean t)
        = (.ok { recovery, snapshot, records }, { st with recovery }, clean (t ++ u))
      ∧ recovery.classification = loadClass (diskAfter t) records tail
      ∧ diskAfter (t ++ u) .journal = (diskAfter t .journal).map
          (List.take ((journalFile (diskAfter t)).length - tail.length))
      ∧ (∀ g, g ≠ .journal → diskAfter (t ++ u) g = diskAfter t g) ∧ (tail = [] → Quiet u) := by
  obtain ⟨recovery₁, u, hu, hquiet, hclass⟩ := loadSnapshot_reads h.snapshot st.recovery
  have hsame : diskAfter (t ++ u) = diskAfter t := hquiet.diskAfter t
  obtain ⟨recovery₂, v, hv, hclass', hcut, hothers, hrest⟩ := loadJournal_reads
    (hsame ▸ h.fits) (hsame ▸ h.journal) recovery₁
  rw [hsame] at hcut
  refine ⟨recovery₂, u ++ v, ?_, ?_, ?_, fun g hg => ?_, fun hnone => hquiet.append (hrest hnone)⟩
  · simp only [Store.load, hu, hv, List.append_assoc]
  · rw [hclass', hclass, loadClass]
  · rw [← List.append_assoc]
    exact hcut
  · rw [← List.append_assoc, hothers g hg, hsame]

/-- **What was loaded is how the directory reads.** -/
theorem loads_of_load {st : Store} {loaded : Loaded} (h : (st.load (clean t)).1 = .ok loaded) :
    ∃ tail, Loads st.options (diskAfter t) loaded.snapshot loaded.records tail := by
  unfold Store.load at h
  split at h
  · cases h
  next snapshot recovery w₁ hsnapshot =>
  have hreads := snapshotReads_of_load hsnapshot
  obtain ⟨recovery', u, hu, hquiet, -⟩ := loadSnapshot_reads hreads st.recovery
  rw [hu] at hsnapshot
  cases hsnapshot
  split at h
  · cases h
  next hjournal =>
  cases h
  obtain ⟨hfits, tail, hreading⟩ := reading_of_loadJournal hjournal
  rw [hquiet.diskAfter] at hfits hreading
  exact ⟨tail, hreads, hfits, hreading⟩

/-- Without faults, a snapshot that parses is the one that is loaded. -/
theorem load_found {st : Store} {loaded : Loaded} {raw payload : List UInt8}
    (hdisk : diskAfter t .snapshot = some raw) (hparse : parseSnapshot st.options raw = .ok payload)
    (h : (st.load (clean t)).1 = .ok loaded) : loaded.snapshot = payload := by
  obtain ⟨tail, ⟨⟨hempty, -⟩ | ⟨raw', hraw, hwhole⟩, -, -⟩⟩ := loads_of_load h
  · rw [hdisk, Option.getD_some] at hempty
    subst hempty
    simp [parseSnapshot, parseFrame] at hparse
  · obtain rfl := Option.some.inj (hdisk.symm.trans hraw)
    have hagain := (parseSnapshot_iff hwhole.1.ne_nil).mpr hwhole
    exact Except.ok.inj (hagain.symm.trans hparse)

/-- Files that hold payloads read as these. -/
theorem Stored.loads {d : Disk FileName} {c : Contents} (hmax : o.maxRecordBytes < 2 ^ 32)
    (h : Stored o d c) : Loads o d (c.base.getD []) c.journal [] := by
  have hfits : ∀ {kind p}, (frame kind o.format o.semantic p).length ≤ o.maxRecordBytes →
      p.length ≤ o.maxRecordBytes ∧ p.length < 2 ^ 32 := by
    intro kind p hp
    have hle := (payload_length_le kind o.format o.semantic p).trans hp
    exact ⟨hle, hle.trans_lt hmax⟩
  refine ⟨?_, (congrArg List.length h.journal).trans_le h.journalFits, ?_⟩
  · unfold SnapshotReads
    rw [h.snapshot]
    cases hbase : c.base with
    | none => exact .inl ⟨rfl, rfl⟩
    | some p =>
      obtain ⟨hle, hlt⟩ := hfits (h.baseFits p hbase).2
      have hwhole := whole_frame .snapshot o.format o.semantic hle hlt []
      rw [List.append_nil] at hwhole
      exact .inr ⟨_, rfl, hwhole, frame_length ..⟩
  · have hnone : o.Reading [] [] [] := .done
    have hframes := hnone.frames fun p hp => hfits (h.recordFits p hp)
    rw [List.append_nil, List.append_nil] at hframes
    rw [journalFile, h.journal]
    exact hframes

/-- **`load` returns what the files hold.** -/
theorem load_stored {c : Contents} (hmax : o.maxRecordBytes < 2 ^ 32)
    (h : Stored o (diskAfter t) c) (st : Store) (ho : st.options = o) :
    ∃ recovery u, st.load (clean t)
        = (.ok { recovery, snapshot := c.base.getD [], records := c.journal },
            { st with recovery }, clean (t ++ u)) ∧ Quiet u := by
  subst ho
  obtain ⟨recovery, u, hload, -, -, -, hquiet⟩ := load_of_loads st (h.loads hmax)
  exact ⟨recovery, u, hload, hquiet rfl⟩

theorem Loads.congr {d d' : Disk FileName} (h : Loads o d snapshot records tail)
    (hs : d' .snapshot = d .snapshot) (hj : journalFile d' = journalFile d) :
    Loads o d' snapshot records tail := by
  refine ⟨?_, by rw [hj]; exact h.fits, by rw [hj]; exact h.journal⟩
  unfold SnapshotReads
  rw [hs]
  exact h.snapshot

theorem idle_files {u : List (Action FileName μ)} (hu : ∀ a ∈ u, Idle a)
    (t : List (Action FileName μ)) :
    diskAfter (t ++ u) .snapshot = diskAfter t .snapshot
      ∧ journalFile (diskAfter (t ++ u)) = journalFile (diskAfter t) := by
  induction u generalizing t with
  | nil => rw [List.append_nil]; exact ⟨rfl, rfl⟩
  | cons a u ih =>
    obtain ⟨op, rfl, -, hop⟩ := hu a (by simp)
    have hstep := hop (diskAfter t)
    have hrest := ih (fun b hb => hu b (by simp [hb])) (t ++ [.file op none])
    rw [List.append_assoc, List.singleton_append] at hrest
    have hone : diskAfter (t ++ [.file op none]) = op.apply (diskAfter t) none := by
      rw [diskAfter_append]
      rfl
    rw [hrest.1, hrest.2, journalFile, hone]
    exact hstep

theorem reopen_of_loads (ho : o.usable) (h : Loads o (diskAfter t) snapshot records tail) :
    ∃ st u recovery v, Store.open o (clean t) = (.ok st, clean (t ++ u))
      ∧ st.load (clean (t ++ u))
        = (.ok { recovery, snapshot, records }, { st with recovery }, clean (t ++ u ++ v))
      ∧ recovery.classification = loadClass (diskAfter t) records tail := by
  obtain ⟨st, u, hopen, hidle, rfl, -⟩ := Store.open_clean ho t
  have hsame := idle_files hidle t
  obtain ⟨recovery, v, hload, hclass, -⟩ := load_of_loads st (h.congr hsame.1 hsame.2)
  refine ⟨st, u, recovery, v, hopen, hload, ?_⟩
  rw [hclass, loadClass, loadClass, snapshotClassOf, hsame.1, ← snapshotClassOf]

end DpuFabric
