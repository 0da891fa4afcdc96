/-
  Runtime.ClosedAttempts — THE ATTEMPT LEDGER ALONG A RUN.

  Every state of every run keeps the attempt law, recovered ones included.
  A closed attempt is never touched again by the process that closed it, nor
  by the replay and the restart of a process that finds it closed in the
  snapshot.  A snapshot taken BEFORE the attempt was closed is another matter:
  `open` drops the fence serials before it replays, so the report that closed
  the attempt is refused, and the restart closes it once more.
-/
import DpuFabric.Runtime.Restart

namespace DpuFabric

open Lib

/-! ## §1. The law lasts. -/

theorem instancesLedgered_lasting : Lasting InstancesLedgered (fun _ => True) where
  core h hs i hi := by
    obtain ⟨j, hj, hsame⟩ := core_instance h hi
    exact (hs j hj).congr (InstanceState.withoutHealth_attempts hsame).symm
      (InstanceState.withoutHealth_state hsame).symm
  blank _ := fun i hi => absurd hi (by simp [initialState])
  restored hs := hs
  event bounds weights _ hs := applyEvent_ledgered hs _ bounds weights
  restarted config s hs i hi := by
    obtain ⟨j, hj, rfl⟩ := List.mem_map.mp (show i ∈ s.instances.map _ from hi)
    exact (hs j hj).fenced _ _

theorem run_attemptLaw (moves : List Move) {p : Process}
    (hp : (System.after {} moves).process = some p) :
    ∀ i ∈ p.runtime.state.instances, AttemptLaw i := by
  intro i hi
  exact ((instancesLedgered_lasting.always moves).holds p hp i hi).law
    ((instancesSane_lasting.always moves).holds p hp i hi)

/-! ## §2. Closed attempts. -/

section Closed

variable {x : InstanceId} {k : Nat} {a : AttemptRecord}

instance (instances : List InstanceState) : Decidable (Ledgers x k a instances) :=
  inferInstanceAs (Decidable (∃ i ∈ instances, _ ∧ _))

theorem Ledgers.of_core {xs ys : List InstanceState}
    (h : xs.map InstanceState.withoutHealth = ys.map InstanceState.withoutHealth)
    (hxs : Ledgers x k a xs) : Ledgers x k a ys := by
  obtain ⟨i, hi, hid, ha⟩ := hxs
  have hmem : i.withoutHealth ∈ ys.map InstanceState.withoutHealth := h ▸ List.mem_map_of_mem hi
  obtain ⟨j, hj, hsame⟩ := List.mem_map.mp hmem
  refine ⟨j, hj, (InstanceState.withoutHealth_id hsame).trans hid, ?_⟩
  rw [InstanceState.withoutHealth_attempts hsame]
  exact ha

/-- The move starts no process, or one that takes over a snapshot in which the
attempt stands. -/
def LoadsAttempt (x : InstanceId) (k : Nat) (a : AttemptRecord) (s : System) : Move → Prop
  | .run (.start config) faults => s.process = none →
      ¬ FindsNothing config { trace := s.trace, faults }
        ∧ ∀ r : Recovery config { trace := s.trace, faults },
            Ledgers x k a r.base.state.instances
  | _ => True

/-- What stands closed in the snapshot stands closed after the recovery. -/
theorem Recovery.ledgers {config : RuntimeConfig} {w : RuntimeWorld} (r : Recovery config w)
    (hclosed : a.isOpen = false) (hbase : Ledgers x k a r.base.state.instances)
    {s : RuntimeState} (h : r.Gives s) : Ledgers x k a s.instances := by
  have hevent : ∀ (s : RuntimeState) (event : FabricEvent) l, True → Ledgers x k a s.instances →
      Ledgers x k a (replayState (s.recounted l s.journaledEvents) event config.bounds
        config.weights).instances := by
    intro s event l _ hs
    refine Ledgers.of_core (congrArg RuntimeState.instances (core_raiseWatermark _ event)).symm ?_
    exact (applyEvent_entries (s.recounted l s.journaledEvents) event _ _).ledgers hclosed hs
  have hreplayed := (replayRecords_rule (P := fun s => Ledgers x k a s.instances) hevent
    r.base.state.watermark r.loaded.records r.based r.hconfig (fun _ _ _ _ _ => trivial) hbase).2
  rw [r.hreplay] at hreplayed
  obtain ⟨n, rfl⟩ := h
  obtain ⟨i, hi, hid, ha⟩ := hreplayed
  -- the restart fences every instance, which cancels open attempts only
  refine ⟨fenceInstance i r.replayed.state.clock .restartFenced, List.mem_map_of_mem hi, hid, ?_⟩
  exact KeepsClosed.cancelled (i := i) rfl k a ha hclosed

theorem step_ledgers (hclosed : a.isOpen = false) {s : System} {m : Move}
    (hs : s.Holds (fun st => Ledgers x k a st.instances)) (hm : LoadsAttempt x k a s m) :
    (s.step m).Holds (fun st => Ledgers x k a st.instances) := by
  refine System.step_instances Ledgers.of_core hs ?_ ?_
  · rintro config faults rt w rfl hnone hopen
    obtain ⟨hfinds, hloads⟩ := hm hnone
    obtain ⟨-, ⟨-, hnothing⟩ | ⟨r, hgives⟩⟩ := open_inv hopen
    · exact absurd hnothing hfinds
    · exact r.ledgers hclosed (hloads r) hgives
  · rintro p event faults rfl hnext - l n s' hacc
    exact hacc.entries.ledgers hclosed (hs p (System.next_process hnext))

end Closed

/-- **THE ATTEMPT LEDGER LAW.**  In every state of every run each instance has
an attempt, its attempts are numbered in order, only the last one may be open,
and it is where the state of the instance says.  An attempt that is closed
stands unchanged in every later state, as long as every process that is
started finds it closed in the snapshot it loads. -/
theorem attempt_ledger_law (pre : List Move) :
    (∀ p, (System.after {} pre).process = some p →
        ∀ i ∈ p.runtime.state.instances, AttemptLaw i)
      ∧ ∀ p x k a, (System.after {} pre).process = some p →
        Ledgers x k a p.runtime.state.instances → a.outcome ≠ .opened →
        ∀ post, Meets System.step (LoadsAttempt x k a) (System.after {} pre) post →
        ∀ q, (System.after (System.after {} pre) post).process = some q →
          Ledgers x k a q.runtime.state.instances := by
  refine ⟨fun p hp => run_attemptLaw pre hp, ?_⟩
  intro p x k a hp ha houtcome post hpost q hq
  have hclosed := AttemptRecord.isOpen_eq_false.mpr houtcome
  have hstart : (System.after {} pre).Holds (fun st => Ledgers x k a st.instances) := by
    intro p' hp'
    obtain rfl := Option.some.inj (hp.symm.trans hp')
    exact ha
  have hstep : ∀ s m, s.Holds (fun st => Ledgers x k a st.instances) → LoadsAttempt x k a s m →
      (System.step s m).Holds (fun st => Ledgers x k a st.instances) :=
    fun _ _ => step_ledgers hclosed
  exact run_invariant hstep hstart hpost q hq

/-- The deployment attempt of `a`, as the withdrawal found it. -/
def provenAttempt : AttemptRecord :=
  (((System.after {} withdrawnMoves).process.bind fun p =>
    p.runtime.state.instances.head?.bind fun i => i.attempts.head?)).getD {}

/-- The device of `a` is lost after the withdrawal. -/
def deviceLostMoves : List Move := submitMoves (sampleEvent 9 (.dpuLost { dpu := .literal (txt "d") }))

theorem deviceLostMoves_runs :
    (System.after (System.after {} withdrawnMoves) deviceLostMoves).process.isSome = true := by
  decide +kernel

/-- The loss of the device leaves the closed attempt as it is. -/
theorem proven_attempt_outlives_loss :
    provenAttempt.outcome ≠ .opened
      ∧ Ledgers (sampleInstance "g" "a") 0 provenAttempt
          ((System.after (System.after {} withdrawnMoves) deviceLostMoves).process.get
            deviceLostMoves_runs).runtime.state.instances := by
  have hclosed : provenAttempt.outcome ≠ .opened := by decide +kernel
  refine ⟨hclosed, ?_⟩
  refine (attempt_ledger_law withdrawnMoves).2 _ _ _ _ (Option.some_get withdrawnMoves_runs).symm
    (by decide +kernel) hclosed deviceLostMoves (meets_each fun m hm s => ?_) _
    (Option.some_get deviceLostMoves_runs).symm
  have hcall : m.isCall = true := by
    revert m
    decide +kernel
  unfold Move.isCall at hcall
  split at hcall
  · exact trivial
  · simp at hcall

/-- The deployment is written to the snapshot, then proven. -/
def provenDeployment : List Move :=
  deployment storedConfig none
    ++ (.run (.call .checkpoint) [] :: submitMoves (sampleEvent 6 (sampleEffect "g" "a" .deploy 1 1 6)))
    
/-- The runtime has the first attempt of `a` with the outcome. -/
def firstAttemptIs (outcome : AttemptOutcome) (_seen : List Mark) (rt : FabricRuntime) : Bool :=
  rt.state.instances.any fun i => decide (i.id = sampleInstance "g" "a")
    && i.attempts.any fun a => decide (a.number = ⟨1⟩ ∧ a.outcome = outcome)

theorem firstAttemptIs_iff {outcome : AttemptOutcome} {seen : List Mark} {rt : FabricRuntime}
    (h : firstAttemptIs outcome seen rt = true) :
    ∃ i ∈ rt.state.instances, i.id = sampleInstance "g" "a"
      ∧ ∃ a ∈ i.attempts, a.number = ⟨1⟩ ∧ a.outcome = outcome := by
  simpa [firstAttemptIs] using h

/-- **A verified attempt is cancelled by the restart.**  The attempt is
verified after the snapshot was taken; after a crash the report is replayed
over the snapshot, with all fence serials dropped, and refused. -/
theorem reopened_attempt_cancelled :
    ¬ ∀ (pre post : List Move) (p q : Process), (System.after {} pre).process = some p →
      (System.after {} (pre ++ post)).process = some q →
      ∀ i ∈ p.runtime.state.instances, ∀ j ∈ q.runtime.state.instances, i.id = j.id →
      ∀ a ∈ i.attempts, ∀ b ∈ j.attempts, a.number = b.number → a.outcome ≠ .opened →
        b.outcome = a.outcome := by
  intro h
  obtain ⟨p, hp, hverified⟩ := desk_reaches provenDeployment (firstAttemptIs .verified)
    (by decide +kernel)
  obtain ⟨q, hq, hcancelled⟩ := desk_reaches
    (provenDeployment ++ [dies, .run (.start storedConfig) []]) (firstAttemptIs .cancelled)
    (by decide +kernel)
  obtain ⟨i, hi, hid, a, ha, hnumber, houtcome⟩ := firstAttemptIs_iff hverified
  obtain ⟨j, hj, hjd, b, hb, hbnumber, hboutcome⟩ := firstAttemptIs_iff hcancelled
  have hsame := h _ _ p q hp hq i hi j hj (hid.trans hjd.symm) a ha b hb
    (hnumber.trans hbnumber.symm) (by simp [houtcome])
  rw [hboutcome, houtcome] at hsame
  exact absurd hsame (by decide)

end DpuFabric
