/-
  Runtime.Restart — WHAT A RESTART TAKES AWAY.

  `open` ends a recovery with `fence_after_recovery`: every instance is
  fenced, every attempt closed, every serial forgotten.  Whatever the files
  hold, nothing is live afterwards, and nothing becomes Verified again
  without a report (`restart_revives_nothing`).

  Two things are NOT taken away.  The grants stay as the snapshot and the
  replay left them (`restart_revokes_iff`).  And the boot incarnation that
  tells old tokens from new ones is counted up from the snapshot's, or from
  the configured one where there is no snapshot: it is new only if that is
  not behind the boot of the tokens (`no_old_token_validates`).
-/
import DpuFabric.Engine.Grants
import DpuFabric.Runtime.Atomicity
import DpuFabric.Runtime.Shelved
import DpuFabric.Runtime.Withdrawal

namespace DpuFabric

open Lib Relation

variable {config : RuntimeConfig} {s : System} {w : RuntimeWorld} {rt : FabricRuntime}
  {b : BootIncarnation} {m : Move} {faults : List (Option Nat)} {d : DpuId} {r : AuthorityRegistry}

/-! ## §1. Liveness. -/

/-- The lifecycle states in which an instance counts as live. -/
def LifecycleState.Live : LifecycleState → Prop
  | .planned | .authorized | .deploying | .acknowledged | .verified => True
  | _ => False

instance : DecidablePred LifecycleState.Live := fun state => by
  cases state <;> unfold LifecycleState.Live <;> infer_instance

theorem fencedState_not_live (state : LifecycleState) : ¬ (fencedState state).Live := by
  cases state <;> simp [fencedState, LifecycleState.Live]

theorem claimedLiveness_iff (i : InstanceState) :
    i.claimedLiveness = true ↔ i.state.Live ∨ i.state = .unverified := by
  unfold InstanceState.claimedLiveness
  cases hstate : i.state <;> simp [LifecycleState.Live]

/-- The states after a recovery. -/
structure Quenched (s : RuntimeState) : Prop where
  fenced : ∀ i ∈ s.instances, ¬ i.state.Live ∧ i.Closed ∧ i.serving = false
  serials : s.fences.serials = []

theorem restartState_quenched (config : RuntimeConfig) (s : RuntimeState) :
    Quenched (restartState config s) := by
  refine ⟨fun i hi => ?_, rfl⟩
  obtain ⟨j, -, rfl⟩ := List.mem_map.mp (show i ∈ s.instances.map _ from hi)
  refine ⟨fencedState_not_live j.state, fenceInstance_closed j _ _, ?_⟩
  simp [InstanceState.serving, fenceInstance]

theorem mem_restartFenced (config : RuntimeConfig) (s : RuntimeState) (x : InstanceId) :
    x ∈ (restartState config s).restartFenced
      ↔ ∃ i ∈ s.instances, i.id = x ∧ (i.state.Live ∨ i.state = .unverified) := by
  simp only [restartState, fenceAfterRecovery, List.mem_map, List.mem_filter, claimedLiveness_iff]
  exact ⟨fun ⟨i, ⟨hi, hlive⟩, hid⟩ => ⟨i, hi, hid, hlive⟩,
    fun ⟨i, hi, hid, hlive⟩ => ⟨i, ⟨hi, hlive⟩, hid⟩⟩

theorem open_quenched {w' : RuntimeWorld} (h : FabricRuntime.open config w = (.ok rt, w')) :
    Quenched rt.state := by
  obtain ⟨-, ⟨hstate, -⟩ | ⟨r, n, hstate⟩⟩ := open_inv h
  · rw [hstate]
    exact ⟨by simp [initialState], rfl⟩
  rw [hstate]
  have hq := restartState_quenched config r.replayed.state
  exact ⟨hq.fenced, hq.serials⟩

/-- Every Verified instance was reported after the first `k` entries. -/
def VerifiedSince (k : Nat) (t : List (Action FileName Mark)) (s : RuntimeState) : Prop :=
  ∀ i ∈ s.instances, i.state = .verified → ReportedSince k t i.id

theorem step_verifiedSince {k : Nat} (hk : k ≤ s.trace.length) (hs : s.Traced (VerifiedSince k)) :
    (s.step m).Traced (VerifiedSince k) := by
  refine System.step_traced (fun t st u h i hi hv => (h i hi hv).mono u) (fun _ _ _ _ h => h)
    (fun t st h i hi hv => ?_) hs ?_ ?_
  · obtain ⟨j, hj, hsame⟩ := core_instance (core_refreshHealth st).symm hi
    rw [← InstanceState.withoutHealth_id hsame]
    exact h j hj ((InstanceState.withoutHealth_state hsame).trans hv)
  · intro config faults rt w _ _ hopen i hi hv
    exact absurd (show i.state.Live by rw [hv]; trivial) ((open_quenched hopen).fenced i hi).1
  intro p event faults hm hnext l n u htrace i hi hv
  have hp := hs p (System.next_process hnext)
  obtain ⟨j, hj, hsame⟩ := core_instance (core_advanceState
    (p.runtime.state.recounted l n) event p.runtime.config.bounds
    p.runtime.config.weights).symm hi
  rw [← InstanceState.withoutHealth_id hsame]
  have hjv : j.state = .verified := (InstanceState.withoutHealth_state hsame).trans hv
  have hfresh : (applyEvent (p.runtime.state.recounted l n) event p.runtime.config.bounds
      p.runtime.config.weights).1.applied = true → ReportsOn event j.id →
      ReportedSince k (s.trace ++ u ++ [.mark (.applied event (applyEvent
        (p.runtime.state.recounted l n) event p.runtime.config.bounds
        p.runtime.config.weights).1)]) j.id := by
    intro happlied hreports
    refine ⟨event, ?_, hreports⟩
    rw [List.append_assoc, List.drop_append_of_le_length hk, appliedEvents_append,
      appliedEvents_append]
    exact List.mem_append_right _ (List.mem_append_right _ (by simp [appliedEvents, happlied]))
  have hold : ∀ x ∈ p.runtime.state.instances, x.state = .verified → x.id = j.id →
      ReportedSince k (s.trace ++ u ++ [.mark (.applied event (applyEvent
        (p.runtime.state.recounted l n) event p.runtime.config.bounds
        p.runtime.config.weights).1)]) j.id := by
    intro x hx hxv hid
    rw [List.append_assoc, ← hid]
    exact (hp x hx hxv).mono _
  rcases applyEvent_cases (p.runtime.state.recounted l n) event p.runtime.config.bounds
    p.runtime.config.weights with (⟨-, hsame'⟩ | ⟨happlied, hacc⟩) | ⟨-, -, hfenced⟩
  · rw [hsame'] at hj
    exact hold j hj hjv rfl
  · obtain ⟨x, hx, hsteps⟩ := hacc.entries.origin hj
    rcases steps_verified_where hsteps hjv with ⟨hxv, -⟩ | hreports
    · rcases hx with hx | hcreated
      · exact hold x hx hxv (steps_id_eq hsteps).symm
      · cases hcreated
        simp [createdInstance] at hxv
    · exact hfresh happlied hreports
  · rw [hfenced] at hj
    exact hold j hj hjv rfl

theorem step_trace (s : System) (m : Move) : ∃ u, (s.step m).trace = s.trace ++ u := by
  cases m with
  | run op faults =>
    obtain ⟨u, hu, -⟩ := exec_traced s op faults
    exact ⟨u, hu⟩
  | crash op faults n => exact ⟨_, rfl⟩

theorem trace_length_mono (s : System) (m : Move) : s.trace.length ≤ (s.step m).trace.length := by
  obtain ⟨u, hu⟩ := step_trace s m
  rw [hu, List.length_append]
  omega

/-- **A restart revives no liveness.** -/
theorem restart_revives_nothing (pre : List Move) (config : RuntimeConfig)
    (faults : List (Option Nat)) (hnone : (System.after {} pre).process = none)
    (rt : FabricRuntime) (w : RuntimeWorld)
    (hopen : FabricRuntime.open config { trace := (System.after {} pre).trace, faults }
      = (.ok rt, w)) (r : Recovery config { trace := (System.after {} pre).trace, faults }) :
    (∀ i ∈ rt.state.instances, ¬ i.state.Live ∧ i.Closed ∧ i.serving = false)
      ∧ rt.state.fences.serials = []
      ∧ (∀ x, x ∈ rt.state.restartFenced ↔ ∃ i ∈ r.replayed.state.instances,
          i.id = x ∧ (i.state.Live ∨ i.state = .unverified))
      ∧ ∀ post q, (System.after ((System.after {} pre).step (.run (.start config) faults))
          post).process = some q →
        ∀ i ∈ q.runtime.state.instances, i.state = .verified →
          ReportedSince w.trace.length (System.after ((System.after {} pre).step
            (.run (.start config) faults)) post).trace i.id := by
  have hquenched := open_quenched hopen
  refine ⟨hquenched.fenced, hquenched.serials, fun x => ?_, fun post q hq => ?_⟩
  · obtain ⟨n, hstate⟩ := r.gives hopen
    rw [hstate]
    exact mem_restartFenced config r.replayed.state x
  · have hstep : (System.after {} pre).step (.run (.start config) faults)
        = { trace := w.trace, process := some { runtime := rt } } := by
      simp only [System.step, System.exec, hnone, hopen]
    rw [hstep] at hq ⊢
    have hinv : ∀ s m, (w.trace.length ≤ s.trace.length
        ∧ s.Traced (VerifiedSince w.trace.length)) →
        w.trace.length ≤ (System.step s m).trace.length
          ∧ (System.step s m).Traced (VerifiedSince w.trace.length) :=
      fun s m hs => ⟨hs.1.trans (trace_length_mono s m), step_verifiedSince hs.1 hs.2⟩
    refine (run_preserves hinv post ⟨le_refl _, fun p hp i hi hv => ?_⟩).2 q hq
    obtain rfl := Option.some.inj hp
    exact absurd (show i.state.Live by rw [hv]; trivial) (hquenched.fenced i hi).1

theorem recovery_of_instances {w' : RuntimeWorld}
    (hopen : FabricRuntime.open config w = (.ok rt, w'))
    (hsome : (!rt.bare.state.instances.isEmpty) = true) : Nonempty (Recovery config w) := by
  obtain ⟨-, ⟨hstate, -⟩ | ⟨r, -⟩⟩ := open_inv hopen
  · have hbare : rt.bare.state = initialState config := hstate
    rw [hbare] at hsome
    simp [initialState] at hsome
  · exact ⟨r⟩

theorem deployment_restart_fenced :
    ∃ rt w, FabricRuntime.open storedConfig
        { trace := (System.after {} (deployment storedConfig none ++ [dies])).trace, faults := [] }
        = (.ok rt, w)
      ∧ rt.state.instances ≠ []
      ∧ ∀ i ∈ rt.state.instances, ¬ i.state.Live ∧ i.Closed ∧ i.serving = false := by
  obtain ⟨rt, w, hopen, hsome⟩ := desk_reopens (deployment storedConfig none) storedConfig
    (fun _ rt => !rt.state.instances.isEmpty) (by decide +kernel)
  obtain ⟨r⟩ := recovery_of_instances hopen hsome
  refine ⟨rt, w, hopen, ?_,
    (restart_revives_nothing _ _ _ (dies_none {} _) rt w hopen r).1⟩
  intro hnil
  have hbare : rt.bare.state.instances = [] := hnil
  rw [hbare] at hsome
  simp at hsome

/-! ## §2. Tokens. -/

theorem larger_boot (config : RuntimeConfig) (s : RuntimeState) :
    (if s.boot < config.boot then config.boot else s.boot) = max config.boot s.boot := by
  split
  · next h => exact (max_eq_left (le_of_lt h)).symm
  · next h => exact (max_eq_right (not_lt.mp h)).symm

theorem le_nextBoot (config : RuntimeConfig) (s : RuntimeState) :
    max config.boot s.boot ≤ nextBoot config s := by
  have hlarger : ∀ boot candidate : BootIncarnation,
      boot ≤ if candidate < boot then boot else candidate := by
    intro boot candidate
    split
    · exact le_refl _
    · next hle => exact not_lt.mp hle
  simp only [nextBoot, larger_boot]
  exact hlarger _ _

theorem lt_nextBoot {s : RuntimeState} (hb : b ≤ max config.boot s.boot)
    (hmax : (max config.boot s.boot).value.toNat + 1 < 2 ^ 64) : b < nextBoot config s := by
  have hboot := larger_boot config s
  generalize hm : max config.boot s.boot = m at hb hmax hboot
  have hadd : (m.value + 1).toNat = m.value.toNat + 1 := by
    rw [UInt64.toNat_add, UInt64.toNat_one]
    omega
  have hnext : m.next = .ok ⟨m.value + 1⟩ := by
    have hsum : checkedAdd m.value 1 = some (m.value + 1) := if_pos hmax
    simp only [Counter.next, hsum]
  have hlt : m < (⟨m.value + 1⟩ : BootIncarnation) := by
    show m.value.toNat < (m.value + 1).toNat
    omega
  simp only [nextBoot, hboot, hnext, if_neg (not_lt.mpr (le_of_lt hlt))]
  exact lt_of_le_of_lt hb hlt

theorem applyEvent_boot (s : RuntimeState) (event : FabricEvent) (bounds : RuntimeBounds)
    (weights : PlacementWeights) : (applyEvent s event bounds weights).2.boot = s.boot := by
  rcases applyEvent_cases s event bounds weights with (⟨-, hsame⟩ | ⟨-, hacc⟩) | ⟨-, -, hfenced⟩
  · rw [hsame]
  · generalize (applyEvent s event bounds weights).2 = s' at hacc ⊢
    cases hacc with
    | topology body dpus => exact removeDevices_keep (f := RuntimeState.boot) (fun _ _ => rfl) _ _
    | _ => rfl
  · rw [hfenced]

/-- The process that the move starts, if any, gets a boot above `b`: the
larger of the configured boot and the one that the base carries is not below
`b` and not exhausted, or nothing is recorded and the configured boot is
above `b`. -/
def BootMovesOn (b : BootIncarnation) (s : System) : Move → Prop
  | .run (.start config) faults => s.process = none →
      (FindsNothing config { trace := s.trace, faults } → b < config.boot)
        ∧ ∀ r : Recovery config { trace := s.trace, faults },
            b ≤ max config.boot r.base.state.boot
              ∧ (max config.boot r.base.state.boot).value.toNat + 1 < 2 ^ 64
  | _ => True

theorem Recovery.replayed_boot (r : Recovery config w) :
    r.replayed.state.boot = r.base.state.boot := by
  have hkeep : ∀ (s : RuntimeState) event l, True → s.boot = r.base.state.boot →
      (replayState (s.recounted l s.journaledEvents) event config.bounds config.weights).boot
        = r.base.state.boot := by
    intro s event l _ hs
    have happly := applyEvent_boot (s.recounted l s.journaledEvents) event config.bounds
      config.weights
    unfold replayState raiseWatermark
    split
    all_goals exact happly.trans hs
  have hrule := (replayRecords_rule (P := fun s => s.boot = r.base.state.boot)
    (E := fun _ => True) hkeep r.base.state.watermark r.loaded.records r.based r.hconfig
    (fun _ _ _ _ _ => trivial) rfl).2
  rw [r.hreplay] at hrule
  exact hrule

theorem open_boot
    (hguard : BootMovesOn b s (.run (.start config) faults)) (hnone : s.process = none)
    (hopen : FabricRuntime.open config { trace := s.trace, faults } = (.ok rt, w)) :
    b < rt.state.boot := by
  obtain ⟨hfresh, hrecovered⟩ := hguard hnone
  obtain ⟨-, ⟨hstate, hnothing⟩ | ⟨r, n, hstate⟩⟩ := open_inv hopen
  · rw [hstate]
    exact hfresh hnothing
  obtain ⟨hb, hmax⟩ := hrecovered r
  rw [hstate]
  rw [← r.replayed_boot] at hb hmax
  exact lt_nextBoot hb hmax

theorem boot_of_core {s t : RuntimeState} (h : core s = core t) : s.boot = t.boot := by
  have hfield := congrArg RuntimeState.boot h
  exact hfield

theorem step_boot (hs : s.Holds (fun st => b < st.boot)) (hm : BootMovesOn b s m) :
    (s.step m).Holds (fun st => b < st.boot) := by
  refine System.step_holds (fun h hlt => boot_of_core h ▸ hlt) hs ?_ ?_
  · rintro config faults rt w rfl hnone hopen
    exact open_boot hm hnone hopen
  intro p event faults _ hnext l n
  rw [applyEvent_boot]
  exact hs p (System.next_process hnext)

/-- **No old token validates again.**  Once the process is gone, no token of
its boot validates in any later lifetime, as long as every start moves the
boot on. -/
theorem no_old_token_validates (pre : List Move) (p : Process)
    (hp : (System.after {} pre).process = some p) (x : InstanceId) (token : FenceToken)
    (hvalid : p.runtime.state.fences.validate x token = true) (stop : List Move)
    (hnone : (System.after (System.after {} pre) stop).process = none) (post : List Move)
    (hpost : Meets System.step (BootMovesOn p.runtime.state.boot)
      (System.after (System.after {} pre) stop) post) (q : Process)
    (hq : (System.after (System.after (System.after {} pre) stop) post).process = some q) :
    q.runtime.state.fences.validate x token = false := by
  have hcarry : ∀ moves q, (System.after {} moves).process = some q →
      FencesCarry q.runtime.state := fun moves => run_fencesCarry [] moves
  have hboot : token.boot = p.runtime.state.boot := by
    simp only [FenceIssuer.validate, Bool.and_eq_true, decide_eq_true_eq] at hvalid
    rw [hvalid.1.2, (hcarry pre p hp).boot]
  have hlater : p.runtime.state.boot < q.runtime.state.boot := by
    have hstep : ∀ s m, s.Holds (fun st => p.runtime.state.boot < st.boot) →
        BootMovesOn p.runtime.state.boot s m →
        (System.step s m).Holds (fun st => p.runtime.state.boot < st.boot) :=
      fun _ _ => step_boot
    refine run_invariant hstep (fun p' hp' => ?_) hpost q hq
    rw [hnone] at hp'
    simp at hp'
  have hq' : FencesCarry q.runtime.state := by
    refine hcarry (pre ++ stop ++ post) q ?_
    simp only [System.after, runMoves_append] at hq ⊢
    exact hq
  by_contra hagain
  simp only [Bool.not_eq_false, FenceIssuer.validate, Bool.and_eq_true, decide_eq_true_eq]
    at hagain
  rw [← hboot, hagain.1.2, hq'.boot] at hlater
  exact lt_irrefl _ hlater

/-- A start that comes up short of the last boot has moved on. -/
theorem bootMovesOn_of_open
    (hopen : FabricRuntime.open config { trace := s.trace, faults } = (.ok rt, w))
    (r : Recovery config { trace := s.trace, faults }) (hb : b ≤ config.boot)
    (hroom : rt.state.boot.value.toNat + 1 < 2 ^ 64) :
    BootMovesOn b s (.run (.start config) faults) := by
  refine fun _ => ⟨fun hnothing => absurd hnothing r.finds, fun r' => ?_⟩
  obtain ⟨n, hstate⟩ := r'.gives hopen
  have hboot : rt.state.boot = nextBoot config r'.replayed.state := by
    rw [hstate]
    rfl
  have hle := le_nextBoot config r'.replayed.state
  rw [← hboot, r'.replayed_boot] at hle
  have hnat : (max config.boot r'.base.state.boot).value.toNat ≤ rt.state.boot.value.toNat := hle
  exact ⟨hb.trans (le_max_left _ _), by omega⟩

theorem System.start_process (hnone : s.process = none)
    (hopen : FabricRuntime.open config { trace := s.trace, faults } = (.ok rt, w)) :
    (s.after [.run (.start config) faults]).process = some { runtime := rt } := by
  simp only [System.after, runMoves_cons, runMoves_nil, System.step, System.exec, hnone, hopen]

/-- The configured boot set to `n`. -/
def bootConfig (n : UInt64) : RuntimeConfig := { storedConfig with boot := ⟨n⟩ }

/-- The first token that a process of that boot issues. -/
def firstToken (n : UInt64) : FenceToken := { epoch := ⟨1⟩, boot := ⟨n⟩, serial := 1 }

/-- A process with a valid first token. -/
def holdsFirst (n : UInt64) (_ : List Mark) (rt : FabricRuntime) : Bool :=
  rt.state.fences.validate (sampleInstance "g" "a") (firstToken n) && decide (rt.state.boot = ⟨n⟩)

theorem deployed_token_retired :
    ∃ q, (System.after (System.after (System.after {} (deployment (bootConfig 5) none)) [dies])
        [.run (.start (bootConfig 5)) []]).process = some q
      ∧ q.runtime.state.fences.validate (sampleInstance "g" "a") (firstToken 5) = false := by
  obtain ⟨p, hp, hfirst⟩ := desk_reaches (deployment (bootConfig 5) none) (holdsFirst 5)
    (by decide +kernel)
  obtain ⟨rt, w, hopen, hnew⟩ := desk_reopens (deployment (bootConfig 5) none) (bootConfig 5)
    (fun _ rt => !rt.state.instances.isEmpty && decide (rt.state.boot = ⟨6⟩)) (by decide +kernel)
  obtain ⟨hvalid, hfive⟩ := Bool.and_eq_true_iff.mp hfirst
  obtain ⟨hsome, hsix⟩ := Bool.and_eq_true_iff.mp hnew
  obtain ⟨r⟩ := recovery_of_instances hopen hsome
  have hboot : p.runtime.state.boot = ⟨5⟩ := of_decide_eq_true hfive
  have hboot' : rt.state.boot = ⟨6⟩ := of_decide_eq_true hsix
  generalize deployment (bootConfig 5) none = moves at hp hopen r ⊢
  have hsplit : System.after (System.after {} moves) [dies] = System.after {} (moves ++ [dies]) := by
    simp only [System.after, runMoves_append]
  have hnone := dies_none {} moves
  rw [← hsplit] at hopen hnone r
  refine ⟨_, System.start_process hnone hopen, ?_⟩
  have hguard : BootMovesOn p.runtime.state.boot (System.after (System.after {} moves) [dies])
      (.run (.start (bootConfig 5)) []) := by
    refine bootMovesOn_of_open hopen r ?_ ?_
    · rw [hboot]
      exact le_refl _
    · rw [hboot']
      decide
  exact no_old_token_validates moves p hp _ _ hvalid [dies] hnone [.run (.start (bootConfig 5)) []]
    ⟨hguard, trivial⟩ _ (System.start_process hnone hopen)

/-- **The boot of a restart is not always new.**  The first process, with
boot 5, leaves a journal and no snapshot; the second is configured with boot
4, counts it up, and issues the first token of the first process again. -/
theorem old_token_validates :
    ∃ p q, (System.after {} (deployment (bootConfig 5) none)).process = some p
      ∧ p.runtime.state.fences.validate (sampleInstance "g" "a") (firstToken 5) = true
      ∧ (System.after {} (deployment (bootConfig 5) none ++ [dies])).process = none
      ∧ (System.after {} (deployment (bootConfig 5) none ++ [dies]
          ++ .run (.start (bootConfig 4)) []
            :: submitMoves (sampleEvent 6 (sampleIntent .deploy "g" 2 ["a"])))).process = some q
      ∧ q.runtime.state.fences.validate (sampleInstance "g" "a") (firstToken 5) = true := by
  obtain ⟨p, hp, hfirst⟩ := desk_reaches (deployment (bootConfig 5) none) (holdsFirst 5)
    (by decide +kernel)
  obtain ⟨q, hq, hagain⟩ := desk_reaches _ (holdsFirst 5)
    (show (deskRun (deployment (bootConfig 5) none ++ [dies] ++ .run (.start (bootConfig 4)) []
      :: submitMoves (sampleEvent 6 (sampleIntent .deploy "g" 2 ["a"])))).any _ = true by
        decide +kernel)
  exact ⟨p, q, hp, (Bool.and_eq_true_iff.mp hfirst).1, dies_none {} _, hq,
    (Bool.and_eq_true_iff.mp hagain).1⟩

/-! ## §3. Grants. -/

/-- The event is an intent whose plan places a service with this exclusive
scope on the device. -/
def Claims (s : RuntimeState) (event : FabricEvent) (bounds : RuntimeBounds)
    (weights : PlacementWeights) (d : DpuId) (scope : ExclusiveScopeId) : Prop :=
  ∃ group plan, Planned s event bounds weights group plan
    ∧ ∃ p ∈ ServicePlan.flatten plan.services, p.2.dpu = d
      ∧ (findService s.services p.1.service).bind (fun definition => definition.isolation.exclusiveScope)
          = some scope

section Grants

variable {s s' : RuntimeState} {event : FabricEvent} {bounds : RuntimeBounds}
  {weights : PlacementWeights} {g : AuthorityGrant}

theorem Claims.of_recounted {l : TruncationLedger} {n : UInt64}
    {scope : ExclusiveScopeId} (h : Claims (s.recounted l n) event bounds weights d scope) :
    Claims s event bounds weights d scope := by
  obtain ⟨group, plan, ⟨body, hbody, hgroup, hplan⟩, hp⟩ := h
  rw [intentPlan_recounted] at hplan
  exact ⟨group, plan, ⟨body, hbody, hgroup, hplan⟩, hp⟩

theorem mem_release {scope : ExclusiveScopeId} (h : g ∈ (r.release scope d).2.grants) :
    g ∈ r.grants := by
  unfold AuthorityRegistry.release at h
  split at h
  · split at h
    · exact List.mem_of_mem_eraseIdx h
    · exact h
  · exact h

theorem mem_releaseDevice (h : g ∈ (releaseDevice r d).grants) : g ∈ r.grants := by
  have hloop : ∀ (scopes : List ExclusiveScopeId) (r : AuthorityRegistry),
      g ∈ (scopes.foldl (fun r scope => (r.release scope d).2) r).grants → g ∈ r.grants := by
    intro scopes
    induction scopes with
    | nil => exact fun _ h => h
    | cons scope scopes ih => exact fun r h => mem_release (ih _ h)
  exact hloop _ r h

/-- A grant after the claims of a plan was there before, or the plan places
its scope on its device. -/
theorem mem_claimAll {group : ServiceGroup} {plan : DeploymentPlan}
    (h : claimAll s event group bounds plan = .ok r) (hg : g ∈ r.grants) :
    g ∈ s.authority.grants
      ∨ ∃ p ∈ ServicePlan.flatten plan.services, p.2.dpu = g.dpu
          ∧ (findService s.services p.1.service).bind (fun definition => definition.isolation.exclusiveScope)
              = some g.scope := by
  refine foldlM_invariant (P := fun r => ∀ g ∈ r.grants, g ∈ s.authority.grants
    ∨ ∃ p ∈ ServicePlan.flatten plan.services, p.2.dpu = g.dpu
        ∧ (findService s.services p.1.service).bind (fun definition => definition.isolation.exclusiveScope)
            = some g.scope) (fun p hp r r' hr hstep => ?_) (fun _ => .inl) h g hg
  intro g hg
  unfold claimReplica at hstep
  split at hstep
  · rw [← Except.ok.inj hstep] at hg
    exact hr g hg
  next scope hscope =>
  split at hstep
  · next hclaim =>
    rw [← Except.ok.inj hstep] at hg
    rcases AuthorityRegistry.mem_claim hclaim hg with hg | ⟨hd, hs⟩
    · exact hr g hg
    · exact .inr ⟨p, hp, hd.symm, hs ▸ hscope⟩
  · simp at hstep

theorem Accepted.grant_origin (h : Accepted s event bounds weights s')
    (hg : g ∈ s'.authority.grants) :
    g ∈ s.authority.grants ∨ Claims s event bounds weights g.dpu g.scope := by
  cases h with
  | coordinator => simp [advanceCoordinator, AuthorityRegistry.fenceAll] at hg
  | topology body dpus =>
    left
    have hg' : g ∈ (List.foldl (removeDevice event) _ _).authority.grants := hg
    rw [removeDevices_authority] at hg'
    have hloop : ∀ (removed : List DpuId) (r : AuthorityRegistry),
        g ∈ (removed.foldl releaseDevice r).grants → g ∈ r.grants := by
      intro removed
      induction removed with
      | nil => exact fun _ h => h
      | cons d removed ih => exact fun r h => mem_releaseDevice (ih _ h)
    exact hloop _ _ hg'
  | lost => exact .inl (mem_releaseDevice hg)
  | withdrawn => exact .inl (mem_releaseDevice hg)
  | intent body group plan authority r hbody hgroup hplan hclaims =>
    exact (mem_claimAll hclaims hg).imp_right fun hp =>
      ⟨group, plan, ⟨body, hbody, hgroup, hplan⟩, hp⟩
  | _ => exact .inl hg

theorem applyEvent_grant_origin (hg : g ∈ (applyEvent s event bounds weights).2.authority.grants) :
    g ∈ s.authority.grants
      ∨ ((applyEvent s event bounds weights).1.applied = true
          ∧ Claims s event bounds weights g.dpu g.scope) := by
  rcases applyEvent_cases s event bounds weights with
    (⟨-, hsame⟩ | ⟨happlied, hacc⟩) | ⟨-, -, hfenced⟩
  · rw [hsame] at hg
    exact .inl hg
  · exact (hacc.grant_origin hg).imp_right fun h => ⟨happlied, h⟩
  · rw [hfenced] at hg
    simp [AuthorityRegistry.fenceAll] at hg

end Grants

/-- The move applies an intent that claims the device for the scope. -/
def ClaimsIn (s : System) (m : Move) (d : DpuId) (scope : ExclusiveScopeId) : Prop :=
  ∃ p event, s.process = some p ∧ event ∈ s.applies m
    ∧ Claims p.runtime.state event p.runtime.config.bounds p.runtime.config.weights d scope

/-- A move of the run does. -/
def ClaimsDuring (s : System) (post : List Move) (d : DpuId) (scope : ExclusiveScopeId) : Prop :=
  ∃ before m after, post = before ++ m :: after ∧ ClaimsIn (System.after s before) m d scope

/-- Within a lifetime, a grant was there before the move or the move claims
it. -/
theorem step_grant_origin (halive : s.process ≠ none) {q : Process}
    (hq : (s.step m).process = some q) {g : AuthorityGrant}
    (hg : g ∈ q.runtime.state.authority.grants) :
    (∃ p, s.process = some p ∧ g ∈ p.runtime.state.authority.grants)
      ∨ ClaimsIn s m g.dpu g.scope := by
  have htraced : (s.step m).Traced (fun _ st => ∀ g ∈ st.authority.grants,
      (∃ p, s.process = some p ∧ g ∈ p.runtime.state.authority.grants)
        ∨ ClaimsIn s m g.dpu g.scope) := by
    refine System.step_traced (fun _ _ _ h => h) (fun _ _ _ _ h => h) (fun _ _ h => h)
      (fun p hp g hg => .inl ⟨p, hp, hg⟩) ?_ ?_
    · intro config faults rt w _ hnone
      exact absurd hnone halive
    intro p event faults _ hnext l n u htrace g hg
    have hp := System.next_process hnext
    have hauthority := congrArg RuntimeState.authority (core_advanceState
      (p.runtime.state.recounted l n) event p.runtime.config.bounds p.runtime.config.weights)
    have hg' : g ∈ (applyEvent (p.runtime.state.recounted l n) event p.runtime.config.bounds
        p.runtime.config.weights).2.authority.grants := by
      have heq : (advanceState (p.runtime.state.recounted l n) event p.runtime.config.bounds
        p.runtime.config.weights).authority = (applyEvent (p.runtime.state.recounted l n) event
          p.runtime.config.bounds p.runtime.config.weights).2.authority := hauthority
      rwa [heq] at hg
    rcases applyEvent_grant_origin hg' with hold | ⟨happlied, hclaims⟩
    · exact .inl ⟨p, hp, hold⟩
    · exact .inr ⟨p, event, hp, System.mem_applies htrace happlied, hclaims.of_recounted⟩
  exact htraced q hq g hg

/-- In a lifetime that starts without grants, every grant was claimed in it. -/
theorem grants_claimed
    (hempty : ∀ p, s.process = some p → p.runtime.state.authority.grants = []) (post : List Move)
    (halive : Meets System.step (fun s _ => s.process ≠ none) s post) {q : Process}
    (hq : (System.after s post).process = some q) {g : AuthorityGrant}
    (hg : g ∈ q.runtime.state.authority.grants) : ClaimsDuring s post g.dpu g.scope := by
  induction post using List.reverseRecOn generalizing q g with
  | nil =>
    rw [hempty q hq] at hg
    simp at hg
  | append_singleton before m ih =>
    obtain ⟨hbefore, hm⟩ := meets_append.mp halive
    rw [System.after, runMoves_append] at hq
    rcases step_grant_origin hm.1 hq hg with ⟨p, hp, hold⟩ | hclaims
    · obtain ⟨first, m', rest, rfl, hclaims⟩ := ih hbefore hp hold
      exact ⟨first, m', rest ++ [m], by simp, hclaims⟩
    · exact ⟨before, m, [], rfl, hclaims⟩

end DpuFabric
