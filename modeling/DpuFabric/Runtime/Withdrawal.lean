/-
  Runtime.Withdrawal — WITHDRAWALS, IN PROGRESS AND DONE.

  A withdrawal opens an attempt like a deployment does, and a report on it is
  checked like any other: `reduce_effect` looks at the kind of the REPORT, not
  at what the attempt was opened for.  So a successful report of another kind
  turns the withdrawal into a verified deployment.  Without such a report the
  instance stays down until an intent plans it again, restarts included, since
  `open` fences everything.

  A finished withdrawal is stable under every reducer but the bulk loops of a
  loss and of an observed topology: they move the instances of the device to
  Lost whatever their state.
-/
import DpuFabric.Engine.Ledger
import DpuFabric.Runtime.Lasting
import DpuFabric.Runtime.Traced

namespace DpuFabric

open Lib Relation

variable {x : InstanceId} {config : RuntimeConfig}

/-- The instance is in the table, and in the given state. -/
def RuntimeState.InState (s : RuntimeState) (x : InstanceId) (state : LifecycleState) : Prop :=
  (∃ i ∈ s.instances, i.id = x) ∧ ∀ i ∈ s.instances, i.id = x → i.state = state

instance (s : RuntimeState) (x : InstanceId) (state : LifecycleState) :
    Decidable (s.InState x state) :=
  inferInstanceAs (Decidable (_ ∧ _))

/-- No intent that the move applies plans the instance. -/
def Unplanned (x : InstanceId) : System → Move → Prop :=
  OnApply fun p event =>
    x ∉ intentIds p.runtime.state event p.runtime.config.bounds p.runtime.config.weights

instance (x : InstanceId) (s : System) (m : Move) : Decidable (Unplanned x s m) :=
  inferInstanceAs (Decidable (OnApply _ s m))

/-! ## §1. A withdrawal in progress. -/

/-- The instance neither runs nor is authorized to. -/
def InstanceState.Stopped (i : InstanceState) : Prop :=
  i.state ≠ .verified ∧ i.state ≠ .authorized

/-- The event is a successful report on the instance, of another kind than a
withdrawal, and passes every check. -/
def ProvesDeployment (s : RuntimeState) (event : FabricEvent) (x : InstanceId) : Prop :=
  match event.body with
  | .effectReported body =>
    body.report.instanceId = x ∧ body.report.status ≠ .failed ∧ body.report.kind ≠ .withdraw
      ∧ (checkEffect s event body.report).toOption.isSome = true
  | _ => False

instance (s : RuntimeState) (event : FabricEvent) (x : InstanceId) :
    Decidable (ProvesDeployment s event x) := by
  unfold ProvesDeployment
  generalize event.body = body
  apply @FabricEventBody.casesOn _ body <;> infer_instance

theorem fencedState_stopped (state : LifecycleState) :
    fencedState state ≠ .verified ∧ fencedState state ≠ .authorized := by
  cases state <;> simp [fencedState]

section Steps

variable {s : RuntimeState} {event : FabricEvent} {bounds : RuntimeBounds}
  {weights : PlacementWeights} {i j : InstanceState}

theorem InstanceStep.stopped (h : InstanceStep s event bounds weights i j)
    (hplan : i.id ∉ intentIds s event bounds weights) (hreport : ¬ ProvesDeployment s event i.id)
    (hi : i.Stopped) : j.Stopped := by
  cases h with
  | refreshed _ t =>
    rw [InstanceState.Stopped, InstanceState.withoutHealth_state (refreshInstance_withoutHealth t i)]
    exact hi
  | stale _ clock dpus =>
    rw [InstanceState.Stopped,
      InstanceState.withoutHealth_state (markStale_withoutHealth clock dpus i)]
    exact hi
  | fenced => exact fencedState_stopped i.state
  | lost => exact ⟨by simp [loseInstance], by simp [loseInstance]⟩
  | quiesced | acknowledged | failed | withdrawn | retired | withdrawing =>
    constructor <;> rintro ⟨⟩
  | verified body k _ hbody hchecks hstatus hkind =>
    refine absurd ?_ hreport
    rw [ProvesDeployment, hbody]
    exact ⟨(findInstance_some (checkEffect_find hchecks)).2.symm, hstatus, hkind,
      by rw [hchecks]; rfl⟩
  | replaced group plan hplanned p hp _ hid => exact absurd (hid ▸ hplanned.mem_ids hp) hplan
  | reattempted group plan hplanned p hp _ hid => exact absurd (hid ▸ hplanned.mem_ids hp) hplan
  | covered => exact hi

end Steps

/-- Every entry of the instance is stopped. -/
def TableStopped (x : InstanceId) (instances : List InstanceState) : Prop :=
  ∀ i ∈ instances, i.id = x → i.Stopped

theorem TableStopped.of_core {xs ys : List InstanceState}
    (h : xs.map InstanceState.withoutHealth = ys.map InstanceState.withoutHealth)
    (hx : TableStopped x xs) : TableStopped x ys := by
  intro i hi hid
  obtain ⟨j, hj, hsame⟩ := List.mem_map.mp (h ▸ List.mem_map_of_mem hi)
  rw [InstanceState.Stopped, ← InstanceState.withoutHealth_state hsame]
  exact hx j hj ((InstanceState.withoutHealth_id hsame).trans hid)

theorem open_stopped {w w' : RuntimeWorld} {rt : FabricRuntime}
    (h : FabricRuntime.open config w = (.ok rt, w')) (x : InstanceId) :
    TableStopped x rt.state.instances := by
  obtain ⟨-, ⟨hstate, -⟩ | ⟨r, n, hstate⟩⟩ := open_inv h
  · rw [hstate]
    exact fun i hi => absurd hi (by simp [initialState])
  rw [hstate]
  intro i hi _
  obtain ⟨j, -, rfl⟩ := List.mem_map.mp
    (show i ∈ r.replayed.state.instances.map _ from hi)
  exact fencedState_stopped j.state

/-- The event that the move applies is no proof of a deployment of the
instance. -/
def NoDeploymentProof (x : InstanceId) : System → Move → Prop :=
  OnApply fun p event => ¬ ProvesDeployment p.runtime.state event x

instance (x : InstanceId) (s : System) (m : Move) : Decidable (NoDeploymentProof x s m) :=
  inferInstanceAs (Decidable (OnApply _ s m))

theorem step_stopped {s : System} {m : Move} (hs : s.Holds (fun st => TableStopped x st.instances))
    (hm : Unplanned x s m ∧ NoDeploymentProof x s m) :
    (s.step m).Holds (fun st => TableStopped x st.instances) := by
  refine System.step_instances TableStopped.of_core hs ?_ ?_
  · rintro config faults rt w - - hopen
    exact open_stopped hopen x
  rintro p event faults rfl hnext happlies l n s' hacc
  have hplan : x ∉ intentIds (p.runtime.state.recounted l n) event p.runtime.config.bounds
      p.runtime.config.weights := by
    rw [intentIds_recounted]
    exact hm.1 (p, event) hnext happlies
  exact hacc.entries.unplanned hplan
    (fun i j hid hstep => hstep.stopped (hid ▸ hplan) (hid ▸ hm.2 (p, event) hnext happlies))
    (hs p (System.next_process hnext))

/-- The move applies a withdrawal that leaves the instance Quiescing. -/
structure Withdraws (s : System) (m : Move) (x : InstanceId) : Prop where
  accepted : ∃ event ∈ s.applies m, ∃ body, event.body = .intentSubmitted body
    ∧ body.intent.kind = .withdraw
  quiescing : ∃ q, (s.step m).process = some q ∧ q.runtime.state.InState x .quiescing

/-- **A withdrawal stays a withdrawal.**  Once a withdrawal has put an
instance in Quiescing, the instance is never Verified, Authorized or serving
again as long as no applied intent plans it and no report proves a deployment
of it. -/
theorem withdrawal_stays_stopped (pre : List Move) (m : Move) (x : InstanceId)
    (hwithdraws : Withdraws (System.after {} pre) m x) (post : List Move)
    (hpost : Meets System.step (fun s m => Unplanned x s m ∧ NoDeploymentProof x s m)
      ((System.after {} pre).step m) post)
    (p : Process) (hp : (System.after ((System.after {} pre).step m) post).process = some p) :
    ∀ i ∈ p.runtime.state.instances, i.id = x →
      i.state ≠ .verified ∧ i.state ≠ .authorized ∧ i.serving = false := by
  have hstart : ((System.after {} pre).step m).Holds (fun st => TableStopped x st.instances) := by
    obtain ⟨q, hq, -, hstate⟩ := hwithdraws.quiescing
    intro q' hq' i hi hid
    obtain rfl := Option.some.inj (hq.symm.trans hq')
    rw [InstanceState.Stopped, hstate i hi hid]
    exact ⟨nofun, nofun⟩
  have hstep : ∀ s m, s.Holds (fun st => TableStopped x st.instances) →
      Unplanned x s m ∧ NoDeploymentProof x s m →
      (System.step s m).Holds (fun st => TableStopped x st.instances) := fun _ _ => step_stopped
  have hlast := run_invariant hstep hstart hpost
  intro i hi hid
  obtain ⟨hverified, hauthorized⟩ := hlast p hp i hi hid
  exact ⟨hverified, hauthorized, by simp [InstanceState.serving, hverified]⟩

/-- Service `a` is deployed and verified; its withdrawal is released. -/
def withdrawalReleased : List Move :=
  .run (.start sampleConfig) [] ::
    [sampleEvent 1 (sampleTopology ["d"]), sampleEvent 2 samplePolicy,
     sampleEvent 3 (sampleService "a" none), sampleEvent 4 (sampleGroup "g" ["a"]),
     sampleEvent 5 (sampleIntent .deploy "g" 1 ["a"]),
     sampleEvent 6 (sampleEffect "g" "a" .deploy 1 1 6)].flatMap submitMoves
    ++ (submitMoves (sampleEvent 7 (sampleIntent .withdraw "g" 2 ["a"]))).take 2

/-- The system once the withdrawal is accepted. -/
def withdrawingSystem : System :=
  (System.after {} withdrawalReleased).step (.run (.call .flushEvent) [])

/-- A report of the given kind on the withdrawal's attempt. -/
def withdrawalReport (kind : EffectKind) : List Move :=
  .run (.call .flushEnd) [] :: submitMoves (sampleEvent 8 (sampleEffect "g" "a" kind 2 2 8))

theorem withdrawingSystem_withdraws :
    Withdraws (System.after {} withdrawalReleased) (.run (.call .flushEvent) [])
      (sampleInstance "g" "a") := by
  refine ⟨⟨sampleEvent 7 (sampleIntent .withdraw "g" 2 ["a"]), by decide +kernel, _, rfl, rfl⟩, ?_⟩
  have hruns : (withdrawingSystem.process.any (fun q =>
      decide (q.runtime.state.InState (sampleInstance "g" "a") .quiescing))) = true := by
    decide +kernel
  obtain ⟨q, hq, hstate⟩ := (Option.any_eq_true _ _).mp hruns
  exact ⟨q, hq, of_decide_eq_true hstate⟩

theorem withdrawalReport_runs :
    (System.after withdrawingSystem (withdrawalReport .withdraw)).process.isSome = true := by
  decide +kernel

/-- The report of the withdrawal leaves the instance down. -/
theorem withdrawal_reported_stopped :
    Withdraws (System.after {} withdrawalReleased) (.run (.call .flushEvent) [])
        (sampleInstance "g" "a")
      ∧ ∀ i ∈ ((System.after withdrawingSystem (withdrawalReport .withdraw)).process.get
          withdrawalReport_runs).runtime.state.instances,
        i.id = sampleInstance "g" "a" →
          i.state ≠ .verified ∧ i.state ≠ .authorized ∧ i.serving = false :=
  ⟨withdrawingSystem_withdraws,
    withdrawal_stays_stopped withdrawalReleased (.run (.call .flushEvent) []) _
      withdrawingSystem_withdraws (withdrawalReport .withdraw) (by decide +kernel) _
      (Option.some_get withdrawalReport_runs).symm⟩

/-- A successful report of a deployment on the withdrawal's attempt verifies
the instance. -/
theorem withdrawal_reported_as_deployment :
    ¬ ∀ (pre : List Move) (m : Move) (x : InstanceId), Withdraws (System.after {} pre) m x →
      ∀ post, Meets System.step (Unplanned x) ((System.after {} pre).step m) post →
      ∀ p, (System.after ((System.after {} pre).step m) post).process = some p →
      ∀ i ∈ p.runtime.state.instances, i.id = x →
        i.state ≠ .verified ∧ i.state ≠ .authorized ∧ i.serving = false := by
  intro h
  have hbad : ((System.after withdrawingSystem (withdrawalReport .deploy)).process.any (fun p =>
      p.runtime.state.instances.any (fun i =>
        decide (i.id = sampleInstance "g" "a") && decide (i.state = .verified)))) = true := by
    decide +kernel
  obtain ⟨p, hp, hany⟩ := (Option.any_eq_true _ _).mp hbad
  obtain ⟨i, hi, hverified⟩ := List.any_eq_true.mp hany
  simp only [Bool.and_eq_true, decide_eq_true_eq] at hverified
  exact (h withdrawalReleased (.run (.call .flushEvent) []) _ withdrawingSystem_withdraws
    (withdrawalReport .deploy) (by decide +kernel) p hp i hi hverified.1).1 hverified.2

/-! ## §2. A finished withdrawal. -/

/-- The instance is withdrawn, and nothing is attempted on it. -/
def InstanceState.Retired (i : InstanceState) : Prop := i.state = .withdrawn ∧ i.Closed

instance (i : InstanceState) : Decidable i.Retired := inferInstanceAs (Decidable (_ ∧ _))

instance (t : TopologySnapshot) (d : DpuId) : Decidable (t.Lists d) :=
  inferInstanceAs (Decidable (∃ r ∈ t.dpus, _))

instance (s : RuntimeState) (event : FabricEvent) (d : DpuId) : Decidable (TakesAway s event d) := by
  unfold TakesAway
  generalize event.body = body
  apply @FabricEventBody.casesOn _ body <;> infer_instance

section Steps

variable {s : RuntimeState} {event : FabricEvent} {bounds : RuntimeBounds}
  {weights : PlacementWeights} {i j : InstanceState}

theorem InstanceState.Retired.congr (hi : i.Retired) (hstate : j.state = i.state)
    (hattempts : j.attempts = i.attempts) : j.Retired :=
  ⟨hstate.trans hi.1, fun a ha => hi.2 a (hattempts ▸ ha)⟩

theorem InstanceState.Retired.fenced (hi : i.Retired) (instant : LogicalInstant)
    (reason : ReasonCode) : (fenceInstance i instant reason).Retired := by
  refine ⟨?_, fenceInstance_closed i instant reason⟩
  rw [fenceInstance, hi.1]
  rfl

theorem InstanceState.Closed.currentAttempt (h : i.Closed) {a : AttemptRecord}
    (ha : i.currentAttempt = some a) : a.isOpen = false :=
  h a (List.mem_of_getLast? ha)

theorem checkAcknowledged_open {body : ExecutionAcknowledged} {k : Nat}
    (h : checkAcknowledged s body = .ok (k, i)) : ¬ i.Closed := by
  intro hclosed
  obtain ⟨a, ha, hopen⟩ := checkAcknowledged_current h
  exact AttemptRecord.isOpen_eq_false.mp (hclosed.currentAttempt ha) hopen

theorem checkEffect_open {report : EffectReport} {k : Nat}
    (h : checkEffect s event report = .ok (k, i)) : ¬ i.Closed := by
  intro hclosed
  obtain ⟨a, ha, -, hopen⟩ := (checkEffect_ok h).2.attempt
  exact absurd (hclosed.currentAttempt ha) (by simp [AttemptRecord.isOpen, hopen])

/-- A finished withdrawal stays where it is, unless its device is taken away
or a plan covers it. -/
theorem InstanceStep.retired_stays (h : InstanceStep s event bounds weights i j)
    (hplan : i.id ∉ intentIds s event bounds weights) (haway : ¬ TakesAway s event i.dpu)
    (hi : i.Retired) : j.Retired ∧ j.dpu = i.dpu := by
  cases h with
  | refreshed _ t =>
    have hsame := refreshInstance_withoutHealth t i
    exact ⟨hi.congr (InstanceState.withoutHealth_state hsame)
      (InstanceState.withoutHealth_attempts hsame), InstanceState.withoutHealth_dpu hsame⟩
  | stale _ clock dpus =>
    have hsame := markStale_withoutHealth clock dpus i
    exact ⟨hi.congr (InstanceState.withoutHealth_state hsame)
      (InstanceState.withoutHealth_attempts hsame), InstanceState.withoutHealth_dpu hsame⟩
  | fenced => exact ⟨hi.fenced _ _, rfl⟩
  | lost _ htaken => exact absurd htaken haway
  | quiesced _ _ _ hq =>
    simp only [quiesces, Bool.and_eq_true, decide_eq_true_eq] at hq
    exact absurd hi.1 hq.2
  | acknowledged _ _ _ _ hchecks => exact absurd hi.2 (checkAcknowledged_open hchecks)
  | failed _ _ _ _ hchecks => exact absurd hi.2 (checkEffect_open hchecks)
  | withdrawn _ _ _ _ hchecks => exact absurd hi.2 (checkEffect_open hchecks)
  | verified _ _ _ _ hchecks => exact absurd hi.2 (checkEffect_open hchecks)
  | replaced group plan hplanned p hp _ hid => exact absurd (hid ▸ hplanned.mem_ids hp) hplan
  | reattempted group plan hplanned p hp _ hid => exact absurd (hid ▸ hplanned.mem_ids hp) hplan
  | covered group plan hplanned p hp _ hid => exact absurd (hid ▸ hplanned.mem_ids hp) hplan
  | retired _ _ _ _ huncovered =>
    simp only [uncovered, Bool.and_eq_true, decide_eq_true_eq] at huncovered
    exact absurd hi.1 huncovered.2
  | withdrawing _ _ _ _ huncovered =>
    simp only [uncovered, Bool.and_eq_true, decide_eq_true_eq] at huncovered
    exact absurd hi.1 huncovered.2

end Steps

/-- The instance is in the table, and retired. -/
def TableRetired (x : InstanceId) (instances : List InstanceState) : Prop :=
  (∃ i ∈ instances, i.id = x) ∧ ∀ i ∈ instances, i.id = x → i.Retired

instance (x : InstanceId) (instances : List InstanceState) :
    Decidable (TableRetired x instances) :=
  inferInstanceAs (Decidable (_ ∧ _))

section Table

variable {x : InstanceId} {s s' : RuntimeState} {event : FabricEvent} {bounds : RuntimeBounds}
  {weights : PlacementWeights}

theorem TableRetired.of_core {xs ys : List InstanceState}
    (h : xs.map InstanceState.withoutHealth = ys.map InstanceState.withoutHealth)
    (hx : TableRetired x xs) : TableRetired x ys := by
  obtain ⟨⟨i, hi, hid⟩, hall⟩ := hx
  constructor
  · obtain ⟨j, hj, hsame⟩ := List.mem_map.mp (h ▸ List.mem_map_of_mem hi)
    exact ⟨j, hj, (InstanceState.withoutHealth_id hsame).trans hid⟩
  intro j hj hjd
  obtain ⟨k, hk, hsame⟩ := List.mem_map.mp (h ▸ List.mem_map_of_mem hj)
  exact (hall k hk ((InstanceState.withoutHealth_id hsame).trans hjd)).congr
    (InstanceState.withoutHealth_state hsame).symm
    (InstanceState.withoutHealth_attempts hsame).symm

theorem Accepted.retired (h : Accepted s event bounds weights s')
    (hplan : x ∉ intentIds s event bounds weights)
    (haway : ∀ i ∈ s.instances, i.id = x → ¬ TakesAway s event i.dpu)
    (hs : TableRetired x s.instances) : TableRetired x s'.instances := by
  obtain ⟨⟨i, hi, hid⟩, hall⟩ := hs
  constructor
  · obtain ⟨j, hj, hjd⟩ := h.entries.kept hi
    exact ⟨j, hj, hjd.trans hid⟩
  have hentries := h.entries.unplanned hplan
    (P := fun i => i.Retired ∧ ¬ TakesAway s event i.dpu) (fun i j hid hstep hP => by
      obtain ⟨hretired, hdpu⟩ := hstep.retired_stays (hid ▸ hplan) hP.2 hP.1
      exact ⟨hretired, hdpu ▸ hP.2⟩)
    (fun i hi hid => ⟨hall i hi hid, haway i hi hid⟩)
  exact fun j hj hjd => (hentries j hj hjd).1

theorem applyEvent_retired (hplan : x ∉ intentIds s event bounds weights)
    (haway : ∀ i ∈ s.instances, i.id = x → ¬ TakesAway s event i.dpu)
    (hs : TableRetired x s.instances) :
    TableRetired x (applyEvent s event bounds weights).2.instances := by
  rcases applyEvent_cases s event bounds weights with (⟨-, hsame⟩ | ⟨-, hacc⟩) | ⟨-, -, hfenced⟩
  · rw [hsame]
    exact hs
  · exact hacc.retired hplan haway hs
  · rw [hfenced]
    exact hs

/-! ## §3. Restarts. -/

theorem withdrawalServices_replicas {entries : List ServiceReplicaIntent}
    {services : List ServicePlan} (h : withdrawalServices s entries = .ok services) :
    ServicePlan.flatten services = [] := by
  induction entries generalizing services with
  | nil =>
    simp only [withdrawalServices, Except.ok.injEq] at h
    rw [← h]
    rfl
  | cons entry rest ih =>
    unfold withdrawalServices at h
    split at h
    · simp at h
    simp only [bind_eq_ok, pure_eq_ok] at h
    obtain ⟨others, hothers, rfl⟩ := h
    rw [ServicePlan.flatten, List.flatMap_cons]
    exact ih hothers

theorem intentIds_withdraw {body : IntentSubmitted} (hbody : event.body = .intentSubmitted body)
    (hkind : body.intent.kind = .withdraw) : intentIds s event bounds weights = [] := by
  simp only [intentIds, hbody]
  split
  · rfl
  split
  · rfl
  next plan hplan =>
  simp only [intentPlan, hkind, withdrawalPlan, bind_eq_ok, pure_eq_ok] at hplan
  obtain ⟨services, hservices, rfl⟩ := hplan
  exact congrArg (List.map _) (withdrawalServices_replicas hservices)

/-- The event, whatever the state, neither takes a device away nor plans
anything. -/
def LeavesRetired (event : FabricEvent) : Prop :=
  match event.body with
  | .dpuLost _ | .topologyObserved _ => False
  | .intentSubmitted body => body.intent.kind = .withdraw
  | _ => True

instance (event : FabricEvent) : Decidable (LeavesRetired event) := by
  unfold LeavesRetired
  generalize event.body = body
  apply @FabricEventBody.casesOn _ body <;> infer_instance

theorem LeavesRetired.unplanned (h : LeavesRetired event) :
    x ∉ intentIds s event bounds weights := by
  unfold LeavesRetired at h
  split at h
  · simp at h
  · simp at h
  · next body hbody =>
    rw [intentIds_withdraw hbody h]
    simp
  · next hother =>
    unfold intentIds
    split
    · next body hbody => exact absurd hbody (hother body)
    · simp

theorem LeavesRetired.keeps (h : LeavesRetired event) (d : DpuId) : ¬ TakesAway s event d := by
  unfold LeavesRetired at h
  unfold TakesAway
  split
  · next hbody => simp [hbody] at h
  · next hbody => simp [hbody] at h
  · simp

end Table

/-- `open` finds the instance retired in the snapshot, and nothing in the
journal, above the snapshot's watermark, that could touch it. -/
def RestartKeeps (x : InstanceId) (config : RuntimeConfig) (d : Disk FileName) : Prop :=
  config.storeDirectory.isSome = true
    ∧ match d .snapshot with
      | none => False
      | some raw =>
        match parseSnapshot (config.storeOptions []) raw with
        | .error _ => False
        | .ok payload =>
          payload ≠ [] ∧ match restoreSnapshot config payload with
            | .error _ => False
            | .ok s => TableRetired x s.instances
                ∧ ∀ event ∈ journalEvents config d, s.watermark < event.instant →
                    LeavesRetired event

instance (x : InstanceId) (config : RuntimeConfig) (d : Disk FileName) :
    Decidable (RestartKeeps x config d) := by
  unfold RestartKeeps
  repeat' first | apply instDecidableAnd | split

theorem RestartKeeps.snapshot {d : Disk FileName} (h : RestartKeeps x config d) :
    ∃ raw payload s, d .snapshot = some raw ∧ parseSnapshot (config.storeOptions []) raw = .ok payload
      ∧ payload ≠ [] ∧ restoreSnapshot config payload = .ok s ∧ TableRetired x s.instances
      ∧ ∀ event ∈ journalEvents config d, s.watermark < event.instant → LeavesRetired event := by
  obtain ⟨-, h⟩ := h
  split at h
  · simp at h
  next raw hraw =>
  split at h
  · simp at h
  next payload hparse =>
  obtain ⟨hne, h⟩ := h
  split at h
  · simp at h
  · next s hrestore => exact ⟨raw, payload, s, hraw, hparse, hne, hrestore, h.1, h.2⟩

theorem loaded_found {directory : Text}
    {t : List (Action FileName Mark)} {store store' : Store} {opened read : RuntimeWorld}
    {loaded : Loaded} {raw payload : List UInt8}
    (hopen : Store.open (config.storeOptions directory) ((World.clean t).note .started)
      = (.ok store, opened)) (hload : store.load opened = (.ok loaded, store', read))
    (hraw : diskAfter t .snapshot = some raw)
    (hparse : parseSnapshot (config.storeOptions []) raw = .ok payload) :
    loaded.snapshot = payload
      ∧ ∀ r ∈ loaded.records, r ∈ journalRecords (config.storeOptions []) (diskAfter t) := by
  have hdisk : ∀ g, g ≠ FileName.temp → opened.disk g = diskAfter t g := by
    intro g hg
    have hsame := Store.open_disk (config.storeOptions directory) hg
      ((World.clean t).note .started)
    rwa [hopen, World.disk_note, World.disk_clean] at hsame
  rw [World.note_clean] at hopen
  obtain ⟨u, rfl, -, hoptions⟩ := Store.open_clean_inv hopen
  have hrecords := (load_ok hload).2
  rw [hoptions, journalRecords, hdisk .journal (by simp)] at hrecords
  have hfound := (hdisk .snapshot (by simp)).trans hraw
  have hparsed : parseSnapshot store.options raw = .ok payload := by
    rw [hoptions]
    exact hparse
  exact ⟨load_found hfound hparsed (congrArg Prod.fst hload), fun _ hr => hrecords.subset hr⟩

/-- A restart that finds the instance retired keeps it retired. -/
theorem open_retired {t : List (Action FileName Mark)} {w' : RuntimeWorld} {rt : FabricRuntime}
    (h : FabricRuntime.open config (World.clean t) = (.ok rt, w'))
    (hkeeps : RestartKeeps x config (diskAfter t)) : TableRetired x rt.state.instances := by
  obtain ⟨raw, payload, s, hraw, hparse, hne, hrestore, hretired, hjournal⟩ := hkeeps.snapshot
  obtain ⟨-, ⟨-, hnothing⟩ | ⟨r, n, hstate⟩⟩ := open_inv h
  · -- the snapshot is there
    obtain ⟨directory, hdirectory⟩ := Option.isSome_iff_exists.mp hkeeps.1
    obtain ⟨_, _, loaded, _, _, hopen, hload, hempty, -⟩ := hnothing directory hdirectory
    exact absurd ((loaded_found hopen hload hraw hparse).1.symm.trans hempty) hne
  · obtain ⟨hsnapshot, hrecords⟩ := loaded_found r.hopen r.hload hraw hparse
    have hbase : r.base.state = s := by
      have hrestored := (r.hbase.resolve_left fun hb => hne (hsnapshot.symm.trans hb.1)).2
      rw [hsnapshot, hrestore] at hrestored
      exact (Except.ok.inj hrestored).symm
    have hreplayed := (replayRecords_rule (P := fun s => TableRetired x s.instances)
      (E := LeavesRetired) (fun s event l hevent hs => ?_) r.base.state.watermark r.loaded.records
      r.based r.hconfig (fun record hrecord event hdecode habove => ?_)
      (by rw [hbase]; exact hretired)).2
    · rw [r.hreplay] at hreplayed
      obtain ⟨⟨i, hi, hid⟩, hall⟩ := hreplayed
      rw [hstate]
      refine ⟨⟨_, List.mem_map_of_mem hi, hid⟩, fun j hj hjd => ?_⟩
      obtain ⟨k, hk, rfl⟩ := List.mem_map.mp
        (show j ∈ r.replayed.state.instances.map _ from hj)
      exact (hall k hk hjd).fenced _ _
    · exact TableRetired.of_core
        (congrArg RuntimeState.instances (core_raiseWatermark _ event)).symm
        (applyEvent_retired hevent.unplanned (fun i _ _ => hevent.keeps i.dpu) hs)
    · rw [hbase] at habove
      exact hjournal event (List.mem_filterMap.mpr ⟨record, hrecords record hrecord,
        by rw [hdecode]; rfl⟩) habove

/-! ## §4. Every run. -/

/-- The event that the move applies leaves the device of the instance. -/
def KeepsDevice (x : InstanceId) : System → Move → Prop :=
  OnApply fun p event => ∀ i ∈ p.runtime.state.instances, i.id = x →
    ¬ TakesAway p.runtime.state event i.dpu

instance (x : InstanceId) (s : System) (m : Move) : Decidable (KeepsDevice x s m) :=
  inferInstanceAs (Decidable (OnApply _ s m))

/-- A start finds the instance retired, without faults; any other move leaves
its device. -/
def KeepsRetired (x : InstanceId) (s : System) : Move → Prop
  | .run (.start config) faults => s.process = none → faults = [] ∧ RestartKeeps x config s.disk
  | m => KeepsDevice x s m

instance (x : InstanceId) (s : System) : ∀ m, Decidable (KeepsRetired x s m)
  | .run (.start _) _ => inferInstanceAs (Decidable (_ → _ ∧ _))
  | .run (.call c) faults => inferInstanceAs (Decidable (KeepsDevice x s (.run (.call c) faults)))
  | .run .exit faults => inferInstanceAs (Decidable (KeepsDevice x s (.run .exit faults)))
  | .crash op faults n => inferInstanceAs (Decidable (KeepsDevice x s (.crash op faults n)))

theorem step_retired {s : System} {m : Move} (hs : s.Holds (fun st => TableRetired x st.instances))
    (hm : Unplanned x s m ∧ KeepsRetired x s m) :
    (s.step m).Holds (fun st => TableRetired x st.instances) := by
  refine System.step_instances TableRetired.of_core hs ?_ ?_
  · rintro config faults rt w rfl hnone hopen
    obtain ⟨rfl, hkeeps⟩ := hm.2 hnone
    exact open_retired hopen hkeeps
  · rintro p event faults rfl hnext happlies l n s' hacc
    refine hacc.retired ?_ (hm.2 (p, event) hnext happlies) (hs p (System.next_process hnext))
    rw [intentIds_recounted]
    exact hm.1 (p, event) hnext happlies

theorem instancesSane_lasting : Lasting InstancesSane (fun _ => True) where
  core h hs i hi := by
    obtain ⟨j, hj, hsame⟩ := core_instance h hi
    exact (hs j hj).congr (InstanceState.withoutHealth_attempts hsame).symm
      (InstanceState.withoutHealth_state hsame).symm
  blank _ := fun i hi => absurd hi (by simp [initialState])
  restored hs := hs
  event bounds weights _ hs := applyEvent_sane hs _ bounds weights
  restarted config s _ i hi := by
    obtain ⟨j, -, rfl⟩ := List.mem_map.mp (show i ∈ s.instances.map _ from hi)
    exact (fenceInstance_closed j _ _).sane

/-- **A finished withdrawal is stable.**  An instance that is Withdrawn stays
Withdrawn, with no open attempt, until an applied intent plans it, as long as
no applied event takes its device away and every restart finds it retired in
the snapshot. -/
theorem withdrawn_is_stable (pre : List Move) (p : Process)
    (hp : (System.after {} pre).process = some p) (x : InstanceId)
    (hx : p.runtime.state.InState x .withdrawn) (post : List Move)
    (hpost : Meets System.step (fun s m => Unplanned x s m ∧ KeepsRetired x s m)
      (System.after {} pre) post)
    (q : Process) (hq : (System.after (System.after {} pre) post).process = some q) :
    q.runtime.state.InState x .withdrawn
      ∧ ∀ i ∈ q.runtime.state.instances, i.id = x → i.Closed := by
  have hsane := (instancesSane_lasting.always pre).holds p hp
  have hstart : (System.after {} pre).Holds (fun st => TableRetired x st.instances) := by
    intro p' hp'
    obtain rfl := Option.some.inj (hp.symm.trans hp')
    refine ⟨hx.1, fun i hi hid => ⟨hx.2 i hi hid, (hsane i hi).closed_of_state ?_⟩⟩
    rw [hx.2 i hi hid]
    exact ⟨nofun, nofun, nofun⟩
  have hstep : ∀ s m, s.Holds (fun st => TableRetired x st.instances) →
      Unplanned x s m ∧ KeepsRetired x s m →
      (System.step s m).Holds (fun st => TableRetired x st.instances) := fun _ _ => step_retired
  obtain ⟨hthere, hall⟩ := run_invariant hstep hstart hpost q hq
  exact ⟨⟨hthere, fun i hi hid => (hall i hi hid).1⟩, fun i hi hid => (hall i hi hid).2⟩

/-- The withdrawal of `a` is proven. -/
def withdrawnMoves : List Move :=
  withdrawalReleased ++ .run (.call .flushEvent) [] :: withdrawalReport .withdraw

theorem withdrawnMoves_runs : (System.after {} withdrawnMoves).process.isSome = true := by
  decide +kernel

theorem withdrawnMoves_withdrawn :
    ((System.after {} withdrawnMoves).process.get withdrawnMoves_runs).runtime.state.InState
      (sampleInstance "g" "a") .withdrawn := by
  decide +kernel

/-- A new coordinator epoch. -/
def newEpoch : FabricEvent :=
  sampleEvent 9 (.coordinatorAdvanced { coordinator := .literal (txt "c"), epoch := ⟨2⟩ })

theorem newEpoch_runs :
    (System.after (System.after {} withdrawnMoves) (submitMoves newEpoch)).process.isSome = true := by
  decide +kernel

/-- A new epoch leaves the withdrawal where it is. -/
theorem withdrawn_after_new_epoch :
    ((System.after (System.after {} withdrawnMoves) (submitMoves newEpoch)).process.get
        newEpoch_runs).runtime.state.InState (sampleInstance "g" "a") .withdrawn
      ∧ ∀ i ∈ ((System.after (System.after {} withdrawnMoves) (submitMoves newEpoch)).process.get
          newEpoch_runs).runtime.state.instances, i.id = sampleInstance "g" "a" → i.Closed :=
  withdrawn_is_stable withdrawnMoves _ (Option.some_get withdrawnMoves_runs).symm _
    withdrawnMoves_withdrawn (submitMoves newEpoch) (by decide +kernel) _
    (Option.some_get newEpoch_runs).symm

/-- The loss of its device makes a withdrawn instance Lost. -/
theorem withdrawn_becomes_lost :
    ¬ ∀ (pre : List Move) (p : Process), (System.after {} pre).process = some p →
      ∀ x, p.runtime.state.InState x .withdrawn →
      ∀ post, Meets System.step (Unplanned x) (System.after {} pre) post →
      ∀ q, (System.after (System.after {} pre) post).process = some q →
        q.runtime.state.InState x .withdrawn
          ∧ ∀ i ∈ q.runtime.state.instances, i.id = x → i.Closed := by
  intro h
  have hbad : ((System.after (System.after {} withdrawnMoves) (submitMoves
      (sampleEvent 9 (.dpuLost { dpu := .literal (txt "d") })))).process.any (fun q =>
        decide (¬ q.runtime.state.InState (sampleInstance "g" "a") .withdrawn))) = true := by
    decide +kernel
  obtain ⟨q, hq, hlost⟩ := (Option.any_eq_true _ _).mp hbad
  exact of_decide_eq_true hlost (h withdrawnMoves _ (Option.some_get withdrawnMoves_runs).symm _
    withdrawnMoves_withdrawn _ (by decide +kernel) q hq).1

end DpuFabric
