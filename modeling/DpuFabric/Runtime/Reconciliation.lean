/-
  Runtime.Reconciliation — WHAT AN ACCEPTED INTENT MAKES OF THE FLEET.

  A planned replica that already stands at its planned place is left alone
  when its last attempt is open, whatever that attempt was opened for.  So an
  intent that comes while the replica's withdrawal is still open leaves it
  Quiescing (`reconciliation_realises_iff`), and nothing is authorized.

  Only the planner consults the eligibility evaluator.  A rollback takes the
  devices of the retained plan as they are
  (`placed_where_eligible_iff`).
-/
import DpuFabric.Engine.Feasible
import DpuFabric.Engine.Reconciled
import DpuFabric.Runtime.Withdrawal

namespace DpuFabric

open Lib Relation

variable {j : InstanceState} {p : ServicePlan × PlannedReplica} {after : List InstanceState}

/-! ## §1. Identities are made of group, service and index. -/

/-- The identity is the one of the instance's replica. -/
def InstanceState.Named (i : InstanceState) : Prop :=
  i.id = makeInstanceId i.group i.service i.index

/-- Every instance carries the identity of its replica. -/
def InstancesNamed (s : RuntimeState) : Prop := ∀ i ∈ s.instances, i.Named

theorem InstanceState.Named.of_withoutHealth {i : InstanceState}
    (h : i.withoutHealth = j.withoutHealth) (hi : i.Named) : j.Named := by
  obtain ⟨hgroup, hservice, hindex⟩ := InstanceState.withoutHealth_replica h
  rw [InstanceState.Named, ← InstanceState.withoutHealth_id h, ← hgroup, ← hservice, ← hindex]
  exact hi

section Named

variable {s : RuntimeState} {event : FabricEvent} {bounds : RuntimeBounds}
  {weights : PlacementWeights} {i j : InstanceState}

theorem InstanceStep.named (h : InstanceStep s event bounds weights i j) (hi : i.Named) :
    j.Named := by
  cases h with
  | refreshed _ t => exact hi.of_withoutHealth (refreshInstance_withoutHealth t i).symm
  | stale _ clock dpus => exact hi.of_withoutHealth (markStale_withoutHealth clock dpus i).symm
  | _ => exact hi

theorem steps_named (h : ReflTransGen (InstanceStep s event bounds weights) i j) (hi : i.Named) :
    j.Named := by
  induction h with
  | refl => exact hi
  | tail _ hstep ih => exact hstep.named ih

end Named

theorem instancesNamed_lasting : Lasting InstancesNamed (fun _ => True) where
  core h hs i hi := by
    obtain ⟨j, hj, hsame⟩ := core_instance h hi
    exact (hs j hj).of_withoutHealth hsame
  blank _ := fun i hi => absurd hi (by simp [initialState])
  restored hs := hs
  event bounds weights _ hs j hj := by
    obtain ⟨i, hi, hsteps⟩ := (applyEvent_entries _ _ bounds weights).origin hj
    rcases hi with hi | hcreated
    · exact steps_named hsteps (hs i hi)
    refine steps_named hsteps ?_
    cases hcreated
    rfl
  restarted config s hs i hi := by
    obtain ⟨j, hj, rfl⟩ := List.mem_map.mp (show i ∈ s.instances.map _ from hi)
    exact hs j hj

/-! ## §2. The plan is realised. -/

/-- The instance has authority to run: its last attempt is open, in the phase
Authorized or Acknowledged, and so is the instance. -/
def InstanceState.Standing (i : InstanceState) : Prop :=
  (∃ a, i.currentAttempt = some a ∧ a.isOpen = true
      ∧ (a.phase = .authorized ∨ a.phase = .acknowledged))
    ∧ (i.state = .authorized ∨ i.state = .acknowledged)

/-- The table realises the plan. -/
structure Realises (s : RuntimeState) (group : ServiceGroup) (plan : DeploymentPlan)
    (after : List InstanceState) : Prop where
  planned : ∀ p ∈ ServicePlan.flatten plan.services, ∃ j ∈ after, j.IsReplica group p
    ∧ j.dpu = p.2.dpu ∧ j.version = p.1.version ∧ j.Standing
  others : ∀ j ∈ after, j.group = group.id →
    (∀ p ∈ ServicePlan.flatten plan.services, ¬ j.IsReplica group p) →
    (j.state = .quiescing ∨ j.state = .withdrawn) ∧ j.Closed
  elsewhere : (after.filter (fun i => decide (i.group ≠ group.id))).Perm
    (s.instances.filter (fun i => decide (i.group ≠ group.id)))

/-- No planned replica that is at its planned place is Quiescing under an open
attempt. -/
def NoneQuiescing (s : RuntimeState) (group : ServiceGroup) (plan : DeploymentPlan) : Prop :=
  ∀ i ∈ s.instances, ∀ p ∈ ServicePlan.flatten plan.services, i.id = plannedId group p →
    i.dpu = p.2.dpu → i.version = p.1.version → i.state = .quiescing → i.Closed

instance (s : RuntimeState) (group : ServiceGroup) (plan : DeploymentPlan) :
    Decidable (NoneQuiescing s group plan) :=
  inferInstanceAs (Decidable (∀ i ∈ s.instances, ∀ p ∈ ServicePlan.flatten plan.services,
    i.id = plannedId group p → i.dpu = p.2.dpu → i.version = p.1.version →
      i.state = .quiescing → i.Closed))

section Realises

variable {s : RuntimeState} {plan : DeploymentPlan} {group : ServiceGroup} {event : FabricEvent}
  {bounds : RuntimeBounds} {weights : PlacementWeights}

theorem standing_of_opened {attempts : List AttemptRecord}
    {number : AttemptNumber} {fence : FenceToken} {instant : LogicalInstant} {request : Digest}
    (hattempts : j.attempts = attempts ++ [openedAttempt number fence .authorized instant request])
    (hstate : j.state = .authorized) : j.Standing := by
  refine ⟨⟨openedAttempt number fence .authorized instant request, ?_, rfl, .inl rfl⟩, .inl hstate⟩
  rw [InstanceState.currentAttempt, hattempts, List.getLast?_concat]

/-- A planned replica has authority after its turn, unless it was Quiescing
under an open attempt. -/
theorem Placed.standing
    (h : Placed s plan group event p j) (hp : p ∈ ServicePlan.flatten plan.services)
    (hsane : InstancesSane s) (hquiet : NoneQuiescing s group plan) : j.Standing := by
  cases h with
  | created _ fence => exact standing_of_opened (List.nil_append _).symm rfl
  | replaced i _ _ _ fence => exact standing_of_opened rfl rfl
  | reattempted i _ _ _ _ fence => exact standing_of_opened rfl rfl
  | covered i hi hid hmust hstale =>
    obtain ⟨hdpu, hversion, -⟩ := mustReplace_false hmust
    unfold InstanceState.staleAttempt at hstale
    split at hstale
    · simp at hstale
    next a ha =>
    have hopen : a.isOpen = true := by simpa using hstale
    have hphase := (hsane i hi).phase a ha hopen
    have hstate : i.state = .authorized ∨ i.state = .acknowledged := by
      rcases (hsane i hi).state a ha hopen with h | h | h
      · exact .inl h
      · exact .inr h
      · have hclosed := hquiet i hi p hp hid hdpu hversion h
        exact absurd (hclosed a (List.mem_of_getLast? ha)) (by simp [hopen])
    exact ⟨⟨a, ha, hopen, hphase ▸ hstate⟩, hstate⟩

/-- A planned replica that is Quiescing at its place under an open attempt
stays as it is. -/
theorem Placed.quiescing {i : InstanceState}
    (h : Placed s plan group event p j) (hsorted : InstancesSorted s) (hsane : InstancesSane s)
    (hi : i ∈ s.instances) (hid : i.id = plannedId group p) (hdpu : i.dpu = p.2.dpu)
    (hversion : i.version = p.1.version) (hstate : i.state = .quiescing) (hopen : ¬ i.Closed) :
    j.state = .quiescing := by
  have hsame : ∀ k ∈ s.instances, k.id = plannedId group p → k = i := fun k hk hkid =>
    hsorted.eq_of_id hk hi (hkid.trans hid.symm)
  cases h with
  | created hnew => exact absurd hid (hnew i hi)
  | replaced k hk hkid hmust =>
    obtain rfl := hsame k hk hkid
    simp [InstanceState.mustReplace, InstanceState.terminal, hdpu, hversion, hstate] at hmust
  | reattempted k hk hkid _ hstale =>
    obtain rfl := hsame k hk hkid
    refine absurd ((hsane k hk).closed fun a ha => ?_) hopen
    rw [InstanceState.staleAttempt, ha] at hstale
    simpa using hstale
  | covered k hk hkid =>
    obtain rfl := hsame k hk hkid
    exact hstate

theorem Reconciled.others (h : Reconciled s plan group event after)
    (hsound : SoundPlan s group plan) (hsane : InstancesSane s)
    (hj : j ∈ after) (hgroup : j.group = group.id)
    (hother : ∀ p ∈ ServicePlan.flatten plan.services, ¬ j.IsReplica group p) :
    (j.state = .quiescing ∨ j.state = .withdrawn) ∧ j.Closed := by
  rcases h.origin j hj with ⟨p, hp, hplaced⟩ | ⟨i, hi, hid, rfl⟩
  · exact absurd (hplaced.isReplica hsound hp) (hother p hp)
  rw [retire_group] at hgroup
  by_cases hwithdrawn : i.state = .withdrawn
  · have hkept : retire plan group event i = i := by simp [retire, uncovered, hwithdrawn]
    rw [hkept]
    exact ⟨.inr hwithdrawn, (hsane i hi).closed_of_state (by simp [hwithdrawn])⟩
  · have hquiesced : retire plan group event i = quiesceInstance event.instant i := by
      simp [retire, uncovered, hgroup, hid, hwithdrawn]
    rw [hquiesced]
    exact ⟨.inl rfl, quiesceInstance_closed i event.instant⟩

/-- **The plan is realised iff nothing planned is still being withdrawn.** -/
theorem Reconciled.realises_iff
    (h : Reconciled s plan group event after) (hsound : SoundPlan s group plan)
    (hsane : InstancesSane s) (hnamed : InstancesNamed s) :
    Realises s group plan after ↔ NoneQuiescing s group plan := by
  constructor
  · intro hrealises i hi p hp hid hdpu hversion hstate
    by_contra hopen
    obtain ⟨j, hj, hreplica, -, -, hstanding⟩ := hrealises.planned p hp
    have hquiescing : j.state = .quiescing := by
      rcases h.origin j hj with ⟨q, hq, hplaced⟩ | ⟨k, hk, hkid, rfl⟩
      · obtain ⟨-, hservice, hindex⟩ := hplaced.isReplica hsound hq
        have hpq : q = p := hsound.eq_of_id hq hp (by
          rw [plannedId, plannedId, ← hservice, ← hindex, hreplica.2.1, hreplica.2.2])
        exact (hpq ▸ hplaced).quiescing hsound.sorted hsane hi hid hdpu hversion hstate hopen
      · -- an instance of the planned replica has the planned identity
        have hname : (retire plan group event k).id = plannedId group p := by
          have hk' : (retire plan group event k).Named := by
            unfold retire
            split
            all_goals exact hnamed k hk
          rw [hk', hreplica.1, hreplica.2.1, hreplica.2.2, plannedId]
        rw [retire_id] at hname
        exact absurd (hname ▸ List.mem_map_of_mem hp) hkid
    rcases hstanding.2 with hs | hs <;> exact absurd (hs.symm.trans hquiescing) (by simp)
  · intro hquiet
    refine ⟨fun p hp => ?_, fun j hj => h.others hsound hsane hj, h.elsewhere hsound⟩
    obtain ⟨j, hj, hplaced⟩ := h.placed p hp
    exact ⟨j, hj, hplaced.isReplica hsound hp, hplaced.place.1, hplaced.place.2,
      hplaced.standing hp hsane hquiet⟩

end Realises

/-! ## §3. The plan of an intent that is no withdrawal. -/

/-- The device is in the topology, and eligible for the service now. -/
def EligibleAt (s : RuntimeState) (event : FabricEvent) (service : ServiceId) (d : DpuId) : Prop :=
  EligibleOn s.topology s.services s.policy event.instant service d

instance (s : RuntimeState) (event : FabricEvent) (service : ServiceId) (d : DpuId) :
    Decidable (EligibleAt s event service d) :=
  inferInstanceAs (Decidable (EligibleOn _ _ _ _ _ _))

/-- The retained plan that a rollback takes up. -/
def rollbackSource (s : RuntimeState) (intent : PlacementIntent) : Option DeploymentPlan :=
  (s.plans.filter
    (fun p => decide (p.generation = intent.rollbackTarget.getD default))).getLast?

section Plans

variable {s : RuntimeState} {event : FabricEvent} {intent : PlacementIntent}
  {group : ServiceGroup} {bounds : RuntimeBounds} {weights : PlacementWeights}
  {plan : DeploymentPlan}

theorem rollbackPlan_ok (h : rollbackPlan s event intent = .ok plan) :
    plan.kind = .rollback ∧ plan.generation = intent.generation
      ∧ ∃ source, rollbackSource s intent = some source ∧ plan.group = source.group
          ∧ plan.services = source.services := by
  simp only [rollbackPlan] at h
  split at h
  · simp at h
  next source hsource =>
  split at h
  · simp at h
  · rw [← Except.ok.inj h]
    exact ⟨rfl, rfl, source, hsource, rfl, rfl⟩

theorem placementPlan_ok (h : placementPlan s event intent group bounds weights = .ok plan) :
    plan.kind = intent.kind ∧ plan.generation = intent.generation
      ∧ ∀ p ∈ ServicePlan.flatten plan.services, EligibleAt s event p.1.service p.2.dpu := by
  unfold placementPlan at h
  split at h
  · simp at h
  next graph _ =>
  simp only at h
  split at h
  · simp at h
  next hfeasible =>
  rw [← Except.ok.inj h]
  obtain ⟨services, stages, hplan, heligible⟩ := buildPlan_body (by simpa using hfeasible)
  rw [hplan]
  refine ⟨rfl, rfl, fun p hp => ?_⟩
  obtain ⟨sp, hsp, hin⟩ := List.mem_flatMap.mp hp
  obtain ⟨replica, hreplica, rfl⟩ := List.mem_map.mp hin
  exact heligible sp hsp replica hreplica

/-- Only a rollback has a plan that the planner did not make. -/
theorem intentPlan_ok (hkind : intent.kind ≠ .withdraw)
    (h : intentPlan s event intent group bounds weights = .ok plan) :
    plan.kind ≠ .withdraw
      ∧ ((intent.kind = .rollback
            ∧ ∃ source, rollbackSource s intent = some source ∧ plan.services = source.services)
        ∨ (intent.kind ≠ .rollback ∧ ∀ p ∈ ServicePlan.flatten plan.services,
            EligibleAt s event p.1.service p.2.dpu)) := by
  unfold intentPlan at h
  split at h
  · next hwithdraw => exact absurd hwithdraw hkind
  · next hrollback =>
    obtain ⟨hplan, -, source, hsource, -, hservices⟩ := rollbackPlan_ok h
    exact ⟨by simp [hplan], .inl ⟨hrollback, source, hsource, hservices⟩⟩
  · next hrollback =>
    obtain ⟨hplan, -, heligible⟩ := placementPlan_ok h
    exact ⟨hplan ▸ hkind, .inr ⟨hrollback, heligible⟩⟩

theorem applied_reconciled {body : IntentSubmitted} (hbody : event.body = .intentSubmitted body)
    (hkind : body.intent.kind ≠ .withdraw)
    (happlied : (applyEvent s event bounds weights).1.applied = true)
    (hgroup : checkIntent s body.intent = .ok group)
    (hplan : intentPlan s event body.intent group bounds weights = .ok plan)
    (hsound : SoundPlan s group plan) :
    Reconciled s plan group event (applyEvent s event bounds weights).2.instances := by
  simp only [applyEvent, hbody, reduceIntent] at happlied ⊢
  split at happlied
  · simp [Refusal.toResult] at happlied
  next out hout =>
  obtain ⟨-, group', plan', authority, r, hgroup', hplan', -, hreconcile, hstate⟩ :=
    acceptIntent_ok hout
  obtain rfl := Except.ok.inj (hgroup.symm.trans hgroup')
  obtain rfl := Except.ok.inj (hplan.symm.trans hplan')
  rw [hstate]
  exact (reconcile_reconciled hsound (intentPlan_ok hkind hplan).1 hreconcile).perm
    (List.perm_insertionSort _ _).symm

end Plans

/-- The intent of an event, its group and its plan, for runs on fixed
inputs. -/
def sampleBody (event : FabricEvent) : IntentSubmitted :=
  match event.body with
  | .intentSubmitted body => body
  | _ => {}

def sampleGroupOf (p : Process) (event : FabricEvent) : ServiceGroup :=
  (checkIntent p.runtime.state (sampleBody event).intent).toOption.getD {}

def samplePlanOf (p : Process) (event : FabricEvent) : DeploymentPlan :=
  (intentPlan p.runtime.state event (sampleBody event).intent (sampleGroupOf p event) {}
    {}).toOption.getD {}

/-- The intent is applied, with that group and plan. -/
def SampleApplies (p : Process) (event : FabricEvent) : Prop :=
  (applyEvent p.runtime.state event {} {}).1.applied = true
    ∧ (checkIntent p.runtime.state (sampleBody event).intent).toOption.isSome = true
    ∧ (intentPlan p.runtime.state event (sampleBody event).intent (sampleGroupOf p event) {}
        {}).toOption.isSome = true

instance (p : Process) (event : FabricEvent) : Decidable (SampleApplies p event) :=
  inferInstanceAs (Decidable (_ ∧ _ ∧ _))

/-- Service `a` is deployed once more. -/
def redeployment : FabricEvent := sampleEvent 9 (sampleIntent .deploy "g" 3 ["a"])

/-- The process once the withdrawal is proven. -/
def withdrawnProcess : Process := (System.after {} withdrawnMoves).process.get withdrawnMoves_runs

theorem redeployment_applies : SampleApplies withdrawnProcess redeployment := by decide +kernel

/-- The instance has an open attempt, and more attempts than before. -/
def GainsAttempt (s : RuntimeState) (j : InstanceState) : Prop :=
  (∃ a, j.currentAttempt = some a ∧ a.isOpen = true)
    ∧ ∀ i ∈ s.instances, i.id = j.id → i.attempts.length < j.attempts.length

/-- The turn of the planned replica opens an attempt. -/
def NeedsAttempt (s : RuntimeState) (group : ServiceGroup) (p : ServicePlan × PlannedReplica) :
    Prop :=
  ∀ i ∈ s.instances, i.id = plannedId group p →
    i.mustReplace p.1 p.2 = true ∨ i.staleAttempt = true

instance (s : RuntimeState) (group : ServiceGroup) (p : ServicePlan × PlannedReplica) :
    Decidable (NeedsAttempt s group p) :=
  inferInstanceAs (Decidable (∀ i ∈ s.instances, i.id = plannedId group p → _ ∨ _))

section Gains

variable {s : RuntimeState} {plan : DeploymentPlan} {group : ServiceGroup} {event : FabricEvent}

/-- A planned replica gains an attempt exactly when its turn opens one. -/
theorem Placed.gains_iff (h : Placed s plan group event p j) (hsorted : InstancesSorted s) :
    GainsAttempt s j ↔ NeedsAttempt s group p := by
  have hsame : ∀ {i k : InstanceState}, i ∈ s.instances → i.id = plannedId group p →
      k ∈ s.instances → k.id = plannedId group p → k = i := fun hi hid hk hkid =>
    hsorted.eq_of_id hk hi (hkid.trans hid.symm)
  cases h with
  | created hnew fence =>
    refine iff_of_true ⟨⟨_, rfl, rfl⟩, fun i hi hid => absurd hid (hnew i hi)⟩ ?_
    exact fun i hi hid => absurd hid (hnew i hi)
  | replaced i hi hid hmust fence =>
    refine iff_of_true ⟨(standing_of_opened rfl rfl).1.imp fun _ ha => ⟨ha.1, ha.2.1⟩,
      fun k hk hkid => ?_⟩ fun k hk hkid => ?_
    · rw [hsame hi hid hk (hkid.trans hid)]
      simp [replacedInstance, authorizeAttempt, fenceInstance]
    · rw [hsame hi hid hk hkid]
      exact .inl hmust
  | reattempted i hi hid hmust hstale fence =>
    refine iff_of_true ⟨(standing_of_opened rfl rfl).1.imp fun _ ha => ⟨ha.1, ha.2.1⟩,
      fun k hk hkid => ?_⟩ fun k hk hkid => ?_
    · rw [hsame hi hid hk (hkid.trans hid)]
      simp [reattemptedInstance, authorizeAttempt]
    · rw [hsame hi hid hk hkid]
      exact .inr hstale
  | covered i hi hid hmust hstale =>
    refine iff_of_false (fun hgains => ?_) (fun hneeds => ?_)
    · exact lt_irrefl _ (hgains.2 i hi rfl)
    rcases hneeds i hi hid with h | h
    · exact absurd (h.symm.trans hmust) (by simp)
    · exact absurd (h.symm.trans hstale) (by simp)

/-- **New attempts are on eligible devices iff the planned replicas that need
one are.** -/
theorem Reconciled.gains_iff
    (h : Reconciled s plan group event after) (hsound : SoundPlan s group plan) :
    (∀ j ∈ after, GainsAttempt s j → EligibleAt s event j.service j.dpu)
      ↔ ∀ p ∈ ServicePlan.flatten plan.services, NeedsAttempt s group p →
          EligibleAt s event p.1.service p.2.dpu := by
  constructor
  · intro hall p hp hneeds
    obtain ⟨j, hj, hplaced⟩ := h.placed p hp
    have heligible := hall j hj ((hplaced.gains_iff hsound.sorted).mpr hneeds)
    rwa [(hplaced.isReplica hsound hp).2.1, hplaced.place.1] at heligible
  · intro hall j hj hgains
    rcases h.origin j hj with ⟨p, hp, hplaced⟩ | ⟨i, hi, -, rfl⟩
    · rw [(hplaced.isReplica hsound hp).2.1, hplaced.place.1]
      exact hall p hp ((hplaced.gains_iff hsound.sorted).mp hgains)
    -- retiring opens nothing
    have hlength : (retire plan group event i).attempts.length = i.attempts.length := by
      unfold retire
      split
      · exact List.length_map _
      · rfl
    exact absurd (hgains.2 i hi (retire_id i).symm) (by rw [hlength]; exact lt_irrefl _)

end Gains

/-- Service `a` is deployed on the only device, and lost with it. -/
def lostMoves : List Move :=
  .run (.start sampleConfig) [] ::
    [sampleEvent 1 (sampleTopology ["d"]), sampleEvent 2 samplePolicy,
     sampleEvent 3 (sampleService "a" none), sampleEvent 4 (sampleGroup "g" ["a"]),
     sampleEvent 5 (sampleIntent .deploy "g" 1 ["a"]),
     sampleEvent 6 (.dpuLost { dpu := .literal (txt "d") })].flatMap submitMoves

/-- A rollback to the first generation. -/
def rollback : FabricEvent :=
  sampleEvent 7 (.intentSubmitted { intent := {
    id := .literal (txt "in"), group := .literal (txt "g"), kind := .rollback, generation := ⟨2⟩,
    rollbackTarget := some ⟨1⟩ } })

end DpuFabric
