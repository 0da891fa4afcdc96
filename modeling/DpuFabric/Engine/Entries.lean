/-
  Engine.Entries — WHAT ONE EVENT CAN DO TO ONE INSTANCE.

  `InstanceStep` lists the changes that a reducer makes to an entry of the
  instance table, each with the checks in front of it, and `CreatedBy` the
  entries it adds.  `Accepted.entries` says that the table after an applied
  event is, up to order, the entries before and the created ones, every one
  of them changed by such steps only.  A fact about single instances is then
  proved once per step, not once per reducer and loop.
-/
import DpuFabric.Engine.Devices
import DpuFabric.Engine.InstanceTable
import Mathlib.Logic.Relation

namespace DpuFabric

open Lib Relation

variable {after : List InstanceState}

/-! ## §1. The steps. -/

/-- The events whose reducers end in `refresh_health`. -/
def RefreshesHealth (event : FabricEvent) : Prop :=
  match event.body with
  | .logicalTimeAdvanced _ | .topologyObserved _ | .healthObserved _ => True
  | _ => False

/-- The event takes the device away: a loss, or a topology that does not list
it any more. -/
def TakesAway (s : RuntimeState) (event : FabricEvent) (d : DpuId) : Prop :=
  match event.body with
  | .dpuLost body => body.dpu = d ∧ lostRefusal s body = none
  | .topologyObserved body => s.topology.Lists d ∧ ¬ body.snapshot.Lists d
  | _ => False

section Steps

variable (s : RuntimeState) (event : FabricEvent) (bounds : RuntimeBounds)
  (weights : PlacementWeights)

/-- The plan that an accepted intent carries out. -/
structure Planned (group : ServiceGroup) (plan : DeploymentPlan) : Prop where
  intent : ∃ body, event.body = .intentSubmitted body ∧ checkIntent s body.intent = .ok group
    ∧ intentPlan s event body.intent group bounds weights = .ok plan

/-- One change of one entry. -/
inductive InstanceStep : InstanceState → InstanceState → Prop where
  /-- Health is recomputed. -/
  | refreshed (hbody : RefreshesHealth event) (t : TopologySnapshot) (i : InstanceState) :
      InstanceStep i (refreshInstance t i)
  | stale (hbody : RefreshesHealth event) (clock : LogicalInstant) (dpus : List DpuRecord)
      (i : InstanceState) : InstanceStep i (markStale clock dpus i)
  /-- The coordinator changed. -/
  | fenced (body : CoordinatorAdvanced) (hbody : event.body = .coordinatorAdvanced body)
      (i : InstanceState) : InstanceStep i (fenceInstance i event.instant .staleAuthority)
  /-- The device was lost or left the topology. -/
  | lost (i : InstanceState) (h : TakesAway s event i.dpu) :
      InstanceStep i (loseInstance i event.instant)
  /-- The service is to quiesce. -/
  | quiesced (body : QuiesceRequested) (hbody : event.body = .quiesceRequested body)
      (i : InstanceState) (h : quiesces body.service i = true) :
      InstanceStep i (quiesceInstance event.instant i)
  | acknowledged (body : ExecutionAcknowledged) (k : Nat) (i : InstanceState)
      (hbody : event.body = .executionAcknowledged body)
      (hchecks : checkAcknowledged s body = .ok (k, i)) :
      InstanceStep i (acknowledgeInstance i)
  | failed (body : EffectReported) (k : Nat) (i : InstanceState)
      (hbody : event.body = .effectReported body)
      (hchecks : checkEffect s event body.report = .ok (k, i))
      (hstatus : body.report.status = .failed) :
      InstanceStep i (failInstance i event.instant)
  | withdrawn (body : EffectReported) (k : Nat) (i : InstanceState)
      (hbody : event.body = .effectReported body)
      (hchecks : checkEffect s event body.report = .ok (k, i))
      (hstatus : body.report.status ≠ .failed) (hkind : body.report.kind = .withdraw) :
      InstanceStep i (withdrawInstance i event.instant)
  | verified (body : EffectReported) (k : Nat) (i : InstanceState)
      (hbody : event.body = .effectReported body)
      (hchecks : checkEffect s event body.report = .ok (k, i))
      (hstatus : body.report.status ≠ .failed) (hkind : body.report.kind ≠ .withdraw) :
      InstanceStep i (verifyInstance i event.instant body.report)
  /-- A planned replica moves, changes version or starts over. -/
  | replaced (group : ServiceGroup) (plan : DeploymentPlan)
      (hplan : Planned s event bounds weights group plan) (p : ServicePlan × PlannedReplica)
      (hp : p ∈ ServicePlan.flatten plan.services) (i : InstanceState)
      (hid : i.id = makeInstanceId group.id p.1.service p.2.index)
      (hmust : i.mustReplace p.1 p.2 = true) (fence : FenceToken) :
      InstanceStep i (replacedInstance i plan event p.1 p.2 fence)
  /-- A planned replica stays and needs authority again. -/
  | reattempted (group : ServiceGroup) (plan : DeploymentPlan)
      (hplan : Planned s event bounds weights group plan) (p : ServicePlan × PlannedReplica)
      (hp : p ∈ ServicePlan.flatten plan.services) (i : InstanceState)
      (hid : i.id = makeInstanceId group.id p.1.service p.2.index)
      (hmust : i.mustReplace p.1 p.2 = false) (hstale : i.staleAttempt = true)
      (fence : FenceToken) :
      InstanceStep i (reattemptedInstance i plan event fence)
  /-- A planned replica stays as it is. -/
  | covered (group : ServiceGroup) (plan : DeploymentPlan)
      (hplan : Planned s event bounds weights group plan) (p : ServicePlan × PlannedReplica)
      (hp : p ∈ ServicePlan.flatten plan.services) (i : InstanceState)
      (hid : i.id = makeInstanceId group.id p.1.service p.2.index)
      (hmust : i.mustReplace p.1 p.2 = false) (hstale : i.staleAttempt = false) :
      InstanceStep i { i with deploymentGeneration := plan.generation }
  /-- The plan no longer covers the instance. -/
  | retired (group : ServiceGroup) (plan : DeploymentPlan)
      (hplan : Planned s event bounds weights group plan) (i : InstanceState)
      (h : uncovered group plan i = true) (hkind : plan.kind ≠ .withdraw) :
      InstanceStep i (quiesceInstance event.instant i)
  /-- The plan withdraws the instance. -/
  | withdrawing (group : ServiceGroup) (plan : DeploymentPlan)
      (hplan : Planned s event bounds weights group plan) (i : InstanceState)
      (h : uncovered group plan i = true) (hkind : plan.kind = .withdraw) (fence : FenceToken) :
      InstanceStep i (withdrawalAttempt (quiesceInstance event.instant i) plan event fence)

/-- An entry that an intent adds. -/
inductive CreatedBy : InstanceState → Prop where
  | created (group : ServiceGroup) (plan : DeploymentPlan)
      (hplan : Planned s event bounds weights group plan) (p : ServicePlan × PlannedReplica)
      (hp : p ∈ ServicePlan.flatten plan.services) (fence : FenceToken) :
      CreatedBy (createdInstance plan group event
        (makeInstanceId group.id p.1.service p.2.index) p.1 p.2 fence)

/-- The entries after, up to order, are the entries before and the created
ones, each of them changed by steps. -/
def Entrywise (after : List InstanceState) : Prop :=
  ∃ created changed, after.Perm changed
    ∧ List.Forall₂ (ReflTransGen (InstanceStep s event bounds weights)) (s.instances ++ created)
        changed
    ∧ ∀ c ∈ created, CreatedBy s event bounds weights c

end Steps

/-! ## §2. Every effect is entry-wise. -/

section Effects

variable {s s' : RuntimeState} {event : FabricEvent} {bounds : RuntimeBounds}
  {weights : PlacementWeights}

theorem forall₂_start (s : RuntimeState) (event : FabricEvent) (bounds : RuntimeBounds)
    (weights : PlacementWeights) :
    List.Forall₂ (ReflTransGen (InstanceStep s event bounds weights)) s.instances s.instances :=
  List.forall₂_same.mpr (fun _ _ => .refl)

theorem Entrywise.of_forall₂
    (h : List.Forall₂ (ReflTransGen (InstanceStep s event bounds weights)) s.instances after) :
    Entrywise s event bounds weights after :=
  ⟨[], after, List.Perm.refl _, by rwa [List.append_nil], by simp⟩

/-- Every entry after is an old or a created one, changed by steps. -/
theorem Entrywise.origin (h : Entrywise s event bounds weights after)
    {j : InstanceState} (hj : j ∈ after) :
    ∃ i, (i ∈ s.instances ∨ CreatedBy s event bounds weights i)
      ∧ ReflTransGen (InstanceStep s event bounds weights) i j := by
  obtain ⟨created, changed, hperm, hforall, hcreated⟩ := h
  obtain ⟨i, hi, hsteps⟩ := forall₂_mem_right hforall (hperm.mem_iff.mp hj)
  refine ⟨i, ?_, hsteps⟩
  rcases List.mem_append.mp hi with hi | hi
  · exact .inl hi
  · exact .inr (hcreated i hi)

theorem entrywise_refreshHealth (hbody : RefreshesHealth event) {t : RuntimeState}
    (h : List.Forall₂ (ReflTransGen (InstanceStep s event bounds weights)) s.instances
      t.instances) : Entrywise s event bounds weights (refreshHealth t).instances :=
  .of_forall₂ (forall₂_map_of (forall₂_map_of h fun _ _ hr => hr.tail (.stale hbody ..))
    fun _ _ hr => hr.tail (.refreshed hbody ..))

theorem forall₂_removeDevices {removed : List DpuId} (hremoved : ∀ d ∈ removed, TakesAway s event d)
    {t : RuntimeState}
    (h : List.Forall₂ (ReflTransGen (InstanceStep s event bounds weights)) s.instances
      t.instances) :
    List.Forall₂ (ReflTransGen (InstanceStep s event bounds weights)) s.instances
      (removed.foldl (removeDevice event) t).instances := by
  induction removed generalizing t with
  | nil => exact h
  | cons d removed ih =>
    refine ih (fun id hid => hremoved id (List.mem_cons_of_mem _ hid))
      (forall₂_map_of h fun x y hr => ?_)
    split
    · next hy => exact hr.tail (.lost y (hy ▸ hremoved d List.mem_cons_self))
    · exact hr

section Intent

variable {group : ServiceGroup} {plan : DeploymentPlan}

/-- What the replica loop maintains: the old entries and the created ones,
changed by steps. -/
def PlacedFrom (s : RuntimeState) (event : FabricEvent) (bounds : RuntimeBounds)
    (weights : PlacementWeights) (r : Reconciling) : Prop :=
  ∃ created, List.Forall₂ (ReflTransGen (InstanceStep s event bounds weights))
      (s.instances ++ created) r.instances
    ∧ ∀ c ∈ created, CreatedBy s event bounds weights c

theorem reconcileReplica_placed (hplan : Planned s event bounds weights group plan)
    {p : ServicePlan × PlannedReplica} (hp : p ∈ ServicePlan.flatten plan.services)
    {r r' : Reconciling} (hr : PlacedFrom s event bounds weights r)
    (h : reconcileReplica plan group event bounds r p = .ok r') :
    PlacedFrom s event bounds weights r' := by
  obtain ⟨created, hforall, hcreated⟩ := hr
  simp only [reconcileReplica] at h
  split at h
  · split at h
    · simp at h
    split at h
    · simp at h
    next fence fences _ =>
    injection h with h
    subst h
    refine ⟨created ++ [createdInstance plan group event
      (makeInstanceId group.id p.1.service p.2.index) p.1 p.2 fence], ?_, ?_⟩
    · rw [← List.append_assoc]
      exact forall₂_append_one hforall .refl
    intro c hc
    rcases List.mem_append.mp hc with hc | hc
    · exact hcreated c hc
    · rw [List.mem_singleton.mp hc]
      exact .created group plan hplan p hp fence
  · next k i hfind =>
    obtain ⟨hk, hid⟩ := findInstance_some hfind
    split at h
    · next hmust =>
      split at h
      · simp at h
      next fence fences _ =>
      injection h with h
      subst h
      exact ⟨created, forall₂_set hforall hk fun _ hr =>
        hr.tail (.replaced group plan hplan p hp i hid hmust fence), hcreated⟩
    · next hmust =>
      rw [Bool.not_eq_true] at hmust
      split at h
      · next hstale =>
        split at h
        · simp at h
        next fence fences _ =>
        injection h with h
        subst h
        exact ⟨created, forall₂_set hforall hk fun _ hr =>
          hr.tail (.reattempted group plan hplan p hp i hid hmust hstale fence),
          hcreated⟩
      · next hstale =>
        rw [Bool.not_eq_true] at hstale
        injection h with h
        subst h
        exact ⟨created, forall₂_set hforall hk fun _ hr =>
          hr.tail (.covered group plan hplan p hp i hid hmust hstale), hcreated⟩

theorem quiesceLoop_steps (hplan : Planned s event bounds weights group plan)
    {fences fences' : FenceIssuer} {before instances instances' : List InstanceState}
    (hbefore : List.Forall₂ (ReflTransGen (InstanceStep s event bounds weights)) before instances)
    (h : quiesceLoop plan group event fences instances = .ok (instances', fences')) :
    List.Forall₂ (ReflTransGen (InstanceStep s event bounds weights)) before instances' := by
  refine (quiesceLoop_rule (P := fun _ => True)
    (fun x i f j f' _ hx hj => ⟨trivial, ?_⟩) hbefore trivial h).2
  cases hj with
  | kept => exact hx
  | retired hu hkind => exact hx.tail (.retired group plan hplan i hu hkind)
  | @withdrawing fence _ hu hkind => exact hx.tail (.withdrawing group plan hplan i hu hkind fence)

theorem reconcile_entrywise (hplan : Planned s event bounds weights group plan) {r : Reconciling}
    (h : reconcile s plan group event bounds = .ok r) :
    Entrywise s event bounds weights (sortInstances r.instances) := by
  obtain ⟨placed, hplaced, hquiesced⟩ := reconcile_ok h
  have hstart : PlacedFrom s event bounds weights
      { instances := s.instances, fences := s.fences } :=
    ⟨[], by rw [List.append_nil]; exact forall₂_start s event bounds weights, by simp⟩
  obtain ⟨created, hforall, hcreated⟩ := foldlM_invariant
    (fun p hp _ _ hr hstep => reconcileReplica_placed hplan hp hr hstep) hstart hplaced
  exact ⟨created, r.instances, List.perm_insertionSort _ _,
    quiesceLoop_steps hplan hforall hquiesced, hcreated⟩

end Intent

/-- **The table after an applied event.** -/
theorem Accepted.entries (h : Accepted s event bounds weights s') :
    Entrywise s event bounds weights s'.instances := by
  have hstart := forall₂_start s event bounds weights
  cases h with
  | time body hbody => exact entrywise_refreshHealth (by rw [RefreshesHealth, hbody]; trivial) hstart
  | coordinator body fences hbody =>
    exact .of_forall₂ (forall₂_map_of hstart fun _ y hr => hr.tail (.fenced body hbody y))
  | service => exact .of_forall₂ hstart
  | group => exact .of_forall₂ hstart
  | dependency => exact .of_forall₂ hstart
  | policy => exact .of_forall₂ hstart
  | topology body dpus hbody _ hdpus =>
    refine entrywise_refreshHealth (by rw [RefreshesHealth, hbody]; trivial)
      (forall₂_removeDevices (fun d hd => ?_) hstart)
    obtain ⟨r, hr, rfl⟩ := List.mem_map.mp hd
    obtain ⟨hr, hnone⟩ := List.mem_filter.mp hr
    rw [TakesAway, hbody]
    refine ⟨⟨r, hr, rfl⟩, fun hlists => ?_⟩
    have hsome := TopologySnapshot.find_isSome_iff.mpr ((candidate_lists hdpus).mpr hlists)
    rw [Option.isNone_iff_eq_none] at hnone
    rw [hnone] at hsome
    simp at hsome
  | capability => exact .of_forall₂ hstart
  | health body hbody =>
    exact entrywise_refreshHealth (by rw [RefreshesHealth, hbody]; trivial) hstart
  | attached => exact .of_forall₂ hstart
  | lost body hbody hchecks =>
    refine .of_forall₂ (forall₂_map_of hstart fun _ y hr => ?_)
    split
    · next hy => exact hr.tail (.lost y (by rw [TakesAway, hbody]; exact ⟨hy.symm, hchecks⟩))
    · exact hr
  | quiesce body hbody =>
    refine .of_forall₂ (forall₂_map_of hstart fun _ y hr => ?_)
    split
    · next hq => exact hr.tail (.quiesced body hbody y hq)
    · exact hr
  | acknowledged body k i hbody hchecks =>
    exact .of_forall₂ (forall₂_set hstart (findInstance_some (checkAcknowledged_find hchecks)).1
      fun _ hr => hr.tail (.acknowledged body k i hbody hchecks))
  | failed body k i hbody hchecks hstatus =>
    exact .of_forall₂ (forall₂_set hstart (findInstance_some (checkEffect_find hchecks)).1
      fun _ hr => hr.tail (.failed body k i hbody hchecks hstatus))
  | withdrawn body k i hbody hchecks hstatus hkind =>
    exact .of_forall₂ (forall₂_set hstart (findInstance_some (checkEffect_find hchecks)).1
      fun _ hr => hr.tail (.withdrawn body k i hbody hchecks hstatus hkind))
  | verified body k i hbody hchecks hstatus hkind =>
    exact .of_forall₂ (forall₂_set hstart (findInstance_some (checkEffect_find hchecks)).1
      fun _ hr => hr.tail (.verified body k i hbody hchecks hstatus hkind))
  | intent body group plan authority r hbody hgroup hplan _ hreconcile =>
    exact reconcile_entrywise ⟨body, hbody, hgroup, hplan⟩ hreconcile

theorem applyEvent_entries (s : RuntimeState) (event : FabricEvent) (bounds : RuntimeBounds)
    (weights : PlacementWeights) :
    Entrywise s event bounds weights (applyEvent s event bounds weights).2.instances := by
  rcases applyEvent_cases s event bounds weights with (⟨_, hsame⟩ | ⟨_, hacc⟩) | ⟨_, _, hfenced⟩
  · rw [hsame]
    exact .of_forall₂ (forall₂_start s event bounds weights)
  · exact hacc.entries
  · rw [hfenced]
    exact .of_forall₂ (forall₂_start s event bounds weights)

end Effects

/-! ## §3. The entries of one identity. -/

section Identity

variable {s : RuntimeState} {event : FabricEvent} {bounds : RuntimeBounds}
  {weights : PlacementWeights} {i j : InstanceState}

theorem InstanceStep.id_eq (h : InstanceStep s event bounds weights i j) : j.id = i.id := by
  cases h with
  | refreshed => exact refreshInstance_id _ _
  | stale => exact markStale_id _ _ _
  | _ => rfl

theorem steps_id_eq (h : ReflTransGen (InstanceStep s event bounds weights) i j) : j.id = i.id := by
  induction h with
  | refl => rfl
  | tail _ hstep ih => exact hstep.id_eq.trans ih

theorem Planned.ids {group : ServiceGroup} {plan : DeploymentPlan}
    (h : Planned s event bounds weights group plan) :
    intentIds s event bounds weights = plannedIds group plan := by
  obtain ⟨body, hbody, hgroup, hplan⟩ := h.intent
  simp only [intentIds, hbody, hgroup, hplan]

theorem Planned.mem_ids {group : ServiceGroup} {plan : DeploymentPlan}
    (h : Planned s event bounds weights group plan) {p : ServicePlan × PlannedReplica}
    (hp : p ∈ ServicePlan.flatten plan.services) :
    makeInstanceId group.id p.1.service p.2.index ∈ intentIds s event bounds weights := by
  rw [h.ids]
  exact List.mem_map_of_mem hp

theorem CreatedBy.mem_ids (h : CreatedBy s event bounds weights i) :
    i.id ∈ intentIds s event bounds weights := by
  cases h with
  | created group plan hplan p hp => exact hplan.mem_ids hp

/-- **The rule for an identity that the event does not plan**: what every
step keeps holds of its entries afterwards. -/
theorem Entrywise.unplanned (h : Entrywise s event bounds weights after)
    {x : InstanceId} (hx : x ∉ intentIds s event bounds weights) {P : InstanceState → Prop}
    (hstep : ∀ i j, i.id = x → InstanceStep s event bounds weights i j → P i → P j)
    (hold : ∀ i ∈ s.instances, i.id = x → P i) : ∀ j ∈ after, j.id = x → P j := by
  intro j hj hid
  obtain ⟨i, hi, hsteps⟩ := h.origin hj
  have hiid : i.id = x := (steps_id_eq hsteps).symm.trans hid
  rcases hi with hi | hcreated
  · have hsteps' : ∀ k, ReflTransGen (InstanceStep s event bounds weights) i k → P k := by
      intro k hk
      induction hk with
      | refl => exact hold i hi hiid
      | tail hbefore hlast ih => exact hstep _ _ ((steps_id_eq hbefore).trans hiid) hlast ih
    exact hsteps' j hsteps
  · exact absurd (hiid ▸ hcreated.mem_ids) hx

theorem Entrywise.kept (h : Entrywise s event bounds weights after) (hi : i ∈ s.instances) :
    ∃ j ∈ after, j.id = i.id := by
  obtain ⟨created, changed, hperm, hforall, -⟩ := h
  obtain ⟨j, hj, hsteps⟩ := forall₂_mem_left hforall (List.mem_append_left created hi)
  exact ⟨j, hperm.mem_iff.mpr hj, steps_id_eq hsteps⟩

end Identity

end DpuFabric
