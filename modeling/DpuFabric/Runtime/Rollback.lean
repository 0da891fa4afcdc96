/-
  Runtime.Rollback — WHOSE PLAN A ROLLBACK TAKES UP (`reduce_intent`, rollback branch).

  A rollback names a generation and a group, and takes up the retained plan of
  the generation.  Generations are counted for the whole fabric
  (`plansAscend_lasting`), so there is at most one such plan, in every state of
  every run — but nothing compares its group with the one that is rolled back,
  nor its services with the members the group has by now.
-/
import DpuFabric.Runtime.Reconciliation

namespace DpuFabric

open Lib

variable {intent : PlacementIntent} {group : ServiceGroup} {plan : DeploymentPlan}

/-! ## §1. The history of plans. -/

/-- The retained plans are in the order of their generations, and the present
generation is the last. -/
structure PlansAscend (s : RuntimeState) : Prop where
  ascending : s.plans.Pairwise (fun p q => p.generation < q.generation)
  upTo : ∀ p ∈ s.plans, p.generation ≤ s.deploymentGeneration
  valid : ∀ p ∈ s.plans, p.generation.valid = true

section Ascend

variable {s t : RuntimeState} {event : FabricEvent} {bounds : RuntimeBounds}
  {weights : PlacementWeights}

theorem PlansAscend.congr (h : PlansAscend s)
    (hplans : t.plans.map DeploymentPlan.generation = s.plans.map DeploymentPlan.generation)
    (hgeneration : t.deploymentGeneration = s.deploymentGeneration) : PlansAscend t := by
  have hmem : ∀ p ∈ t.plans, ∃ q ∈ s.plans, q.generation = p.generation := by
    intro p hp
    have := List.mem_map_of_mem (f := DeploymentPlan.generation) hp
    rw [hplans] at this
    exact List.mem_map.mp this
  refine ⟨?_, ?_, ?_⟩
  · have hpairs := List.pairwise_map.mpr h.ascending
    rw [← hplans] at hpairs
    exact List.pairwise_map.mp hpairs
  · intro p hp
    obtain ⟨q, hq, heq⟩ := hmem p hp
    rw [← heq, hgeneration]
    exact h.upTo q hq
  · intro p hp
    obtain ⟨q, hq, heq⟩ := hmem p hp
    rw [← heq]
    exact h.valid q hq

theorem PlansAscend.unique (h : PlansAscend s) {p q : DeploymentPlan} (hp : p ∈ s.plans)
    (hq : q ∈ s.plans) (heq : p.generation = q.generation) : p = q := by
  have hnodup : (s.plans.map DeploymentPlan.generation).Nodup :=
    List.pairwise_map.mpr (h.ascending.imp fun hlt => ne_of_lt hlt)
  exact List.inj_on_of_nodup_map hnodup hp hq heq

theorem checkIntent_generation (h : checkIntent s intent = .ok group) :
    intent.generation.valid = true ∧ s.deploymentGeneration ≤ intent.generation
      ∧ (intent.kind ≠ .withdraw → s.deploymentGeneration < intent.generation) := by
  unfold checkIntent at h
  split at h
  · simp at h
  split at h
  · simp at h
  next hvalid =>
  iterate 2
    split at h
    · simp at h
  split at h
  · simp at h
  next hlow =>
  split at h
  · simp at h
  next hnew =>
  have hle := not_lt.mp hlow
  refine ⟨by simpa using hvalid, hle, fun hkind => ?_⟩
  exact lt_of_le_of_ne hle fun heq => hnew ⟨heq.symm, hkind⟩

theorem checkIntent_group (h : checkIntent s intent = .ok group) :
    findGroup s.groups intent.group = some group := by
  unfold checkIntent at h
  split at h
  · simp at h
  next group' hfind =>
  rw [hfind]
  iterate 5
    split at h
    · simp at h
  rw [Except.ok.inj h]

theorem withdrawalPlan_ok (h : withdrawalPlan s event intent group = .ok plan) :
    plan.kind = .withdraw ∧ plan.generation = intent.generation := by
  simp only [withdrawalPlan, bind_eq_ok, pure_eq_ok] at h
  obtain ⟨services, -, rfl⟩ := h
  exact ⟨rfl, rfl⟩

/-- Every plan has the generation of its intent, and is a withdrawal if the
intent is one. -/
theorem intentPlan_generation (h : intentPlan s event intent group bounds weights = .ok plan) :
    plan.generation = intent.generation ∧ (intent.kind = .withdraw → plan.kind = .withdraw) := by
  unfold intentPlan at h
  split at h
  · obtain ⟨hkind, hgeneration⟩ := withdrawalPlan_ok h
    exact ⟨hgeneration, fun _ => hkind⟩
  · next hrollback =>
    exact ⟨(rollbackPlan_ok h).2.1, fun hkind => absurd (hrollback.symm.trans hkind) (by simp)⟩
  · next hkind _ => exact ⟨(placementPlan_ok h).2.1, fun h => absurd h hkind⟩

theorem mem_retainPlan {p : DeploymentPlan} (h : p ∈ (retainPlan s bounds plan).1) :
    p ∈ s.plans ++ [plan] := by
  simp only [retainPlan] at h
  split at h
  · exact List.mem_of_mem_drop h
  · exact h

theorem retainPlan_pairwise {R : DeploymentPlan → DeploymentPlan → Prop}
    (h : (s.plans ++ [plan]).Pairwise R) : (retainPlan s bounds plan).1.Pairwise R := by
  simp only [retainPlan]
  split
  · exact h.drop
  · exact h

theorem commitIntent_ascend (h : PlansAscend s) (hgroup : checkIntent s intent = .ok group)
    (hplan : intentPlan s event intent group bounds weights = .ok plan)
    (authority : AuthorityRegistry) (r : Reconciling) :
    PlansAscend (commitIntent s bounds plan authority r) := by
  obtain ⟨hvalid, hle, hlt⟩ := checkIntent_generation hgroup
  obtain ⟨hgeneration, hkind⟩ := intentPlan_generation hplan
  by_cases hwithdraw : plan.kind = .withdraw
  · have hplans : (commitIntent s bounds plan authority r).plans = s.plans := by
      simp [commitIntent, hwithdraw]
    refine ⟨by rw [hplans]; exact h.ascending, fun p hp => ?_, fun p hp => ?_⟩
    · rw [hplans] at hp
      exact (h.upTo p hp).trans (hle.trans_eq hgeneration.symm)
    · rw [hplans] at hp
      exact h.valid p hp
  · have hplans : (commitIntent s bounds plan authority r).plans = (retainPlan s bounds plan).1 := by
      simp [commitIntent, hwithdraw]
    have hnew : s.deploymentGeneration < plan.generation :=
      hgeneration ▸ hlt fun hk => hwithdraw (hkind hk)
    have hbelow : ∀ p ∈ s.plans, p.generation < plan.generation := fun p hp =>
      lt_of_le_of_lt (h.upTo p hp) hnew
    refine ⟨?_, fun p hp => ?_, fun p hp => ?_⟩
    · rw [hplans]
      refine retainPlan_pairwise (List.pairwise_append.mpr ⟨h.ascending, by simp, ?_⟩)
      intro p hp q hq
      rw [List.mem_singleton.mp hq]
      exact hbelow p hp
    · rw [hplans] at hp
      rcases List.mem_append.mp (mem_retainPlan hp) with hp | hp
      · exact (hbelow p hp).le
      · rw [List.mem_singleton.mp hp]
        exact le_rfl
    · rw [hplans] at hp
      rcases List.mem_append.mp (mem_retainPlan hp) with hp | hp
      · exact h.valid p hp
      · rw [List.mem_singleton.mp hp, hgeneration]
        exact hvalid

/-- Only an intent touches the retained plans or the generation. -/
theorem Accepted.plansAscend (hacc : Accepted s event bounds weights t) (h : PlansAscend s) :
    PlansAscend t := by
  cases hacc with
  | topology =>
    refine h.congr ?_ ?_
    · exact congrArg _ (removeDevices_keep (f := RuntimeState.plans) (fun _ _ => rfl) _ _)
    · exact removeDevices_keep (f := RuntimeState.deploymentGeneration) (fun _ _ => rfl) _ _
  | intent body group plan authority r hbody hgroup hplan =>
    exact commitIntent_ascend h hgroup hplan authority r
  | _ => exact h.congr rfl rfl

end Ascend

theorem plansAscend_lasting : Lasting PlansAscend (fun _ => True) where
  core h hs := hs.congr (congrArg (fun s => s.plans.map DeploymentPlan.generation) h).symm
    (congrArg RuntimeState.deploymentGeneration h).symm
  blank _ := ⟨List.Pairwise.nil, fun _ h => absurd h (by simp [initialState]),
    fun _ h => absurd h (by simp [initialState])⟩
  restored hs := hs.congr (by simp [RuntimeState.restored, RuntimeState.visited,
    DeploymentPlan.visited, Function.comp_def]) rfl
  event bounds weights _ hs := by
    rcases applyEvent_cases _ _ bounds weights with (⟨_, hsame⟩ | ⟨_, hacc⟩) | ⟨_, _, hfenced⟩
    · rw [hsame]
      exact hs
    · exact hacc.plansAscend hs
    · rw [hfenced]
      exact hs.congr rfl rfl
  restarted _ _ hs := hs.congr rfl rfl

/-! ## §2. The plan of a rollback. -/

/-- The replicas of a plan: service, index, device, version. -/
def DeploymentPlan.replicas (plan : DeploymentPlan) :
    List (ServiceId × ReplicaIndex × DpuId × ServiceVersion) :=
  (ServicePlan.flatten plan.services).map
    (fun p => (p.1.service, p.2.index, p.2.dpu, p.1.version))

/-- The intent is accepted with this group and plan: the plan is the one that
is reconciled and committed. -/
def Commits (s : RuntimeState) (event : FabricEvent) (intent : PlacementIntent)
    (bounds : RuntimeBounds) (weights : PlacementWeights) (group : ServiceGroup)
    (plan : DeploymentPlan) : Prop :=
  checkIntent s intent = .ok group ∧ intentPlan s event intent group bounds weights = .ok plan
    ∧ ∃ authority r, reconcile s plan group event bounds = .ok r
        ∧ (applyEvent s event bounds weights).2 = commitIntent s bounds plan authority r

/-- The plan stays inside the group: it is the group's, it has the replicas of
the group's retained plan of the target generation, and its services are
members. -/
structure StaysInside (s : RuntimeState) (intent : PlacementIntent) (group : ServiceGroup)
    (plan : DeploymentPlan) : Prop where
  owner : plan.group = intent.group
  retained : ∃ source ∈ s.plans, source.group = intent.group
    ∧ intent.rollbackTarget = some source.generation ∧ plan.replicas = source.replicas
  members : ∀ sp ∈ plan.services, sp.service ∈ group.members

/-- What is wanted of a rollback: an accepted one stays inside its group, and
one to a generation of another group is refused without effect. -/
def RollbackStays (s : RuntimeState) (event : FabricEvent) (intent : PlacementIntent)
    (bounds : RuntimeBounds) (weights : PlacementWeights) : Prop :=
  (∀ group plan, (applyEvent s event bounds weights).1.applied = true →
      Commits s event intent bounds weights group plan → StaysInside s intent group plan)
    ∧ ((∃ source ∈ s.plans, intent.rollbackTarget = some source.generation
          ∧ source.group ≠ intent.group) →
        (applyEvent s event bounds weights).1.applied = false
          ∧ (applyEvent s event bounds weights).2 = s)

/-- The retained plan of the target generation is the group's, and plans its
members only. -/
def SourceInside (s : RuntimeState) (intent : PlacementIntent) : Prop :=
  ∀ source, rollbackSource s intent = some source → source.group = intent.group
    ∧ ∀ group, findGroup s.groups intent.group = some group →
        ∀ sp ∈ source.services, sp.service ∈ group.members

instance (s : RuntimeState) (intent : PlacementIntent) : Decidable (SourceInside s intent) :=
  inferInstanceAs (Decidable (∀ source ∈ rollbackSource s intent, source.group = intent.group
    ∧ ∀ group ∈ findGroup s.groups intent.group,
        ∀ sp ∈ source.services, sp.service ∈ group.members))

section Rollback

variable {s : RuntimeState} {event : FabricEvent} {body : IntentSubmitted}
  {bounds : RuntimeBounds} {weights : PlacementWeights}

theorem mem_of_rollbackSource {source : DeploymentPlan}
    (h : rollbackSource s intent = some source) :
    source ∈ s.plans ∧ source.generation = intent.rollbackTarget.getD default := by
  have hmem := List.mem_of_getLast? h
  rw [List.mem_filter, decide_eq_true_eq] at hmem
  exact hmem

/-- A rollback without a target finds no plan: no plan has generation zero. -/
theorem rollbackTarget_of_source (hs : PlansAscend s)
    {source : DeploymentPlan} (h : rollbackSource s intent = some source) :
    intent.rollbackTarget = some source.generation := by
  obtain ⟨hmem, hgeneration⟩ := mem_of_rollbackSource h
  cases htarget : intent.rollbackTarget with
  | none =>
    have hvalid := hs.valid source hmem
    rw [hgeneration, htarget] at hvalid
    exact absurd hvalid (by decide)
  | some target =>
    rw [hgeneration, htarget]
    rfl

theorem commits_of_applied (hbody : event.body = .intentSubmitted body)
    (happlied : (applyEvent s event bounds weights).1.applied = true) :
    ∃ group plan, Commits s event body.intent bounds weights group plan := by
  have hstate : (applyEvent s event bounds weights) = reduceIntent s event body bounds weights := by
    simp only [applyEvent, hbody]
  cases hout : acceptIntent s event body.intent bounds weights with
  | error refusal =>
    rw [hstate, reduceIntent, hout] at happlied
    simp [Refusal.toResult] at happlied
  | ok out =>
    obtain ⟨-, group, plan, authority, r, hgroup, hplan, -, hreconcile, hcommit⟩ :=
      acceptIntent_ok hout
    refine ⟨group, plan, hgroup, hplan, authority, r, hreconcile, ?_⟩
    rw [hstate, reduceIntent, hout]
    exact hcommit

/-- The plan that a rollback commits is its source, under the source's group. -/
theorem Commits.rollback
    (h : Commits s event intent bounds weights group plan) (hkind : intent.kind = .rollback) :
    findGroup s.groups intent.group = some group ∧ ∃ source, rollbackSource s intent = some source
      ∧ plan.group = source.group ∧ plan.services = source.services := by
  obtain ⟨hgroup, hplan, -⟩ := h
  have hrollback : rollbackPlan s event intent = .ok plan := by
    simpa only [intentPlan, hkind] using hplan
  exact ⟨checkIntent_group hgroup, (rollbackPlan_ok hrollback).2.2⟩

theorem intent_refused (hbody : event.body = .intentSubmitted body)
    (hrefused : (applyEvent s event bounds weights).1.applied = false) :
    (applyEvent s event bounds weights).2 = s := by
  have hstate : applyEvent s event bounds weights = reduceIntent s event body bounds weights := by
    simp only [applyEvent, hbody]
  rw [hstate] at hrefused ⊢
  rcases @outcome_reduceIntent s event bounds weights body hbody with h | h
  · exact h.2
  · exact absurd (h.1.symm.trans hrefused) (by simp)

end Rollback

/-- **A rollback stays inside its group iff the plan it takes up does**, where
it is accepted; refused, it changes nothing. -/
theorem rollback_stays_iff (moves : List Move) (p : Process)
    (hp : (System.after {} moves).process = some p) (event : FabricEvent) (body : IntentSubmitted)
    (hbody : event.body = .intentSubmitted body) (hkind : body.intent.kind = .rollback)
    (bounds : RuntimeBounds) (weights : PlacementWeights) :
    ((applyEvent p.runtime.state event bounds weights).1.applied = true →
        (RollbackStays p.runtime.state event body.intent bounds weights
          ↔ SourceInside p.runtime.state body.intent))
      ∧ ((applyEvent p.runtime.state event bounds weights).1.applied = false →
        RollbackStays p.runtime.state event body.intent bounds weights) := by
  have hascend := (plansAscend_lasting.always moves).holds p hp
  refine ⟨fun happlied => ⟨fun hstays => ?_, fun hsource => ⟨?_, ?_⟩⟩, fun hrefused => ⟨?_, ?_⟩⟩
  · obtain ⟨group, plan, hcommits⟩ := commits_of_applied hbody happlied
    obtain ⟨hgroup, source, hsource, hof, hservices⟩ := hcommits.rollback hkind
    have hinside := hstays.1 group plan happlied hcommits
    intro source' hsource'
    obtain rfl := Option.some.inj (hsource.symm.trans hsource')
    refine ⟨hof.symm.trans hinside.owner, fun group' hgroup' => ?_⟩
    obtain rfl := Option.some.inj (hgroup.symm.trans hgroup')
    rw [← hservices]
    exact hinside.members
  · intro group plan _ hcommits
    obtain ⟨hgroup, source, hfound, hof, hservices⟩ := hcommits.rollback hkind
    obtain ⟨hsame, hmembers⟩ := hsource source hfound
    refine ⟨hof.trans hsame, ⟨source, (mem_of_rollbackSource hfound).1, hsame,
      rollbackTarget_of_source hascend hfound, ?_⟩, ?_⟩
    · rw [DeploymentPlan.replicas, hservices, DeploymentPlan.replicas]
    · rw [hservices]
      exact hmembers group hgroup
  · -- the only plan of the target generation is the source, which is the group's
    rintro ⟨other, hother, htarget, hforeign⟩
    obtain ⟨group, plan, hcommits⟩ := commits_of_applied hbody happlied
    obtain ⟨-, source, hfound, -⟩ := hcommits.rollback hkind
    have hgeneration := htarget.symm.trans (rollbackTarget_of_source hascend hfound)
    have heq := hascend.unique hother (mem_of_rollbackSource hfound).1 (Option.some.inj hgeneration)
    exact absurd (heq ▸ (hsource source hfound).1) hforeign
  · intro group plan happlied
    exact absurd (happlied.symm.trans hrefused) (by simp)
  · exact fun _ => ⟨hrefused, intent_refused hbody hrefused⟩

theorem lostMoves_runs : (System.after {} lostMoves).process.isSome = true := by decide +kernel

/-- A group with one generation rolls back to it. -/
theorem rollback_to_own_generation :
    RollbackStays ((System.after {} lostMoves).process.get lostMoves_runs).runtime.state rollback
      (sampleBody rollback).intent {} {} :=
  ((rollback_stays_iff lostMoves _ (Option.some_get lostMoves_runs).symm rollback
    (sampleBody rollback) rfl rfl {} {}).1 (by decide +kernel)).mpr (by decide +kernel)

/-- Two groups with one service each, deployed one after the other. -/
def twoGroupMoves : List Move :=
  .run (.start sampleConfig) [] ::
    [sampleEvent 1 (sampleTopology ["d"]), sampleEvent 2 samplePolicy,
     sampleEvent 3 (sampleService "a" none), sampleEvent 4 (sampleService "b" none),
     sampleEvent 5 (sampleGroup "g" ["a"]), sampleEvent 6 (sampleGroup "h" ["b"]),
     sampleEvent 7 (sampleIntent .deploy "g" 1 ["a"]),
     sampleEvent 8 (sampleIntent .deploy "h" 2 ["b"])].flatMap submitMoves

/-- A rollback of `h` to the generation of `g`. -/
def foreignRollback : FabricEvent :=
  sampleEvent 9 (.intentSubmitted { intent := {
    id := .literal (txt "in"), group := .literal (txt "h"), kind := .rollback, generation := ⟨3⟩,
    rollbackTarget := some ⟨1⟩ } })

/-- It is accepted, and commits a plan of group `g` with a service that is no
member of `h`. -/
theorem rollback_takes_foreign_plan :
    ¬ ∀ (moves : List Move) (p : Process), (System.after {} moves).process = some p →
      ∀ (event : FabricEvent) (body : IntentSubmitted), event.body = .intentSubmitted body →
      body.intent.kind = .rollback → ∀ (bounds : RuntimeBounds) (weights : PlacementWeights),
        RollbackStays p.runtime.state event body.intent bounds weights := by
  intro h
  have hbad : (System.after {} twoGroupMoves).process.any (fun p : Process => decide (
      (applyEvent p.runtime.state foreignRollback {} {}).1.applied = true
        ∧ ∃ source ∈ p.runtime.state.plans,
            (sampleBody foreignRollback).intent.rollbackTarget = some source.generation
              ∧ source.group ≠ (sampleBody foreignRollback).intent.group)) = true := by
    decide +kernel
  obtain ⟨p, hp, hp'⟩ := (Option.any_eq_true _ _).mp hbad
  obtain ⟨happlied, hforeign⟩ := of_decide_eq_true hp'
  have hrefused := ((h _ p hp foreignRollback (sampleBody foreignRollback) rfl rfl {} {}).2
    hforeign).1
  exact absurd (happlied.symm.trans hrefused) (by simp)

end DpuFabric
