/-
  Engine.Accepted — WHAT ONE EVENT CAN DO TO THE STATE.

  `Accepted s e b w s'` lists the effects of `applyEvent`, one constructor per
  way an event is applied, each with the checks that were passed on the way.
  `applyEvent_cases` says that there is nothing else: an event is applied and
  its effect is one of these, or it is not applied — and then the state is
  the old one, unless the fence issuer refused a coordinator change.

  Every invariant of the engine is proved by cases on `Accepted`; no other
  module unfolds a reducer.
-/
import DpuFabric.Engine.Intent

namespace DpuFabric

open Lib

/-- The effects of an applied event. -/
inductive Accepted (s : RuntimeState) (event : FabricEvent) (bounds : RuntimeBounds)
    (weights : PlacementWeights) : RuntimeState → Prop where
  | time (body : LogicalTimeAdvanced) (hbody : event.body = .logicalTimeAdvanced body)
      (hclock : s.clock ≤ body.now) :
      Accepted s event bounds weights (refreshHealth { s with clock := body.now })
  | coordinator (body : CoordinatorAdvanced) (fences : FenceIssuer)
      (hbody : event.body = .coordinatorAdvanced body) (hepoch : s.epoch ≤ body.epoch)
      (hfences : s.fences.advanceEpoch body.epoch s.boot = .ok fences) :
      Accepted s event bounds weights (advanceCoordinator s event body fences)
  | service (body : ServiceDeclared) (hbody : event.body = .serviceDeclared body)
      (hchecks : serviceRefusal s body.service bounds = none) :
      Accepted s event bounds weights
        { s with services := declareService s.services body.service }
  | group (body : GroupDeclared) (hbody : event.body = .groupDeclared body)
      (hchecks : groupRefusal s body.group bounds = none) :
      Accepted s event bounds weights { s with groups := declareGroup s.groups body.group }
  | dependency (body : DependencyDeclared) (graph : DependencyGraph)
      (hbody : event.body = .dependencyDeclared body)
      (hgraph : DependencyGraph.build (s.dependencies ++ [body.dependency])
        bounds.maxDependencies = .ok graph)
      (hfrom : (findService s.services body.dependency.fromService).isSome)
      (hto : (findService s.services body.dependency.toService).isSome) :
      Accepted s event bounds weights { s with dependencies := graph.edges }
  | policy (body : PolicyAdvanced) (hbody : event.body = .policyAdvanced body)
      (hchecks : policyRefusal s event body.policy = none) :
      Accepted s event bounds weights
        { s with policy := body.policy, policyGeneration := body.policy.generation }
  | topology (body : TopologyObserved) (dpus : List DpuRecord)
      (hbody : event.body = .topologyObserved body)
      (hchecks : topologyRefusal s body.snapshot bounds = none)
      (hdpus : takeDevices s event bounds none
        (body.snapshot.dpus.insertionSort (fun a b => a.id ≤ b.id)) = .ok dpus) :
      Accepted s event bounds weights (acceptTopology s event body.snapshot dpus)
  | capability (body : CapabilityObserved) (capabilities : CapabilitySet)
      (hbody : event.body = .capabilityObserved body)
      (hchecks : checkCapability s event body bounds = .ok capabilities) :
      Accepted s event bounds weights { s with
        topology := s.topology.update body.dpu (observeCapability body capabilities)
        capabilityGeneration := if s.capabilityGeneration < body.generation then body.generation
          else s.capabilityGeneration }
  | health (body : HealthObserved) (hbody : event.body = .healthObserved body)
      (hchecks : healthRefusal s event body = none) :
      Accepted s event bounds weights (refreshHealth { s with
        topology := s.topology.update body.dpu (observeHealth s.clock event body) })
  | attached (body : DpuAttached) (hbody : event.body = .dpuAttached body)
      (hchecks : attachedRefusal s event body = none) :
      Accepted s event bounds weights
        { s with topology := s.topology.update body.dpu (attachDevice body) }
  | lost (body : DpuLost) (hbody : event.body = .dpuLost body)
      (hchecks : lostRefusal s body = none) :
      Accepted s event bounds weights (loseDevice s event body.dpu)
  | quiesce (body : QuiesceRequested) (hbody : event.body = .quiesceRequested body)
      (haffected : (s.instances.filter (quiesces body.service)).length ≠ 0) :
      Accepted s event bounds weights { s with instances := s.instances.map (fun i =>
        if quiesces body.service i then quiesceInstance event.instant i else i) }
  | acknowledged (body : ExecutionAcknowledged) (k : Nat) (i : InstanceState)
      (hbody : event.body = .executionAcknowledged body)
      (hchecks : checkAcknowledged s body = .ok (k, i)) :
      Accepted s event bounds weights
        { s with instances := s.instances.set k (acknowledgeInstance i) }
  | failed (body : EffectReported) (k : Nat) (i : InstanceState)
      (hbody : event.body = .effectReported body)
      (hchecks : checkEffect s event body.report = .ok (k, i))
      (hstatus : body.report.status = .failed) :
      Accepted s event bounds weights
        { s with instances := s.instances.set k (failInstance i event.instant) }
  | withdrawn (body : EffectReported) (k : Nat) (i : InstanceState)
      (hbody : event.body = .effectReported body)
      (hchecks : checkEffect s event body.report = .ok (k, i))
      (hstatus : body.report.status ≠ .failed) (hkind : body.report.kind = .withdraw) :
      Accepted s event bounds weights { s with
        instances := s.instances.set k (withdrawInstance i event.instant)
        authority := releaseDevice s.authority i.dpu }
  | verified (body : EffectReported) (k : Nat) (i : InstanceState)
      (hbody : event.body = .effectReported body)
      (hchecks : checkEffect s event body.report = .ok (k, i))
      (hstatus : body.report.status ≠ .failed) (hkind : body.report.kind ≠ .withdraw) :
      Accepted s event bounds weights
        { s with instances := s.instances.set k (verifyInstance i event.instant body.report) }
  | intent (body : IntentSubmitted) (group : ServiceGroup) (plan : DeploymentPlan)
      (authority : AuthorityRegistry) (r : Reconciling)
      (hbody : event.body = .intentSubmitted body)
      (hgroup : checkIntent s body.intent = .ok group)
      (hplan : intentPlan s event body.intent group bounds weights = .ok plan)
      (hclaims : claimAll s event group bounds plan = .ok authority)
      (hreconcile : reconcile s plan group event bounds = .ok r) :
      Accepted s event bounds weights (commitIntent s bounds plan authority r)

/-! ## Reducer by reducer. -/

/-- What is known of one call of a reducer: nothing happened, or one of the
listed effects did. -/
def Outcome (s : RuntimeState) (event : FabricEvent) (bounds : RuntimeBounds)
    (weights : PlacementWeights) (out : ApplyResult × RuntimeState) : Prop :=
  (out.1.applied = false ∧ out.2 = s)
    ∨ (out.1.applied = true ∧ Accepted s event bounds weights out.2)

section Reducers

variable {s : RuntimeState} {event : FabricEvent} {bounds : RuntimeBounds}
  {weights : PlacementWeights}

/-- A guarded reducer either refuses and changes nothing, or has its effect. -/
theorem outcome_guardedBy {refusal : Option Refusal} {effect : ApplyResult × RuntimeState}
    (h : refusal = none → Outcome s event bounds weights effect) :
    Outcome s event bounds weights (guardedBy s refusal effect) := by
  cases refusal with
  | some r => exact .inl ⟨rfl, rfl⟩
  | none => exact h rfl

theorem outcome_reduceTime {body : LogicalTimeAdvanced}
    (hbody : event.body = .logicalTimeAdvanced body) :
    Outcome s event bounds weights (reduceTime s body) := by
  refine outcome_guardedBy (fun h => .inr ⟨rfl, .time body hbody ?_⟩)
  by_contra hlt
  simp [not_le.mp hlt] at h

theorem outcome_reduceDependency {body : DependencyDeclared}
    (hbody : event.body = .dependencyDeclared body) :
    Outcome s event bounds weights (reduceDependency s body bounds) := by
  simp only [reduceDependency]
  split
  · exact .inl ⟨rfl, rfl⟩
  next graph hgraph =>
  refine outcome_guardedBy (fun h => .inr ⟨rfl, ?_⟩)
  simp only [ite_eq_right_iff, reduceCtorEq, imp_false, not_or, Option.isNone_iff_eq_none,
    ← ne_eq, Option.ne_none_iff_isSome] at h
  exact .dependency body graph hbody hgraph h.1 h.2

theorem outcome_reduceTopology {body : TopologyObserved}
    (hbody : event.body = .topologyObserved body) :
    Outcome s event bounds weights (reduceTopology s event body bounds) := by
  refine outcome_guardedBy (fun hchecks => ?_)
  split
  · exact .inl ⟨rfl, rfl⟩
  · next dpus hdpus => exact .inr ⟨rfl, .topology body dpus hbody hchecks hdpus⟩

theorem outcome_reduceCapability {body : CapabilityObserved}
    (hbody : event.body = .capabilityObserved body) :
    Outcome s event bounds weights (reduceCapability s event body bounds) := by
  simp only [reduceCapability]
  split
  · exact .inl ⟨rfl, rfl⟩
  · next capabilities hchecks => exact .inr ⟨rfl, .capability body capabilities hbody hchecks⟩

theorem outcome_reduceQuiesce {body : QuiesceRequested}
    (hbody : event.body = .quiesceRequested body) :
    Outcome s event bounds weights (reduceQuiesce s event body) := by
  refine outcome_guardedBy (fun h => .inr ⟨rfl, .quiesce body hbody ?_⟩)
  intro hzero
  simp [hzero] at h

theorem outcome_reduceAcknowledged {body : ExecutionAcknowledged}
    (hbody : event.body = .executionAcknowledged body) :
    Outcome s event bounds weights (reduceAcknowledged s body) := by
  simp only [reduceAcknowledged]
  split
  · exact .inl ⟨rfl, rfl⟩
  · next k i hchecks => exact .inr ⟨rfl, .acknowledged body k i hbody hchecks⟩

theorem outcome_reduceEffect {body : EffectReported} (hbody : event.body = .effectReported body) :
    Outcome s event bounds weights (reduceEffect s event body) := by
  simp only [reduceEffect]
  split
  · exact .inl ⟨rfl, rfl⟩
  next k i hchecks =>
  simp only [acceptEffect]
  split
  · next hstatus => exact .inr ⟨rfl, .failed body k i hbody hchecks hstatus⟩
  next hstatus =>
  split
  · next hkind => exact .inr ⟨rfl, .withdrawn body k i hbody hchecks hstatus hkind⟩
  · next hkind => exact .inr ⟨rfl, .verified body k i hbody hchecks hstatus hkind⟩

theorem acceptIntent_ok {intent : PlacementIntent} {out : ApplyResult × RuntimeState}
    (h : acceptIntent s event intent bounds weights = .ok out) :
    out.1.applied = true ∧ ∃ group plan authority r,
      checkIntent s intent = .ok group
      ∧ intentPlan s event intent group bounds weights = .ok plan
      ∧ claimAll s event group bounds plan = .ok authority
      ∧ reconcile s plan group event bounds = .ok r
      ∧ out.2 = commitIntent s bounds plan authority r := by
  simp only [acceptIntent, bind_eq_ok] at h
  obtain ⟨group, hgroup, plan, hplan, authority, hclaims, h⟩ := h
  split at h
  · simp at h
  next r hreconcile =>
  rw [pure_eq_ok] at h
  subst h
  exact ⟨rfl, group, plan, authority, r, hgroup, hplan, hclaims, hreconcile, rfl⟩

theorem outcome_reduceIntent {body : IntentSubmitted} (hbody : event.body = .intentSubmitted body) :
    Outcome s event bounds weights (reduceIntent s event body bounds weights) := by
  simp only [reduceIntent]
  split
  · exact .inl ⟨rfl, rfl⟩
  next out hout =>
  obtain ⟨happlied, group, plan, authority, r, hgroup, hplan, hclaims, hreconcile, hstate⟩ :=
    acceptIntent_ok hout
  refine .inr ⟨happlied, ?_⟩
  rw [hstate]
  exact .intent body group plan authority r hbody hgroup hplan hclaims hreconcile

/-- The coordinator change is the one reducer that can refuse after a change:
its issuer may lag behind the state's epoch. -/
theorem outcome_reduceCoordinator (bounds : RuntimeBounds) (weights : PlacementWeights)
    {body : CoordinatorAdvanced} (hbody : event.body = .coordinatorAdvanced body) :
    Outcome s event bounds weights (reduceCoordinator s event body)
      ∨ ((reduceCoordinator s event body).1.applied = false
          ∧ s.epoch ≤ body.epoch ∧ body.epoch < s.fences.epoch
          ∧ (reduceCoordinator s event body).2
              = { s with authority := s.authority.fenceAll.2 }) := by
  by_cases hlt : body.epoch < s.epoch
  · left
    simp only [reduceCoordinator, hlt, if_true, guardedBy]
    exact .inl ⟨rfl, rfl⟩
  · have hle : s.epoch ≤ body.epoch := not_lt.mp hlt
    simp only [reduceCoordinator, hlt, if_false, guardedBy]
    by_cases hregress : body.epoch < s.fences.epoch
    · right
      simp only [FenceIssuer.advanceEpoch, hregress, if_true]
      exact ⟨trivial, hle, trivial, trivial⟩
    · left
      have hfences : s.fences.advanceEpoch body.epoch s.boot
          = .ok { epoch := body.epoch, boot := s.boot, serials := [] } := by
        simp [FenceIssuer.advanceEpoch, hregress]
      rw [hfences]
      exact .inr ⟨rfl, .coordinator body _ hbody hle hfences⟩

/-- **Inversion of `applyEvent`.** -/
theorem applyEvent_cases (s : RuntimeState) (event : FabricEvent) (bounds : RuntimeBounds)
    (weights : PlacementWeights) :
    Outcome s event bounds weights (applyEvent s event bounds weights)
      ∨ ((applyEvent s event bounds weights).1.applied = false
          ∧ (∃ body, event.body = .coordinatorAdvanced body ∧ s.epoch ≤ body.epoch
              ∧ body.epoch < s.fences.epoch)
          ∧ (applyEvent s event bounds weights).2
              = { s with authority := s.authority.fenceAll.2 }) := by
  cases hbody : event.body with
  | logicalTimeAdvanced body =>
    simp only [applyEvent, hbody]; exact .inl (outcome_reduceTime hbody)
  | coordinatorAdvanced body =>
    simp only [applyEvent, hbody]
    rcases outcome_reduceCoordinator bounds weights hbody with h | h
    · exact .inl h
    · exact .inr ⟨h.1, ⟨body, rfl, h.2.1, h.2.2.1⟩, h.2.2.2⟩
  | serviceDeclared body =>
    simp only [applyEvent, hbody]
    exact .inl (outcome_guardedBy fun h => .inr ⟨rfl, .service body hbody h⟩)
  | groupDeclared body =>
    simp only [applyEvent, hbody]
    exact .inl (outcome_guardedBy fun h => .inr ⟨rfl, .group body hbody h⟩)
  | dependencyDeclared body =>
    simp only [applyEvent, hbody]; exact .inl (outcome_reduceDependency hbody)
  | policyAdvanced body =>
    simp only [applyEvent, hbody]
    exact .inl (outcome_guardedBy fun h => .inr ⟨rfl, .policy body hbody h⟩)
  | topologyObserved body =>
    simp only [applyEvent, hbody]; exact .inl (outcome_reduceTopology hbody)
  | capabilityObserved body =>
    simp only [applyEvent, hbody]; exact .inl (outcome_reduceCapability hbody)
  | healthObserved body =>
    simp only [applyEvent, hbody]
    exact .inl (outcome_guardedBy fun h => .inr ⟨rfl, .health body hbody h⟩)
  | dpuAttached body =>
    simp only [applyEvent, hbody]
    exact .inl (outcome_guardedBy fun h => .inr ⟨rfl, .attached body hbody h⟩)
  | dpuLost body =>
    simp only [applyEvent, hbody]
    exact .inl (outcome_guardedBy fun h => .inr ⟨rfl, .lost body hbody h⟩)
  | quiesceRequested body =>
    simp only [applyEvent, hbody]; exact .inl (outcome_reduceQuiesce hbody)
  | executionAcknowledged body =>
    simp only [applyEvent, hbody]; exact .inl (outcome_reduceAcknowledged hbody)
  | effectReported body =>
    simp only [applyEvent, hbody]; exact .inl (outcome_reduceEffect hbody)
  | intentSubmitted body =>
    simp only [applyEvent, hbody]; exact .inl (outcome_reduceIntent hbody)

end Reducers

/-! ## What no reducer touches. -/

/-- What the removal of a device keeps, the removal of several keeps. -/
theorem removeDevices_keep {β : Type} {f : RuntimeState → β} {event : FabricEvent}
    (hf : ∀ s id, f (removeDevice event s id) = f s) (removed : List DpuId) (s : RuntimeState) :
    f (removed.foldl (removeDevice event) s) = f s := by
  induction removed generalizing s with
  | nil => rfl
  | cons id removed ih => exact (ih _).trans (hf s id)

theorem Accepted.storeId_watermark {s s' : RuntimeState} {event : FabricEvent}
    {bounds : RuntimeBounds} {weights : PlacementWeights} (h : Accepted s event bounds weights s') :
    (s'.storeId, s'.watermark) = (s.storeId, s.watermark) := by
  cases h with
  | topology =>
    exact removeDevices_keep (f := fun s => (s.storeId, s.watermark)) (fun _ _ => rfl) _ _
  | _ => rfl

theorem applyEvent_storeId_watermark (s : RuntimeState) (event : FabricEvent)
    (bounds : RuntimeBounds) (weights : PlacementWeights) :
    ((applyEvent s event bounds weights).2.storeId, (applyEvent s event bounds weights).2.watermark)
      = (s.storeId, s.watermark) := by
  rcases applyEvent_cases s event bounds weights with (⟨_, hsame⟩ | ⟨_, hacc⟩) | ⟨_, _, hfenced⟩
  · rw [hsame]
  · exact hacc.storeId_watermark
  · rw [hfenced]

end DpuFabric
