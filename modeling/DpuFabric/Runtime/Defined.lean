/-
  Runtime.Defined — WHERE THE REDUCER COULD LEAVE THE DEFINED BEHAVIOUR OF ITS LANGUAGE.

  The partial operations on the way through `apply_event`, each with the path
  that reaches it.  Not listed are those whose guard stands in the same
  expression (`exclusive_scope`, `max_replicas_per_domain`, the compatibility
  optionals, `attempts.empty() ? … : attempts.back()`, `serials_.back()` after
  its `push_back`): they are pattern matches of the model.  All guards hold but
  one: the target of a rollback is checked by the planner, which a rollback
  never calls.
-/
import DpuFabric.Engine.PlanSize
import DpuFabric.Runtime.Rollback

namespace DpuFabric

open Lib Visit

/-! ## §1. The partial operations. -/

/-- An intent that is planned, with the request it makes. -/
structure Requests (s : RuntimeState) (event : FabricEvent) (bounds : RuntimeBounds)
    (r : PlanRequest) : Prop where
  submitted : ∃ body group graph, event.body = .intentSubmitted body
    ∧ checkIntent s body.intent = .ok group
    ∧ body.intent.kind ≠ .withdraw ∧ body.intent.kind ≠ .rollback
    ∧ DependencyGraph.build s.dependencies bounds.maxDependencies = .ok graph
    ∧ r = planRequest s event body.intent group graph bounds
  valid : validateIntent r = none

/-- A step of `apply_event` without a defined result. -/
inductive Undefined (s : RuntimeState) (event : FabricEvent) (bounds : RuntimeBounds) : Prop
  /-- `*intent.rollback_target` of an absent target. -/
  | target (body : IntentSubmitted) (group : ServiceGroup)
      (hbody : event.body = .intentSubmitted body) (hcheck : checkIntent s body.intent = .ok group)
      (hkind : body.intent.kind = .rollback) (habsent : body.intent.rollbackTarget = none)
  /-- `instance->attempts.back()` of an acknowledged instance without attempts. -/
  | acknowledged (body : ExecutionAcknowledged) (k : Nat) (i : InstanceState)
      (hbody : event.body = .executionAcknowledged body)
      (hcheck : checkAcknowledged s body = .ok (k, i)) (hempty : i.attempts = [])
  /-- `instance->attempts.back()` of a reported instance without attempts. -/
  | reported (body : EffectReported) (k : Nat) (i : InstanceState)
      (hbody : event.body = .effectReported body)
      (hcheck : checkEffect s event body.report = .ok (k, i)) (hempty : i.attempts = [])
  /-- The loop of `topological_order` does not end. -/
  | ordering (r : PlanRequest) (services : List ServiceId) (hrequests : Requests s event bounds r)
      (hopen : ∀ n, (DependencyGraph.kahnAfter (r.dependencies.orderPairs services) n
        (r.dependencies.orderStart services, [])).1.ready ≠ [])
  /-- `*unresolved.begin()` of an empty set. -/
  | cursor (r : PlanRequest) (services : List ServiceId) (hrequests : Requests s event bounds r)
      (hshort : (r.dependencies.emitted services).length
        ≠ (DependencyGraph.orderNodes services).length)
      (hempty : r.dependencies.unresolved services = [])
  /-- A division by a capacity of zero in `headroom_permille`. -/
  | permille (r : PlanRequest) (dpu : DpuRecord) (service : ServiceDefinition)
      (free : ResourceVector) (c : (UInt64 × String) × (UInt64 × String))
      (hrequests : Requests s event bounds r) (hdpu : dpu ∈ r.topology.dpus)
      (hfree : dpu.capacity.headroom dpu.allocated = .ok free)
      (hcovers : free.covers service.resources = true)
      (hc : c ∈ free.components.zip service.resources.components)
      (hrequired : c.2.1 ≠ 0) (hzero : c.1.1 = 0)
  /-- `offset += batch` and `… / batch` with a batch of zero. -/
  | staging (r : PlanRequest) (hrequests : Requests s event bounds r)
      (hzero : r.intent.staging.batchSize = 0)

section Guards

variable {s : RuntimeState} {event : FabricEvent} {bounds : RuntimeBounds}
  {weights : PlacementWeights}

/-- What stands ahead of the kinds of intent: a declared group, accepted
topology and policy, and a new generation. -/
structure Current (s : RuntimeState) (intent : PlacementIntent) : Prop where
  group : (findGroup s.groups intent.group).isSome = true
  generation : intent.generation.valid = true
  topology : s.topologyGeneration.valid = true
  policy : s.policy.generation.valid = true
  fresh : s.deploymentGeneration < intent.generation

theorem checkIntent_ok_iff {intent : PlacementIntent} (hkind : intent.kind ≠ .withdraw) :
    (∃ group, checkIntent s intent = .ok group) ↔ Current s intent := by
  constructor
  · rintro ⟨group, h⟩
    obtain ⟨hvalid, -, hfresh⟩ := checkIntent_generation h
    have hgroup := checkIntent_group h
    unfold checkIntent at h
    simp only [hgroup, hvalid, Bool.not_true, Bool.false_eq_true, if_false] at h
    split at h
    · simp at h
    next htopology =>
    split at h
    · simp at h
    next hpolicy =>
    exact ⟨by rw [hgroup]; rfl, hvalid, by simpa using htopology, by simpa using hpolicy,
      hfresh hkind⟩
  · rintro ⟨hgroup, hvalid, htopology, hpolicy, hfresh⟩
    obtain ⟨group, hgroup⟩ := Option.isSome_iff_exists.mp hgroup
    refine ⟨group, ?_⟩
    unfold checkIntent
    simp only [hgroup, hvalid, htopology, hpolicy, Bool.not_true, Bool.false_eq_true, if_false,
      if_neg (not_lt_of_gt hfresh), if_neg fun h => ne_of_gt hfresh (And.left h)]

theorem checkAcknowledged_attempts {body : ExecutionAcknowledged} {k : Nat} {i : InstanceState}
    (h : checkAcknowledged s body = .ok (k, i)) : i.attempts ≠ [] := by
  intro hempty
  simp only [checkAcknowledged, checkAcknowledged_find h, InstanceState.currentAttempt, hempty,
    List.getLast?_nil] at h
  split at h <;> exact absurd h (by simp)

theorem checkEffect_attempts {report : EffectReport} {k : Nat} {i : InstanceState}
    (h : checkEffect s event report = .ok (k, i)) : i.attempts ≠ [] := by
  intro hempty
  simp only [checkEffect, checkEffect_find h, InstanceState.currentAttempt, hempty,
    List.getLast?_nil] at h
  simp at h

theorem covers_pos {free required : ResourceVector} (h : free.covers required = true)
    {c : (UInt64 × String) × (UInt64 × String)} (hc : c ∈ free.components.zip required.components)
    (hrequired : c.2.1 ≠ 0) : c.1.1 ≠ 0 := by
  intro hzero
  have hle : c.2.1 ≤ c.1.1 := of_decide_eq_true (List.all_eq_true.mp h c hc)
  rw [hzero] at hle
  exact hrequired (UInt64.le_zero_iff.mp hle)

/-- **One guard is missing.** -/
theorem undefined_iff : Undefined s event bounds ↔ ∃ body, event.body = .intentSubmitted body
    ∧ body.intent.kind = .rollback ∧ body.intent.rollbackTarget = none ∧ Current s body.intent := by
  constructor
  · intro h
    cases h with
    | target body group hbody hcheck hkind habsent =>
      have hother : body.intent.kind ≠ .withdraw := by simp [hkind]
      exact ⟨body, hbody, hkind, habsent, (checkIntent_ok_iff hother).mp ⟨group, hcheck⟩⟩
    | acknowledged body k i hbody hcheck hempty =>
      exact absurd hempty (checkAcknowledged_attempts hcheck)
    | reported body k i hbody hcheck hempty => exact absurd hempty (checkEffect_attempts hcheck)
    | ordering r services hrequests hopen =>
      exact absurd (DependencyGraph.kahnAfter_ends r.dependencies services) (hopen _)
    | cursor r services hrequests hshort hempty =>
      exact absurd hempty (DependencyGraph.unresolved_of_short r.dependencies services hshort)
    | permille r dpu service free c hrequests hdpu hfree hcovers hc hrequired hzero =>
      exact absurd hzero (covers_pos hcovers hc hrequired)
    | staging r hrequests hzero => exact absurd hzero (validateIntent_batch hrequests.valid)
  · rintro ⟨body, hbody, hkind, habsent, hcurrent⟩
    have hother : body.intent.kind ≠ .withdraw := by simp [hkind]
    obtain ⟨group, hcheck⟩ := (checkIntent_ok_iff hother).mpr hcurrent
    exact .target body group hbody hcheck hkind habsent

end Guards

/-! ## §2. The reducer. -/

/-- A rollback is refused and changes nothing, or names a retained plan. -/
def RollbackGrounded (s : RuntimeState) (event : FabricEvent) (bounds : RuntimeBounds)
    (weights : PlacementWeights) : Prop :=
  ∀ body : IntentSubmitted, event.body = .intentSubmitted body → body.intent.kind = .rollback →
    ((applyEvent s event bounds weights).1.applied = false
        ∧ (applyEvent s event bounds weights).2 = s)
      ∨ ∃ plan ∈ s.plans, body.intent.rollbackTarget = some plan.generation

/-- A rollback without a target is turned away by the checks ahead of it. -/
def RollbackNamed (s : RuntimeState) (event : FabricEvent) : Prop :=
  ∀ body : IntentSubmitted, event.body = .intentSubmitted body → body.intent.kind = .rollback →
    body.intent.rollbackTarget = none → ¬ Current s body.intent

theorem rollbackGrounded_of_named {s : RuntimeState} {event : FabricEvent} (bounds : RuntimeBounds)
    (weights : PlacementWeights) (h : RollbackNamed s event) :
    RollbackGrounded s event bounds weights := by
  intro body hbody hkind
  cases happlied : (applyEvent s event bounds weights).1.applied with
  | false => exact .inl ⟨rfl, intent_refused hbody happlied⟩
  | true =>
    obtain ⟨group, plan, hcommits⟩ := commits_of_applied hbody happlied
    obtain ⟨-, source, hsource, -⟩ := hcommits.rollback hkind
    obtain ⟨hmem, hgeneration⟩ := mem_of_rollbackSource hsource
    have hother : body.intent.kind ≠ .withdraw := by simp [hkind]
    have hcurrent := (checkIntent_ok_iff hother).mp ⟨group, hcommits.1⟩
    obtain ⟨target, htarget⟩ := Option.ne_none_iff_exists'.mp
      fun habsent => h body hbody hkind habsent hcurrent
    refine .inr ⟨source, hmem, ?_⟩
    rw [hgeneration, htarget]
    rfl

/-- **The reducer stays defined iff every rollback it looks into has a
target.** -/
theorem reducer_defined_iff (s : RuntimeState) (event : FabricEvent) (bounds : RuntimeBounds)
    (weights : PlacementWeights) :
    ¬ Undefined s event bounds ∧ RollbackGrounded s event bounds weights
      ↔ RollbackNamed s event := by
  constructor
  · rintro ⟨hdefined, -⟩ body hbody hkind habsent hcurrent
    exact hdefined (undefined_iff.mpr ⟨body, hbody, hkind, habsent, hcurrent⟩)
  intro hnamed
  refine ⟨fun hundefined => ?_, rollbackGrounded_of_named bounds weights hnamed⟩
  obtain ⟨body, hbody, hkind, habsent, hcurrent⟩ := undefined_iff.mp hundefined
  exact hnamed body hbody hkind habsent hcurrent

/-- A rollback of the deployed group that names no generation. -/
def blindRollback : FabricEvent :=
  sampleEvent 9 (.intentSubmitted { intent := {
    id := .literal (txt "in"), group := .literal (txt "h"), kind := .rollback, generation := ⟨3⟩ } })
    
theorem blindRollback_decodes : ∃ data,
    decodeBinary FabricEvent.visit maxDecodedSequence data = .ok blindRollback := by
  have hwithin : ∀ p ∈ partsOf FabricEvent.visit blindRollback, p.Within maxDecodedSequence := by
    decide
  have h := (decodeBinary_iff_plain _ hwithin).mpr (by decide)
  rw [FabricEvent.visit_norm] at h
  exact ⟨_, h⟩

/-- It can be read from the wire, and the reducer dereferences its absent
target. -/
theorem rollback_reads_absent_target :
    ¬ ∀ (moves : List Move) (p : Process), (System.after {} moves).process = some p →
      ∀ event : FabricEvent,
        (∃ data, decodeBinary FabricEvent.visit maxDecodedSequence data = .ok event) →
        ∀ (bounds : RuntimeBounds) (weights : PlacementWeights),
          ¬ Undefined p.runtime.state event bounds
            ∧ RollbackGrounded p.runtime.state event bounds weights := by
  intro h
  have hreached : (System.after {} twoGroupMoves).process.any (fun p : Process => decide (
      (findGroup p.runtime.state.groups (sampleBody blindRollback).intent.group).isSome = true
        ∧ p.runtime.state.topologyGeneration.valid = true
        ∧ p.runtime.state.policy.generation.valid = true
        ∧ p.runtime.state.deploymentGeneration < (sampleBody blindRollback).intent.generation))
      = true := by decide +kernel
  obtain ⟨p, hp, hp'⟩ := (Option.any_eq_true _ _).mp hreached
  obtain ⟨hgroup, htopology, hpolicy, hfresh⟩ := of_decide_eq_true hp'
  refine (h _ p hp blindRollback blindRollback_decodes {} {}).1 (undefined_iff.mpr ?_)
  exact ⟨sampleBody blindRollback, rfl, rfl, rfl, hgroup, rfl, htopology, hpolicy, hfresh⟩

end DpuFabric
