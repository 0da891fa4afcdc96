/-
  Engine.PlanSize — HOW LARGE A PLAN CAN BE.

  A plan has a service plan for each service of its intent, a service plan no
  more replicas than the intent asks for — which the declared replica policy
  holds to `max_replicas_per_service` — and the stages cut the replicas into
  at most `max_stages` parts.  The replicas of a whole plan are therefore no
  more than the intent asks for in total (`askedReplicas`).
-/
import DpuFabric.Engine.Feasible
import DpuFabric.Engine.Intent
import Mathlib.Algebra.Order.BigOperators.Group.List
import Mathlib.Algebra.Order.Group.Nat

namespace DpuFabric

open Lib

variable {r : PlanRequest} {set : ServiceSet}

/-! ## §1. What is asked for. -/

/-- The replicas that an intent asks for. -/
def askedReplicas (services : List ServiceReplicaIntent) : Nat :=
  (services.map fun entry => entry.desiredReplicas.toNat).sum

theorem Collected.total {done : List ServiceReplicaIntent} (h : Collected r done set) :
    (set.desired.map fun d => d.2.toNat).sum ≤ askedReplicas done := by
  have hsub := h.sublist.map fun d : ServiceId × UInt32 => d.2.toNat
  rw [List.map_map] at hsub
  exact hsub.sum_le_sum fun _ _ => Nat.zero_le _

/-! ## §2. The placement loop. -/

/-- A service plan has at most the replicas that are desired. -/
theorem ServicePlan.Laid.length_le {sp : ServicePlan} (h : sp.Laid r set) : sp.replicas.length ≤
    (set.desiredOf sp.service).toNat := by
  rw [← h.kept.placed, ← h.desired]
  exact UInt32.le_iff_toNat_le.mp h.atMost

/-- The service plans under a feasible plan: their number, the replicas of
each and of all together. -/
theorem Feasible.sized {order : List ServiceId} {p : Placement} (h : Feasible r set order p) :
    p.services.length ≤ r.intent.services.length
      ∧ (∀ sp ∈ p.services, sp.replicas.length ≤ r.bounds.maxReplicasPerService)
      ∧ (p.services.map fun sp => sp.replicas.length).sum ≤ askedReplicas r.intent.services := by
  have hcollected := intentServices_collected r
  have hdesiredOf : set.desiredOf = (intentServices r).desiredOf := by
    funext id
    rw [ServiceSet.desiredOf, ServiceSet.desiredOf, h.desired]
  -- the services of the plan are the keys of the table
  have hkeys : (p.services.map ServicePlan.service).Perm (intentServices r).services :=
    h.laid.services ▸ h.perm
  refine ⟨?_, fun sp hsp => ?_, ?_⟩
  · have hlength := hkeys.length_eq
    rw [List.length_map, hcollected.services, List.length_map] at hlength
    rw [hlength, ← List.length_map (f := ServiceReplicaIntent.pair)]
    exact hcollected.sublist.length_le
  · refine (h.laid.each sp hsp).length_le.trans ?_
    have hmem : sp.service ∈ (intentServices r).services :=
      hkeys.mem_iff.mp (List.mem_map_of_mem hsp)
    have hpair : (sp.service, (intentServices r).desiredOf sp.service)
        ∈ (intentServices r).desired := by
      rw [← hcollected.desiredOf]
      exact List.mem_map_of_mem hmem
    rw [hdesiredOf]
    exact (hcollected.declared _ hpair).2
  · have hsum : ((p.services.map ServicePlan.service).map fun id => (set.desiredOf id).toNat).sum
        = ((intentServices r).desired.map fun d => d.2.toNat).sum := by
      rw [(hkeys.map _).sum_eq, hdesiredOf, ← hcollected.desiredOf, List.map_map]
      rfl
    calc (p.services.map fun sp => sp.replicas.length).sum
        ≤ (p.services.map fun sp => (set.desiredOf sp.service).toNat).sum :=
          List.sum_le_sum fun sp hsp => (h.laid.each sp hsp).length_le
      _ = ((p.services.map ServicePlan.service).map fun id => (set.desiredOf id).toNat).sum := by
          rw [List.map_map]
          rfl
      _ = ((intentServices r).desired.map fun d => d.2.toNat).sum := hsum
      _ ≤ askedReplicas r.intent.services := hcollected.total

/-! ## §3. The stages. -/

theorem buildStages_size {batch maxStages : Nat} {maxUnavailable : UInt32} :
    ∀ {fuel : Nat} {rest : List InstanceId} {stages out : List PlanStage} {limit : Nat},
      buildStages batch maxUnavailable maxStages fuel rest stages = some out →
      stages.length ≤ maxStages → rest.length ≤ limit →
      (∀ st ∈ stages, st.instances.length ≤ limit) →
      out.length ≤ maxStages ∧ ∀ st ∈ out, st.instances.length ≤ limit
  | _, [], _, _, _, h, hlength, _, hstages => by
      simp only [buildStages, Option.some.injEq] at h
      exact h ▸ ⟨hlength, hstages⟩
  | 0, _ :: _, _, _, _, h, hlength, _, hstages => by
      simp only [buildStages, Option.some.injEq] at h
      exact h ▸ ⟨hlength, hstages⟩
  | fuel + 1, x :: rest, stages, out, limit, h, hlength, hrest, hstages => by
      simp only [buildStages] at h
      split at h
      · simp at h
      next hroom =>
      refine buildStages_size h ?_ ?_ fun st hst => ?_
      · rw [List.length_append, List.length_singleton]
        omega
      · rw [List.length_drop]
        omega
      rcases List.mem_append.mp hst with hst | hst
      · exact hstages st hst
      · rw [List.mem_singleton.mp hst]
        exact (List.length_take_le' _ _).trans hrest

/-! ## §4. The whole plan. -/

theorem flatten_length (services : List ServicePlan) :
    (ServicePlan.flatten services).length = (services.map fun sp => sp.replicas.length).sum := by
  simp [ServicePlan.flatten, List.length_flatMap]

theorem rolloutOrder_length (group : ServiceGroupId) (services : List ServicePlan) :
    (rolloutOrder group services).length = (ServicePlan.flatten services).length :=
  List.length_map _

/-- The size of a plan, with the largest stage of it. -/
structure PlanSized (bounds : RuntimeBounds) (stage : Nat) (plan : DeploymentPlan) : Prop where
  services : plan.services.length ≤ bounds.maxServices
  replicas : ∀ sp ∈ plan.services, sp.replicas.length ≤ bounds.maxReplicasPerService
  stages : plan.stages.length ≤ bounds.maxStages
  batches : ∀ st ∈ plan.stages, st.instances.length ≤ stage
  explanations : plan.explanations.length ≤ bounds.maxExplanations

theorem PlanSized.mono {bounds : RuntimeBounds} {n m : Nat} {plan : DeploymentPlan}
    (h : PlanSized bounds n plan) (hle : n ≤ m) : PlanSized bounds m plan :=
  { h with batches := fun st hst => (h.batches st hst).trans hle }

theorem validateIntent_services (h : validateIntent r = none) :
    r.intent.services.length ≤ r.bounds.maxServices := by
  by_contra hlt
  simp only [validateIntent, not_le.mp hlt, if_true] at h
  repeat' split at h
  all_goals exact absurd h (by simp)

theorem validateIntent_batch (h : validateIntent r = none) : r.intent.staging.batchSize ≠ 0 := by
  intro hzero
  simp only [validateIntent] at h
  iterate 5
    split at h
    · simp at h
  split at h
  · simp at h
  · next hstaging =>
    exact hstaging (by simp [StagedRolloutPolicy.validate, hzero, Status.ok, isInformational])

/-- A plan that the planner makes: its size, and that of all its replicas. -/
theorem buildPlan_sized {weights : PlacementWeights} (h : (buildPlan r weights).feasible = true) :
    PlanSized r.bounds (askedReplicas r.intent.services) (buildPlan r weights).plan
      ∧ (ServicePlan.flatten (buildPlan r weights).plan.services).length
        ≤ askedReplicas r.intent.services := by
  obtain ⟨set, order, p, stages, hfeasible, hstages, hplan⟩ := buildPlan_laid h
  obtain ⟨hservices, hreplicas, htotal⟩ := hfeasible.sized
  rw [← flatten_length] at htotal
  rw [hplan]
  obtain ⟨hcount, hbatches⟩ := buildStages_size hstages (Nat.zero_le _)
    ((rolloutOrder_length _ _).trans_le htotal) (by simp)
  exact ⟨⟨hservices.trans (validateIntent_services hfeasible.valid), hreplicas, hcount, hbatches,
    List.length_take_le _ _⟩, htotal⟩

end DpuFabric
