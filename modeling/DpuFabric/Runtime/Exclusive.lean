/-
  Runtime.Exclusive — PLANNER AND REGISTRY AGREE ON EXCLUSIVE OWNERS.

  The planner keeps its own map of owners, the registry a sorted table.  Both
  start from the same grants, and the claim loop walks the replicas that the
  placement loop has booked: at every claim the owner in the table, if there
  is one, is the owner in the map (`Agrees`).  So a feasible plan is never
  refused for a conflict of scopes (`planner_registry_agree`).
-/
import DpuFabric.Engine.PlanSound
import DpuFabric.Runtime.Loss

namespace DpuFabric

open Lib

variable {claimed : AuthorityRegistry} {x : ServicePlan × PlannedReplica}

/-! ## §1. The table and the map. -/

/-- Every grant of the table is in the map. -/
structure Agrees (registry : AuthorityRegistry) (owner : DpuId → Option ExclusiveScopeId) :
    Prop where
  sorted : registry.Sorted
  grants : ∀ g ∈ registry.grants, owner g.dpu = some g.scope

theorem initialOwners_of_mem {r : PlanRequest} (hsorted : r.authority.Sorted) {g : AuthorityGrant}
    (hg : g ∈ r.authority.grants) : initialOwners r g.dpu = some g.scope := by
  obtain ⟨x, hx⟩ : ∃ x, r.authority.grants.find? (fun y => decide (y.dpu = g.dpu)) = some x :=
    Option.isSome_iff_exists.mp (List.find?_isSome.mpr ⟨g, hg, decide_eq_true rfl⟩)
  have hdpu : x.dpu = g.dpu :=
    of_decide_eq_true (List.find?_some (p := fun y : AuthorityGrant => decide (y.dpu = g.dpu)) hx)
  rw [initialOwners, hx,
    AuthorityRegistry.unique hsorted (List.mem_of_find?_eq_some hx) hg hdpu]
  rfl

section Claim

variable {registry : AuthorityRegistry} {owner : DpuId → Option ExclusiveScopeId}
  {scope : ExclusiveScopeId} {group : ServiceGroupId} {dpu : DpuId} {epoch : CoordinatorEpoch}
  {boot : BootIncarnation} {instant : LogicalInstant} {maxGrants : Nat}

theorem Agrees.claim (h : Agrees registry owner) (howner : owner dpu = some scope)
    (hclaim : registry.claim scope group dpu epoch boot instant maxGrants = .ok claimed) :
    Agrees claimed owner := by
  refine ⟨AuthorityRegistry.claim_sorted h.sorted hclaim, fun g hg => ?_⟩
  rcases AuthorityRegistry.mem_claim hclaim hg with hg | ⟨hdpu, hscope⟩
  · exact h.grants g hg
  · rw [hdpu, hscope]
    exact howner

theorem Agrees.no_conflict (h : Agrees registry owner) (howner : owner dpu = some scope)
    {refusal : Status}
    (hclaim : registry.claim scope group dpu epoch boot instant maxGrants = .error refusal) :
    refusal.code ≠ .exclusiveScopeConflict := by
  unfold AuthorityRegistry.claim at hclaim
  split at hclaim
  · injection hclaim with hclaim
    rw [← hclaim, refuse_code]
    decide
  · split at hclaim
    · next g hg =>
      obtain ⟨hposition, hdpu⟩ := AuthorityRegistry.ownerOf_some hg
      have hscope := h.grants g (List.mem_of_getElem? hposition)
      rw [hdpu, howner] at hscope
      rw [if_pos (Option.some.inj hscope).symm] at hclaim
      simp at hclaim
    · split at hclaim
      · injection hclaim with hclaim
        rw [← hclaim, refuse_code]
        decide
      · simp at hclaim

end Claim

/-! ## §2. The claim loop. -/

section Claims

variable {s : RuntimeState} {event : FabricEvent} {group : ServiceGroup} {bounds : RuntimeBounds}
  {plan : DeploymentPlan} {owner : DpuId → Option ExclusiveScopeId}

/-- The map has the scope of every exclusive replica of the plan. -/
def Owns (s : RuntimeState) (owner : DpuId → Option ExclusiveScopeId) (plan : DeploymentPlan) :
    Prop :=
  ∀ y ∈ placedBy plan.services, ∀ scope, scopeOf s.services y.1 = some scope →
    owner y.2.dpu = some scope

theorem mem_flatten {services : List ServicePlan} (hx : x ∈ ServicePlan.flatten services) :
    (x.1.service, x.2) ∈ placedBy services := by
  obtain ⟨sp, hsp, hmap⟩ := List.mem_flatMap.mp hx
  obtain ⟨replica, hreplica, rfl⟩ := List.mem_map.mp hmap
  exact mem_placedBy hsp hreplica

theorem placedBy_eq (services : List ServicePlan) :
    placedBy services = (ServicePlan.flatten services).map fun x => (x.1.service, x.2) := by
  rw [placedBy, ServicePlan.flatten, List.map_flatMap]
  refine List.flatMap_congr fun sp _ => ?_
  rw [List.map_map]
  rfl

theorem claimReplica_ok {registry : AuthorityRegistry}
    (h : claimReplica s event group bounds registry x = .ok claimed) :
    (scopeOf s.services x.1.service = none ∧ claimed = registry)
      ∨ ∃ scope, scopeOf s.services x.1.service = some scope
        ∧ registry.claim scope group.id x.2.dpu s.epoch s.boot event.instant bounds.maxDpus
          = .ok claimed := by
  unfold claimReplica at h
  split at h
  · next hnone =>
    injection h with h
    exact .inl ⟨hnone, h.symm⟩
  · next scope hscope =>
    split at h
    · next hclaim =>
      injection h with h
      exact .inr ⟨scope, hscope, h ▸ hclaim⟩
    · simp at h

theorem Agrees.claimReplica (howns : Owns s owner plan) {registry : AuthorityRegistry}
    (hx : x ∈ ServicePlan.flatten plan.services) (h : Agrees registry owner)
    (hclaim : claimReplica s event group bounds registry x = .ok claimed) :
    Agrees claimed owner := by
  rcases claimReplica_ok hclaim with ⟨-, rfl⟩ | ⟨scope, hscope, hclaimed⟩
  · exact h
  · exact h.claim (howns _ (mem_flatten hx) scope hscope) hclaimed

theorem claimAll_no_conflict (howns : Owns s owner plan) (hs : Agrees s.authority owner)
    {refusal : Refusal} (h : claimAll s event group bounds plan = .error refusal) :
    refusal.code ≠ .exclusiveScopeConflict := by
  obtain ⟨x, hx, registry, hregistry, hrefused⟩ := foldlM_refusal
    (P := fun registry => Agrees registry owner)
    (fun x hx _ _ hregistry hclaim => hregistry.claimReplica howns hx hclaim) hs h
  unfold claimReplica at hrefused
  split at hrefused
  · simp at hrefused
  next scope hscope =>
  split at hrefused
  · simp at hrefused
  next hclaim =>
  injection hrefused with hrefused
  rw [← hrefused]
  exact hregistry.no_conflict (howns _ (mem_flatten hx) scope hscope) hclaim

/-- Afterwards every exclusive replica's device is granted to its scope. -/
theorem claimAll_grants {authority : AuthorityRegistry}
    (h : claimAll s event group bounds plan = .ok authority) :
    ∀ y ∈ placedBy plan.services, ∀ scope, scopeOf s.services y.1 = some scope →
      ∃ g ∈ authority.grants, g.dpu = y.2.dpu ∧ g.scope = scope := by
  have hloop := foldlM_prefix (P := fun done (registry : AuthorityRegistry) =>
    ∀ x ∈ done, ∀ scope, scopeOf s.services (x : ServicePlan × PlannedReplica).1.service = some scope →
      ∃ g ∈ registry.grants, g.dpu = x.2.dpu ∧ g.scope = scope) ?_ (by simp) h
  · intro y hy scope hscope
    rw [placedBy_eq] at hy
    obtain ⟨x, hx, rfl⟩ := List.mem_map.mp hy
    exact hloop x hx scope hscope
  · intro a _ done registry claimed hdone hclaim x hx scope hscope
    rcases claimReplica_ok hclaim with ⟨hnone, rfl⟩ | ⟨mine, hmine, hclaimed⟩
    · rcases List.mem_append.mp hx with hx | hx
      · exact hdone x hx scope hscope
      · rw [List.mem_singleton.mp hx, hnone] at hscope
        exact nomatch hscope
    · obtain ⟨hnew, hkept⟩ := AuthorityRegistry.claim_scopes hclaimed
      rcases List.mem_append.mp hx with hx | hx
      · obtain ⟨g, hg, hdpu, hgscope⟩ := hdone x hx scope hscope
        obtain ⟨g', hg', hdpu', hscope'⟩ := hkept g hg
        exact ⟨g', hg', hdpu'.trans hdpu, hscope'.trans hgscope⟩
      · rw [List.mem_singleton.mp hx] at hscope ⊢
        rw [hmine] at hscope
        exact Option.some.inj hscope ▸ hnew

end Claims

/-! ## §3. The planner's plan. -/

/-- What a feasible plan is to the registry. -/
structure RespectsOwners (s : RuntimeState) (event : FabricEvent) (group : ServiceGroup)
    (bounds : RuntimeBounds) (plan : DeploymentPlan) : Prop where
  noConflict : ∀ refusal, claimAll s event group bounds plan = .error refusal →
    refusal.code ≠ .exclusiveScopeConflict
  oneScope : ∀ x ∈ placedBy plan.services, ∀ y ∈ placedBy plan.services, x.2.dpu = y.2.dpu →
    ∀ a b, scopeOf s.services x.1 = some a → scopeOf s.services y.1 = some b → a = b
  granted : ∀ y ∈ placedBy plan.services, ∀ scope, scopeOf s.services y.1 = some scope →
    ∀ g ∈ s.authority.grants, g.dpu = y.2.dpu → g.scope = scope

/-- Every exclusive replica's device is granted to its scope, and to no
other. -/
def GrantedExactly (s s' : RuntimeState) (plan : DeploymentPlan) : Prop :=
  ∀ y ∈ placedBy plan.services, ∀ scope, scopeOf s.services y.1 = some scope →
    ∃ g ∈ s'.authority.grants, g.dpu = y.2.dpu ∧ g.scope = scope
      ∧ ∀ g' ∈ s'.authority.grants, g'.dpu = y.2.dpu → g' = g

section Plan

variable {s : RuntimeState} {event : FabricEvent} {intent : PlacementIntent} {group : ServiceGroup}
  {graph : DependencyGraph} {bounds : RuntimeBounds} {weights : PlacementWeights}

/-- The planner's map is above the table, and has all scopes of its plan. -/
theorem buildPlan_owns (hs : GrantsSorted s)
    (h : (buildPlan (planRequest s event intent group graph bounds) weights).feasible = true) :
    ∃ owner, Agrees s.authority owner
      ∧ Owns s owner (buildPlan (planRequest s event intent group graph bounds) weights).plan := by
  obtain ⟨set, order, p, stages, hfeasible, -, hplan⟩ := buildPlan_laid h
  have hbooked := hfeasible.laid.booked
  refine ⟨p.scopeOwner, ⟨hs, fun g hg => hbooked.granted _ _ ?_⟩, ?_⟩
  · exact initialOwners_of_mem (r := planRequest s event intent group graph bounds) hs hg
  · rw [hplan]
    exact hbooked.owners

theorem respectsOwners_of_owns {plan : DeploymentPlan} {owner : DpuId → Option ExclusiveScopeId}
    (hs : Agrees s.authority owner) (howns : Owns s owner plan) :
    RespectsOwners s event group bounds plan where
  noConflict _ h := claimAll_no_conflict howns hs h
  oneScope x hx y hy hdpu a b ha hb := by
    have hxa := howns x hx a ha
    rw [hdpu, howns y hy b hb] at hxa
    exact (Option.some.inj hxa).symm
  granted y hy scope hscope g hg hdpu := by
    have hown := hs.grants g hg
    rw [hdpu, howns y hy scope hscope] at hown
    exact (Option.some.inj hown).symm

/-- An accepted intent of the planner's kinds goes by the planner's plan. -/
theorem applied_placement {body : IntentSubmitted} (hbody : event.body = .intentSubmitted body)
    (hwithdraw : body.intent.kind ≠ .withdraw) (hrollback : body.intent.kind ≠ .rollback)
    (hgroup : checkIntent s body.intent = .ok group)
    (hgraph : DependencyGraph.build s.dependencies bounds.maxDependencies = .ok graph)
    (happlied : (applyEvent s event bounds weights).1.applied = true) :
    claimAll s event group bounds
        (buildPlan (planRequest s event body.intent group graph bounds) weights).plan
      = .ok (applyEvent s event bounds weights).2.authority := by
  have hreduce : applyEvent s event bounds weights = reduceIntent s event body bounds weights := by
    unfold applyEvent
    rw [hbody]
  rw [hreduce] at happlied ⊢
  unfold reduceIntent at happlied ⊢
  split at happlied
  · simp [Refusal.toResult] at happlied
  next out hout =>
  obtain ⟨-, group', plan, authority, r, hgroup', hplan, hclaims, -, hstate⟩ :=
    acceptIntent_ok hout
  obtain rfl := Except.ok.inj (hgroup.symm.trans hgroup')
  have hplacement : placementPlan s event body.intent group bounds weights = .ok plan := by
    unfold intentPlan at hplan
    split at hplan
    · next hkind => exact absurd hkind hwithdraw
    · next hkind => exact absurd hkind hrollback
    · exact hplan
  unfold placementPlan at hplacement
  rw [hgraph] at hplacement
  simp only at hplacement
  split at hplacement
  · simp at hplacement
  obtain rfl := Except.ok.inj hplacement
  rw [hstate]
  exact hclaims

end Plan

/-- **Planner and registry agree on exclusivity**, in every state of every
run: a feasible plan is never refused for a conflict of scopes, has one scope
per device and respects the grants; once it is accepted, the device of every
exclusive replica is granted to exactly its scope. -/
theorem planner_registry_agree (moves : List Move) (p : Process)
    (hp : (System.after {} moves).process = some p) (event : FabricEvent) (body : IntentSubmitted)
    (hbody : event.body = .intentSubmitted body) (hwithdraw : body.intent.kind ≠ .withdraw)
    (hrollback : body.intent.kind ≠ .rollback) (group : ServiceGroup) (graph : DependencyGraph)
    (bounds : RuntimeBounds) (weights : PlacementWeights)
    (hgroup : checkIntent p.runtime.state body.intent = .ok group)
    (hgraph : DependencyGraph.build p.runtime.state.dependencies bounds.maxDependencies = .ok graph)
    (hfeasible : (buildPlan (planRequest p.runtime.state event body.intent group graph bounds)
      weights).feasible = true) :
    let plan := (buildPlan (planRequest p.runtime.state event body.intent group graph bounds)
      weights).plan
    RespectsOwners p.runtime.state event group bounds plan
      ∧ ((applyEvent p.runtime.state event bounds weights).1.applied = true →
        GrantedExactly p.runtime.state (applyEvent p.runtime.state event bounds weights).2 plan) := by
  have hsorted : GrantsSorted p.runtime.state := (grantsSorted_lasting.always moves).holds p hp
  obtain ⟨owner, hagrees, howns⟩ := buildPlan_owns hsorted hfeasible
  refine ⟨respectsOwners_of_owns hagrees howns, fun happlied y hy scope hscope => ?_⟩
  have hclaims := applied_placement hbody hwithdraw hrollback hgroup hgraph happlied
  obtain ⟨g, hg, hdpu, hgscope⟩ := claimAll_grants hclaims y hy scope hscope
  refine ⟨g, hg, hdpu, hgscope, fun g' hg' hdpu' => ?_⟩
  exact AuthorityRegistry.unique (claimAll_sorted hsorted hclaims) hg' hg (hdpu'.trans hdpu.symm)

/-- The deployment of the exclusive service, once more. -/
def repeatedIntent : IntentSubmitted :=
  { intent := {
      id := .literal (txt "in")
      group := .literal (txt "g")
      kind := .deploy
      generation := ⟨2⟩
      services := [{ service := .literal (txt "a"), desiredReplicas := 1 }] } }

def repeatedEvent : FabricEvent := sampleEvent 6 (.intentSubmitted repeatedIntent)

/-- The group and the dependencies that the intent finds. -/
def repeatedGroup : ServiceGroup :=
  (checkIntent ownedProcess.runtime.state repeatedIntent.intent).toOption.getD {}

def repeatedGraph : DependencyGraph :=
  (DependencyGraph.build ownedProcess.runtime.state.dependencies 1024).toOption.getD {}

theorem repeated_deployment_granted :
    GrantedExactly ownedProcess.runtime.state
      (applyEvent ownedProcess.runtime.state repeatedEvent {} {}).2
      (buildPlan (planRequest ownedProcess.runtime.state repeatedEvent repeatedIntent.intent
        repeatedGroup repeatedGraph {}) {}).plan :=
  (planner_registry_agree ownedMoves ownedProcess (Option.some_get ownedMoves_runs).symm
    repeatedEvent repeatedIntent rfl (by decide) (by decide) repeatedGroup repeatedGraph {} {}
    (eq_ok_getD _ (by decide +kernel)) (eq_ok_getD _ (by decide +kernel)) (by decide +kernel)).2
    (by decide +kernel)

end DpuFabric
