/-
  Runtime.Orphans — GRANTS THAT NOTHING STANDS BEHIND.

  An intent claims the devices of its exclusive replicas; a proven withdrawal,
  a loss and a change of coordinator give them up.  Nothing gives up the
  device that an intent MOVES a replica away from: its grant stays, no
  instance is left on the device, and no report can ever release it.  As long
  as every intent leaves somebody behind each grant (`LeavesBacked`), every
  grant is backed (`grants_stay_backed`).
-/
import DpuFabric.Engine.Sizes
import DpuFabric.Runtime.Catalogue
import DpuFabric.Runtime.Exclusive
import DpuFabric.Runtime.Reconciliation

namespace DpuFabric

open Lib Relation

variable {group : ServiceGroup} {plan : DeploymentPlan} {s : RuntimeState} {i : InstanceState}
  {g : AuthorityGrant}

/-! ## §1. Backed grants. -/

/-- The instance is placed on the device of the grant, is not Withdrawn, and its
service declares the scope. -/
structure Backs (s : RuntimeState) (g : AuthorityGrant) (i : InstanceState) : Prop where
  dpu : i.dpu = g.dpu
  present : i.state ≠ .withdrawn
  scope : scopeOf s.services i.service = some g.scope

instance (s : RuntimeState) (g : AuthorityGrant) (i : InstanceState) : Decidable (Backs s g i) :=
  decidable_of_iff (i.dpu = g.dpu ∧ i.state ≠ .withdrawn
      ∧ scopeOf s.services i.service = some g.scope)
    ⟨fun ⟨h₁, h₂, h₃⟩ => ⟨h₁, h₂, h₃⟩, fun h => ⟨h.dpu, h.present, h.scope⟩⟩

/-- Every grant is backed by an instance. -/
def GrantsBacked (s : RuntimeState) : Prop :=
  ∀ g ∈ s.authority.grants, ∃ i ∈ s.instances, Backs s g i

instance (s : RuntimeState) : Decidable (GrantsBacked s) :=
  inferInstanceAs (Decidable (∀ g ∈ _, ∃ i ∈ _, _))

/-- The declaration is refused, or leaves a declared service its scope. -/
def KeepsScope (s : RuntimeState) (event : FabricEvent) (bounds : RuntimeBounds) : Prop :=
  match event.body with
  | .serviceDeclared body => serviceRefusal s body.service bounds = none →
      ∀ old, findService s.services body.service.id = some old →
        body.service.isolation.exclusiveScope = old.isolation.exclusiveScope
  | _ => True

/-- The plan leaves somebody behind the grant: an instance that it does not place
elsewhere, or a replica that it places on the device. -/
def LeftBacked (s : RuntimeState) (group : ServiceGroup) (plan : DeploymentPlan)
    (g : AuthorityGrant) : Prop :=
  (∃ i ∈ s.instances, Backs s g i
      ∧ ∀ p ∈ ServicePlan.flatten plan.services, plannedId group p = i.id → p.2.dpu = g.dpu)
    ∨ ∃ p ∈ ServicePlan.flatten plan.services,
        p.2.dpu = g.dpu ∧ scopeOf s.services p.1.service = some g.scope

/-- What an intent has to be to leave every grant backed. -/
def LeavesBacked (s : RuntimeState) (event : FabricEvent) (bounds : RuntimeBounds)
    (weights : PlacementWeights) : Prop :=
  match event.body with
  | .intentSubmitted body =>
    ∀ group ∈ (checkIntent s body.intent).toOption,
      ∀ plan ∈ (intentPlan s event body.intent group bounds weights).toOption,
        body.intent.kind ≠ .withdraw →
          SoundPlan s group plan ∧ ∀ g ∈ s.authority.grants, LeftBacked s group plan g
  | _ => True

section Decidable

variable (s : RuntimeState) (event : FabricEvent) (bounds : RuntimeBounds)
  (weights : PlacementWeights)

instance : Decidable (KeepsScope s event bounds) := by
  unfold KeepsScope
  generalize event.body = body
  apply @FabricEventBody.casesOn _ body <;> infer_instance

instance (group : ServiceGroup) (plan : DeploymentPlan) (g : AuthorityGrant) :
    Decidable (LeftBacked s group plan g) :=
  inferInstanceAs (Decidable (_ ∨ _))

instance : Decidable (LeavesBacked s event bounds weights) := by
  unfold LeavesBacked
  generalize event.body = body
  apply @FabricEventBody.casesOn _ body <;> infer_instance

end Decidable

/-! ## §2. One event. -/

section Event

variable {s s' : RuntimeState} {event : FabricEvent} {bounds : RuntimeBounds}
  {weights : PlacementWeights}

/-- The event proves the withdrawal of an instance on the device. -/
def ProvesWithdrawal (s : RuntimeState) (event : FabricEvent) (d : DpuId) : Prop :=
  ∃ body k i, event.body = .effectReported body ∧ checkEffect s event body.report = .ok (k, i)
    ∧ body.report.status ≠ .failed ∧ body.report.kind = .withdraw ∧ i.dpu = d

/-- No planned replica takes the identity away from the device. -/
def StaysOn (s : RuntimeState) (event : FabricEvent) (bounds : RuntimeBounds)
    (weights : PlacementWeights) (x : InstanceId) (d : DpuId) : Prop :=
  ∀ group plan, Planned s event bounds weights group plan →
    ∀ p ∈ ServicePlan.flatten plan.services, plannedId group p = x → p.2.dpu = d

/-- An instance that stays and whose withdrawal is not proven. -/
theorem InstanceStep.backing {j : InstanceState} (h : InstanceStep s event bounds weights i j)
    (hstays : StaysOn s event bounds weights i.id i.dpu)
    (hproof : ¬ ProvesWithdrawal s event i.dpu) :
    j.dpu = i.dpu ∧ j.service = i.service ∧ (i.state ≠ .withdrawn → j.state ≠ .withdrawn) := by
  cases h with
  | refreshed =>
    unfold refreshInstance
    repeat' split
    all_goals exact ⟨rfl, rfl, id⟩
  | stale =>
    unfold markStale
    split
    all_goals exact ⟨rfl, rfl, id⟩
  | fenced => exact ⟨rfl, rfl, fun hi => by cases hs : i.state <;> simp_all [fenceInstance, fencedState]⟩
  | withdrawn body k i hbody hchecks hstatus hkind =>
    exact absurd ⟨body, k, i, hbody, hchecks, hstatus, hkind, rfl⟩ hproof
  | replaced group plan hplan p hp i hid =>
    exact ⟨hstays group plan hplan p hp hid.symm, rfl, fun _ => by
      simp [replacedInstance, authorizeAttempt]⟩
  | covered => exact ⟨rfl, rfl, id⟩
  | _ => exact ⟨rfl, rfl, fun _ => by simp [loseInstance, quiesceInstance, cancelOpenAttempts,
      acknowledgeInstance, failInstance, verifyInstance, reattemptedInstance, authorizeAttempt,
      withdrawalAttempt]⟩

theorem Entrywise.backing {after : List InstanceState} (h : Entrywise s event bounds weights after)
    (hi : i ∈ s.instances) (hpresent : i.state ≠ .withdrawn)
    (hstays : StaysOn s event bounds weights i.id i.dpu)
    (hproof : ¬ ProvesWithdrawal s event i.dpu) :
    ∃ j ∈ after, j.dpu = i.dpu ∧ j.service = i.service ∧ j.state ≠ .withdrawn := by
  obtain ⟨created, changed, hperm, hforall, -⟩ := h
  obtain ⟨j, hj, hsteps⟩ := forall₂_mem_left hforall (List.mem_append_left created hi)
  refine ⟨j, hperm.mem_iff.mpr hj, ?_⟩
  clear hj
  induction hsteps with
  | refl => exact ⟨rfl, rfl, hpresent⟩
  | tail hbefore hstep ih =>
    obtain ⟨hdpu, hservice, hstate⟩ := ih
    have hid := steps_id_eq hbefore
    obtain ⟨hdpu', hservice', hstate'⟩ := hstep.backing (by rw [hid, hdpu]; exact hstays)
      (by rw [hdpu]; exact hproof)
    exact ⟨hdpu'.trans hdpu, hservice'.trans hservice, hstate' hstate⟩

theorem Accepted.scopeOf (h : Accepted s event bounds weights s')
    (hsorted : SortedBy ServiceDefinition.id s.services) (hkeeps : KeepsScope s event bounds)
    {id : ServiceId} {scope : ExclusiveScopeId}
    (hscope : DpuFabric.scopeOf s.services id = some scope) :
    DpuFabric.scopeOf s'.services id = some scope := by
  cases h with
  | service body hbody hchecks =>
    unfold DpuFabric.scopeOf at hscope ⊢
    rw [findService_declare hsorted]
    split
    · next hid =>
      obtain ⟨old, hold, hdeclared⟩ := Option.bind_eq_some_iff.mp hscope
      simp only [KeepsScope, hbody] at hkeeps
      rw [Option.bind_some, hkeeps hchecks old (hid ▸ hold)]
      exact hdeclared
    · exact hscope
  | topology =>
    have hkeep : ∀ (removed : List DpuId) (t : RuntimeState),
        (removed.foldl (removeDevice event) t).services = t.services :=
      removeDevices_keep (f := RuntimeState.services) (fun _ _ => rfl)
    simp only [acceptTopology, refreshHealth, hkeep]
    exact hscope
  | _ => exact hscope

/-- A claimed grant was there before, or belongs to a planned replica. -/
theorem claimAll_origin
    {authority : AuthorityRegistry} (h : claimAll s event group bounds plan = .ok authority) :
    ∀ g ∈ authority.grants, g ∈ s.authority.grants
      ∨ ∃ p ∈ ServicePlan.flatten plan.services,
          p.2.dpu = g.dpu ∧ DpuFabric.scopeOf s.services p.1.service = some g.scope := by
  refine foldlM_invariant (P := fun r : AuthorityRegistry => ∀ g ∈ r.grants,
    g ∈ s.authority.grants ∨ ∃ p ∈ ServicePlan.flatten plan.services,
      p.2.dpu = g.dpu ∧ DpuFabric.scopeOf s.services p.1.service = some g.scope) ?_
    (fun g hg => .inl hg) h
  intro p hp r r' hr hclaim g hg
  rcases claimReplica_ok hclaim with ⟨-, rfl⟩ | ⟨scope, hscope, hclaimed⟩
  · exact hr g hg
  rcases AuthorityRegistry.mem_claim hclaimed hg with hg | ⟨hdpu, hsame⟩
  · exact hr g hg
  · exact .inr ⟨p, hp, hdpu.symm, hsame.symm ▸ hscope⟩

theorem Accepted.grant_source (h : Accepted s event bounds weights s') (hs : GrantsSorted s)
    (hg : g ∈ s'.authority.grants) :
    (g ∈ s.authority.grants ∧ ¬ ProvesWithdrawal s event g.dpu
        ∧ ∀ body, event.body ≠ .intentSubmitted body)
      ∨ ∃ body group plan authority, event.body = .intentSubmitted body
        ∧ checkIntent s body.intent = .ok group
        ∧ intentPlan s event body.intent group bounds weights = .ok plan
        ∧ claimAll s event group bounds plan = .ok authority ∧ g ∈ authority.grants := by
  have hquiet : (∀ body, event.body ≠ .effectReported body) → ¬ ProvesWithdrawal s event g.dpu :=
    fun hne ⟨body, _, _, hbody, _⟩ => hne body hbody
  cases h with
  | coordinator => simp [advanceCoordinator, AuthorityRegistry.fenceAll] at hg
  | topology body dpus hbody =>
    have hg' : g ∈ (List.foldl (removeDevice event) _ _).authority.grants := hg
    rw [removeDevices_authority, (releaseDevices_grants hs _).2] at hg'
    exact .inl ⟨List.mem_of_mem_filter hg', hquiet (by simp [hbody]), by simp [hbody]⟩
  | lost body hbody =>
    have hg' : g ∈ (releaseDevice s.authority body.dpu).grants := hg
    rw [releaseDevice_grants hs] at hg'
    exact .inl ⟨List.mem_of_mem_filter hg', hquiet (by simp [hbody]), by simp [hbody]⟩
  | withdrawn body k i hbody hchecks hstatus hkind =>
    have hg' : g ∈ (releaseDevice s.authority i.dpu).grants := hg
    rw [releaseDevice_grants hs] at hg'
    obtain ⟨hold, hother⟩ := List.mem_filter.mp hg'
    refine .inl ⟨hold, ?_, by simp [hbody]⟩
    rintro ⟨body', k', i', hbody', hchecks', -, -, hdpu⟩
    obtain rfl : body = body' := FabricEventBody.effectReported.inj (hbody.symm.trans hbody')
    obtain ⟨-, rfl⟩ := Prod.mk.inj (Except.ok.inj (hchecks.symm.trans hchecks'))
    simp [hdpu] at hother
  | failed body k i hbody hchecks hstatus =>
    refine .inl ⟨hg, ?_, by simp [hbody]⟩
    rintro ⟨body', _, _, hbody', _, hstatus', _⟩
    obtain rfl : body = body' := FabricEventBody.effectReported.inj (hbody.symm.trans hbody')
    exact hstatus' hstatus
  | verified body k i hbody hchecks hstatus hkind =>
    refine .inl ⟨hg, ?_, by simp [hbody]⟩
    rintro ⟨body', _, _, hbody', _, _, hkind', _⟩
    obtain rfl : body = body' := FabricEventBody.effectReported.inj (hbody.symm.trans hbody')
    exact hkind hkind'
  | intent body group plan authority r hbody hgroup hplan hclaims =>
    exact .inr ⟨body, group, plan, authority, hbody, hgroup, hplan, hclaims, hg⟩
  | _ => exact .inl ⟨hg, hquiet (by simp_all), by simp_all⟩

theorem Placed.present
    {p : ServicePlan × PlannedReplica} {j : InstanceState} (h : Placed s plan group event p j) :
    j.state ≠ .withdrawn := by
  cases h with
  | created => simp [createdInstance]
  | replaced => simp [replacedInstance, authorizeAttempt]
  | reattempted => simp [reattemptedInstance, authorizeAttempt]
  | covered i _ _ hmust =>
    intro hwithdrawn
    have hterminal := (mustReplace_false hmust).2.2
    simp_all [InstanceState.terminal]

theorem Planned.unique {group' : ServiceGroup} {plan' : DeploymentPlan}
    (h : Planned s event bounds weights group plan)
    (h' : Planned s event bounds weights group' plan') : group' = group ∧ plan' = plan := by
  obtain ⟨body, hbody, hgroup, hplan⟩ := h.intent
  obtain ⟨body', hbody', hgroup', hplan'⟩ := h'.intent
  obtain rfl : body = body' := FabricEventBody.intentSubmitted.inj (hbody.symm.trans hbody')
  obtain rfl := Except.ok.inj (hgroup.symm.trans hgroup')
  exact ⟨rfl, Except.ok.inj (hplan'.symm.trans hplan)⟩

theorem withdrawal_bare {intent : PlacementIntent} (hkind : intent.kind = .withdraw)
    (hplan : intentPlan s event intent group bounds weights = .ok plan) :
    ServicePlan.flatten plan.services = [] := by
  simp only [intentPlan, hkind, withdrawalPlan, bind_eq_ok, pure_eq_ok] at hplan
  obtain ⟨services, hservices, rfl⟩ := hplan
  have hbare := withdrawalServices_bare hservices
  show ServicePlan.flatten services = []
  refine List.flatMap_eq_nil_iff.mpr fun sp hsp => ?_
  rw [hbare sp hsp]
  rfl

/-- **One event keeps every grant backed**, as long as declared scopes stay and
an intent leaves somebody behind. -/
theorem Accepted.grantsBacked (h : Accepted s event bounds weights s')
    (hservices : SortedBy ServiceDefinition.id s.services) (hsorted : GrantsSorted s)
    (hkeeps : KeepsScope s event bounds) (hleaves : LeavesBacked s event bounds weights)
    (hs : GrantsBacked s) : GrantsBacked s' := by
  have hscopes : ∀ {id scope}, DpuFabric.scopeOf s.services id = some scope →
      DpuFabric.scopeOf s'.services id = some scope := h.scopeOf hservices hkeeps
  -- an instance that stays where it is goes on backing its grant
  have hstayed : ∀ {g i}, i ∈ s.instances → Backs s g i →
      StaysOn s event bounds weights i.id i.dpu → ¬ ProvesWithdrawal s event i.dpu →
      ∃ j ∈ s'.instances, Backs s' g j := by
    intro g i hi hbacks hstays hproof
    obtain ⟨j, hj, hdpu, hservice, hpresent⟩ :=
      h.entries.backing hi hbacks.present hstays hproof
    exact ⟨j, hj, hdpu.trans hbacks.dpu, hpresent, hservice ▸ hscopes hbacks.scope⟩
  intro g hg
  rcases h.grant_source hsorted hg with ⟨hold, hproof, hquiet⟩
    | ⟨body, group, plan, authority, hbody, hgroup, hplan, hclaims, hclaimed⟩
  · obtain ⟨i, hi, hbacks⟩ := hs g hold
    refine hstayed hi hbacks (fun _ _ hplanned => ?_) (hbacks.dpu ▸ hproof)
    obtain ⟨body, hbody, -⟩ := hplanned.intent
    exact absurd hbody (hquiet body)
  · have hplanned : Planned s event bounds weights group plan := ⟨body, hbody, hgroup, hplan⟩
    have hnoproof : ∀ d, ¬ ProvesWithdrawal s event d := by
      rintro d ⟨body', _, _, hbody', _⟩
      exact absurd (hbody.symm.trans hbody') (by simp)
    have hunmoved : ∀ {i : InstanceState} {d : DpuId},
        (∀ p ∈ ServicePlan.flatten plan.services, plannedId group p = i.id → p.2.dpu = d) →
        StaysOn s event bounds weights i.id d := by
      intro i d hplan _ _ hplanned'
      obtain ⟨rfl, rfl⟩ := hplanned.unique hplanned'
      exact hplan
    by_cases hkind : body.intent.kind = .withdraw
    · -- nothing is planned, so nothing is claimed or moved
      have hbare := withdrawal_bare hkind hplan
      have hold : g ∈ s.authority.grants := by
        refine (claimAll_origin hclaims g hclaimed).resolve_right ?_
        rw [hbare]
        simp
      obtain ⟨i, hi, hbacks⟩ := hs g hold
      exact hstayed hi hbacks (hunmoved (by rw [hbare]; simp)) (hnoproof _)
    · simp only [LeavesBacked, hbody] at hleaves
      obtain ⟨hsound, hleft⟩ := hleaves group (by rw [hgroup]; rfl) plan (by rw [hplan]; rfl) hkind
      have hreplica : ∀ p ∈ ServicePlan.flatten plan.services, p.2.dpu = g.dpu →
          DpuFabric.scopeOf s.services p.1.service = some g.scope →
          ∃ j ∈ s'.instances, Backs s' g j := by
        intro p hp hdpu hscope
        have hreconciled : Reconciled s plan group event s'.instances := by
          cases h with
          | intent body' group' plan' _ r hbody' hgroup' hplan' _ hreconcile =>
            obtain ⟨rfl, rfl⟩ := hplanned.unique ⟨body', hbody', hgroup', hplan'⟩
            exact (reconcile_reconciled hsound (intentPlan_ok hkind hplan).1 hreconcile).perm
              (List.perm_insertionSort _ _).symm
          | _ => exact absurd ‹event.body = _› (by simp [hbody])
        obtain ⟨j, hj, hplaced⟩ := hreconciled.placed p hp
        refine ⟨j, hj, hplaced.place.1.trans hdpu, hplaced.present, ?_⟩
        rw [(hplaced.isReplica hsound hp).2.1]
        exact hscopes hscope
      rcases claimAll_origin hclaims g hclaimed with hold | ⟨p, hp, hdpu, hscope⟩
      · rcases hleft g hold with ⟨i, hi, hbacks, hstays⟩ | ⟨p, hp, hdpu, hscope⟩
        · exact hstayed hi hbacks (hunmoved (hbacks.dpu ▸ hstays)) (hnoproof _)
        · exact hreplica p hp hdpu hscope
      · exact hreplica p hp hdpu hscope

end Event

/-! ## §3. Runs. -/

/-- What the theorem asks of an event in the state that it is taken up in. -/
def KeepsBacked (config : RuntimeConfig) (s : RuntimeState) (event : FabricEvent) : Prop :=
  KeepsScope s event config.bounds ∧ LeavesBacked s event config.bounds config.weights

instance (config : RuntimeConfig) (s : RuntimeState) (event : FabricEvent) :
    Decidable (KeepsBacked config s event) :=
  inferInstanceAs (Decidable (_ ∧ _))

/-- The tables are in order and the grants are backed. -/
structure BackedState (s : RuntimeState) : Prop where
  catalogued : Catalogued s
  sorted : GrantsSorted s
  backed : GrantsBacked s

/-- What the grants rest on: the registry, the scopes, and for each instance one
that is no less present in the same place. -/
theorem GrantsBacked.congr {t : RuntimeState} (hs : GrantsBacked s)
    (hauthority : t.authority = s.authority) (hservices : t.services = s.services)
    (hinstances : ∀ i ∈ s.instances, ∃ j ∈ t.instances, j.dpu = i.dpu ∧ j.service = i.service
      ∧ (i.state ≠ .withdrawn → j.state ≠ .withdrawn)) : GrantsBacked t := by
  intro g hg
  rw [hauthority] at hg
  obtain ⟨i, hi, hbacks⟩ := hs g hg
  obtain ⟨j, hj, hdpu, hservice, hpresent⟩ := hinstances i hi
  refine ⟨j, hj, hdpu.trans hbacks.dpu, hpresent hbacks.present, ?_⟩
  rw [hservices, hservice]
  exact hbacks.scope

theorem GrantsBacked.same {t : RuntimeState} (hs : GrantsBacked s)
    (hauthority : t.authority = s.authority) (hservices : t.services = s.services)
    (hinstances : t.instances = s.instances) : GrantsBacked t :=
  hs.congr hauthority hservices fun i hi => ⟨i, hinstances ▸ hi, rfl, rfl, id⟩

theorem Backs.recounted (h : Backs s g i) (l : TruncationLedger) (k : UInt64) : Backs
    (s.recounted l k) g i :=
  ⟨h.dpu, h.present, h.scope⟩

theorem LeftBacked.recounted (h : LeftBacked s group plan g) (l : TruncationLedger) (k : UInt64) :
    LeftBacked (s.recounted l k) group plan g := by
  rcases h with ⟨i, hi, hbacks, hstays⟩ | hplaced
  · exact .inl ⟨i, hi, hbacks.recounted l k, hstays⟩
  · exact .inr hplaced

theorem keepsBacked_recounted {config : RuntimeConfig} {event : FabricEvent}
    (l : TruncationLedger) (k : UInt64) (h : KeepsBacked config s event) :
    KeepsBacked config (s.recounted l k) event := by
  refine ⟨?_, ?_⟩
  · have hkeeps := h.1
    unfold KeepsScope at hkeeps ⊢
    exact hkeeps
  · have hleaves := h.2
    unfold LeavesBacked at hleaves ⊢
    cases hbody : event.body with
    | intentSubmitted body =>
      simp only [hbody, intentPlan_recounted] at hleaves ⊢
      intro group hgroup plan hplan hkind
      obtain ⟨hsound, hleft⟩ := hleaves group hgroup plan hplan hkind
      exact ⟨⟨hsound.sorted, hsound.found, hsound.distinct, hsound.agree⟩,
        fun g hg => (hleft g hg).recounted l k⟩
    | _ => trivial

/-- **Backed grants are upheld.** -/
theorem backedState_upheld :
    Upheld (fun _ => True) KeepsBacked (fun _ => 0) (fun _ => BackedState) where
  mono _ h := h
  edit hedit h := by
    have hcore := hedit.core_eq
    have hauthority := congrArg RuntimeState.authority hcore
    have hservices := congrArg RuntimeState.services hcore
    refine ⟨catalogued_lasting.core hcore h.catalogued,
      grantsSorted_lasting.core hcore h.sorted,
      h.backed.congr hauthority.symm hservices.symm fun i hi => ?_⟩
    obtain ⟨j, hj, hsame⟩ := core_instance hcore.symm hi
    have hstate := congrArg InstanceState.state hsame
    exact ⟨j, hj, InstanceState.withoutHealth_dpu hsame,
      (InstanceState.withoutHealth_replica hsame).2.1, fun hi => hstate ▸ hi⟩
  blank _ := ⟨catalogued_lasting.blank _, List.Pairwise.nil, fun _ h => nomatch h⟩
  restored h := ⟨catalogued_lasting.restored h.catalogued, h.sorted, h.backed.same rfl rfl rfl⟩
  event {n s event config} _ hevent h := by
    refine ⟨catalogued_lasting.event _ _ trivial h.catalogued,
      applyEvent_grantsSorted h.sorted _ _ _, ?_⟩
    rcases applyEvent_cases s event config.bounds config.weights with
      (⟨_, hsame⟩ | ⟨_, hacc⟩) | ⟨_, _, hfenced⟩
    · rw [hsame]
      exact h.backed
    · exact hacc.grantsBacked h.catalogued.services h.sorted hevent.1 hevent.2 h.backed
    -- a coordinator that is refused halfway has already fenced the registry
    rw [hfenced]
    exact fun _ hg => absurd hg (by simp [AuthorityRegistry.fenceAll])
  restarted _ h := by
    refine ⟨catalogued_lasting.restarted _ h.catalogued, h.sorted,
      h.backed.congr rfl rfl fun i hi => ?_⟩
    refine ⟨_, List.mem_map_of_mem hi, rfl, rfl, fun hpresent => ?_⟩
    cases hs : i.state <;> simp_all [fenceInstance, fencedState]
  counts l k h := keepsBacked_recounted l k h

/-- **No grant is an orphan** in a run whose declarations keep their scopes and
whose intents leave somebody behind every grant; so a device that no present
instance of an exclusive service is on is free. -/
theorem grants_stay_backed (moves : List Move)
    (hmoves : Meets System.step (TakesUpIn KeepsBacked) {} moves) (p : Process)
    (hp : (System.after {} moves).process = some p) :
    GrantsBacked p.runtime.state
      ∧ ∀ d, (∀ i ∈ p.runtime.state.instances, i.dpu = d → i.state ≠ .withdrawn →
            scopeOf p.runtime.state.services i.service = none) →
          p.runtime.state.authority.ownerOf d = none := by
  have hstands := (backedState_upheld.run
    (hmoves.imp fun _ _ htakes => ⟨fun _ _ => trivial, htakes⟩)).holds p hp
  refine ⟨hstands.backed, fun d hfree => ?_⟩
  cases howner : p.runtime.state.authority.ownerOf d with
  | none => rfl
  | some g =>
    obtain ⟨hposition, hdpu⟩ := AuthorityRegistry.ownerOf_some howner
    obtain ⟨i, hi, hbacks⟩ := hstands.backed g (List.mem_of_getElem? hposition)
    have hnone := hfree i hi (hbacks.dpu.trans hdpu) hbacks.present
    exact absurd (hnone.symm.trans hbacks.scope) (by simp)

/-- The deployment of an exclusive service backs its grant. -/
theorem owned_grants_backed : GrantsBacked ownedProcess.runtime.state :=
  (grants_stay_backed ownedMoves (by decide +kernel) ownedProcess
    (Option.some_get ownedMoves_runs).symm).1

/-! ## §4. The replica that moves away. -/

/-- A second device joins. -/
def secondDevice : FabricEvent :=
  sampleEvent 6 (.topologyObserved { snapshot := {
    generation := ⟨2⟩, dpus := ["d", "e"].map sampleDevice } })

/-- The exclusive service is deployed on the only device; another device is
observed, and the second deployment prefers it. -/
def movedMoves : List Move :=
  .run (.start sampleConfig) [] ::
    [sampleEvent 1 (sampleTopology ["e"]), sampleEvent 2 samplePolicy,
     sampleEvent 3 (sampleService "a" (some "x")), sampleEvent 4 (sampleGroup "g" ["a"]),
     sampleEvent 5 (sampleIntent .deploy "g" 1 ["a"]), secondDevice,
     sampleEvent 7 (sampleIntent .deploy "g" 2 ["a"])].flatMap submitMoves

theorem movedMoves_runs : (System.after {} movedMoves).process.isSome = true := by decide +kernel

def movedProcess : Process := (System.after {} movedMoves).process.get movedMoves_runs

/-- The first device's grant has nothing behind it. -/
theorem moved_grant_orphaned :
    Meets System.step (TakesUpIn fun config s event => KeepsScope s event config.bounds) {}
        movedMoves
      ∧ (System.after {} movedMoves).process = some movedProcess
      ∧ ¬ GrantsBacked movedProcess.runtime.state :=
  ⟨by decide +kernel, (Option.some_get movedMoves_runs).symm, by decide +kernel⟩

end DpuFabric
