/-
  Engine.Sizes — WHAT EVERY CONTAINER OF A STATE IS HELD TO.

  The reducers check the tables against `RuntimeBounds`, but not everything
  that stands in them: the isolation lists of a device or a service and the
  alternatives of a requirement come in unchecked, and an attempt once opened
  stays on record.  `Sized b n s` bounds every container of a state by the
  configuration, by the longest sequence of an event, and by `n` for what has
  no bound of its own: the attempts of an instance and the batches of a stage.
  One event keeps it, at the cost of the replicas that an intent asks for
  (`applyEvent_sized`).
-/
import DpuFabric.Engine.Counts
import DpuFabric.Engine.IssueLog
import DpuFabric.Engine.PlanSize

namespace DpuFabric

open Lib

variable {s s' t : RuntimeState} {b bounds : RuntimeBounds} {limit m n : Nat} {event : FabricEvent}
  {weights : PlacementWeights} {r : Reconciling} {ids : List InstanceId}
  {instances : List InstanceState} {f fences fences' : FenceIssuer} {group : ServiceGroup}
  {plan : DeploymentPlan}

/-- The longest sequence that `open` lets `decode_binary` read. -/
def RuntimeBounds.sequenceLimit (b : RuntimeBounds) : Nat := b.maxInstances + 1024

/-- No sequence of the event is longer than `open` would read. -/
def FabricEvent.Legible (b : RuntimeBounds) (e : FabricEvent) : Prop :=
  ∀ c ∈ countsOf FabricEvent.visit e, c ≤ b.sequenceLimit

instance (b : RuntimeBounds) (e : FabricEvent) : Decidable (e.Legible b) :=
  inferInstanceAs (Decidable (∀ c ∈ _, _))

/-! ## §1. Declarations. -/

structure ServiceSized (b : RuntimeBounds) (d : ServiceDefinition) : Prop where
  isolation : d.compatibility.requiredIsolation.length ≤ b.sequenceLimit
  capabilities : d.compatibility.capabilities.length ≤ b.maxCapabilitiesPerDpu
  alternatives : ∀ r ∈ d.compatibility.capabilities, r.alternatives.length ≤ b.sequenceLimit

structure DeviceSized (b : RuntimeBounds) (d : DpuRecord) : Prop where
  isolation : d.profile.isolation.length ≤ b.sequenceLimit
  capabilities : d.capabilities.entries.length ≤ b.maxCapabilitiesPerDpu

/-- What was declared and observed. -/
structure Declared (b : RuntimeBounds) (s : RuntimeState) : Prop where
  dpus : s.topology.dpus.length ≤ b.maxDpus
  devices : ∀ d ∈ s.topology.dpus, DeviceSized b d
  services : s.services.length ≤ b.maxServices
  definitions : ∀ d ∈ s.services, ServiceSized b d
  groups : s.groups.length ≤ b.maxServices
  members : ∀ g ∈ s.groups, g.members.length ≤ b.maxServices
  dependencies : s.dependencies.length ≤ b.maxDependencies

/-- How much was declared and observed; the reducers check this whatever the
event holds. -/
structure Numbered (b : RuntimeBounds) (s : RuntimeState) : Prop where
  dpus : s.topology.dpus.length ≤ b.maxDpus
  services : s.services.length ≤ b.maxServices
  groups : s.groups.length ≤ b.maxServices
  dependencies : s.dependencies.length ≤ b.maxDependencies

theorem Numbered.keep (h : Numbered b s) (hsame : (t.topology, t.services, t.groups, t.dependencies)
      = (s.topology, s.services, s.groups, s.dependencies)) : Numbered b t := by
  simp only [Prod.mk.injEq] at hsame
  obtain ⟨htopology, hservices, hgroups, hdependencies⟩ := hsame
  exact
    { dpus := htopology ▸ h.dpus
      services := hservices ▸ h.services
      groups := hgroups ▸ h.groups
      dependencies := hdependencies ▸ h.dependencies }

theorem Numbered.update (h : Numbered b s) (id : DpuId) (f : DpuRecord → DpuRecord) : Numbered b
    { s with topology := s.topology.update id f } :=
  { h with dpus := by simpa [TopologySnapshot.update] using h.dpus }

theorem Numbered.refreshHealth (h : Numbered b s) : Numbered b (refreshHealth s) :=
  { h with dpus := by simpa [DpuFabric.refreshHealth] using h.dpus }

theorem Declared.congr (h : Declared b s)
    (hsame : (t.topology, t.services, t.groups, t.dependencies)
      = (s.topology, s.services, s.groups, s.dependencies)) : Declared b t := by
  simp only [Prod.mk.injEq] at hsame
  obtain ⟨htopology, hservices, hgroups, hdependencies⟩ := hsame
  exact
    { dpus := htopology ▸ h.dpus
      devices := htopology ▸ h.devices
      services := hservices ▸ h.services
      definitions := hservices ▸ h.definitions
      groups := hgroups ▸ h.groups
      members := hgroups ▸ h.members
      dependencies := hdependencies ▸ h.dependencies }

theorem Declared.observed (h : Declared b s)
    (hdpus : t.topology.dpus.length ≤ b.maxDpus) (hdevices : ∀ d ∈ t.topology.dpus, DeviceSized b d)
    (hsame : (t.services, t.groups, t.dependencies) = (s.services, s.groups, s.dependencies)) :
    Declared b t :=
  { Declared.congr (t := { t with topology := s.topology }) h (by simpa using hsame) with
    dpus := hdpus
    devices := hdevices }

theorem Declared.update (h : Declared b s) (id : DpuId)
    {f : DpuRecord → DpuRecord} (hf : ∀ d, DeviceSized b d → DeviceSized b (f d)) :
    Declared b { s with topology := s.topology.update id f } := by
  refine h.observed ?_ (fun d hd => ?_) rfl
  · simpa [TopologySnapshot.update] using h.dpus
  rcases Lib.mem_modify hd with hd | ⟨d', hd', rfl⟩
  · exact h.devices d hd
  · exact hf d' (h.devices d' hd')

theorem Declared.refreshHealth (h : Declared b s) : Declared b (refreshHealth s) := by
  refine h.observed ?_ (fun d hd => ?_) rfl
  · simpa [DpuFabric.refreshHealth] using h.dpus
  · obtain ⟨d', hd', rfl⟩ := List.mem_map.mp hd
    exact ⟨(h.devices d' hd').isolation, (h.devices d' hd').capabilities⟩

/-- A table in which an entry is replaced, or added where there is room. -/
theorem declared_table {α : Type} {xs updated : List α} {new : α} {p : α → Prop}
    [DecidablePred p] (hle : xs.length ≤ limit) (h : (updated = xs ++ [new] ∧ xs.length < limit)
      ∨ updated = xs.map (fun c => if p c then new else c)) (r : α → α → Prop) [DecidableRel r] :
    (updated.insertionSort r).length ≤ limit ∧ ∀ x ∈ updated.insertionSort r, x = new ∨ x ∈ xs := by
  simp only [List.length_insertionSort, List.mem_insertionSort]
  rcases h with ⟨rfl, hroom⟩ | rfl
  · refine ⟨by rw [List.length_append]; exact hroom, fun x hx => ?_⟩
    rcases List.mem_append.mp hx with hx | hx
    · exact .inr hx
    · exact .inl (List.mem_singleton.mp hx)
  · refine ⟨by rw [List.length_map]; exact hle, fun x hx => ?_⟩
    obtain ⟨c, hc, rfl⟩ := List.mem_map.mp hx
    split
    · exact .inl rfl
    · exact .inr hc

theorem declareService_sized {services : List ServiceDefinition} {service : ServiceDefinition}
    (hle : services.length ≤ limit)
    (hroom : findService services service.id = none → services.length < limit) :
    (declareService services service).length ≤ limit
      ∧ ∀ d ∈ declareService services service, d = service ∨ d ∈ services := by
  refine declared_table (p := fun c => c.id = service.id) hle ?_ _
  split
  · next hnone => exact .inl ⟨rfl, hroom hnone⟩
  · exact .inr rfl

theorem declareGroup_sized {groups : List ServiceGroup} (hle : groups.length ≤ limit)
    (hroom : findGroup groups group.id = none → groups.length < limit) :
    (declareGroup groups group).length ≤ limit
      ∧ ∀ g ∈ declareGroup groups group, g = group ∨ g ∈ groups := by
  refine declared_table (p := fun c => c.id = group.id) hle ?_ _
  split
  · next hnone => exact .inl ⟨rfl, hroom hnone⟩
  · exact .inr rfl

theorem serviceRefusal_none {service : ServiceDefinition}
    (h : serviceRefusal s service bounds = none) :
    service.compatibility.capabilities.length ≤ bounds.maxCapabilitiesPerDpu
      ∧ (findService s.services service.id = none → s.services.length < bounds.maxServices) := by
  unfold serviceRefusal at h
  repeat' split at h
  all_goals first
    | contradiction
    | refine ⟨by omega, fun hnone => ?_⟩
  · next hsome _ => exact absurd (hnone.symm.trans hsome) (by simp)
  · omega

theorem groupRefusal_none (h : groupRefusal s group bounds = none) :
    group.members.length ≤ bounds.maxServices
      ∧ (findGroup s.groups group.id = none → s.groups.length < bounds.maxServices) := by
  unfold groupRefusal at h
  repeat' split at h
  all_goals first
    | contradiction
    | refine ⟨by omega, fun hnone => ?_⟩
  next hfull =>
    by_contra hge
    exact hfull ⟨by simp [hnone], not_lt.mp hge⟩

theorem dependencyGraph_length {edges : List Dependency} {graph : DependencyGraph}
    (h : DependencyGraph.build edges limit = .ok graph) : graph.edges.length ≤ limit := by
  simp only [DependencyGraph.build] at h
  repeat' split at h
  all_goals first
    | contradiction
    | skip
  next hle _ _ _ _ =>
    injection h with h
    rw [← h]
    simpa using hle

theorem normalize_length {c c' : CapabilitySet} (h : c.normalize limit = .ok c') :
    c'.entries.length ≤ limit := by
  simp only [CapabilitySet.normalize] at h
  repeat' split at h
  all_goals first
    | contradiction
    | skip
  next hle _ _ =>
    injection h with h
    rw [← h]
    simpa using hle

theorem takeDevices_sized {prev : Option DpuId} {dpus taken : List DpuRecord}
    (h : takeDevices s event b prev dpus = .ok taken)
    (hdpus : ∀ d ∈ dpus, d.profile.isolation.length ≤ b.sequenceLimit) :
    taken.length = dpus.length ∧ ∀ d ∈ taken, DeviceSized b d := by
  induction dpus generalizing prev taken with
  | nil =>
    cases h
    exact ⟨rfl, by simp⟩
  | cons d rest ih =>
    simp only [takeDevices, bind_eq_ok, pure_eq_ok] at h
    obtain ⟨d', hd', others, hothers, rfl⟩ := h
    obtain ⟨hlength, hsized⟩ := ih hothers fun d hd => hdpus d (List.mem_cons_of_mem _ hd)
    refine ⟨by simp [hlength], List.forall_mem_cons.mpr ⟨?_, hsized⟩⟩
    unfold takeDevice at hd'
    split at hd'
    · contradiction
    split at hd'
    · contradiction
    split at hd'
    · contradiction
    next hnormalize =>
    injection hd' with hd'
    rw [← hd']
    exact ⟨hdpus d List.mem_cons_self, normalize_length hnormalize⟩

theorem topologyRefusal_dpus {snapshot : TopologySnapshot}
    (h : topologyRefusal s snapshot b = none) : snapshot.dpus.length ≤ b.maxDpus := by
  unfold topologyRefusal at h
  repeat' split at h
  all_goals first
    | contradiction
    | omega

/-- **The numbers stay within their bounds, whatever the event holds.** -/
theorem Accepted.numbered (hacc : Accepted s event b weights s') (h : Numbered b s) :
    Numbered b s' := by
  cases hacc with
  | service body hbody hchecks =>
    exact { h with services := (declareService_sized h.services (serviceRefusal_none hchecks).2).1 }
  | group body hbody hchecks =>
    exact { h with groups := (declareGroup_sized h.groups (groupRefusal_none hchecks).2).1 }
  | dependency body graph hbody hgraph =>
    exact { h with dependencies := dependencyGraph_length hgraph }
  | topology body dpus hbody hchecks hdpus =>
    have htaken : dpus.length = body.snapshot.dpus.length := by
      rw [← (takeDevices_ok hdpus).length_eq, List.length_insertionSort]
    have hobserved : Numbered b { s with topology := { body.snapshot with dpus } } :=
      { h with dpus := htaken.trans_le (topologyRefusal_dpus hchecks) }
    refine Numbered.refreshHealth ?_
    refine hobserved.keep ?_
    exact removeDevices_keep (f := fun s => (s.topology, s.services, s.groups, s.dependencies))
      (fun _ _ => rfl) _ _
  | capability body => exact (h.update body.dpu _).keep rfl
  | health body => exact Numbered.refreshHealth (h.update body.dpu _)
  | attached body => exact h.update body.dpu _
  | lost body => exact (h.update body.dpu _).keep rfl
  | time => exact Numbered.refreshHealth (h.keep rfl)
  | _ => exact h.keep rfl

section Legible

variable {b : RuntimeBounds} {event : FabricEvent} (hlegible : event.Legible b)
include hlegible

theorem legible_service {body : ServiceDeclared} (hbody : event.body = .serviceDeclared body)
    (hcapabilities : body.service.compatibility.capabilities.length ≤ b.maxCapabilitiesPerDpu) :
    ServiceSized b body.service := by
  have hcounts := hlegible
  rw [FabricEvent.Legible, countsOf_event, hbody, countsOf_serviceDeclared] at hcounts
  simp only [countsOf_service, countsOf_compatibility, List.forall_mem_cons, List.mem_flatMap,
    countsOf_requirement, List.mem_singleton] at hcounts
  obtain ⟨hisolation, -, halternatives⟩ := hcounts
  exact ⟨hisolation, hcapabilities, fun r hr => halternatives _ ⟨r, hr, rfl⟩⟩

theorem legible_topology {body : TopologyObserved} (hbody : event.body = .topologyObserved body) :
    ∀ d ∈ body.snapshot.dpus, d.profile.isolation.length ≤ b.sequenceLimit := by
  have hcounts := hlegible
  rw [FabricEvent.Legible, countsOf_event, hbody, countsOf_topologyObserved] at hcounts
  simp only [countsOf_topology, List.forall_mem_cons, List.mem_flatMap, countsOf_device] at hcounts
  exact fun d hd => hcounts.2 _ ⟨d, hd, by simp⟩

theorem Accepted.declared (hacc : Accepted s event b weights s') (h : Declared b s) :
    Declared b s' := by
  cases hacc with
  | service body hbody hchecks =>
    obtain ⟨hcapabilities, hroom⟩ := serviceRefusal_none hchecks
    obtain ⟨hlength, hmem⟩ := declareService_sized h.services hroom
    refine { h with services := hlength, definitions := fun d hd => ?_ }
    rcases hmem d hd with rfl | hd
    · exact legible_service hlegible hbody hcapabilities
    · exact h.definitions d hd
  | group body hbody hchecks =>
    obtain ⟨hmembers, hroom⟩ := groupRefusal_none hchecks
    obtain ⟨hlength, hmem⟩ := declareGroup_sized h.groups hroom
    refine { h with groups := hlength, members := fun g hg => ?_ }
    rcases hmem g hg with rfl | hg
    · exact hmembers
    · exact h.members g hg
  | dependency body graph hbody hgraph =>
    exact { h with dependencies := dependencyGraph_length hgraph }
  | topology body dpus hbody hchecks hdpus =>
    obtain ⟨hlength, hsized⟩ := takeDevices_sized hdpus fun d hd =>
      legible_topology hlegible hbody d ((List.mem_insertionSort _).mp hd)
    refine Declared.refreshHealth ?_
    refine Declared.congr (s := { s with topology := { body.snapshot with dpus } }) ?_
      (removeDevices_keep (f := fun s => (s.topology, s.services, s.groups, s.dependencies))
        (fun _ _ => rfl) _ _)
    refine h.observed ?_ hsized rfl
    rw [hlength, List.length_insertionSort]
    exact topologyRefusal_dpus hchecks
  | capability body capabilities hbody hchecks =>
    have hnormalize : capabilities.entries.length ≤ b.maxCapabilitiesPerDpu := by
      simp only [checkCapability] at hchecks
      repeat' split at hchecks
      all_goals first
        | contradiction
        | skip
      next hnormalize _ _ =>
        injection hchecks with hchecks
        exact hchecks ▸ normalize_length hnormalize
    exact Declared.congr (h.update body.dpu (f := observeCapability body capabilities)
      fun d hd => ⟨hd.isolation, hnormalize⟩) rfl
  | health body =>
    exact Declared.refreshHealth (h.update body.dpu
      (f := observeHealth s.clock event body) fun d hd => ⟨hd.isolation, hd.capabilities⟩)
  | attached body =>
    exact h.update body.dpu (f := attachDevice body) fun d hd => ⟨hd.isolation, hd.capabilities⟩
  | lost body =>
    exact Declared.congr (h.update body.dpu (f := lostRecord event)
      fun d hd => ⟨hd.isolation, hd.capabilities⟩) rfl
  | time => exact Declared.refreshHealth (h.congr rfl)
  | _ => exact h.congr rfl

end Legible

/-! ## §2. The instance table. -/

/-- Every identity with a serial is in the list, and has one serial. -/
structure IssuedWithin (ids : List InstanceId) (f : FenceIssuer) : Prop where
  nodup : (f.serials.map FenceEntry.instanceId).Nodup
  within : ∀ x ∈ f.serials.map FenceEntry.instanceId, x ∈ ids

theorem IssuedWithin.length_le (h : IssuedWithin ids f) : f.serials.length ≤ ids.length := by
  have hsubperm := List.subperm_of_subset h.nodup h.within
  simpa using hsubperm.length_le

theorem issuedWithin_nil (ids : List InstanceId) (epoch : CoordinatorEpoch)
    (boot : BootIncarnation) : IssuedWithin ids { epoch, boot, serials := [] } :=
  ⟨by simp, by simp⟩

theorem IssuedWithin.mono {ids' : List InstanceId} (h : IssuedWithin ids f)
    (hsub : ∀ x ∈ ids, x ∈ ids') : IssuedWithin ids' f :=
  ⟨h.nodup, fun x hx => hsub x (h.within x hx)⟩

/-- A token is issued under the entry of the identity, or a new one. -/
theorem IssuedWithin.issue {f' : FenceIssuer} {x : InstanceId}
    {token : FenceToken} (h : IssuedWithin ids f) (hx : x ∈ ids)
    (hissue : f.issue x = .ok (token, f')) : IssuedWithin ids f' := by
  unfold FenceIssuer.issue at hissue
  split at hissue
  · simp at hissue
  split at hissue
  · simp at hissue
  split at hissue
  · next hnone =>
    simp only [Except.ok.injEq, Prod.mk.injEq] at hissue
    obtain ⟨-, rfl⟩ := hissue
    have hnew : x ∉ f.serials.map FenceEntry.instanceId := by
      intro hmem
      obtain ⟨e, he, hid⟩ := List.mem_map.mp hmem
      have hfalse := List.find?_eq_none.mp hnone e he
      exact hfalse (by simpa using hid)
    constructor
    · rw [List.map_append]
      refine List.nodup_append.mpr ⟨h.nodup, by simp, ?_⟩
      rintro a ha c hc rfl
      exact hnew (by simpa [List.mem_singleton.mp hc] using ha)
    · intro y hy
      rw [List.map_append] at hy
      rcases List.mem_append.mp hy with hy | hy
      · exact h.within y hy
      · exact (List.mem_singleton.mp hy).symm ▸ hx
  · split at hissue
    · simp at hissue
    next entry _ next _ =>
    simp only [Except.ok.injEq, Prod.mk.injEq] at hissue
    obtain ⟨-, rfl⟩ := hissue
    have hsame : (f.serials.modify (f.serials.findIdx fun e => decide (e.instanceId = x))
        fun e => { e with serial := next }).map FenceEntry.instanceId
        = f.serials.map FenceEntry.instanceId := by
      apply List.ext_getElem?
      intro k
      rw [List.getElem?_map, List.getElem?_map, List.getElem?_modify]
      cases f.serials[k]? with
      | none => rfl
      | some e =>
        simp only [Option.map_eq_map, Option.map_some]
        split <;> rfl
    exact ⟨by rw [hsame]; exact h.nodup, by rw [hsame]; exact h.within⟩

/-- The instances, with `n` for the attempts of one of them. -/
structure Tabled (b : RuntimeBounds) (n : Nat) (instances : List InstanceState)
    (fences : FenceIssuer) : Prop where
  length : instances.length ≤ b.maxInstances
  attempts : ∀ i ∈ instances, i.attempts.length ≤ n
  reasons : ∀ i ∈ instances, i.reasons.length ≤ 1
  issued : IssuedWithin (tableIds instances) fences

theorem Tabled.mono (h : Tabled b n instances fences) (hle : n ≤ m) : Tabled b m instances fences :=
  { h with attempts := fun i hi => (h.attempts i hi).trans hle }

theorem Tabled.change {after : List InstanceState} (h : Tabled b n instances fences)
    (hids : tableIds after = tableIds instances)
    (hchange : ∀ j ∈ after, ∃ i ∈ instances, (i.attempts.length ≤ n → j.attempts.length ≤ m)
      ∧ (i.reasons.length ≤ 1 → j.reasons.length ≤ 1))
    (hissued : IssuedWithin (tableIds instances) fences') : Tabled b m after fences' := by
  have hlength : after.length = instances.length := by
    simpa [tableIds] using congrArg List.length hids
  refine ⟨hlength ▸ h.length, fun j hj => ?_, fun j hj => ?_, hids ▸ hissued⟩
  · obtain ⟨i, hi, hattempts, -⟩ := hchange j hj
    exact hattempts (h.attempts i hi)
  · obtain ⟨i, hi, -, hreasons⟩ := hchange j hj
    exact hreasons (h.reasons i hi)

theorem Tabled.set (h : Tabled b n instances fences) {k : Nat}
    {i j : InstanceState} (hk : instances[k]? = some i) (hid : j.id = i.id) (hle : n ≤ m)
    (hattempts : i.attempts.length ≤ n → j.attempts.length ≤ m)
    (hreasons : i.reasons.length ≤ 1 → j.reasons.length ≤ 1)
    (hissued : IssuedWithin (tableIds instances) fences') :
    Tabled b m (instances.set k j) fences' := by
  refine h.change (tableIds_set hk hid) (fun j' hj' => ?_) hissued
  rcases List.mem_or_eq_of_mem_set hj' with hj' | rfl
  · exact ⟨j', hj', fun hn => hn.trans hle, id⟩
  · exact ⟨i, List.mem_of_getElem? hk, hattempts, hreasons⟩

section Reconcile

variable {plan : DeploymentPlan} {group : ServiceGroup} {event : FabricEvent} {b : RuntimeBounds}
  {n : Nat}

theorem reconcileReplica_tabled {r' : Reconciling} {p : ServicePlan × PlannedReplica}
    (h : reconcileReplica plan group event b r p = .ok r') (hr : Tabled b n r.instances r.fences) :
    Tabled b (n + 1) r'.instances r'.fences := by
  simp only [reconcileReplica] at h
  split at h
  · split at h
    · simp at h
    next hroom =>
    split at h
    · simp at h
    next fence fences hissue =>
    injection h with h
    subst h
    have hids : ∀ created, tableIds (r.instances ++ [created])
        = tableIds r.instances ++ [created.id] := fun _ => by simp [tableIds]
    refine ⟨by rw [List.length_append]; exact not_le.mp hroom, fun i hi => ?_, fun i hi => ?_, ?_⟩
    · rcases List.mem_append.mp hi with hi | hi
      · exact (hr.attempts i hi).trans (Nat.le_succ n)
      · rw [List.mem_singleton.mp hi]
        simp [createdInstance]
    · rcases List.mem_append.mp hi with hi | hi
      · exact hr.reasons i hi
      · rw [List.mem_singleton.mp hi]
        simp [createdInstance]
    · rw [hids]
      exact (hr.issued.mono fun x hx => List.mem_append_left _ hx).issue
        (List.mem_append_right _ (List.mem_singleton.mpr rfl)) hissue
  · next k i hfind =>
    obtain ⟨hk, hid⟩ := findInstance_some hfind
    have hmem : makeInstanceId group.id p.1.service p.2.index ∈ tableIds r.instances :=
      List.mem_map.mpr ⟨i, List.mem_of_getElem? hk, hid⟩
    repeat' split at h
    all_goals first
      | contradiction
      | (injection h with h; subst h)
    · next hissue =>
      exact hr.set hk rfl (Nat.le_succ n)
        (fun hn => by simpa [replacedInstance, authorizeAttempt, fenceInstance] using hn)
        (fun _ => by simp [replacedInstance, authorizeAttempt, fenceInstance])
        (hr.issued.issue hmem hissue)
    · next hissue =>
      exact hr.set hk rfl (Nat.le_succ n)
        (fun hn => by simpa [reattemptedInstance, authorizeAttempt] using hn)
        (fun hone => hone) (hr.issued.issue hmem hissue)
    · exact hr.set hk rfl (Nat.le_succ n) (fun hn => Nat.le_succ_of_le hn) (fun hone => hone)
        hr.issued

theorem replicaLoop_tabled {replicas : List (ServicePlan × PlannedReplica)} {r' : Reconciling}
    (h : replicas.foldlM (reconcileReplica plan group event b) r = .ok r')
    (hr : Tabled b n r.instances r.fences) :
    Tabled b (n + replicas.length) r'.instances r'.fences := by
  induction replicas generalizing r n with
  | nil =>
    rw [foldlM_nil_ok] at h
    exact h ▸ hr
  | cons p replicas ih =>
    obtain ⟨r₁, hr₁, hrest⟩ := foldlM_cons_ok.mp h
    have hend := ih hrest (reconcileReplica_tabled hr₁ hr)
    rwa [List.length_cons, Nat.add_comm replicas.length, ← Nat.add_assoc]

/-- The second loop opens one more attempt for an instance at most. -/
theorem quiesceLoop_entries {after : List InstanceState}
    (h : quiesceLoop plan group event fences instances = .ok (after, fences'))
    (hids : ∀ i ∈ instances, i.id ∈ ids) (hfences : IssuedWithin ids fences) :
    IssuedWithin ids fences' ∧ List.Forall₂ (fun i j => j.attempts.length ≤ i.attempts.length + 1
      ∧ j.reasons = i.reasons) instances after := by
  refine quiesceLoop_rule (R := fun x i => x = i ∧ i.id ∈ ids) ?_
    (List.forall₂_same.mpr fun i hi => ⟨rfl, hids i hi⟩) hfences h
  rintro _ i f j f' hf ⟨rfl, hid⟩ hj
  cases hj with
  | kept => exact ⟨hf, Nat.le_succ _, rfl⟩
  | retired => exact ⟨hf, by simp [quiesceInstance, cancelOpenAttempts], rfl⟩
  | withdrawing _ _ hissue =>
    exact ⟨hf.issue hid hissue,
      by simp [withdrawalAttempt, quiesceInstance, cancelOpenAttempts], rfl⟩

/-- Reconciliation opens an attempt for each planned replica and one more. -/
theorem reconcile_tabled
    (h : reconcile s plan group event b = .ok r) (hs : Tabled b n s.instances s.fences) :
    Tabled b (n + ((ServicePlan.flatten plan.services).length + 1)) r.instances r.fences := by
  obtain ⟨placed, hplaced, hquiesced⟩ := reconcile_ok h
  have hloop := replicaLoop_tabled hplaced hs
  obtain ⟨hissued, hentries⟩ := quiesceLoop_entries hquiesced
    (fun i hi => List.mem_map.mpr ⟨i, hi, rfl⟩) hloop.issued
  rw [← Nat.add_assoc]
  refine hloop.change (quiesceLoop_ids hquiesced) (fun j hj => ?_) hissued
  obtain ⟨i, hi, hattempts, hreasons⟩ := forall₂_mem_right hentries hj
  exact ⟨i, hi, fun hn => hattempts.trans (Nat.add_le_add_right hn 1), fun hone => hreasons ▸ hone⟩

end Reconcile

theorem InstanceStep.reasons {i j : InstanceState} (h : InstanceStep s event bounds weights i j)
    (hi : i.reasons.length ≤ 1) : j.reasons.length ≤ 1 := by
  cases h with
  | refreshed =>
    unfold refreshInstance
    repeat' split
    all_goals exact hi
  | stale =>
    unfold markStale
    split
    all_goals exact hi
  | fenced => simp [fenceInstance]
  | lost => simp [loseInstance, fenceInstance]
  | replaced => simp [replacedInstance, authorizeAttempt, fenceInstance]
  | _ => exact hi

/-- Any event but an intent leaves the size of the table as it is. -/
theorem Accepted.tabled (hacc : Accepted s event b weights s')
    (hquiet : ∀ body, event.body ≠ .intentSubmitted body) (hs : Tabled b n s.instances s.fences) :
    Tabled b n s'.instances s'.fences := by
  have hentries := hacc.entries
  refine hs.change (hacc.ids hquiet) (fun j hj => ?_) ?_
  · obtain ⟨i, hi, hsteps⟩ := hentries.origin hj
    have hi : i ∈ s.instances := by
      refine hi.resolve_right fun hcreated => ?_
      obtain ⟨_, _, ⟨body, hbody, -⟩⟩ := hcreated
      exact hquiet body hbody
    have htokens := congrArg List.length (steps_tokens_eq hsteps hquiet)
    rw [tokens_eq_map, tokens_eq_map] at htokens
    simp only [List.length_map] at htokens
    refine ⟨i, hi, fun hn => htokens ▸ hn, fun hone => ?_⟩
    clear htokens hj
    induction hsteps with
    | refl => exact hone
    | tail _ hstep ih => exact hstep.reasons ih
  · cases hacc with
    | coordinator body fences _ _ hfences =>
      unfold FenceIssuer.advanceEpoch at hfences
      split at hfences
      · simp at hfences
      · injection hfences with hfences
        exact hfences ▸ issuedWithin_nil _ _ _
    | topology =>
      have hkeep : ∀ (removed : List DpuId) (t : RuntimeState),
          (removed.foldl (removeDevice event) t).fences = t.fences :=
        removeDevices_keep (f := RuntimeState.fences) (fun _ _ => rfl)
      simp only [acceptTopology, refreshHealth, hkeep]
      exact hs.issued
    | intent body _ _ _ _ hbody => exact absurd hbody (hquiet body)
    | _ => exact hs.issued

/-! ## §3. Plans. -/

/-- The retained plans, with `n` for the batches of a stage. -/
structure Retained (b : RuntimeBounds) (n : Nat) (plans : List DeploymentPlan) : Prop where
  length : plans.length ≤ b.maxPlansRetained
  sized : ∀ p ∈ plans, PlanSized b n p

theorem Retained.mono {plans : List DeploymentPlan} (h : Retained b n plans) (hle : n ≤ m) :
    Retained b m plans :=
  ⟨h.length, fun p hp => (h.sized p hp).mono hle⟩

/-- The attempts that an intent may add to an instance. -/
def intentCost (b : RuntimeBounds) (intent : PlacementIntent) : Nat :=
  (if intent.kind = .rollback then b.maxServices * b.maxReplicasPerService
    else askedReplicas intent.services) + 1

/-- The attempts that an event may add to an instance. -/
def eventCost (b : RuntimeBounds) (event : FabricEvent) : Nat :=
  match event.body with
  | .intentSubmitted body => intentCost b body.intent
  | _ => 0

theorem PlanSized.flatten_le (h : PlanSized b n plan) :
    (ServicePlan.flatten plan.services).length ≤ b.maxServices * b.maxReplicasPerService := by
  rw [flatten_length]
  calc (plan.services.map fun sp => sp.replicas.length).sum
      ≤ (plan.services.map fun sp => sp.replicas.length).length • b.maxReplicasPerService :=
        List.sum_le_card_nsmul _ _ (by simpa using h.replicas)
    _ = plan.services.length * b.maxReplicasPerService := by simp
    _ ≤ b.maxServices * b.maxReplicasPerService := Nat.mul_le_mul_right _ h.services

theorem withdrawalServices_bare {entries : List ServiceReplicaIntent}
    {services : List ServicePlan} (h : withdrawalServices s entries = .ok services) :
    ∀ sp ∈ services, sp.replicas = [] := by
  induction entries generalizing services with
  | nil =>
    cases h
    simp
  | cons entry rest ih =>
    unfold withdrawalServices at h
    split at h
    · simp at h
    simp only [bind_eq_ok, pure_eq_ok] at h
    obtain ⟨others, hothers, rfl⟩ := h
    exact List.forall_mem_cons.mpr ⟨rfl, ih hothers⟩

section Intent

variable {s : RuntimeState} {event : FabricEvent} {intent : PlacementIntent} {group : ServiceGroup}
  {b : RuntimeBounds} {weights : PlacementWeights} {plan : DeploymentPlan} {n : Nat}

/-- A plan has no more replicas than its intent may ask for; a plan that is
retained is within the bounds. -/
theorem intentPlan_sized (hb : 1 ≤ b.maxExplanations) (hs : Retained b n s.plans)
    (h : intentPlan s event intent group b weights = .ok plan) :
    (ServicePlan.flatten plan.services).length + 1 ≤ intentCost b intent
      ∧ (plan.kind ≠ .withdraw → PlanSized b (n + intentCost b intent) plan) := by
  unfold intentPlan at h
  split at h
  · -- a withdrawal places nothing and is not retained
    next hkind =>
      simp only [withdrawalPlan, bind_eq_ok, pure_eq_ok] at h
      obtain ⟨services, hservices, rfl⟩ := h
      have hbare := withdrawalServices_bare hservices
      refine ⟨Nat.succ_le_succ (le_trans (le_of_eq ?_) (Nat.zero_le _)),
        fun hne => absurd rfl hne⟩
      change (ServicePlan.flatten services).length = 0
      rw [flatten_length, List.sum_eq_zero]
      intro k hk
      obtain ⟨sp, hsp, rfl⟩ := List.mem_map.mp hk
      rw [hbare sp hsp]
      rfl
  · next hkind =>
    -- a rollback repeats a retained plan
    unfold rollbackPlan at h
    simp only at h
    split at h
    · simp at h
    next source hsource =>
    split at h
    · simp at h
    have hmem := List.mem_of_mem_filter (List.mem_of_getLast? hsource)
    have hsized := hs.sized source hmem
    injection h with h
    subst h
    refine ⟨?_, fun _ => ?_⟩
    · rw [intentCost, if_pos hkind]
      exact Nat.succ_le_succ hsized.flatten_le
    · exact ⟨hsized.services, hsized.replicas, hsized.stages,
        (hsized.mono (Nat.le_add_right n _)).batches, hb⟩
  · next hother hrollback =>
    unfold placementPlan at h
    split at h
    · simp at h
    next graph _ =>
    simp only at h
    split at h
    · simp at h
    next hfeasible =>
    injection h with h
    subst h
    obtain ⟨hsized, hlength⟩ := buildPlan_sized (by simpa using hfeasible)
    have hcost : intentCost b intent = askedReplicas intent.services + 1 := by
      rw [intentCost, if_neg]
      exact fun hkind => hrollback hkind
    rw [hcost]
    exact ⟨Nat.succ_le_succ hlength, fun _ => hsized.mono (by
      show askedReplicas intent.services ≤ _
      omega)⟩

theorem retainPlan_retained (hs : Retained b n s.plans) (hplan : PlanSized b n plan) :
    Retained b n (retainPlan s b plan).1 := by
  have hmem : ∀ p ∈ s.plans ++ [plan], PlanSized b n p := by
    intro p hp
    rcases List.mem_append.mp hp with hp | hp
    · exact hs.sized p hp
    · exact List.mem_singleton.mp hp ▸ hplan
  simp only [retainPlan]
  split
  · refine ⟨?_, fun p hp => hmem p (List.mem_of_mem_drop hp)⟩
    rw [List.length_drop]
    omega
  · next hle => exact ⟨not_lt.mp hle, hmem⟩

theorem commitIntent_retained {authority : AuthorityRegistry}
    (hs : Retained b n s.plans) (hplan : plan.kind ≠ .withdraw → PlanSized b n plan) :
    Retained b n (commitIntent s b plan authority r).plans := by
  simp only [commitIntent]
  split
  · next hkind => exact retainPlan_retained hs (hplan hkind)
  · exact hs

end Intent

/-! ## §4. Grants, the ledger, decisions. -/

/-- What the runtime keeps on record. -/
structure OnRecord (b : RuntimeBounds) (s : RuntimeState) : Prop where
  grants : s.authority.grants.length ≤ b.maxDpus
  ledger : s.truncations.records.length ≤ TruncationLedger.maxRecords
  decisions : s.decisions.length ≤ b.maxDecisionsRetained
  explanations : ∀ d ∈ s.decisions, d.explanations.length ≤ b.maxExplanations
  truncations : ∀ d ∈ s.decisions, d.truncations.length ≤ 1
  restartFenced : s.restartFenced.length ≤ b.maxInstances

theorem OnRecord.congr (h : OnRecord b s)
    (hgrants : t.authority.grants.length ≤ s.authority.grants.length)
    (hsame : (t.truncations, t.decisions, t.restartFenced)
      = (s.truncations, s.decisions, s.restartFenced)) : OnRecord b t := by
  simp only [Prod.mk.injEq] at hsame
  obtain ⟨htruncations, hdecisions, hfenced⟩ := hsame
  exact
    { grants := hgrants.trans h.grants
      ledger := htruncations ▸ h.ledger
      decisions := hdecisions ▸ h.decisions
      explanations := hdecisions ▸ h.explanations
      truncations := hdecisions ▸ h.truncations
      restartFenced := hfenced ▸ h.restartFenced }

theorem note_length {l : TruncationLedger} (h : l.records.length ≤ TruncationLedger.maxRecords)
    (container : Text) (requested accepted : UInt64) (reason : ReasonCode) :
    (l.note container requested accepted reason).records.length ≤ TruncationLedger.maxRecords := by
  unfold TruncationLedger.note TruncationLedger.record
  split
  · exact h
  split
  · exact h
  simp only
  split
  · split
    · simpa using h
    · exact h
  · split
    · split <;> exact h
    next hroom =>
    rw [List.length_append]
    exact not_le.mp hroom

theorem claim_length {r r' : AuthorityRegistry} {scope : ExclusiveScopeId}
    {group : ServiceGroupId} {dpu : DpuId} {epoch : CoordinatorEpoch} {boot : BootIncarnation}
    {instant : LogicalInstant} (h : r.claim scope group dpu epoch boot instant limit = .ok r')
    (hr : r.grants.length ≤ limit) : r'.grants.length ≤ limit := by
  unfold AuthorityRegistry.claim at h
  repeat' split at h
  all_goals first
    | contradiction
    | (injection h with h; subst h)
  · simpa using hr
  · next hroom => exact List.length_insertIdx_le_succ.trans (not_le.mp hroom)

theorem claimAll_length {r : AuthorityRegistry}
    (h : claimAll s event group b plan = .ok r) (hs : s.authority.grants.length ≤ b.maxDpus) :
    r.grants.length ≤ b.maxDpus := by
  unfold claimAll at h
  generalize s.authority = start at h hs
  generalize ServicePlan.flatten plan.services = replicas at h
  induction replicas generalizing start with
  | nil =>
    rw [foldlM_nil_ok] at h
    exact h ▸ hs
  | cons p replicas ih =>
    obtain ⟨r₁, hr₁, hrest⟩ := foldlM_cons_ok.mp h
    refine ih r₁ ?_ hrest
    unfold claimReplica at hr₁
    repeat' split at hr₁
    all_goals first
      | contradiction
      | (injection hr₁ with hr₁; subst hr₁)
    · exact hs
    · next hclaim => exact claim_length hclaim hs

theorem release_length (r : AuthorityRegistry) (scope : ExclusiveScopeId) (dpu : DpuId) :
    (r.release scope dpu).2.grants.length ≤ r.grants.length := by
  unfold AuthorityRegistry.release
  repeat' split
  · exact List.length_eraseIdx_le _ _
  · exact le_rfl
  · exact le_rfl

theorem releaseDevice_length (r : AuthorityRegistry) (dpu : DpuId) :
    (releaseDevice r dpu).grants.length ≤ r.grants.length := by
  unfold releaseDevice
  generalize (r.grants.filter fun g => decide (g.dpu = dpu)).map AuthorityGrant.scope = scopes
  induction scopes generalizing r with
  | nil => exact le_rfl
  | cons scope scopes ih => exact (ih _).trans (release_length r scope dpu)

theorem removeDevices_grants (removed : List DpuId) (s : RuntimeState) :
    (removed.foldl (removeDevice event) s).authority.grants.length
      ≤ s.authority.grants.length := by
  induction removed generalizing s with
  | nil => exact le_rfl
  | cons id removed ih => exact (ih _).trans (releaseDevice_length s.authority id)

theorem Accepted.onRecord (hacc : Accepted s event b weights s') (h : OnRecord b s) :
    OnRecord b s' := by
  cases hacc with
  | coordinator => exact h.congr (Nat.zero_le _) rfl
  | topology =>
    refine h.congr (removeDevices_grants _ _) ?_
    exact removeDevices_keep (f := fun s => (s.truncations, s.decisions, s.restartFenced))
      (fun _ _ => rfl) _ _
  | lost | withdrawn => exact h.congr (releaseDevice_length _ _) rfl
  | intent body group plan authority r hbody hgroup hplan hclaims =>
    refine { h with grants := claimAll_length hclaims h.grants, ledger := ?_ }
    simp only [commitIntent, retainPlan]
    split
    · split
      · exact note_length h.ledger _ _ _ _
      · exact h.ledger
    · exact h.ledger
  | _ => exact h.congr le_rfl rfl

/-! ## §5. One event. -/

/-- The table, the plans and the records, which no sequence of an event reaches
unchecked. -/
structure Kept (b : RuntimeBounds) (n : Nat) (s : RuntimeState) : Prop where
  table : Tabled b n s.instances s.fences
  plans : Retained b n s.plans
  records : OnRecord b s

theorem Kept.mono (h : Kept b n s) (hle : n ≤ m) : Kept b m s :=
  { h with table := h.table.mono hle, plans := h.plans.mono hle }

/-- **The size of a state.** -/
structure Sized (b : RuntimeBounds) (n : Nat) (s : RuntimeState) : Prop where
  declared : Declared b s
  table : Tabled b n s.instances s.fences
  plans : Retained b n s.plans
  records : OnRecord b s

theorem Sized.kept (h : Sized b n s) : Kept b n s :=
  ⟨h.table, h.plans, h.records⟩

theorem Kept.sized (h : Kept b n s) (hdeclared : Declared b s) : Sized b n s :=
  ⟨hdeclared, h.table, h.plans, h.records⟩

theorem eventCost_quiet (hquiet : ∀ body, event.body ≠ .intentSubmitted body) :
    eventCost b event = 0 := by
  unfold eventCost
  split
  · next body hbody => exact absurd hbody (hquiet body)
  · rfl

theorem Accepted.plans_eq (hacc : Accepted s event bounds weights s')
    (hquiet : ∀ body, event.body ≠ .intentSubmitted body) : s'.plans = s.plans := by
  cases hacc with
  | topology =>
    exact removeDevices_keep (f := RuntimeState.plans) (fun _ _ => rfl) _ _
  | intent body _ _ _ _ hbody => exact absurd hbody (hquiet body)
  | _ => rfl

theorem tableIds_sort (instances : List InstanceState) :
    (tableIds (sortInstances instances)).Perm (tableIds instances) :=
  (List.perm_insertionSort _ instances).map _

theorem commitIntent_table {authority : AuthorityRegistry} (h : Tabled b n r.instances r.fences) :
    Tabled b n (commitIntent s b plan authority r).instances
      (commitIntent s b plan authority r).fences := by
  simp only [commitIntent]
  refine ⟨?_, fun i hi => ?_, fun i hi => ?_, ?_⟩
  · rw [sortInstances, List.length_insertionSort]
    exact h.length
  · exact h.attempts i ((List.mem_insertionSort _).mp hi)
  · exact h.reasons i ((List.mem_insertionSort _).mp hi)
  · exact h.issued.mono fun x hx => (tableIds_sort r.instances).mem_iff.mpr hx

theorem Accepted.intent_kept (hacc : Accepted s event b weights s')
    {body : IntentSubmitted} (hintent : event.body = .intentSubmitted body)
    (hb : 1 ≤ b.maxExplanations) (h : Kept b n s) : Kept b (n + intentCost b body.intent) s' := by
  have hrecords := hacc.onRecord h.records
  cases hacc with
  | intent body' group plan authority r hbody' hgroup hplan hclaims hreconcile =>
    obtain rfl : body' = body := by
      rw [hintent] at hbody'
      injection hbody' with hbody'
      exact hbody'.symm
    obtain ⟨hreplicas, hsized⟩ := intentPlan_sized hb h.plans hplan
    refine ⟨commitIntent_table ?_, commitIntent_retained (h.plans.mono (Nat.le_add_right _ _))
      hsized, hrecords⟩
    exact (reconcile_tabled hreconcile h.table).mono (Nat.add_le_add_left hreplicas n)
  | _ => exact absurd ‹event.body = _› (by simp [hintent])

/-- **One event keeps the table, the plans and the records, at its cost.** -/
theorem applyEvent_kept (hb : 1 ≤ b.maxExplanations) (h : Kept b n s) (weights : PlacementWeights) :
    Kept b (n + eventCost b event) (applyEvent s event b weights).2 := by
  rcases applyEvent_cases s event b weights with (⟨-, hsame⟩ | ⟨-, hacc⟩) | ⟨-, -, hfenced⟩
  · rw [hsame]
    exact h.mono (Nat.le_add_right _ _)
  · by_cases hquiet : ∀ body, event.body ≠ .intentSubmitted body
    · rw [eventCost_quiet hquiet]
      exact ⟨hacc.tabled hquiet h.table, (hacc.plans_eq hquiet).symm ▸ h.plans,
        hacc.onRecord h.records⟩
    · push Not at hquiet
      obtain ⟨body, hintent⟩ := hquiet
      have hcost : eventCost b event = intentCost b body.intent := by
        simp only [eventCost, hintent]
      rw [hcost]
      exact hacc.intent_kept hintent hb h
  · rw [hfenced]
    refine Kept.mono ⟨h.table, h.plans, ?_⟩ (Nat.le_add_right _ _)
    exact h.records.congr (Nat.zero_le _) rfl

theorem applyEvent_numbered (event : FabricEvent) (h : Numbered b s) (weights : PlacementWeights) :
    Numbered b (applyEvent s event b weights).2 := by
  rcases applyEvent_cases s event b weights with (⟨-, hsame⟩ | ⟨-, hacc⟩) | ⟨-, -, hfenced⟩
  · rw [hsame]
    exact h
  · exact hacc.numbered h
  · rw [hfenced]
    exact h.keep rfl

/-- **One event keeps the size, at its cost.** -/
theorem applyEvent_sized (hb : 1 ≤ b.maxExplanations) (hlegible : event.Legible b) (h : Sized b n s)
    (weights : PlacementWeights) :
    Sized b (n + eventCost b event) (applyEvent s event b weights).2 := by
  refine (applyEvent_kept hb h.kept weights).sized ?_
  rcases applyEvent_cases s event b weights with (⟨-, hsame⟩ | ⟨-, hacc⟩) | ⟨-, -, hfenced⟩
  · rw [hsame]
    exact h.declared
  · exact hacc.declared hlegible h.declared
  · rw [hfenced]
    exact h.declared.congr rfl

end DpuFabric
