/-
  Runtime.Catalogue — THE DECLARED SERVICES, GROUPS AND DEPENDENCIES.

  Services and groups are replaced or added and then sorted, which is the
  update of a sorted table (`Lib.upsert`); nothing is ever taken back.  So in
  every state of every run both tables are strictly sorted, and what a group
  or a dependency names is declared (`catalogued_lasting`).
-/
import DpuFabric.Lib.Tables
import DpuFabric.Runtime.Lasting

namespace DpuFabric

open Lib

/-! ## §1. One declaration. -/

theorem declareService_eq (services : List ServiceDefinition) (service : ServiceDefinition) :
    declareService services service = upsert ServiceDefinition.id services service := by
  unfold declareService
  split
  · next h => exact (upsert_of_none h).symm
  · next h => exact (upsert_of_some h).symm

theorem declareGroup_eq (groups : List ServiceGroup) (group : ServiceGroup) :
    declareGroup groups group = upsert ServiceGroup.id groups group := by
  unfold declareGroup
  split
  · next h => exact (upsert_of_none h).symm
  · next h => exact (upsert_of_some h).symm

theorem findService_declare {services : List ServiceDefinition}
    (h : SortedBy ServiceDefinition.id services) (service : ServiceDefinition) (id : ServiceId) :
    findService (declareService services service) id
      = if id = service.id then some service else findService services id := by
  rw [declareService_eq]
  exact h.find?_upsert service id

theorem findService_declare_isSome {services : List ServiceDefinition}
    (h : SortedBy ServiceDefinition.id services) (service : ServiceDefinition) {id : ServiceId}
    (hid : (findService services id).isSome = true) :
    (findService (declareService services service) id).isSome = true := by
  rw [findService_declare h]
  split
  · rfl
  · exact hid

theorem mem_build {edges : List Dependency} {limit : Nat} {graph : DependencyGraph}
    (h : DependencyGraph.build edges limit = .ok graph) {e : Dependency} :
    e ∈ graph.edges ↔ e ∈ edges := by
  simp only [DependencyGraph.build] at h
  repeat' split at h
  all_goals first
    | contradiction
    | skip
  injection h with h
  rw [← h]
  exact List.mem_insertionSort _

theorem groupRefusal_members {s : RuntimeState} {group : ServiceGroup} {bounds : RuntimeBounds}
    (h : groupRefusal s group bounds = none) :
    ∀ m ∈ group.members, (findService s.services m).isSome = true := by
  unfold groupRefusal at h
  iterate 3
    split at h
    · contradiction
  split at h
  · contradiction
  next hnone =>
  intro m hm
  simpa [Option.isSome_iff_ne_none] using List.find?_eq_none.mp hnone m hm

theorem serviceRefusal_version {s : RuntimeState} {service existing : ServiceDefinition}
    {bounds : RuntimeBounds} (h : serviceRefusal s service bounds = none)
    (hfind : findService s.services service.id = some existing) :
    service.version.less existing.version = false := by
  unfold serviceRefusal at h
  iterate 5
    split at h
    · contradiction
  rw [hfind] at h
  simp only at h
  split at h
  · contradiction
  · next hless => exact Bool.eq_false_iff.mpr hless

/-! ## §2. The catalogue. -/

/-- The tables are strictly sorted, and what they name is declared. -/
structure Catalogued (s : RuntimeState) : Prop where
  services : SortedBy ServiceDefinition.id s.services
  groups : SortedBy ServiceGroup.id s.groups
  members : ∀ g ∈ s.groups, ∀ m ∈ g.members, (findService s.services m).isSome = true
  endpoints : ∀ d ∈ s.dependencies, (findService s.services d.fromService).isSome = true
    ∧ (findService s.services d.toService).isSome = true

section Step

variable {s t : RuntimeState} {event : FabricEvent} {bounds : RuntimeBounds}
  {weights : PlacementWeights}

theorem Catalogued.congr (h : Catalogued s)
    (hsame : (t.services, t.groups, t.dependencies) = (s.services, s.groups, s.dependencies)) :
    Catalogued t := by
  simp only [Prod.mk.injEq] at hsame
  obtain ⟨hservices, hgroups, hdependencies⟩ := hsame
  refine ⟨?_, ?_, ?_, ?_⟩
  · rw [hservices]; exact h.services
  · rw [hgroups]; exact h.groups
  · rw [hgroups, hservices]; exact h.members
  · rw [hdependencies, hservices]; exact h.endpoints

theorem Accepted.catalogued (hacc : Accepted s event bounds weights t) (h : Catalogued s) :
    Catalogued t := by
  cases hacc with
  | service body hbody hchecks =>
    have hkeep : ∀ {id}, (findService s.services id).isSome = true →
        (findService (declareService s.services body.service) id).isSome = true :=
      findService_declare_isSome h.services body.service
    refine ⟨?_, h.groups, ?_, ?_⟩
    · rw [declareService_eq]
      exact h.services.upsert body.service
    · exact fun g hg m hm => hkeep (h.members g hg m hm)
    · exact fun d hd => ⟨hkeep (h.endpoints d hd).1, hkeep (h.endpoints d hd).2⟩
  | group body hbody hchecks =>
    have hmembers := groupRefusal_members hchecks
    have htable := declareGroup_eq s.groups body.group
    refine ⟨h.services, htable ▸ h.groups.upsert body.group, fun g hg => ?_, h.endpoints⟩
    rcases mem_upsert.mp (htable ▸ hg) with rfl | ⟨hg, -⟩
    · exact hmembers
    · exact h.members g hg
  | dependency body graph hbody hgraph hfrom hto =>
    refine ⟨h.services, h.groups, h.members, fun d hd => ?_⟩
    rcases List.mem_append.mp ((mem_build hgraph).mp hd) with hd | hd
    · exact h.endpoints d hd
    · rw [List.mem_singleton.mp hd]
      exact ⟨hfrom, hto⟩
  | topology =>
    exact h.congr (removeDevices_keep (f := fun s => (s.services, s.groups, s.dependencies))
      (fun _ _ => rfl) _ _)
  | _ => exact h.congr rfl

end Step

/-- **The catalogue is in order in every state of every run.** -/
theorem catalogued_lasting : Lasting Catalogued (fun _ => True) where
  core h hs := hs.congr (congrArg (fun s => (s.services, s.groups, s.dependencies)) h).symm
  blank _ := ⟨List.Pairwise.nil, List.Pairwise.nil, fun _ h => (nomatch h), fun _ h => (nomatch h)⟩
  restored hs := hs.congr rfl
  event bounds weights _ hs := by
    rcases applyEvent_cases _ _ bounds weights with (⟨_, hsame⟩ | ⟨_, hacc⟩) | ⟨_, _, hfenced⟩
    · rw [hsame]
      exact hs
    · exact hacc.catalogued hs
    · rw [hfenced]
      exact hs.congr rfl
  restarted _ _ hs := hs.congr rfl

end DpuFabric
