/-
  Engine.Grants — THE GRANT REGISTRY: SORTED, WITH ONE OWNER PER DEVICE.

  Every operation of the registry keeps its grants strictly sorted by device
  (`claim_sorted`, `release_sorted`), so a lookup finds the owner of a device
  if there is one, and releasing a device grant by grant leaves exactly the
  grants over the other devices (`releaseDevice_grants`).
-/
import DpuFabric.Engine.Accepted
import Mathlib.Data.List.InsertIdx

namespace DpuFabric

open Lib

variable {scope : ExclusiveScopeId} {group : ServiceGroupId} {epoch : CoordinatorEpoch}
  {boot : BootIncarnation} {instant : LogicalInstant} {maxGrants : Nat} {r : AuthorityRegistry}

/-! ## §1. The operations. -/

namespace AuthorityRegistry

/-- The grants are strictly sorted by device. -/
def Sorted (r : AuthorityRegistry) : Prop := SortedBy AuthorityGrant.dpu r.grants

variable {r r' : AuthorityRegistry} {dpu : DpuId} {g : AuthorityGrant}

theorem ownerOf_some (h : r.ownerOf dpu = some g) :
    r.grants[r.position dpu]? = some g ∧ g.dpu = dpu := by
  unfold ownerOf findKey at h
  split at h
  · next x hx =>
    split at h
    · next hdpu =>
      have hg : r.grants[r.position dpu]? = some g := h
      refine ⟨hg, ?_⟩
      rw [show r.grants[r.position dpu]? = some x from hx] at hg
      rwa [← Option.some.inj hg]
    · simp at h
  · simp at h

theorem ownerOf_none (hr : r.Sorted) (h : r.ownerOf dpu = none) : ∀ g ∈ r.grants, g.dpu ≠ dpu := by
  rw [ownerOf, Option.bind_eq_none_iff] at h
  refine (SortedBy.findKey_eq_none_iff hr).mp ?_
  cases hfind : findKey AuthorityGrant.dpu r.grants dpu with
  | none => rfl
  | some k =>
    obtain ⟨x, hx, -⟩ := findKey_some hfind
    exact absurd (h k hfind) (by simp [hx])

theorem ownerOf_mem (hr : r.Sorted) (hg : g ∈ r.grants) : r.ownerOf g.dpu = some g := by
  obtain ⟨k, hk⟩ := List.mem_iff_getElem?.mp hg
  rw [ownerOf, (SortedBy.findKey_eq_some_iff hr).mpr ⟨g, hk, rfl⟩]
  exact hk

theorem claim_ok (h : r.claim scope group dpu epoch boot instant maxGrants = .ok r') :
    (∃ g, r.ownerOf dpu = some g ∧ g.scope = scope
        ∧ r'.grants = r.grants.set (r.position dpu) { g with epoch, boot, grantedAt := instant })
      ∨ (r.ownerOf dpu = none ∧ r'.grants = r.grants.insertIdx (r.position dpu)
          { dpu, scope, group, epoch, boot, grantedAt := instant }) := by
  unfold claim at h
  split at h
  · simp at h
  split at h
  · next g hg =>
    split at h
    · next hscope =>
      injection h with h
      exact .inl ⟨g, hg, hscope, by rw [← h]⟩
    · simp at h
  · next hnone =>
    split at h
    · simp at h
    · injection h with h
      exact .inr ⟨hnone, by rw [← h]⟩

theorem claim_sorted (hr : r.Sorted)
    (h : r.claim scope group dpu epoch boot instant maxGrants = .ok r') : r'.Sorted := by
  rcases claim_ok h with ⟨g, hg, -, hgrants⟩ | ⟨hnone, hgrants⟩
  · rw [Sorted, hgrants]
    exact SortedBy.set hr (ownerOf_some hg).1 rfl
  · rw [Sorted, hgrants]
    exact SortedBy.insertIdx hr (ownerOf_none hr hnone)

/-- Every grant after a claim was there before, or is the claimed one. -/
theorem mem_claim
    (h : r.claim scope group dpu epoch boot instant maxGrants = .ok r') (hg : g ∈ r'.grants) :
    g ∈ r.grants ∨ (g.dpu = dpu ∧ g.scope = scope) := by
  rcases claim_ok h with ⟨owner, howner, hscope, hgrants⟩ | ⟨-, hgrants⟩
  · rw [hgrants] at hg
    rcases List.mem_or_eq_of_mem_set hg with hg | rfl
    · exact .inl hg
    · exact .inr ⟨(ownerOf_some howner).2, hscope⟩
  · rw [hgrants] at hg
    rcases List.eq_or_mem_of_mem_insertIdx hg with rfl | hg
    · exact .inr ⟨rfl, rfl⟩
    · exact .inl hg

/-- A claim leaves every device with its scope, and the claimed one with the
scope that claimed it. -/
theorem claim_scopes (h : r.claim scope group dpu epoch boot instant maxGrants = .ok r') :
    (∃ g ∈ r'.grants, g.dpu = dpu ∧ g.scope = scope)
      ∧ ∀ g ∈ r.grants, ∃ g' ∈ r'.grants, g'.dpu = g.dpu ∧ g'.scope = g.scope := by
  rcases claim_ok h with ⟨owner, howner, hscope, hgrants⟩ | ⟨-, hgrants⟩
  · obtain ⟨hposition, hdpu⟩ := ownerOf_some howner
    have hlt := (List.getElem?_eq_some_iff.mp hposition).1
    have hmem : { owner with epoch, boot, grantedAt := instant } ∈ r'.grants := by
      rw [hgrants]
      exact List.mem_iff_getElem?.mpr ⟨r.position dpu, by simp [hlt]⟩
    refine ⟨⟨_, hmem, hdpu, hscope⟩, fun g hg => ?_⟩
    obtain ⟨k, hk⟩ := List.mem_iff_getElem?.mp hg
    by_cases hat : r.position dpu = k
    · -- the refreshed grant keeps its device and its scope
      rw [← hat, hposition] at hk
      obtain rfl := Option.some.inj hk
      exact ⟨_, hmem, rfl, rfl⟩
    · refine ⟨g, ?_, rfl, rfl⟩
      rw [hgrants]
      exact List.mem_iff_getElem?.mpr ⟨k, by rw [List.getElem?_set_ne hat]; exact hk⟩
  · have hle : r.position dpu ≤ r.grants.length := lowerBound_le_length _ _
    refine ⟨⟨{ dpu, scope, group, epoch, boot, grantedAt := instant }, ?_, rfl, rfl⟩,
      fun g hg => ⟨g, ?_, rfl, rfl⟩⟩
    · rw [hgrants, List.mem_insertIdx hle]
      exact .inl rfl
    · rw [hgrants, List.mem_insertIdx hle]
      exact .inr hg

theorem release_grants (hr : r.Sorted) (hg : g ∈ r.grants) :
    (r.release g.scope g.dpu).2.grants = r.grants.filter (fun x => !decide (x.dpu = g.dpu)) := by
  have howner := ownerOf_mem hr hg
  simp only [release, howner, if_true]
  exact SortedBy.eraseIdx_eq_filter hr (ownerOf_some howner).1

theorem unique (hr : r.Sorted) {g' : AuthorityGrant} (hg : g ∈ r.grants) (hg' : g' ∈ r.grants)
    (h : g.dpu = g'.dpu) : g = g' := by
  have howner := ownerOf_mem hr hg
  rw [h, ownerOf_mem hr hg'] at howner
  exact (Option.some.inj howner).symm

end AuthorityRegistry

/-- **Releasing a device leaves exactly the grants over the others.** -/
theorem releaseDevice_grants (hr : r.Sorted) (dpu : DpuId) :
    (releaseDevice r dpu).grants = r.grants.filter (fun g => !decide (g.dpu = dpu)) := by
  unfold releaseDevice
  by_cases hnone : ∀ g ∈ r.grants, g.dpu ≠ dpu
  · have hempty : r.grants.filter (fun g => decide (g.dpu = dpu)) = [] :=
      List.filter_eq_nil_iff.mpr fun g hg => by simp [hnone g hg]
    have hall : r.grants.filter (fun g => !decide (g.dpu = dpu)) = r.grants :=
      List.filter_eq_self.mpr fun g hg => by simp [hnone g hg]
    rw [hempty, hall]
    rfl
  · -- the one owner is released
    obtain ⟨g, hg, hdpu⟩ : ∃ g ∈ r.grants, g.dpu = dpu := by simpa using hnone
    subst hdpu
    have hone : r.grants.filter (fun x => decide (x.dpu = g.dpu)) = [g] := by
      have hnodup : (r.grants.filter (fun x => decide (x.dpu = g.dpu))).Nodup :=
        (List.Nodup.of_map _ (SortedBy.nodup hr)).filter _
      have hmem : g ∈ r.grants.filter (fun x => decide (x.dpu = g.dpu)) :=
        List.mem_filter.mpr ⟨hg, by simp⟩
      refine List.perm_singleton.mp ((List.perm_ext_iff_of_nodup hnodup (by simp)).mpr fun x => ?_)
      rw [List.mem_singleton]
      constructor
      · intro hx
        obtain ⟨hx, heq⟩ := List.mem_filter.mp hx
        exact AuthorityRegistry.unique hr hx hg (of_decide_eq_true heq)
      · rintro rfl
        exact hmem
    rw [hone]
    exact AuthorityRegistry.release_grants hr hg

theorem releaseDevice_sorted (hr : r.Sorted) (dpu : DpuId) : (releaseDevice r dpu).Sorted := by
  rw [AuthorityRegistry.Sorted, releaseDevice_grants hr]
  exact SortedBy.filter hr _

/-! ## §2. The registry of a state. -/

/-- The registry of the state is sorted. -/
def GrantsSorted (s : RuntimeState) : Prop := s.authority.Sorted

section Reducers

variable {s s' : RuntimeState} {event : FabricEvent} {bounds : RuntimeBounds}
  {weights : PlacementWeights}

theorem removeDevices_authority (removed : List DpuId) (s : RuntimeState) :
    (removed.foldl (removeDevice event) s).authority = removed.foldl releaseDevice s.authority := by
  induction removed generalizing s with
  | nil => rfl
  | cons d removed ih => exact ih _

theorem releaseDevices_grants (hr : r.Sorted) (removed : List DpuId) :
    (removed.foldl releaseDevice r).Sorted
      ∧ (removed.foldl releaseDevice r).grants
          = r.grants.filter (fun g => !decide (g.dpu ∈ removed)) := by
  induction removed generalizing r with
  | nil => exact ⟨hr, (List.filter_eq_self.mpr (by simp)).symm⟩
  | cons d removed ih =>
    obtain ⟨hsorted, hgrants⟩ := ih (releaseDevice_sorted hr d)
    refine ⟨hsorted, ?_⟩
    rw [List.foldl_cons, hgrants, releaseDevice_grants hr, List.filter_filter]
    refine List.filter_congr fun g _ => ?_
    by_cases hd : g.dpu = d <;> simp [hd]

theorem claimAll_sorted {group : ServiceGroup} {plan : DeploymentPlan}
    (hs : GrantsSorted s) (h : claimAll s event group bounds plan = .ok r) : r.Sorted := by
  refine foldlM_invariant (P := AuthorityRegistry.Sorted) (fun p _ r r' hr hstep => ?_) hs h
  unfold claimReplica at hstep
  split at hstep
  · cases hstep
    exact hr
  split at hstep
  · next hclaim =>
    cases hstep
    exact AuthorityRegistry.claim_sorted hr hclaim
  · simp at hstep

theorem Accepted.grantsSorted (h : Accepted s event bounds weights s') (hs : GrantsSorted s) :
    GrantsSorted s' := by
  cases h with
  | coordinator => exact List.Pairwise.nil
  | topology body dpus =>
    show AuthorityRegistry.Sorted (List.foldl (removeDevice event) _ _).authority
    rw [removeDevices_authority]
    exact (releaseDevices_grants hs _).1
  | lost body => exact releaseDevice_sorted hs body.dpu
  | withdrawn _ _ i => exact releaseDevice_sorted hs i.dpu
  | intent _ _ _ _ _ _ _ _ hclaims => exact claimAll_sorted hs hclaims
  | _ => exact hs

/-- **Every event keeps the registry sorted.** -/
theorem applyEvent_grantsSorted (hs : GrantsSorted s) (event : FabricEvent)
    (bounds : RuntimeBounds) (weights : PlacementWeights) :
    GrantsSorted (applyEvent s event bounds weights).2 := by
  rcases applyEvent_cases s event bounds weights with (⟨_, hsame⟩ | ⟨_, hacc⟩) | ⟨_, _, hfenced⟩
  · rw [hsame]; exact hs
  · exact hacc.grantsSorted hs
  · rw [hfenced]
    exact List.Pairwise.nil

end Reducers

end DpuFabric
