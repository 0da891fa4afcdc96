/-
  Engine.Issuer — THE FENCE ISSUER UNDER THE REDUCERS.

  An applied event leaves the issuer alone, resets it with the epoch, or
  issues tokens while it reconciles; what `issue` keeps, `reconcile` keeps
  (`reconcile_fences`).  The issuer therefore carries the epoch and the boot
  of the state, and with that no event can be refused after a change.
-/
import DpuFabric.Engine.InstanceTable

namespace DpuFabric

open Lib

/-! ## §1. Reconciliation only issues. -/

section Reconcile

variable {P : FenceIssuer → Prop} {s : RuntimeState} {group : ServiceGroup}
  {plan : DeploymentPlan} {event : FabricEvent} {bounds : RuntimeBounds}

theorem reconcileReplica_fences
    (hissue : ∀ f id token f', P f → FenceIssuer.issue f id = .ok (token, f') → P f')
    {p : ServicePlan × PlannedReplica} {r r' : Reconciling} (hr : P r.fences)
    (h : reconcileReplica plan group event bounds r p = .ok r') : P r'.fences := by
  simp only [reconcileReplica] at h
  repeat' split at h
  all_goals first
    | contradiction
    | (cases h; exact hissue _ _ _ _ hr (by assumption))
    | (cases h; exact hr)

theorem quiesceLoop_fences
    (hissue : ∀ f id token f', P f → FenceIssuer.issue f id = .ok (token, f') → P f')
    {fences fences' : FenceIssuer} {instances instances' : List InstanceState} (hf : P fences)
    (h : quiesceLoop plan group event fences instances = .ok (instances', fences')) :
    P fences' := by
  refine (quiesceLoop_rule (P := P) (R := Eq) (S := fun _ _ => True)
    (fun x i f j f' hf _ hj => ⟨?_, trivial⟩) (List.forall₂_refl instances) hf h).1
  cases hj with
  | withdrawing _ _ hfence => exact hissue _ _ _ _ hf hfence
  | _ => exact hf

theorem reconcile_fences
    (hissue : ∀ f id token f', P f → FenceIssuer.issue f id = .ok (token, f') → P f')
    (hs : P s.fences) {r : Reconciling} (h : reconcile s plan group event bounds = .ok r) :
    P r.fences := by
  obtain ⟨placed, hplaced, hquiesced⟩ := reconcile_ok h
  have hloop : P placed.fences := foldlM_invariant (P := fun r => P r.fences)
    (fun _ _ _ _ hr hstep => reconcileReplica_fences hissue hr hstep) hs hplaced
  exact quiesceLoop_fences hissue hloop hquiesced

end Reconcile

/-! ## §2. The issuer carries the epoch and the boot of the state. -/

/-- `state.fences` carries `state.epoch` and `state.boot`. -/
structure FencesCarry (s : RuntimeState) : Prop where
  epoch : s.fences.epoch = s.epoch
  boot : s.fences.boot = s.boot

theorem issue_epoch_boot {f f' : FenceIssuer} {id : InstanceId} {token : FenceToken}
    (h : f.issue id = .ok (token, f')) : f'.epoch = f.epoch ∧ f'.boot = f.boot := by
  simp only [FenceIssuer.issue] at h
  repeat' split at h
  all_goals first
    | contradiction
    | (cases h; exact ⟨rfl, rfl⟩)

theorem removeDevices_fencesCarry {event : FabricEvent} (removed : List DpuId) {s : RuntimeState}
    (h : FencesCarry s) : FencesCarry (removed.foldl (removeDevice event) s) := by
  induction removed generalizing s with
  | nil => exact h
  | cons d removed ih => exact ih ⟨h.epoch, h.boot⟩

theorem Accepted.fencesCarry {s s' : RuntimeState} {event : FabricEvent} {bounds : RuntimeBounds}
    {weights : PlacementWeights} (h : Accepted s event bounds weights s') (hs : FencesCarry s) :
    FencesCarry s' := by
  cases h with
  | coordinator body fences hbody hle hfences =>
    simp only [FenceIssuer.advanceEpoch] at hfences
    split at hfences
    · simp at hfences
    injection hfences with hfences
    subst hfences
    exact ⟨rfl, rfl⟩
  | topology body dpus =>
    have hreplaced : FencesCarry { s with
        topology := { body.snapshot with dpus }
        topologyGeneration := body.snapshot.generation } := ⟨hs.epoch, hs.boot⟩
    exact ⟨(removeDevices_fencesCarry _ hreplaced).epoch,
      (removeDevices_fencesCarry _ hreplaced).boot⟩
  | intent body group plan authority r hbody hgroup hplan hclaims hreconcile =>
    have hr := reconcile_fences (P := fun f => f.epoch = s.epoch ∧ f.boot = s.boot)
      (fun f id token f' hf hissue =>
        ⟨(issue_epoch_boot hissue).1.trans hf.1, (issue_epoch_boot hissue).2.trans hf.2⟩)
      ⟨hs.epoch, hs.boot⟩ hreconcile
    exact ⟨hr.1, hr.2⟩
  | _ => exact ⟨hs.epoch, hs.boot⟩

section Apply

variable {s : RuntimeState} (hs : FencesCarry s) (event : FabricEvent) (bounds : RuntimeBounds)
  (weights : PlacementWeights)
include hs

/-- The refusal after a change needs an issuer ahead of the state. -/
theorem applyEvent_outcome :
    Outcome s event bounds weights (applyEvent s event bounds weights) := by
  rcases applyEvent_cases s event bounds weights with h | ⟨_, ⟨body, _, hle, hlt⟩, _⟩
  · exact h
  · rw [hs.epoch] at hlt
    exact absurd hle (not_le.mpr hlt)

theorem applyEvent_fencesCarry : FencesCarry (applyEvent s event bounds weights).2 := by
  rcases applyEvent_outcome hs event bounds weights with ⟨_, hsame⟩ | ⟨_, hacc⟩
  · rwa [hsame]
  · exact hacc.fencesCarry hs

/-- **A refused event changes nothing.** -/
theorem applyEvent_refused (h : (applyEvent s event bounds weights).1.applied = false) :
    (applyEvent s event bounds weights).2 = s := by
  rcases applyEvent_outcome hs event bounds weights with ⟨_, hsame⟩ | ⟨happlied, _⟩
  · exact hsame
  · rw [happlied] at h
    simp at h

end Apply

end DpuFabric
