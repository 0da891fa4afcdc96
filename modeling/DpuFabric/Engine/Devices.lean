/-
  Engine.Devices — WHAT ONE EVENT CAN DO TO ONE DEVICE.

  `DeviceStep` lists the ways in which an applied event changes the record
  of a device; apart from a refresh of its freshness there is no other
  (`Accepted.device`).  An observed topology replaces the records of the
  devices it lists, whatever it says about them, and removes the others.
-/
import DpuFabric.Engine.Accepted
import DpuFabric.Lib.Pointwise

namespace DpuFabric

open Lib

/-! ## §1. Observed topologies. -/

/-- The capability generation of a state is never behind a device's. -/
theorem le_highestCapability (dpus : List DpuRecord) (floor : CapabilityGeneration) :
    floor ≤ highestCapability floor dpus
      ∧ ∀ r ∈ dpus, r.capabilityGeneration ≤ highestCapability floor dpus := by
  induction dpus generalizing floor with
  | nil => exact ⟨le_rfl, by simp⟩
  | cons d dpus ih =>
    have hhead : floor ≤ (if floor < d.capabilityGeneration then d.capabilityGeneration else floor)
        ∧ d.capabilityGeneration
          ≤ (if floor < d.capabilityGeneration then d.capabilityGeneration else floor) := by
      split
      · next hlt => exact ⟨hlt.le, le_rfl⟩
      · next hlt => exact ⟨le_rfl, not_lt.mp hlt⟩
    obtain ⟨hfloor, hdpus⟩ :=
      ih (if floor < d.capabilityGeneration then d.capabilityGeneration else floor)
    refine ⟨hhead.1.trans hfloor, fun r hr => ?_⟩
    rcases List.mem_cons.mp hr with rfl | hr
    · exact hhead.2.trans hfloor
    · exact hdpus r hr

/-- The topology lists the device. -/
def TopologySnapshot.Lists (t : TopologySnapshot) (d : DpuId) : Prop := ∃ r ∈ t.dpus, r.id = d

instance (t : TopologySnapshot) (d : DpuId) : Decidable (t.Lists d) :=
  inferInstanceAs (Decidable (∃ r ∈ t.dpus, r.id = d))

theorem TopologySnapshot.find_isSome_iff {t : TopologySnapshot} {d : DpuId} :
    (t.find d).isSome = true ↔ t.Lists d := by
  simp [TopologySnapshot.find, TopologySnapshot.Lists, List.find?_isSome]

/-- A device of an observed topology as it is taken over: capabilities and
freshness may change, what the snapshot says about its state and health may
not. -/
structure TakenOver (r r' : DpuRecord) : Prop where
  id : r'.id = r.id
  state : r'.state = r.state
  health : r'.health = r.health
  evidence : r'.healthEvidence = r.healthEvidence
  observedAt : r'.healthObservedAt = r.healthObservedAt

theorem takeDevice_ok {s : RuntimeState} {event : FabricEvent} {bounds : RuntimeBounds}
    {prev : Option DpuId} {r r' : DpuRecord} (h : takeDevice s event bounds prev r = .ok r') :
    TakenOver r r' := by
  unfold takeDevice at h
  repeat' split at h
  all_goals first
    | contradiction
    | (cases h; exact ⟨rfl, rfl, rfl, rfl, rfl⟩)

theorem takeDevices_ok {s : RuntimeState} {event : FabricEvent} {bounds : RuntimeBounds}
    {prev : Option DpuId} {dpus taken : List DpuRecord}
    (h : takeDevices s event bounds prev dpus = .ok taken) : List.Forall₂ TakenOver dpus taken := by
  induction dpus generalizing prev taken with
  | nil =>
    cases h
    exact .nil
  | cons r rest ih =>
    simp only [takeDevices, bind_eq_ok, pure_eq_ok] at h
    obtain ⟨r', hr', others, hothers, rfl⟩ := h
    exact .cons (takeDevice_ok hr') (ih hothers)

section Candidate

variable {s : RuntimeState} {event : FabricEvent} {bounds : RuntimeBounds}
  {snapshot : TopologySnapshot} {dpus : List DpuRecord}
  (hdpus : takeDevices s event bounds none
    (snapshot.dpus.insertionSort (fun a b => a.id ≤ b.id)) = .ok dpus)
include hdpus

theorem candidate_find {d : DpuId} {r' : DpuRecord}
    (h : TopologySnapshot.find { snapshot with dpus } d = some r') :
    ∃ r ∈ snapshot.dpus, r.id = d ∧ TakenOver r r' := by
  have hmem : r' ∈ dpus := List.mem_of_find?_eq_some h
  obtain ⟨r, hr, htaken⟩ := forall₂_mem_right (takeDevices_ok hdpus) hmem
  exact ⟨r, (List.mem_insertionSort _).mp hr, htaken.id.symm.trans (TopologySnapshot.find_id h),
    htaken⟩

theorem candidate_lists {d : DpuId} :
    TopologySnapshot.Lists { snapshot with dpus } d ↔ snapshot.Lists d := by
  have hforall := takeDevices_ok hdpus
  constructor
  · rintro ⟨r', hr', rfl⟩
    obtain ⟨r, hr, htaken⟩ := forall₂_mem_right hforall hr'
    exact ⟨r, (List.mem_insertionSort _).mp hr, htaken.id.symm⟩
  · rintro ⟨r, hr, rfl⟩
    obtain ⟨r', hr', htaken⟩ := forall₂_mem_left hforall ((List.mem_insertionSort _).mpr hr)
    exact ⟨r', hr', htaken.id⟩

end Candidate

/-! ## §2. The record of one device. -/

/-- The record of a device that was reported lost. -/
def lostRecord (event : FabricEvent) (r : DpuRecord) : DpuRecord :=
  { r with state := .lost, health := .unknown, healthFresh := false,
           healthObservedAt := event.instant }

/-- One change of the record of device `d`; `none` is a device that is not in
the topology. -/
inductive DeviceStep (s : RuntimeState) (event : FabricEvent) (d : DpuId) :
    Option DpuRecord → Option DpuRecord → Prop where
  | kept (x : Option DpuRecord) : DeviceStep s event d x x
  | capability (body : CapabilityObserved) (capabilities : CapabilitySet) (r : DpuRecord)
      (hbody : event.body = .capabilityObserved body) (hdpu : body.dpu = d) :
      DeviceStep s event d (some r) (some (observeCapability body capabilities r))
  | health (body : HealthObserved) (r : DpuRecord) (hbody : event.body = .healthObserved body)
      (hdpu : body.dpu = d) (hsince : r.healthObservedAt ≤ body.evidence.observedAt) :
      DeviceStep s event d (some r) (some (observeHealth s.clock event body r))
  | attached (body : DpuAttached) (r : DpuRecord) (hbody : event.body = .dpuAttached body)
      (hdpu : body.dpu = d) (hsince : r.healthObservedAt ≤ body.evidence.observedAt) :
      DeviceStep s event d (some r) (some (attachDevice body r))
  | lost (body : DpuLost) (r : DpuRecord) (hbody : event.body = .dpuLost body)
      (hdpu : body.dpu = d) :
      DeviceStep s event d (some r) (some (lostRecord event r))
  /-- The observed topology lists the device: its record is replaced. -/
  | observed (body : TopologyObserved) (x : Option DpuRecord) (r r' : DpuRecord)
      (hbody : event.body = .topologyObserved body) (hr : r ∈ body.snapshot.dpus)
      (hid : r.id = d) (htaken : TakenOver r r') : DeviceStep s event d x (some r')
  /-- The observed topology does not list the device. -/
  | removed (body : TopologyObserved) (x : Option DpuRecord)
      (hbody : event.body = .topologyObserved body) (hunlisted : ¬ body.snapshot.Lists d) :
      DeviceStep s event d x none

section Effects

variable {s s' : RuntimeState} {event : FabricEvent} {bounds : RuntimeBounds}
  {weights : PlacementWeights}

theorem refreshHealth_find (s : RuntimeState) (d : DpuId) :
    (refreshHealth s).topology.find d = (s.topology.find d).map (refreshDpu s.clock) :=
  TopologySnapshot.find_map s.topology (f := refreshDpu s.clock) (fun _ => rfl) d

/-- A device report that passed its checks is not older than the record. -/
theorem healthRefusal_none {body : HealthObserved} (h : healthRefusal s event body = none) :
    ∃ r, s.topology.find body.dpu = some r
      ∧ r.healthObservedAt ≤ body.evidence.observedAt := by
  unfold healthRefusal at h
  simp only at h
  split at h
  · simp at h
  next r hr =>
  refine ⟨r, hr, ?_⟩
  by_contra hlt
  rw [not_le] at hlt
  rw [if_pos hlt] at h
  split at h
  all_goals exact absurd h (by simp)

theorem attachedRefusal_none {body : DpuAttached} (h : attachedRefusal s event body = none) :
    ∃ r, s.topology.find body.dpu = some r
      ∧ r.healthObservedAt ≤ body.evidence.observedAt := by
  unfold attachedRefusal at h
  simp only at h
  split at h
  · simp at h
  next r hr =>
  refine ⟨r, hr, ?_⟩
  by_contra hlt
  rw [not_le] at hlt
  rw [if_pos hlt] at h
  split at h
  all_goals exact absurd h (by simp)

theorem lostRefusal_none {body : DpuLost} (h : lostRefusal s body = none) :
    ∃ r, s.topology.find body.dpu = some r ∧ r.state ≠ .lost := by
  unfold lostRefusal at h
  split at h
  · simp at h
  next r hr =>
  refine ⟨r, hr, fun hlost => ?_⟩
  rw [if_pos hlost] at h
  simp at h

theorem checkCapability_ok {body : CapabilityObserved} {capabilities : CapabilitySet}
    (h : checkCapability s event body bounds = .ok capabilities) :
    ∃ r, s.topology.find body.dpu = some r := by
  unfold checkCapability at h
  simp only at h
  split at h
  · simp at h
  · next r hr => exact ⟨r, hr⟩

/-- An assignment to the record of one device, seen from any device. -/
theorem DeviceStep.of_update {id d : DpuId} {f : DpuRecord → DpuRecord} {r : DpuRecord}
    (hf : ∀ r, (f r).id = r.id) (hr : s.topology.find id = some r)
    (hstep : id = d → DeviceStep s event d (some r) (some (f r))) :
    DeviceStep s event d (s.topology.find d) ((s.topology.update id f).find d) := by
  rw [TopologySnapshot.find_update _ _ hf]
  split
  · next hd =>
    subst hd
    rw [hr]
    exact hstep rfl
  · exact .kept _

/-- The topology of an accepted observation, before the refresh. -/
theorem DeviceStep.of_candidate {body : TopologyObserved} {dpus : List DpuRecord} (d : DpuId)
    (hbody : event.body = .topologyObserved body) (hdpus : takeDevices s event bounds none
      (body.snapshot.dpus.insertionSort (fun a b => a.id ≤ b.id)) = .ok dpus) :
    DeviceStep s event d (s.topology.find d)
      (TopologySnapshot.find { body.snapshot with dpus } d) := by
  cases hfind : TopologySnapshot.find { body.snapshot with dpus } d with
  | none =>
    refine .removed body _ hbody fun hlists => ?_
    have hsome := TopologySnapshot.find_isSome_iff.mpr ((candidate_lists hdpus).mpr hlists)
    rw [hfind] at hsome
    simp at hsome
  | some r' =>
    obtain ⟨r, hr, hid, htaken⟩ := candidate_find hdpus hfind
    exact .observed body _ r r' hbody hr hid htaken

/-- **The record of every device after an applied event.** -/
theorem Accepted.device (h : Accepted s event bounds weights s') (d : DpuId) :
    ∃ x, DeviceStep s event d (s.topology.find d) x
      ∧ (s'.topology.find d = x ∨ s'.topology.find d = x.map (refreshDpu s'.clock)) := by
  cases h with
  | time => exact ⟨_, .kept _, .inr (refreshHealth_find _ d)⟩
  | topology body dpus hbody _ hdpus =>
    refine ⟨_, .of_candidate d hbody hdpus, .inr ?_⟩
    refine (refreshHealth_find _ d).trans ?_
    congr 1
    exact congrArg (TopologySnapshot.find · d)
      (removeDevices_keep (f := RuntimeState.topology) (fun _ _ => rfl) _ _)
  | capability body capabilities hbody hchecks =>
    obtain ⟨r, hr⟩ := checkCapability_ok hchecks
    exact ⟨_, .of_update (f := observeCapability body capabilities) (fun _ => rfl) hr
      (.capability body capabilities r hbody), .inl rfl⟩
  | health body hbody hchecks =>
    obtain ⟨r, hr, hsince⟩ := healthRefusal_none hchecks
    exact ⟨_, .of_update (f := observeHealth s.clock event body) (fun _ => rfl) hr
      fun hd => .health body r hbody hd hsince, .inr (refreshHealth_find _ d)⟩
  | attached body hbody hchecks =>
    obtain ⟨r, hr, hsince⟩ := attachedRefusal_none hchecks
    exact ⟨_, .of_update (f := attachDevice body) (fun _ => rfl) hr
      fun hd => .attached body r hbody hd hsince, .inl rfl⟩
  | lost body hbody hchecks =>
    obtain ⟨r, hr, -⟩ := lostRefusal_none hchecks
    exact ⟨_, .of_update (f := lostRecord event) (fun _ => rfl) hr
      fun hd => .lost body r hbody hd, .inl rfl⟩
  | _ => exact ⟨_, .kept _, .inl rfl⟩

end Effects

end DpuFabric
