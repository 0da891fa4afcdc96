/-
  Runtime.Loss — WHEN A DEVICE GOES AWAY.

  A device goes away by a loss report, by an observed topology that does not
  list it, or by one that lists it as Lost.  The first two fence everything
  on the device; the third replaces the record and touches neither the
  instances nor the grants (`loss_fences_iff`).
-/
import DpuFabric.Engine.Attempts
import DpuFabric.Engine.Grants
import DpuFabric.Runtime.Lasting

namespace DpuFabric

open Lib

variable {i : InstanceState} {s : RuntimeState} {d : DpuId} {removed : List DpuId}

/-! ## §1. Fenced devices. -/

/-- Nothing about the instance is in force. -/
structure InstanceState.Fenced (i : InstanceState) : Prop where
  unauthorized : i.state ≠ .authorized
  unacknowledged : i.state ≠ .acknowledged
  unverified : i.state ≠ .verified
  idle : i.serving = false
  closed : ∀ a ∈ i.attempts, a.isOpen = false

/-- Every instance on the device is fenced, and nobody owns it. -/
structure DeviceFenced (s : RuntimeState) (d : DpuId) : Prop where
  instances : ∀ i ∈ s.instances, i.dpu = d → i.Fenced
  grants : ∀ g ∈ s.authority.grants, g.dpu ≠ d

/-- The device is in the topology and not Lost. -/
def DeviceUp (s : RuntimeState) (d : DpuId) : Prop :=
  ∃ r, s.topology.find d = some r ∧ r.state ≠ .lost

/-- The device is Lost or not in the topology. -/
def DeviceGone (s : RuntimeState) (d : DpuId) : Prop :=
  ∀ r, s.topology.find d = some r → r.state = .lost

/-- The event is a topology that lists the device. -/
def ListsDevice (event : FabricEvent) (d : DpuId) : Prop :=
  ∃ body, event.body = .topologyObserved body ∧ body.snapshot.Lists d

instance (i : InstanceState) : Decidable i.Fenced :=
  decidable_of_iff (i.state ≠ .authorized ∧ i.state ≠ .acknowledged ∧ i.state ≠ .verified
      ∧ i.serving = false ∧ ∀ a ∈ i.attempts, a.isOpen = false)
    ⟨fun ⟨h₁, h₂, h₃, h₄, h₅⟩ => ⟨h₁, h₂, h₃, h₄, h₅⟩,
      fun h => ⟨h.unauthorized, h.unacknowledged, h.unverified, h.idle, h.closed⟩⟩

instance (s : RuntimeState) (d : DpuId) : Decidable (DeviceFenced s d) :=
  decidable_of_iff ((∀ i ∈ s.instances, i.dpu = d → i.Fenced)
      ∧ ∀ g ∈ s.authority.grants, g.dpu ≠ d)
    ⟨fun ⟨hi, hg⟩ => ⟨hi, hg⟩, fun h => ⟨h.instances, h.grants⟩⟩

instance (s : RuntimeState) (d : DpuId) : Decidable (DeviceGone s d) :=
  match h : s.topology.find d with
  | none => isTrue (fun _ hr => absurd (h.symm.trans hr) (by simp))
  | some r => decidable_of_iff (r.state = .lost)
      ⟨fun hr _ hr' => Option.some.inj (h.symm.trans hr') ▸ hr, fun hall => hall r h⟩

instance (s : RuntimeState) (d : DpuId) : Decidable (DeviceUp s d) :=
  decidable_of_iff (¬ DeviceGone s d) (by simp [DeviceGone, DeviceUp])

/-- Health has no part in being fenced: only a Verified instance serves. -/
theorem InstanceState.Fenced.of_withoutHealth {j : InstanceState}
    (h : i.withoutHealth = j.withoutHealth) (hi : i.Fenced) : j.Fenced := by
  have hstate : j.state = i.state := (InstanceState.withoutHealth_state h).symm
  have hattempts : j.attempts = i.attempts := (InstanceState.withoutHealth_attempts h).symm
  refine ⟨hstate ▸ hi.unauthorized, hstate ▸ hi.unacknowledged, hstate ▸ hi.unverified, ?_,
    hattempts ▸ hi.closed⟩
  simp [InstanceState.serving, hstate, hi.unverified]

theorem DeviceFenced.of_core {t : RuntimeState} (h : core s = core t) (hs : DeviceFenced s d) :
    DeviceFenced t d := by
  have hauthority : t.authority = s.authority := (congrArg RuntimeState.authority h).symm
  refine ⟨fun i hi hd => ?_, hauthority ▸ hs.grants⟩
  obtain ⟨j, hj, hji⟩ := core_instance h hi
  have hdpu : j.dpu = d := (InstanceState.withoutHealth_dpu hji).trans hd
  exact (hs.instances j hj hdpu).of_withoutHealth hji

theorem deviceFenced_refreshHealth : DeviceFenced (refreshHealth s) d ↔ DeviceFenced s d :=
  ⟨.of_core (core_refreshHealth s), .of_core (core_refreshHealth s).symm⟩

theorem deviceFenced_congr {t : RuntimeState} (hinstances : s.instances = t.instances)
    (hauthority : s.authority = t.authority) : DeviceFenced s d ↔ DeviceFenced t d := by
  constructor
  · exact fun h => ⟨hinstances ▸ h.instances, hauthority ▸ h.grants⟩
  · exact fun h => ⟨hinstances ▸ h.instances, hauthority ▸ h.grants⟩

/-! ## §2. Losing and removing devices. -/

theorem loseInstance_fenced (i : InstanceState) (instant : LogicalInstant) :
    (loseInstance i instant).Fenced := by
  exact ⟨by simp [loseInstance], by simp [loseInstance], by simp [loseInstance],
    by simp [loseInstance, InstanceState.serving], loseInstance_closed i instant⟩

/-- The instance after the loss of one device. -/
def loseOn (instant : LogicalInstant) (i : InstanceState) (id : DpuId) : InstanceState :=
  if i.dpu = id then loseInstance i instant else i

theorem loseOn_dpu (instant : LogicalInstant) (i : InstanceState) (id : DpuId) :
    (loseOn instant i id).dpu = i.dpu := by
  unfold loseOn
  split <;> rfl

section Removed

variable {event : FabricEvent}

theorem removeDevices_instances (removed : List DpuId) (s : RuntimeState) :
    (removed.foldl (removeDevice event) s).instances
      = s.instances.map (fun i => removed.foldl (loseOn event.instant) i) := by
  induction removed generalizing s with
  | nil => exact (List.map_id _).symm
  | cons d removed ih =>
    rw [List.foldl_cons, ih]
    exact List.map_map

theorem loseAll_dpu (removed : List DpuId) (i : InstanceState) :
    (removed.foldl (loseOn event.instant) i).dpu = i.dpu := by
  induction removed generalizing i with
  | nil => rfl
  | cons d removed ih => exact (ih _).trans (loseOn_dpu ..)

theorem InstanceState.Fenced.loseAll (hi : i.Fenced) (removed : List DpuId) :
    (removed.foldl (loseOn event.instant) i).Fenced := by
  induction removed generalizing i with
  | nil => exact hi
  | cons d removed ih =>
    refine ih ?_
    unfold loseOn
    split
    · exact loseInstance_fenced i _
    · exact hi

theorem loseAll_fenced (hi : i.dpu ∈ removed) :
    (removed.foldl (loseOn event.instant) i).Fenced := by
  induction removed generalizing i with
  | nil => simp at hi
  | cons d removed ih =>
    rw [List.foldl_cons]
    rcases List.mem_cons.mp hi with hd | hd
    · rw [loseOn, if_pos hd]
      exact (loseInstance_fenced i _).loseAll removed
    · exact ih (by rwa [loseOn_dpu])

theorem loseAll_kept (hi : i.dpu ∉ removed) : removed.foldl (loseOn event.instant) i = i := by
  induction removed with
  | nil => rfl
  | cons d removed ih =>
    rw [List.mem_cons, not_or] at hi
    rw [List.foldl_cons, loseOn, if_neg hi.1]
    exact ih hi.2

/-- **A removed device is fenced; on any other nothing changes.** -/
theorem removeDevices_fenced (hs : GrantsSorted s)  :
    DeviceFenced (removed.foldl (removeDevice event) s) d ↔ d ∈ removed ∨ DeviceFenced s d := by
  have hgrants : (removed.foldl (removeDevice event) s).authority.grants
      = s.authority.grants.filter (fun g => !decide (g.dpu ∈ removed)) := by
    rw [removeDevices_authority]
    exact (releaseDevices_grants hs removed).2
  by_cases hd : d ∈ removed
  · refine iff_of_true ⟨fun i hi hid => ?_, fun g hg hgd => ?_⟩ (.inl hd)
    · rw [removeDevices_instances] at hi
      obtain ⟨j, -, rfl⟩ := List.mem_map.mp hi
      rw [loseAll_dpu] at hid
      exact loseAll_fenced (hid ▸ hd)
    · rw [hgrants, List.mem_filter] at hg
      simp [hgd, hd] at hg
  · rw [or_iff_right hd]
    constructor
    · refine fun h => ⟨fun i hi hid => ?_, fun g hg hgd => ?_⟩
      · have hkept : removed.foldl (loseOn event.instant) i = i := loseAll_kept (hid ▸ hd)
        refine h.instances i ?_ hid
        rw [removeDevices_instances]
        exact List.mem_map.mpr ⟨i, hi, hkept⟩
      · refine h.grants g ?_ hgd
        rw [hgrants, List.mem_filter]
        exact ⟨hg, by simp [hgd, hd]⟩
    · refine fun h => ⟨fun i hi hid => ?_, fun g hg => ?_⟩
      · rw [removeDevices_instances] at hi
        obtain ⟨j, hj, rfl⟩ := List.mem_map.mp hi
        rw [loseAll_dpu] at hid
        exact (h.instances j hj hid).loseAll removed
      · rw [hgrants] at hg
        exact h.grants g (List.mem_of_mem_filter hg)

end Removed

/-! ## §3. One event. -/

section Event

variable {s s' : RuntimeState} {event : FabricEvent} {bounds : RuntimeBounds}
  {weights : PlacementWeights} {d : DpuId}

theorem Accepted.gone_by (h : Accepted s event bounds weights s') (hup : DeviceUp s d)
    (hgone : DeviceGone s' d) :
    (∃ body, event.body = .dpuLost body ∧ body.dpu = d)
      ∨ ∃ body, event.body = .topologyObserved body := by
  obtain ⟨x, hstep, hfind⟩ := h.device d
  obtain ⟨r, hr, hrun⟩ := hup
  rw [hr] at hstep
  -- the record after the step is Lost if there is one
  have hlost : ∀ r', x = some r' → r'.state = .lost := by
    rintro r' rfl
    rcases hfind with hfind | hfind
    · exact hgone r' hfind
    · exact hgone (refreshDpu s'.clock r') hfind
  cases hstep with
  | lost body _ hbody hdpu => exact .inl ⟨body, hbody, hdpu⟩
  | observed body _ _ _ hbody => exact .inr ⟨body, hbody⟩
  | removed body _ hbody => exact .inr ⟨body, hbody⟩
  | attached => exact absurd (hlost _ rfl) (by simp [attachDevice])
  | _ => exact absurd (hlost _ rfl) hrun

theorem loseDevice_fenced (hs : GrantsSorted s) (event : FabricEvent) (d : DpuId) :
    DeviceFenced (loseDevice s event d) d := by
  refine ⟨fun i hi hid => ?_, fun g hg hgd => ?_⟩
  · obtain ⟨j, -, rfl⟩ := List.mem_map.mp (show i ∈ s.instances.map _ from hi)
    by_cases hj : j.dpu = d
    · rw [if_pos hj]
      exact loseInstance_fenced j _
    · rw [if_neg hj] at hid
      exact absurd hid hj
  · have hgrants : g ∈ (releaseDevice s.authority d).grants := hg
    rw [releaseDevice_grants hs, List.mem_filter] at hgrants
    simp [hgd] at hgrants

theorem acceptTopology_fenced (hs : GrantsSorted s) (hup : DeviceUp s d) {body : TopologyObserved}
    {dpus : List DpuRecord} (hdpus : takeDevices s event bounds none
      (body.snapshot.dpus.insertionSort (fun a b => a.id ≤ b.id)) = .ok dpus) :
    DeviceFenced (acceptTopology s event body.snapshot dpus) d
      ↔ ¬ body.snapshot.Lists d ∨ DeviceFenced s d := by
  have hremoved : d ∈ (s.topology.dpus.filter (fun r =>
      (TopologySnapshot.find { body.snapshot with dpus } r.id).isNone)).map DpuRecord.id
      ↔ ¬ body.snapshot.Lists d := by
    obtain ⟨r, hr, -⟩ := hup
    have hmem : r ∈ s.topology.dpus := List.mem_of_find?_eq_some hr
    have hid : r.id = d := TopologySnapshot.find_id hr
    rw [← candidate_lists hdpus, ← TopologySnapshot.find_isSome_iff, List.mem_map]
    constructor
    · rintro ⟨q, hq, rfl⟩
      simpa using (List.mem_filter.mp hq).2
    · intro hnone
      exact ⟨r, List.mem_filter.mpr ⟨hmem, by simpa [hid] using hnone⟩, hid⟩
  let replaced := { s with
    topology := { body.snapshot with dpus }, topologyGeneration := body.snapshot.generation }
  have hfenced : ∀ removed : List DpuId, DeviceFenced (removed.foldl (removeDevice event) replaced) d
      ↔ d ∈ removed ∨ DeviceFenced s d :=
    fun removed => (removeDevices_fenced (show GrantsSorted replaced from hs)).trans
      (or_congr_right (deviceFenced_congr rfl rfl))
  rw [← hremoved, ← hfenced]
  exact deviceFenced_refreshHealth.trans (deviceFenced_congr rfl rfl)

/-- What an applied event leaves on a device that it takes away. -/
theorem Accepted.loss_fences (h : Accepted s event bounds weights s') (hs : GrantsSorted s)
    (hup : DeviceUp s d) (hgone : DeviceGone s' d) :
    DeviceFenced s' d ↔ ¬ ListsDevice event d ∨ DeviceFenced s d := by
  rcases h.gone_by hup hgone with ⟨body, hbody, rfl⟩ | ⟨body, hbody⟩
  · have hnot : ¬ ListsDevice event body.dpu := by
      rintro ⟨other, hother, -⟩
      rw [hbody] at hother
      simp at hother
    cases h with
    | lost body' hbody' _ =>
      rw [hbody] at hbody'
      injection hbody' with hbody'
      subst hbody'
      exact iff_of_true (loseDevice_fenced hs event _) (.inl hnot)
    | _ hother => simp_all
  · cases h with
    | topology body' dpus hbody' _ hdpus =>
      rw [acceptTopology_fenced hs hup hdpus]
      have hlists : ListsDevice event d ↔ body'.snapshot.Lists d := by
        constructor
        · rintro ⟨other, hother, hlists⟩
          rw [hbody'] at hother
          injection hother with hother
          exact hother ▸ hlists
        · exact fun hlists => ⟨body', hbody', hlists⟩
      rw [hlists]
    | _ hother => simp_all

end Event

/-! ## §4. Every reachable state. -/

theorem grantsSorted_lasting : Lasting GrantsSorted (fun _ => True) where
  core h hs := by
    have hauthority := congrArg RuntimeState.authority h
    exact show AuthorityRegistry.Sorted _ from hauthority ▸ hs
  blank _ := List.Pairwise.nil
  restored hs := hs
  event bounds weights _ hs := applyEvent_grantsSorted hs _ bounds weights
  restarted _ _ hs := hs

/-- **Loss fences everything on the device, unless a topology lists it as
Lost**: then the device is fenced afterwards only if it was before. -/
theorem loss_fences_iff (moves : List Move) (p : Process)
    (hp : (System.after {} moves).process = some p) (event : FabricEvent) (bounds : RuntimeBounds)
    (weights : PlacementWeights) (d : DpuId)
    (happlied : (applyEvent p.runtime.state event bounds weights).1.applied = true)
    (hup : DeviceUp p.runtime.state d)
    (hgone : DeviceGone (applyEvent p.runtime.state event bounds weights).2 d) :
    DeviceFenced (applyEvent p.runtime.state event bounds weights).2 d
      ↔ ¬ ListsDevice event d ∨ DeviceFenced p.runtime.state d := by
  have hsorted : GrantsSorted p.runtime.state := (grantsSorted_lasting.always moves).holds p hp
  rcases applyEvent_cases p.runtime.state event bounds weights with
    (⟨hrefused, -⟩ | ⟨-, hacc⟩) | ⟨hrefused, -, -⟩
  · exact absurd (happlied.symm.trans hrefused) (by simp)
  · exact hacc.loss_fences hsorted hup hgone
  · exact absurd (happlied.symm.trans hrefused) (by simp)

/-- A service with an exclusive scope is deployed on the only device. -/
def ownedMoves : List Move :=
  .run (.start sampleConfig) [] ::
    [sampleEvent 1 (sampleTopology ["d"]), sampleEvent 2 samplePolicy,
     sampleEvent 3 (sampleService "a" (some "x")), sampleEvent 4 (sampleGroup "g" ["a"]),
     sampleEvent 5 (sampleIntent .deploy "g" 1 ["a"])].flatMap submitMoves

theorem ownedMoves_runs : (System.after {} ownedMoves).process.isSome = true := by decide +kernel

/-- The process after the deployment. -/
def ownedProcess : Process := (System.after {} ownedMoves).process.get ownedMoves_runs

/-- The device is reported lost. -/
def lossReport : FabricEvent := sampleEvent 6 (.dpuLost { dpu := .literal (txt "d") })

/-- The device is observed as Lost. -/
def lossObserved : FabricEvent :=
  sampleEvent 6 (.topologyObserved { snapshot := {
    generation := ⟨2⟩, dpus := [{ sampleDevice "d" with state := .lost }] } })

/-- A loss report fences the deployment. -/
theorem loss_report_fences :
    DeviceFenced (applyEvent ownedProcess.runtime.state lossReport {} {}).2 (.literal (txt "d")) :=
  (loss_fences_iff ownedMoves ownedProcess (Option.some_get ownedMoves_runs).symm lossReport {} {}
    (.literal (txt "d")) (by decide +kernel) (by decide +kernel) (by decide +kernel)).mpr
    (.inl fun ⟨_, hbody, _⟩ => nomatch hbody)

/-- A device that is observed as Lost keeps its authorized instance and its
owner. -/
theorem loss_observed_unfenced :
    ¬ ∀ (moves : List Move) (p : Process), (System.after {} moves).process = some p →
      ∀ event bounds weights d, (applyEvent p.runtime.state event bounds weights).1.applied = true →
        DeviceUp p.runtime.state d → DeviceGone (applyEvent p.runtime.state event bounds weights).2 d →
        DeviceFenced (applyEvent p.runtime.state event bounds weights).2 d := by
  intro h
  have hfenced := h ownedMoves ownedProcess (Option.some_get ownedMoves_runs).symm lossObserved {} {}
    (.literal (txt "d")) (by decide +kernel) (by decide +kernel) (by decide +kernel)
  exact absurd hfenced (by decide +kernel)

end DpuFabric
