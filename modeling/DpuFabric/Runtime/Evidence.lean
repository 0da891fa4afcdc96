/-
  Runtime.Evidence — WHETHER THE EVIDENCE ON A DEVICE EVER RUNS BACKWARDS.

  A device record carries the generation of its capabilities and the instant
  of its last health observation.  The device reports compare both with the
  record before they touch it.  Two reducers do not: `reduce_topology`
  replaces the record by whatever the snapshot says, and `reduce_lost` dates
  the record with the instant of the loss.
-/
import DpuFabric.Runtime.Continuity
import DpuFabric.Runtime.Lasting

namespace DpuFabric

open Lib

/-! ## §1. The record against the record before. -/

/-- Neither the capability generation nor the health instant is behind. -/
def NotBehind (r r' : DpuRecord) : Prop :=
  r.capabilityGeneration ≤ r'.capabilityGeneration ∧ r.healthObservedAt ≤ r'.healthObservedAt

instance (r r' : DpuRecord) : Decidable (NotBehind r r') := inferInstanceAs (Decidable (_ ∧ _))

theorem NotBehind.refl (r : DpuRecord) : NotBehind r r := ⟨le_rfl, le_rfl⟩

theorem NotBehind.trans {r₁ r₂ r₃ : DpuRecord} (h : NotBehind r₁ r₂) (h' : NotBehind r₂ r₃) :
    NotBehind r₁ r₃ := ⟨h.1.trans h'.1, h.2.trans h'.2⟩

/-- What the two reducers would have to check: a listed device is not dated
back, nor given an older capability generation; a loss is not older than the
record. -/
def KeepsEvidence (s : RuntimeState) (event : FabricEvent) : Prop :=
  match event.body with
  | .topologyObserved body => ∀ r ∈ body.snapshot.dpus, ∀ old, s.topology.find r.id = some old →
      old.healthObservedAt ≤ r.healthObservedAt
        ∧ (r.capabilityGeneration.valid = true →
            old.capabilityGeneration ≤ r.capabilityGeneration)
  | .dpuLost body => ∀ old, s.topology.find body.dpu = some old →
      old.healthObservedAt ≤ event.instant
  | _ => True

instance (s : RuntimeState) (event : FabricEvent) : Decidable (KeepsEvidence s event) := by
  unfold KeepsEvidence
  generalize event.body = body
  apply @FabricEventBody.casesOn _ body <;> infer_instance

/-! ## §2. The highest capability generation. -/

/-- No device is ahead of the state's capability generation. -/
def CapabilitiesBounded (s : RuntimeState) : Prop :=
  ∀ r ∈ s.topology.dpus, r.capabilityGeneration ≤ s.capabilityGeneration

section Bounded

variable {s t : RuntimeState} {event : FabricEvent} {bounds : RuntimeBounds}
  {weights : PlacementWeights}

theorem CapabilitiesBounded.congr (hs : CapabilitiesBounded s)
    (hdpus : t.topology.dpus.map DpuRecord.capabilityGeneration
      = s.topology.dpus.map DpuRecord.capabilityGeneration)
    (hle : s.capabilityGeneration ≤ t.capabilityGeneration) : CapabilitiesBounded t := by
  intro r hr
  have hmem := List.mem_map_of_mem (f := DpuRecord.capabilityGeneration) hr
  rw [hdpus] at hmem
  obtain ⟨old, hold, heq⟩ := List.mem_map.mp hmem
  rw [← heq]
  exact (hs old hold).trans hle

theorem CapabilitiesBounded.update (hs : CapabilitiesBounded s) {id : DpuId}
    {f : DpuRecord → DpuRecord} (ht : t.topology.dpus = (s.topology.update id f).dpus)
    (hf : ∀ r, (f r).capabilityGeneration = r.capabilityGeneration
      ∨ (f r).capabilityGeneration ≤ t.capabilityGeneration)
    (hle : s.capabilityGeneration ≤ t.capabilityGeneration) : CapabilitiesBounded t := by
  intro r hr
  rw [ht] at hr
  rcases Lib.mem_modify hr with hr | ⟨old, hold, rfl⟩
  · exact (hs r hr).trans hle
  rcases hf old with heq | hlt
  · rw [heq]
    exact (hs old hold).trans hle
  · exact hlt

theorem CapabilitiesBounded.refreshHealth (hs : CapabilitiesBounded s) :
    CapabilitiesBounded (refreshHealth s) := by
  refine hs.congr ?_ le_rfl
  show (s.topology.dpus.map (refreshDpu s.clock)).map DpuRecord.capabilityGeneration = _
  rw [List.map_map]
  rfl

theorem acceptTopology_topology (s : RuntimeState) (event : FabricEvent)
    (snapshot : TopologySnapshot) (dpus : List DpuRecord) :
    (acceptTopology s event snapshot dpus).topology
      = { snapshot with dpus := dpus.map (refreshDpu s.clock) } := by
  simp only [acceptTopology]
  generalize (s.topology.dpus.filter _).map DpuRecord.id = removed
  have hkeep := @removeDevices_keep _ (fun t => (t.topology, t.clock)) event (fun _ _ => rfl) removed
    { s with topology := { snapshot with dpus }, topologyGeneration := snapshot.generation }
  simp only [Prod.mk.injEq] at hkeep
  simp only [refreshHealth, hkeep.1, hkeep.2]

theorem Accepted.capabilitiesBounded (h : Accepted s event bounds weights t)
    (hs : CapabilitiesBounded s) : CapabilitiesBounded t := by
  cases h with
  | time body =>
    exact CapabilitiesBounded.refreshHealth (s := { s with clock := body.now }) hs
  | topology body dpus =>
    intro r hr
    rw [acceptTopology_topology] at hr
    obtain ⟨d, hd, rfl⟩ := List.mem_map.mp hr
    exact (le_highestCapability dpus s.capabilityGeneration).2 d hd
  | capability body capabilities =>
    have hmax : ∀ g : CapabilityGeneration, g ≤ (if g < body.generation then body.generation else g)
        ∧ body.generation ≤ (if g < body.generation then body.generation else g) := by
      intro g
      split
      · next hlt => exact ⟨hlt.le, le_rfl⟩
      · next hlt => exact ⟨le_rfl, not_lt.mp hlt⟩
    exact hs.update rfl (fun _ => .inr (hmax _).2) (hmax _).1
  | health body =>
    refine CapabilitiesBounded.refreshHealth ?_
    exact hs.update rfl (fun _ => .inl rfl) le_rfl
  | attached body => exact hs.update rfl (fun _ => .inl rfl) le_rfl
  | lost body => exact hs.update (f := lostRecord event) rfl (fun _ => .inl rfl) le_rfl
  | _ => exact hs

end Bounded

theorem capabilitiesBounded_lasting : Lasting CapabilitiesBounded (fun _ => True) where
  core {s t} h hs := by
    refine hs.congr ?_ (congrArg RuntimeState.capabilityGeneration h).le
    have hdpus : s.topology.dpus.map DpuRecord.withoutFreshness
        = t.topology.dpus.map DpuRecord.withoutFreshness :=
      congrArg (fun u => u.topology.dpus) h
    have hforget := congrArg (List.map DpuRecord.capabilityGeneration) hdpus
    rw [List.map_map, List.map_map] at hforget
    exact hforget.symm
  blank _ := fun _ h => absurd h (by simp [initialState])
  restored hs := hs
  event bounds weights _ hs := by
    rcases applyEvent_cases _ _ bounds weights with (⟨_, hsame⟩ | ⟨_, hacc⟩) | ⟨_, _, hfenced⟩
    · rw [hsame]
      exact hs
    · exact hacc.capabilitiesBounded hs
    · rw [hfenced]
      exact hs
  restarted _ _ hs := hs

/-! ## §3. Every event. -/

section Steps

variable {s t : RuntimeState} {event : FabricEvent} {bounds : RuntimeBounds}
  {weights : PlacementWeights} {d : DpuId} {r r' : DpuRecord}

theorem takeDevice_capability {prev : Option DpuId}
    (h : takeDevice s event bounds prev r = .ok r') :
    r'.capabilityGeneration
      = if r.capabilityGeneration.valid then r.capabilityGeneration else s.capabilityGeneration := by
  unfold takeDevice at h
  iterate 3
    split at h
    · contradiction
  cases h
  rfl

theorem takeDevices_capability {prev : Option DpuId} {dpus taken : List DpuRecord}
    (h : takeDevices s event bounds prev dpus = .ok taken) :
    List.Forall₂ (fun r r' => TakenOver r r' ∧ r'.capabilityGeneration
      = if r.capabilityGeneration.valid then r.capabilityGeneration else s.capabilityGeneration)
      dpus taken := by
  induction dpus generalizing prev taken with
  | nil =>
    cases h
    exact .nil
  | cons r rest ih =>
    simp only [takeDevices, bind_eq_ok, pure_eq_ok] at h
    obtain ⟨r', hr', others, hothers, rfl⟩ := h
    exact .cons ⟨takeDevice_ok hr', takeDevice_capability hr'⟩ (ih hothers)

theorem checkCapability_since {body : CapabilityObserved} {capabilities : CapabilitySet}
    (h : checkCapability s event body bounds = .ok capabilities) :
    ∃ r, s.topology.find body.dpu = some r ∧ r.capabilityGeneration ≤ body.generation := by
  unfold checkCapability at h
  simp only at h
  split at h
  · simp at h
  next r hr =>
  refine ⟨r, hr, ?_⟩
  by_contra hlt
  rw [if_pos (not_le.mp hlt)] at h
  simp at h

/-- A change of the record of one device, seen by the lookup of any. -/
theorem notBehind_update {id : DpuId} {f : DpuRecord → DpuRecord} {old : DpuRecord}
    (hf : ∀ r, (f r).id = r.id) (hold : s.topology.find id = some old)
    (hstep : NotBehind old (f old)) (hr : s.topology.find d = some r)
    (hr' : (s.topology.update id f).find d = some r') : NotBehind r r' := by
  rw [TopologySnapshot.find_update _ _ hf] at hr'
  split at hr'
  · next hd =>
    subst hd
    rw [hr] at hr' hold
    obtain rfl := Option.some.inj hold
    obtain rfl := Option.some.inj hr'
    exact hstep
  · obtain rfl := Option.some.inj (hr.symm.trans hr')
    exact NotBehind.refl r

theorem notBehind_refresh {u : RuntimeState} (hr' : (refreshHealth u).topology.find d = some r')
    (h : ∀ x, u.topology.find d = some x → NotBehind r x) : NotBehind r r' := by
  rw [refreshHealth_find] at hr'
  obtain ⟨x, hx, rfl⟩ := Option.map_eq_some_iff.mp hr'
  exact h x hx

/-- **One event keeps the evidence on a device** that stays in the
topology. -/
theorem Accepted.notBehind (h : Accepted s event bounds weights t) (hs : CapabilitiesBounded s)
    (hkeeps : KeepsEvidence s event) (hr : s.topology.find d = some r)
    (hr' : t.topology.find d = some r') : NotBehind r r' := by
  have hsame : ∀ x, s.topology.find d = some x → NotBehind r x := by
    intro x hx
    obtain rfl := Option.some.inj (hr.symm.trans hx)
    exact NotBehind.refl r
  cases h with
  | time => exact notBehind_refresh hr' hsame
  | topology body dpus hbody _ hdpus =>
    rw [acceptTopology_topology] at hr'
    have hfind := TopologySnapshot.find_map { body.snapshot with dpus } (f := refreshDpu s.clock)
      (fun _ => rfl) d
    obtain ⟨x, hx, rfl⟩ := Option.map_eq_some_iff.mp (hfind.symm.trans hr')
    obtain ⟨y, hy, htaken, hcapability⟩ := forall₂_mem_right (takeDevices_capability hdpus)
      (List.mem_of_find?_eq_some hx)
    have hlisted : y ∈ body.snapshot.dpus := (List.mem_insertionSort _).mp hy
    have hid : y.id = d := htaken.id.symm.trans (TopologySnapshot.find_id hx)
    rw [KeepsEvidence, hbody] at hkeeps
    obtain ⟨hhealth, hgeneration⟩ := hkeeps y hlisted r (hid ▸ hr)
    refine ⟨?_, hhealth.trans_eq htaken.observedAt.symm⟩
    show r.capabilityGeneration ≤ x.capabilityGeneration
    rw [hcapability]
    split
    · next hvalid => exact hgeneration hvalid
    · exact hs r (List.mem_of_find?_eq_some hr)
  | capability body capabilities hbody hchecks =>
    obtain ⟨old, hold, hsince⟩ := checkCapability_since hchecks
    exact notBehind_update (f := observeCapability body capabilities) (fun _ => rfl) hold
      ⟨hsince, le_rfl⟩ hr hr'
  | health body hbody hchecks =>
    obtain ⟨old, hold, hsince⟩ := healthRefusal_none hchecks
    refine notBehind_refresh hr' fun x hx => ?_
    exact notBehind_update (f := observeHealth s.clock event body) (fun _ => rfl) hold
      ⟨le_rfl, hsince⟩ hr hx
  | attached body hbody hchecks =>
    obtain ⟨old, hold, hsince⟩ := attachedRefusal_none hchecks
    exact notBehind_update (f := attachDevice body) (fun _ => rfl) hold ⟨le_rfl, hsince⟩ hr hr'
  | lost body hbody hchecks =>
    obtain ⟨old, hold, -⟩ := lostRefusal_none hchecks
    rw [KeepsEvidence, hbody] at hkeeps
    exact notBehind_update (f := lostRecord event) (fun _ => rfl) hold
      ⟨le_rfl, hkeeps old hold⟩ hr hr'
  | _ => exact hsame r' hr'

end Steps

/-! ## §4. Every run. -/

/-- The evidence on device `d` has not fallen behind the record `r`. -/
structure EvidenceKept (d : DpuId) (r : DpuRecord) (s : RuntimeState) : Prop where
  bounded : CapabilitiesBounded s
  notBehind : ∀ r', s.topology.find d = some r' → NotBehind r r'

theorem EvidenceKept.of_core {d : DpuId} {r : DpuRecord} {s t : RuntimeState}
    (h : core s = core t) (hs : EvidenceKept d r s) : EvidenceKept d r t := by
  refine ⟨capabilitiesBounded_lasting.core h hs.bounded, fun r' hr' => ?_⟩
  have hlookup : ∀ u : RuntimeState, (core u).topology.find d
      = (u.topology.find d).map DpuRecord.withoutFreshness := fun u =>
    TopologySnapshot.find_map u.topology (f := DpuRecord.withoutFreshness) (fun _ => rfl) d
  have hmap : (s.topology.find d).map DpuRecord.withoutFreshness
      = some r'.withoutFreshness := by
    rw [← hlookup, h, hlookup, hr']
    rfl
  obtain ⟨x, hx, hfresh⟩ := Option.map_eq_some_iff.mp hmap
  have hcapability := congrArg DpuRecord.capabilityGeneration hfresh
  have hhealth := congrArg DpuRecord.healthObservedAt hfresh
  obtain ⟨hold, hsince⟩ := hs.notBehind x hx
  exact ⟨hold.trans_eq hcapability, hsince.trans_eq hhealth⟩

/-- The move is no restart, and is made while the device is in the
topology. -/
def StaysListed (d : DpuId) (s : System) (m : Move) : Prop :=
  SameLifetime s m ∧ ∀ p, s.process = some p → (p.runtime.state.topology.find d).isSome = true

/-- The event that the move takes up dates no record back. -/
def OnwardOnly (s : System) (_ : Move) : Prop :=
  ∀ pe, s.next = some pe → KeepsEvidence pe.1.runtime.state pe.2

instance (d : DpuId) (s : System) (m : Move) : Decidable (StaysListed d s m) :=
  inferInstanceAs (Decidable (_ ∧ ∀ p, s.process = some p → _))

instance (s : System) (m : Move) : Decidable (OnwardOnly s m) :=
  inferInstanceAs (Decidable (∀ pe, s.next = some pe → _))

theorem step_evidence {d : DpuId} {r : DpuRecord} {s : System} {m : Move}
    (hs : s.Holds (EvidenceKept d r)) (hm : StaysListed d s m ∧ OnwardOnly s m) :
    (s.step m).Holds (EvidenceKept d r) := by
  obtain ⟨⟨hlifetime, hlisted⟩, honward⟩ := hm
  refine System.step_holds EvidenceKept.of_core hs ?_ ?_
  · rintro config faults rt w rfl - -
    exact absurd rfl (hlifetime config)
  intro p event faults _ hnext l n
  have hprocess := System.next_process hnext
  have hp := hs p hprocess
  have hkeeps : KeepsEvidence (p.runtime.state.recounted l n) event := honward (p, event) hnext
  refine ⟨capabilitiesBounded_lasting.event _ _ trivial hp.bounded, fun r' hr' => ?_⟩
  obtain ⟨x, hx⟩ := Option.isSome_iff_exists.mp (hlisted p hprocess)
  refine (hp.notBehind x hx).trans ?_
  rcases applyEvent_cases (p.runtime.state.recounted l n) event p.runtime.config.bounds
    p.runtime.config.weights with (⟨-, hsame⟩ | ⟨-, hacc⟩) | ⟨-, -, hfenced⟩
  · rw [hsame] at hr'
    obtain rfl := Option.some.inj (hx.symm.trans hr')
    exact NotBehind.refl x
  · exact hacc.notBehind hp.bounded hkeeps hx hr'
  rw [hfenced] at hr'
  obtain rfl := Option.some.inj (hx.symm.trans hr')
  exact NotBehind.refl x

/-- **Evidence never runs backwards** while a device stays in the topology of
a process, as long as no topology and no loss dates it back. -/
theorem evidence_onward (pre : List Move) (p : Process)
    (hp : (System.after {} pre).process = some p) (d : DpuId) (r : DpuRecord)
    (hr : p.runtime.state.topology.find d = some r) (post : List Move)
    (hpost : Meets System.step (fun s m => StaysListed d s m ∧ OnwardOnly s m)
      (System.after {} pre) post)
    (q : Process) (hq : (System.after (System.after {} pre) post).process = some q)
    (r' : DpuRecord) (hr' : q.runtime.state.topology.find d = some r') :
    r.capabilityGeneration ≤ r'.capabilityGeneration
      ∧ r.healthObservedAt ≤ r'.healthObservedAt := by
  have hstart : (System.after {} pre).Holds (EvidenceKept d r) := by
    intro p' hp'
    obtain rfl := Option.some.inj (hp.symm.trans hp')
    refine ⟨(capabilitiesBounded_lasting.always pre).holds p hp, fun x hx => ?_⟩
    obtain rfl := Option.some.inj (hr.symm.trans hx)
    exact NotBehind.refl r
  exact (run_invariant (fun _ _ => step_evidence) hstart hpost q hq).notBehind r' hr'

/-- A topology of device `d` with the given capability generation and health
instant. -/
def datedTopology (generation capability observedAt : UInt64) : FabricEventBody :=
  .topologyObserved { snapshot := {
    generation := ⟨generation⟩
    dpus := [{ sampleDevice "d" with
      capabilityGeneration := ⟨capability⟩
      healthObservedAt := ⟨observedAt⟩ }] } }

/-- The device is observed, and observed once more. -/
def datedMoves : List Move :=
  .run (.start sampleConfig) [] :: submitMoves (sampleEvent 3 (datedTopology 1 3 2))

def dated (capability observedAt : UInt64) : System :=
  System.after (System.after {} datedMoves)
    (submitMoves (sampleEvent 4 (datedTopology 2 capability observedAt)))

theorem datedMoves_runs : (System.after {} datedMoves).process.isSome = true := by decide +kernel

theorem dated_runs : (dated 4 3).process.isSome = true := by decide +kernel

/-- The record of the device. -/
def deviceRecord (p : Process) : Option DpuRecord :=
  p.runtime.state.topology.find (.literal (txt "d"))

theorem datedMoves_listed : (deviceRecord (Option.get _ datedMoves_runs)).isSome = true := by
  decide +kernel

theorem dated_listed : (deviceRecord (Option.get _ dated_runs)).isSome = true := by decide +kernel

/-- A second topology with later evidence is taken over. -/
theorem later_topology_onward :
    ((deviceRecord (Option.get _ datedMoves_runs)).get datedMoves_listed).capabilityGeneration
        ≤ ((deviceRecord (Option.get _ dated_runs)).get dated_listed).capabilityGeneration
      ∧ ((deviceRecord (Option.get _ datedMoves_runs)).get datedMoves_listed).healthObservedAt
        ≤ ((deviceRecord (Option.get _ dated_runs)).get dated_listed).healthObservedAt :=
  evidence_onward datedMoves _ (Option.some_get datedMoves_runs).symm (.literal (txt "d")) _
    (Option.some_get datedMoves_listed).symm
    (submitMoves (sampleEvent 4 (datedTopology 2 4 3))) (by decide +kernel) _
    (Option.some_get dated_runs).symm _ (Option.some_get dated_listed).symm

/-- A second topology with older evidence is taken over as well. -/
theorem later_topology_backwards :
    ¬ ∀ (pre : List Move) (p : Process), (System.after {} pre).process = some p →
      ∀ d r, p.runtime.state.topology.find d = some r →
      ∀ post, Meets System.step (StaysListed d) (System.after {} pre) post →
      ∀ q, (System.after (System.after {} pre) post).process = some q →
      ∀ r', q.runtime.state.topology.find d = some r' →
        r.capabilityGeneration ≤ r'.capabilityGeneration
          ∧ r.healthObservedAt ≤ r'.healthObservedAt := by
  intro h
  have hbad : (dated 1 1).process.any (fun p => (deviceRecord p).any (fun r => decide (¬ NotBehind
      ((deviceRecord (Option.get _ datedMoves_runs)).get datedMoves_listed) r))) = true := by
    decide +kernel
  obtain ⟨q, hq, hrecord⟩ := (Option.any_eq_true _ _).mp hbad
  obtain ⟨r', hr', hbehind⟩ := (Option.any_eq_true _ _).mp hrecord
  exact of_decide_eq_true hbehind (h datedMoves _ (Option.some_get datedMoves_runs).symm
    (.literal (txt "d")) _ (Option.some_get datedMoves_listed).symm
    (submitMoves (sampleEvent 4 (datedTopology 2 1 1))) (by decide +kernel) q hq r' hr')

end DpuFabric
