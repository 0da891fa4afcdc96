/-
  Runtime.WellFormed — EVERY STATE OF EVERY RUN IS WELL FORMED.

  `CapabilitySet::find`, `DependencyGraph::outgoing` and the registry search by
  halving, so they are right only on tables that are in order.  Each reducer
  keeps its own table in order, in its own way: it sorts and looks at
  neighbours, builds the graph again, or inserts where it searched.
  `run_wellFormed` is what this adds up to, snapshots and restarts included.
-/
import Mathlib.Data.List.Chain
import DpuFabric.Engine.Graph
import DpuFabric.Engine.Sizes
import DpuFabric.Runtime.Atomicity
import DpuFabric.Runtime.Catalogue
import DpuFabric.Runtime.Evidence
import DpuFabric.Runtime.Loss

namespace DpuFabric

open Lib

/-! ## §1. What is in order. -/

/-- `normalize` has been through the set. -/
structure CapabilitySet.Normal (c : CapabilitySet) : Prop where
  sorted : SortedBy Capability.key c.entries
  known : ∀ e ∈ c.entries, e.value.kind ≠ .unknown

structure DevicesNormal (dpus : List DpuRecord) : Prop where
  sorted : SortedBy DpuRecord.id dpus
  records : ∀ d ∈ dpus, d.id.valid = true ∧ d.capabilities.Normal

/-- One entry per instance, and no serial that was never issued. -/
structure FenceIssuer.Numbered (f : FenceIssuer) : Prop where
  nodup : (f.serials.map FenceEntry.instanceId).Nodup
  positive : ∀ x entry, f.find x = some entry → 0 < entry.serial.toNat

structure WellFormed (s : RuntimeState) : Prop where
  devices : DevicesNormal s.topology.dpus
  /-- The planner's graph is built, and from the edges as they stand. -/
  edges : ∀ limit, s.dependencies.length ≤ limit →
    DependencyGraph.build s.dependencies limit = .ok { edges := s.dependencies }
  serials : s.fences.Numbered
  policy : s.policyGeneration.valid = true → ¬(s.policy.maxStageBatch = 0
    ∨ s.policy.maxInstancesPerGroup = 0 ∨ s.policy.maxReplicasPerDpuCeiling = 0
    ∨ s.policy.evidenceValidityTicks = 0)

/-! ## §2. Capabilities and devices. -/

theorem insertionSort_chain {α κ : Type} [LinearOrder κ] (key : α → κ) (xs : List α) :
    ((xs.insertionSort (fun a b => key a ≤ key b)).map key).IsChain (· ≤ ·) := by
  have : Std.Total (fun a b : α => key a ≤ key b) := ⟨fun a b => le_total _ _⟩
  have : IsTrans α (fun a b => key a ≤ key b) := ⟨fun _ _ _ => le_trans⟩
  exact (List.pairwise_map.mpr (List.pairwise_insertionSort _ xs)).isChain

/-- In a sorted list it is enough to compare a key with the one before it. -/
theorem isChain_lt_of_ne {κ : Type} [LinearOrder κ] {prev : Option κ} {k : κ} {l l' : List κ}
    (hprev : prev ≠ some k) (hle : (prev.toList ++ k :: l).IsChain (· ≤ ·))
    (h : (k :: l').IsChain (· < ·)) : (prev.toList ++ k :: l').IsChain (· < ·) := by
  cases prev with
  | none => exact h
  | some j =>
    have hj := (List.isChain_cons_cons.mp hle).1
    exact List.isChain_cons_cons.mpr ⟨lt_of_le_of_ne hj fun heq => hprev (by rw [heq]), h⟩

theorem checkEntries_none {prev : Option CapabilityKey} {entries : List Capability}
    (h : CapabilitySet.checkEntries prev entries = none)
    (hle : (prev.toList ++ entries.map Capability.key).IsChain (· ≤ ·)) :
    (prev.toList ++ entries.map Capability.key).IsChain (· < ·)
      ∧ ∀ e ∈ entries, e.value.kind ≠ .unknown := by
  induction entries generalizing prev with
  | nil => cases prev <;> simp
  | cons entry rest ih =>
    simp only [CapabilitySet.checkEntries] at h
    repeat' split at h
    all_goals first
      | contradiction
      | skip
    next _ hknown _ hprev =>
    obtain ⟨hchain, hrest⟩ := ih h hle.right_of_append
    exact ⟨isChain_lt_of_ne hprev hle hchain, List.forall_mem_cons.mpr ⟨hknown, hrest⟩⟩

theorem normalize_normal {c c' : CapabilitySet} {limit : Nat} (h : c.normalize limit = .ok c') :
    c'.Normal := by
  simp only [CapabilitySet.normalize] at h
  repeat' split at h
  all_goals first
    | contradiction
    | skip
  next hcheck =>
  cases h
  obtain ⟨hchain, hknown⟩ := checkEntries_none hcheck (insertionSort_chain _ _)
  exact ⟨sortedBy_iff_map.mpr (List.isChain_iff_pairwise.mp hchain), hknown⟩

/-- On a set in order the halving search is the linear one. -/
theorem CapabilitySet.Normal.find_eq {c : CapabilitySet} (h : c.Normal) (key : CapabilityKey) :
    c.find key = c.entries.find? (fun e => decide (e.key = key)) := by
  refine Option.ext fun e => ?_
  rw [h.sorted.find?_eq_some_iff, CapabilitySet.find, Option.bind_eq_some_iff]
  constructor
  · rintro ⟨i, hi, he⟩
    obtain ⟨e', he', hkey⟩ := findKey_some hi
    obtain rfl := Option.some.inj (he.symm.trans he')
    exact ⟨List.mem_of_getElem? he, hkey⟩
  · rintro ⟨hmem, hkey⟩
    obtain ⟨i, hi⟩ := List.mem_iff_getElem?.mp hmem
    exact ⟨i, h.sorted.findKey_eq_some_iff.mpr ⟨e, hi, hkey⟩, hi⟩

section Steps

variable {s t : RuntimeState} {event : FabricEvent} {bounds : RuntimeBounds}
  {weights : PlacementWeights} {dpus dpus' : List DpuRecord}

theorem takeDevice_normal {prev : Option DpuId} {d d' : DpuRecord}
    (h : takeDevice s event bounds prev d = .ok d') :
    prev ≠ some d.id ∧ d'.id.valid = true ∧ d'.capabilities.Normal := by
  unfold takeDevice at h
  split at h
  · contradiction
  next hvalid =>
  split at h
  · contradiction
  next hprev =>
  split at h
  · contradiction
  next hnormalize =>
  cases h
  exact ⟨hprev, by simp_all, normalize_normal hnormalize⟩

theorem takeDevices_normal {prev : Option DpuId}
    (h : takeDevices s event bounds prev dpus = .ok dpus')
    (hle : (prev.toList ++ dpus.map DpuRecord.id).IsChain (· ≤ ·)) :
    (prev.toList ++ dpus'.map DpuRecord.id).IsChain (· < ·)
      ∧ ∀ d ∈ dpus', d.id.valid = true ∧ d.capabilities.Normal := by
  induction dpus generalizing prev dpus' with
  | nil =>
    cases h
    cases prev <;> simp
  | cons d rest ih =>
    simp only [takeDevices, bind_eq_ok, pure_eq_ok] at h
    obtain ⟨d', hd', others, hothers, rfl⟩ := h
    obtain ⟨hprev, hnormal⟩ := takeDevice_normal hd'
    obtain ⟨hchain, hrest⟩ := ih hothers hle.right_of_append
    rw [List.map_cons, (takeDevice_ok hd').id]
    exact ⟨isChain_lt_of_ne hprev hle hchain, List.forall_mem_cons.mpr ⟨hnormal, hrest⟩⟩

/-- The record keeps its identity, and its capabilities stay in order. -/
def KeepsNormal (d d' : DpuRecord) : Prop :=
  d'.id = d.id ∧ (d.capabilities.Normal → d'.capabilities.Normal)

theorem DevicesNormal.keep (h : DevicesNormal dpus) (hkeep : List.Forall₂ KeepsNormal dpus dpus') :
    DevicesNormal dpus' := by
  have hids : dpus.map DpuRecord.id = dpus'.map DpuRecord.id :=
    map_eq_of_forall₂ (hkeep.imp fun _ _ hd => hd.1.symm)
  refine ⟨sortedBy_iff_map.mpr (hids ▸ sortedBy_iff_map.mp h.sorted), fun d' hd' => ?_⟩
  obtain ⟨d, hd, hid, hcapabilities⟩ := forall₂_mem_right hkeep hd'
  rw [hid]
  exact ⟨(h.records d hd).1, hcapabilities (h.records d hd).2⟩

theorem DevicesNormal.map (h : DevicesNormal dpus) {f : DpuRecord → DpuRecord}
    (hf : ∀ d, KeepsNormal d (f d)) : DevicesNormal (dpus.map f) :=
  h.keep (List.forall₂_map_right_iff.mpr (List.forall₂_same.mpr fun d _ => hf d))

theorem DevicesNormal.modify (h : DevicesNormal dpus) (k : Nat) {f : DpuRecord → DpuRecord}
    (hf : ∀ d, KeepsNormal d (f d)) : DevicesNormal (dpus.modify k f) := by
  refine h.keep ?_
  clear h
  induction dpus generalizing k with
  | nil => simp
  | cons d dpus ih =>
    cases k with
    | zero => exact .cons (hf d) (List.forall₂_same.mpr fun _ _ => ⟨rfl, id⟩)
    | succ k => exact .cons ⟨rfl, id⟩ (ih k)

/-! ## §3. Edges and serials. -/

theorem build_again {edges : List Dependency} {graph : DependencyGraph} {limit : Nat}
    (h : DependencyGraph.build edges limit = .ok graph) (limit' : Nat)
    (hle : graph.edges.length ≤ limit') :
    DependencyGraph.build graph.edges limit' = .ok { edges := graph.edges } := by
  have hsorted := DependencyGraph.sorted_of_build h
  obtain ⟨-, hchecks, hnodup, rfl⟩ := DependencyGraph.build_eq_ok_iff.mp h
  have hperm := List.perm_insertionSort (fun a b : Dependency => a.sortKey ≤ b.sortKey) edges
  refine DependencyGraph.build_eq_ok_iff.mpr ⟨hle, fun e he => ?_, ?_, ?_⟩
  · exact hchecks e (hperm.mem_iff.mp he)
  · exact (hperm.map Dependency.endpoints).nodup_iff.mpr hnodup
  · rw [List.Pairwise.insertionSort_eq hsorted]

theorem numbered_nil (epoch : CoordinatorEpoch) (boot : BootIncarnation) :
    FenceIssuer.Numbered { epoch, boot, serials := [] } :=
  ⟨List.nodup_nil, fun _ _ h => absurd h (by simp [FenceIssuer.find])⟩

theorem FenceIssuer.Numbered.issue {f f' : FenceIssuer} {x : InstanceId} {token : FenceToken}
    (h : f.Numbered) (hissue : f.issue x = .ok (token, f')) : f'.Numbered := by
  obtain ⟨-, -, hserial, ⟨entry, hentry, hsame⟩, hothers⟩ := issue_find hissue
  refine ⟨?_, fun y e he => ?_⟩
  · have hwithin : IssuedWithin (x :: f.serials.map FenceEntry.instanceId) f :=
      ⟨h.nodup, fun y hy => List.mem_cons_of_mem _ hy⟩
    exact (hwithin.issue List.mem_cons_self hissue).nodup
  by_cases hy : y = x
  · obtain rfl : entry = e := by simpa [hy, hentry] using he
    rw [hsame, hserial]
    exact Nat.succ_pos _
  · exact h.positive y e (hothers y hy ▸ he)

/-! ## §4. Every event, every run. -/

theorem WellFormed.keep (h : WellFormed s) (hdevices : DevicesNormal t.topology.dpus)
    (hsame : (t.dependencies, t.fences, t.policyGeneration, t.policy)
      = (s.dependencies, s.fences, s.policyGeneration, s.policy)) : WellFormed t := by
  simp only [Prod.mk.injEq] at hsame
  obtain ⟨hdependencies, hfences, hgeneration, hpolicy⟩ := hsame
  exact ⟨hdevices, hdependencies ▸ h.edges, hfences ▸ h.serials, hgeneration ▸ hpolicy ▸ h.policy⟩

theorem Accepted.wellFormed (hacc : Accepted s event bounds weights t) (h : WellFormed s) :
    WellFormed t := by
  cases hacc with
  | time body => exact h.keep (h.devices.map fun d => ⟨rfl, id⟩) rfl
  | coordinator body fences _ _ hfences =>
    unfold FenceIssuer.advanceEpoch at hfences
    split at hfences <;> cases hfences
    -- a new epoch starts without serials
    exact { h with serials := numbered_nil _ _ }
  | dependency body graph hbody hgraph => exact { h with edges := build_again hgraph }
  | policy body hbody hchecks =>
    simp only [policyRefusal] at hchecks
    repeat' split at hchecks
    all_goals first
      | contradiction
      | skip
    next hzero => exact { h with policy := fun _ => hzero }
  | topology body dpus hbody hchecks hdpus =>
    -- a removed device costs instances and grants only
    refine h.keep ?_ (removeDevices_keep (f := fun s =>
      (s.dependencies, s.fences, s.policyGeneration, s.policy)) (fun _ _ => rfl) _ _)
    obtain ⟨hchain, hrecords⟩ := takeDevices_normal hdpus (insertionSort_chain _ _)
    have hsorted := sortedBy_iff_map.mpr (List.isChain_iff_pairwise.mp hchain)
    rw [acceptTopology_topology]
    exact DevicesNormal.map ⟨hsorted, hrecords⟩ fun d => ⟨rfl, id⟩
  | capability body capabilities hbody hchecks =>
    simp only [checkCapability] at hchecks
    repeat' split at hchecks
    all_goals first
      | contradiction
      | skip
    next hnormalize _ _ =>
    cases hchecks
    exact h.keep (h.devices.modify _ fun d => ⟨rfl, fun _ => normalize_normal hnormalize⟩) rfl
  | health body =>
    refine h.keep (DevicesNormal.map (h.devices.modify _ ?_) ?_) rfl
    all_goals exact fun d => ⟨rfl, id⟩
  | attached body => exact h.keep (h.devices.modify _ fun d => ⟨rfl, id⟩) rfl
  | lost body => exact h.keep (h.devices.modify _ fun d => ⟨rfl, id⟩) rfl
  | intent body group plan authority r hbody hgroup hplan hclaims hreconcile =>
    have hserials := reconcile_fences (fun _ _ _ _ hf => FenceIssuer.Numbered.issue hf)
      h.serials hreconcile
    exact { h with serials := hserials }
  | _ => exact h.keep h.devices rfl

end Steps

theorem wellFormed_lasting : Lasting WellFormed (fun _ => True) where
  core {s t} h hs := by
    refine hs.keep (hs.devices.keep ?_) (congrArg (fun u =>
      (u.dependencies, u.fences, u.policyGeneration, u.policy)) h).symm
    have hdpus := congrArg (fun u => u.topology.dpus) h
    simp only [DpuFabric.core, ← List.forall₂_eq_eq_eq, List.forall₂_map_left_iff,
      List.forall₂_map_right_iff] at hdpus
    exact hdpus.imp fun d d' hd => ⟨(congrArg DpuRecord.id hd).symm,
      fun hnormal => (congrArg DpuRecord.capabilities hd) ▸ hnormal⟩
  blank _ := ⟨⟨.nil, by simp [initialState]⟩, fun _ _ => rfl, numbered_nil _ _,
    fun h => absurd h Bool.false_ne_true⟩
  restored hs := { hs with serials := numbered_nil _ _ }
  event bounds weights _ hs := by
    rcases applyEvent_cases _ _ bounds weights with (⟨_, hsame⟩ | ⟨_, hacc⟩) | ⟨_, _, hfenced⟩
    · rw [hsame]
      exact hs
    · exact hacc.wellFormed hs
    · rw [hfenced]
      exact hs.keep hs.devices rfl
  restarted _ _ hs := { hs with serials := numbered_nil _ _ }

/-- **Every state of every run is well formed**, whatever fails and wherever a
process dies, and the searches by halving find what is there. -/
theorem run_wellFormed (moves : List Move) : (System.after {} moves).Holds fun s =>
    WellFormed s ∧ Catalogued s ∧ GrantsSorted s ∧ FencesCarry s
      ∧ ∀ d ∈ s.topology.dpus, ∀ key, d.capabilities.find key
          = d.capabilities.entries.find? (fun e => decide (e.key = key)) := by
  intro p hp
  have hs := (wellFormed_lasting.always moves).holds p hp
  refine ⟨hs, (catalogued_lasting.always moves).holds p hp,
    (grantsSorted_lasting.always moves).holds p hp, run_fencesCarry [] moves p hp, ?_⟩
  exact fun d hd => (hs.devices.records d hd).2.find_eq

/-- **The snapshot file is whole at every moment of every run**: if there is
one, it is the frame of a well-formed state that a process was in. -/
theorem run_snapshot_whole (moves : List Move) : Sound WellFormed (System.after {} moves).trace :=
  (wellFormed_lasting.always moves).files

end DpuFabric
