/-
  Engine.Reconciled — WHAT RECONCILIATION MAKES OF THE TABLE, ENTRY BY ENTRY.

  Where the planned identities are distinct, every lookup of one that is
  there succeeds, and no other replica's instance carries one (`SoundPlan`),
  every planned replica has one turn, and that turn sees the entry of the
  state before (`Loop`).  So the table after an accepted intent is known
  entry by entry (`Reconciled`): the planned replicas as their turn left them
  (`Placed`), and the others, quiesced where the plan does not cover them.
-/
import DpuFabric.Engine.Attempts

namespace DpuFabric

open Lib

variable {i j : InstanceState} {instances : List InstanceState} {s : RuntimeState} {r : Reconciling}

/-! ## §1. Sound plans. -/

/-- The identity of a planned replica. -/
def plannedId (group : ServiceGroup) (p : ServicePlan × PlannedReplica) : InstanceId :=
  makeInstanceId group.id p.1.service p.2.index

theorem plannedIds_eq (group : ServiceGroup) (plan : DeploymentPlan) :
    plannedIds group plan = (ServicePlan.flatten plan.services).map (plannedId group) := rfl

/-- The instance is the planned replica's. -/
def InstanceState.IsReplica (group : ServiceGroup) (p : ServicePlan × PlannedReplica)
    (i : InstanceState) : Prop :=
  i.group = group.id ∧ i.service = p.1.service ∧ i.index = p.2.index

instance (group : ServiceGroup) (p : ServicePlan × PlannedReplica) (i : InstanceState) :
    Decidable (i.IsReplica group p) :=
  inferInstanceAs (Decidable (_ ∧ _ ∧ _))

/-- The planned identities are distinct and can be looked up, and an instance
that carries one is the planned replica's. -/
structure SoundPlan (s : RuntimeState) (group : ServiceGroup) (plan : DeploymentPlan) : Prop where
  sorted : InstancesSorted s
  found : LookupsHold (tableIds s.instances) (plannedIds group plan)
  distinct : (plannedIds group plan).Nodup
  agree : ∀ i ∈ s.instances, ∀ p ∈ ServicePlan.flatten plan.services,
    i.id = plannedId group p → i.IsReplica group p

instance (s : RuntimeState) (group : ServiceGroup) (plan : DeploymentPlan) :
    Decidable (SoundPlan s group plan) :=
  decidable_of_iff (InstancesSorted s ∧ LookupsHold (tableIds s.instances) (plannedIds group plan)
      ∧ (plannedIds group plan).Nodup
      ∧ ∀ i ∈ s.instances, ∀ p ∈ ServicePlan.flatten plan.services,
          i.id = plannedId group p → i.IsReplica group p)
    ⟨fun ⟨h₁, h₂, h₃, h₄⟩ => ⟨h₁, h₂, h₃, h₄⟩,
     fun h => ⟨h.sorted, h.found, h.distinct, h.agree⟩⟩

theorem SoundPlan.eq_of_id {group : ServiceGroup} {plan : DeploymentPlan}
    (h : SoundPlan s group plan) {p q : ServicePlan × PlannedReplica}
    (hp : p ∈ ServicePlan.flatten plan.services) (hq : q ∈ ServicePlan.flatten plan.services)
    (hid : plannedId group p = plannedId group q) : p = q :=
  List.inj_on_of_nodup_map (plannedIds_eq group plan ▸ h.distinct) hp hq hid

theorem InstancesSorted.nodup (h : InstancesSorted s) : (tableIds s.instances).Nodup :=
  (instancesSorted_iff_ids.mp h).imp (fun hlt => ne_of_lt hlt)

theorem InstancesSorted.eq_of_id (h : InstancesSorted s)
    (hi : i ∈ s.instances) (hj : j ∈ s.instances) (hid : i.id = j.id) : i = j :=
  List.inj_on_of_nodup_map h.nodup hi hj hid

/-! ## §2. The turn of one replica. -/

/-- What the turn of a planned replica leaves in the table, given the entries
before. -/
inductive Placed (s : RuntimeState) (plan : DeploymentPlan) (group : ServiceGroup)
    (event : FabricEvent) (p : ServicePlan × PlannedReplica) : InstanceState → Prop where
  | created (hnew : ∀ i ∈ s.instances, i.id ≠ plannedId group p) (fence : FenceToken) :
      Placed s plan group event p
        (createdInstance plan group event (plannedId group p) p.1 p.2 fence)
  | replaced (i : InstanceState) (hi : i ∈ s.instances) (hid : i.id = plannedId group p)
      (hmust : i.mustReplace p.1 p.2 = true) (fence : FenceToken) :
      Placed s plan group event p (replacedInstance i plan event p.1 p.2 fence)
  | reattempted (i : InstanceState) (hi : i ∈ s.instances) (hid : i.id = plannedId group p)
      (hmust : i.mustReplace p.1 p.2 = false) (hstale : i.staleAttempt = true)
      (fence : FenceToken) :
      Placed s plan group event p (reattemptedInstance i plan event fence)
  | covered (i : InstanceState) (hi : i ∈ s.instances) (hid : i.id = plannedId group p)
      (hmust : i.mustReplace p.1 p.2 = false) (hstale : i.staleAttempt = false) :
      Placed s plan group event p { i with deploymentGeneration := plan.generation }

section Placed

variable {s : RuntimeState} {plan : DeploymentPlan} {group : ServiceGroup} {event : FabricEvent}
  {p : ServicePlan × PlannedReplica} {j : InstanceState}

theorem mustReplace_false {sp : ServicePlan} {replica : PlannedReplica}
    (h : i.mustReplace sp replica = false) :
    i.dpu = replica.dpu ∧ i.version = sp.version ∧ i.terminal = false := by
  simpa [InstanceState.mustReplace, and_assoc] using h

theorem Placed.id_eq (h : Placed s plan group event p j) : j.id = plannedId group p := by
  cases h with
  | created => rfl
  | replaced i _ hid => exact hid
  | reattempted i _ hid => exact hid
  | covered i _ hid => exact hid

/-- Whatever happens in its turn, a planned replica ends up where it is
planned. -/
theorem Placed.place (h : Placed s plan group event p j) :
    j.dpu = p.2.dpu ∧ j.version = p.1.version := by
  cases h with
  | created => exact ⟨rfl, rfl⟩
  | replaced => exact ⟨rfl, rfl⟩
  | reattempted i _ _ hmust => exact ⟨(mustReplace_false hmust).1, (mustReplace_false hmust).2.1⟩
  | covered i _ _ hmust => exact ⟨(mustReplace_false hmust).1, (mustReplace_false hmust).2.1⟩

theorem Placed.isReplica (h : Placed s plan group event p j) (hsound : SoundPlan s group plan)
    (hp : p ∈ ServicePlan.flatten plan.services) : j.IsReplica group p := by
  cases h with
  | created => exact ⟨rfl, rfl, rfl⟩
  | replaced i hi hid => exact hsound.agree i hi p hp hid
  | reattempted i hi hid => exact hsound.agree i hi p hp hid
  | covered i hi hid => exact hsound.agree i hi p hp hid

end Placed

/-- Overwriting an entry of a table without doubled identities. -/
theorem mem_set_of_nodup (hnodup : (tableIds instances).Nodup)
    {k : Nat} (hk : instances[k]? = some i) (x : InstanceState) :
    x ∈ instances.set k j ↔ x = j ∨ (x ∈ instances ∧ x.id ≠ i.id) := by
  have hinj : ∀ m y, instances[m]? = some y → y.id = i.id → m = k := by
    intro m y hm hid
    obtain ⟨hlt, -⟩ := List.getElem?_eq_some_iff.mp hm
    have hlt' : m < (tableIds instances).length := by rwa [tableIds, List.length_map]
    refine (List.getElem?_inj hlt' hnodup).mp ?_
    rw [tableIds, List.getElem?_map, List.getElem?_map, hm, hk, Option.map_some, Option.map_some,
      hid]
  constructor
  · intro hx
    obtain ⟨m, hm⟩ := List.mem_iff_getElem?.mp hx
    by_cases hmk : k = m
    · subst hmk
      obtain ⟨hlt, -⟩ := List.getElem?_eq_some_iff.mp hk
      rw [List.getElem?_set_self hlt] at hm
      exact .inl (Option.some.inj hm).symm
    · rw [List.getElem?_set_ne hmk] at hm
      exact .inr ⟨List.mem_of_getElem? hm, fun hid => hmk (hinj m x hm hid).symm⟩
  · rintro (rfl | ⟨hx, hid⟩)
    · obtain ⟨hlt, -⟩ := List.getElem?_eq_some_iff.mp hk
      exact List.mem_iff_getElem?.mpr ⟨k, List.getElem?_set_self hlt⟩
    obtain ⟨m, hm⟩ := List.mem_iff_getElem?.mp hx
    have hmk : k ≠ m := by
      rintro rfl
      exact hid (congrArg InstanceState.id (Option.some.inj (hm.symm.trans hk)))
    exact List.mem_iff_getElem?.mpr ⟨m, by rw [List.getElem?_set_ne hmk, hm]⟩

/-! ## §3. The replica loop. -/

/-- The table when the replicas `done` had their turn. -/
structure Loop (s : RuntimeState) (plan : DeploymentPlan) (group : ServiceGroup)
    (event : FabricEvent) (done : List (ServicePlan × PlannedReplica))
    (instances : List InstanceState) : Prop where
  nodup : (tableIds instances).Nodup
  origin : ∀ j ∈ instances, (j ∈ s.instances ∧ j.id ∉ done.map (plannedId group))
    ∨ ∃ p ∈ done, Placed s plan group event p j
  placed : ∀ p ∈ done, ∃ j ∈ instances, Placed s plan group event p j
  kept : ∀ i ∈ s.instances, i.id ∉ done.map (plannedId group) → i ∈ instances

section Loop

variable {s : RuntimeState} {plan : DeploymentPlan} {group : ServiceGroup} {event : FabricEvent}
  {bounds : RuntimeBounds} {done : List (ServicePlan × PlannedReplica)}
  {p : ServicePlan × PlannedReplica}

theorem loop_nil (h : InstancesSorted s) : Loop s plan group event [] s.instances :=
  ⟨h.nodup, fun j hj => .inl ⟨hj, by simp⟩, by simp, fun i hi _ => hi⟩

theorem not_mem_ids_concat {id : InstanceId} :
    id ∉ (done ++ [p]).map (plannedId group)
      ↔ id ∉ done.map (plannedId group) ∧ id ≠ plannedId group p := by
  rw [List.map_append, List.mem_append, not_or]
  simp

theorem Loop.create (h : Loop s plan group event done instances)
    (hfresh : plannedId group p ∉ done.map (plannedId group))
    (hnot : plannedId group p ∉ tableIds instances) (fence : FenceToken) :
    Loop s plan group event (done ++ [p])
      (instances ++ [createdInstance plan group event (plannedId group p) p.1 p.2 fence]) := by
  have hother : ∀ j ∈ instances, j.id ≠ plannedId group p := fun j hj hid =>
    hnot (hid ▸ List.mem_map_of_mem hj)
  have hcreated : Placed s plan group event p
      (createdInstance plan group event (plannedId group p) p.1 p.2 fence) :=
    .created (fun i hi hid => hother i (h.kept i hi (hid ▸ hfresh)) hid) fence
  refine ⟨?_, fun j hj => ?_, fun q hq => ?_, fun i hi hid => ?_⟩
  · rw [tableIds, List.map_append]
    exact h.nodup.append (List.nodup_singleton _) (List.disjoint_singleton.mpr hnot)
  · rcases List.mem_append.mp hj with hj | hj
    · rcases h.origin j hj with ⟨hs, hid⟩ | ⟨q, hq, hplaced⟩
      · exact .inl ⟨hs, not_mem_ids_concat.mpr ⟨hid, hother j hj⟩⟩
      · exact .inr ⟨q, List.mem_append_left _ hq, hplaced⟩
    · rw [List.mem_singleton.mp hj]
      exact .inr ⟨p, by simp, hcreated⟩
  · rcases List.mem_append.mp hq with hq | hq
    · obtain ⟨j, hj, hplaced⟩ := h.placed q hq
      exact ⟨j, List.mem_append_left _ hj, hplaced⟩
    · rw [List.mem_singleton.mp hq]
      exact ⟨_, by simp, hcreated⟩
  · exact List.mem_append_left _ (h.kept i hi (not_mem_ids_concat.mp hid).1)

theorem Loop.change (h : Loop s plan group event done instances)
    (hfresh : plannedId group p ∉ done.map (plannedId group)) {k : Nat}
    (hk : instances[k]? = some i) (hid : i.id = plannedId group p)
    (hplaced : i ∈ s.instances → Placed s plan group event p j) :
    Loop s plan group event (done ++ [p]) (instances.set k j) := by
  have hmem := mem_set_of_nodup h.nodup hk (j := j)
  -- no earlier turn made the entry, so it is the entry of the state before
  have hbefore : i ∈ s.instances := by
    rcases h.origin i (List.mem_of_getElem? hk) with ⟨hs, -⟩ | ⟨q, hq, hother⟩
    · exact hs
    · exact absurd (List.mem_map.mpr ⟨q, hq, hother.id_eq.symm.trans hid⟩) hfresh
  have hj := hplaced hbefore
  refine ⟨?_, fun x hx => ?_, fun q hq => ?_, fun x hx hxid => ?_⟩
  · rw [tableIds_set hk (hj.id_eq.trans hid.symm)]
    exact h.nodup
  · rcases (hmem x).mp hx with rfl | ⟨hx, hxid⟩
    · exact .inr ⟨p, by simp, hj⟩
    rcases h.origin x hx with ⟨hs, hnot⟩ | ⟨q, hq, hother⟩
    · exact .inl ⟨hs, not_mem_ids_concat.mpr ⟨hnot, hid ▸ hxid⟩⟩
    · exact .inr ⟨q, List.mem_append_left _ hq, hother⟩
  · rcases List.mem_append.mp hq with hq | hq
    · obtain ⟨x, hx, hother⟩ := h.placed q hq
      refine ⟨x, (hmem _).mpr (.inr ⟨hx, fun hxid => hfresh ?_⟩), hother⟩
      exact List.mem_map.mpr ⟨q, hq, (hother.id_eq.symm.trans hxid).trans hid⟩
    · rw [List.mem_singleton.mp hq]
      exact ⟨j, (hmem _).mpr (.inl rfl), hj⟩
  · obtain ⟨hdone, hne⟩ := not_mem_ids_concat.mp hxid
    exact (hmem _).mpr (.inr ⟨h.kept x hx hdone, hid ▸ hne⟩)

theorem Loop.turn {r' : Reconciling} (h : Loop s plan group event done r.instances)
    (hfresh : plannedId group p ∉ done.map (plannedId group))
    (hlookup : plannedId group p ∈ tableIds r.instances →
      (findKey (fun x => x) (tableIds r.instances) (plannedId group p)).isSome = true)
    (hturn : reconcileReplica plan group event bounds r p = .ok r') :
    Loop s plan group event (done ++ [p]) r'.instances := by
  have hsome := findInstance_isSome r.instances (plannedId group p)
  unfold reconcileReplica at hturn
  simp only at hturn
  split at hturn
  · next hfind =>
    have hnot : plannedId group p ∉ tableIds r.instances := by
      intro hin
      rw [← hsome, show findInstance r.instances (plannedId group p) = none from hfind]
        at hlookup
      exact absurd (hlookup hin) (by simp)
    split at hturn
    · simp at hturn
    split at hturn
    · simp at hturn
    · rw [← Except.ok.inj hturn]
      exact h.create hfresh hnot _
  · next k i hfind =>
    obtain ⟨hk, hid⟩ := findInstance_some hfind
    split at hturn
    · next hmust =>
      split at hturn
      · simp at hturn
      · rw [← Except.ok.inj hturn]
        exact h.change hfresh hk hid fun hi => .replaced i hi hid hmust _
    · next hmust =>
      rw [Bool.not_eq_true] at hmust
      split at hturn
      · next hstale =>
        split at hturn
        · simp at hturn
        · rw [← Except.ok.inj hturn]
          exact h.change hfresh hk hid fun hi => .reattempted i hi hid hmust hstale _
      · next hstale =>
        rw [← Except.ok.inj hturn]
        exact h.change hfresh hk hid fun hi =>
          .covered i hi hid hmust (Bool.not_eq_true _ ▸ hstale)

/-- **The replica loop.**  Induction over the replicas to come; each turn
moves the first of them to the replicas done. -/
theorem Loop.run {r' : Reconciling} {todo : List (ServicePlan × PlannedReplica)}
    (h : Loop s plan group event done r.instances)
    (hdistinct : ((done ++ todo).map (plannedId group)).Nodup)
    (hfound : LookupsHold (tableIds r.instances) (todo.map (plannedId group)))
    (hloop : todo.foldlM (reconcileReplica plan group event bounds) r = .ok r') :
    Loop s plan group event (done ++ todo) r'.instances := by
  induction todo generalizing done r with
  | nil =>
    rw [List.append_nil]
    rw [List.foldlM_nil] at hloop
    exact Except.ok.inj hloop ▸ h
  | cons p todo ih =>
    rw [List.foldlM_cons] at hloop
    obtain ⟨r₁, hturn, hrest⟩ := bind_eq_ok.mp hloop
    have hfresh : plannedId group p ∉ done.map (plannedId group) := by
      rw [List.map_append, List.map_cons] at hdistinct
      exact fun hin => (List.nodup_append.mp hdistinct).2.2 _ hin _ List.mem_cons_self rfl
    obtain ⟨hlookup, hfound⟩ := hfound
    have hids := reconcileReplica_ids hturn
    rw [List.append_cons] at hdistinct ⊢
    refine ih (h.turn hfresh hlookup hturn) hdistinct ?_ hrest
    rw [hids]
    exact hfound

end Loop

/-! ## §4. The second loop, and the table that comes out. -/

section Table

variable {s : RuntimeState} {plan : DeploymentPlan} {group : ServiceGroup} {event : FabricEvent}
  {bounds : RuntimeBounds}

/-- The entry after the second loop of a plan that is no withdrawal. -/
def retire (plan : DeploymentPlan) (group : ServiceGroup) (event : FabricEvent)
    (i : InstanceState) : InstanceState :=
  if uncovered group plan i then quiesceInstance event.instant i else i

theorem quiesceLoop_retires (hkind : plan.kind ≠ .withdraw) {fences fences' : FenceIssuer}
    {instances' : List InstanceState}
    (h : quiesceLoop plan group event fences instances = .ok (instances', fences')) :
    instances' = instances.map (retire plan group event) := by
  have hretired := quiesceLoop_rule (P := fun _ => True) (R := Eq)
    (S := fun i j => retire plan group event i = j) (fun x i f j f' _ hx hj => ⟨trivial, ?_⟩)
    (List.forall₂_refl instances) trivial h
  · exact ((map_eq_of_forall₂ (g := id) hretired.2).trans (List.map_id _)).symm
  subst hx
  unfold retire
  cases hj with
  | kept hkept => rw [hkept, if_neg Bool.false_ne_true]
  | retired hu => rw [hu, if_pos rfl]
  | withdrawing _ hwithdraw => exact absurd hwithdraw hkind

theorem retire_id (i : InstanceState) : (retire plan group event i).id = i.id := by
  unfold retire
  split <;> rfl

theorem retire_group (i : InstanceState) : (retire plan group event i).group = i.group := by
  unfold retire
  split <;> rfl

theorem retire_planned (hkind : plan.kind ≠ .withdraw)
    {p : ServicePlan × PlannedReplica} (hp : p ∈ ServicePlan.flatten plan.services)
    (hid : i.id = plannedId group p) (hreplica : i.IsReplica group p) :
    retire plan group event i = i := by
  have hservice : i.service ∈ plan.services.map ServicePlan.service := by
    obtain ⟨sp, hsp, hin⟩ := List.mem_flatMap.mp hp
    obtain ⟨replica, -, rfl⟩ := List.mem_map.mp hin
    exact hreplica.2.1 ▸ List.mem_map_of_mem hsp
  have hplanned : i.id ∈ plannedIds group plan := by
    rw [plannedIds_eq, hid]
    exact List.mem_map_of_mem hp
  have hcovered : uncovered group plan i = false := by
    simp only [uncovered, hkind, hservice, hplanned, not_true_eq_false, decide_false,
      Bool.or_false, Bool.and_false, Bool.false_and]
  rw [retire, hcovered, if_neg Bool.false_ne_true]

/-- The table after an accepted intent that is no withdrawal. -/
structure Reconciled (s : RuntimeState) (plan : DeploymentPlan) (group : ServiceGroup)
    (event : FabricEvent) (after : List InstanceState) : Prop where
  nodup : (tableIds after).Nodup
  origin : ∀ j ∈ after, (∃ p ∈ ServicePlan.flatten plan.services, Placed s plan group event p j)
    ∨ ∃ i ∈ s.instances, i.id ∉ plannedIds group plan ∧ j = retire plan group event i
  placed : ∀ p ∈ ServicePlan.flatten plan.services,
    ∃ j ∈ after, Placed s plan group event p j
  kept : ∀ i ∈ s.instances, i.id ∉ plannedIds group plan → retire plan group event i ∈ after

/-- **Reconciliation, entry by entry.** -/
theorem reconcile_reconciled (hsound : SoundPlan s group plan) (hkind : plan.kind ≠ .withdraw)
    (h : reconcile s plan group event bounds = .ok r) :
    Reconciled s plan group event r.instances := by
  obtain ⟨placed, hplace, hquiesce⟩ := reconcile_ok h
  have hdistinct : (([] ++ ServicePlan.flatten plan.services).map (plannedId group)).Nodup :=
    hsound.distinct
  have hdone : Loop s plan group event (ServicePlan.flatten plan.services) placed.instances :=
    (loop_nil hsound.sorted).run hdistinct hsound.found hplace
  have hretired := quiesceLoop_retires hkind hquiesce
  have hsame : ∀ p ∈ ServicePlan.flatten plan.services, ∀ j, Placed s plan group event p j →
      retire plan group event j = j := fun p hp j hj =>
    retire_planned hkind hp hj.id_eq (hj.isReplica hsound hp)
  refine ⟨?_, fun j hj => ?_, fun p hp => ?_, fun i hi hid => ?_⟩
  · rw [hretired, tableIds_map retire_id]
    exact hdone.nodup
  · rw [hretired] at hj
    obtain ⟨i, hi, rfl⟩ := List.mem_map.mp hj
    rcases hdone.origin i hi with ⟨hs, hid⟩ | ⟨p, hp, hplaced⟩
    · exact .inr ⟨i, hs, hid, rfl⟩
    · rw [hsame p hp i hplaced]
      exact .inl ⟨p, hp, hplaced⟩
  · obtain ⟨j, hj, hplaced⟩ := hdone.placed p hp
    refine ⟨j, ?_, hplaced⟩
    rw [hretired]
    exact List.mem_map.mpr ⟨j, hj, hsame p hp j hplaced⟩
  · rw [hretired]
    exact List.mem_map_of_mem (hdone.kept i hi hid)

theorem Reconciled.perm {after after' : List InstanceState}
    (h : Reconciled s plan group event after) (hperm : after.Perm after') :
    Reconciled s plan group event after' where
  nodup := (hperm.map _).nodup_iff.mp h.nodup
  origin j hj := h.origin j (hperm.mem_iff.mpr hj)
  placed p hp := by
    obtain ⟨j, hj, hplaced⟩ := h.placed p hp
    exact ⟨j, hperm.mem_iff.mp hj, hplaced⟩
  kept i hi hid := hperm.mem_iff.mp (h.kept i hi hid)

theorem retire_elsewhere (hgroup : i.group ≠ group.id) : retire plan group event i = i := by
  simp [retire, uncovered, hgroup]

/-- **Other groups are left alone.** -/
theorem Reconciled.elsewhere {after : List InstanceState}
    (h : Reconciled s plan group event after) (hsound : SoundPlan s group plan) :
    (after.filter (fun i => decide (i.group ≠ group.id))).Perm
      (s.instances.filter (fun i => decide (i.group ≠ group.id))) := by
  have hnodup : ∀ {instances : List InstanceState}, (tableIds instances).Nodup →
      (instances.filter (fun i => decide (i.group ≠ group.id))).Nodup :=
    fun h => (List.Nodup.of_map _ h).filter _
  refine (List.perm_ext_iff_of_nodup (hnodup h.nodup) (hnodup hsound.sorted.nodup)).mpr fun j => ?_
  simp only [List.mem_filter, decide_eq_true_eq]
  refine and_congr_left fun hgroup => ⟨fun hj => ?_, fun hj => ?_⟩
  · rcases h.origin j hj with ⟨p, hp, hplaced⟩ | ⟨i, hi, -, rfl⟩
    · exact absurd (hplaced.isReplica hsound hp).1 hgroup
    · rw [retire_group] at hgroup
      rwa [retire_elsewhere hgroup]
  · have hid : j.id ∉ plannedIds group plan := by
      intro hin
      obtain ⟨p, hp, hid⟩ := List.mem_map.mp (plannedIds_eq group plan ▸ hin)
      exact hgroup (hsound.agree j hj p hp hid.symm).1
    have hkept := h.kept j hj hid
    rwa [retire_elsewhere hgroup] at hkept

end Table

end DpuFabric
