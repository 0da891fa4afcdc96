/-
  Engine.InstanceTable — THE INSTANCE TABLE: SORTED, WITH UNIQUE IDENTITIES.

  Lookups see only the identities of the table, and every event but an intent
  leaves the list of identities alone.  An intent EXTENDS it: `reconcile`
  appends the planned identities it does not find and sorts at the end.  The
  halving search runs over the half-extended list, so whether a planned
  identity that is there is also FOUND is a property of the two lists of
  identities alone, `LookupsHold`.
-/
import DpuFabric.Engine.Accepted
import DpuFabric.Lib.Pointwise

namespace DpuFabric

open Lib

variable {i : InstanceState} {instances : List InstanceState} {k : Nat} {r : Reconciling}

/-! ## §1. Identities. -/

/-- The identities of a table, in table order. -/
def tableIds (instances : List InstanceState) : List InstanceId := instances.map InstanceState.id

/-- What a lookup finds is where it says, and carries the identity. -/
theorem findInstance_some {id : InstanceId} (h : findInstance instances id = some (k, i)) :
    instances[k]? = some i ∧ i.id = id := by
  simp only [findInstance, Option.bind_eq_some_iff, Option.map_eq_some_iff, Prod.mk.injEq] at h
  obtain ⟨k', hk', i', hi', rfl, rfl⟩ := h
  obtain ⟨x, hx, hid⟩ := findKey_some hk'
  rw [hx] at hi'
  injection hi' with hi'
  subst hi'
  exact ⟨hx, hid⟩

theorem findInstance_isSome (instances : List InstanceState) (id : InstanceId) :
    (findInstance instances id).isSome = (findKey (fun x => x) (tableIds instances) id).isSome := by
  rw [tableIds, findKey_map]
  cases hf : findKey InstanceState.id instances id with
  | none => simp [findInstance, hf]
  | some k =>
    obtain ⟨x, hx, -⟩ := findKey_some hf
    simp [findInstance, hf, hx]

/-- Replacing an entry by one with the same identity keeps the identities. -/
theorem tableIds_set {j : InstanceState} (hk : instances[k]? = some i) (hid : j.id = i.id) :
    tableIds (instances.set k j) = tableIds instances := by
  rw [tableIds, tableIds, List.map_set, hid]
  apply List.ext_getElem?
  intro m
  by_cases hm : k = m
  · subst hm
    obtain ⟨hlt, rfl⟩ := List.getElem?_eq_some_iff.mp hk
    simp [hlt]
  · simp [List.getElem?_set_ne hm]

theorem tableIds_map {f : InstanceState → InstanceState} (hf : ∀ i, (f i).id = i.id) : tableIds
    (instances.map f) = tableIds instances := by
  simp [tableIds, Function.comp_def, hf]

/-! ## §2. Effects that keep the identities. -/

theorem refreshInstance_id (t : TopologySnapshot) (i : InstanceState) :
    (refreshInstance t i).id = i.id := by
  unfold refreshInstance
  repeat' split
  all_goals rfl

theorem markStale_id (clock : LogicalInstant) (dpus : List DpuRecord) (i : InstanceState) :
    (markStale clock dpus i).id = i.id := by
  unfold markStale
  split <;> rfl

theorem refreshHealth_ids (s : RuntimeState) :
    tableIds (refreshHealth s).instances = tableIds s.instances :=
  (tableIds_map (refreshInstance_id _)).trans (tableIds_map (markStale_id _ _))

theorem removeDevices_ids (event : FabricEvent) (removed : List DpuId) (s : RuntimeState) :
    tableIds (removed.foldl (removeDevice event) s).instances = tableIds s.instances := by
  induction removed generalizing s with
  | nil => rfl
  | cons d removed ih =>
    rw [List.foldl_cons, ih]
    refine tableIds_map (fun i => ?_)
    split <;> rfl

theorem checkAcknowledged_find {s : RuntimeState} {body : ExecutionAcknowledged}
    (h : checkAcknowledged s body = .ok (k, i)) :
    findInstance s.instances body.instanceId = some (k, i) := by
  unfold checkAcknowledged at h
  repeat' split at h
  all_goals first
    | contradiction
    | (cases h; assumption)

theorem checkEffect_find {s : RuntimeState} {event : FabricEvent} {report : EffectReport}
    (h : checkEffect s event report = .ok (k, i)) :
    findInstance s.instances report.instanceId = some (k, i) := by
  simp only [checkEffect] at h
  repeat' split at h
  all_goals first
    | contradiction
    | (cases h; assumption)

/-! ## §3. Extending the table. -/

/-- The identities after the replica loop: what the search misses is
appended. -/
def extendTable : List InstanceId → List InstanceId → List InstanceId
  | table, [] => table
  | table, id :: planned =>
    extendTable (if (findKey (fun x => x) table id).isSome then table else table ++ [id]) planned

/-- Every planned identity that is in the table when its turn comes is found
by the halving search. -/
def LookupsHold : List InstanceId → List InstanceId → Prop
  | _, [] => True
  | table, id :: planned =>
    (id ∈ table → (findKey (fun x => x) table id).isSome = true)
      ∧ LookupsHold (if (findKey (fun x => x) table id).isSome then table else table ++ [id])
          planned

instance : ∀ table planned, Decidable (LookupsHold table planned)
  | _, [] => inferInstanceAs (Decidable True)
  | table, id :: planned =>
    have := instDecidableLookupsHold
      (if (findKey (fun x => x) table id).isSome then table else table ++ [id]) planned
    inferInstanceAs (Decidable ((id ∈ table → _) ∧ _))

theorem extendTable_sublist : ∀ table planned, List.Sublist table (extendTable table planned)
  | _, [] => List.Sublist.refl _
  | table, id :: planned => by
      refine List.Sublist.trans ?_ (extendTable_sublist _ planned)
      split
      · exact List.Sublist.refl _
      · exact List.sublist_append_left _ _

/-- **No identity is doubled exactly when the lookups hold.** -/
theorem extendTable_nodup_iff : ∀ {table planned : List InstanceId}, table.Nodup →
    ((extendTable table planned).Nodup ↔ LookupsHold table planned)
  | _, [], h => by simp [extendTable, LookupsHold, h]
  | table, id :: planned, h => by
      simp only [extendTable, LookupsHold]
      by_cases hfound : (findKey (fun x => x) table id).isSome = true
      · simp only [hfound, if_true, implies_true, true_and]
        exact extendTable_nodup_iff h
      simp only [hfound, if_false, Bool.false_eq_true, imp_false]
      constructor
      · intro hnodup
        have hshort : (table ++ [id]).Nodup := hnodup.sublist (extendTable_sublist _ planned)
        refine ⟨?_, (extendTable_nodup_iff hshort).mp hnodup⟩
        intro hmem
        exact (List.nodup_append.mp hshort).2.2 id hmem id (by simp) rfl
      · rintro ⟨hnew, hrest⟩
        have hshort : (table ++ [id]).Nodup :=
          List.nodup_append.mpr ⟨h, by simp, by
            rintro a ha b hb rfl
            exact hnew (by simpa [List.mem_singleton.mp hb] using ha)⟩
        exact (extendTable_nodup_iff hshort).mpr hrest

/-! ## §4. Reconciliation. -/

section Reconcile

variable {s : RuntimeState} {plan : DeploymentPlan} {group : ServiceGroup} {event : FabricEvent}
  {bounds : RuntimeBounds}

/-- One turn appends the identity it does not find, and nothing else. -/
theorem reconcileReplica_ids {r' : Reconciling} {p : ServicePlan × PlannedReplica}
    (h : reconcileReplica plan group event bounds r p = .ok r') :
    tableIds r'.instances
      = extendTable (tableIds r.instances) [makeInstanceId group.id p.1.service p.2.index] := by
  have hsome := findInstance_isSome r.instances (makeInstanceId group.id p.1.service p.2.index)
  simp only [reconcileReplica] at h
  split at h
  · next hnone =>
    rw [hnone] at hsome
    split at h
    · simp at h
    split at h
    · simp at h
    injection h with h
    subst h
    simp only [extendTable, ← hsome, Option.isSome_none, Bool.false_eq_true, if_false]
    simp [tableIds, createdInstance]
  · next k i hfind =>
    rw [hfind] at hsome
    obtain ⟨hk, hid⟩ := findInstance_some hfind
    have hkeep : ∀ j : InstanceState, j.id = i.id → tableIds (r.instances.set k j)
        = extendTable (tableIds r.instances)
            [makeInstanceId group.id p.1.service p.2.index] := by
      intro j hj
      simp only [extendTable, ← hsome, Option.isSome_some, if_true, tableIds_set hk hj]
    repeat' split at h
    all_goals first
      | contradiction
      | (cases h; exact hkeep _ rfl)

theorem extendTable_append (table planned more : List InstanceId) :
    extendTable table (planned ++ more) = extendTable (extendTable table planned) more := by
  induction planned generalizing table with
  | nil => rfl
  | cons id planned ih => simp only [List.cons_append, extendTable, ih]

/-- The replica loop extends the table by its planned identities, in order. -/
theorem replicaLoop_ids {replicas : List (ServicePlan × PlannedReplica)} {r' : Reconciling}
    (h : replicas.foldlM (reconcileReplica plan group event bounds) r = .ok r') :
    tableIds r'.instances = extendTable (tableIds r.instances)
      (replicas.map (fun p => makeInstanceId group.id p.1.service p.2.index)) := by
  induction replicas generalizing r with
  | nil =>
    rw [foldlM_nil_ok] at h
    subst h
    rfl
  | cons p replicas ih =>
    obtain ⟨r₁, hr₁, hrest⟩ := foldlM_cons_ok.mp h
    rw [ih hrest, reconcileReplica_ids hr₁, ← extendTable_append]
    rfl

/-- What one turn of the second loop does. -/
inductive Quiesced (plan : DeploymentPlan) (group : ServiceGroup) (event : FabricEvent)
    (fences : FenceIssuer) (i : InstanceState) : InstanceState → FenceIssuer → Prop where
  | kept : uncovered group plan i = false → Quiesced plan group event fences i i fences
  | retired : uncovered group plan i = true → plan.kind ≠ .withdraw →
      Quiesced plan group event fences i (quiesceInstance event.instant i) fences
  | withdrawing {fence : FenceToken} {fences' : FenceIssuer} : uncovered group plan i = true →
      plan.kind = .withdraw → fences.issue i.id = .ok (fence, fences') →
      Quiesced plan group event fences i
        (withdrawalAttempt (quiesceInstance event.instant i) plan event fence) fences'

theorem quiesceUncovered_quiesced {fences fences' : FenceIssuer} {j : InstanceState}
    (h : quiesceUncovered plan group event fences i = .ok (j, fences')) :
    Quiesced plan group event fences i j fences' := by
  simp only [quiesceUncovered] at h
  repeat' split at h
  all_goals first
    | contradiction
    | cases h
  · next hkept => exact .kept (by simpa using hkept)
  · next huncovered hkind => exact .retired (by simpa using huncovered) hkind
  · next huncovered hkind _ _ hissue =>
    exact .withdrawing (by simpa using huncovered) (not_not.mp hkind) hissue

/-- The second loop, against any list that stands for the table before it. -/
theorem quiesceLoop_rule {α : Type} {P : FenceIssuer → Prop} {R S : α → InstanceState → Prop}
    (hturn : ∀ x i f j f', P f → R x i → Quiesced plan group event f i j f' → P f' ∧ S x j)
    {before : List α} {fences fences' : FenceIssuer} {after : List InstanceState}
    (hbefore : List.Forall₂ R before instances) (hfences : P fences)
    (h : quiesceLoop plan group event fences instances = .ok (after, fences')) :
    P fences' ∧ List.Forall₂ S before after := by
  induction hbefore generalizing fences after with
  | nil =>
    cases h
    exact ⟨hfences, .nil⟩
  | cons hhead _ ih =>
    simp only [quiesceLoop, bind_eq_ok, pure_eq_ok, Prod.exists, Prod.mk.injEq] at h
    obtain ⟨j, fences₁, hstep, rest, fences₂, hrest, rfl, rfl⟩ := h
    obtain ⟨hfences₁, hj⟩ := hturn _ _ _ _ _ hfences hhead (quiesceUncovered_quiesced hstep)
    obtain ⟨hfences₂, hafter⟩ := ih hfences₁ hrest
    exact ⟨hfences₂, .cons hj hafter⟩

theorem quiesceLoop_ids {fences fences' : FenceIssuer} {instances' : List InstanceState}
    (h : quiesceLoop plan group event fences instances = .ok (instances', fences')) :
    tableIds instances' = tableIds instances := by
  have hids := quiesceLoop_rule (P := fun _ => True) (R := Eq) (S := fun i j => i.id = j.id)
    (fun x i f j f' _ hx hj => ⟨trivial, by cases hj <;> rw [hx] <;> rfl⟩)
    (List.forall₂_refl instances) trivial h
  exact (map_eq_of_forall₂ hids.2).symm

theorem reconcile_ok (h : reconcile s plan group event bounds = .ok r) :
    ∃ placed : Reconciling,
      (ServicePlan.flatten plan.services).foldlM (reconcileReplica plan group event bounds)
          { instances := s.instances, fences := s.fences } = .ok placed
      ∧ quiesceLoop plan group event placed.fences placed.instances
          = .ok (r.instances, r.fences) := by
  simp only [reconcile, bind_eq_ok, pure_eq_ok, Prod.exists] at h
  obtain ⟨placed, hplaced, instances, fences, hquiesced, rfl⟩ := h
  exact ⟨placed, hplaced, hquiesced⟩

/-- **Reconciliation extends the identities by the planned ones.** -/
theorem reconcile_ids (h : reconcile s plan group event bounds = .ok r) :
    tableIds r.instances = extendTable (tableIds s.instances) (plannedIds group plan) := by
  obtain ⟨placed, hplaced, hquiesced⟩ := reconcile_ok h
  rw [quiesceLoop_ids hquiesced, replicaLoop_ids hplaced]
  rfl

end Reconcile

/-! ## §5. One event. -/

section Event

variable {s s' : RuntimeState} {event : FabricEvent} {bounds : RuntimeBounds}
  {weights : PlacementWeights}

theorem Accepted.ids (h : Accepted s event bounds weights s')
    (hkind : ∀ body, event.body ≠ .intentSubmitted body) :
    tableIds s'.instances = tableIds s.instances := by
  cases h with
  | time => exact refreshHealth_ids _
  | coordinator => exact tableIds_map (fun _ => rfl)
  | service => rfl
  | group => rfl
  | dependency => rfl
  | policy => rfl
  | topology body dpus => exact (refreshHealth_ids _).trans (removeDevices_ids _ _ _)
  | capability => rfl
  | health => exact refreshHealth_ids _
  | attached => rfl
  | lost => refine tableIds_map (fun i => ?_); split <;> rfl
  | quiesce => refine tableIds_map (fun i => ?_); split <;> rfl
  | acknowledged body k i _ hchecks =>
    exact tableIds_set (findInstance_some (checkAcknowledged_find hchecks)).1 rfl
  | failed body k i _ hchecks =>
    exact tableIds_set (findInstance_some (checkEffect_find hchecks)).1 rfl
  | withdrawn body k i _ hchecks =>
    exact tableIds_set (findInstance_some (checkEffect_find hchecks)).1 rfl
  | verified body k i _ hchecks =>
    exact tableIds_set (findInstance_some (checkEffect_find hchecks)).1 rfl
  | intent body _ _ _ _ hbody => exact absurd hbody (hkind body)

/-- The identities that an intent plans, if its checks and its plan pass. -/
def intentIds (s : RuntimeState) (event : FabricEvent) (bounds : RuntimeBounds)
    (weights : PlacementWeights) : List InstanceId :=
  match event.body with
  | .intentSubmitted body =>
    match checkIntent s body.intent with
    | .error _ => []
    | .ok group =>
      match intentPlan s event body.intent group bounds weights with
      | .error _ => []
      | .ok plan => plannedIds group plan
  | _ => []

/-- Every planned identity that the table already holds when its turn comes
is found in it. -/
def PlannedFound (s : RuntimeState) (event : FabricEvent) (bounds : RuntimeBounds)
    (weights : PlacementWeights) : Prop :=
  LookupsHold (tableIds s.instances) (intentIds s event bounds weights)

instance : Decidable (PlannedFound s event bounds weights) :=
  inferInstanceAs (Decidable (LookupsHold _ _))

/-- The well-formed instance table: sorted by identity, no identity twice. -/
def InstancesSorted (s : RuntimeState) : Prop := SortedBy InstanceState.id s.instances

instance : Decidable (InstancesSorted s) := inferInstanceAs (Decidable (SortedBy _ _))

theorem instancesSorted_iff_ids : InstancesSorted s ↔ (tableIds s.instances).Pairwise (· < ·) :=
  sortedBy_iff_map

/-- **An applied event keeps the table sorted exactly if its planned
identities are found** (an event that is no intent plans none). -/
theorem Accepted.sorted_iff (h : Accepted s event bounds weights s') (hs : InstancesSorted s) :
    InstancesSorted s' ↔ PlannedFound s event bounds weights := by
  by_cases hkind : ∃ body, event.body = .intentSubmitted body
  · cases h with
    | intent body group plan authority r hbody hgroup hplan _ hreconcile =>
      have hids : intentIds s event bounds weights = plannedIds group plan := by
        simp only [intentIds, hbody, hgroup, hplan]
      have hnodup : (tableIds s.instances).Nodup := hs.nodup
      rw [PlannedFound, hids, ← extendTable_nodup_iff hnodup, ← reconcile_ids hreconcile]
      exact sortedBy_insertionSort_iff
    | _ => obtain ⟨body', hbody'⟩ := hkind; simp_all
  · have hkind' : ∀ body, event.body ≠ .intentSubmitted body :=
      fun body hbody => hkind ⟨body, hbody⟩
    have hids : intentIds s event bounds weights = [] := by
      unfold intentIds
      split
      · next body hbody => exact absurd hbody (hkind' body)
      · rfl
    rw [instancesSorted_iff_ids, h.ids hkind', ← instancesSorted_iff_ids, PlannedFound, hids]
    exact ⟨fun _ => trivial, fun _ => hs⟩

theorem applyEvent_sorted (hs : InstancesSorted s) (hfound : PlannedFound s event bounds weights) :
    InstancesSorted (applyEvent s event bounds weights).2 := by
  rcases applyEvent_cases s event bounds weights with (⟨-, h⟩ | ⟨-, h⟩) | ⟨-, -, h⟩
  · rw [h]; exact hs
  · exact (h.sorted_iff hs).mpr hfound
  · rw [h]; exact hs

end Event

end DpuFabric
