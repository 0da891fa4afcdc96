/-
  Runtime.Continuity — NO CONTINUITY ACROSS A LOSS WITHOUT NEW EVIDENCE.

  The instant of a loss is kept in `health_observed_at` of the device's own
  record.  Every device report is measured against it, so it only moves
  forward — but an observed topology REPLACES the record, and the instant
  with it.  As long as no topology moves it back behind the loss, what serves
  on the device has been proven anew, on health evidence that is not older
  than the loss (`NoContinuity`).
-/
import DpuFabric.Runtime.Traced

namespace DpuFabric

open Lib Relation

/-! ## §1. Instances. -/

section Steps

variable {s : RuntimeState} {event : FabricEvent} {bounds : RuntimeBounds}
  {weights : PlacementWeights} {i j : InstanceState}

/-- Outside a refresh, no step makes an instance fresh or moves a fresh one. -/
theorem InstanceStep.fresh (h : InstanceStep s event bounds weights i j)
    (hquiet : ¬ RefreshesHealth event) (hj : j.healthFresh = true) :
    i.healthFresh = true ∧ j.dpu = i.dpu := by
  cases h with
  | refreshed hbody => exact absurd hbody hquiet
  | stale hbody => exact absurd hbody hquiet
  | fenced => simp [fenceInstance] at hj
  | lost => simp [loseInstance, fenceInstance] at hj
  | quiesced => simp [quiesceInstance] at hj
  | failed => simp [failInstance] at hj
  | withdrawn => simp [withdrawInstance, fenceInstanceWithoutState] at hj
  | replaced => simp [replacedInstance, authorizeAttempt, fenceInstance] at hj
  | retired => simp [quiesceInstance] at hj
  | withdrawing => simp [withdrawalAttempt, quiesceInstance] at hj
  | acknowledged => exact ⟨hj, rfl⟩
  | verified => exact ⟨hj, rfl⟩
  | reattempted => exact ⟨hj, rfl⟩
  | covered => exact ⟨hj, rfl⟩

theorem steps_fresh (hquiet : ¬ RefreshesHealth event)
    (h : ReflTransGen (InstanceStep s event bounds weights) i j) (hj : j.healthFresh = true) :
    i.healthFresh = true ∧ j.dpu = i.dpu := by
  induction h with
  | refl => exact ⟨hj, rfl⟩
  | tail _ hstep ih =>
    obtain ⟨hk, hdpu⟩ := hstep.fresh hquiet hj
    exact ⟨(ih hk).1, hdpu.trans (ih hk).2⟩

end Steps

theorem refreshInstance_fresh {t : TopologySnapshot} {i : InstanceState}
    (h : (refreshInstance t i).healthFresh = true) :
    ∃ r, t.find i.dpu = some r ∧ r.healthFresh = true := by
  unfold refreshInstance at h
  split at h
  · simp at h
  next r hr =>
  split at h
  · simp at h
  split at h
  · next hhealthy => exact ⟨r, hr, hhealthy.1⟩
  · simp at h

/-- What `refresh_health` says about an instance: nothing else changes, and a
fresh instance stands on a device with fresh health. -/
theorem refreshHealth_instance {s : RuntimeState} {j : InstanceState}
    (hj : j ∈ (refreshHealth s).instances) :
    (∃ i ∈ s.instances, j.withoutHealth = i.withoutHealth)
      ∧ (j.healthFresh = true → ∃ r, (refreshHealth s).topology.find j.dpu = some r
          ∧ r.healthFresh = true) := by
  obtain ⟨k, hk, rfl⟩ := List.mem_map.mp hj
  obtain ⟨i, hi, rfl⟩ := List.mem_map.mp hk
  refine ⟨⟨i, hi, by rw [refreshInstance_withoutHealth, markStale_withoutHealth]⟩, fun hfresh => ?_⟩
  rw [InstanceState.withoutHealth_dpu (refreshInstance_withoutHealth _ _)]
  exact refreshInstance_fresh hfresh

/-! ## §2. The invariant. -/

/-- Since the loss of device `d` at `lostAt`, recorded at length `k` of the
trace: the record keeps the instant, fresh instances stand on newer evidence,
and Verified ones were reported on. -/
structure NoContinuity (d : DpuId) (lostAt : LogicalInstant) (k : Nat)
    (t : List (Action FileName Mark)) (s : RuntimeState) : Prop where
  logged : k ≤ t.length
  record : ∀ r, s.topology.find d = some r → lostAt ≤ r.healthObservedAt
  fresh : ∀ i ∈ s.instances, i.dpu = d → i.healthFresh = true →
    ∃ r, s.topology.find d = some r ∧ lostAt ≤ r.healthEvidence.observedAt
  proven : ∀ i ∈ s.instances, i.dpu = d → i.state = .verified → ReportedSince k t i.id

section Invariant

variable {d : DpuId} {lostAt : LogicalInstant} {k : Nat} {t : List (Action FileName Mark)}
  {s s' : RuntimeState} {event : FabricEvent} {bounds : RuntimeBounds} {weights : PlacementWeights}

theorem NoContinuity.mono (h : NoContinuity d lostAt k t s) (u : List (Action FileName Mark)) :
    NoContinuity d lostAt k (t ++ u) s where
  logged := h.logged.trans (by simp)
  record := h.record
  fresh := h.fresh
  proven i hi hd hv := (h.proven i hi hd hv).mono u

theorem refreshHealth_fresh
    (hrecord : ∀ r, (refreshHealth s).topology.find d = some r → lostAt ≤ r.healthObservedAt) :
    ∀ i ∈ (refreshHealth s).instances, i.dpu = d → i.healthFresh = true →
      ∃ r, (refreshHealth s).topology.find d = some r ∧ lostAt ≤ r.healthEvidence.observedAt := by
  rintro i hi rfl hfresh
  obtain ⟨r', hr', hrfresh⟩ := (refreshHealth_instance hi).2 hfresh
  refine ⟨r', hr', (hrecord r' hr').trans ?_⟩
  rw [refreshHealth_find, Option.map_eq_some_iff] at hr'
  obtain ⟨r, hr, rfl⟩ := hr'
  simp only [refreshDpu, DpuRecord.healthEvidenceFresh, Bool.and_eq_true, decide_eq_true_eq]
    at hrfresh
  exact hrfresh.2.2

theorem NoContinuity.refreshHealth (h : NoContinuity d lostAt k t s) :
    NoContinuity d lostAt k t (refreshHealth s) := by
  have hrecord : ∀ r, (DpuFabric.refreshHealth s).topology.find d = some r →
      lostAt ≤ r.healthObservedAt := by
    intro r hr
    rw [refreshHealth_find, Option.map_eq_some_iff] at hr
    obtain ⟨r, hr, rfl⟩ := hr
    exact h.record r hr
  refine ⟨h.logged, hrecord, refreshHealth_fresh hrecord, fun i hi hd hv => ?_⟩
  obtain ⟨⟨j, hj, hsame⟩, -⟩ := refreshHealth_instance hi
  rw [InstanceState.withoutHealth_id hsame]
  exact h.proven j hj ((InstanceState.withoutHealth_dpu hsame).symm.trans hd)
    ((InstanceState.withoutHealth_state hsame).symm.trans hv)

/-! ## §3. One event. -/

/-- A topology that lists the device does not move its invalidation behind
the loss. -/
def KeepsLoss (d : DpuId) (lostAt : LogicalInstant) (event : FabricEvent) : Prop :=
  match event.body with
  | .topologyObserved body => ∀ r ∈ body.snapshot.dpus, r.id = d → lostAt ≤ r.healthObservedAt
  | _ => True

instance (d : DpuId) (lostAt : LogicalInstant) (event : FabricEvent) :
    Decidable (KeepsLoss d lostAt event) := by
  unfold KeepsLoss
  generalize event.body = body
  apply @FabricEventBody.casesOn _ body <;> infer_instance

/-- The invalidation instant of the record never moves behind the loss. -/
theorem DeviceStep.record {x y : Option DpuRecord} (h : DeviceStep s event d x y)
    (hguard : KeepsLoss d lostAt event) (hinstant : lostAt ≤ event.instant)
    (hx : ∀ r, x = some r → lostAt ≤ r.healthObservedAt) :
    ∀ r, y = some r → lostAt ≤ r.healthObservedAt := by
  rintro r' rfl
  cases h with
  | kept => exact hx r' rfl
  | capability _ _ r => exact hx r rfl
  | health _ r _ _ hsince => exact (hx r rfl).trans hsince
  | attached _ r _ _ hsince => exact (hx r rfl).trans hsince
  | lost => exact hinstant
  | observed body _ r _ hbody hr hid htaken =>
    rw [KeepsLoss, hbody] at hguard
    rw [htaken.observedAt]
    exact hguard r hr hid

/-- Outside a refresh the health evidence of the record stays. -/
theorem DeviceStep.evidence {x y : Option DpuRecord} (h : DeviceStep s event d x y)
    (hquiet : ¬ RefreshesHealth event)
    (hx : ∃ r, x = some r ∧ lostAt ≤ r.healthEvidence.observedAt) :
    ∃ r, y = some r ∧ lostAt ≤ r.healthEvidence.observedAt := by
  obtain ⟨r, rfl, hr⟩ := hx
  cases h with
  | health _ _ hbody => exact absurd (by rw [RefreshesHealth, hbody]; trivial) hquiet
  | observed _ _ _ _ hbody => exact absurd (by rw [RefreshesHealth, hbody]; trivial) hquiet
  | removed _ _ hbody => exact absurd (by rw [RefreshesHealth, hbody]; trivial) hquiet
  | _ => exact ⟨_, rfl, hr⟩

theorem Accepted.refreshes (h : Accepted s event bounds weights s')
    (hevent : RefreshesHealth event) : ∃ t, s' = refreshHealth t := by
  cases h with
  | time => exact ⟨_, rfl⟩
  | topology => exact ⟨_, rfl⟩
  | health => exact ⟨_, rfl⟩
  | _ => exact absurd hevent (by simp_all [RefreshesHealth])

theorem Accepted.noContinuity (h : Accepted s event bounds weights s')
    (hs : NoContinuity d lostAt k t s) (hinstant : lostAt ≤ event.instant)
    (hguard : KeepsLoss d lostAt event) {result : ApplyResult} (happlied : result.applied = true) :
    NoContinuity d lostAt k (t ++ [.mark (.applied event result)]) s' := by
  obtain ⟨x, hstep, hfind⟩ := h.device d
  have hrecord : ∀ r, s'.topology.find d = some r → lostAt ≤ r.healthObservedAt := by
    have hx := hstep.record hguard hinstant hs.record
    intro r hr
    rcases hfind with hfind | hfind
    · exact hx r (hfind.symm.trans hr)
    rw [hfind, Option.map_eq_some_iff] at hr
    obtain ⟨r₀, hr₀, rfl⟩ := hr
    exact hx r₀ hr₀
  refine ⟨hs.logged.trans (by simp), hrecord, ?_, fun i hi hd hv => ?_⟩
  · by_cases hrefreshes : RefreshesHealth event
    · obtain ⟨s₀, rfl⟩ := h.refreshes hrefreshes
      exact refreshHealth_fresh hrecord
    intro i hi hd hfresh
    obtain ⟨j, hj, hsteps⟩ := h.entries.origin hi
    obtain ⟨hjfresh, hdpu⟩ := steps_fresh hrefreshes hsteps hfresh
    rcases hj with hj | hcreated
    · obtain ⟨r, hr, hevidence⟩ := hstep.evidence hrefreshes
        (hs.fresh j hj (hdpu.symm.trans hd) hjfresh)
      rcases hfind with hfind | hfind
      · exact ⟨r, hfind.trans hr, hevidence⟩
      · exact ⟨_, hfind.trans (congrArg _ hr), hevidence⟩
    · cases hcreated
      simp [createdInstance] at hjfresh
  · obtain ⟨j, hj, hsteps⟩ := h.entries.origin hi
    rcases steps_verified_where hsteps hv with ⟨hjv, hdpu⟩ | hreports
    · rcases hj with hj | hcreated
      · rw [steps_id_eq hsteps]
        exact (hs.proven j hj (hdpu.symm.trans hd) hjv).mono _
      · exact absurd hjv hcreated.unproven.state
    · refine ⟨event, ?_, hreports⟩
      rw [List.drop_append_of_le_length hs.logged, appliedEvents_append]
      exact List.mem_append_right _ (by simp [appliedEvents, happlied])

theorem NoContinuity.bookkept
    (h : NoContinuity d lostAt k t (applyEvent s event bounds weights).2) :
    NoContinuity d lostAt k t (advanceState s event bounds weights) :=
  advanceState_rule (fun _ _ _ h => ⟨h.logged, h.record, h.fresh, h.proven⟩)
    (fun _ _ _ h => ⟨h.logged, h.record, h.fresh, h.proven⟩)
    (fun _ _ h => ⟨h.logged, h.record, h.fresh, h.proven⟩) (fun _ h => h.refreshHealth) h

theorem NoContinuity.advanceState (hs : NoContinuity d lostAt k t s)
    (hinstant : lostAt ≤ event.instant) (hguard : KeepsLoss d lostAt event) :
    NoContinuity d lostAt k (t ++ [.mark (.applied event (applyEvent s event bounds weights).1)])
      (advanceState s event bounds weights) := by
  refine NoContinuity.bookkept ?_
  rcases applyEvent_cases s event bounds weights with (⟨_, hsame⟩ | ⟨happlied, hacc⟩) | ⟨_, _, hfenced⟩
  · rw [hsame]
    exact hs.mono _
  · exact hacc.noContinuity hs hinstant hguard happlied
  · rw [hfenced]
    exact ⟨(hs.mono _).logged, hs.record, hs.fresh, (hs.mono _).proven⟩

end Invariant

/-! ## §4. Every run. -/

/-- The move is no restart, and the event it takes up does not move the
device's invalidation behind the loss. -/
def Continues (d : DpuId) (lostAt : LogicalInstant) (s : System) (m : Move) : Prop :=
  (∀ config, m.op ≠ .start config) ∧ ∀ pe, s.next = some pe → KeepsLoss d lostAt pe.2

/-- The move is no restart. -/
def SameLifetime (_ : System) (m : Move) : Prop := ∀ config, m.op ≠ .start config

instance (s : System) (m : Move) : Decidable (SameLifetime s m) :=
  match h : m.op with
  | .start config => isFalse (fun hne => hne config h)
  | .call _ | .exit => isTrue (fun _ hop => nomatch h.symm.trans hop)

instance (d : DpuId) (lostAt : LogicalInstant) (s : System) (m : Move) :
    Decidable (Continues d lostAt s m) :=
  have : Decidable (∀ config, m.op ≠ .start config) :=
    inferInstanceAs (Decidable (SameLifetime s m))
  inferInstanceAs (Decidable (_ ∧ _))

theorem lost_noContinuity {s : RuntimeState} {event : FabricEvent} {body : DpuLost}
    {bounds : RuntimeBounds} {weights : PlacementWeights} (hbody : event.body = .dpuLost body)
    (happlied : (applyEvent s event bounds weights).1.applied = true)
    (t : List (Action FileName Mark)) :
    NoContinuity body.dpu event.instant t.length t (advanceState s event bounds weights) := by
  refine NoContinuity.bookkept ?_
  simp only [applyEvent, hbody, reduceLost] at happlied ⊢
  cases hchecks : lostRefusal s body with
  | some refusal =>
    rw [hchecks] at happlied
    simp [guardedBy, Refusal.toResult] at happlied
  | none =>
    obtain ⟨r, hr, -⟩ := lostRefusal_none hchecks
    have hrecord : (loseDevice s event body.dpu).topology.find body.dpu
        = some (lostRecord event r) := by
      refine (TopologySnapshot.find_update s.topology body.dpu (f := lostRecord event)
        (fun _ => rfl) body.dpu).trans ?_
      rw [if_pos rfl, hr]
      rfl
    have hlost : ∀ i ∈ (loseDevice s event body.dpu).instances, i.dpu = body.dpu →
        i.healthFresh = false ∧ i.state = .lost := by
      intro i hi hd
      obtain ⟨j, -, rfl⟩ := List.mem_map.mp (show i ∈ s.instances.map _ from hi)
      by_cases hj : j.dpu = body.dpu
      · rw [if_pos hj]
        exact ⟨rfl, rfl⟩
      · rw [if_neg hj] at hd
        exact absurd hd hj
    refine ⟨le_rfl, fun r' hr' => ?_, fun i hi hd hfresh => ?_, fun i hi hd hv => ?_⟩
    · have heq := Option.some.inj (hrecord.symm.trans hr')
      rw [← heq]
      exact le_rfl
    · exact absurd ((hlost i hi hd).1.symm.trans hfresh) (by simp)
    · exact absurd ((hlost i hi hd).2.symm.trans hv) (by simp)

/-- The invariant of a run after the loss. -/
def SinceLoss (d : DpuId) (lostAt : LogicalInstant) (k : Nat) (t : List (Action FileName Mark))
    (s : RuntimeState) : Prop :=
  lostAt ≤ s.watermark ∧ NoContinuity d lostAt k t s

/-- The system after the loss: events come in order, and the invariant
holds. -/
structure System.AfterLoss (d : DpuId) (lostAt : LogicalInstant) (k : Nat) (s : System) : Prop where
  ordered : s.Ordered
  traced : s.Traced (SinceLoss d lostAt k)

theorem step_afterLoss {d : DpuId} {lostAt : LogicalInstant} {k : Nat} {s : System} {m : Move}
    (hs : s.AfterLoss d lostAt k) (hm : Continues d lostAt s m) :
    (s.step m).AfterLoss d lostAt k := by
  refine ⟨step_ordered hs.ordered m, System.step_traced (fun _ _ u h => ⟨h.1, h.2.mono u⟩)
    (fun _ _ _ _ h => ⟨h.1, h.2.logged, h.2.record, h.2.fresh, h.2.proven⟩)
    (fun _ _ h => ⟨h.1, h.2.refreshHealth⟩) hs.traced ?_ ?_⟩
  · rintro config faults rt w rfl - -
    exact absurd rfl (hm.1 config)
  rintro p event faults rfl hnext l n u -
  obtain ⟨hwatermark, hp⟩ := hs.traced p (System.next_process hnext)
  have hinstant : lostAt ≤ event.instant := hwatermark.trans (hs.ordered.ahead hnext)
  refine ⟨?_, ?_⟩
  · rw [advanceState_watermark]
    exact hinstant.trans (le_max_right _ _)
  have hcounted : NoContinuity d lostAt k (s.trace ++ u) (p.runtime.state.recounted l n) :=
    ⟨(hp.mono u).logged, hp.record, hp.fresh, (hp.mono u).proven⟩
  exact hcounted.advanceState hinstant (hm.2 (p, event) hnext)

/-- **No continuity across a loss without new evidence.**  In every run
without restart after an applied loss, as long as no topology moves the
device's invalidation behind the loss, an instance that serves on the device
was reported on after the loss, and the device's health evidence is not older
than the loss. -/
theorem no_continuity_across_loss (pre : List Move) (m : Move) (event : FabricEvent)
    (body : DpuLost) (hbody : event.body = .dpuLost body)
    (happlies : event ∈ (System.after {} pre).applies m) (post : List Move)
    (hpost : Meets System.step (Continues body.dpu event.instant)
      ((System.after {} pre).step m) post)
    (p : Process) (hp : (System.after ((System.after {} pre).step m) post).process = some p) :
    ∀ i ∈ p.runtime.state.instances, i.dpu = body.dpu → i.serving = true →
      ReportedSince ((System.after {} pre).step m).trace.length
          (System.after ((System.after {} pre).step m) post).trace i.id
        ∧ ∃ r, p.runtime.state.topology.find body.dpu = some r
            ∧ event.instant ≤ r.healthEvidence.observedAt := by
  have hstart : ((System.after {} pre).step m).AfterLoss body.dpu event.instant
      ((System.after {} pre).step m).trace.length := by
    refine ⟨step_ordered (run_ordered pre) m, fun q hq => ?_⟩
    cases m with
    | crash op faults n => simp [System.step] at hq
    | run op faults =>
      obtain ⟨p₀, l, n, q', -, -, happlied, hq', hstate⟩ := System.applies_run happlies
      obtain rfl := Option.some.inj (hq'.symm.trans hq)
      rw [hstate]
      refine ⟨?_, lost_noContinuity hbody happlied _⟩
      rw [advanceState_watermark]
      exact le_max_right _ _
  have hlast := run_invariant (fun _ _ => step_afterLoss) hstart hpost
  obtain ⟨-, hinv⟩ := hlast.traced p hp
  intro i hi hd hserving
  simp only [InstanceState.serving, Bool.and_eq_true, decide_eq_true_eq] at hserving
  exact ⟨hinv.proven i hi hd hserving.1.1, hinv.fresh i hi hd hserving.2⟩

/-- Service `a` runs on device `d`, which is then lost. -/
def lossMoves : List Move :=
  .run (.start sampleConfig) [] ::
    [sampleEvent 1 (sampleTopology ["d"]), sampleEvent 2 samplePolicy,
     sampleEvent 3 (sampleService "a" none), sampleEvent 4 (sampleGroup "g" ["a"]),
     sampleEvent 5 (sampleIntent .deploy "g" 1 ["a"]),
     sampleEvent 6 (sampleEffect "g" "a" .deploy 1 1 6)].flatMap submitMoves

/-- The loss, staged and released. -/
def lossStaged : List Move :=
  (submitMoves (sampleEvent 7 (.dpuLost { dpu := .literal (txt "d") }))).take 2

/-- The service is deployed again and reported as running. -/
def redeployMoves : List Move :=
  [sampleEvent 9 (sampleIntent .deploy "g" 2 ["a"]),
   sampleEvent 10 (sampleEffect "g" "a" .deploy 2 2 10)].flatMap submitMoves

/-- A topology in which the device is back, healthy on evidence of the given
instant. -/
def deviceBack (observedAt : UInt64) : FabricEventBody :=
  .topologyObserved { snapshot := {
    generation := ⟨2⟩
    dpus := [{ sampleDevice "d" with
      health := .healthy
      healthObservedAt := ⟨observedAt⟩
      healthEvidence := { sampleEvidence with observedAt := ⟨observedAt⟩ } }] } }

/-- What happens after the loss, up to the redeployment. -/
def returnMoves (observedAt : UInt64) : List Move :=
  [.run (.call .flushEnd) []] ++ submitMoves (sampleEvent 8 (deviceBack observedAt)) ++ redeployMoves

/-- The system right after the loss. -/
def lostSystem : System :=
  (System.after {} (lossMoves ++ lossStaged)).step (.run (.call .flushEvent) [])

theorem returnMoves_runs : (System.after lostSystem (returnMoves 8)).process.isSome = true := by
  decide +kernel

/-- With health evidence from after the loss, the device serves again on that
evidence. -/
theorem continuity_on_new_evidence :
    (∃ i ∈ ((System.after lostSystem (returnMoves 8)).process.get
        returnMoves_runs).runtime.state.instances,
      i.dpu = .literal (txt "d") ∧ i.serving = true)
      ∧ ∀ i ∈ ((System.after lostSystem (returnMoves 8)).process.get
          returnMoves_runs).runtime.state.instances,
        i.dpu = .literal (txt "d") → i.serving = true →
          ReportedSince lostSystem.trace.length (System.after lostSystem (returnMoves 8)).trace i.id
            ∧ ∃ r, ((System.after lostSystem (returnMoves 8)).process.get
                returnMoves_runs).runtime.state.topology.find (.literal (txt "d")) = some r
                ∧ ⟨7⟩ ≤ r.healthEvidence.observedAt :=
  ⟨by decide +kernel,
    no_continuity_across_loss (lossMoves ++ lossStaged) (.run (.call .flushEvent) [])
      (sampleEvent 7 (.dpuLost { dpu := .literal (txt "d") })) { dpu := .literal (txt "d") } rfl
      (by decide +kernel) (returnMoves 8) (by decide +kernel) _
      (Option.some_get returnMoves_runs).symm⟩

/-- The system serves on the device, on health evidence older than the
instant. -/
def servesOnOlder (d : DpuId) (instant : LogicalInstant) (s : System) : Bool :=
  s.process.any (fun p => p.runtime.state.instances.any (fun i =>
    decide (i.dpu = d) && i.serving
      && (p.runtime.state.topology.find d).all (fun r =>
        decide (r.healthEvidence.observedAt < instant))))

/-- A topology that lists the device with its old record makes evidence from
before the loss support serving again. -/
theorem continuity_on_old_evidence :
    ¬ ∀ (pre : List Move) (m : Move) (event : FabricEvent) (body : DpuLost),
      event.body = .dpuLost body → event ∈ (System.after {} pre).applies m →
      ∀ post, Meets System.step SameLifetime ((System.after {} pre).step m) post →
      ∀ p, (System.after ((System.after {} pre).step m) post).process = some p →
      ∀ i ∈ p.runtime.state.instances, i.dpu = body.dpu → i.serving = true →
        ReportedSince ((System.after {} pre).step m).trace.length
            (System.after ((System.after {} pre).step m) post).trace i.id
          ∧ ∃ r, p.runtime.state.topology.find body.dpu = some r
              ∧ event.instant ≤ r.healthEvidence.observedAt := by
  intro h
  have hbad : servesOnOlder (.literal (txt "d")) ⟨7⟩ (System.after lostSystem (returnMoves 0))
      = true := by decide +kernel
  obtain ⟨p, hp, hany⟩ := (Option.any_eq_true _ _).mp hbad
  obtain ⟨i, hi, hserves⟩ := List.any_eq_true.mp hany
  simp only [Bool.and_eq_true, decide_eq_true_eq] at hserves
  obtain ⟨⟨hd, hserving⟩, hall⟩ := hserves
  obtain ⟨-, r, hr, hle⟩ := h (lossMoves ++ lossStaged) (.run (.call .flushEvent) [])
    (sampleEvent 7 (.dpuLost { dpu := .literal (txt "d") })) { dpu := .literal (txt "d") } rfl
    (by decide +kernel) (returnMoves 0) (by decide +kernel) p hp i hi hd hserving
  rw [hr] at hall
  exact absurd hle (not_le.mpr (of_decide_eq_true hall))

end DpuFabric
