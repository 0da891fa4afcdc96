/-
  Runtime.Onward — ACCEPTED GENERATIONS NEVER REGRESS IN A PROCESS.

  `Onward s t` compares two states of one process: generations, epoch, clock
  and watermark are no lower, and every declared service is still declared at
  a version that is no lower.  Whatever a process does leads onward
  (`run_onward`), and since an intent other than a withdrawal is accepted
  only above the deployment generation, no two of them share one.
-/
import DpuFabric.Runtime.Catalogue
import DpuFabric.Runtime.Continuity
import DpuFabric.Runtime.Rollback

namespace DpuFabric

open Lib

/-! ## §1. The order of versions. -/

/-- A version as a key: a release comes after its own pre-releases. -/
def ServiceVersion.key (v : ServiceVersion) :
    Nat ×ₗ Nat ×ₗ Nat ×ₗ Bool ×ₗ List Nat :=
  toLex (v.major.toNat, toLex (v.minor.toNat, toLex (v.patch.toNat,
    toLex (decide (v.prerelease = []), Text.codes v.prerelease))))

theorem ServiceVersion.less_iff (a b : ServiceVersion) : a.less b = true ↔ a.key < b.key := by
  simp only [ServiceVersion.key, Prod.Lex.toLex_lt_toLex, ServiceVersion.less,
    UInt32.toNat_inj, ← UInt32.lt_iff_toNat_lt]
  by_cases hmajor : a.major = b.major
  · by_cases hminor : a.minor = b.minor
    · by_cases hpatch : a.patch = b.patch
      · by_cases hsame : a.prerelease = b.prerelease
        · simp [hmajor, hminor, hpatch, hsame]
        by_cases ha : a.prerelease = []
        · have hb : b.prerelease ≠ [] := fun hb => hsame (ha.trans hb.symm)
          simp [hmajor, hminor, hpatch, ha, hb]
        by_cases hb : b.prerelease = []
        · simp [hmajor, hminor, hpatch, ha, hb]
        · simp [hmajor, hminor, hpatch, hsame, ha, hb]
      · simp [hmajor, hminor, hpatch]
    · simp [hmajor, hminor]
  · simp [hmajor]

theorem ServiceVersion.less_eq_false_iff (a b : ServiceVersion) :
    a.less b = false ↔ b.key ≤ a.key := by
  rw [← Bool.not_eq_true, less_iff]
  exact not_lt (a := a.key) (b := b.key)

/-! ## §2. Onward. -/

/-- The second state is no step back behind the first. -/
structure Onward (s t : RuntimeState) : Prop where
  topology : s.topologyGeneration ≤ t.topologyGeneration
  capability : s.capabilityGeneration ≤ t.capabilityGeneration
  policy : s.policyGeneration ≤ t.policyGeneration
  deployment : s.deploymentGeneration ≤ t.deploymentGeneration
  epoch : s.epoch ≤ t.epoch
  clock : s.clock ≤ t.clock
  watermark : s.watermark ≤ t.watermark
  services : ∀ id d, findService s.services id = some d →
    ∃ d', findService t.services id = some d' ∧ d'.version.less d.version = false

theorem Onward.refl (s : RuntimeState) : Onward s s where
  topology := le_rfl
  capability := le_rfl
  policy := le_rfl
  deployment := le_rfl
  epoch := le_rfl
  clock := le_rfl
  watermark := le_rfl
  services _ d h := ⟨d, h, (ServiceVersion.less_eq_false_iff _ _).mpr le_rfl⟩

theorem Onward.trans {s t u : RuntimeState} (h : Onward s t) (h' : Onward t u) : Onward s u where
  topology := h.topology.trans h'.topology
  capability := h.capability.trans h'.capability
  policy := h.policy.trans h'.policy
  deployment := h.deployment.trans h'.deployment
  epoch := h.epoch.trans h'.epoch
  clock := h.clock.trans h'.clock
  watermark := h.watermark.trans h'.watermark
  services id d hd := by
    obtain ⟨d', hd', hless⟩ := h.services id d hd
    obtain ⟨d'', hd'', hless'⟩ := h'.services id d' hd'
    rw [ServiceVersion.less_eq_false_iff] at hless hless'
    exact ⟨d'', hd'', (ServiceVersion.less_eq_false_iff _ _).mpr (hless.trans hless')⟩

/-! ## §3. One event. -/

section Event

variable {s t : RuntimeState} {event : FabricEvent} {bounds : RuntimeBounds}
  {weights : PlacementWeights}

theorem policyRefusal_generation {policy : PolicyState} (h : policyRefusal s event policy = none) :
    s.policyGeneration ≤ policy.generation := by
  unfold policyRefusal at h
  split at h
  · contradiction
  split at h
  · contradiction
  · next hlow => exact not_lt.mp hlow

theorem topologyRefusal_generation {snapshot : TopologySnapshot}
    (h : topologyRefusal s snapshot bounds = none) :
    s.topologyGeneration ≤ snapshot.generation := by
  unfold topologyRefusal at h
  split at h
  · contradiction
  split at h
  · contradiction
  · next hlow => exact not_lt.mp hlow

/-- **An accepted event leads onward.** -/
theorem Accepted.onward (hacc : Accepted s event bounds weights t) (h : Catalogued s) :
    Onward s t := by
  have hrefl := Onward.refl s
  cases hacc with
  | time body hbody hclock => exact { hrefl with clock := hclock }
  | coordinator body fences hbody hepoch => exact { hrefl with epoch := hepoch }
  | service body hbody hchecks =>
    refine { hrefl with services := fun id d hd => ?_ }
    show ∃ d', findService (declareService s.services body.service) id = some d' ∧ _
    rw [findService_declare h.services]
    by_cases hid : id = body.service.id
    · rw [if_pos hid]
      rw [hid] at hd
      exact ⟨_, rfl, serviceRefusal_version hchecks hd⟩
    · rw [if_neg hid]
      exact hrefl.services id d hd
  | policy body hbody hchecks =>
    exact { hrefl with policy := policyRefusal_generation hchecks }
  | topology body dpus hbody hchecks hdpus =>
    -- the removed devices leave every other field alone
    have hkeep := @removeDevices_keep _
      (fun s => (s.topologyGeneration, s.policyGeneration, s.deploymentGeneration, s.epoch,
        s.clock, s.watermark, s.services)) event (fun _ _ => rfl)
      ((s.topology.dpus.filter fun d =>
        (TopologySnapshot.find { body.snapshot with dpus } d.id).isNone).map DpuRecord.id)
      { s with topology := { body.snapshot with dpus },
               topologyGeneration := body.snapshot.generation }
    simp only [Prod.mk.injEq] at hkeep
    obtain ⟨htopology, hpolicy, hdeployment, hepoch, hclock, hwatermark, hservices⟩ := hkeep
    exact
      { topology := (topologyRefusal_generation hchecks).trans htopology.ge
        capability := (le_highestCapability _ _).1
        policy := hpolicy.ge
        deployment := hdeployment.ge
        epoch := hepoch.ge
        clock := hclock.ge
        watermark := hwatermark.ge
        services := fun id d hd => hrefl.services id d hd |>.imp fun d' hd' =>
          ⟨by rw [← hd'.1]; exact congrArg (findService · id) hservices, hd'.2⟩ }
  | capability body capabilities hbody hchecks =>
    refine { hrefl with capability := ?_ }
    show s.capabilityGeneration ≤ if _ then _ else _
    split
    · next hlt => exact hlt.le
    · exact le_rfl
  | intent body group plan authority r hbody hgroup hplan =>
    have hgeneration := (intentPlan_generation hplan).1
    refine { hrefl with deployment := ?_ }
    exact (checkIntent_generation hgroup).2.1.trans hgeneration.ge
  | _ => exact { hrefl with }

theorem applyEvent_onward (h : Catalogued s) (event : FabricEvent) (bounds : RuntimeBounds)
    (weights : PlacementWeights) : Onward s (applyEvent s event bounds weights).2 := by
  rcases applyEvent_cases s event bounds weights with (⟨_, hsame⟩ | ⟨_, hacc⟩) | ⟨_, _, hfenced⟩
  · rw [hsame]
    exact .refl s
  · exact hacc.onward h
  · rw [hfenced]
    exact { Onward.refl s with }

theorem advanceState_onward (h : Catalogued s) (event : FabricEvent) (bounds : RuntimeBounds)
    (weights : PlacementWeights) : Onward s (advanceState s event bounds weights) := by
  have happlied := applyEvent_onward h event bounds weights
  simp only [advanceState]
  generalize applyEvent s event bounds weights = out at happlied ⊢
  have hraised : Onward out.2 (raiseWatermark out.2 event) := by
    unfold raiseWatermark
    split
    · next hlt => exact { Onward.refl out.2 with watermark := hlt.le }
    · exact .refl _
  have hfollowed : ∀ u, Onward u (followClock u event) := by
    intro u
    unfold followClock
    split
    · next hlt => exact { Onward.refl u with clock := hlt.le }
    · exact .refl u
  have hrecorded : ∀ u d n, Onward u (recordDecision u d n) := by
    intro u d n
    unfold recordDecision
    split
    all_goals exact { Onward.refl u with }
  exact ((happlied.trans hraised).trans (hfollowed _)).trans (hrecorded _ _ _)

end Event

theorem recounted_onward (s : RuntimeState) (l : TruncationLedger) (n : UInt64) :
    Onward s (s.recounted l n) := { Onward.refl s with }

/-! ## §4. Every run of a process. -/

/-- The state is onward from a fixed one, and its catalogue is in order. -/
def OnwardFrom (base : RuntimeState) (_ : List (Action FileName Mark)) (t : RuntimeState) : Prop :=
  Onward base t ∧ Catalogued t

theorem step_onward {base : RuntimeState} {s : System} {m : Move}
    (hs : s.Traced (OnwardFrom base)) (hm : SameLifetime s m) :
    (s.step m).Traced (OnwardFrom base) := by
  refine System.step_traced (fun _ _ _ h => h) ?_ ?_ hs ?_ ?_
  · rintro t u l n ⟨honward, hcatalogue⟩
    exact ⟨honward.trans (recounted_onward u l n), hcatalogue.congr rfl⟩
  · rintro t u ⟨honward, hcatalogue⟩
    exact ⟨honward.trans { Onward.refl u with }, hcatalogue.congr rfl⟩
  · rintro config faults rt w rfl - -
    exact absurd rfl (hm config)
  intro p event faults _ hnext l n u _
  obtain ⟨honward, hcatalogue⟩ := hs p (System.next_process hnext)
  have hcounted : Catalogued (p.runtime.state.recounted l n) := hcatalogue.congr rfl
  refine ⟨(honward.trans (recounted_onward _ l n)).trans
    (advanceState_onward hcounted event _ _), ?_⟩
  exact catalogued_lasting.core (core_advanceState ..).symm
    (catalogued_lasting.event _ _ trivial hcounted)

/-- **A process only goes onward.** -/
theorem run_onward {s : System} {moves : List Move} (hs : s.Holds Catalogued)
    (hmoves : Meets System.step SameLifetime s moves) {p q : Process} (hp : s.process = some p)
    (hq : (s.after moves).process = some q) : Onward p.runtime.state q.runtime.state := by
  have hstart : s.Traced (OnwardFrom p.runtime.state) := by
    intro p' hp'
    obtain rfl := Option.some.inj (hp.symm.trans hp')
    exact ⟨.refl _, hs p hp⟩
  exact (run_invariant (fun _ _ => step_onward) hstart hmoves q hq).1

/-- The move applies an intent other than a withdrawal, of this generation. -/
def Accepts (s : System) (m : Move) (g : DeploymentGeneration) : Prop :=
  ∃ event body, event ∈ s.applies m ∧ event.body = .intentSubmitted body
    ∧ body.intent.kind ≠ .withdraw ∧ body.intent.generation = g

/-- What a process that dies in a move leaves in the trace, the whole move
leaves as well. -/
theorem System.applies_crash {s : System} {op : Op} {faults : List (Option Nat)} {n : Nat}
    {event : FabricEvent} (h : event ∈ s.applies (.crash op faults n)) :
    event ∈ s.applies (.run op faults) := by
  obtain ⟨u, hu, -⟩ := exec_traced s op faults
  have hcrash : (s.step (.crash op faults n)).trace = s.trace ++ u.take n := by
    simp only [System.step, hu, List.drop_left]
  have hrun : (s.step (.run op faults)).trace = s.trace ++ u := hu
  rw [System.applies, hcrash, List.drop_left] at h
  rw [System.applies, hrun, List.drop_left, ← List.take_append_drop n u, appliedEvents_append]
  exact List.mem_append_left _ h

/-- An accepted generation is new, and is the present one afterwards. -/
theorem Accepts.generation {s : System} {m : Move} {g : DeploymentGeneration} (h : Accepts s m g) :
    ∃ p, s.process = some p ∧ p.runtime.state.deploymentGeneration < g
      ∧ ∀ q, (s.step m).process = some q → q.runtime.state.deploymentGeneration = g := by
  obtain ⟨event, body, happlies, hbody, hkind, rfl⟩ := h
  -- a move that the process dies in applies what the whole move would
  obtain ⟨op, faults, happlies, hprocess⟩ : ∃ op faults, event ∈ s.applies (.run op faults)
      ∧ ∀ q, (s.step m).process = some q → (s.step (.run op faults)).process = some q := by
    cases m with
    | run op faults => exact ⟨op, faults, happlies, fun _ hq => hq⟩
    | crash op faults n =>
      exact ⟨op, faults, System.applies_crash happlies, fun q hq => absurd hq (by simp [System.step])⟩
  obtain ⟨p, l, n, q, -, hnext, happlied, hq, hstate⟩ := System.applies_run happlies
  refine ⟨p, System.next_process hnext, ?_⟩
  have hcore := congrArg RuntimeState.deploymentGeneration
    (core_advanceState (p.runtime.state.recounted l n) event p.runtime.config.bounds
      p.runtime.config.weights)
  rcases applyEvent_cases (p.runtime.state.recounted l n) event p.runtime.config.bounds
    p.runtime.config.weights with (⟨hrefused, -⟩ | ⟨-, hacc⟩) | ⟨hrefused, -⟩
  · exact absurd (happlied.symm.trans hrefused) (by simp)
  · generalize (applyEvent (p.runtime.state.recounted l n) event p.runtime.config.bounds
      p.runtime.config.weights).2 = t at hacc hcore
    cases hacc with
    | intent body' group plan authority r hbody' hgroup hplan =>
      rw [hbody] at hbody'
      cases hbody'
      refine ⟨(checkIntent_generation hgroup).2.2 hkind, fun q' hq' => ?_⟩
      obtain rfl := Option.some.inj (hq.symm.trans (hprocess q' hq'))
      rw [hstate]
      exact hcore.trans (intentPlan_generation hplan).1
    | _ => simp_all
  · exact absurd (happlied.symm.trans hrefused) (by simp)

theorem run_gone {s : System} {moves : List Move} (hs : s.process = none)
    (hmoves : Meets System.step SameLifetime s moves) : (s.after moves).process = none := by
  have hstep : ∀ (s : System) m, s.process = none → SameLifetime s m →
      (s.step m).process = none := by
    intro s m hs hm
    cases m with
    | crash op faults n => rfl
    | run op faults =>
      cases op with
      | start config => exact absurd rfl (hm config)
      | call c => simp only [System.step, System.exec, hs]
      | exit => simp only [System.step, System.exec, hs]
  exact run_invariant hstep hs hmoves

/-- **ACCEPTED GENERATIONS NEVER REGRESS** in a process: every state is onward
from every earlier one, the retained plans are strictly ordered up to the
present generation, and no generation is accepted twice but by withdrawals. -/
theorem generations_never_regress (pre moves : List Move)
    (hmoves : Meets System.step SameLifetime (System.after {} pre) moves) :
    (∀ p q, (System.after {} pre).process = some p →
        (System.after (System.after {} pre) moves).process = some q →
      Onward p.runtime.state q.runtime.state
        ∧ q.runtime.state.plans.Pairwise (fun a b => a.generation < b.generation)
        ∧ ∀ plan ∈ q.runtime.state.plans,
            plan.generation ≤ q.runtime.state.deploymentGeneration)
      ∧ ∀ before m₁ between m₂ after g, moves = before ++ m₁ :: (between ++ m₂ :: after) →
          Accepts (System.after (System.after {} pre) before) m₁ g →
          ¬ Accepts (System.after (System.after {} pre) (before ++ m₁ :: between)) m₂ g := by
  have hcatalogue : ∀ ms, (System.after (System.after {} pre) ms).Holds Catalogued := by
    intro ms
    have h := (catalogued_lasting.always (pre ++ ms)).holds
    rwa [System.after, runMoves_append] at h
  refine ⟨fun p q hp hq => ?_, ?_⟩
  · have hplans : PlansAscend q.runtime.state := by
      refine (plansAscend_lasting.always (pre ++ moves)).holds q ?_
      rw [System.after, runMoves_append]
      exact hq
    exact ⟨run_onward (hcatalogue []) hmoves hp hq, hplans.ascending, hplans.upTo⟩
  · intro before m₁ between m₂ after g hsplit hfirst hsecond
    obtain ⟨-, -, -, hset⟩ := hfirst.generation
    obtain ⟨p₂, hp₂, hnew, -⟩ := hsecond.generation
    -- the moves between the two are made by one process
    rw [hsplit, meets_append] at hmoves
    obtain ⟨-, hm₁, hrest⟩ := hmoves
    rw [meets_append] at hrest
    have hmid : System.after (System.after {} pre) (before ++ m₁ :: between)
        = System.after ((System.after (System.after {} pre) before).step m₁) between := by
      rw [System.after, runMoves_append]
      rfl
    rw [hmid] at hp₂
    cases hp₁ : ((System.after (System.after {} pre) before).step m₁).process with
    | none =>
      rw [run_gone hp₁ hrest.1] at hp₂
      simp at hp₂
    | some q₁ =>
      have hheld : ((System.after (System.after {} pre) before).step m₁).Holds Catalogued := by
        have h := hcatalogue (before ++ [m₁])
        rwa [System.after, runMoves_append] at h
      have honward := run_onward hheld hrest.1 hp₁ hp₂
      have hle := honward.deployment
      rw [hset q₁ hp₁] at hle
      exact absurd hnew (not_lt.mpr hle)

/-- A service is deployed at generation 1, and again at generation 2. -/
def secondDeployment : List Move :=
  [sampleEvent 1 (sampleTopology ["d"]), sampleEvent 2 samplePolicy,
   sampleEvent 3 (sampleService "a" none), sampleEvent 4 (sampleGroup "g" ["a"]),
   sampleEvent 5 (sampleIntent .deploy "g" 1 ["a"]),
   sampleEvent 6 (sampleIntent .deploy "g" 2 ["a"])].flatMap submitMoves

theorem opened_isSome :
    (System.after {} [.run (.start sampleConfig) []]).process.isSome = true := by
  decide +kernel

theorem second_deployment_isSome :
    (System.after (System.after {} [.run (.start sampleConfig) []]) secondDeployment).process.isSome
      = true := by
  decide +kernel

theorem second_deployment_onward :
    ((System.after (System.after {} [.run (.start sampleConfig) []]) secondDeployment).process.get
        second_deployment_isSome).runtime.state.deploymentGeneration = ⟨2⟩
      ∧ Onward ((System.after {} [.run (.start sampleConfig) []]).process.get
          opened_isSome).runtime.state
        ((System.after (System.after {} [.run (.start sampleConfig) []]) secondDeployment).process.get
          second_deployment_isSome).runtime.state :=
  ⟨by decide +kernel, ((generations_never_regress [.run (.start sampleConfig) []] secondDeployment
    (by decide +kernel)).1 _ _ (Option.some_get opened_isSome).symm
    (Option.some_get second_deployment_isSome).symm).1⟩

end DpuFabric
