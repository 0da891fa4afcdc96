/-
  Runtime.Sized — HOW LARGE A STATE BECOMES, AND WHETHER `open` READS IT BACK.

  `Sized` stands in every run with one set of bounds and legible events, at
  the cost of the replicas asked for (`sized_standing`).  It bounds the number
  of elements in all containers of a state (`sizeLimit`), and where the bounds
  themselves are below the limit that `open` hands to `decode_binary`, the
  length of every sequence in it.

  Neither holds of every run.  The reducer of a service looks at the number of
  its capability requirements and at nothing else in its compatibility lists,
  so one event brings a list of any length into the state.
-/
import DpuFabric.Engine.Sizes
import DpuFabric.Runtime.Standing

namespace DpuFabric

open Lib Visit

/-! ## §1. The size in every run. -/

section Standing

variable {b : RuntimeBounds}

variable {s t : RuntimeState} {n : Nat}

theorem recordDecision_onRecord (h : OnRecord b s) {d : Decision}
    (hretained : 1 ≤ b.maxDecisionsRetained)
    (hexplanations : d.explanations.length ≤ b.maxExplanations)
    (htruncations : d.truncations.length ≤ 1) :
    OnRecord b (recordDecision s d b.maxDecisionsRetained) := by
  have hmem : ∀ {ds : List Decision} {q : Decision → Prop}, (∀ d ∈ ds, q d) → q d →
      ∀ e ∈ ds ++ [d], q e := by
    intro ds q hds hd e he
    rcases List.mem_append.mp he with he | he
    · exact hds e he
    · exact List.mem_singleton.mp he ▸ hd
  unfold recordDecision
  split
  · refine { h with
      ledger := note_length h.ledger _ _ _ _
      decisions := ?_
      explanations := hmem (fun e he => h.explanations e (List.mem_of_mem_tail he)) hexplanations
      truncations := hmem (fun e he => h.truncations e (List.mem_of_mem_tail he)) htruncations }
    have hlength := h.decisions
    simp only [List.length_append, List.length_tail, List.length_singleton]
    omega
  · next hroom =>
    refine { h with
      decisions := ?_
      explanations := hmem h.explanations hexplanations
      truncations := hmem h.truncations htruncations }
    rw [List.length_append]
    exact not_le.mp hroom

theorem decisionOf_size (s : RuntimeState) (event : FabricEvent) (applied : ApplyResult)
    (maxExplanations : Nat) :
    (decisionOf s event applied maxExplanations).explanations.length ≤ maxExplanations
      ∧ (decisionOf s event applied maxExplanations).truncations.length ≤ 1 := by
  simp only [decisionOf]
  refine ⟨List.length_take_le _ _, ?_⟩
  split <;> simp

theorem refreshHealth_table (h : Tabled b n s.instances s.fences) :
    Tabled b n (refreshHealth s).instances (refreshHealth s).fences := by
  refine h.change (refreshHealth_ids s) (fun j hj => ?_) h.issued
  obtain ⟨i', hi', rfl⟩ := List.mem_map.mp hj
  obtain ⟨i, hi, rfl⟩ := List.mem_map.mp hi'
  refine ⟨i, hi, ?_⟩
  have hkeep : (refreshInstance { s.topology with dpus := s.topology.dpus.map (refreshDpu s.clock) }
      (markStale s.clock s.topology.dpus i)).attempts = i.attempts
      ∧ (refreshInstance { s.topology with dpus := s.topology.dpus.map (refreshDpu s.clock) }
        (markStale s.clock s.topology.dpus i)).reasons = i.reasons := by
    unfold refreshInstance markStale
    repeat' split
    all_goals exact ⟨rfl, rfl⟩
  rw [hkeep.1, hkeep.2]
  exact ⟨id, id⟩

theorem Kept.refreshHealth (h : Kept b n s) :
    Kept b n (refreshHealth s) :=
  ⟨refreshHealth_table h.table, h.plans, h.records.congr le_rfl rfl⟩

theorem Kept.congr (h : Kept b n s)
    (htable : (t.instances, t.fences, t.plans) = (s.instances, s.fences, s.plans))
    (hrecords : (t.authority, t.truncations, t.decisions, t.restartFenced) = (s.authority, s.truncations, s.decisions, s.restartFenced)) :
    Kept b n t := by
  simp only [Prod.mk.injEq] at htable hrecords
  obtain ⟨hinstances, hfences, hplans⟩ := htable
  refine ⟨?_, ?_, h.records.congr (le_of_eq ?_) ?_⟩
  · rw [hinstances, hfences]
    exact h.table
  · rw [hplans]
    exact h.plans
  · rw [hrecords.1]
  · rw [hrecords.2.1, hrecords.2.2.1, hrecords.2.2.2]

theorem Kept.edit (h : Kept b n s) (hretained : 1 ≤ b.maxDecisionsRetained)
    (hedit : Edit (fun c => c.bounds = b) s t) :
    Kept b n t := by
  cases hedit with
  | noted container requested accepted reason =>
    exact { h with records := { h.records with ledger := note_length h.records.ledger _ _ _ _ } }
  | counted => exact h.congr rfl rfl
  | raised event =>
    unfold raiseWatermark
    split
    · exact h.congr rfl rfl
    · exact h
  | followed event =>
    unfold followClock
    split
    · exact Kept.refreshHealth (h.congr rfl rfl)
    · exact h
  | refreshed => exact h.refreshHealth
  | decided config hconfig event applied =>
    obtain ⟨hexplanations, htruncations⟩ :=
      decisionOf_size s event applied config.bounds.maxExplanations
    rw [hconfig] at hexplanations htruncations ⊢
    have hrecords := recordDecision_onRecord h.records hretained hexplanations htruncations
    refine ⟨?_, ?_, hrecords⟩
    all_goals unfold recordDecision
    all_goals split
    · exact h.table
    · exact h.table
    · exact h.plans
    · exact h.plans

theorem Kept.restored (h : Kept b n s) : Kept b n s.restored := by
  refine ⟨{ h.table with issued := issuedWithin_nil _ _ _ }, ?_, h.records.congr le_rfl rfl⟩
  refine ⟨(List.length_map _).trans_le h.plans.length, fun p hp => ?_⟩
  obtain ⟨source, hsource, rfl⟩ := List.mem_map.mp hp
  have hsized := h.plans.sized source hsource
  exact ⟨hsized.services, hsized.replicas, hsized.stages, hsized.batches, hsized.explanations⟩

theorem Kept.restarted (h : Kept b n s) (config : RuntimeConfig) :
    Kept b n (restartState config s) := by
  refine ⟨?_, h.plans, { h.records.congr le_rfl rfl with restartFenced := ?_ }⟩
  · refine h.table.change (tableIds_map fun _ => rfl) (fun j hj => ?_) (issuedWithin_nil _ _ _)
    obtain ⟨i, hi, rfl⟩ := List.mem_map.mp hj
    exact ⟨i, hi, fun hn => by simpa [fenceInstance] using hn, fun _ => by simp [fenceInstance]⟩
  · refine (List.length_map _).trans_le ?_
    exact (List.length_filter_le _ _).trans h.table.length

theorem kept_blank (config : RuntimeConfig) : Kept b 0 (initialState config) := by
  refine ⟨⟨?_, ?_, ?_, issuedWithin_nil _ _ _⟩, ⟨?_, ?_⟩, ⟨?_, ?_, ?_, ?_, ?_, ?_⟩⟩
  all_goals simp [initialState]

/-- What is declared lies outside the bookkeeping, but for the freshness of
the devices. -/
theorem Edit.declared {C : RuntimeConfig → Prop} (hedit : Edit C s t) {Q : RuntimeState → Prop}
    (hcongr : ∀ {s t : RuntimeState}, Q s → (t.topology, t.services, t.groups, t.dependencies) = (s.topology, s.services, s.groups, s.dependencies) → Q t)
    (hrefresh : ∀ {s : RuntimeState}, Q s → Q (refreshHealth s)) (h : Q s) : Q t := by
  cases hedit with
  | noted | counted => exact hcongr h rfl
  | raised event =>
    unfold raiseWatermark
    split
    · exact hcongr h rfl
    · exact h
  | followed event =>
    unfold followClock
    split
    · exact hrefresh (hcongr h rfl)
    · exact h
  | refreshed => exact hrefresh h
  | decided =>
    unfold recordDecision
    split
    all_goals exact hcongr h rfl

theorem validate_positive (h : b.validate.ok = true) :
    1 ≤ b.maxExplanations ∧ 1 ≤ b.maxDecisionsRetained := by
  have hchecks := RuntimeBounds.validate_checks h
  have hnone : b.checks.findSome? (fun c => RuntimeBounds.checkOne c.1 c.2.1 c.2.2) = none :=
    List.findSome?_eq_none_iff.mpr hchecks
  constructor
  · rw [RuntimeBounds.validate, hnone] at h
    by_contra hz
    have hz : b.maxExplanations = 0 := by omega
    simp only [hz, true_or, or_true, if_true] at h
    simp [Status.ok, isInformational] at h
  · have hrow := hchecks (b.maxDecisionsRetained, 4096, "max_decisions_retained")
      (by simp [RuntimeBounds.checks])
    by_contra hz
    have hz : b.maxDecisionsRetained = 0 := by omega
    simp [RuntimeBounds.checkOne, hz] at hrow

/-- **The size stands in every run**, at the cost of the intents. -/
theorem sized_standing (hb : b.validate.ok = true) :
    Standing (fun config => config.bounds = b) (FabricEvent.Legible b) (eventCost b) (Sized b) where
  mono hle h := (h.kept.mono hle).sized h.declared
  edit hedit h := (h.kept.edit (validate_positive hb).2 hedit).sized
    (hedit.declared Declared.congr Declared.refreshHealth h.declared)
  blank {config} _ := by
    refine (kept_blank config).sized ⟨?_, ?_, ?_, ?_, ?_, ?_, ?_⟩
    all_goals simp [initialState]
  restored h := h.kept.restored.sized (h.declared.congr rfl)
  event hconfig hlegible h := by
    rw [hconfig]
    exact applyEvent_sized (validate_positive hb).1 hlegible h _
  restarted _ h := (h.kept.restarted _).sized (h.declared.congr rfl)

end Standing

/-! ## §2. The number of elements. -/

/-- The elements of a plan. -/
def planLimit (b : RuntimeBounds) (n : Nat) : Nat :=
  b.maxServices * (1 + b.maxReplicasPerService) + b.maxStages * (1 + n) + b.maxExplanations

/-- The elements of a state, with `n` for the attempts of an instance. -/
def sizeLimit (b : RuntimeBounds) (n : Nat) : Nat :=
  b.maxDpus * (1 + (b.sequenceLimit + b.maxCapabilitiesPerDpu))
    + b.maxServices
      * (1 + (b.sequenceLimit + b.maxCapabilitiesPerDpu * (1 + b.sequenceLimit)))
    + b.maxServices * (1 + b.maxServices)
    + b.maxDependencies
    + b.maxInstances * (1 + (n + 1))
    + b.maxPlansRetained * (1 + planLimit b n)
    + (b.maxDpus + b.maxInstances + TruncationLedger.maxRecords)
    + b.maxDecisionsRetained * (1 + (b.maxExplanations + 1))
    + b.maxInstances

section Elements

variable {α : Type} {b : RuntimeBounds} {n : Nat}

theorem sum_flatMap_le {f : α → List Nat} {xs : List α} {k : Nat}
    (h : ∀ x ∈ xs, (f x).sum ≤ k) : (xs.flatMap f).sum ≤ xs.length * k := by
  induction xs with
  | nil => simp
  | cons x xs ih =>
    rw [List.flatMap_cons, List.sum_append, List.length_cons, Nat.succ_mul, Nat.add_comm]
    exact Nat.add_le_add (ih fun y hy => h y (List.mem_cons_of_mem _ hy)) (h x List.mem_cons_self)

theorem sum_records_le {f : α → List Nat} {xs : List α} {limit k : Nat} (hlength : xs.length ≤ limit)
    (h : ∀ x ∈ xs, (f x).sum ≤ k) : (xs.length :: xs.flatMap f).sum ≤ limit * (1 + k) := by
  have hsum := sum_flatMap_le h
  calc (xs.length :: xs.flatMap f).sum ≤ xs.length + xs.length * k := by simpa using hsum
    _ = xs.length * (1 + k) := by rw [Nat.mul_add, Nat.mul_one]
    _ ≤ limit * (1 + k) := Nat.mul_le_mul_right _ hlength

theorem ServiceSized.elements {d : ServiceDefinition} (h : ServiceSized b d) :
    (countsOf ServiceDefinition.visit d).sum
      ≤ b.sequenceLimit + b.maxCapabilitiesPerDpu * (1 + b.sequenceLimit) := by
  rw [countsOf_service, countsOf_compatibility, List.sum_cons]
  refine Nat.add_le_add h.isolation (sum_records_le h.capabilities fun r hr => ?_)
  simpa using h.alternatives r hr

theorem PlanSized.elements {p : DeploymentPlan} (h : PlanSized b n p) :
    (countsOf DeploymentPlan.visit p).sum ≤ planLimit b n := by
  have hservices := sum_records_le (f := countsOf ServicePlan.visit) h.services
    (k := b.maxReplicasPerService) fun sp hsp => by simpa using h.replicas sp hsp
  have hstages := sum_records_le (f := countsOf PlanStage.visit) h.stages (k := n)
    fun st hst => by simpa using h.batches st hst
  have hexplanations := h.explanations
  simp only [countsOf_plan, List.sum_cons, List.sum_append, List.sum_nil, planLimit]
    at hservices hstages ⊢
  omega

/-- **The size bounds the number of elements.** -/
theorem Sized.elements {s : RuntimeState} (h : Sized b n s) :
    (countsOf RuntimeState.visit s).sum ≤ sizeLimit b n := by
  have htopology := sum_records_le (f := countsOf DpuRecord.visit) h.declared.dpus
    (k := b.sequenceLimit + b.maxCapabilitiesPerDpu) fun d hd => by
      have hd := h.declared.devices d hd
      simpa using Nat.add_le_add hd.isolation hd.capabilities
  have hservices := sum_records_le (f := countsOf ServiceDefinition.visit) h.declared.services
    fun d hd => (h.declared.definitions d hd).elements
  have hgroups := sum_records_le (f := countsOf ServiceGroup.visit) h.declared.groups
    (k := b.maxServices) fun g hg => by simpa using h.declared.members g hg
  have hinstances := sum_records_le (f := countsOf InstanceState.visit) h.table.length (k := n + 1)
    fun i hi => by simpa using Nat.add_le_add (h.table.attempts i hi) (h.table.reasons i hi)
  have hplans := sum_records_le (f := countsOf DeploymentPlan.visit) h.plans.length
    fun p hp => (h.plans.sized p hp).elements
  have hdecisions := sum_records_le (f := countsOf Decision.visit) h.records.decisions
    (k := b.maxExplanations + 1) fun d hd => by
      simpa using Nat.add_le_add (h.records.explanations d hd) (h.records.truncations d hd)
  have hserials : s.fences.serials.length ≤ b.maxInstances := by
    refine h.table.issued.length_le.trans ?_
    simpa [tableIds] using h.table.length
  rw [countsOf_state, countsOf_topology]
  simp only [countsOf_vec, List.sum_append, List.sum_cons, List.sum_nil, Nat.add_zero] at *
  unfold sizeLimit
  refine Nat.add_le_add (Nat.add_le_add (Nat.add_le_add (Nat.add_le_add (Nat.add_le_add
    (Nat.add_le_add (Nat.add_le_add (Nat.add_le_add htopology hservices) hgroups)
    h.declared.dependencies) hinstances) hplans) ?_) hdecisions) h.records.restartFenced
  rw [Nat.add_assoc]
  exact Nat.add_le_add h.records.grants (Nat.add_le_add hserials h.records.ledger)

end Elements

/-! ## §3. Runs. -/

instance (C : RuntimeConfig → Prop) [DecidablePred C] (m : Move) : Decidable (Configured C m) :=
  match hop : m.op with
  | .start config =>
    if h : C config then .isTrue (fun _ heq => by cases hop.symm.trans heq; exact h)
    else .isFalse (fun hall => h (hall config hop))
  | .call _ | .exit => .isTrue (fun _ heq => absurd (hop.symm.trans heq) (by simp))

instance (E : FabricEvent → Prop) [DecidablePred E] (s : System) (m : Move) :
    Decidable (TakesUp E s m) := by
  unfold TakesUp
  generalize m.op = op
  refine Op.casesOn op (fun _ => inferInstance) (fun c => ?_) inferInstance
  apply @Call.casesOn _ c <;> infer_instance

/-- Every process runs with the bounds, and every event it takes up is legible. -/
def WithinBounds (b : RuntimeBounds) (s : System) (m : Move) : Prop :=
  Configured (fun config => config.bounds = b) m ∧ TakesUp (FabricEvent.Legible b) s m

instance (b : RuntimeBounds) (s : System) (m : Move) : Decidable (WithinBounds b s m) :=
  inferInstanceAs (Decidable (_ ∧ _))

/-- Every process of the run has the bounds it was started with. -/
theorem run_bounds {b : RuntimeBounds} {moves : List Move}
    (hmeets : Meets System.step (fun _ m => Configured (fun config => config.bounds = b) m) {} moves)
    {p : Process} (hp : (System.after {} moves).process = some p) : p.runtime.config.bounds = b := by
  have hstep : ∀ s m, System.Runs (fun config => config.bounds = b) s →
      Configured (fun config => config.bounds = b) m →
      System.Runs (fun config => config.bounds = b) (System.step s m) :=
    fun _ _ hs hm => step_runs hs hm
  have hruns : (System.after {} moves).Runs (fun config => config.bounds = b) :=
    run_invariant hstep (fun _ h => absurd h (by simp)) hmeets
  exact hruns p hp

section Run

variable {b : RuntimeBounds} {moves : List Move}
  (hmeets : Meets System.step (WithinBounds b) {} moves)
include hmeets

theorem run_sized (hb : b.validate.ok = true) {n : Nat}
    (hspent : System.spent (eventCost b) {} moves ≤ n) {p : Process}
    (hp : (System.after {} moves).process = some p) : Sized b n p.runtime.state :=
  (sized_standing hb).mono hspent ((Standing.run (sized_standing hb) hmeets).holds p hp)

end Run

/-- **STATE SIZE IS BOUNDED BY CONFIGURATION** in every run with one set of
bounds whose events are legible and ask for at most `max_history` replicas. -/
theorem state_size_bounded (b : RuntimeBounds) (hb : b.validate.ok = true) (moves : List Move)
    (hmeets : Meets System.step (WithinBounds b) {} moves)
    (hspent : System.spent (eventCost b) {} moves ≤ b.maxHistory) (p : Process)
    (hp : (System.after {} moves).process = some p) :
    (countsOf RuntimeState.visit p.runtime.state).sum ≤ sizeLimit b b.maxHistory :=
  (run_sized hmeets hb hspent hp).elements

/-- A run that declares a service and deploys it. -/
def deployMoves : List Move :=
  .run (.start sampleConfig) [] ::
    [sampleEvent 1 (sampleTopology ["d"]), sampleEvent 2 samplePolicy,
     sampleEvent 3 (sampleService "a" none), sampleEvent 4 (sampleGroup "g" ["a"]),
     sampleEvent 5 (sampleIntent .deploy "g" 1 ["a"])].flatMap submitMoves

theorem deployMoves_runs : (System.after {} deployMoves).process.isSome = true := by
  decide +kernel

theorem deployed_state_size :
    (countsOf RuntimeState.visit
      ((System.after {} deployMoves).process.get deployMoves_runs).runtime.state).sum
      ≤ sizeLimit {} 2048 :=
  state_size_bounded {} (by decide +kernel) deployMoves (by decide +kernel) (by decide +kernel) _
    (Option.some_get deployMoves_runs).symm

/-- A service that asks for a list of isolation kinds. -/
def isolatedService (isolation : List IsolationKind) : ServiceDefinition :=
  { id := .literal (txt "a"), version := { major := 1 },
    compatibility := { requiredIsolation := isolation } }

/-- A run that declares it. -/
def isolatedMoves (isolation : List IsolationKind) : List Move :=
  .run (.start sampleConfig) [] ::
    submitMoves (sampleEvent 1 (.serviceDeclared { service := isolatedService isolation }))

set_option maxRecDepth 20000 in
theorem isolatedMoves_accepted (isolation : List IsolationKind) :
    (System.after {} (isolatedMoves isolation)).process.map
        (fun p => (p.runtime.config, p.runtime.state.services))
      = some (sampleConfig, [isolatedService isolation]) := by
  rfl

theorem isolatedMoves_counts (isolation : List IsolationKind) :
    ∃ p, (System.after {} (isolatedMoves isolation)).process = some p
      ∧ p.runtime.config = sampleConfig
      ∧ isolation.length ∈ countsOf RuntimeState.visit p.runtime.state := by
  obtain ⟨p, hp, hpair⟩ := Option.map_eq_some_iff.mp (isolatedMoves_accepted isolation)
  obtain ⟨hconfig, hservices⟩ := Prod.mk.inj hpair
  refine ⟨p, hp, hconfig, ?_⟩
  rw [countsOf_state, hservices]
  simp [isolatedService]

/-- One declaration makes the state as large as its list is. -/
theorem state_size_unbounded :
    ¬ ∃ B : RuntimeBounds → Nat, ∀ moves p, (System.after {} moves).process = some p →
      (countsOf RuntimeState.visit p.runtime.state).sum ≤ B p.runtime.config.bounds := by
  rintro ⟨B, hB⟩
  obtain ⟨p, hp, hconfig, hmem⟩ :=
    isolatedMoves_counts (List.replicate (B sampleConfig.bounds + 1) .process)
  have hle := (List.single_le_sum (by simp) _ hmem).trans (hB _ p hp)
  rw [hconfig, List.length_replicate] at hle
  simp at hle

/-! ## §4. Reading it back. -/

/-- The bounds that hold a whole table are within the limit of the reader. -/
structure RuntimeBounds.Legible (b : RuntimeBounds) : Prop where
  dpus : b.maxDpus ≤ b.sequenceLimit
  dependencies : b.maxDependencies ≤ b.sequenceLimit
  decisions : b.maxDecisionsRetained ≤ b.sequenceLimit
  explanations : b.maxExplanations ≤ b.sequenceLimit

/-- The compile-time ceilings of the other bounds are below the limit. -/
theorem validate_ceilings {b : RuntimeBounds} (h : b.validate.ok = true) :
    b.maxServices ≤ 1024 ∧ b.maxCapabilitiesPerDpu ≤ 256 ∧ b.maxReplicasPerService ≤ 64
      ∧ b.maxPlansRetained ≤ 512 ∧ b.maxStages ≤ 256 ∧ b.maxInstances ≤ 16384 := by
  have hrow : ∀ {value ceiling : Nat} (name : String),
      (value, ceiling, name) ∈ b.checks → value ≤ ceiling :=
    fun name hmem => (RuntimeBounds.validate_row h name hmem).2
  exact ⟨hrow "max_services" (by simp [RuntimeBounds.checks]),
    hrow "max_capabilities_per_dpu" (by simp [RuntimeBounds.checks]),
    hrow "max_replicas_per_service" (by simp [RuntimeBounds.checks]),
    hrow "max_plans_retained" (by simp [RuntimeBounds.checks]),
    hrow "max_stages" (by simp [RuntimeBounds.checks]),
    hrow "max_instances" (by simp [RuntimeBounds.checks])⟩

theorem forall_records {α : Type} {f : α → List Nat} {xs : List α} {limit : Nat}
    (hlength : xs.length ≤ limit) (h : ∀ x ∈ xs, ∀ c ∈ f x, c ≤ limit) :
    ∀ c ∈ xs.length :: xs.flatMap f, c ≤ limit := by
  refine List.forall_mem_cons.mpr ⟨hlength, fun c hc => ?_⟩
  obtain ⟨x, hx, hc⟩ := List.mem_flatMap.mp hc
  exact h x hx c hc

section Reading

variable {b : RuntimeBounds} (hb : b.validate.ok = true) (hlegible : b.Legible)
include hb

theorem ServiceSized.legible {d : ServiceDefinition} (h : ServiceSized b d) :
    ∀ c ∈ countsOf ServiceDefinition.visit d, c ≤ b.sequenceLimit := by
  obtain ⟨-, hcapabilities, -⟩ := validate_ceilings hb
  rw [countsOf_service, countsOf_compatibility]
  refine List.forall_mem_cons.mpr ⟨h.isolation, forall_records ?_ fun r hr => ?_⟩
  · exact h.capabilities.trans (by unfold RuntimeBounds.sequenceLimit; omega)
  · simpa using h.alternatives r hr

theorem DeviceSized.legible {d : DpuRecord} (h : DeviceSized b d) :
    ∀ c ∈ countsOf DpuRecord.visit d, c ≤ b.sequenceLimit := by
  obtain ⟨-, hcapabilities, -⟩ := validate_ceilings hb
  have hlength : d.capabilities.entries.length ≤ b.sequenceLimit :=
    h.capabilities.trans (by unfold RuntimeBounds.sequenceLimit; omega)
  simpa using ⟨h.isolation, hlength⟩

include hlegible in
theorem PlanSized.legible {p : DeploymentPlan} (h : PlanSized b b.sequenceLimit p) :
    ∀ c ∈ countsOf DeploymentPlan.visit p, c ≤ b.sequenceLimit := by
  obtain ⟨hservices, -, hreplicas, -, hstages, -⟩ := validate_ceilings hb
  have hsmall : ∀ {k}, k ≤ 1024 → k ≤ b.sequenceLimit := fun hk => by
    unfold RuntimeBounds.sequenceLimit
    omega
  rw [countsOf_plan, ← List.cons_append, ← List.cons_append]
  refine List.forall_mem_append.mpr ⟨forall_records (h.services.trans (hsmall hservices)) ?_,
    List.forall_mem_append.mpr ⟨forall_records (h.stages.trans (hsmall (by omega))) ?_, ?_⟩⟩
  · intro sp hsp
    simpa using (h.replicas sp hsp).trans (hsmall (by omega))
  · intro st hst
    simpa using h.batches st hst
  · simpa using h.explanations.trans hlegible.explanations

include hlegible in
/-- No sequence of a state of legible size is longer than `open` would read. -/
theorem Sized.legible {s : RuntimeState} (h : Sized b b.sequenceLimit s) :
    ∀ c ∈ countsOf RuntimeState.visit s, c ≤ b.sequenceLimit := by
  obtain ⟨hservices, -, -, hplans, -⟩ := validate_ceilings hb
  have hsmall : ∀ {k}, k ≤ 1024 → k ≤ b.sequenceLimit := fun hk => by
    unfold RuntimeBounds.sequenceLimit
    omega
  have htable : b.maxInstances ≤ b.sequenceLimit := Nat.le_add_right _ _
  have hserials : s.fences.serials.length ≤ b.maxInstances := by
    refine h.table.issued.length_le.trans ?_
    simpa [tableIds] using h.table.length
  rw [countsOf_state, countsOf_topology]
  simp only [countsOf_vec, List.forall_mem_append]
  refine ⟨⟨⟨⟨⟨⟨⟨⟨?_, ?_⟩, ?_⟩, ?_⟩, ?_⟩, ?_⟩, ?_⟩, ?_⟩, ?_⟩
  · exact forall_records (h.declared.dpus.trans hlegible.dpus)
      fun d hd => (h.declared.devices d hd).legible hb
  · exact forall_records (h.declared.services.trans (hsmall hservices))
      fun d hd => (h.declared.definitions d hd).legible hb
  · refine forall_records (h.declared.groups.trans (hsmall hservices)) fun g hg => ?_
    simpa using (h.declared.members g hg).trans (hsmall hservices)
  · simpa using h.declared.dependencies.trans hlegible.dependencies
  · refine forall_records (h.table.length.trans htable) fun i hi => ?_
    have hreasons := (h.table.reasons i hi).trans (hsmall (by omega))
    simpa using ⟨h.table.attempts i hi, hreasons⟩
  · exact forall_records (h.plans.length.trans (hsmall (by omega)))
      fun p hp => (h.plans.sized p hp).legible hb hlegible
  · have hledger := h.records.ledger.trans (hsmall (by simp [TruncationLedger.maxRecords]))
    simpa using ⟨h.records.grants.trans hlegible.dpus, hserials.trans htable, hledger⟩
  · refine forall_records (h.records.decisions.trans hlegible.decisions) fun d hd => ?_
    have htruncations := (h.records.truncations d hd).trans (hsmall (by omega))
    simpa using ⟨(h.records.explanations d hd).trans hlegible.explanations, htruncations⟩
  · simpa using h.records.restartFenced.trans htable

end Reading

/-- A value whose sequences are within the limit is read back unless a string
or a number of it is not. -/
theorem decode_of_counts {α : Type} {c : Visit α} [Described c] {v : α} {limit : Nat}
    (hlimit : limit < 2 ^ 32) (h : ∀ k ∈ countsOf c v, k ≤ limit) :
    decodeBinary c limit (encodeBinary c v) = .ok (c.norm v)
      ↔ ∀ part ∈ partsOf c v, part.counted = none → part.Readable limit := by
  rw [decodeBinary_iff]
  refine ⟨fun hall part hpart _ => hall part hpart, fun hother part hpart => ?_⟩
  cases part with
  | count k =>
    have hk : k ≤ limit := h k (List.mem_filterMap.mpr ⟨_, hpart, rfl⟩)
    exact ⟨hk, lt_of_le_of_lt hk hlimit⟩
  | text t => exact hother _ hpart rfl
  | signed z => exact hother _ hpart rfl

end DpuFabric
