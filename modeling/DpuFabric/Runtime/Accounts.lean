/-
  Runtime.Accounts — WHICH LOSSES REACH THE LEDGER.

  The planner and `Store::load` make rows for what they drop.  The ledger of a
  state has rows of five containers only (`ledgerContainers`), and a decision
  rows of its own explanations only, in every state of every run
  (`labelled_standing`) — none of them the planner's or the loader's.  So a
  loss of theirs is accounted for only where there was none.
-/
import DpuFabric.Runtime.Standing

namespace DpuFabric

open Lib

variable {s : RuntimeState} {μ : Type} {o : StoreOptions}

/-! ## §1. The rows that are made. -/

/-- The rows that `build_plan` makes while the event is applied. -/
def planTruncations (s : RuntimeState) (event : FabricEvent) (bounds : RuntimeBounds)
    (weights : PlacementWeights) : List TruncationRecord :=
  match event.body with
  | .intentSubmitted body =>
    match checkIntent s body.intent with
    | .error _ => []
    | .ok group =>
      if body.intent.kind = .withdraw ∨ body.intent.kind = .rollback then []
      else
        match DependencyGraph.build s.dependencies bounds.maxDependencies with
        | .error _ => []
        | .ok graph =>
          (buildPlan (planRequest s event body.intent group graph bounds) weights).truncations
  | _ => []

/-- The containers of the planner. -/
def plannerContainers : List Text := [txt "plan.explanations", txt "plan.stages"]

theorem flush_container (sink : ExplanationSink) :
    ∀ row ∈ sink.flush, row.container ∈ plannerContainers := by
  intro row hrow
  unfold ExplanationSink.flush at hrow
  split at hrow
  · simp at hrow
  · rw [List.mem_singleton.mp hrow]
    simp [plannerContainers]

theorem failPlan_container {sink : ExplanationSink} {code : ReasonCode}
    {truncations : List TruncationRecord}
    (h : ∀ row ∈ truncations, row.container ∈ plannerContainers) :
    ∀ row ∈ (failPlan sink code truncations).truncations, row.container ∈ plannerContainers := by
  intro row hrow
  rcases List.mem_append.mp hrow with hrow | hrow
  · exact h row hrow
  · exact flush_container sink row hrow

theorem finishPlan_container (r : PlanRequest) (p : Placement) :
    ∀ row ∈ (finishPlan r p).truncations, row.container ∈ plannerContainers := by
  unfold finishPlan
  simp only
  split
  · refine failPlan_container fun row hrow => ?_
    rw [List.mem_singleton.mp hrow]
    simp [stageTruncation, plannerContainers]
  · exact flush_container _

theorem buildPlan_container (r : PlanRequest) (weights : PlacementWeights) :
    ∀ row ∈ (buildPlan r weights).truncations, row.container ∈ plannerContainers := by
  have hnone : ∀ row ∈ ([] : List TruncationRecord), row.container ∈ plannerContainers := by simp
  unfold buildPlan
  simp only
  repeat' split
  all_goals first
    | exact failPlan_container hnone
    | exact finishPlan_container r _

theorem planTruncations_container (s : RuntimeState) (event : FabricEvent) (bounds : RuntimeBounds)
    (weights : PlacementWeights) :
    ∀ row ∈ planTruncations s event bounds weights, row.container ∈ plannerContainers := by
  unfold planTruncations
  repeat' split
  all_goals first
    | exact buildPlan_container _ weights
    | simp

/-- The rows that `Store::load` makes. -/
def loadTruncations {μ : Type} (st : Store) (w : World FileName μ) : List TruncationRecord :=
  match st.load w with
  | (.ok loaded, _, _) => loaded.recovery.truncations
  | (.error _, _, _) => []

theorem loadSnapshot_truncations {recovery recovery' : StoreRecovery}
    {payload : List UInt8} {w w' : World FileName μ}
    (h : loadSnapshot o recovery w = (.ok payload, recovery', w')) :
    recovery'.truncations = recovery.truncations := by
  unfold loadSnapshot at h
  repeat' split at h
  all_goals simp only [Prod.mk.injEq, reduceCtorEq, false_and] at h
  all_goals exact h.2.1 ▸ rfl

theorem loadJournal_truncations {recovery recovery' : StoreRecovery}
    {records : List (List UInt8)} {w w' : World FileName μ}
    (h : loadJournal o recovery w = (.ok records, recovery', w')) :
    recovery'.truncations = recovery.truncations
      ∨ recovery'.truncations = recovery.truncations ++ [tornTruncation] := by
  unfold loadJournal at h
  simp only at h
  repeat' split at h
  all_goals simp only [Prod.mk.injEq, reduceCtorEq, false_and] at h
  · exact .inl (h.2.1 ▸ rfl)
  · exact .inl (h.2.1 ▸ rfl)
  · exact .inr (h.2.1 ▸ rfl)

/-- A store that was just opened makes at most the row of a torn tail. -/
theorem loadTruncations_eq {st : Store} {w w' : World FileName μ}
    (hopen : Store.open o w = (.ok st, w')) :
    ∀ row ∈ loadTruncations st w', row = tornTruncation := by
  have hblank : st.recovery.truncations = [] := by
    unfold Store.open at hopen
    repeat' split at hopen
    all_goals simp only [Prod.mk.injEq, reduceCtorEq, false_and, Except.ok.injEq] at hopen
    rw [← hopen.1]
  intro row hrow
  unfold loadTruncations Store.load at hrow
  split at hrow
  · next loaded _ _ hload =>
    split at hload
    · simp at hload
    next hsnapshot =>
    split at hload
    · simp at hload
    next hjournal =>
    cases hload
    have hbase := (loadSnapshot_truncations hsnapshot).trans hblank
    rcases loadJournal_truncations hjournal with hsame | htorn
    · rw [hsame, hbase] at hrow
      simp at hrow
    · rw [htorn, hbase] at hrow
      exact List.mem_singleton.mp hrow
  · simp at hrow

/-! ## §2. The rows that are kept. -/

/-- The containers of the ledger. -/
def ledgerContainers : List Text := txt "plan.history" :: runtimeContainers

/-- Every row is of a container of the ledger, or of the explanations of its
decision. -/
structure Labelled (s : RuntimeState) : Prop where
  ledger : ∀ row ∈ s.truncations.records, row.container ∈ ledgerContainers
  decisions : ∀ d ∈ s.decisions, ∀ row ∈ d.truncations,
    row.container = txt "decision.explanations"

theorem note_container {l : TruncationLedger} {container : Text} {requested accepted : UInt64}
    {reason : ReasonCode} {labels : List Text} (h : ∀ row ∈ l.records, row.container ∈ labels)
    (hcontainer : container ∈ labels) :
    ∀ row ∈ (l.note container requested accepted reason).records, row.container ∈ labels := by
  unfold TruncationLedger.note TruncationLedger.record
  split
  · exact h
  split
  · exact h
  simp only
  split
  · next row hfind =>
    split
    · next row' hrow' =>
      -- the row of the container is replaced by its sum
      intro row₂ hrow₂
      rcases List.mem_or_eq_of_mem_set hrow₂ with hmem | rfl
      · exact h row₂ hmem
      have hsame : row₂.container = row.container := by
        unfold TruncationLedger.accumulate at hrow'
        split at hrow'
        · exact Option.some.inj hrow' ▸ rfl
        · simp at hrow'
      rw [hsame]
      exact h row (List.mem_of_find?_eq_some hfind)
    · exact h
  · split
    · split <;> exact h
    intro row hrow
    rcases List.mem_append.mp hrow with hrow | hrow
    · exact h row hrow
    · rw [List.mem_singleton.mp hrow]
      exact hcontainer

theorem Labelled.congr {t : RuntimeState} (h : Labelled s)
    (hsame : (t.truncations, t.decisions) = (s.truncations, s.decisions)) : Labelled t := by
  obtain ⟨hledger, hdecisions⟩ := Prod.mk.inj hsame
  exact ⟨hledger ▸ h.ledger, hdecisions ▸ h.decisions⟩

theorem decisionOf_container (s : RuntimeState) (event : FabricEvent) (applied : ApplyResult)
    (maxExplanations : Nat) : ∀ row ∈ (decisionOf s event applied maxExplanations).truncations,
      row.container = txt "decision.explanations" := by
  intro row hrow
  simp only [decisionOf] at hrow
  split at hrow
  · rw [List.mem_singleton.mp hrow]
    rfl
  · simp at hrow

theorem Labelled.edit {C : RuntimeConfig → Prop} {t : RuntimeState} (h : Labelled s)
    (hedit : Edit C s t) : Labelled t := by
  cases hedit with
  | noted container requested accepted reason hcontainer =>
    exact ⟨note_container h.ledger (List.mem_cons_of_mem _ hcontainer), h.decisions⟩
  | counted | refreshed => exact h.congr rfl
  | raised event => unfold raiseWatermark; split <;> exact h.congr rfl
  | followed event => unfold followClock; split <;> exact h.congr rfl
  | decided config hconfig event applied =>
    have hnew := decisionOf_container s event applied config.bounds.maxExplanations
    generalize decisionOf s event applied config.bounds.maxExplanations = decision at hnew ⊢
    unfold recordDecision
    split
    · refine ⟨note_container h.ledger (by simp [ledgerContainers, runtimeContainers]), ?_⟩
      intro d hd
      rcases List.mem_append.mp hd with hd | hd
      · exact h.decisions d (List.mem_of_mem_tail hd)
      · exact List.mem_singleton.mp hd ▸ hnew
    · refine ⟨h.ledger, fun d hd => ?_⟩
      rcases List.mem_append.mp hd with hd | hd
      · exact h.decisions d hd
      · exact List.mem_singleton.mp hd ▸ hnew

theorem Labelled.accepted {s' : RuntimeState} {event : FabricEvent} {bounds : RuntimeBounds}
    {weights : PlacementWeights} (h : Labelled s) (hacc : Accepted s event bounds weights s') :
    Labelled s' := by
  cases hacc with
  | topology =>
    exact h.congr (removeDevices_keep (f := fun s => (s.truncations, s.decisions))
      (fun _ _ => rfl) _ _)
  | intent body group plan authority r =>
    -- the one reducer that drops something: the oldest plans
    refine ⟨?_, h.decisions⟩
    simp only [commitIntent, retainPlan]
    split
    · split
      · exact note_container h.ledger (by simp [ledgerContainers])
      · exact h.ledger
    · exact h.ledger
  | _ => exact h.congr rfl

theorem labelled_standing :
    Standing (fun _ => True) (fun _ => True) (fun _ => 0) (fun _ => Labelled) where
  mono _ h := h
  edit hedit h := h.edit hedit
  blank _ := ⟨by simp [initialState], by simp [initialState]⟩
  restored h := h.congr rfl
  event {n s event config} _ _ h := by
    rcases applyEvent_cases s event config.bounds config.weights with
      (⟨-, hsame⟩ | ⟨-, hacc⟩) | ⟨-, -, hfenced⟩
    · rw [hsame]
      exact h
    · exact h.accepted hacc
    · rw [hfenced]
      exact h.congr rfl
  restarted _ h := h.congr rfl

/-! ## §3. What is accounted for. -/

/-- The row is in the ledger, or in a recorded decision. -/
def AccountedFor (s : RuntimeState) (row : TruncationRecord) : Prop :=
  row ∈ s.truncations.records ∨ ∃ d ∈ s.decisions, row ∈ d.truncations

instance (s : RuntimeState) (row : TruncationRecord) : Decidable (AccountedFor s row) :=
  inferInstanceAs (Decidable (_ ∨ _))

theorem AccountedFor.container (hs : Labelled s) {row : TruncationRecord} (h : AccountedFor s row) :
    row.container ∈ txt "decision.explanations" :: ledgerContainers := by
  rcases h with h | ⟨d, hd, h⟩
  · exact List.mem_cons_of_mem _ (hs.ledger row h)
  · rw [hs.decisions d hd row h]
    exact List.mem_cons_self

/-- Rows of foreign containers are accounted for only where there are none. -/
theorem accounted_iff_none (hs : Labelled s) {rows : List TruncationRecord}
    (hforeign : ∀ row ∈ rows, row.container ∉ txt "decision.explanations" :: ledgerContainers) :
    (∀ row ∈ rows, AccountedFor s row) ↔ rows = [] := by
  constructor
  · intro h
    rw [List.eq_nil_iff_forall_not_mem]
    exact fun row hrow => hforeign row hrow ((h row hrow).container hs)
  · rintro rfl
    simp

/-- **The planner's and the loader's losses are accounted for only where there
are none**, whichever state of whichever run is looked at afterwards. -/
theorem drops_accounted_iff (moves : List Move) (p : Process)
    (hp : (System.after {} moves).process = some p) :
    (∀ (s : RuntimeState) (event : FabricEvent) (bounds : RuntimeBounds)
        (weights : PlacementWeights),
        (∀ row ∈ planTruncations s event bounds weights, AccountedFor p.runtime.state row)
          ↔ planTruncations s event bounds weights = [])
      ∧ (∀ (o : StoreOptions) (st : Store) (w w' : RuntimeWorld),
        Store.open o w = (.ok st, w') →
        ((∀ row ∈ loadTruncations st w', AccountedFor p.runtime.state row)
          ↔ loadTruncations st w' = [])) := by
  have hlabelled := (labelled_standing.run
    (meets_any (fun s m => ⟨fun _ _ => trivial, takesUp_any s m⟩) moves)).holds p hp
  refine ⟨fun s event bounds weights => accounted_iff_none hlabelled fun row hrow hmem => ?_,
    fun o st w w' hopen => accounted_iff_none hlabelled fun row hrow hmem => ?_⟩
  · have hcontainer := planTruncations_container s event bounds weights row hrow
    have hdisjoint : ∀ c ∈ plannerContainers,
        c ∉ txt "decision.explanations" :: ledgerContainers := by decide
    exact hdisjoint _ hcontainer hmem
  · rw [loadTruncations_eq hopen row hrow] at hmem
    exact absurd hmem (by decide)

/-- One explanation per plan. -/
def terseConfig : RuntimeConfig := { sampleConfig with bounds := { maxExplanations := 1 } }

/-- Two services and no device to place them on. -/
def crowdedMoves : List Move :=
  .run (.start terseConfig) [] ::
    ([sampleEvent 1 (sampleTopology []), sampleEvent 2 samplePolicy,
      sampleEvent 3 (sampleService "a" none), sampleEvent 4 (sampleService "b" none),
      sampleEvent 5 (sampleGroup "g" ["a", "b"])].flatMap submitMoves
      ++ [.run (.call (.stage (sampleEvent 6 (sampleIntent .deploy "g" 1 ["a", "b"])))) [],
          .run (.call (.flushBegin ⟨6⟩)) []])

theorem crowdedMoves_runs : (System.after {} crowdedMoves).process.isSome = true := by
  decide +kernel

/-- An event that plans nothing drops nothing. -/
theorem policy_drops_nothing :
    (System.after {} crowdedMoves).process.isSome = true
      ∧ ∀ row ∈ planTruncations {} (sampleEvent 2 samplePolicy) {} {}, AccountedFor
        ((System.after {} crowdedMoves).process.get crowdedMoves_runs).runtime.state row :=
  ⟨crowdedMoves_runs,
    ((drops_accounted_iff crowdedMoves _ (Option.some_get crowdedMoves_runs).symm).1 {}
      (sampleEvent 2 samplePolicy) {} {}).mpr rfl⟩

/-- The plan of the two services drops an explanation, and the state after the
turn has no row for it. -/
theorem dropped_explanation_unaccounted :
    ¬ ((∀ (moves : List Move) (p q : Process) (event : FabricEvent),
          (System.after {} moves).next = some (p, event) →
          (System.after {} (moves ++ [.run (.call .flushEvent) []])).process = some q →
          ∀ row ∈ planTruncations p.runtime.state event p.runtime.config.bounds
            p.runtime.config.weights, AccountedFor q.runtime.state row)
        ∧ ∀ (moves : List Move) (config : RuntimeConfig) (faults : List (Option Nat)) (q : Process)
          (directory : Text) (st : Store) (w : RuntimeWorld),
          (System.after {} moves).process = none →
          (System.after {} (moves ++ [.run (.start config) faults])).process = some q →
          config.storeDirectory = some directory →
          Store.open (config.storeOptions directory)
            (World.note .started { trace := (System.after {} moves).trace, faults })
              = (.ok st, w) →
          ∀ row ∈ loadTruncations st w, AccountedFor q.runtime.state row) := by
  rintro ⟨h, -⟩
  have hbad : ((System.after {} crowdedMoves).next.any fun pe =>
      (System.after {} (crowdedMoves ++ [.run (.call .flushEvent) []])).process.any fun q =>
        (planTruncations pe.1.runtime.state pe.2 pe.1.runtime.config.bounds
          pe.1.runtime.config.weights).any fun row =>
            !decide (AccountedFor q.runtime.state row)) = true := by
    decide +kernel
  obtain ⟨⟨p, event⟩, hnext, hbad⟩ := (Option.any_eq_true _ _).mp hbad
  obtain ⟨q, hq, hbad⟩ := (Option.any_eq_true _ _).mp hbad
  obtain ⟨row, hrow, hbad⟩ := List.any_eq_true.mp hbad
  have haccounted := h crowdedMoves p q event hnext hq row hrow
  simp [haccounted] at hbad

end DpuFabric
