/-
  Runtime.TokenLife — HOW LONG A TOKEN LIVES WITHIN ONE PROCESS.

  A coordinator change starts the serials over.  Where it raises the epoch,
  the tokens before it are of an older epoch and stay invalid for the rest of
  the process.  But `reduce_coordinator` also takes a change to the PRESENT
  epoch: the serials start over all the same, and the first serial of the same
  epoch and boot is issued a second time.
-/
import DpuFabric.Engine.IssueLog
import DpuFabric.Runtime.Atomicity
import DpuFabric.Runtime.Continuity

namespace DpuFabric

open Lib

variable {log : List (InstanceId × FenceToken)}

/-! ## §1. The tokens of a process. -/

/-- The tokens that were issued between two states of a process: what the
attempts of the second carry beyond those of the first. -/
def IssuedBetween (s t : RuntimeState) (log : List (InstanceId × FenceToken)) : Prop :=
  (tableTokens t.instances).Perm (tableTokens s.instances ++ log)

/-- From an empty table on, every token on record was issued. -/
theorem issuedBetween_of_nil {s : RuntimeState} (h : tableTokens s.instances = [])
    (t : RuntimeState) : IssuedBetween s t (tableTokens t.instances) := by
  rw [IssuedBetween, h, List.nil_append]

/-- The event is no change to the present epoch. -/
def NewEpoch (s : RuntimeState) (event : FabricEvent) : Prop :=
  match event.body with
  | .coordinatorAdvanced body => body.epoch ≠ s.epoch
  | _ => True

instance (s : RuntimeState) (event : FabricEvent) : Decidable (NewEpoch s event) := by
  unfold NewEpoch
  generalize event.body = body
  apply @FabricEventBody.casesOn _ body <;> infer_instance

/-- The move is no restart, and takes up no change to the present epoch. -/
def EpochAdvances (s : System) (m : Move) : Prop :=
  SameLifetime s m ∧ ∀ pe, s.next = some pe → NewEpoch pe.1.runtime.state pe.2

instance (s : System) (m : Move) : Decidable (EpochAdvances s m) :=
  inferInstanceAs (Decidable (_ ∧ _))

/-- The tokens issued since `base` are on the ledger of the issuer. -/
structure Accounted (base : List (InstanceId × FenceToken)) (s : RuntimeState) : Prop where
  carry : FencesCarry s
  issued : ∃ log, (tableTokens s.instances).Perm (base ++ log) ∧ Ledger s.fences log

section Steps

variable {s t : RuntimeState} {event : FabricEvent} {bounds : RuntimeBounds}
  {weights : PlacementWeights} {base : List (InstanceId × FenceToken)}

theorem core_tokens (h : core s = core t) : tableTokens s.instances = tableTokens t.instances := by
  have hsame : s.instances.map InstanceState.withoutHealth
      = t.instances.map InstanceState.withoutHealth := congrArg RuntimeState.instances h
  have htokens : ∀ xs : List InstanceState,
      tableTokens (xs.map InstanceState.withoutHealth) = tableTokens xs := by
    intro xs
    rw [tableTokens, List.flatMap_map]
    rfl
  rw [← htokens, hsame, htokens]

theorem core_fences (h : core s = core t) : s.fences = t.fences := by
  have hfield := congrArg RuntimeState.fences h
  exact hfield

theorem Accounted.of_core (h : core s = core t) (hs : Accounted base s) : Accounted base t := by
  obtain ⟨log, hperm, hledger⟩ := hs.issued
  exact ⟨hs.carry.of_core h, log, core_tokens h ▸ hperm, core_fences h ▸ hledger⟩

/-- One event: its calls of `issue` go on the ledger, a new epoch opens a new
page. -/
theorem Accounted.applyEvent (hs : Accounted base s) (hnew : NewEpoch s event) :
    Accounted base (applyEvent s event bounds weights).2 := by
  refine ⟨applyEvent_fencesCarry hs.carry event bounds weights, ?_⟩
  obtain ⟨log, hperm, hledger⟩ := hs.issued
  rcases applyEvent_outcome hs.carry event bounds weights with ⟨-, hsame⟩ | ⟨-, hacc⟩
  · rw [hsame]
    exact ⟨log, hperm, hledger⟩
  rcases hacc.tokenStep with ⟨more, hissues, hmore⟩ | ⟨body, hbody, hle, hfences, hsame⟩
  · refine ⟨log ++ more, hmore.trans ?_, hledger.issues hissues⟩
    rw [← List.append_assoc]
    exact hperm.append_right more
  · refine ⟨log, hsame.trans hperm, ?_⟩
    rw [NewEpoch, hbody] at hnew
    rw [hfences, ← hs.carry.boot]
    refine hledger.advance ?_
    rw [hs.carry.epoch]
    exact lt_of_le_of_ne hle (Ne.symm hnew)

/-- The tokens of the log are of an older epoch. -/
structure Outdated (log : List (InstanceId × FenceToken)) (s : RuntimeState) : Prop where
  carry : FencesCarry s
  older : ∀ e ∈ log, e.2.epoch < s.epoch

theorem Outdated.invalid (h : Outdated log s) {e : InstanceId × FenceToken} (he : e ∈ log) :
    s.fences.validate e.1 e.2 = false := by
  have hne : e.2.epoch ≠ s.fences.epoch := by
    rw [h.carry.epoch]
    exact ne_of_lt (h.older e he)
  simp [FenceIssuer.validate, hne]

theorem Accepted.epoch_le (h : Accepted s event bounds weights t) : s.epoch ≤ t.epoch := by
  cases h with
  | coordinator body fences hbody hle => exact hle
  | topology body dpus =>
    have hkeep : (acceptTopology s event body.snapshot dpus).epoch = s.epoch :=
      removeDevices_keep (f := RuntimeState.epoch) (fun _ _ => rfl) _ _
    exact hkeep.ge
  | _ => exact le_rfl

/-- An applied coordinator change that raises the epoch outdates the ledger. -/
theorem outdated_of_coordinator {body : CoordinatorAdvanced}
    (hcarry : FencesCarry s) (hledger : Ledger s.fences log)
    (hbody : event.body = .coordinatorAdvanced body) (hnew : NewEpoch s event)
    (happlied : (applyEvent s event bounds weights).1.applied = true) :
    Outdated log (applyEvent s event bounds weights).2 := by
  refine ⟨applyEvent_fencesCarry hcarry event bounds weights, fun e he => ?_⟩
  have hold := hledger.epoch e he
  rw [hcarry.epoch] at hold
  rcases applyEvent_outcome hcarry event bounds weights with ⟨hrefused, -⟩ | ⟨-, hacc⟩
  · exact absurd (happlied.symm.trans hrefused) (by simp)
  generalize (applyEvent s event bounds weights).2 = t at hacc ⊢
  cases hacc with
  | coordinator body' fences hbody' hle =>
    rw [NewEpoch, hbody'] at hnew
    exact hold.trans_lt (lt_of_le_of_ne hle (Ne.symm hnew))
  | _ => simp_all

theorem Outdated.applyEvent (h : Outdated log s)
    (event : FabricEvent) (bounds : RuntimeBounds) (weights : PlacementWeights) :
    Outdated log (applyEvent s event bounds weights).2 := by
  refine ⟨applyEvent_fencesCarry h.carry event bounds weights, fun e he => ?_⟩
  rcases applyEvent_outcome h.carry event bounds weights with ⟨-, hsame⟩ | ⟨-, hacc⟩
  · rw [hsame]
    exact h.older e he
  · exact (h.older e he).trans_le hacc.epoch_le

theorem Outdated.of_core (h : core s = core t) (hs : Outdated log s) : Outdated log t := by
  have hepoch := congrArg RuntimeState.epoch h
  exact ⟨hs.carry.of_core h, fun e he => (hs.older e he).trans_eq hepoch⟩

end Steps

/-! ## §2. Every run of a process. -/

theorem step_accounted {base : List (InstanceId × FenceToken)} {s : System} {m : Move}
    (hs : s.Holds (Accounted base)) (hm : EpochAdvances s m) :
    (s.step m).Holds (Accounted base) := by
  refine System.step_holds Accounted.of_core hs ?_ ?_
  · rintro config faults rt w rfl - -
    exact absurd rfl (hm.1 config)
  intro p event faults _ hnext l n
  have hp := hs p (System.next_process hnext)
  exact Accounted.applyEvent (hp.of_core (core_recounted _ l n).symm) (hm.2 (p, event) hnext)

theorem step_outdated {s : System} {m : Move} (hs : s.Holds (Outdated log))
    (hm : SameLifetime s m) : (s.step m).Holds (Outdated log) := by
  refine System.step_holds Outdated.of_core hs ?_ ?_
  · rintro config faults rt w rfl - -
    exact absurd rfl (hm config)
  intro p event faults _ hnext l n
  have hp := hs p (System.next_process hnext)
  exact (hp.of_core (core_recounted _ l n).symm).applyEvent event _ _

/-- **A coordinator change ends every token before it.**  Along a process in
which no change repeats the present epoch, no token is issued twice, and once
a change is applied no token issued before it validates again. -/
theorem coordinator_change_ends_tokens (pre : List Move) (p₀ : Process)
    (hp₀ : (System.after {} pre).process = some p₀) (mid : List Move)
    (hmid : Meets System.step EpochAdvances (System.after {} pre) mid) (p₁ : Process)
    (hp₁ : (System.after (System.after {} pre) mid).process = some p₁)
    (log : List (InstanceId × FenceToken))
    (hlog : IssuedBetween p₀.runtime.state p₁.runtime.state log) :
    log.Nodup ∧ ∀ (m : Move) (event : FabricEvent) (body : CoordinatorAdvanced),
      event.body = .coordinatorAdvanced body →
      event ∈ (System.after (System.after {} pre) mid).applies m →
      EpochAdvances (System.after (System.after {} pre) mid) m →
      ∀ post, Meets System.step SameLifetime
        ((System.after (System.after {} pre) mid).step m) post →
      ∀ p₂, (System.after ((System.after (System.after {} pre) mid).step m) post).process = some p₂ →
      ∀ e ∈ log, p₂.runtime.state.fences.validate e.1 e.2 = false := by
  have hstart : (System.after {} pre).Holds (Accounted (tableTokens p₀.runtime.state.instances)) := by
    intro p hp
    obtain rfl := Option.some.inj (hp₀.symm.trans hp)
    refine ⟨run_fencesCarry [] pre p₀ hp₀, [], by rw [List.append_nil], ?_⟩
    exact ⟨List.nodup_nil, by simp, by simp, by simp⟩
  have hacc := run_invariant (fun _ _ => step_accounted) hstart hmid p₁ hp₁
  have hledger : Ledger p₁.runtime.state.fences log := by
    obtain ⟨log', hperm, hledger⟩ := hacc.issued
    exact hledger.perm ((List.perm_append_left_iff _).mp (hperm.symm.trans hlog))
  refine ⟨hledger.nodup, fun m event body hbody happlies hm post hpost p₂ hp₂ e he => ?_⟩
  have hafter : ((System.after (System.after {} pre) mid).step m).Holds (Outdated log) := by
    intro q hq
    cases m with
    | crash op faults n => simp [System.step] at hq
    | run op faults =>
      obtain ⟨p, l, n, q', -, hnext, happlied, hq', hstate⟩ := System.applies_run happlies
      obtain rfl := Option.some.inj (hq'.symm.trans hq)
      obtain rfl := Option.some.inj ((System.next_process hnext).symm.trans hp₁)
      rw [hstate]
      refine Outdated.of_core (core_advanceState ..).symm ?_
      exact outdated_of_coordinator (hacc.carry.recounted l n) hledger hbody (hm.2 (p, event) hnext)
        happlied
  exact (run_invariant (fun _ _ => step_outdated) hafter hpost p₂ hp₂).invalid he

/-- A coordinator change. -/
def coordinatorChange (epoch : UInt64) : FabricEvent :=
  sampleEvent 6 (.coordinatorAdvanced { epoch := ⟨epoch⟩ })

/-- The process as it is opened, then service `a` deployed, and a coordinator
change staged and released. -/
def changeMoves (epoch : UInt64) : List Move :=
  [sampleEvent 1 (sampleTopology ["d"]), sampleEvent 2 samplePolicy,
   sampleEvent 3 (sampleService "a" none), sampleEvent 4 (sampleGroup "g" ["a"]),
   sampleEvent 5 (sampleIntent .deploy "g" 1 ["a"])].flatMap submitMoves
    ++ (submitMoves (coordinatorChange epoch)).take 2

/-- What follows the change: the service is deployed again. -/
def afterChange : List Move :=
  [.run (.call .flushEnd) []] ++ submitMoves (sampleEvent 7 (sampleIntent .deploy "g" 2 ["a"]))

/-- The system before the change, and at the end. -/
def beforeChange (epoch : UInt64) : System :=
  System.after (System.after {} [.run (.start sampleConfig) []]) (changeMoves epoch)

def changed (epoch : UInt64) : System :=
  System.after ((beforeChange epoch).step (.run (.call .flushEvent) [])) afterChange

theorem started_runs : (System.after {} [.run (.start sampleConfig) []]).process.isSome = true := by
  decide +kernel

theorem started_tokens :
    tableTokens (Option.get _ started_runs).runtime.state.instances = [] := by decide +kernel

theorem beforeChange_runs : (beforeChange 2).process.isSome = true := by decide +kernel

theorem changed_runs : (changed 2).process.isSome = true := by decide +kernel

/-- With a new epoch the token of the first deployment is gone. -/
theorem new_epoch_ends_token :
    tableTokens ((beforeChange 2).process.get beforeChange_runs).runtime.state.instances ≠ []
      ∧ ∀ e ∈ tableTokens ((beforeChange 2).process.get beforeChange_runs).runtime.state.instances,
        ((changed 2).process.get changed_runs).runtime.state.fences.validate e.1 e.2 = false :=
  ⟨by decide +kernel, (coordinator_change_ends_tokens [.run (.start sampleConfig) []] _
    (Option.some_get started_runs).symm (changeMoves 2) (by decide +kernel) _
    (Option.some_get beforeChange_runs).symm _ (issuedBetween_of_nil started_tokens _)).2
    (.run (.call .flushEvent) []) (coordinatorChange 2) { epoch := ⟨2⟩ } rfl (by decide +kernel)
    (by decide +kernel) afterChange (by decide +kernel) _ (Option.some_get changed_runs).symm⟩

/-- With the present epoch it is issued again, and validates. -/
theorem same_epoch_reissues_token :
    ¬ ∀ (pre : List Move) (p₀ : Process), (System.after {} pre).process = some p₀ →
      ∀ mid, Meets System.step SameLifetime (System.after {} pre) mid →
      ∀ p₁, (System.after (System.after {} pre) mid).process = some p₁ →
      ∀ log, IssuedBetween p₀.runtime.state p₁.runtime.state log →
      ∀ (m : Move) (event : FabricEvent) (body : CoordinatorAdvanced),
        event.body = .coordinatorAdvanced body →
        event ∈ (System.after (System.after {} pre) mid).applies m →
      ∀ post, Meets System.step SameLifetime
        ((System.after (System.after {} pre) mid).step m) post →
      ∀ p₂, (System.after ((System.after (System.after {} pre) mid).step m) post).process = some p₂ →
      ∀ e ∈ log, p₂.runtime.state.fences.validate e.1 e.2 = false := by
  intro h
  have hbefore : ((beforeChange 1).process.any (fun p => decide (
      tableTokens p.runtime.state.instances = [(sampleInstance "g" "a", ⟨⟨1⟩, ⟨1⟩, 1⟩)]))) = true := by
    decide +kernel
  have hafter : ((changed 1).process.any (fun p =>
      p.runtime.state.fences.validate (sampleInstance "g" "a") ⟨⟨1⟩, ⟨1⟩, 1⟩)) = true := by
    decide +kernel
  obtain ⟨p₁, hp₁, htoken⟩ := (Option.any_eq_true _ _).mp hbefore
  obtain ⟨p₂, hp₂, hvalid⟩ := (Option.any_eq_true _ _).mp hafter
  have hinvalid := h [.run (.start sampleConfig) []] _ (Option.some_get started_runs).symm
    (changeMoves 1) (by decide +kernel) p₁ hp₁ _ (issuedBetween_of_nil started_tokens _)
    (.run (.call .flushEvent) []) (coordinatorChange 1) { epoch := ⟨1⟩ } rfl (by decide +kernel)
    afterChange (by decide +kernel) p₂ hp₂ (sampleInstance "g" "a", ⟨⟨1⟩, ⟨1⟩, 1⟩)
    (by rw [of_decide_eq_true htoken]; simp)
  rw [hvalid] at hinvalid
  simp at hinvalid

end DpuFabric
