/-
  Engine.IssueLog — EVERY TOKEN THAT IS ISSUED IS ON RECORD.

  A token leaves the issuer only to be written on the attempt it is issued
  for, and no attempt is ever dropped or given another token.  So the tokens
  on the attempts of the table, less those that were there before, are the
  log of the issuer's calls (`Accepted.tokenStep`): for an intent one entry
  per call of `issue`, for any other event none.

  The log of an issuer that is never reset within an epoch has no token twice
  (`Ledger`): serials count up, and a new epoch starts them over.
-/
import DpuFabric.Engine.Issuer
import DpuFabric.Engine.Attempts

namespace DpuFabric

open Lib Relation

variable {f f' g : FenceIssuer} {log : List (InstanceId × FenceToken)} {xs ys : List InstanceState}
  {x : InstanceId} {i j : InstanceState} {token : FenceToken}

/-! ## §1. The log of an issuer. -/

/-- The issuer goes from one state to another by issuing these tokens, in this
order. -/
inductive Issues : FenceIssuer → List (InstanceId × FenceToken) → FenceIssuer → Prop where
  | nil (f : FenceIssuer) : Issues f [] f
  | issue {f g g' : FenceIssuer} {log : List (InstanceId × FenceToken)} {x : InstanceId}
      {token : FenceToken} (h : Issues f log g) (hissue : g.issue x = .ok (token, g')) :
      Issues f (log ++ [(x, token)]) g'

theorem Issues.trans {g' : FenceIssuer} {more : List (InstanceId × FenceToken)}
    (h : Issues f log g) (h' : Issues g more g') : Issues f (log ++ more) g' := by
  induction h' with
  | nil => rwa [List.append_nil]
  | issue _ hissue ih =>
    rw [← List.append_assoc]
    exact ih.issue hissue

/-- The last serial of an instance, zero if it has none. -/
def FenceIssuer.serialOf (f : FenceIssuer) (x : InstanceId) : Nat :=
  match f.find x with
  | none => 0
  | some entry => entry.serial.toNat

section Find

variable {α : Type} {p q : α → Bool} {g : α → α}

/-- Changing the first match of `p` changes what the search for `p` finds. -/
theorem find?_modify_findIdx (hg : ∀ a, p (g a) = p a) (l : List α) :
    (l.modify (l.findIdx p) g).find? p = (l.find? p).map g := by
  induction l with
  | nil => rfl
  | cons a l ih =>
    by_cases ha : p a = true
    · simp [List.findIdx_cons, ha, hg]
    · simp [List.findIdx_cons, ha, ih]

theorem find?_modify_findIdx_of_disjoint (hg : ∀ a, q (g a) = q a)
    (hpq : ∀ a, p a = true → q a = false) (l : List α) :
    (l.modify (l.findIdx p) g).find? q = l.find? q := by
  induction l with
  | nil => rfl
  | cons a l ih =>
    by_cases ha : p a = true
    · simp [List.findIdx_cons, ha, hg, hpq a ha]
    · simp [List.findIdx_cons, ha, List.find?_cons, ih]

end Find

/-- One call of `issue`: the next serial of the instance, in the issuer's
epoch and boot, and the entry it leaves. -/
theorem issue_find (h : f.issue x = .ok (token, f')) :
    token.epoch = f.epoch ∧ token.boot = f.boot ∧ token.serial.toNat = f.serialOf x + 1
      ∧ (∃ entry, f'.find x = some entry ∧ entry.serial = token.serial)
      ∧ ∀ y, y ≠ x → f'.find y = f.find y := by
  unfold FenceIssuer.issue at h
  split at h
  · simp at h
  split at h
  · simp at h
  split at h
  · next hfind =>
    obtain ⟨rfl, rfl⟩ := Prod.mk.inj (Except.ok.inj h)
    have hnone : f.serials.find? (fun e => decide (e.instanceId = x)) = none := hfind
    refine ⟨rfl, rfl, ?_, ⟨{ instanceId := x, serial := 1 }, ?_, rfl⟩, fun y hy => ?_⟩
    · simp [FenceIssuer.serialOf, hfind]
    · simp [FenceIssuer.find, List.find?_append, hnone]
    · simp [FenceIssuer.find, List.find?_append, hy.symm]
  · next entry hfind =>
    split at h
    · simp at h
    next next hadd =>
    obtain ⟨rfl, rfl⟩ := Prod.mk.inj (Except.ok.inj h)
    refine ⟨rfl, rfl, ?_, ⟨{ entry with serial := next }, ?_, rfl⟩, fun y hy => ?_⟩
    · simp [FenceIssuer.serialOf, hfind, checkedAdd_toNat hadd]
    · have hsome : f.serials.find? (fun e => decide (e.instanceId = x)) = some entry := hfind
      have hfound := find?_modify_findIdx (p := fun e => decide (e.instanceId = x))
        (g := fun e => { e with serial := next }) (fun _ => rfl) f.serials
      simp only [FenceIssuer.find, hfound, hsome, Option.map_some]
    · exact find?_modify_findIdx_of_disjoint
        (p := fun e => decide (e.instanceId = x)) (q := fun e => decide (e.instanceId = y))
        (g := fun e => { e with serial := next }) (fun _ => rfl)
        (fun e he => by simp [of_decide_eq_true he, hy.symm]) f.serials

theorem issue_serial (h : f.issue x = .ok (token, f')) :
    token.epoch = f.epoch ∧ token.boot = f.boot ∧ token.serial.toNat = f.serialOf x + 1
      ∧ f'.serialOf x = f.serialOf x + 1 ∧ ∀ y, y ≠ x → f'.serialOf y = f.serialOf y := by
  obtain ⟨hepoch, hboot, hserial, ⟨entry, hentry, hsame⟩, hothers⟩ := issue_find h
  refine ⟨hepoch, hboot, hserial, ?_, fun y hy => ?_⟩
  · rw [← hserial, FenceIssuer.serialOf, hentry, ← hsame]
  · unfold FenceIssuer.serialOf
    rw [hothers y hy]

/-! ## §2. No token twice. -/

/-- The tokens of a log against the issuer that issued them: none twice, all
of its boot, none of a later epoch, and those of its epoch up to the serial it
has come to. -/
structure Ledger (f : FenceIssuer) (log : List (InstanceId × FenceToken)) : Prop where
  nodup : log.Nodup
  boot : ∀ e ∈ log, e.2.boot = f.boot
  epoch : ∀ e ∈ log, e.2.epoch ≤ f.epoch
  serial : ∀ e ∈ log, e.2.epoch = f.epoch → e.2.serial.toNat ≤ f.serialOf e.1

theorem Ledger.issue (h : Ledger f log) (hissue : f.issue x = .ok (token, f')) :
    Ledger f' (log ++ [(x, token)]) := by
  obtain ⟨hepoch, hboot, hserial, hself, hothers⟩ := issue_serial hissue
  obtain ⟨hepoch', hboot'⟩ := issue_epoch_boot hissue
  have hnew : (x, token) ∉ log := by
    intro hmem
    have hle := h.serial _ hmem hepoch
    simp only at hle
    omega
  refine ⟨?_, ?_, ?_, ?_⟩
  · rw [List.nodup_append]
    refine ⟨h.nodup, by simp, fun a ha b hb hab => ?_⟩
    rw [List.mem_singleton.mp hb] at hab
    exact hnew (hab ▸ ha)
  · intro e he
    rw [hboot']
    rcases List.mem_append.mp he with he | he
    · exact h.boot e he
    · rw [List.mem_singleton.mp he]
      exact hboot
  · intro e he
    rw [hepoch']
    rcases List.mem_append.mp he with he | he
    · exact h.epoch e he
    · rw [List.mem_singleton.mp he]
      exact hepoch.le
  · intro e he heq
    rcases List.mem_append.mp he with he | he
    · have hle := h.serial e he (heq.trans hepoch')
      by_cases hx : e.1 = x
      · rw [hx, hself]
        rw [hx] at hle
        omega
      · rw [hothers _ hx]
        exact hle
    · rw [List.mem_singleton.mp he]
      exact (hserial.trans hself.symm).le

theorem Ledger.issues {more : List (InstanceId × FenceToken)}
    (h : Ledger f log) (hmore : Issues f more g) : Ledger g (log ++ more) := by
  induction hmore with
  | nil => rwa [List.append_nil]
  | issue _ hissue ih =>
    rw [← List.append_assoc]
    exact ih.issue hissue

/-- A later epoch starts the serials over: no old token is of that epoch. -/
theorem Ledger.advance (h : Ledger f log) {epoch : CoordinatorEpoch} (hlt : f.epoch < epoch) :
    Ledger { epoch, boot := f.boot, serials := [] } log where
  nodup := h.nodup
  boot := h.boot
  epoch e he := (h.epoch e he).trans hlt.le
  serial e he heq := by
    have hle := h.epoch e he
    rw [heq] at hle
    exact absurd hle (not_le.mpr hlt)

theorem Ledger.perm {log' : List (InstanceId × FenceToken)} (h : Ledger f log)
    (hperm : log.Perm log') : Ledger f log' where
  nodup := hperm.nodup_iff.mp h.nodup
  boot e he := h.boot e (hperm.mem_iff.mpr he)
  epoch e he := h.epoch e (hperm.mem_iff.mpr he)
  serial e he := h.serial e (hperm.mem_iff.mpr he)

/-! ## §3. Tokens on attempts. -/

/-- The tokens on the attempts of an instance. -/
def InstanceState.tokens (i : InstanceState) : List (InstanceId × FenceToken) :=
  i.attempts.map (fun a => (i.id, a.fence))

/-- The tokens on the attempts of the table. -/
def tableTokens (instances : List InstanceState) : List (InstanceId × FenceToken) :=
  instances.flatMap InstanceState.tokens

theorem tableTokens_append (xs ys : List InstanceState) :
    tableTokens (xs ++ ys) = tableTokens xs ++ tableTokens ys := List.flatMap_append

theorem tableTokens_perm (h : xs.Perm ys) :
    (tableTokens xs).Perm (tableTokens ys) := h.flatMap_right _

theorem tableTokens_congr (h : List.Forall₂ (fun i j => j.tokens = i.tokens) xs ys) :
    tableTokens ys = tableTokens xs := by
  induction h with
  | nil => rfl
  | cons hij _ ih => exact congrArg₂ (· ++ ·) hij ih

theorem tableTokens_set {k : Nat} (hk : xs[k]? = some i) (hj : j.tokens = i.tokens ++ log) :
    (tableTokens (xs.set k j)).Perm (tableTokens xs ++ log) := by
  induction xs generalizing k with
  | nil => simp at hk
  | cons y xs ih =>
    cases k with
    | zero =>
      obtain rfl := Option.some.inj hk
      show (j.tokens ++ tableTokens xs).Perm (y.tokens ++ tableTokens xs ++ log)
      rw [hj, List.append_assoc, List.append_assoc]
      exact List.perm_append_comm.append_left _
    | succ k =>
      show (y.tokens ++ tableTokens (xs.set k j)).Perm (y.tokens ++ tableTokens xs ++ log)
      rw [List.append_assoc]
      exact (ih hk).append_left _

/-! ## §4. Every event. -/

theorem tokens_eq_map (i : InstanceState) :
    i.tokens = (i.attempts.map AttemptRecord.fence).map (fun fence => (i.id, fence)) := by
  simp [InstanceState.tokens, Function.comp_def]

theorem tokens_of_fences (hid : j.id = i.id)
    (h : j.attempts.map AttemptRecord.fence = i.attempts.map AttemptRecord.fence) :
    j.tokens = i.tokens := by
  rw [tokens_eq_map, tokens_eq_map, h, hid]

/-- An attempt opened behind the others, which keep their tokens. -/
theorem tokens_of_opened {fence : FenceToken}
    (h : j.attempts.map AttemptRecord.fence = i.attempts.map AttemptRecord.fence ++ [fence])
    (hid : j.id = i.id) : j.tokens = i.tokens ++ [(i.id, fence)] := by
  rw [tokens_eq_map, tokens_eq_map, h, hid, List.map_append]
  rfl

theorem cancel_fence (instant : LogicalInstant) (reason : ReasonCode) (a : AttemptRecord) :
    (a.cancel instant reason).fence = a.fence := by
  unfold AttemptRecord.cancel
  split
  · rfl
  · rfl

theorem cancelAll_fences (instant : LogicalInstant) (reason : ReasonCode)
    (attempts : List AttemptRecord) :
    (attempts.map (AttemptRecord.cancel instant reason)).map AttemptRecord.fence
      = attempts.map AttemptRecord.fence := by
  rw [List.map_map]
  exact List.map_congr_left fun a _ => cancel_fence instant reason a

theorem mapLastAttempt_fences {f : AttemptRecord → AttemptRecord}
    (hattempts : j.attempts = mapLastAttempt f i.attempts) (hf : ∀ a, (f a).fence = a.fence) :
    j.attempts.map AttemptRecord.fence = i.attempts.map AttemptRecord.fence := by
  rw [hattempts]
  rcases List.eq_nil_or_concat' i.attempts with hnil | ⟨front, a, hconcat⟩
  · rw [hnil]
    rfl
  · rw [hconcat, mapLastAttempt_concat, List.map_append, List.map_append, List.map_singleton,
      List.map_singleton, hf]

section Steps

variable {s s' : RuntimeState} {event : FabricEvent} {bounds : RuntimeBounds}
  {weights : PlacementWeights} {i j : InstanceState}

theorem InstanceStep.tokens_eq (h : InstanceStep s event bounds weights i j)
    (hquiet : ∀ body, event.body ≠ .intentSubmitted body) : j.tokens = i.tokens := by
  have hnoplan : ∀ {group plan}, ¬ Planned s event bounds weights group plan := by
    rintro _ _ ⟨body, hbody, -⟩
    exact hquiet body hbody
  refine tokens_of_fences h.id_eq ?_
  cases h with
  | refreshed =>
    unfold refreshInstance
    repeat' split
    all_goals rfl
  | stale =>
    unfold markStale
    split
    all_goals rfl
  | fenced => exact cancelAll_fences _ _ _
  | lost => exact cancelAll_fences _ _ _
  | quiesced => exact cancelAll_fences _ _ _
  | acknowledged => exact mapLastAttempt_fences rfl (fun _ => rfl)
  | failed => exact mapLastAttempt_fences rfl (fun _ => rfl)
  | withdrawn => exact mapLastAttempt_fences rfl (fun _ => rfl)
  | verified => exact mapLastAttempt_fences rfl (fun _ => rfl)
  | replaced _ _ hplan => exact absurd hplan hnoplan
  | reattempted _ _ hplan => exact absurd hplan hnoplan
  | covered _ _ hplan => exact absurd hplan hnoplan
  | retired _ _ hplan => exact absurd hplan hnoplan
  | withdrawing _ _ hplan => exact absurd hplan hnoplan

theorem steps_tokens_eq (h : ReflTransGen (InstanceStep s event bounds weights) i j)
    (hquiet : ∀ body, event.body ≠ .intentSubmitted body) : j.tokens = i.tokens := by
  induction h with
  | refl => rfl
  | tail _ hstep ih => exact (hstep.tokens_eq hquiet).trans ih

theorem Entrywise.tokens {after : List InstanceState} (h : Entrywise s event bounds weights after)
    (hquiet : ∀ body, event.body ≠ .intentSubmitted body) :
    (tableTokens after).Perm (tableTokens s.instances) := by
  obtain ⟨created, changed, hperm, hforall, hcreated⟩ := h
  have hnone : created = [] := by
    refine List.eq_nil_iff_forall_not_mem.mpr fun c hc => ?_
    obtain ⟨_, _, ⟨body, hbody, -⟩⟩ := hcreated c hc
    exact hquiet body hbody
  rw [hnone, List.append_nil] at hforall
  refine (tableTokens_perm hperm).trans ?_
  rw [tableTokens_congr (hforall.imp fun _ _ hsteps => steps_tokens_eq hsteps hquiet)]

/-! ### Reconciliation. -/

variable {group : ServiceGroup} {plan : DeploymentPlan}

/-- The table has the tokens it had and those issued since. -/
def Recorded (before : List InstanceState) (f : FenceIssuer) (after : List InstanceState)
    (g : FenceIssuer) : Prop :=
  ∃ log, Issues f log g ∧ (tableTokens after).Perm (tableTokens before ++ log)

theorem Recorded.refl (instances : List InstanceState) (f : FenceIssuer) :
    Recorded instances f instances f := ⟨[], .nil f, by rw [List.append_nil]⟩

theorem Recorded.trans {zs : List InstanceState} {g' : FenceIssuer}
    (h : Recorded xs f ys g) (h' : Recorded ys g zs g') : Recorded xs f zs g' := by
  obtain ⟨log, hissues, hperm⟩ := h
  obtain ⟨more, hmore, hperm'⟩ := h'
  refine ⟨log ++ more, hissues.trans hmore, hperm'.trans ?_⟩
  rw [← List.append_assoc]
  exact hperm.append_right more

/-- The token of one call is written on the attempt that the entry gains. -/
theorem recorded_set {k : Nat}
    {fence : FenceToken} (hk : xs[k]? = some i) (hissue : f.issue x = .ok (fence, g))
    (hj : j.tokens = i.tokens ++ [(x, fence)]) : Recorded xs f (xs.set k j) g :=
  ⟨[(x, fence)], (Issues.nil f).issue hissue, tableTokens_set hk hj⟩

theorem replacedInstance_tokens (sp : ServicePlan) (replica : PlannedReplica) (fence : FenceToken) :
    (replacedInstance i plan event sp replica fence).tokens = i.tokens ++ [(i.id, fence)] := by
  refine tokens_of_opened ?_ rfl
  rw [← cancelAll_fences event.instant (if i.terminal then .superseded else .attemptSuperseded)
    i.attempts]
  exact List.map_append

theorem reattemptedInstance_tokens (fence : FenceToken) :
    (reattemptedInstance i plan event fence).tokens = i.tokens ++ [(i.id, fence)] :=
  tokens_of_opened List.map_append rfl

theorem withdrawalAttempt_tokens (fence : FenceToken) :
    (withdrawalAttempt (quiesceInstance event.instant i) plan event fence).tokens
      = i.tokens ++ [(i.id, fence)] := by
  refine tokens_of_opened ?_ rfl
  rw [← cancelAll_fences event.instant .quiesceRequested i.attempts]
  exact List.map_append

theorem reconcileReplica_recorded {p : ServicePlan × PlannedReplica} {r r' : Reconciling}
    (h : reconcileReplica plan group event bounds r p = .ok r') :
    Recorded r.instances r.fences r'.instances r'.fences := by
  simp only [reconcileReplica] at h
  split at h
  · split at h
    · simp at h
    split at h
    · simp at h
    next fence fences hissue =>
    rw [← Except.ok.inj h]
    refine ⟨_, (Issues.nil _).issue hissue, ?_⟩
    rw [tableTokens_append]
    exact List.Perm.refl _
  · next k i hfind =>
    obtain ⟨hk, hid⟩ := findInstance_some hfind
    split at h
    · split at h
      · simp at h
      next fence fences hissue =>
      rw [← Except.ok.inj h]
      rw [← hid] at hissue
      exact recorded_set hk hissue (replacedInstance_tokens p.1 p.2 fence)
    · split at h
      · split at h
        · simp at h
        next fence fences hissue =>
        rw [← Except.ok.inj h]
        rw [← hid] at hissue
        exact recorded_set hk hissue (reattemptedInstance_tokens fence)
      · rw [← Except.ok.inj h]
        refine ⟨[], .nil _, tableTokens_set hk ?_⟩
        exact (List.append_nil _).symm

theorem Quiesced.recorded (h : Quiesced plan group event f i j g) : Recorded [i] f [j] g := by
  cases h with
  | kept => exact Recorded.refl _ _
  | retired =>
    have hsame : (quiesceInstance event.instant i).tokens = i.tokens :=
      tokens_of_fences rfl (cancelAll_fences _ _ _)
    refine ⟨[], .nil _, ?_⟩
    simp only [tableTokens, List.flatMap_singleton, hsame, List.append_nil]
    exact List.Perm.refl _
  | @withdrawing fence _ _ _ hissue =>
    have hfirst : [i][0]? = some i := rfl
    exact recorded_set hfirst hissue (withdrawalAttempt_tokens fence)

theorem quiesceLoop_recorded (h : quiesceLoop plan group event f xs = .ok (ys, g)) :
    Recorded xs f ys g := by
  induction xs generalizing f ys with
  | nil =>
    cases h
    exact Recorded.refl _ _
  | cons i xs ih =>
    simp only [quiesceLoop, bind_eq_ok, pure_eq_ok, Prod.exists, Prod.mk.injEq] at h
    obtain ⟨j, f₁, hstep, rest, f₂, hrest, rfl, rfl⟩ := h
    obtain ⟨log, hissues, hperm⟩ := (quiesceUncovered_quiesced hstep).recorded
    obtain ⟨more, hmore, hperm'⟩ := ih hrest
    refine ⟨log ++ more, hissues.trans hmore, ?_⟩
    -- the head's tokens, then the head's log, then the rest
    have hhead : (tableTokens (j :: rest)).Perm
        (tableTokens [i] ++ log ++ (tableTokens xs ++ more)) := by
      show (j.tokens ++ tableTokens rest).Perm _
      refine List.Perm.append ?_ hperm'
      simpa [tableTokens] using hperm
    refine hhead.trans ?_
    show (tableTokens [i] ++ log ++ (tableTokens xs ++ more)).Perm
      (i.tokens ++ tableTokens xs ++ (log ++ more))
    have hone : tableTokens [i] = i.tokens := by simp [tableTokens]
    rw [hone, List.append_assoc, List.append_assoc, ← List.append_assoc log,
      ← List.append_assoc (tableTokens xs)]
    exact (List.perm_append_comm.append_right more).append_left _

/-- Every call of `issue` in a reconciliation leaves its token on an attempt. -/
theorem reconcile_recorded {r : Reconciling} (h : reconcile s plan group event bounds = .ok r) :
    Recorded s.instances s.fences r.instances r.fences := by
  obtain ⟨placed, hplaced, hquiesced⟩ := reconcile_ok h
  have hloop : Recorded s.instances s.fences placed.instances placed.fences :=
    foldlM_invariant (P := fun r : Reconciling => Recorded s.instances s.fences r.instances r.fences)
      (fun _ _ _ _ hr hstep => hr.trans (reconcileReplica_recorded hstep))
      (Recorded.refl _ _) hplaced
  exact hloop.trans (quiesceLoop_recorded hquiesced)

/-- What an event does to the issuer and to the tokens on record. -/
def TokenStep (s : RuntimeState) (event : FabricEvent) (s' : RuntimeState) : Prop :=
  Recorded s.instances s.fences s'.instances s'.fences
    ∨ ∃ body, event.body = .coordinatorAdvanced body ∧ s.epoch ≤ body.epoch
        ∧ s'.fences = { epoch := body.epoch, boot := s.boot, serials := [] }
        ∧ (tableTokens s'.instances).Perm (tableTokens s.instances)

theorem Accepted.tokenStep (h : Accepted s event bounds weights s') : TokenStep s event s' := by
  have hquiet : (∀ body, event.body ≠ .intentSubmitted body) → s'.fences = s.fences →
      TokenStep s event s' := by
    intro hbody hfences
    refine .inl ⟨[], by rw [hfences]; exact .nil _, ?_⟩
    rw [List.append_nil]
    exact h.entries.tokens hbody
  have hentries := h.entries
  cases h with
  | coordinator body fences hbody hle hfences =>
    unfold FenceIssuer.advanceEpoch at hfences
    split at hfences
    · simp at hfences
    · refine .inr ⟨body, hbody, hle, (Except.ok.inj hfences).symm, ?_⟩
      exact hentries.tokens (by simp [hbody])
  | topology body dpus hbody =>
    refine hquiet (by simp [hbody]) ?_
    exact removeDevices_keep (f := RuntimeState.fences) (fun _ _ => rfl) _ _
  | intent body group plan authority r hbody hgroup hplan hclaims hreconcile =>
    obtain ⟨log, hissues, hperm⟩ := reconcile_recorded hreconcile
    exact .inl ⟨log, hissues, (tableTokens_perm (List.perm_insertionSort _ _)).trans hperm⟩
  | time _ hbody => exact hquiet (by simp [hbody]) rfl
  | service _ hbody => exact hquiet (by simp [hbody]) rfl
  | group _ hbody => exact hquiet (by simp [hbody]) rfl
  | dependency _ _ hbody => exact hquiet (by simp [hbody]) rfl
  | policy _ hbody => exact hquiet (by simp [hbody]) rfl
  | capability _ _ hbody => exact hquiet (by simp [hbody]) rfl
  | health _ hbody => exact hquiet (by simp [hbody]) rfl
  | attached _ hbody => exact hquiet (by simp [hbody]) rfl
  | lost _ hbody => exact hquiet (by simp [hbody]) rfl
  | quiesce _ hbody => exact hquiet (by simp [hbody]) rfl
  | acknowledged _ _ _ hbody => exact hquiet (by simp [hbody]) rfl
  | failed _ _ _ hbody => exact hquiet (by simp [hbody]) rfl
  | withdrawn _ _ _ hbody => exact hquiet (by simp [hbody]) rfl
  | verified _ _ _ hbody => exact hquiet (by simp [hbody]) rfl

end Steps

end DpuFabric
