/-
  Engine.IssuerHistory — THE FENCE ISSUER AGAINST THE HISTORY OF ITS CALLS.

  What the issuer is for: a token validates as long as it is the last thing
  that happened to its instance.  The issuer keeps no tokens, only a serial per
  instance, and `invalidate` moves that serial on without handing out a token.
  The number it moves to is then accepted, although no token with it was ever
  issued.  `issuer_refines_iff` says when the serials and the history agree:
  exactly as long as no instance is left in that state.
-/
import DpuFabric.Engine.IssueLog

namespace DpuFabric

open Lib

/-! ## §1. Calls and what they did. -/

/-- The calls that change an issuer. -/
inductive IssuerCall where
  | reset (epoch : CoordinatorEpoch) (boot : BootIncarnation)
  | advanceEpoch (epoch : CoordinatorEpoch) (boot : BootIncarnation)
  | advanceBoot (boot : BootIncarnation)
  | issue (i : InstanceId)
  | invalidate (i : InstanceId)
  deriving DecidableEq, Repr

/-- What a call did, in the terms of its caller. -/
inductive Happened where
  /-- A reset, or an advance that was accepted. -/
  | cleared
  | issued (i : InstanceId) (token : FenceToken)
  | invalidated (i : InstanceId)
  | refused
  deriving DecidableEq, Repr

/-- One call: the issuer after it, and what it did. -/
def IssuerCall.run (f : FenceIssuer) : IssuerCall → FenceIssuer × Happened
  | .reset epoch boot => (f.reset epoch boot, .cleared)
  | .advanceEpoch epoch boot =>
    match f.advanceEpoch epoch boot with
    | .ok f' => (f', .cleared)
    | .error _ => (f, .refused)
  | .advanceBoot boot =>
    match f.advanceBoot boot with
    | .ok f' => (f', .cleared)
    | .error _ => (f, .refused)
  | .issue i =>
    match f.issue i with
    | .ok (token, f') => (f', .issued i token)
    | .error _ => (f, .refused)
  | .invalidate i => (f.invalidate i, .invalidated i)

/-- An issuer with the history of its calls, the latest first. -/
structure Issuing where
  issuer : FenceIssuer
  history : List Happened := []
  deriving DecidableEq, Repr

def Issuing.step (x : Issuing) (call : IssuerCall) : Issuing :=
  { issuer := (call.run x.issuer).1, history := (call.run x.issuer).2 :: x.history }

/-- Calls after a reset. -/
def Issuing.after (epoch : CoordinatorEpoch) (boot : BootIncarnation) (calls : List IssuerCall) :
    Issuing :=
  calls.foldl Issuing.step (Issuing.mk (FenceIssuer.reset {} epoch boot) [.cleared])

/-! ## §2. What the history says. -/

/-- What ends the validity of the tokens of an instance, or starts that of a
new one. -/
def Happened.concerns (i : InstanceId) : Happened → Bool
  | .cleared => true
  | .issued j _ => decide (j = i)
  | .invalidated j => decide (j = i)
  | .refused => false

/-- The same without the invalidations. -/
def Happened.settles (i : InstanceId) : Happened → Bool
  | .cleared => true
  | .issued j _ => decide (j = i)
  | _ => false

/-- The token was returned by an `issue` of the instance, and no later `issue`
or `invalidate` of it, reset or accepted advance happened. -/
def Outstanding (history : List Happened) (i : InstanceId) (token : FenceToken) : Prop :=
  history.find? (Happened.concerns i) = some (.issued i token)

/-- The instance was invalidated after its last token, and since then neither
issued to again nor cleared. -/
def Revoked (history : List Happened) (i : InstanceId) : Prop :=
  history.find? (Happened.concerns i) = some (.invalidated i)
    ∧ ∃ token, history.find? (Happened.settles i) = some (.issued i token)

theorem find?_concerns_of_settles {history : List Happened} {i : InstanceId} {x : Happened}
    (h : history.find? (Happened.settles i) = some x) :
    history.find? (Happened.concerns i) = some x
      ∨ history.find? (Happened.concerns i) = some (.invalidated i) := by
  induction history with
  | nil => simp at h
  | cons y history ih =>
    cases y with
    | cleared => exact .inl h
    | refused => exact ih h
    | issued j token =>
      by_cases hj : j = i
      · left
        simpa [Happened.settles, Happened.concerns, hj] using h
      · simpa [Happened.settles, Happened.concerns, hj] using
          ih (by simpa [Happened.settles, hj] using h)
    | invalidated j =>
      by_cases hj : j = i
      · right
        simp [Happened.concerns, hj]
      · simpa [Happened.concerns, hj] using ih (by simpa [Happened.settles] using h)

/-! ## §3. What the serials say. -/

/-- A serial that is invalidated moves on, and never to zero. -/
theorem saturatingAdd_one_ne_zero (n : UInt64) : saturatingAdd n 1 ≠ 0 := by
  unfold saturatingAdd
  cases hadd : checkedAdd n 1 with
  | none => decide
  | some next =>
    have hnext := checkedAdd_toNat hadd
    intro hzero
    rw [Option.getD_some] at hzero
    rw [hzero, show (1 : UInt64).toNat = 1 from rfl] at hnext
    exact absurd hnext.symm (Nat.succ_ne_zero _)

theorem invalidate_find (f : FenceIssuer) (x : InstanceId) :
    (f.invalidate x).find x
        = (f.find x).map (fun e => { e with serial := saturatingAdd e.serial 1 })
      ∧ ∀ y, y ≠ x → (f.invalidate x).find y = f.find y := by
  refine ⟨find?_modify_findIdx (p := fun e : FenceEntry => decide (e.instanceId = x))
    (g := fun e => { e with serial := saturatingAdd e.serial 1 }) (fun _ => rfl) f.serials,
    fun y hy => ?_⟩
  exact find?_modify_findIdx_of_disjoint (p := fun e : FenceEntry => decide (e.instanceId = x))
    (q := fun e => decide (e.instanceId = y))
    (g := fun e => { e with serial := saturatingAdd e.serial 1 }) (fun _ => rfl)
    (fun e he => by simp [of_decide_eq_true he, hy.symm]) f.serials

theorem validate_iff {f : FenceIssuer} {i : InstanceId} {token : FenceToken} :
    f.validate i token = true ↔ token.serial ≠ 0 ∧ token.epoch = f.epoch ∧ token.boot = f.boot
      ∧ ∃ entry, f.find i = some entry ∧ entry.serial = token.serial := by
  unfold FenceIssuer.validate FenceToken.valid
  cases f.find i with
  | none => simp
  | some entry => simp [and_assoc]

/-- The issuer against its history: the token that is outstanding is the one
of the entry, and there is an entry exactly for the instances that were issued
to since the last clearing. -/
structure Tracked (x : Issuing) : Prop where
  current : ∀ i token, Outstanding x.history i token →
    token.serial ≠ 0 ∧ token.epoch = x.issuer.epoch ∧ token.boot = x.issuer.boot
      ∧ ∃ entry, x.issuer.find i = some entry ∧ entry.serial = token.serial
  known : ∀ i token, x.history.find? (Happened.settles i) = some (.issued i token) →
    ∃ entry, x.issuer.find i = some entry ∧ entry.serial ≠ 0
  blank : ∀ i, (∀ token, x.history.find? (Happened.settles i) ≠ some (.issued i token)) →
    x.issuer.find i = none

theorem Tracked.cleared {f : FenceIssuer} (hempty : f.serials = []) (history : List Happened) :
    Tracked { issuer := f, history := .cleared :: history } where
  current i token h := absurd (Option.some.inj h) (by simp)
  known i token h := absurd (Option.some.inj h) (by simp)
  blank i _ := by simp [FenceIssuer.find, hempty]

theorem Tracked.refused {x : Issuing} (h : Tracked x) :
    Tracked { x with history := .refused :: x.history } :=
  ⟨h.current, h.known, h.blank⟩

theorem Tracked.issued {x : Issuing} (h : Tracked x) {f' : FenceIssuer} {j : InstanceId}
    {token : FenceToken} (hissue : x.issuer.issue j = .ok (token, f')) :
    Tracked { issuer := f', history := .issued j token :: x.history } := by
  obtain ⟨hepoch, hboot, hserial, ⟨entry, hentry, hsame⟩, hothers⟩ := issue_find hissue
  obtain ⟨hepoch', hboot'⟩ := issue_epoch_boot hissue
  have hnonzero : entry.serial ≠ 0 := by
    rw [hsame]
    intro hzero
    rw [hzero] at hserial
    exact absurd hserial.symm (Nat.succ_ne_zero _)
  have hmine : ∀ p : InstanceId → Happened → Bool, (∀ i, p i (.issued j token) = decide (j = i)) →
      ∀ i, (Happened.issued j token :: x.history).find? (p i)
        = if j = i then some (.issued j token) else x.history.find? (p i) := by
    intro p hp i
    rw [List.find?_cons, hp]
    by_cases hi : j = i <;> simp [hi]
  have hconcerns := hmine Happened.concerns fun _ => rfl
  have hsettles := hmine Happened.settles fun _ => rfl
  refine ⟨fun i other hout => ?_, fun i other hout => ?_, fun i hnone => ?_⟩
  · rw [Outstanding, hconcerns] at hout
    by_cases hi : j = i
    · subst hi
      rw [if_pos rfl] at hout
      obtain rfl : token = other := by simpa using hout
      exact ⟨hsame ▸ hnonzero, hepoch.trans hepoch'.symm, hboot.trans hboot'.symm, entry, hentry,
        hsame⟩
    · rw [if_neg hi] at hout
      obtain ⟨hononzero, hoepoch, hoboot, hofind⟩ := h.current i other hout
      exact ⟨hononzero, hoepoch.trans hepoch'.symm, hoboot.trans hboot'.symm,
        (hothers i (Ne.symm hi)).symm ▸ hofind⟩
  · rw [hsettles] at hout
    by_cases hi : j = i
    · subst hi
      exact ⟨entry, hentry, hnonzero⟩
    rw [if_neg hi] at hout
    show ∃ entry, f'.find i = some entry ∧ _
    rw [hothers i (Ne.symm hi)]
    exact h.known i other hout
  · simp only [hsettles] at hnone
    by_cases hi : j = i
    · subst hi
      exact absurd (if_pos rfl) (hnone token)
    show f'.find i = none
    rw [hothers i (Ne.symm hi)]
    exact h.blank i fun other => by simpa [hi] using hnone other

theorem Tracked.invalidated {x : Issuing} (h : Tracked x) (j : InstanceId) :
    Tracked { issuer := x.issuer.invalidate j, history := .invalidated j :: x.history } := by
  obtain ⟨hself, hothers⟩ := invalidate_find x.issuer j
  refine ⟨fun i token hout => ?_, fun i token hout => ?_, fun i hnone => ?_⟩
  · by_cases hi : j = i
    · -- the invalidation is the last thing that happened to the instance
      simp [Outstanding, Happened.concerns, hi] at hout
    have hout : Outstanding x.history i token := by
      simpa [Outstanding, Happened.concerns, hi] using hout
    show _ ∧ _ ∧ _ ∧ ∃ entry, (x.issuer.invalidate j).find i = some entry ∧ _
    rw [hothers i (Ne.symm hi)]
    exact h.current i token hout
  · obtain ⟨entry, hentry, hnonzero⟩ := h.known i token hout
    show ∃ entry, (x.issuer.invalidate j).find i = some entry ∧ _
    by_cases hi : j = i
    · subst hi
      rw [hself, hentry]
      exact ⟨_, rfl, saturatingAdd_one_ne_zero _⟩
    · rw [hothers i (Ne.symm hi)]
      exact ⟨entry, hentry, hnonzero⟩
  · have hfind := h.blank i hnone
    show (x.issuer.invalidate j).find i = none
    by_cases hi : j = i
    · subst hi
      rw [hself, hfind]
      rfl
    · rw [hothers i (Ne.symm hi), hfind]

/-- **Every call keeps issuer and history together.** -/
theorem Tracked.step {x : Issuing} (h : Tracked x) (call : IssuerCall) : Tracked (x.step call) := by
  unfold Issuing.step
  cases call with
  | reset epoch boot => exact Tracked.cleared rfl x.history
  | advanceEpoch epoch boot =>
    simp only [IssuerCall.run, FenceIssuer.advanceEpoch]
    by_cases hlt : epoch < x.issuer.epoch
    · rw [if_pos hlt]
      exact h.refused
    · rw [if_neg hlt]
      exact Tracked.cleared rfl x.history
  | advanceBoot boot =>
    simp only [IssuerCall.run, FenceIssuer.advanceBoot]
    by_cases hlt : boot < x.issuer.boot
    · rw [if_pos hlt]
      exact h.refused
    · rw [if_neg hlt]
      exact Tracked.cleared rfl x.history
  | issue i =>
    simp only [IssuerCall.run]
    cases hissue : x.issuer.issue i with
    | error status => exact h.refused
    | ok issued => exact h.issued hissue
  | invalidate i => exact h.invalidated i

theorem tracked_after (epoch : CoordinatorEpoch) (boot : BootIncarnation)
    (calls : List IssuerCall) : Tracked (Issuing.after epoch boot calls) := by
  have hrun : ∀ (calls : List IssuerCall) (x : Issuing), Tracked x →
      Tracked (calls.foldl Issuing.step x) := by
    intro calls
    induction calls with
    | nil => exact fun x h => h
    | cons call calls ih => exact fun x h => ih (x.step call) (h.step call)
  exact hrun calls _ (Tracked.cleared rfl [])

/-! ## §4. When they agree. -/

/-- A token validates exactly if it is outstanding and of the current epoch
and boot. -/
def Refines (x : Issuing) : Prop :=
  ∀ i token, x.issuer.validate i token = true ↔
    Outstanding x.history i token ∧ token.epoch = x.issuer.epoch ∧ token.boot = x.issuer.boot

/-- **The issuer refines its history** exactly as long as no instance is left
invalidated after a token. -/
theorem issuer_refines_iff (epoch : CoordinatorEpoch) (boot : BootIncarnation)
    (calls : List IssuerCall) :
    Refines (Issuing.after epoch boot calls) ↔
      ∀ i, ¬ Revoked (Issuing.after epoch boot calls).history i := by
  have h := tracked_after epoch boot calls
  generalize Issuing.after epoch boot calls = x at h ⊢
  constructor
  · -- the serial an invalidation moves to would be that of a token
    rintro hrefines i ⟨hlast, token, hsettled⟩
    obtain ⟨entry, hentry, hnonzero⟩ := h.known i token hsettled
    have hvalid : x.issuer.validate i ⟨x.issuer.epoch, x.issuer.boot, entry.serial⟩ = true :=
      validate_iff.mpr ⟨hnonzero, rfl, rfl, entry, hentry, rfl⟩
    have hout := ((hrefines i _).mp hvalid).1
    exact absurd (hlast.symm.trans hout) (by simp)
  · intro hnone i token
    rw [validate_iff]
    constructor
    · rintro ⟨hnonzero, hepoch, hboot, entry, hentry, hserial⟩
      obtain ⟨last, hsettled⟩ : ∃ last,
          x.history.find? (Happened.settles i) = some (.issued i last) := by
        by_contra hblank
        have hfind := h.blank i fun last hlast => hblank ⟨last, hlast⟩
        exact absurd (hfind.symm.trans hentry) (by simp)
      have hout : Outstanding x.history i last :=
        (find?_concerns_of_settles hsettled).resolve_right fun hlast => hnone i
          ⟨hlast, last, hsettled⟩
      obtain ⟨-, hlepoch, hlboot, entry', hentry', hlserial⟩ := h.current i last hout
      obtain rfl : entry = entry' := Option.some.inj (hentry.symm.trans hentry')
      have hsame : last = token := by
        cases last
        cases token
        simp_all
      exact ⟨hsame ▸ hout, hepoch, hboot⟩
    · rintro ⟨hout, hepoch, hboot⟩
      obtain ⟨hnonzero, -, -, hentry⟩ := h.current i token hout
      exact ⟨hnonzero, hepoch, hboot, hentry⟩

/-- An instance that is issued to and then invalidated. -/
def invalidatedCalls : List IssuerCall :=
  [.issue (.literal (txt "i")), .invalidate (.literal (txt "i"))]

/-- A token that nobody was given validates after the invalidation. -/
theorem unissued_token_validates :
    (Issuing.after ⟨1⟩ ⟨1⟩ invalidatedCalls).issuer.validate (.literal (txt "i")) ⟨⟨1⟩, ⟨1⟩, 2⟩
        = true
      ∧ (∀ x ∈ (Issuing.after ⟨1⟩ ⟨1⟩ invalidatedCalls).history,
          x ≠ .issued (.literal (txt "i")) ⟨⟨1⟩, ⟨1⟩, 2⟩)
      ∧ ¬ Refines (Issuing.after ⟨1⟩ ⟨1⟩ invalidatedCalls) := by
  have hvalid : (Issuing.after ⟨1⟩ ⟨1⟩ invalidatedCalls).issuer.validate (.literal (txt "i"))
      ⟨⟨1⟩, ⟨1⟩, 2⟩ = true := by decide +kernel
  have hnever : ∀ x ∈ (Issuing.after ⟨1⟩ ⟨1⟩ invalidatedCalls).history,
      x ≠ .issued (.literal (txt "i")) ⟨⟨1⟩, ⟨1⟩, 2⟩ := by decide +kernel
  refine ⟨hvalid, hnever, fun hrefines => ?_⟩
  have hout := ((hrefines _ _).mp hvalid).1
  exact hnever _ (List.mem_of_find?_eq_some hout) rfl

end DpuFabric
