/-
  Lib.FileTrace — FILES UNDER FAULTS AND CRASHES, AS A TRACE OF CALLS.

  A program that calls the file system is run against a `World`: the list of
  calls made so far and a plan of faults, one entry per call.  The contents
  of the files are a FUNCTION OF THE TRACE (`diskAfter`), so a crash needs no
  model of its own: it is a prefix of the trace.

  The file names `ν`, the refusals `ε` and the program's own marks `μ` in the
  trace are parameters.
-/
import Mathlib.Data.List.Basic
import Mathlib.Data.List.Infix

namespace DpuFabric.Lib

variable {ε : Type}

/-! ## §1. Calls and their effect. -/

/-- The contents of the files, `none` for a file that does not exist. -/
abbrev Disk (ν : Type) := ν → Option (List UInt8)

/-- One call into the file system. -/
inductive FileOp (ν : Type) where
  | statDirectory
  | createDirectory
  | lock
  | probe (f : ν)
  | size (f : ν)
  | openRead (f : ν)
  | read (f : ν)
  | openWrite (f : ν)
  | openAppend (f : ν)
  | write (f : ν) (bytes : List UInt8)
  | flush (f : ν)
  | sync (f : ν)
  | close (f : ν)
  | remove (f : ν)
  | rename (f g : ν)
  | resize (f : ν) (n : Nat)
  deriving DecidableEq, Repr

section Disk

variable {ν : Type} [DecidableEq ν]

/-- Replaces the contents of one file. -/
def Disk.set (d : Disk ν) (f : ν) (contents : Option (List UInt8)) : Disk ν :=
  fun g => if g = f then contents else d g

@[simp] theorem Disk.set_self (d : Disk ν) (f : ν) (c : Option (List UInt8)) :
    d.set f c f = c := by simp [Disk.set]

theorem Disk.set_of_ne (d : Disk ν) {f g : ν} (c : Option (List UInt8)) (h : g ≠ f) :
    d.set f c g = d g := by simp [Disk.set, h]

/-- The files after one call.  `some n` is a failed call; a failed write may
leave the first `n` of its bytes behind, every other failed call leaves the
files alone. -/
def FileOp.apply (d : Disk ν) : FileOp ν → Option Nat → Disk ν
  | .write f bytes, some n => d.set f (some ((d f).getD [] ++ bytes.take n))
  | _, some _ => d
  | .write f bytes, none => d.set f (some ((d f).getD [] ++ bytes))
  | .openWrite f, none => d.set f (some [])
  | .openAppend f, none => d.set f (some ((d f).getD []))
  | .remove f, none => d.set f none
  | .rename f g, none =>
    match d f with
    | some bytes => (d.set f none).set g (some bytes)
    | none => d
  | .resize f n, none => d.set f ((d f).map (List.take n))
  | _, none => d

/-! ## §2. Traces. -/

/-- An entry of the trace: a call with its fault, or a mark of the program. -/
inductive Action (ν μ : Type) where
  | file (op : FileOp ν) (fault : Option Nat)
  | mark (m : μ)
  deriving DecidableEq, Repr

variable {μ : Type}

/-- The files after one entry. -/
def Action.apply (d : Disk ν) : Action ν μ → Disk ν
  | .file op fault => op.apply d fault
  | .mark _ => d

/-- The files after a trace that starts with no files. -/
def diskAfter (trace : List (Action ν μ)) : Disk ν :=
  trace.foldl Action.apply (fun _ => none)

@[simp] theorem diskAfter_nil : diskAfter ([] : List (Action ν μ)) = fun _ => none := rfl

theorem diskAfter_concat (t : List (Action ν μ)) (op : FileOp ν) (fault : Option Nat) :
    diskAfter (t ++ [.file op fault]) = op.apply (diskAfter t) fault := by
  simp [diskAfter, Action.apply]

@[simp] theorem diskAfter_append (t u : List (Action ν μ)) :
    diskAfter (t ++ u) = u.foldl Action.apply (diskAfter t) := by
  simp [diskAfter, List.foldl_append]

/-- What the program runs against. -/
structure World (ν μ : Type) where
  trace : List (Action ν μ) := []
  faults : List (Option Nat) := []
  deriving DecidableEq, Repr

namespace World

/-- The present contents of the files. -/
def disk (w : World ν μ) : Disk ν := diskAfter w.trace

/-- One call: whether it succeeded, and the world afterwards. -/
def perform (op : FileOp ν) (w : World ν μ) : Bool × World ν μ :=
  ((w.faults.headD none).isNone,
   { trace := w.trace ++ [.file op (w.faults.headD none)], faults := w.faults.tail })

/-- A mark of the program. -/
def note (m : μ) (w : World ν μ) : World ν μ := { w with trace := w.trace ++ [.mark m] }

/-- Calls one after the other, each with the refusal that a failure of it
returns. -/
def runSteps {ε : Type} : List (FileOp ν × ε) → World ν μ → Option ε × World ν μ
  | [], w => (none, w)
  | (op, refusal) :: rest, w =>
    match w.perform op with
    | (true, w) => runSteps rest w
    | (false, w) => (some refusal, w)

/-- The entries that successful calls leave. -/
def calls {ε : Type} (steps : List (FileOp ν × ε)) : List (Action ν μ) :=
  steps.map (fun step => .file step.1 none)

omit [DecidableEq ν] in
theorem runSteps_none {steps : List (FileOp ν × ε)} {w w' : World ν μ}
    (h : w.runSteps steps = (none, w')) : w'.trace = w.trace ++ calls steps := by
  induction steps generalizing w with
  | nil =>
    cases h
    exact (List.append_nil _).symm
  | cons step steps ih =>
    obtain ⟨op, refusal⟩ := step
    rw [runSteps] at h
    split at h
    · next w₁ hop =>
      rw [ih h]
      simp only [perform, Prod.mk.injEq, Option.isNone_iff_eq_none] at hop
      rw [← hop.2, hop.1]
      simp [calls]
    · simp at h

omit [DecidableEq ν] in
theorem runSteps_some {steps : List (FileOp ν × ε)} {w : World ν μ} {refusal : ε}
    (h : (w.runSteps steps).1 = some refusal) : ∃ step ∈ steps, step.2 = refusal := by
  induction steps generalizing w with
  | nil => cases h
  | cons step steps ih =>
    obtain ⟨op, r⟩ := step
    rw [runSteps] at h
    split at h
    · obtain ⟨step, hstep, hrefusal⟩ := ih h
      exact ⟨step, List.mem_cons_of_mem _ hstep, hrefusal⟩
    · exact ⟨(op, r), List.mem_cons_self, Option.some.inj h⟩

omit [DecidableEq ν] in
/-- A list of calls goes on where the first part of it ended. -/
theorem runSteps_append (first rest : List (FileOp ν × ε)) (w : World ν μ) :
    w.runSteps (first ++ rest)
      = match w.runSteps first with
        | (some refusal, w') => (some refusal, w')
        | (none, w') => w'.runSteps rest := by
  induction first generalizing w with
  | nil => rfl
  | cons step first ih =>
    obtain ⟨op, refusal⟩ := step
    simp only [List.cons_append, runSteps]
    split
    · exact ih _
    · rfl

/-- The next `n` calls succeed. -/
def smooth (w : World ν μ) (n : Nat) : Bool := (w.faults.take n).all Option.isNone

omit [DecidableEq ν] in
theorem smooth_add (w : World ν μ) (m n : Nat) :
    w.smooth (m + n) = (w.smooth m && (w.faults.drop m |>.take n).all Option.isNone) := by
  rw [smooth, smooth, List.take_add, List.all_append]

omit [DecidableEq ν] in
/-- Straight-line calls come to their end exactly if none of them fails; the
plan of faults goes on behind them. -/
theorem runSteps_smooth (steps : List (FileOp ν × ε)) (w : World ν μ) :
    (w.smooth steps.length = true
        ∧ ∃ w', w.runSteps steps = (none, w') ∧ w'.faults = w.faults.drop steps.length)
      ∨ (w.smooth steps.length = false
        ∧ ∃ step ∈ steps, ∃ w', w.runSteps steps = (some step.2, w')) := by
  induction steps generalizing w with
  | nil => exact .inl ⟨by simp [smooth], w, rfl, rfl⟩
  | cons step steps ih =>
    obtain ⟨op, refusal⟩ := step
    have hhead : w.smooth (steps.length + 1)
        = ((w.faults.headD none).isNone && (w.perform op).2.smooth steps.length) := by
      unfold smooth perform
      cases w.faults <;> simp
    simp only [List.length_cons, runSteps]
    cases hfault : (w.faults.headD none).isNone with
    | false =>
      have hperform : w.perform op = (false, (w.perform op).2) := Prod.ext hfault rfl
      refine .inr ⟨by rw [hhead, hfault]; rfl, (op, refusal), List.mem_cons_self,
        (w.perform op).2, ?_⟩
      rw [hperform]
    | true =>
      have hperform : w.perform op = (true, (w.perform op).2) := Prod.ext hfault rfl
      rw [hperform]
      rcases ih (w.perform op).2 with ⟨hsmooth, w', hrun, hfaults⟩ | ⟨hrough, s, hs, hrun⟩
      · refine .inl ⟨by rw [hhead, hfault, hsmooth]; rfl, w', hrun, hfaults.trans ?_⟩
        cases hplan : w.faults <;> simp [perform, hplan]
      · exact .inr ⟨by rw [hhead, hrough, Bool.and_false], s, List.mem_cons_of_mem _ hs, hrun⟩

end World

/-! ## §3. Calls that leave a file alone. -/

/-- The call may change this file. -/
def FileOp.touches (f : ν) : FileOp ν → Bool
  | .write g _ | .openWrite g | .openAppend g | .remove g | .resize g _ => decide (g = f)
  | .rename g h => decide (g = f) || decide (h = f)
  | _ => false

variable {op : FileOp ν}

theorem FileOp.apply_of_not_touches {f : ν} (h : op.touches f = false) (d : Disk ν)
    (fault : Option Nat) : op.apply d fault f = d f := by
  cases op <;> cases fault <;>
    simp only [FileOp.touches, decide_eq_false_iff_not, Bool.or_eq_false_iff] at h <;>
    simp only [FileOp.apply]
  case rename.none g k =>
    cases hg : d g with
    | none => rfl
    | some bytes =>
      exact (Disk.set_of_ne _ _ (fun he => h.2 he.symm)).trans
        (Disk.set_of_ne _ _ (fun he => h.1 he.symm))
  all_goals exact Disk.set_of_ne _ _ (fun he => h he.symm)

namespace World

@[simp] theorem disk_note (m : μ) (w : World ν μ) : (w.note m).disk = w.disk := by
  simp [disk, note, Action.apply]

theorem disk_perform (op : FileOp ν) (w : World ν μ) :
    (w.perform op).2.disk = op.apply w.disk (w.faults.headD none) := by
  simp [disk, perform, Action.apply]

theorem disk_perform_of_not_touches {f : ν} {op : FileOp ν} (h : op.touches f = false)
    (w : World ν μ) : (w.perform op).2.disk f = w.disk f := by
  rw [disk_perform, FileOp.apply_of_not_touches h]

theorem disk_runSteps_of_not_touches {f : ν} {steps : List (FileOp ν × ε)}
    (h : ∀ step ∈ steps, step.1.touches f = false) (w : World ν μ) :
    (w.runSteps steps).2.disk f = w.disk f := by
  induction steps generalizing w with
  | nil => rfl
  | cons step steps ih =>
    obtain ⟨op, refusal⟩ := step
    have hop := disk_perform_of_not_touches (h (op, refusal) (by simp)) w
    rw [runSteps]
    split
    · next w' hw' =>
      rw [hw'] at hop
      rw [ih (fun s hs => h s (by simp [hs])), hop]
    · next w' hw' =>
      rw [hw'] at hop
      exact hop

end World

/-! ## §4. Worlds in which nothing fails. -/

/-- The call reads, whatever file it is about. -/
def FileOp.readOnly : FileOp ν → Bool
  | .write .. | .openWrite _ | .openAppend _ | .remove _ | .rename .. | .resize .. => false
  | _ => true

theorem FileOp.apply_readOnly (h : op.readOnly = true) (d : Disk ν) (fault : Option Nat) :
    op.apply d fault = d := by
  cases op <;> cases fault <;> first | rfl | exact absurd h (by simp [FileOp.readOnly])

/-- Calls that all succeed and only read. -/
def Quiet (u : List (Action ν μ)) : Prop :=
  ∀ a ∈ u, ∃ op : FileOp ν, a = .file op none ∧ op.readOnly = true

omit [DecidableEq ν] in
theorem quiet_nil : Quiet ([] : List (Action ν μ)) := by simp [Quiet]

omit [DecidableEq ν] in
theorem Quiet.append {u v : List (Action ν μ)} (hu : Quiet u) (hv : Quiet v) : Quiet (u ++ v) := by
  intro a ha
  rcases List.mem_append.mp ha with ha | ha
  · exact hu a ha
  · exact hv a ha

omit [DecidableEq ν] in
theorem quiet_single (h : op.readOnly = true) :
    Quiet [(.file op none : Action ν μ)] := by
  intro a ha
  exact ⟨op, List.mem_singleton.mp ha, h⟩

theorem Quiet.diskAfter {u : List (Action ν μ)} (hu : Quiet u) (t : List (Action ν μ)) :
    diskAfter (t ++ u) = diskAfter t := by
  induction u generalizing t with
  | nil => rw [List.append_nil]
  | cons a u ih =>
    obtain ⟨op, rfl, hop⟩ := hu a (by simp)
    have htail := ih (fun b hb => hu b (by simp [hb])) (t ++ [.file op none])
    rw [List.append_assoc, List.singleton_append] at htail
    rw [htail, diskAfter_append]
    exact FileOp.apply_readOnly hop _ _

namespace World

/-- A world without planned faults. -/
def clean (t : List (Action ν μ)) : World ν μ := { trace := t }

omit [DecidableEq ν] in
theorem perform_clean (op : FileOp ν) (t : List (Action ν μ)) :
    (clean t).perform op = (true, clean (t ++ [.file op none])) := rfl

omit [DecidableEq ν] in
theorem note_clean (m : μ) (t : List (Action ν μ)) :
    (clean t : World ν μ).note m = clean (t ++ [.mark m]) := rfl

theorem disk_clean (t : List (Action ν μ)) : (clean t).disk = diskAfter t := rfl

omit [DecidableEq ν] in
theorem runSteps_clean (steps : List (FileOp ν × ε)) (t : List (Action ν μ)) :
    (clean t).runSteps steps = (none, clean (t ++ calls steps)) := by
  induction steps generalizing t with
  | nil => rw [calls, List.map_nil, List.append_nil]; rfl
  | cons step steps ih =>
    obtain ⟨op, refusal⟩ := step
    rw [runSteps, perform_clean]
    simp only [ih, calls, List.map_cons, List.append_assoc, List.singleton_append]

theorem diskAfter_calls {f : ν} {steps : List (FileOp ν × ε)}
    (h : ∀ step ∈ steps, step.1.touches f = false) (t : List (Action ν μ)) :
    diskAfter (t ++ calls steps) f = diskAfter t f := by
  have hrun := disk_runSteps_of_not_touches h (clean t)
  rwa [runSteps_clean, disk_clean, disk_clean] at hrun

omit [DecidableEq ν] in
theorem quiet_calls {steps : List (FileOp ν × ε)} (h : ∀ step ∈ steps, step.1.readOnly = true) :
    Quiet (calls steps : List (Action ν μ)) := by
  intro a ha
  obtain ⟨step, hstep, rfl⟩ := List.mem_map.mp ha
  exact ⟨step.1, rfl, h step hstep⟩

end World

end Disk

/-! ## §5. Every moment of an extension. -/

section Through

variable {α : Type} {P : List α → Prop} {t u v : List α}

/-- `P` holds of `t` and after each of the entries `u` that extend it. -/
def Through (P : List α → Prop) (t u : List α) : Prop := ∀ n, P (t ++ u.take n)

theorem Through.finish (h : Through P t u) : P (t ++ u) := by
  have hn := h u.length
  rwa [List.take_length] at hn

theorem through_nil (h : P t) : Through P t [] := by
  intro n
  rwa [List.take_nil, List.append_nil]

theorem Through.append (hu : Through P t u) (hv : Through P (t ++ u) v) : Through P t (u ++ v) := by
  intro n
  rw [List.take_append]
  by_cases hn : n ≤ u.length
  · have : n - u.length = 0 := by omega
    rw [this, List.take_zero, List.append_nil]
    exact hu n
  · rw [List.take_of_length_le (by omega), ← List.append_assoc]
    exact hv (n - u.length)

theorem through_cons {a : α} (ht : P t) (h : Through P (t ++ [a]) u) : Through P t (a :: u) := by
  intro n
  cases n with
  | zero => rwa [List.take_zero, List.append_nil]
  | succ n =>
    have hn := h n
    rwa [List.append_assoc, List.singleton_append] at hn

theorem through_of_step (hstep : ∀ a ∈ u, ∀ t, P t → P (t ++ [a])) (ht : P t) : Through P t u := by
  induction u generalizing t with
  | nil => exact through_nil ht
  | cons a u ih =>
    exact through_cons ht (ih (fun b hb => hstep b (by simp [hb])) (hstep a (by simp) t ht))

end Through

/-! ## §6. Every moment of a call, whatever fails. -/

section Passes

variable {ν μ : Type} {P Q : List (Action ν μ) → Prop} {w w' w'' : World ν μ}

/-- The trace only grows from `w` to `w'`, and `P` holds at every moment. -/
def Passes (P : List (Action ν μ) → Prop) (w w' : World ν μ) : Prop :=
  ∃ u, w'.trace = w.trace ++ u ∧ Through P w.trace u

theorem passes_refl (h : P w.trace) : Passes P w w :=
  ⟨[], (List.append_nil _).symm, through_nil h⟩

theorem Passes.trans (h : Passes P w w') (h' : Passes P w' w'') : Passes P w w'' := by
  obtain ⟨u, hu, hpu⟩ := h
  obtain ⟨v, hv, hpv⟩ := h'
  rw [hu] at hv hpv
  exact ⟨u ++ v, by rw [hv, List.append_assoc], hpu.append hpv⟩

theorem Passes.imp (hPQ : ∀ t, P t → Q t) (h : Passes P w w') : Passes Q w w' := by
  obtain ⟨u, hu, hpu⟩ := h
  exact ⟨u, hu, fun n => hPQ _ (hpu n)⟩

theorem Passes.finish (h : Passes P w w') : P w'.trace := by
  obtain ⟨u, hu, hpu⟩ := h
  rw [hu]
  exact hpu.finish

theorem Passes.cut (h : Passes P w w') (n : Nat) : P (w'.trace.take (w.trace.length + n)) := by
  obtain ⟨u, hu, hthrough⟩ := h
  rw [hu, List.take_length_add_append]
  exact hthrough n

theorem passes_note (m : μ) (hw : P w.trace) (h : P (w.trace ++ [.mark m])) :
    Passes P w (w.note m) :=
  ⟨[.mark m], rfl, through_cons hw (through_nil h)⟩

theorem passes_perform (op : FileOp ν) (hw : P w.trace)
    (h : ∀ fault, P (w.trace ++ [.file op fault])) : Passes P w (w.perform op).2 :=
  ⟨[.file op (w.faults.headD none)], rfl, through_cons hw (through_nil (h _))⟩

/-- What each of the calls keeps, failed or not, holds throughout. -/
theorem passes_runSteps {steps : List (FileOp ν × ε)}
    (hstep : ∀ step ∈ steps, ∀ t fault, P t → P (t ++ [.file step.1 fault])) (hw : P w.trace) :
    Passes P w (w.runSteps steps).2 := by
  induction steps generalizing w with
  | nil => exact passes_refl hw
  | cons step steps ih =>
    obtain ⟨op, refusal⟩ := step
    have hop : Passes P w (w.perform op).2 :=
      passes_perform op hw (fun fault => hstep (op, refusal) (by simp) _ fault hw)
    rw [World.runSteps]
    split
    · next w₁ hw₁ =>
      rw [hw₁] at hop
      exact hop.trans (ih (fun s hs => hstep s (by simp [hs])) hop.finish)
    · next w₁ hw₁ =>
      rw [hw₁] at hop
      exact hop

end Passes

end DpuFabric.Lib
