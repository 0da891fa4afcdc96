/-
  Lib.FileRace — TWO PROCESSES ON ONE DIRECTORY.

  A program that calls the file system is a tree: a call, and for each answer
  the rest of the program.  Two such programs run on the same files, one call
  at a time, in the order that a schedule says.

      attempt        — one call and its answer, on the files as they are
      FileProg.run   — a program alone, to its end
      Race           — the owner of the directory and another process
      race_solo      — as long as the other process changes no file, the owner
                       and the files are as they would be without it
-/
import DpuFabric.Lib.FileTrace
import DpuFabric.Lib.Runs

namespace DpuFabric.Lib

variable {ν : Type} [DecidableEq ν]

/-! ## §1. One call. -/

/-- A call, its answer and the files after it.  A file that is not there
cannot be renamed; bytes written to a file that was removed under its handle
are gone; `held` says that another process has the lock. -/
def FileOp.attempt (held : Bool) (d : Disk ν) : FileOp ν → Option Nat → Bool × Disk ν
  | .write f bytes, fault =>
    (fault.isNone, if (d f).isSome then (FileOp.write f bytes).apply d fault else d)
  | .rename f g, none => ((d f).isSome, (FileOp.rename f g).apply d none)
  | .probe f, none => ((d f).isSome, d)
  | .lock, none => (!held, d)
  | op, fault => (fault.isNone, op.apply d fault)

theorem FileOp.attempt_readOnly {op : FileOp ν} (h : op.readOnly = true) (held : Bool)
    (d : Disk ν) (fault : Option Nat) : (op.attempt held d fault).2 = d := by
  cases op <;> cases fault <;> first | rfl | exact absurd h (by simp [FileOp.readOnly])

/-- What the call needs is there: a file, or the lock. -/
def FileOp.Ready (held : Bool) (d : Disk ν) : FileOp ν → Prop
  | .write f _ | .rename f _ => (d f).isSome = true
  | .lock => held = false
  | .probe _ => False
  | _ => True

theorem FileOp.attempt_ready {op : FileOp ν} {d : Disk ν} {held : Bool} (h : op.Ready held d)
    (fault : Option Nat) : op.attempt held d fault = (fault.isNone, op.apply d fault) := by
  cases op <;> cases fault <;> simp_all [FileOp.Ready, FileOp.attempt] <;> rfl

/-! ## §2. Programs. -/

/-- A program over files, with its result. -/
inductive FileProg (ν ε : Type) where
  | done (result : ε)
  | call (op : FileOp ν) (next : Bool → FileProg ν ε)

namespace FileProg

variable {ε : Type}

/-- Calls one after the other, each with the result that a failure of it
returns. -/
def ofSteps : List (FileOp ν × ε) → FileProg ν ε → FileProg ν ε
  | [], rest => rest
  | (op, refusal) :: steps, rest =>
    .call op fun ok => if ok then ofSteps steps rest else .done refusal

/-- A program alone, to its end: its result, the files and the faults that
are left. -/
def run (held : Bool) : FileProg ν ε → Disk ν → List (Option Nat) → ε × Disk ν × List (Option Nat)
  | .done result, d, faults => (result, d, faults)
  | .call op next, d, faults =>
    let answer := op.attempt held d (faults.headD none)
    run held (next answer.1) answer.2 faults.tail

/-- The number of calls it makes. -/
def length (held : Bool) : FileProg ν ε → Disk ν → List (Option Nat) → Nat
  | .done _, _, _ => 0
  | .call op next, d, faults =>
    let answer := op.attempt held d (faults.headD none)
    length held (next answer.1) answer.2 faults.tail + 1

/-- All the calls of a program, on every path. -/
def Calls (P : FileOp ν → Prop) : FileProg ν ε → Prop
  | .done _ => True
  | .call op next => P op ∧ ∀ ok, Calls P (next ok)

omit [DecidableEq ν] in
theorem calls_ofSteps {P : FileOp ν → Prop} {steps : List (FileOp ν × ε)} {rest : FileProg ν ε}
    (hsteps : ∀ step ∈ steps, P step.1) (hrest : rest.Calls P) : (ofSteps steps rest).Calls P := by
  induction steps with
  | nil => exact hrest
  | cons step steps ih =>
    obtain ⟨op, refusal⟩ := step
    refine ⟨hsteps (op, refusal) (by simp), fun ok => ?_⟩
    cases ok with
    | false => trivial
    | true => exact ih fun s hs => hsteps s (by simp [hs])

/-- Every call finds what it needs, if those before it went through. -/
def ReadySteps (held : Bool) : Disk ν → List (FileOp ν × ε) → Prop
  | _, [] => True
  | d, (op, _) :: steps => op.Ready held d ∧ ReadySteps held (op.apply d none) steps

/-- **Straight-line calls are the same in both models.** -/
theorem run_ofSteps {μ : Type} {held : Bool} {steps : List (FileOp ν × ε)} {rest : FileProg ν ε}
    {w : World ν μ} (h : ReadySteps held w.disk steps) :
    (ofSteps steps rest).run held w.disk w.faults
      = match w.runSteps steps with
        | (some refusal, w') => (refusal, w'.disk, w'.faults)
        | (none, w') => rest.run held w'.disk w'.faults := by
  induction steps generalizing w with
  | nil => rfl
  | cons step steps ih =>
    obtain ⟨op, refusal⟩ := step
    obtain ⟨hready, hsteps⟩ := h
    rw [ofSteps, run, FileOp.attempt_ready hready, World.runSteps]
    have hdisk := World.disk_perform (μ := μ) op w
    cases hfault : w.faults.headD none with
    | some n =>
      rw [hfault] at hdisk
      simp only [Option.isNone_some, Bool.false_eq_true, if_false, World.perform, hfault, run]
      rw [World.perform, hfault] at hdisk
      rw [← hdisk]
    | none =>
      rw [hfault] at hdisk
      simp only [Option.isNone_none, if_true, World.perform, hfault]
      rw [World.perform, hfault] at hdisk
      have hnext := ih (w := { trace := w.trace ++ [.file op none], faults := w.faults.tail })
        (by rw [hdisk]; exact hsteps)
      rw [← hdisk]
      exact hnext

end FileProg

/-! ## §3. Processes. -/

/-- A program in progress, with the plan of its faults. -/
structure Proc (ν ε : Type) where
  prog : FileProg ν ε
  faults : List (Option Nat) := []

namespace Proc

variable {ε : Type}

/-- The next call of a process. -/
def step (held : Bool) (p : Proc ν ε) (d : Disk ν) : Proc ν ε × Disk ν :=
  match p.prog with
  | .done _ => (p, d)
  | .call op next =>
    let answer := op.attempt held d (p.faults.headD none)
    ({ prog := next answer.1, faults := p.faults.tail }, answer.2)

/-- The process alone, for some calls. -/
def solo (held : Bool) : Nat → Proc ν ε × Disk ν → Proc ν ε × Disk ν
  | 0, s => s
  | n + 1, s => solo held n (s.1.step held s.2)

theorem solo_run (held : Bool) (prog : FileProg ν ε) (d : Disk ν) (faults : List (Option Nat))
    {n : Nat} (hn : prog.length held d faults ≤ n) :
    solo held n ({ prog, faults }, d)
      = ({ prog := .done (prog.run held d faults).1, faults := (prog.run held d faults).2.2 },
          (prog.run held d faults).2.1) := by
  induction prog generalizing d faults n with
  | done result =>
    -- a process that has ended stays as it is
    clear hn
    induction n with
    | zero => rfl
    | succ n ih => exact ih
  | call op next ih =>
    cases n with
    | zero => simp [FileProg.length] at hn
    | succ n => exact ih _ _ _ (Nat.le_of_succ_le_succ hn)

end Proc

/-! ## §4. The race. -/

/-- Who makes the next call. -/
inductive Party where
  | owner | other
  deriving DecidableEq, Repr

/-- The owner of a directory and another process, on the same files. -/
structure Race (ν ε δ : Type) where
  disk : Disk ν
  owner : Proc ν ε
  other : Proc ν δ

namespace Race

variable {ε δ : Type}

/-- One call; the owner has the lock. -/
def step (r : Race ν ε δ) : Party → Race ν ε δ
  | .owner =>
    let (owner, disk) := r.owner.step false r.disk
    { r with owner, disk }
  | .other =>
    let (other, disk) := r.other.step true r.disk
    { r with other, disk }

/-- The other process changes no file with this call. -/
def Unharmed (r : Race ν ε δ) (who : Party) : Prop :=
  who = .other → (r.step who).disk = r.disk

/-- **Without a change by the other process, the owner runs as if alone.** -/
theorem race_solo {r : Race ν ε δ} {schedule : List Party}
    (h : Meets Race.step Unharmed r schedule) :
    ((runMoves Race.step r schedule).owner, (runMoves Race.step r schedule).disk)
      = Proc.solo false (schedule.count .owner) (r.owner, r.disk) := by
  induction schedule generalizing r with
  | nil => rfl
  | cons who schedule ih =>
    obtain ⟨hwho, hrest⟩ := h
    rw [runMoves_cons, ih hrest]
    cases who with
    | owner =>
      rw [List.count_cons_self]
      rfl
    | other =>
      have hdisk : (r.step .other).disk = r.disk := hwho rfl
      rw [hdisk, List.count_cons_of_ne (by decide)]
      rfl

end Race

end DpuFabric.Lib
