/-
  Transport.Workers — REQUESTS ANSWERED AT THE SAME TIME.

  A worker answers a Submit in many locked steps: those of `submit` itself
  (`Contest`), then one for each digest of the reply.  A Query reads its two
  digests and two counts under four locks.  `Floor` is the runtime with its
  workers; a schedule says whose step is next.  The steps of a Submit are those
  of `submit` (`run_contest`), and a Query that nobody interrupts is answered
  as `dispatch` answers it (`uninterrupted_query`).
-/
import DpuFabric.Runtime.Clients
import DpuFabric.Transport.Server

namespace DpuFabric.Transport

open Lib

/-! ## §1. Workers. -/

/-- What a worker is asked for; the other requests leave the runtime alone. -/
inductive Job where
  | submit (events : List FabricEvent)
  | query

/-- The batch of a job. -/
def Job.events : Job → List FabricEvent
  | .submit events => events
  | .query => []

/-- The fields of a reply that are read so far. -/
structure Readings where
  stateDigest : Option Digest := none
  durableDigest : Option Digest := none
  instances : Option UInt64 := none
  staged : Option UInt64 := none

/-- The next read of a reply, under a lock of its own. -/
def Readings.next (job : Job) (r : Readings) (rt : FabricRuntime) : Readings :=
  if r.stateDigest.isNone then { r with stateDigest := some rt.readStateDigest }
  else if r.durableDigest.isNone then { r with durableDigest := some rt.readDurableDigest }
  else
    match job with
    | .submit _ => r
    | .query =>
      if r.instances.isNone then { r with instances := some (.ofNat rt.state.instances.length) }
      else if r.staged.isNone then { r with staged := some (.ofNat rt.pending.length) }
      else r

/-- The reply has its fields. -/
def Readings.complete (job : Job) (r : Readings) : Bool :=
  match job with
  | .submit _ => r.durableDigest.isSome
  | .query => r.staged.isSome

/-- One runtime and the workers of the server. -/
structure Floor (ι : Type) where
  contest : Contest ι
  job : ι → Job
  reads : ι → Readings
  /-- The runtime that a reply is about: as the flush of its `submit` left it,
  or as its query found it. -/
  about : ι → Option FabricRuntime

variable {ι : Type} [DecidableEq ι]

/-- The next read of a worker. -/
def Floor.read (s : Floor ι) (i : ι) : Floor ι :=
  { s with reads := Function.update s.reads i ((s.reads i).next (s.job i) s.contest.runtime) }

/-- The next locked step of a worker. -/
def Floor.step (s : Floor ι) (i : ι) : Floor ι :=
  match s.job i with
  | .submit _ =>
    match (s.contest.client i).answer with
    | none =>
      let contest := s.contest.step i
      { s with
        contest
        about := match (contest.client i).answer with
          | some (.ok _) => Function.update s.about i (some contest.runtime)
          | _ => s.about }
    | some (.error _) => s
    | some (.ok _) => s.read i
  | .query =>
    { s.read i with
      about := Function.update s.about i (some ((s.about i).getD s.contest.runtime)) }

/-- The workers come with their requests. -/
def Floor.start (rt : FabricRuntime) (w : RuntimeWorld) (job : ι → Job) : Floor ι :=
  { contest := Contest.start rt w (fun i => (job i).events)
    job
    reads := fun _ => {}
    about := fun _ => none }

/-- The reply of a worker to its Submit. -/
def Floor.submitReply (s : Floor ι) (i : ι) : Option SubmitResponse :=
  match s.job i, (s.contest.client i).answer, (s.reads i).stateDigest,
      (s.reads i).durableDigest with
  | .submit _, some (.ok report), some stateDigest, some durableDigest =>
    some { report, stateDigest, durableDigest }
  | _, _, _, _ => none

/-- The reply of a worker to its Query. -/
def Floor.queryReply (s : Floor ι) (i : ι) : Option QueryResponse :=
  match s.job i, (s.reads i).stateDigest, (s.reads i).durableDigest, (s.reads i).instances,
      (s.reads i).staged with
  | .query, some stateDigest, some durableDigest, some instances, some staged =>
    some { stateDigest, durableDigest, instances, staged,
           recovery := s.contest.runtime.recovery }
  | _, _, _, _, _ => none

/-! ## §2. Alone on the floor. -/

section Alone

variable {s : Floor ι} {i : ι}

theorem Floor.step_job (s : Floor ι) (i : ι) : (s.step i).job = s.job := by
  unfold Floor.step
  repeat' split
  all_goals rfl

/-- The calls of `submit` go on as they do without the reads. -/
theorem Floor.step_contest {events : List FabricEvent} (hjob : s.job i = .submit events) :
    (s.step i).contest = s.contest.step i := by
  unfold Floor.step
  rw [hjob]
  simp only
  split
  · rfl
  · next hanswer => exact (Contest.step_answered hanswer).symm
  · next hanswer => exact (Contest.step_answered hanswer).symm

theorem run_contest {events : List FabricEvent} (n : Nat) {s : Floor ι}
    (hjob : s.job i = .submit events) :
    (runMoves Floor.step s (List.replicate n i)).contest
        = runMoves Contest.step s.contest (List.replicate n i)
      ∧ (runMoves Floor.step s (List.replicate n i)).job = s.job := by
  induction n generalizing s with
  | zero => exact ⟨rfl, rfl⟩
  | succ n ih =>
    have hjob' : (s.step i).job i = .submit events := by rw [Floor.step_job, hjob]
    obtain ⟨hcontest, hjobs⟩ := ih hjob'
    rw [List.replicate_succ, runMoves_cons, runMoves_cons, hcontest, hjobs,
      Floor.step_contest hjob, Floor.step_job]
    exact ⟨rfl, rfl⟩

end Alone

/-- The frame that a reply is written into. -/
def Frame.answering (request : Frame) : Frame :=
  { ({} : Frame) with op := request.op, requestId := request.requestId }

/-- **A worker that nobody interrupts answers a Query as `dispatch` does.** -/
theorem uninterrupted_query (host : Host) (rt : FabricRuntime) (w : RuntimeWorld) (job : ι → Job)
    (i : ι) {request : Frame} (hop : request.op = .query) (hjob : job i = .query) :
    ∃ reply, (runMoves Floor.step (Floor.start rt w job) (List.replicate 4 i)).queryReply i
        = some reply
      ∧ (dispatch host { runtime := rt, world := w } request).1
        = request.answering.reply .ok QueryResponse.visit reply := by
  refine ⟨{ stateDigest := rt.readStateDigest, durableDigest := rt.readDurableDigest,
            instances := .ofNat rt.state.instances.length, staged := .ofNat rt.pending.length,
            recovery := rt.recovery }, ?_, by simp only [dispatch, hop, Frame.answering]⟩
  simp only [List.replicate, runMoves_cons, runMoves_nil, Floor.step, Floor.start, hjob,
    Floor.read, Function.update_self, Floor.queryReply, Readings.next, Contest.start,
    Option.isNone_none, Option.isNone_some, if_true, if_false, Bool.false_eq_true]

/-! ## §3. Replies and the state they describe. -/

/-- The reply is about this runtime: both digests, and the one in the report. -/
structure SubmitResponse.Describes (reply : SubmitResponse) (rt : FabricRuntime) : Prop where
  same : reply.stateDigest = reply.report.stateDigest
  state : reply.report.stateDigest = rt.readStateDigest
  durable : reply.durableDigest = rt.readDurableDigest

/-- The reply is about this runtime: digests and counts. -/
structure QueryResponse.Describes (reply : QueryResponse) (rt : FabricRuntime) : Prop where
  state : reply.stateDigest = rt.readStateDigest
  durable : reply.durableDigest = rt.readDurableDigest
  instances : reply.instances = .ofNat rt.state.instances.length
  staged : reply.staged = .ofNat rt.pending.length

/-- **The reply of a worker describes one state**: the one that the flush of
its `submit` left, or the one that its query found. -/
structure Floor.OneState (s : Floor ι) (i : ι) : Prop where
  submit : ∀ reply, s.submitReply i = some reply →
    ∃ rt, s.about i = some rt ∧ reply.Describes rt
  query : ∀ reply, s.queryReply i = some reply →
    ∃ rt, s.about i = some rt ∧ reply.Describes rt

/-- The worker has begun to read, or may do so any time, and is not through. -/
def Floor.Replying (s : Floor ι) (j : ι) : Prop :=
  (s.about j).isSome = true ∧ (s.reads j).complete (s.job j) = false

/-- The worker is in its call of `submit`. -/
def Floor.calling (s : Floor ι) (i : ι) : Bool :=
  match s.job i with
  | .submit _ => (s.contest.client i).answer.isNone
  | .query => false

/-- The step does not belong to a call of `submit`, or no other worker is at
its reads. -/
def Floor.Undisturbed (s : Floor ι) (i : ι) : Prop :=
  s.calling i = true → ∀ j, j ≠ i → ¬ s.Replying j

instance (s : Floor ι) (j : ι) : Decidable (s.Replying j) :=
  inferInstanceAs (Decidable (_ ∧ _))

instance [Fintype ι] (s : Floor ι) (i : ι) : Decidable (s.Undisturbed i) :=
  inferInstanceAs (Decidable (s.calling i = true → ∀ j, j ≠ i → ¬ s.Replying j))

/-- What is read so far is read off this runtime. -/
structure Readings.Of (r : Readings) (rt : FabricRuntime) : Prop where
  state : ∀ d, r.stateDigest = some d → d = rt.readStateDigest
  durable : ∀ d, r.durableDigest = some d → d = rt.readDurableDigest
  instances : ∀ n, r.instances = some n → n = .ofNat rt.state.instances.length
  staged : ∀ n, r.staged = some n → n = .ofNat rt.pending.length

theorem Readings.of_empty (rt : FabricRuntime) : Readings.Of {} rt :=
  ⟨fun _ h => absurd h (by simp), fun _ h => absurd h (by simp), fun _ h => absurd h (by simp),
    fun _ h => absurd h (by simp)⟩

theorem Readings.Of.next {r : Readings} {rt : FabricRuntime} (h : r.Of rt) (job : Job) :
    (r.next job rt).Of rt := by
  unfold Readings.next
  split
  · exact { h with state := fun d hd => (Option.some.inj hd).symm }
  split
  · exact { h with durable := fun d hd => (Option.some.inj hd).symm }
  cases job with
  | submit events => exact h
  | query =>
    simp only
    split
    · exact { h with instances := fun n hn => (Option.some.inj hn).symm }
    split
    · exact { h with staged := fun n hn => (Option.some.inj hn).symm }
    · exact h

/-- The reads of a reply come in their order. -/
structure Readings.InOrder (r : Readings) : Prop where
  durable : r.durableDigest.isSome = true → r.stateDigest.isSome = true
  instances : r.instances.isSome = true → r.durableDigest.isSome = true
  staged : r.staged.isSome = true → r.instances.isSome = true

theorem Readings.InOrder.next {r : Readings} (h : r.InOrder) (job : Job) (rt : FabricRuntime) :
    (r.next job rt).InOrder := by
  obtain ⟨hdurable, hinstances, hstaged⟩ := h
  obtain ⟨state, durable, instances, staged⟩ := r
  unfold Readings.next
  cases job <;> cases state <;> cases durable <;> cases instances <;> cases staged <;>
    first
      | exact ⟨hdurable, hinstances, hstaged⟩
      | (constructor <;> simp_all)

theorem Readings.InOrder.next_complete {r : Readings} (h : r.InOrder) {job : Job}
    (hcomplete : r.complete job = true) (rt : FabricRuntime) : r.next job rt = r := by
  obtain ⟨hdurable, hinstances, hstaged⟩ := h
  obtain ⟨state, durable, instances, staged⟩ := r
  unfold Readings.complete at hcomplete
  unfold Readings.next
  cases job <;> cases state <;> cases durable <;> cases instances <;> cases staged <;> simp_all

/-- **What holds of every worker** while nobody is disturbed: nothing is read
before there is something to read about, what is read is read off that, and as
long as the reply is not complete the runtime stays as it was. -/
structure Floor.Calm (s : Floor ι) (i : ι) : Prop where
  unread : s.about i = none → s.reads i = {}
  calling : ∀ events, s.job i = .submit events → (s.contest.client i).answer = none →
    s.about i = none
  answered : ∀ events report, s.job i = .submit events →
    (s.contest.client i).answer = some (.ok report) →
    ∃ rt, s.about i = some rt ∧ report.stateDigest = rt.readStateDigest
  inOrder : (s.reads i).InOrder
  off : ∀ rt, s.about i = some rt → (s.reads i).Of rt
  still : ∀ rt, s.about i = some rt → (s.reads i).complete (s.job i) = false →
    s.contest.runtime = rt

section Calm

variable {s : Floor ι} {i : ι}

theorem Floor.Calm.read (h : s.Calm i) {rt : FabricRuntime} (habout : s.about i = some rt) :
    (s.read i).Calm i := by
  have hreads : (s.read i).reads i = (s.reads i).next (s.job i) s.contest.runtime :=
    Function.update_self ..
  refine ⟨fun hnone => ?_, h.calling, h.answered, ?_, ?_, ?_⟩
  · exact absurd (habout.symm.trans hnone) (by simp)
  · rw [hreads]
    exact h.inOrder.next _ _
  · intro rt' habout'
    obtain rfl := Option.some.inj (habout.symm.trans habout')
    rw [hreads]
    cases hcomplete : (s.reads i).complete (s.job i) with
    | true =>
      rw [h.inOrder.next_complete hcomplete]
      exact h.off rt habout
    | false =>
      rw [h.still rt habout hcomplete]
      exact (h.off rt habout).next _
  · intro rt' habout' hincomplete
    rw [hreads] at hincomplete
    refine h.still rt' habout' ?_
    -- a complete reply would not have been read again
    cases hcomplete : (s.reads i).complete (s.job i) with
    | false => rfl
    | true =>
      rw [h.inOrder.next_complete hcomplete] at hincomplete
      exact absurd (hcomplete.symm.trans hincomplete) (by simp)

theorem Floor.Calm.otherRead (h : s.Calm i) {j : ι} (hj : j ≠ i) : (s.read j).Calm i := by
  have hreads : (s.read j).reads i = s.reads i := Function.update_of_ne (Ne.symm hj) _ _
  refine ⟨?_, h.calling, h.answered, ?_, ?_, ?_⟩
  · rw [hreads]
    exact h.unread
  · rw [hreads]
    exact h.inOrder
  · rw [hreads]
    exact h.off
  · rw [hreads]
    exact h.still

/-- A query: its first step is also the moment that it is about. -/
theorem Floor.Calm.query (h : s.Calm i) (hjob : s.job i = .query) :
    Floor.Calm { s.read i with
      about := Function.update s.about i (some ((s.about i).getD s.contest.runtime)) } i := by
  have hnow : Floor.Calm { s with
      about := Function.update s.about i (some ((s.about i).getD s.contest.runtime)) } i := by
    have hsubmit : ∀ {events}, s.job i = .submit events → False :=
      fun hsubmit => absurd (hjob.symm.trans hsubmit) (by simp)
    refine ⟨fun hnone => ?_, fun _ hs => (hsubmit hs).elim, fun _ _ hs => (hsubmit hs).elim,
      h.inOrder, ?_, ?_⟩
    · simp at hnone
    · intro rt habout
      simp only [Function.update_self, Option.some.injEq] at habout
      cases hwas : s.about i with
      | none =>
        show (s.reads i).Of rt
        rw [h.unread hwas]
        exact Readings.of_empty rt
      | some rt₀ =>
        rw [hwas, Option.getD_some] at habout
        exact habout ▸ h.off rt₀ hwas
    · intro rt habout hincomplete
      simp only [Function.update_self, Option.some.injEq] at habout
      cases hwas : s.about i with
      | none =>
        rw [hwas, Option.getD_none] at habout
        exact habout
      | some rt₀ =>
        rw [hwas, Option.getD_some] at habout
        exact habout ▸ h.still rt₀ hwas hincomplete
  exact hnow.read (Function.update_self ..)

/-- The report of a flush has the digest of the state that it leaves. -/
theorem flush_stateDigest {rt : FabricRuntime} {upto : LogicalInstant} {w : RuntimeWorld}
    {report : BatchReport} (h : (rt.flush upto w).1 = .ok report) :
    report.stateDigest = (rt.flush upto w).2.1.readStateDigest := by
  unfold FabricRuntime.flush at h ⊢
  split at h
  · simp at h
  simp only at h ⊢
  rw [← Except.ok.inj h]
  rfl

theorem Floor.Calm.call (h : s.Calm i) {events : List FabricEvent}
    (hjob : s.job i = .submit events) (hanswer : (s.contest.client i).answer = none) :
    (s.step i).Calm i := by
  have hnone := h.calling events hjob hanswer
  have hread := h.unread hnone
  have hstep : s.step i = { s with
      contest := s.contest.step i
      about := match ((s.contest.step i).client i).answer with
        | some (.ok _) => Function.update s.about i (some (s.contest.step i).runtime)
        | _ => s.about } := by
    unfold Floor.step
    rw [hjob, hanswer]
  rw [hstep]
  match hnow : ((s.contest.step i).client i).answer with
  | none =>
    refine ⟨fun _ => hread, fun _ _ _ => hnone, fun events report _ hok => ?_, h.inOrder, ?_, ?_⟩
    · exact absurd (hnow.symm.trans hok) (by simp)
    · exact h.off
    · exact fun rt habout => absurd (hnone.symm.trans habout) (by simp)
  | some (.error status) =>
    refine ⟨fun _ => hread, fun _ _ hopen => ?_, fun events report _ hok => ?_, h.inOrder, ?_, ?_⟩
    · exact absurd (hnow.symm.trans hopen) (by simp)
    · exact absurd (hnow.symm.trans hok) (by simp)
    · exact h.off
    · exact fun rt habout => absurd (hnone.symm.trans habout) (by simp)
  | some (.ok report) =>
    refine ⟨fun hunknown => ?_, fun _ _ hopen => ?_, fun events' report' _ hok => ?_, h.inOrder,
      fun rt _ => ?_, fun rt habout _ => ?_⟩
    · simp at hunknown
    · exact absurd (hnow.symm.trans hopen) (by simp)
    · obtain rfl : report = report' := by
        have hsame := hnow.symm.trans hok
        simpa using hsame
      refine ⟨(s.contest.step i).runtime, Function.update_self .., ?_⟩
      -- the step that gave the answer was the flush
      cases hleft : (s.contest.client i).left with
      | cons event rest =>
        rw [Contest.step_stage hanswer hleft] at hnow
        simp only [Function.update_self, Submitter.staged, Submitter.entered, hanswer] at hnow
        simp at hnow
      | nil =>
        rw [Contest.step_flush hanswer hleft] at hnow ⊢
        simp only [Function.update_self, Submitter.answered, Option.some.injEq] at hnow
        cases hflush : (s.contest.runtime.flush (s.contest.client i).upto
            s.contest.world).1 with
        | error status =>
          rw [hflush] at hnow
          simp [Except.map] at hnow
        | ok flushed =>
          rw [hflush] at hnow
          rw [← Except.ok.inj hnow]
          -- merging leaves the digest of the report alone
          have hdigest : flushed.stateDigest = (s.contest.runtime.flush
            (s.contest.client i).upto s.contest.world).2.1.readStateDigest :=
            flush_stateDigest hflush
          exact hdigest
    · show (s.reads i).Of rt
      rw [hread]
      exact Readings.of_empty rt
    · simpa using habout

/-- A step of the call of another worker, which finds this one not at its
reads. -/
theorem Floor.Calm.otherCall (h : s.Calm i) {j : ι} (hj : j ≠ i) {events : List FabricEvent}
    (hjob : s.job j = .submit events) (hanswer : (s.contest.client j).answer = none)
    (hidle : ¬ s.Replying i) : (s.step j).Calm i := by
  have habout : (s.step j).about i = s.about i := by
    unfold Floor.step
    rw [hjob, hanswer]
    match hnow : ((s.contest.step j).client j).answer with
    | some (.ok report) =>
      simp only [hnow]
      exact Function.update_of_ne (Ne.symm hj) _ _
    | some (.error status) => simp only [hnow]
    | none => simp only [hnow]
  have hreads : (s.step j).reads = s.reads := by
    unfold Floor.step
    rw [hjob, hanswer]
  have hclient : (s.step j).contest.client i = s.contest.client i := by
    rw [Floor.step_contest hjob]
    exact Contest.step_other hj
  refine ⟨?_, ?_, ?_, ?_, ?_, ?_⟩
  · rw [habout, hreads]
    exact h.unread
  · rw [habout, hclient, Floor.step_job]
    exact h.calling
  · rw [habout, hclient, Floor.step_job]
    exact h.answered
  · rw [hreads]
    exact h.inOrder
  · rw [habout, hreads]
    exact h.off
  rw [habout, hreads, Floor.step_job]
  intro rt hsome hincomplete
  exact absurd ⟨by rw [hsome]; rfl, hincomplete⟩ hidle

end Calm

/-- **One step** keeps every worker calm. -/
theorem step_calm {s : Floor ι} (hs : ∀ i, s.Calm i) {j : ι} (hfair : s.Undisturbed j) :
    ∀ i, (s.step j).Calm i := by
  intro i
  cases hjob : s.job j with
  | submit events =>
    match hanswer : (s.contest.client j).answer with
    | none =>
      by_cases hij : j = i
      · subst hij
        exact (hs j).call hjob hanswer
      have hcalling : s.calling j = true := by
        unfold Floor.calling
        rw [hjob, hanswer]
        rfl
      exact (hs i).otherCall hij hjob hanswer (hfair hcalling i (Ne.symm hij))
    | some (.error status) =>
      have hsame : s.step j = s := by
        unfold Floor.step
        rw [hjob, hanswer]
      rw [hsame]
      exact hs i
    | some (.ok report) =>
      have hread : s.step j = s.read j := by
        unfold Floor.step
        rw [hjob, hanswer]
      rw [hread]
      by_cases hij : j = i
      · subst hij
        obtain ⟨rt, habout, -⟩ := (hs j).answered events report hjob hanswer
        exact (hs j).read habout
      · exact (hs i).otherRead hij
  | query =>
    have hstep : s.step j = { s.read j with
        about := Function.update s.about j (some ((s.about j).getD s.contest.runtime)) } := by
      unfold Floor.step
      rw [hjob]
    rw [hstep]
    by_cases hij : j = i
    · subst hij
      exact (hs j).query hjob
    have hother := (hs i).otherRead hij
    have habout : Function.update s.about j (some ((s.about j).getD s.contest.runtime)) i
        = s.about i := Function.update_of_ne (Ne.symm hij) _ _
    refine ⟨?_, ?_, ?_, hother.inOrder, ?_, ?_⟩
    all_goals simp only [habout]
    · exact hother.unread
    · exact hother.calling
    · exact hother.answered
    · exact hother.off
    · exact hother.still

omit [DecidableEq ι] in
theorem start_calm (rt : FabricRuntime) (w : RuntimeWorld) (job : ι → Job) (i : ι) :
    (Floor.start rt w job).Calm i := by
  refine ⟨fun _ => rfl, fun _ _ _ => rfl, fun events report _ hok => ?_, ⟨?_, ?_, ?_⟩, ?_, ?_⟩
  · simp only [Floor.start, Contest.start, Submitter.enter] at hok
    split at hok <;> simp at hok
  all_goals simp [Floor.start]

omit [DecidableEq ι] in
theorem Floor.Calm.oneState {s : Floor ι} {i : ι} (h : s.Calm i) : s.OneState i := by
  constructor
  · intro reply hreply
    unfold Floor.submitReply at hreply
    split at hreply
    · next events report stateDigest durableDigest hjob hanswer hstate hdurable =>
      obtain ⟨rt, habout, hreport⟩ := h.answered events report hjob hanswer
      have hoff := h.off rt habout
      rw [← Option.some.inj hreply]
      refine ⟨rt, habout, ?_, hreport, hoff.durable durableDigest hdurable⟩
      exact (hoff.state stateDigest hstate).trans hreport.symm
    · simp at hreply
  · intro reply hreply
    unfold Floor.queryReply at hreply
    split at hreply
    · next stateDigest durableDigest instances staged hjob hstate hdurable hinstances hstaged =>
      cases habout : s.about i with
      | none =>
        rw [h.unread habout] at hstate
        simp at hstate
      | some rt =>
        have hoff := h.off rt habout
        rw [← Option.some.inj hreply]
        exact ⟨rt, rfl, hoff.state _ hstate, hoff.durable _ hdurable, hoff.instances _ hinstances,
          hoff.staged _ hstaged⟩
    · simp at hreply

/-- **Every reply describes one state**, whatever the requests and however the
workers interleave, in every run in which no step of a call of `submit` falls
between the flush and the last read of another Submit, or between two reads of
a Query. -/
theorem replies_describe_one_state (rt : FabricRuntime) (w : RuntimeWorld) (job : ι → Job)
    (schedule : List ι) (h : Meets Floor.step Floor.Undisturbed (Floor.start rt w job) schedule)
    (i : ι) : (runMoves Floor.step (Floor.start rt w job) schedule).OneState i := by
  have hstep : ∀ (s : Floor ι) j, (∀ i, s.Calm i) → s.Undisturbed j → ∀ i, (s.step j).Calm i :=
    fun _ _ hs hfair => step_calm hs hfair
  exact (run_invariant hstep (start_calm rt w job) h i).oneState

/-! ## §4. Two workers. -/

/-- One worker submits an event, the other one asks for the state. -/
def askingJobs : Bool → Job
  | true => .submit [clientEvent "a" 1 1]
  | false => .query

/-- The query comes after the submit. -/
def askedFloor : Floor Bool :=
  runMoves Floor.step (Floor.start openedRuntime {} askingJobs)
    [true, true, true, true, false, false, false, false]

/-- Both get a reply that describes one state. -/
theorem reply_after_reply :
    (askedFloor.submitReply true).isSome = true ∧ askedFloor.OneState true
      ∧ (askedFloor.queryReply false).isSome = true ∧ askedFloor.OneState false := by
  have hmeets : Meets Floor.step Floor.Undisturbed (Floor.start openedRuntime {} askingJobs)
      [true, true, true, true, false, false, false, false] := by decide +kernel
  exact ⟨by decide +kernel, replies_describe_one_state openedRuntime {} askingJobs _ hmeets true,
    by decide +kernel, replies_describe_one_state openedRuntime {} askingJobs _ hmeets false⟩

/-- One worker submits nothing, the other one an event. -/
def rivalJobs : Bool → Job
  | true => .submit []
  | false => .submit [clientEvent "a" 1 1]

/-- The second worker comes and goes between the two reads of the first one. -/
def rivalFloor : Floor Bool :=
  runMoves Floor.step (Floor.start openedRuntime {} rivalJobs) [true, true, false, false, true]

theorem rivalFloor_replies : (rivalFloor.submitReply true).isSome = true := by decide +kernel

theorem rivalFloor_about : (rivalFloor.about true).isSome = true := by decide +kernel

/-- **The reply of the first worker mixes two states**: its second digest is
not that of the state that its flush left. -/
theorem reply_mixes_two_states :
    (∃ reply rt, rivalFloor.submitReply true = some reply ∧ rivalFloor.about true = some rt
        ∧ reply.durableDigest ≠ rt.readDurableDigest)
      ∧ ¬ rivalFloor.OneState true := by
  have hdigests : ((rivalFloor.submitReply true).get rivalFloor_replies).durableDigest
      ≠ ((rivalFloor.about true).get rivalFloor_about).readDurableDigest := by decide +kernel
  refine ⟨⟨_, _, (Option.some_get rivalFloor_replies).symm, (Option.some_get rivalFloor_about).symm,
    hdigests⟩, fun hone => ?_⟩
  obtain ⟨rt, habout, hdescribes⟩ := hone.submit _ (Option.some_get rivalFloor_replies).symm
  have hrt : (rivalFloor.about true).get rivalFloor_about = rt := by
    rw [Option.get_of_eq_some _ habout]
  exact hdigests (hrt ▸ hdescribes.durable)

end DpuFabric.Transport
