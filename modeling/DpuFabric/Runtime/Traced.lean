/-
  Runtime.Traced — WHAT A MOVE LEAVES IN THE TRACE.

  The rule for runs, `System.step_traced`, carries a property of the trace and
  the state through every move; it may speak about the health axis, which the
  rule for the core does not see.
-/
import DpuFabric.Engine.Proven
import DpuFabric.Runtime.Window

namespace DpuFabric

open Lib Relation

variable {s : System} {p : Process} {event : FabricEvent} {m : Move}

/-! ## §1. The order along a run. -/

theorem FlushOrder.turn {past : List FabricEvent} (h : FlushOrder past p)
    {released : List FabricEvent} {report : BatchReport}
    (hflushing : p.flushing = some { released := event :: released, report })
    {rt : FabricRuntime} {w w' : RuntimeWorld} (hturn : Turn p.runtime event w rt w')
    (report' : BatchReport) :
    ∃ added, FlushOrder (past ++ added)
        { runtime := rt, flushing := some { released, report := report' } }
      ∧ liveEvents w'.trace = liveEvents w.trace ++ added := by
  have hqueue := journal_queue p.runtime event w
  obtain ⟨u, hu, hlive⟩ := journal_traced p.runtime event w
  cases hturn with
  | suppressed hseen =>
    exact ⟨[], by rw [List.append_nil]; exact h.skip hflushing ⟨rfl, rfl, rfl, rfl⟩ _,
      (List.append_nil _).symm⟩
  | refused status _ _ hnew hj =>
    rw [hj] at hqueue hu
    refine ⟨[], by rw [List.append_nil]; exact h.skip hflushing hqueue _, ?_⟩
    simp only at hu
    rw [hu, liveEvents_append, hlive]
  | applied rt₁ w₁ result hnew hj hresult =>
    rw [hj] at hqueue hu
    refine ⟨[event], h.advance hflushing hqueue hnew _, ?_⟩
    simp only at hu
    simp only [World.note, hu, liveEvents_append, hlive, List.append_nil]
    rfl

/-- A call keeps the order, with the event it applied added to the past. -/
theorem FlushOrder.call {past : List FabricEvent} (h : FlushOrder past p) (c : Call)
    (w : RuntimeWorld) :
    ∃ added, FlushOrder (past ++ added) (p.call c w).1
      ∧ liveEvents (p.call c w).2.trace = liveEvents w.trace ++ added := by
  have hsame : ∀ {q : Process}, FlushOrder past q →
      ∃ added, FlushOrder (past ++ added) q ∧ liveEvents w.trace = liveEvents w.trace ++ added :=
    fun hq => ⟨[], by rwa [List.append_nil], (List.append_nil _).symm⟩
  unfold Process.call
  split
  · next event hidle => exact hsame (h.stage hidle event)
  · split
    · exact hsame h
    · next hbegin => exact hsame (h.flushBegin hbegin _)
  · have hlive := (checkpoint_passes (unlived_liveEvents (liveEvents w.trace)).bookkept p.runtime
      (w := w) rfl).finish
    exact ⟨[], by rw [List.append_nil]; exact h.sameQueue (checkpoint_queue p.runtime w),
      by rw [List.append_nil]; exact hlive⟩
  · have hlive := (close_passes (unlived_liveEvents (liveEvents w.trace)).bookkept p.runtime
      (w := w) rfl).finish
    exact ⟨[], by rw [List.append_nil]; exact h.close w, by rw [List.append_nil]; exact hlive⟩
  · next event released report hflushing => exact h.turn hflushing (flushEvent_turn ..) _
  · exact hsame (h.flushEnd _)
  · exact hsame h

/-- Whatever the process may take up next comes after its past. -/
def System.Ordered (s : System) : Prop := ∀ p, s.process = some p → ∃ past, FlushOrder past p

/-- The event that a turn takes up is one of the released ones. -/
theorem System.next_released (h : s.next = some (p, event)) : event ∈ p.released := by
  unfold System.next at h
  split at h
  · obtain ⟨rfl, rfl⟩ := Prod.mk.inj (Option.some.inj h)
    exact List.mem_cons_self
  · simp at h

theorem System.Ordered.ahead (h : s.Ordered) (hnext : s.next = some (p, event)) :
    p.runtime.state.watermark ≤ event.instant := by
  obtain ⟨past, horder⟩ := h p (System.next_process hnext)
  exact horder.ahead event (System.next_released hnext)

theorem open_ordered {config : RuntimeConfig} {rt : FabricRuntime} {w w' : RuntimeWorld}
    (h : FabricRuntime.open config w = (.ok rt, w')) : ∃ past, FlushOrder past { runtime := rt } := by
  obtain ⟨hpending, hwindow⟩ := open_buffer h
  exact ⟨[], flushOrder_start List.Pairwise.nil (by simp) hpending hwindow⟩

theorem call_ordered (h : ∃ past, FlushOrder past p) (c : Call) (w : RuntimeWorld) :
    ∃ past, FlushOrder past (p.call c w).1 := by
  obtain ⟨past, horder⟩ := h
  obtain ⟨added, hcall, -⟩ := horder.call c w
  exact ⟨past ++ added, hcall⟩

theorem step_ordered (hs : s.Ordered) (m : Move) : (s.step m).Ordered :=
  System.step_rule (P := fun _ p => ∃ past, FlushOrder past p) hs
    (fun _ _ _ _ _ _ => open_ordered) (fun _ c _ _ _ h => call_ordered h c _)

theorem run_ordered (moves : List Move) : (System.after {} moves).Ordered := fun _ =>
  run_rule (P := fun _ p => ∃ past, FlushOrder past p) open_ordered
    (fun c h => call_ordered h c _) moves

/-- One call after the other. -/
def Process.calls (p : Process) (cs : List Call) (w : RuntimeWorld) : Process × RuntimeWorld :=
  cs.foldl (fun q c => q.1.call c q.2) (p, w)

theorem FlushOrder.calls {past : List FabricEvent} (h : FlushOrder past p) (cs : List Call)
    (w : RuntimeWorld) :
    ∃ added, FlushOrder (past ++ added) (p.calls cs w).1
      ∧ liveEvents (p.calls cs w).2.trace = liveEvents w.trace ++ added := by
  induction cs generalizing past p w with
  | nil => exact ⟨[], by rwa [List.append_nil], (List.append_nil _).symm⟩
  | cons c cs ih =>
    obtain ⟨added, hcall, hlive⟩ := h.call c w
    obtain ⟨more, hmore, hrest⟩ := ih hcall (p.call c w).2
    rw [hlive, List.append_assoc] at hrest
    exact ⟨added ++ more, by rwa [← List.append_assoc], hrest⟩

/-- The property holds of the trace and of the state of the present process. -/
def System.Traced (P : List (Action FileName Mark) → RuntimeState → Prop) (s : System) : Prop :=
  ∀ p, s.process = some p → P s.trace p.runtime.state

section Traced

variable {P : List (Action FileName Mark) → RuntimeState → Prop}
  (hmono : ∀ t s u, P t s → P (t ++ u) s)
  (hcount : ∀ t s l n, P t s → P t (RuntimeState.recounted s l n))
  (hrefresh : ∀ t s, P t s → P t (refreshHealth s))
include hmono hcount hrefresh

theorem Process.call_traced {c : Call} {w : RuntimeWorld} (hp : P w.trace p.runtime.state)
    (hevent : ∀ event released report, c = .flushEvent →
      p.flushing = some { released := event :: released, report } → ∀ l n u,
        (p.call c w).2.trace = w.trace ++ u ++ [.mark (.applied event (applyEvent
          (p.runtime.state.recounted l n) event p.runtime.config.bounds
          p.runtime.config.weights).1)] →
        P (w.trace ++ u ++ [.mark (.applied event (applyEvent (p.runtime.state.recounted l n) event
            p.runtime.config.bounds p.runtime.config.weights).1)])
          (advanceState (p.runtime.state.recounted l n) event p.runtime.config.bounds
            p.runtime.config.weights)) : P (p.call c w).2.trace (p.call c w).1.runtime.state := by
  revert hevent
  unfold Process.call
  split
  · next event _ =>
    intro _
    obtain ⟨l, hl⟩ := stage_state p.runtime event
    simp only [hl]
    exact hcount _ _ l _ hp
  · intro _
    split
    · exact hp
    next hbegin =>
    simp only [flushBegin_state hbegin]
    exact hp
  · intro _
    obtain ⟨n, hn⟩ := checkpoint_state p.runtime w
    obtain ⟨u, hu, -⟩ := checkpoint_passes unlived_true.bookkept p.runtime (w := w) trivial
    simp only [hn, hu]
    exact hmono _ _ u (hcount _ _ _ n hp)
  · intro _
    obtain ⟨n, hn⟩ := close_state p.runtime w
    obtain ⟨u, hu, -⟩ := close_passes unlived_true.bookkept p.runtime (w := w) trivial
    simp only [hn, hu]
    exact hmono _ _ u (hcount _ _ _ n hp)
  · next event released report hflushing =>
    intro hevent
    obtain ⟨l, n, u, -, ⟨hstate, htrace⟩ | ⟨hstate, htrace⟩⟩ :=
      (flushEvent_turn p.runtime report event w).traced
    · simp only [hstate, htrace]
      exact hmono _ _ u (hcount _ _ l n hp)
    have hturn := hevent event released report rfl hflushing l n u htrace
    simp only [hstate, htrace]
    exact hturn
  · intro _
    exact hrefresh _ _ hp
  · intro _
    exact hp

/-- **What `open` establishes and every turn keeps holds along a run.** -/
theorem System.step_traced (hs : s.Traced P)
    (hstart : ∀ config faults rt w, m = .run (.start config) faults → s.process = none →
      FabricRuntime.open config { trace := s.trace, faults } = (.ok rt, w) → P w.trace rt.state)
    (hevent : ∀ p event faults, m = .run (.call .flushEvent) faults → s.next = some (p, event) →
      ∀ l n u, (s.step m).trace = s.trace ++ u ++ [.mark (.applied event (applyEvent
            (p.runtime.state.recounted l n) event p.runtime.config.bounds
            p.runtime.config.weights).1)] →
        P (s.trace ++ u ++ [.mark (.applied event (applyEvent
            (p.runtime.state.recounted l n) event p.runtime.config.bounds
            p.runtime.config.weights).1)])
          (advanceState (p.runtime.state.recounted l n) event p.runtime.config.bounds
            p.runtime.config.weights)) :
    (s.step m).Traced P := by
  refine System.step_rule (P := fun t p => P t p.runtime.state) hs hstart ?_
  intro p c faults hm hsome hp
  subst hm
  refine Process.call_traced hmono hcount hrefresh (w := { trace := s.trace, faults }) hp ?_
  intro event released report hc hflushing l n u htrace
  refine hevent p event faults (by rw [hc]) (System.next_of_flushing hsome hflushing) l n u ?_
  simp only [System.step, System.exec, hsome]
  exact htrace

end Traced

/-! ## §3. Which move applies an event. -/

/-- The events that a move applies. -/
def System.applies (s : System) (m : Move) : List FabricEvent :=
  appliedEvents ((s.step m).trace.drop s.trace.length)

/-- A condition on the event that a move applies, and on the process that it
is applied in. -/
def OnApply (P : Process → FabricEvent → Prop) (s : System) (m : Move) : Prop :=
  ∀ pe, s.next = some pe → pe.2 ∈ s.applies m → P pe.1 pe.2

instance (P : Process → FabricEvent → Prop) [∀ p event, Decidable (P p event)] (s : System)
    (m : Move) : Decidable (OnApply P s m) :=
  inferInstanceAs (Decidable (∀ pe, s.next = some pe → _))

/-- A turn that ends in the mark of an applied event applied it. -/
theorem System.mem_applies {u : List (Action FileName Mark)} {result : ApplyResult}
    (h : (s.step m).trace = s.trace ++ u ++ [.mark (.applied event result)])
    (happlied : result.applied = true) : event ∈ s.applies m := by
  rw [System.applies, h, List.append_assoc, List.drop_left, appliedEvents_append]
  exact List.mem_append_right _ (by simp [appliedEvents, happlied])

/-- **The rule for the instance table**: a property that does not look at
health is kept by a move if `open` establishes it and the event that the move
applies keeps it. -/
theorem System.step_instances {P : List InstanceState → Prop}
    (hcore : ∀ {xs ys : List InstanceState}, xs.map InstanceState.withoutHealth
      = ys.map InstanceState.withoutHealth → P xs → P ys) (hs : s.Holds (fun st => P st.instances))
    (hstart : ∀ config faults rt w, m = .run (.start config) faults → s.process = none →
      FabricRuntime.open config { trace := s.trace, faults } = (.ok rt, w) → P rt.state.instances)
    (hevent : ∀ p event faults, m = .run (.call .flushEvent) faults → s.next = some (p, event) →
      event ∈ s.applies m → ∀ l n s', Accepted (p.runtime.state.recounted l n) event
        p.runtime.config.bounds p.runtime.config.weights s' → P s'.instances) :
    (s.step m).Holds (fun st => P st.instances) := by
  refine System.step_traced (P := fun _ st => P st.instances) (fun _ _ _ h => h)
    (fun _ _ _ _ h => h) (fun _ st h => ?_) hs hstart ?_
  · exact hcore (congrArg RuntimeState.instances (core_refreshHealth st)).symm h
  intro p event faults hm hnext l n u htrace
  refine hcore (congrArg RuntimeState.instances (core_advanceState ..)).symm ?_
  have hp := hs p (System.next_process hnext)
  rcases applyEvent_cases (p.runtime.state.recounted l n) event p.runtime.config.bounds
    p.runtime.config.weights with (⟨-, hsame⟩ | ⟨happlied, hacc⟩) | ⟨-, -, hfenced⟩
  · rw [hsame]
    exact hp
  · exact hevent p event faults hm hnext (System.mem_applies htrace happlied) l n _ hacc
  · rw [hfenced]
    exact hp

theorem Process.call_marks (p : Process) (c : Call) (w : RuntimeWorld) :
    ∃ u, (p.call c w).2.trace = w.trace ++ u
      ∧ (liveEvents u = []
        ∨ ∃ event released report l n v, c = .flushEvent
          ∧ p.flushing = some { released := event :: released, report } ∧ liveEvents v = []
          ∧ u = v ++ [.mark (.applied event (applyEvent (p.runtime.state.recounted l n) event
              p.runtime.config.bounds p.runtime.config.weights).1)]
          ∧ (p.call c w).1.runtime.state = advanceState (p.runtime.state.recounted l n) event
              p.runtime.config.bounds p.runtime.config.weights) := by
  have hsame : ∃ u, w.trace = w.trace ++ u ∧ liveEvents u = [] :=
    ⟨[], (List.append_nil _).symm, rfl⟩
  have hP := unlived_liveEvents (liveEvents w.trace)
  unfold Process.call
  split
  · obtain ⟨u, hu, hlive⟩ := hsame
    exact ⟨u, hu, .inl hlive⟩
  · obtain ⟨u, hu, hlive⟩ := hsame
    split
    all_goals exact ⟨u, hu, .inl hlive⟩
  · obtain ⟨u, hu, hlive⟩ := passes_unlived (checkpoint_passes hP.bookkept p.runtime rfl)
    exact ⟨u, hu, .inl hlive⟩
  · obtain ⟨u, hu, hlive⟩ := passes_unlived (close_passes hP.bookkept p.runtime rfl)
    exact ⟨u, hu, .inl hlive⟩
  · next event released report hflushing =>
    obtain ⟨l, n, u, hlive, ⟨hstate, htrace⟩ | ⟨hstate, htrace⟩⟩ :=
      (flushEvent_turn p.runtime report event w).traced
    · exact ⟨u, htrace, .inl hlive⟩
    · rw [List.append_assoc] at htrace
      exact ⟨_, htrace, .inr ⟨event, released, report, l, n, u, rfl, hflushing, hlive, rfl, hstate⟩⟩
  · obtain ⟨u, hu, hlive⟩ := hsame
    exact ⟨u, hu, .inl hlive⟩
  · obtain ⟨u, hu, hlive⟩ := hsame
    exact ⟨u, hu, .inl hlive⟩

theorem exec_traced (s : System) (op : Op) (faults : List (Option Nat)) :
    ∃ u, (s.exec op faults).trace = s.trace ++ u
      ∧ (liveEvents u = []
        ∨ ∃ p event l n v, op = .call .flushEvent ∧ s.next = some (p, event)
          ∧ liveEvents v = []
          ∧ u = v ++ [.mark (.applied event (applyEvent (p.runtime.state.recounted l n) event
              p.runtime.config.bounds p.runtime.config.weights).1)]
          ∧ ∃ q, (s.exec op faults).process = some q
            ∧ q.runtime.state = advanceState (p.runtime.state.recounted l n) event
                p.runtime.config.bounds p.runtime.config.weights) := by
  have hP := unlived_liveEvents (liveEvents s.trace)
  unfold System.exec
  split
  · next config _ =>
    obtain ⟨u, hu, hlive⟩ := passes_unlived
      (open_passes hP (w := { trace := s.trace, faults }) config rfl)
    split
    · next h => rw [h] at hu; exact ⟨u, hu, .inl hlive⟩
    · next h => rw [h] at hu; exact ⟨u, hu, .inl hlive⟩
  · next p c hsome =>
    obtain ⟨u, hu, hlive | ⟨event, released, report, l, n, v, rfl, hflushing, hv, huv, hstate⟩⟩ :=
      p.call_marks c { trace := s.trace, faults }
    · exact ⟨u, hu, .inl hlive⟩
    · exact ⟨u, hu, .inr ⟨p, event, l, n, v, rfl, System.next_of_flushing hsome hflushing, hv,
        huv, _, rfl, hstate⟩⟩
  · next runtime _ =>
    obtain ⟨u, hu, hlive⟩ := passes_unlived
      (close_passes hP.bookkept (w := { trace := s.trace, faults }) runtime rfl)
    exact ⟨u, hu, .inl hlive⟩
  · exact ⟨[], (List.append_nil _).symm, .inl rfl⟩

/-- **A move that applies an event** and runs to its end is a turn of a
flush. -/
theorem System.applies_run {op : Op} {faults : List (Option Nat)}
    (h : event ∈ s.applies (.run op faults)) :
    ∃ p l n q, op = .call .flushEvent ∧ s.next = some (p, event)
      ∧ (applyEvent (p.runtime.state.recounted l n) event p.runtime.config.bounds
          p.runtime.config.weights).1.applied = true
      ∧ (s.step (.run op faults)).process = some q
      ∧ q.runtime.state = advanceState (p.runtime.state.recounted l n) event
          p.runtime.config.bounds p.runtime.config.weights := by
  obtain ⟨u, hu, hlive | ⟨p, other, l, n, v, hop, hnext, hv, rfl, q, hq, hstate⟩⟩ :=
    exec_traced s op faults
  · rw [System.applies, System.step, hu, List.drop_left] at h
    exact absurd (appliedEvents_subset u h) (by simp [hlive])
  rw [System.applies, System.step, hu, List.drop_left, appliedEvents_append, List.mem_append] at h
  rcases h with h | h
  · exact absurd (appliedEvents_subset v h) (by simp [hv])
  simp only [appliedEvents, List.filterMap_cons, List.filterMap_nil] at h
  split at h
  · simp at h
  next other' hsome =>
  rw [List.mem_singleton] at h
  subst h
  split at hsome
  · next happlied =>
    obtain rfl := Option.some.inj hsome
    exact ⟨p, l, n, q, hop, hnext, happlied, hq, hstate⟩
  · simp at hsome

/-! ## §4. Reported effects. -/

/-- The event reports an effect on the instance. -/
def ReportsOn (event : FabricEvent) (id : InstanceId) : Prop :=
  ∃ body, event.body = .effectReported body ∧ body.report.instanceId = id

section Reports

variable {s : RuntimeState} {event : FabricEvent} {bounds : RuntimeBounds}
  {weights : PlacementWeights} {i j : InstanceState}

/-- An instance is Verified where it was before, or its effect was reported. -/
theorem InstanceStep.verified_where (h : InstanceStep s event bounds weights i j)
    (hj : j.state = .verified) : (i.state = .verified ∧ j.dpu = i.dpu) ∨ ReportsOn event i.id := by
  cases h with
  | refreshed _ t =>
    have hsame := refreshInstance_withoutHealth t i
    exact .inl ⟨(InstanceState.withoutHealth_state hsame).symm.trans hj,
      InstanceState.withoutHealth_dpu hsame⟩
  | stale _ clock dpus =>
    have hsame := markStale_withoutHealth clock dpus i
    exact .inl ⟨(InstanceState.withoutHealth_state hsame).symm.trans hj,
      InstanceState.withoutHealth_dpu hsame⟩
  | fenced => exact .inl ⟨(fenceInstance_sameProof _ _ _).state hj, rfl⟩
  | verified body _ _ hbody hchecks => exact .inr ⟨body, hbody, (checkEffect_ok hchecks).2.named⟩
  | covered => exact .inl ⟨hj, rfl⟩
  | lost => simp [loseInstance] at hj
  | quiesced => simp [quiesceInstance, cancelOpenAttempts] at hj
  | acknowledged => simp [acknowledgeInstance] at hj
  | failed => simp [failInstance] at hj
  | withdrawn => simp [withdrawInstance, fenceInstanceWithoutState] at hj
  | replaced => simp [replacedInstance, authorizeAttempt] at hj
  | reattempted => simp [reattemptedInstance, authorizeAttempt] at hj
  | retired => simp [quiesceInstance, cancelOpenAttempts] at hj
  | withdrawing =>
    simp [withdrawalAttempt, quiesceInstance, cancelOpenAttempts] at hj

theorem steps_verified_where (h : ReflTransGen (InstanceStep s event bounds weights) i j)
    (hj : j.state = .verified) : (i.state = .verified ∧ j.dpu = i.dpu) ∨ ReportsOn event j.id := by
  induction h with
  | refl => exact .inl ⟨hj, rfl⟩
  | tail hsteps hstep ih =>
    rcases hstep.verified_where hj with ⟨hk, hdpu⟩ | hreports
    · rcases ih hk with ⟨hi, hdpu'⟩ | hreports
      · exact .inl ⟨hi, hdpu.trans hdpu'⟩
      · exact .inr (hstep.id_eq ▸ hreports)
    · exact .inr (hstep.id_eq ▸ hreports)

end Reports

/-- An effect on the instance was reported, and applied, after the first `k`
entries of the trace. -/
def ReportedSince (k : Nat) (t : List (Action FileName Mark)) (id : InstanceId) : Prop :=
  ∃ event ∈ appliedEvents (t.drop k), ReportsOn event id

theorem ReportedSince.mono {k : Nat} {t : List (Action FileName Mark)} {id : InstanceId}
    (h : ReportedSince k t id) (u : List (Action FileName Mark)) : ReportedSince k (t ++ u) id := by
  obtain ⟨event, hmem, hreports⟩ := h
  refine ⟨event, ?_, hreports⟩
  rw [List.drop_append, appliedEvents_append]
  exact List.mem_append_left _ hmem

end DpuFabric
