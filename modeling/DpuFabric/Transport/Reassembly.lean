/-
  Transport.Reassembly — WHAT A CONNECTION DISPATCHES OF A STREAM OF FRAMES.

  For frames with payloads below 2^32 bytes the loop of `handle_connection`
  dispatches the frames it was sent, whatever pieces the stream arrives in,
  up to and including the first Shutdown, and answers each of them.  A longer
  payload fits a frame bound above 4 GiB (`Server::create` checks none) but
  not the four-byte length field, and is never dispatched as it was sent.
-/
import DpuFabric.Runtime.System
import DpuFabric.Transport.Server

namespace DpuFabric.Transport

open Lib

variable {c : Connection} {fs : List Frame} {tail : List UInt8} {o : Ending UInt8 Status}

/-! ## §1. What is to be shown. -/

/-- The frames up to and including the first Shutdown. -/
def untilShutdown : List Frame → List Frame
  | [] => []
  | f :: fs => if f.op = .shutdown then [f] else f :: untilShutdown fs

/-- The bytes of frames, one after another. -/
def streamOf (fs : List Frame) : List UInt8 := fs.flatMap frameBytes

/-- The pieces are non-empty, as `recv_some` returns them, and make up the
stream. -/
structure Cut (pieces : List (List UInt8)) (stream : List UInt8) : Prop where
  whole : pieces.flatten = stream
  nonempty : ∀ piece ∈ pieces, piece ≠ []
  received : ∀ piece ∈ pieces, piece.length ≤ receiveBytes

/-- The responses to frames served one after another. -/
def answers (host : Host) : Connection → List Frame → List Frame
  | _, [] => []
  | c, f :: fs => (c.request host f).1 :: answers host (c.handle host f).1 fs

/-- The loop ends; what it dispatched is the given frames, each of them was
answered with its own request id, no framing error was reported, and the
buffer kept its bound in every turn. -/
structure Reassembled (host : Host) (c : Connection) (fs : List Frame)
    (pieces : List (List UInt8)) : Prop where
  bounded : ∀ k, (handleConnection host c (pieces.map some) k).buffer.length
    ≤ host.options.maxFrameBytes + receiveBytes
  served : ∃ n, (handleConnection host c (pieces.map some) n).ended = true
    ∧ (handleConnection host c (pieces.map some) n).state.dispatched
        = c.dispatched ++ untilShutdown fs
    ∧ (∃ replies : List Frame, (handleConnection host c (pieces.map some) n).state.sent
          = c.sent ++ replies.map frameBytes
        ∧ replies.map Frame.requestId = (untilShutdown fs).map Frame.requestId)
    ∧ (handleConnection host c (pieces.map some) n).state.stats.framesRejected
        = c.stats.framesRejected

/-! ## §2. One request. -/

theorem withBody_requestId {α : Type} {c : Visit α} {request response : Frame} {s : Served}
    {run : α → Frame × Served} (h : ∀ body, (run body).1.requestId = response.requestId) :
    (withBody c request response s run).1.requestId = response.requestId := by
  unfold withBody
  split
  · rfl
  · exact h _

theorem dispatch_requestId (host : Host) (s : Served) (request : Frame) :
    (dispatch host s request).1.requestId = request.requestId := by
  unfold dispatch
  cases request.op with
  | ping => exact withBody_requestId fun _ => rfl
  | submit =>
    refine withBody_requestId fun body => ?_
    dsimp only
    split <;> rfl
  | query => rfl
  | explain => exact withBody_requestId fun _ => rfl
  | exportState =>
    dsimp only
    split
    · rfl
    split
    · rfl
    · split <;> rfl
  | shutdown => rfl

theorem dispatch_shutdown (host : Host) (s : Served) (request : Frame) :
    (dispatch host s request).2.1 = decide (request.op = .shutdown) := by
  unfold dispatch
  cases request.op <;> rfl

theorem answered_framesRejected (stats : ServerStats) (response : Frame) :
    (stats.answered response).framesRejected = stats.framesRejected := by
  unfold ServerStats.answered
  dsimp only
  split <;> rfl

/-- What a request leaves behind when its response fits and is sent. -/
structure Answered (host : Host) (c c' : Connection) (fs : List Frame) : Prop where
  dispatched : c'.dispatched = c.dispatched ++ fs
  sent : c'.sent = c.sent ++ (answers host c fs).map frameBytes
  rejected : c'.stats.framesRejected = c.stats.framesRejected

section Serving

variable {host : Host} (hsends : ∀ n, host.sendFails n = false)

include hsends

theorem handle_answered {f : Frame}
    (hfit : (frameBytes (c.request host f).1).length ≤ host.options.maxFrameBytes) :
    (c.handle host f).2 = decide (f.op = .shutdown)
      ∧ Answered host c (c.handle host f).1 [f] := by
  have hencode : encodeFrame (c.request host f).1 host.options.maxFrameBytes
      = .ok (frameBytes (c.request host f).1) := by
    rw [frameBytes_length] at hfit
    rw [encodeFrame, if_neg (Nat.not_lt.mpr hfit)]
  have hflag : (c.request host f).2.1 = decide (f.op = .shutdown) :=
    dispatch_shutdown host _ f
  have hdispatched : (c.request host f).2.2.dispatched = c.dispatched ++ [f] := rfl
  have hsent : (c.request host f).2.2.sent = c.sent := rfl
  have hrejected : (c.request host f).2.2.stats.framesRejected = c.stats.framesRejected :=
    answered_framesRejected _ _
  have hhandle : c.handle host f
      = (c.request host f).2.2.respond host (c.request host f).1 (c.request host f).2.1 := rfl
  have hanswers : answers host c [f] = [(c.request host f).1] := rfl
  simp only [hhandle, Connection.respond, hencode, Connection.send, hsends, Bool.false_eq_true,
    if_false, hflag]
  by_cases hop : f.op = .shutdown
  · rw [if_pos (decide_eq_true hop)]
    exact ⟨(decide_eq_true hop).symm, hdispatched, by rw [hanswers, ← hsent]; rfl, hrejected⟩
  · rw [if_neg (by simpa using hop)]
    exact ⟨(decide_eq_false hop).symm, hdispatched, by rw [hanswers, ← hsent]; rfl, hrejected⟩

/-- **Frames whose answers fit are served one after another, up to the first
Shutdown; what comes after it does not matter.** -/
theorem serve_untilShutdown (hfit : ∀ r ∈ answers host c (untilShutdown fs),
      (frameBytes r).length ≤ host.options.maxFrameBytes) :
    ∃ c', Answered host c c' (untilShutdown fs)
      ∧ ∀ more, (connectionHandlers host).serve c (untilShutdown fs ++ more)
          = if ∃ f ∈ fs, f.op = .shutdown then (c', true)
            else (connectionHandlers host).serve c' more := by
  induction fs generalizing c with
  | nil =>
    refine ⟨c, ⟨(List.append_nil _).symm, (List.append_nil _).symm, rfl⟩, fun more => ?_⟩
    rw [if_neg (by simp)]
    rfl
  | cons f fs ih =>
    -- the first request is answered whether or not it is the last one
    have hfirst : (c.request host f).1 ∈ answers host c (untilShutdown (f :: fs)) := by
      unfold untilShutdown
      split <;> exact List.mem_cons_self
    obtain ⟨hstop, hone⟩ := handle_answered hsends (hfit _ hfirst)
    by_cases hop : f.op = .shutdown
    · have huntil : untilShutdown (f :: fs) = [f] := if_pos hop
      rw [huntil]
      refine ⟨(c.handle host f).1, hone, fun more => ?_⟩
      rw [if_pos ⟨f, List.mem_cons_self, hop⟩]
      show (if (c.handle host f).2 then _ else _) = _
      rw [hstop, if_pos (decide_eq_true hop)]
      rfl
    · have huntil : untilShutdown (f :: fs) = f :: untilShutdown fs := if_neg hop
      rw [huntil] at hfit ⊢
      obtain ⟨c', hrest, hserve⟩ := ih (c := (c.handle host f).1) fun r hr =>
        hfit r (List.mem_cons_of_mem _ hr)
      refine ⟨c', ⟨?_, ?_, ?_⟩, fun more => ?_⟩
      · rw [hrest.dispatched, hone.dispatched, List.append_assoc, List.singleton_append]
      · rw [hrest.sent, hone.sent, List.append_assoc]
        rfl
      · rw [hrest.rejected, hone.rejected]
      show (if (c.handle host f).2 then _ else _) = _
      rw [hstop, if_neg (by simpa using hop)]
      refine (hserve more).trans ?_
      simp only [List.mem_cons, exists_eq_or_imp, hop, false_or]

end Serving

theorem answers_requestId (host : Host) (c : Connection) (fs : List Frame) :
    (answers host c fs).map Frame.requestId = fs.map Frame.requestId := by
  induction fs generalizing c with
  | nil => rfl
  | cons f fs ih =>
    rw [answers, List.map_cons, List.map_cons, ih]
    exact congrArg (· :: _) (dispatch_requestId host _ f)

/-! ## §3. What a stream parses to. -/

variable {host : Host}

/-- **The frames of a stream, as long as their payloads are short.**  After
the first Shutdown anything may follow. -/
theorem parses_stream {parsed : List Frame}
    (hfit : ∀ f ∈ fs, (frameBytes f).length ≤ host.options.maxFrameBytes)
    (hshort : ∀ f ∈ untilShutdown fs, f.payload.length < 2 ^ 32)
    (hp : Parses host.decode (streamOf fs ++ tail) parsed o) :
    ∃ more, parsed = untilShutdown fs ++ more
      ∧ ((∀ f ∈ fs, f.op ≠ .shutdown) → Parses host.decode tail more o) := by
  induction fs generalizing parsed with
  | nil => exact ⟨parsed, rfl, fun _ => hp⟩
  | cons f fs ih =>
    have hmem : f ∈ untilShutdown (f :: fs) := by
      unfold untilShutdown
      split <;> exact List.mem_cons_self
    have hbytes : streamOf (f :: fs) ++ tail = frameBytes f ++ (streamOf fs ++ tail) := by
      simp only [streamOf, List.flatMap_cons, List.append_assoc]
    have hdecode : host.decode (streamOf (f :: fs) ++ tail)
        = .complete f (frameBytes f).length := by
      rw [hbytes]
      exact decodeFrame_frameBytes (hfit f List.mem_cons_self) (hshort f hmem) _
    obtain ⟨rest, rfl, hrest⟩ := hp.of_complete hdecode
    rw [hbytes, List.drop_left] at hrest
    by_cases hop : f.op = .shutdown
    · refine ⟨rest, ?_, fun hno => absurd hop (hno f List.mem_cons_self)⟩
      rw [untilShutdown, if_pos hop]
      rfl
    · have huntil : untilShutdown (f :: fs) = f :: untilShutdown fs := if_neg hop
      rw [huntil] at hshort ⊢
      obtain ⟨more, rfl, htail⟩ := ih (fun g hg => hfit g (List.mem_cons_of_mem _ hg))
        (fun g hg => hshort g (List.mem_cons_of_mem _ hg)) hrest
      exact ⟨more, rfl, fun hno => htail fun g hg => hno g (List.mem_cons_of_mem _ hg)⟩

/-- Frames that come out of the stream as they went in have short payloads. -/
theorem short_of_parses {more : List Frame}
    (hfit : ∀ f ∈ fs, (frameBytes f).length ≤ host.options.maxFrameBytes)
    (hp : Parses host.decode (streamOf fs ++ tail) (untilShutdown fs ++ more) o) :
    ∀ f ∈ untilShutdown fs, f.payload.length < 2 ^ 32 := by
  induction fs with
  | nil => exact fun _ hf => nomatch hf
  | cons f fs ih =>
    have hbytes : streamOf (f :: fs) ++ tail = frameBytes f ++ (streamOf fs ++ tail) := by
      simp only [streamOf, List.flatMap_cons, List.append_assoc]
    obtain ⟨after, huntil⟩ : ∃ after, untilShutdown (f :: fs) = f :: after := by
      unfold untilShutdown
      split <;> exact ⟨_, rfl⟩
    -- the first frame was decoded as itself, so its length survived the cut
    have hfirst : f.payload.length < 2 ^ 32 := by
      rw [huntil, List.cons_append] at hp
      cases hp with
      | frame h _ =>
        rw [hbytes] at h
        have hlen := decodeFrame_long (hfit f List.mem_cons_self) h
        have hlt : f.payload.length % 2 ^ 32 < 2 ^ 32 := Nat.mod_lt _ (by decide)
        omega
    by_cases hop : f.op = .shutdown
    · have hlast : untilShutdown (f :: fs) = [f] := if_pos hop
      rw [hlast]
      intro g hg
      rw [List.mem_singleton.mp hg]
      exact hfirst
    · have hgo : untilShutdown (f :: fs) = f :: untilShutdown fs := if_neg hop
      have hdecode : host.decode (streamOf (f :: fs) ++ tail)
          = .complete f (frameBytes f).length := by
        rw [hbytes]
        exact decodeFrame_frameBytes (hfit f List.mem_cons_self) hfirst _
      obtain ⟨rest, heq, hrest⟩ := hp.of_complete hdecode
      rw [hgo, List.cons_append, List.cons.injEq] at heq
      rw [← heq.2, hbytes, List.drop_left] at hrest
      rw [hgo]
      intro g hg
      obtain rfl | hg := List.mem_cons.mp hg
      · exact hfirst
      · exact ih (fun g hg => hfit g (List.mem_cons_of_mem _ hg)) hrest g hg

/-! ## §4. The loop. -/

theorem send_dispatched (host : Host) (c : Connection) (bytes : List UInt8) :
    (c.send host bytes).2.dispatched = c.dispatched := by
  unfold Connection.send
  split <;> rfl

theorem respond_dispatched (host : Host) (c : Connection) (response : Frame) (shutdown : Bool) :
    (c.respond host response shutdown).1.dispatched = c.dispatched := by
  unfold Connection.respond
  split
  · rfl
  rename_i bytes _
  have h := send_dispatched host c bytes
  split
  · rename_i heq
    rw [heq] at h
    exact h
  · rename_i heq
    rw [heq] at h
    split <;> exact h

theorem handle_dispatched (host : Host) (c : Connection) (f : Frame) :
    (c.handle host f).1.dispatched = c.dispatched ++ [f] :=
  respond_dispatched _ _ _ _

/-- Serving dispatches the frames in order, however far it gets. -/
theorem serve_dispatched (host : Host) (c : Connection) (fs : List Frame) :
    ∃ m, ((connectionHandlers host).serve c fs).1.dispatched = c.dispatched ++ fs.take m := by
  induction fs generalizing c with
  | nil => exact ⟨0, (List.append_nil _).symm⟩
  | cons f fs ih =>
    show ∃ m, (if (c.handle host f).2 then _ else _ : Connection × Bool).1.dispatched = _
    have hf := handle_dispatched host c f
    by_cases hstop : (c.handle host f).2 = true
    · rw [if_pos hstop]
      exact ⟨1, hf⟩
    rw [if_neg hstop]
    obtain ⟨m, hm⟩ := ih (c.handle host f).1
    refine ⟨m + 1, hm.trans ?_⟩
    rw [hf, List.append_assoc]
    rfl

theorem violation_dispatched (c : Connection) (status : Status) :
    (c.violation host status).dispatched = c.dispatched := by
  unfold Connection.violation
  dsimp only
  split
  · rfl
  · exact send_dispatched host c _

theorem finish_dispatched (served : Connection × Bool) (o : Ending UInt8 Status) :
    ((connectionHandlers host).finish served o).dispatched = served.1.dispatched := by
  cases o with
  | closed rest =>
    show (if _ then _ else (if _ then _ else _) : Connection).dispatched = _
    split
    · rfl
    · split <;> rfl
  | refused e =>
    show (if _ then _ else _ : Connection).dispatched = _
    split
    · rfl
    · exact violation_dispatched _ _

theorem violation_rejected (c : Connection) (status : Status) :
    (c.violation host status).stats.framesRejected ≠ c.stats.framesRejected := by
  have hsend : ∀ bytes, (c.send host bytes).2.stats = c.stats := by
    intro bytes
    unfold Connection.send
    split <;> rfl
  have hcount : (c.violation host status).stats.framesRejected
      = c.stats.framesRejected + 1 := by
    unfold Connection.violation
    dsimp only
    split
    · rfl
    · rw [hsend]
  rw [hcount]
  intro h
  have hnat := congrArg UInt64.toNat h
  have hlt := c.stats.framesRejected.toNat_lt
  rw [UInt64.toNat_add, show (1 : UInt64).toNat = 1 from rfl] at hnat
  omega

theorem handleConnection_ends {pieces : List (List UInt8)}
    {stream : List UInt8} (hopen : c.stopping = false)
    (hcut : pieces.flatten = stream) (hp : Parses host.decode stream fs o) :
    ∃ n, (handleConnection host c (pieces.map some) n).ended = true
      ∧ (handleConnection host c (pieces.map some) n).state
          = (connectionHandlers host).finish ((connectionHandlers host).serve c fs) o := by
  subst hcut
  exact Reader.ends (r := c.accept (pieces.map some)) (steady_decodeFrame _) hopen rfl hp

theorem handleConnection_unique {incoming : List (Option (List UInt8))}
    {n m : Nat} (hn : (handleConnection host c incoming n).ended = true)
    (hm : (handleConnection host c incoming m).ended = true) :
    handleConnection host c incoming n = handleConnection host c incoming m := by
  obtain h | h := Nat.le_total n m
  · exact (Reader.run_stays hn h).symm
  · exact Reader.run_stays hm h

theorem cut_bytes (stream : List UInt8) : Cut (stream.map fun b => [b]) stream where
  whole := by
    induction stream with
    | nil => rfl
    | cons b stream ih => rw [List.map_cons, List.flatten_cons, ih]; rfl
  nonempty piece h := by
    obtain ⟨b, -, rfl⟩ := List.mem_map.mp h
    exact List.cons_ne_nil _ _
  received piece h := by
    obtain ⟨b, -, rfl⟩ := List.mem_map.mp h
    exact (by decide : 1 ≤ receiveBytes)

/-! ## §5. Reassembly. -/

/-- What a cut of frames and a tail must have been, if it was reassembled. -/
theorem parses_of_reassembled {pieces : List (List UInt8)} (hopen : c.stopping = false)
    (hcut : Cut pieces (streamOf fs ++ tail)) (h : Reassembled host c fs pieces) :
    ∃ more o, Parses host.decode (streamOf fs ++ tail) (untilShutdown fs ++ more) o := by
  obtain ⟨parsed, o, hp⟩ := (steady_decodeFrame host.options.maxFrameBytes).parses
    (streamOf fs ++ tail)
  obtain ⟨n, hended, hstate⟩ := handleConnection_ends hopen hcut.whole hp
  obtain ⟨m, hdone, hdispatched, -, -⟩ := h.served
  rw [handleConnection_unique hdone hended, hstate, finish_dispatched] at hdispatched
  obtain ⟨k, hk⟩ := serve_dispatched host c parsed
  rw [hk, List.append_cancel_left_eq] at hdispatched
  refine ⟨parsed.drop k, o, ?_⟩
  rw [← hdispatched, List.take_append_drop]
  exact hp

/-- **Reassembly.**  With sends that succeed and answers that fit, a stream
of frames that fit and the beginning of one more is reassembled in every cut
exactly if the dispatched payloads are below 2^32 bytes, and the tail, when
the loop gets to it, is shorter than its own header declares. -/
theorem reassembly_iff (host : Host) (c : Connection) (fs : List Frame) (g : Frame) (k : Nat)
    (hsends : ∀ n, host.sendFails n = false) (hopen : c.stopping = false)
    (hfit : ∀ f ∈ fs, (frameBytes f).length ≤ host.options.maxFrameBytes)
    (hlast : (frameBytes g).length ≤ host.options.maxFrameBytes) (hk : k < (frameBytes g).length)
    (hanswers : ∀ r ∈ answers host c (untilShutdown fs),
      (frameBytes r).length ≤ host.options.maxFrameBytes) :
    (∀ pieces, Cut pieces (streamOf fs ++ (frameBytes g).take k) → Reassembled host c fs pieces)
      ↔ (∀ f ∈ untilShutdown fs, f.payload.length < 2 ^ 32)
        ∧ ((∀ f ∈ fs, f.op ≠ .shutdown) → k < g.declared) := by
  obtain ⟨c', hserved, hserve⟩ := serve_untilShutdown hsends hanswers
  constructor
  · intro hall
    have hcut := cut_bytes (streamOf fs ++ (frameBytes g).take k)
    have hdone := hall _ hcut
    obtain ⟨more, o, hp⟩ := parses_of_reassembled hopen hcut hdone
    have hshort := short_of_parses hfit hp
    refine ⟨hshort, fun hno => ?_⟩
    -- the tail was neither dispatched nor refused, so it was incomplete
    obtain ⟨more', heq, htail⟩ := parses_stream hfit hshort hp
    rw [List.append_cancel_left_eq] at heq
    subst heq
    obtain ⟨n, hended, hstate⟩ := handleConnection_ends hopen hcut.whole hp
    rw [hserve more, if_neg (fun ⟨f, hf, hop⟩ => hno f hf hop)] at hstate
    obtain ⟨m, hm, hdispatched, -, hrejected⟩ := hdone.served
    rw [handleConnection_unique hm hended, hstate] at hdispatched hrejected
    rw [← decodeFrame_take hlast hk]
    cases htail hno with
    | closed h => exact h
    | refused h =>
      refine absurd hrejected ?_
      rw [← hserved.rejected]
      exact violation_rejected c' _
    | @frame b f size rest _ h _ =>
      exfalso
      have hlen := congrArg List.length hdispatched
      rw [finish_dispatched, ← hserved.dispatched] at hlen
      have hgrow : c'.dispatched.length
          < ((connectionHandlers host).serve c' (f :: rest)).1.dispatched.length := by
        show _ < (if (c'.handle host f).2 then _ else _ : Connection × Bool).1.dispatched.length
        have hone := handle_dispatched host c' f
        split
        · show _ < (c'.handle host f).1.dispatched.length
          rw [hone, List.length_append]
          simp
        · obtain ⟨j, hj⟩ := serve_dispatched host (c'.handle host f).1 rest
          show _ < ((connectionHandlers host).serve (c'.handle host f).1 rest).1.dispatched.length
          rw [hj, hone, List.length_append, List.length_append]
          simp only [List.length_singleton]
          omega
      omega
  · rintro ⟨hshort, htail⟩ pieces hcut
    refine ⟨fun j => ?_, ?_⟩
    · -- a frame that fits has room for a header
      have hroom : protocolHeaderBytes ≤ host.options.maxFrameBytes := by
        rw [frameBytes_length] at hlast
        omega
      refine Reader.buffer_le (fun b hb => decodeFrame_waiting hroom hb) ?_ (Nat.zero_le _) j
      intro piece hpiece
      obtain ⟨q, hq, heq⟩ := List.mem_map.mp hpiece
      rw [← Option.some.inj heq]
      exact hcut.received q hq
    · obtain ⟨parsed, o, hp⟩ := (steady_decodeFrame host.options.maxFrameBytes).parses
        (streamOf fs ++ (frameBytes g).take k)
      obtain ⟨more, rfl, hmore⟩ := parses_stream hfit hshort hp
      obtain ⟨n, hended, hstate⟩ := handleConnection_ends hopen hcut.whole hp
      -- either way the loop ends with what the frames left
      have hfinal : ∃ cancelled, (connectionHandlers host).finish
          ((connectionHandlers host).serve c (untilShutdown fs ++ more)) o
            = if cancelled = true then c'.cancelled else c' := by
        rw [hserve more]
        by_cases hstop : ∃ f ∈ fs, f.op = .shutdown
        · rw [if_pos hstop]
          exact ⟨false, by cases o <;> rfl⟩
        rw [if_neg hstop]
        have hno : ∀ f ∈ fs, f.op ≠ .shutdown := fun f hf hop => hstop ⟨f, hf, hop⟩
        obtain ⟨rfl, rfl⟩ := (hmore hno).of_incomplete
          ((decodeFrame_take hlast hk).mpr (htail hno))
        refine ⟨!((frameBytes g).take k).isEmpty, ?_⟩
        show (if ((frameBytes g).take k).isEmpty then c' else c'.cancelled) = _
        cases ((frameBytes g).take k).isEmpty <;> rfl
      obtain ⟨cancelled, hfinal⟩ := hfinal
      rw [hfinal] at hstate
      refine ⟨n, hended, ?_⟩
      rw [hstate]
      have hids := answers_requestId host c (untilShutdown fs)
      cases cancelled with
      | false => exact ⟨hserved.dispatched, ⟨_, hserved.sent, hids⟩, hserved.rejected⟩
      | true => exact ⟨hserved.dispatched, ⟨_, hserved.sent, hids⟩, hserved.rejected⟩

/-! ## §6. A payload of 2^32 bytes. -/

/-- A server without exports and other workers. -/
def quietHost (maxFrameBytes : Nat) : Host :=
  { options := { maxFrameBytes }
    document := fun _ _ => []
    others := fun _ s => s
    sendFails := fun _ => false }

def quietConnection : Connection := { served := { runtime := { config := sampleConfig } } }

/-- A Ping with a payload of `n + 1` zeros. -/
def zeroPing (n : Nat) : Frame := { requestId := 7, payload := 0 :: List.replicate n 0 }

theorem zeroPing_length (n : Nat) : (zeroPing n).payload.length = n + 1 := by
  rw [zeroPing, List.length_cons, List.length_replicate]

/-- Zeros are no Ping request, so the answer is a small refusal. -/
theorem answers_zeroPing (maxFrameBytes n : Nat) :
    answers (quietHost maxFrameBytes) quietConnection [zeroPing n]
      = [({ requestId := 7 } : Frame).refusal .invalidTag (txt "unexpected wire tag")] := by
  have hbody : decodeBinary PingRequest.visit Visit.maxDecodedSequence (zeroPing n).payload
      = .error (refuse .invalidTag (txt "unexpected wire tag")) := by
    show decodeBinary _ _ (0 :: List.replicate n 0) = _
    generalize List.replicate n (0 : UInt8) = rest
    rfl
  have hop : (zeroPing n).op = .ping := rfl
  show [(dispatch (quietHost maxFrameBytes) quietConnection.served (zeroPing n)).1] = _
  simp only [dispatch, hop, withBody, hbody]
  rfl

/-- A Ping with 2^32 zeros fits a bound of 2^33 bytes, but its length field
is zero: it is not dispatched. -/
theorem long_payload_not_reassembled :
    (∀ n, (quietHost (2 ^ 33)).sendFails n = false)
      ∧ quietConnection.stopping = false
      ∧ (frameBytes (zeroPing (2 ^ 32 - 1))).length ≤ (quietHost (2 ^ 33)).options.maxFrameBytes
      ∧ (∀ r ∈ answers (quietHost (2 ^ 33)) quietConnection [zeroPing (2 ^ 32 - 1)],
          (frameBytes r).length ≤ (quietHost (2 ^ 33)).options.maxFrameBytes)
      ∧ ∃ pieces, Cut pieces (streamOf [zeroPing (2 ^ 32 - 1)])
          ∧ ¬ Reassembled (quietHost (2 ^ 33)) quietConnection [zeroPing (2 ^ 32 - 1)] pieces := by
  have hlen := zeroPing_length (2 ^ 32 - 1)
  have hanswers := answers_zeroPing (2 ^ 33) (2 ^ 32 - 1)
  generalize zeroPing (2 ^ 32 - 1) = f at hlen hanswers
  have hfit : (frameBytes f).length ≤ (quietHost (2 ^ 33)).options.maxFrameBytes := by
    rw [frameBytes_length, hlen]
    decide
  refine ⟨fun _ => rfl, rfl, hfit, ?_, _, cut_bytes _, fun hdone => ?_⟩
  · rw [hanswers]
    intro r hr
    rw [List.mem_singleton.mp hr, frameBytes_length]
    decide +kernel
  · -- dispatched as it was sent, the frame would have had a short payload
    have hcut : Cut ((streamOf [f]).map fun b => [b]) (streamOf [f] ++ []) := by
      rw [List.append_nil]
      exact cut_bytes _
    obtain ⟨more, o, hp⟩ := parses_of_reassembled rfl hcut hdone
    have hmem : f ∈ untilShutdown [f] := by
      unfold untilShutdown
      split <;> exact List.mem_cons_self
    have hshort := short_of_parses (fun g hg => by rw [List.mem_singleton.mp hg]; exact hfit) hp
      f hmem
    omega

/-- A Ping of three zeros and the beginning of another one, byte by byte. -/
theorem short_ping_reassembled :
    Reassembled (quietHost (2 ^ 20)) quietConnection [zeroPing 2]
      ((streamOf [zeroPing 2] ++ (frameBytes (zeroPing 2)).take 30).map fun b => [b]) := by
  have hfit : (frameBytes (zeroPing 2)).length ≤ (quietHost (2 ^ 20)).options.maxFrameBytes := by
    rw [frameBytes_length, zeroPing_length]
    decide
  have hone : ∀ f ∈ [zeroPing 2], f = zeroPing 2 := fun f hf => List.mem_singleton.mp hf
  refine (reassembly_iff (quietHost (2 ^ 20)) quietConnection [zeroPing 2] (zeroPing 2) 30
    (fun _ => rfl) rfl (fun f hf => by rw [hone f hf]; exact hfit) hfit
    (by rw [frameBytes_length, zeroPing_length]; decide) ?_).mpr ⟨?_, ?_⟩ _ (cut_bytes _)
  · rw [show untilShutdown [zeroPing 2] = [zeroPing 2] from rfl, answers_zeroPing]
    intro r hr
    rw [List.mem_singleton.mp hr, frameBytes_length]
    decide +kernel
  · intro f hf
    rw [hone f hf, zeroPing_length]
    decide
  · intro _
    rw [Frame.declared, zeroPing_length]
    decide

end DpuFabric.Transport
