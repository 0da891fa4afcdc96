/-
  Transport.Frame — THE WIRE PROTOCOL'S FRAMES (`transport/frame.hpp`,
  `transport/frame.cpp`).

  A frame is a 24-byte header, the payload, and the first 16 bytes of the
  SHA-256 of both.  The length field has four bytes; `encode_frame` cuts the
  payload's size to them without a check.
-/
import DpuFabric.Lib.Stream
import DpuFabric.Persist.Frame

namespace DpuFabric.Transport

open Lib Lib.Codec

variable {length maxFrameBytes : Nat} {b : List UInt8} {f : Frame}

/-! ## §1. Frames. -/

/-- `OpCode`. -/
inductive OpCode where
  | ping | submit | query | explain | exportState | shutdown
  deriving DecidableEq, Repr, Inhabited

/-- The number of an operation on the wire. -/
def OpCode.raw : OpCode → Nat
  | .ping => 0
  | .submit => 1
  | .query => 2
  | .explain => 3
  | .exportState => 4
  | .shutdown => 5

/-- The operation of a number below `kOpCodeCount`. -/
def OpCode.ofRaw : Nat → Option OpCode
  | 0 => some .ping
  | 1 => some .submit
  | 2 => some .query
  | 3 => some .explain
  | 4 => some .exportState
  | 5 => some .shutdown
  | _ => none

/-- `ResponseStatus`. -/
inductive ResponseStatus where
  | ok | refused | error
  deriving DecidableEq, Repr, Inhabited

def ResponseStatus.raw : ResponseStatus → UInt32
  | .ok => 0
  | .refused => 1
  | .error => 2

/-- `kProtocolMagic`. -/
def protocolMagic : Nat := 0x46555044

/-- `kProtocolVersion`. -/
def protocolVersion : Nat := 1

/-- `kProtocolHeaderBytes`. -/
def protocolHeaderBytes : Nat := 24

/-- `kProtocolTrailerBytes`. -/
def protocolTrailerBytes : Nat := 16

/-- `Frame`. -/
structure Frame where
  op : OpCode := .ping
  flags : UInt32 := 0
  requestId : UInt64 := 0
  payload : List UInt8 := []
  deriving DecidableEq, Repr

/-- `Frame::status`, as the byte it is. -/
def Frame.status (f : Frame) : UInt32 := f.flags &&& 0xFF

/-- `Frame::set_status`. -/
def Frame.setStatus (f : Frame) (status : ResponseStatus) : Frame :=
  { f with flags := (f.flags &&& ~~~0xFF) ||| status.raw }

/-! ## §2. Encoding and decoding. -/

/-- The header of a frame; the length is cut to four bytes. -/
def frameHead (op : OpCode) (flags : UInt32) (requestId : UInt64) (length : Nat) : List UInt8 :=
  leBytes 4 protocolMagic ++ leBytes 2 protocolVersion ++ leBytes 2 op.raw
    ++ leBytes 4 flags.toNat ++ leBytes 8 requestId.toNat ++ leBytes 4 length

/-- Header and payload. -/
def Frame.body (f : Frame) : List UInt8 :=
  frameHead f.op f.flags f.requestId f.payload.length ++ f.payload

/-- The bytes of a frame. -/
def frameBytes (f : Frame) : List UInt8 :=
  f.body ++ (sha256 f.body).bytes.take protocolTrailerBytes

/-- `encode_frame`. -/
def encodeFrame (f : Frame) (maxFrameBytes : Nat) : Result (List UInt8) :=
  if maxFrameBytes < protocolHeaderBytes + f.payload.length + protocolTrailerBytes then
    .error (refuse .frameOversized (txt "frame exceeds the configured bound"))
  else .ok (frameBytes f)

/-- `DecodedFrame`. -/
structure DecodedFrame where
  complete : Bool := false
  headerReady : Bool := false
  consumed : Nat := 0
  expected : Nat := 0
  frame : Frame := {}
  deriving DecidableEq, Repr

/-- The header checks of `decode_frame`: the frame without its payload, and
the declared length. -/
def decodeHead (buffer : List UInt8) (maxFrameBytes : Nat) : Result (Frame × Nat) :=
  if readAt buffer 0 4 ≠ protocolMagic then
    .error (refuse .protocolViolation (txt "frame magic mismatch"))
  else if readAt buffer 4 2 ≠ protocolVersion then
    .error (refuse .unsupportedVersion (txt "unsupported protocol version"))
  else
    match OpCode.ofRaw (readAt buffer 6 2) with
    | none => .error (refuse .unknownOperation (txt "unknown operation code"))
    | some op =>
      let length := readAt buffer 20 4
      if maxFrameBytes < length then
        .error (refuse .frameOversized (txt "declared payload exceeds the bound"))
      else
        .ok ({ op, flags := .ofNat (readAt buffer 8 4), requestId := .ofNat (readAt buffer 12 8) },
          length)

/-- The rest of `decode_frame` for a frame of `length` payload bytes. -/
def decodeBody (buffer : List UInt8) (maxFrameBytes : Nat) (head : Frame) (length : Nat) :
    Result DecodedFrame :=
  let total := protocolHeaderBytes + length + protocolTrailerBytes
  if maxFrameBytes < total then
    .error (refuse .frameOversized (txt "frame exceeds the configured bound"))
  else if buffer.length < total then
    .ok { headerReady := true, expected := total, frame := head }
  else if (sha256 (buffer.take (protocolHeaderBytes + length))).bytes.take protocolTrailerBytes
      ≠ (buffer.drop (protocolHeaderBytes + length)).take protocolTrailerBytes then
    .error (refuse .frameTruncated (txt "frame digest mismatch"))
  else
    .ok { complete := true, headerReady := true, consumed := total, expected := total,
          frame := { head with payload := (buffer.drop protocolHeaderBytes).take length } }

/-- `decode_frame`. -/
def decodeFrame (buffer : List UInt8) (maxFrameBytes : Nat) : Result DecodedFrame :=
  if buffer.length < protocolHeaderBytes then .ok { expected := protocolHeaderBytes }
  else
    match decodeHead buffer maxFrameBytes with
    | .error refusal => .error refusal
    | .ok (head, length) => decodeBody buffer maxFrameBytes head length

/-- The answer of the decoder, as the connection loop takes it. -/
def decoded : Result DecodedFrame → Decoded Frame Status
  | .error refusal => .refused refusal
  | .ok d => if d.complete then .complete d.frame d.consumed else .incomplete

/-! ## §3. Lengths and fields. -/

theorem frameHead_length (op : OpCode) (flags : UInt32) (requestId : UInt64) (length : Nat) :
    (frameHead op flags requestId length).length = protocolHeaderBytes := by
  simp [frameHead, protocolHeaderBytes]

theorem body_length (f : Frame) : f.body.length = protocolHeaderBytes + f.payload.length := by
  rw [Frame.body, List.length_append, frameHead_length]

theorem trailer_length (d : Digest) :
    (d.bytes.take protocolTrailerBytes).length = protocolTrailerBytes := by
  rw [List.length_take, d.size]
  rfl

theorem frameBytes_length (f : Frame) :
    (frameBytes f).length = protocolHeaderBytes + f.payload.length + protocolTrailerBytes := by
  rw [frameBytes, List.length_append, body_length, trailer_length]

theorem ofRaw_raw (op : OpCode) : OpCode.ofRaw op.raw = some op := by
  cases op <;> rfl

theorem raw_lt (op : OpCode) : op.raw < 256 ^ 2 := by
  cases op <;> decide

/-- The header checks pass on a header, and read the cut length. -/
theorem decodeHead_frameHead (op : OpCode) (flags : UInt32) (requestId : UInt64)
    (h : length % 2 ^ 32 ≤ maxFrameBytes) (rest : List UInt8) :
    decodeHead (frameHead op flags requestId length ++ rest) maxFrameBytes
      = .ok ({ op, flags, requestId }, length % 2 ^ 32) := by
  -- each field stands where it is read
  have hmagic : readAt (frameHead op flags requestId length ++ rest) 0 4 = protocolMagic :=
    leValue_leBytes (k := 4) (by decide)
  have hversion : readAt (frameHead op flags requestId length ++ rest) 4 2 = protocolVersion :=
    leValue_leBytes (k := 2) (by decide)
  have hop : readAt (frameHead op flags requestId length ++ rest) 6 2 = op.raw :=
    leValue_leBytes (raw_lt op)
  have hflags : readAt (frameHead op flags requestId length ++ rest) 8 4 = flags.toNat :=
    leValue_leBytes (k := 4) flags.toNat_lt
  have hid : readAt (frameHead op flags requestId length ++ rest) 12 8 = requestId.toNat :=
    leValue_leBytes (k := 8) requestId.toNat_lt
  have hlength : readAt (frameHead op flags requestId length ++ rest) 20 4 = length % 2 ^ 32 :=
    leValue_leBytes_mod 4 length
  rw [decodeHead, if_neg (not_not.mpr hmagic), if_neg (not_not.mpr hversion), hop, ofRaw_raw]
  simp only [hlength, hflags, hid]
  rw [if_neg (Nat.not_lt.mpr h), UInt32.ofNat_toNat, UInt64.ofNat_toNat]

/-- **Any buffer that starts with a frame's header is decoded by the cut
length of its payload.** -/
theorem decodeFrame_frameHead (f : Frame) (h : length % 2 ^ 32 ≤ maxFrameBytes)
    (rest : List UInt8) :
    decodeFrame (frameHead f.op f.flags f.requestId length ++ rest) maxFrameBytes
      = decodeBody (frameHead f.op f.flags f.requestId length ++ rest) maxFrameBytes
          { f with payload := [] } (length % 2 ^ 32) := by
  have hlong : ¬ (frameHead f.op f.flags f.requestId length ++ rest).length
      < protocolHeaderBytes := by
    rw [List.length_append, frameHead_length]
    omega
  rw [decodeFrame, if_neg hlong, decodeHead_frameHead f.op f.flags f.requestId h rest]

/-! ## §4. A frame that is there. -/

theorem frameBytes_append (f : Frame) (rest : List UInt8) :
    frameBytes f ++ rest = frameHead f.op f.flags f.requestId f.payload.length
      ++ (f.payload ++ ((sha256 f.body).bytes.take protocolTrailerBytes ++ rest)) := by
  simp only [frameBytes, Frame.body, List.append_assoc]

/-- **A frame with a payload below 2^32 bytes comes back whole.** -/
theorem decodeFrame_frameBytes
    (hfit : (frameBytes f).length ≤ maxFrameBytes) (h32 : f.payload.length < 2 ^ 32)
    (rest : List UInt8) :
    decoded (decodeFrame (frameBytes f ++ rest) maxFrameBytes)
      = .complete f (frameBytes f).length := by
  have hmod : f.payload.length % 2 ^ 32 = f.payload.length := Nat.mod_eq_of_lt h32
  have htotal := frameBytes_length f
  have hbytes := frameBytes_append f rest
  have hbody : (frameBytes f ++ rest).take (protocolHeaderBytes + f.payload.length) = f.body := by
    rw [← body_length, frameBytes, List.append_assoc, List.take_left]
  have htrailer : ((frameBytes f ++ rest).drop (protocolHeaderBytes + f.payload.length)).take
      protocolTrailerBytes = (sha256 f.body).bytes.take protocolTrailerBytes := by
    rw [← body_length, frameBytes, List.append_assoc, List.drop_left,
      List.take_left' (trailer_length _)]
  have hpayload : ((frameBytes f ++ rest).drop protocolHeaderBytes).take f.payload.length
      = f.payload := by
    rw [hbytes, ← frameHead_length f.op f.flags f.requestId f.payload.length, List.drop_left,
      List.take_left]
  have hhead : decodeFrame (frameBytes f ++ rest) maxFrameBytes
      = decodeBody (frameBytes f ++ rest) maxFrameBytes { f with payload := [] }
          f.payload.length := by
    have h := decodeFrame_frameHead f (by omega : f.payload.length % 2 ^ 32 ≤ maxFrameBytes)
      (f.payload ++ ((sha256 f.body).bytes.take protocolTrailerBytes ++ rest))
    rw [← hbytes, hmod] at h
    exact h
  have hlen : (frameBytes f ++ rest).length = (frameBytes f).length + rest.length :=
    List.length_append
  rw [hhead]
  simp only [decodeBody]
  rw [if_neg (by omega), if_neg (by omega), hbody, htrailer, if_neg (not_not.mpr rfl), hpayload,
    htotal]
  rfl

/-- A longer payload never comes back: what is decoded instead is shorter. -/
theorem decodeFrame_long {g : Frame} {n : Nat}
    (hfit : (frameBytes f).length ≤ maxFrameBytes) {rest : List UInt8}
    (h : decoded (decodeFrame (frameBytes f ++ rest) maxFrameBytes) = .complete g n) :
    g.payload.length = f.payload.length % 2 ^ 32 := by
  have htotal := frameBytes_length f
  have hle : f.payload.length % 2 ^ 32 ≤ f.payload.length := Nat.mod_le _ _
  rw [frameBytes_append, decodeFrame_frameHead f (by omega)] at h
  simp only [decodeBody] at h
  split at h
  · cases h
  split at h
  · cases h
  split at h
  · cases h
  rename_i hlen _
  simp only [decoded, if_true, Decoded.complete.injEq] at h
  rw [← h.1]
  show (((frameHead f.op f.flags f.requestId f.payload.length ++ _).drop
    protocolHeaderBytes).take (f.payload.length % 2 ^ 32)).length = _
  rw [List.length_take, List.length_drop]
  omega

/-! ## §5. The beginning of a frame. -/

/-- The size of a frame as its header declares it. -/
def Frame.declared (f : Frame) : Nat :=
  protocolHeaderBytes + f.payload.length % 2 ^ 32 + protocolTrailerBytes

/-- **The beginning of a frame is incomplete exactly while it is shorter than
the header declares.** -/
theorem decodeFrame_take {k : Nat}
    (hfit : (frameBytes f).length ≤ maxFrameBytes) (hk : k < (frameBytes f).length) :
    decoded (decodeFrame ((frameBytes f).take k) maxFrameBytes) = .incomplete
      ↔ k < f.declared := by
  have htotal := frameBytes_length f
  have hle : f.payload.length % 2 ^ 32 ≤ f.payload.length := Nat.mod_le _ _
  have hlen : ((frameBytes f).take k).length = k := by
    rw [List.length_take]
    omega
  have hhead : protocolHeaderBytes = 24 := rfl
  by_cases hshort : k < protocolHeaderBytes
  · rw [decodeFrame, if_pos (by omega)]
    exact ⟨fun _ => by unfold Frame.declared; omega, fun _ => rfl⟩
  have htake : (frameBytes f).take k
      = frameHead f.op f.flags f.requestId f.payload.length
        ++ (f.payload ++ (sha256 f.body).bytes.take protocolTrailerBytes).take
            (k - protocolHeaderBytes) := by
    have happ := frameBytes_append f []
    simp only [List.append_nil] at happ
    rw [happ, List.take_append, frameHead_length, List.take_of_length_le (by
      rw [frameHead_length]; omega)]
  rw [htake, decodeFrame_frameHead f (by omega), ← htake]
  simp only [decodeBody, Frame.declared]
  rw [if_neg (by omega), hlen]
  by_cases hwait : k < protocolHeaderBytes + f.payload.length % 2 ^ 32 + protocolTrailerBytes
  · rw [if_pos hwait]
    exact ⟨fun _ => hwait, fun _ => rfl⟩
  rw [if_neg hwait]
  refine ⟨fun h => ?_, fun h => absurd h hwait⟩
  split at h <;> cases h

/-! ## §6. Steadiness. -/

theorem readAt_append {offset width : Nat} (h : offset + width ≤ b.length) (rest : List UInt8) :
    readAt (b ++ rest) offset width = readAt b offset width := by
  rw [readAt, readAt, List.drop_append_of_le_length (by omega),
    List.take_append_of_le_length (by rw [List.length_drop]; omega)]

theorem decodeHead_append (h : protocolHeaderBytes ≤ b.length)
    (maxFrameBytes : Nat) (rest : List UInt8) :
    decodeHead (b ++ rest) maxFrameBytes = decodeHead b maxFrameBytes := by
  have hhead : protocolHeaderBytes = 24 := rfl
  simp only [decodeHead]
  rw [readAt_append (by omega), readAt_append (by omega), readAt_append (by omega),
    readAt_append (by omega), readAt_append (by omega), readAt_append (by omega)]

theorem decodeBody_append
    (h : protocolHeaderBytes + length + protocolTrailerBytes ≤ b.length) (maxFrameBytes : Nat)
    (head : Frame) (rest : List UInt8) :
    decodeBody (b ++ rest) maxFrameBytes head length = decodeBody b maxFrameBytes head length := by
  simp only [decodeBody]
  rw [List.take_append_of_le_length (by omega), List.drop_append_of_le_length (by omega),
    List.drop_append_of_le_length (by omega),
    List.take_append_of_le_length (by rw [List.length_drop]; omega),
    List.take_append_of_le_length (by rw [List.length_drop]; omega),
    if_neg (show ¬ (b ++ rest).length < _ by rw [List.length_append]; omega),
    if_neg (show ¬ b.length < _ by omega)]

theorem decodeBody_cases (b : List UInt8) (maxFrameBytes : Nat) (head : Frame) (length : Nat) :
    (maxFrameBytes < protocolHeaderBytes + length + protocolTrailerBytes
      ∧ ∀ c, decodeBody c maxFrameBytes head length
          = .error (refuse .frameOversized (txt "frame exceeds the configured bound")))
    ∨ (protocolHeaderBytes + length + protocolTrailerBytes ≤ maxFrameBytes
        ∧ b.length < protocolHeaderBytes + length + protocolTrailerBytes
        ∧ decoded (decodeBody b maxFrameBytes head length) = .incomplete)
    ∨ protocolHeaderBytes + length + protocolTrailerBytes ≤ b.length := by
  by_cases hmax : maxFrameBytes < protocolHeaderBytes + length + protocolTrailerBytes
  · refine .inl ⟨hmax, fun c => ?_⟩
    simp only [decodeBody]
    rw [if_pos hmax]
  · by_cases hlen : b.length < protocolHeaderBytes + length + protocolTrailerBytes
    · refine .inr (.inl ⟨by omega, hlen, ?_⟩)
      simp only [decodeBody]
      rw [if_neg hmax, if_pos hlen]
      rfl
    · exact .inr (.inr (by omega))

/-- An answer other than "incomplete" is the same whatever follows. -/
theorem decodeFrame_append
    (h : decoded (decodeFrame b maxFrameBytes) ≠ .incomplete) (rest : List UInt8) :
    decodeFrame (b ++ rest) maxFrameBytes = decodeFrame b maxFrameBytes := by
  by_cases hshort : b.length < protocolHeaderBytes
  · rw [decodeFrame, if_pos hshort] at h
    exact absurd rfl h
  have hlong : ¬ (b ++ rest).length < protocolHeaderBytes := by
    rw [List.length_append]
    omega
  rw [decodeFrame, if_neg hlong, decodeHead_append (by omega), decodeFrame, if_neg hshort]
  rw [decodeFrame, if_neg hshort] at h
  cases hhead : decodeHead b maxFrameBytes with
  | error refusal => rfl
  | ok hl =>
    rw [hhead] at h
    obtain ⟨head, length⟩ := hl
    show decodeBody (b ++ rest) _ _ _ = decodeBody b _ _ _
    obtain ⟨-, hall⟩ | ⟨-, -, hwait⟩ | hwhole := decodeBody_cases b maxFrameBytes head length
    · rw [hall, hall]
    · exact absurd hwait h
    · exact decodeBody_append hwhole maxFrameBytes head rest

/-- **The decoder is steady.** -/
theorem steady_decodeFrame (maxFrameBytes : Nat) :
    Steady (fun b => decoded (decodeFrame b maxFrameBytes)) where
  complete {b f n} rest h := by
    show decoded (decodeFrame (b ++ rest) maxFrameBytes) = _
    rw [decodeFrame_append (by rw [h]; exact nofun) rest]
    exact h
  refused {b e} rest h := by
    show decoded (decodeFrame (b ++ rest) maxFrameBytes) = _
    rw [decodeFrame_append (by rw [h]; exact nofun) rest]
    exact h
  consumed {b f n} h := by
    simp only [decodeFrame] at h
    split at h
    · cases h
    split at h
    · cases h
    rename_i head length _
    simp only [decodeBody] at h
    split at h
    · cases h
    split at h
    · cases h
    split at h
    · cases h
    simp only [decoded, if_true, Decoded.complete.injEq] at h
    have hhead : protocolHeaderBytes = 24 := rfl
    omega

/-- What may wait in the buffer is shorter than the bound on frames. -/
theorem decodeFrame_waiting (hmax : protocolHeaderBytes ≤ maxFrameBytes)
    (h : decoded (decodeFrame b maxFrameBytes) = .incomplete) : b.length ≤ maxFrameBytes := by
  simp only [decodeFrame] at h
  split at h
  · omega
  split at h
  · cases h
  rename_i head length _
  simp only [decodeBody] at h
  split at h
  · cases h
  split at h
  · omega
  split at h <;> cases h

end DpuFabric.Transport
