import Ncd.Codec
import Ncd.IncrementalDecoding
import Ncd.LabelledRuns

/- IoState of a connection: send_packet, and recv_packet as the calls, the reads and
   the drops it can go through. The stream remembers every byte written and read. -/
namespace NcdIoState
open NcdPacket NcdFrame NcdCodec IncrementalDecoding LabelledRuns

structure TcpStream where
  written : List UInt8 := []
  consumed : List UInt8 := []
  shutdown : Bool := false
  deriving DecidableEq, Repr

structure IoState where
  stream : TcpStream := {}
  byteBuffer : List UInt8 := []
  frameBuffer : List Frame := []
  packetBuffer : List Packet := []
  deriving DecidableEq, Repr

/-- prealloc_send_buffer after the loop over the frames; `none` is a failed assertion. -/
def sendBuffer (packet : Packet) : Option (List UInt8) :=
  (fragmentPacket packet).bind fun frames => frames.foldlM (fun buf f => f.encode buf) []

def IoState.sendPacket (io : IoState) (packet : Packet) : Option IoState :=
  (sendBuffer packet).map fun buf =>
    { io with stream := { io.stream with written := io.stream.written ++ buf } }

def nextFrame (available : List UInt8) : Except Error (Option (Frame × List UInt8)) :=
  match peekHead available with
  | .error e => .error e
  | .ok none => .ok none
  | .ok (some (_, _, payloadLen)) =>
    let frameLen := headerSize + payloadLen
    if available.length < frameLen then .ok none
    else
      match Frame.decode (available.take frameLen) with
      | .error e => .error e
      | .ok frame => .ok (some (frame, available.drop frameLen))

def nextPacket (frames : List Frame) : Except Error (Option (Packet × List Frame)) :=
  match tryAssemblePacket frames with
  | .error e => .error e
  | .ok none => .ok none
  | .ok (some (consumed, packet)) => .ok (some (packet, frames.drop consumed))

theorem peekHead_settled {src : List UInt8} {verdict : Except Error (Option (UInt8 × Flag × Nat))}
    (found : peekHead src = verdict) (decided : verdict ≠ .ok none) (more : List UInt8) :
    peekHead (src ++ more) = verdict := by
  have long : headerSize ≤ src.length := by
    by_contra short
    exact decided (found.symm.trans (peekHead_short (by omega)))
  rw [peekHead_append long, found]

/- The length test makes a decoded frame and the rest independent of later bytes. -/
theorem nextFrame_some {src rest : List UInt8} {f : Frame}
    (found : nextFrame src = .ok (some (f, rest))) :
    ∃ ty flag n, peekHead src = .ok (some (ty, flag, n)) ∧ headerSize + n ≤ src.length ∧
      Frame.decode (src.take (headerSize + n)) = .ok f ∧ rest = src.drop (headerSize + n) := by
  unfold nextFrame at found
  split at found
  · simp at found
  · simp at found
  · rename_i ty flag n head
    dsimp only at found
    split at found
    · simp at found
    · rename_i enough
      split at found
      · simp at found
      · rename_i frame decoded
        simp only [Except.ok.injEq, Option.some.injEq, Prod.mk.injEq] at found
        obtain ⟨rfl, rfl⟩ := found
        exact ⟨ty, flag, n, head, Nat.le_of_not_lt enough, decoded, rfl⟩

theorem nextFrame_settled {src rest : List UInt8} {f : Frame} (more : List UInt8)
    (found : nextFrame src = .ok (some (f, rest))) :
    nextFrame (src ++ more) = .ok (some (f, rest ++ more)) := by
  obtain ⟨ty, flag, n, head, enough, decoded, rfl⟩ := nextFrame_some found
  have head' := peekHead_settled head (by simp) more
  have enough' : ¬ (src ++ more).length < headerSize + n := by
    rw [List.length_append]; omega
  simp only [nextFrame, head', if_neg enough', List.take_append_of_le_length enough, decoded,
    List.drop_append_of_le_length enough]

theorem nextFrame_rejected {src : List UInt8} {e : Error} (more : List UInt8)
    (bad : nextFrame src = .error e) : nextFrame (src ++ more) = .error e := by
  unfold nextFrame at bad
  split at bad
  · rename_i e' head
    have head' := peekHead_settled head (by simp) more
    simpa [nextFrame, head'] using bad
  · simp at bad
  · rename_i ty flag n head
    have head' := peekHead_settled head (by simp) more
    dsimp only at bad
    split at bad
    · simp at bad
    · rename_i enough
      have enough' : ¬ (src ++ more).length < headerSize + n := by
        rw [List.length_append]; omega
      simp only [nextFrame, head', if_neg enough',
        List.take_append_of_le_length (Nat.le_of_not_lt enough)]
      split at bad
      · rename_i e' decoded
        simpa [decoded] using bad
      · simp at bad

theorem nextFrame_shrinks {src rest : List UInt8} {f : Frame}
    (found : nextFrame src = .ok (some (f, rest))) : rest.length < src.length := by
  obtain ⟨_, _, n, _, enough, _, rfl⟩ := nextFrame_some found
  simp only [List.length_drop, headerSize] at enough ⊢
  omega

def frameDecoder : Decoder UInt8 Frame Error where
  next := nextFrame
  shrinks := fun found => nextFrame_shrinks found
  settled := fun more found => nextFrame_settled more found
  rejected := fun more bad => nextFrame_rejected more bad

theorem nextPacket_cut {init : List Frame} {final : Frame} (rest : List Frame)
    (more : ∀ f ∈ init, f.flag = .more) (ends : final.flag = .end_) :
    nextPacket (init ++ final :: rest) =
      (assembled init final).map fun (consumed, packet) =>
        some (packet, (init ++ final :: rest).drop consumed) := by
  unfold nextPacket
  rw [tryAssemblePacket_cut more ends]
  cases assembled init final <;> rfl

theorem assembled_consumed {init : List Frame} {final : Frame} {n : Nat} {p : Packet}
    (found : assembled init final = .ok (n, p)) : n = init.length + 1 := by
  unfold assembled at found
  split at found
  · simp at found
  · split at found
    · simp at found
    · simp only [Except.ok.injEq, Prod.mk.injEq] at found
      exact found.1.symm

theorem nextPacket_none {frames : List Frame} (more : ∀ f ∈ frames, f.flag = .more) :
    nextPacket frames = .ok none := by
  simp [nextPacket, tryAssemblePacket_none more]

/- Both verdicts are reached on the frames up to the first End frame. -/
theorem nextPacket_some {frames rest : List Frame} {p : Packet}
    (found : nextPacket frames = .ok (some (p, rest))) :
    ∃ init final, frames = init ++ final :: rest ∧ final.flag = .end_ ∧
      (∀ f ∈ init, f.flag = .more) ∧ assembled init final = .ok (init.length + 1, p) := by
  rcases end_or_more frames with more | ⟨init, final, tail, rfl, ends, more⟩
  · simp [nextPacket_none more] at found
  · rw [nextPacket_cut _ more ends] at found
    cases verdict : assembled init final with
    | error e => simp [verdict, Except.map] at found
    | ok pair =>
      obtain ⟨n, q⟩ := pair
      have consumed := assembled_consumed verdict
      subst consumed
      simp only [verdict, Except.map, Except.ok.injEq, Option.some.injEq, Prod.mk.injEq] at found
      obtain ⟨rfl, rfl⟩ := found
      refine ⟨init, final, ?_, ends, more, verdict⟩
      rw [List.append_cons, List.drop_left' (by simp)]
      simp

theorem nextPacket_settled {frames rest : List Frame} {p : Packet} (more : List Frame)
    (found : nextPacket frames = .ok (some (p, rest))) :
    nextPacket (frames ++ more) = .ok (some (p, rest ++ more)) := by
  obtain ⟨init, final, rfl, ends, before, verdict⟩ := nextPacket_some found
  rw [List.append_assoc, List.cons_append, nextPacket_cut _ before ends, verdict]
  simp only [Except.map]
  rw [List.append_cons, List.drop_left' (by simp)]

theorem nextPacket_rejected {frames : List Frame} {e : Error} (more : List Frame)
    (bad : nextPacket frames = .error e) : nextPacket (frames ++ more) = .error e := by
  rcases end_or_more frames with flags | ⟨init, final, tail, rfl, ends, flags⟩
  · simp [nextPacket_none flags] at bad
  · rw [nextPacket_cut _ flags ends] at bad
    rw [List.append_assoc, List.cons_append, nextPacket_cut _ flags ends]
    cases verdict : assembled init final with
    | error e' => simpa [verdict, Except.map] using bad
    | ok pair => simp [verdict, Except.map] at bad

theorem nextPacket_shrinks {frames rest : List Frame} {p : Packet}
    (found : nextPacket frames = .ok (some (p, rest))) : rest.length < frames.length := by
  obtain ⟨init, final, rfl, _⟩ := nextPacket_some found
  simp only [List.length_append, List.length_cons]
  omega

def packetDecoder : Decoder Frame Packet Error where
  next := nextPacket
  shrinks := fun found => nextPacket_shrinks found
  settled := fun more found => nextPacket_settled more found
  rejected := fun more bad => nextPacket_rejected more bad

/-- read_buf returned chunk: append it, then run the two inner loops. -/
def IoState.readBytes (io : IoState) (chunk : List UInt8) : Except Error IoState :=
  match frameDecoder.drain (io.byteBuffer ++ chunk) io.frameBuffer with
  | .error e => .error e
  | .ok (bytes, frames) =>
    match packetDecoder.drain frames io.packetBuffer with
    | .error e => .error e
    | .ok (frames, packets) =>
      .ok { stream := { io.stream with consumed := io.stream.consumed ++ chunk }
            byteBuffer := bytes, frameBuffer := frames, packetBuffer := packets }

def framesBytes (frames : List Frame) : List UInt8 := (frames.map Frame.bytes).flatten

theorem foldlM_encode {frames : List Frame}
    (fits : ∀ f ∈ frames, f.payload.length ≤ maxPayloadSize) (buf : List UInt8) :
    frames.foldlM (fun buf f => f.encode buf) buf = some (buf ++ framesBytes frames) := by
  induction frames generalizing buf with
  | nil => simp [framesBytes]
  | cons f fs ih =>
    rw [List.foldlM_cons, encode_eq (fits f (by simp))]
    rw [Option.bind_eq_bind, Option.bind_some, ih (fun g member => fits g (by simp [member]))]
    simp [framesBytes]

/- No assertion of fragment_packet or of Frame::encode fails on any packet. -/
theorem sendBuffer_fragments (p : Packet) :
    ∃ fs, fragmentPacket p = some fs ∧ Fragments p fs ∧ sendBuffer p = some (framesBytes fs) := by
  obtain ⟨fs, cut, frags⟩ := fragmentPacket_fragments p
  refine ⟨fs, cut, frags, ?_⟩
  rw [sendBuffer, cut, Option.bind_some, foldlM_encode frags.fits, List.nil_append]

theorem sendBuffer_isSome (p : Packet) : (sendBuffer p).isSome := by
  obtain ⟨_, _, _, sent⟩ := sendBuffer_fragments p
  simp [sent]

def packetBytes (p : Packet) : List UInt8 := (sendBuffer p).get (sendBuffer_isSome p)
def wire (ps : List Packet) : List UInt8 := (ps.map packetBytes).flatten

@[simp] theorem sendBuffer_eq (p : Packet) : sendBuffer p = some (packetBytes p) := by
  simp [packetBytes]

@[simp] theorem wire_nil : wire [] = [] := rfl

@[simp] theorem wire_cons (p : Packet) (ps : List Packet) :
    wire (p :: ps) = packetBytes p ++ wire ps := rfl

@[simp] theorem wire_append (ps qs : List Packet) : wire (ps ++ qs) = wire ps ++ wire qs := by
  simp [wire]

theorem packetBytes_fragments (p : Packet) :
    ∃ fs, Fragments p fs ∧ packetBytes p = framesBytes fs := by
  obtain ⟨fs, _, frags, sent⟩ := sendBuffer_fragments p
  refine ⟨fs, frags, ?_⟩
  rw [sendBuffer_eq] at sent
  exact Option.some.inj sent

theorem packetBytes_long (p : Packet) : headerSize ≤ (packetBytes p).length := by
  obtain ⟨fs, frags, bytes⟩ := packetBytes_fragments p
  obtain ⟨init, final, rfl, _⟩ := frags.last
  rw [bytes]
  simp only [framesBytes, List.map_append, List.map_cons, List.map_nil, List.flatten_append,
    List.flatten_cons, List.flatten_nil, List.length_append, bytes_length]
  omega

theorem packetBytes_ne_nil (p : Packet) : packetBytes p ≠ [] := by
  intro empty
  have long := packetBytes_long p
  simp [empty, headerSize] at long

def sendAll (ps : List Packet) : Option (List UInt8) :=
  (ps.foldlM IoState.sendPacket {}).map fun io => io.stream.written

theorem foldlM_sendPacket (ps : List Packet) (io : IoState) :
    ps.foldlM IoState.sendPacket io = some
      { io with stream := { io.stream with written := io.stream.written ++ wire ps } } := by
  induction ps generalizing io with
  | nil => simp
  | cons p ps ih => simp [IoState.sendPacket, ih]

theorem sendAll_eq (ps : List Packet) : sendAll ps = some (wire ps) := by
  simp [sendAll, foldlM_sendPacket]

theorem nextFrame_bytes {f : Frame} (fits : f.payload.length ≤ maxPayloadSize)
    (more : List UInt8) : nextFrame (f.bytes ++ more) = .ok (some (f, more)) := by
  have total := bytes_length f
  have enough : ¬ (f.bytes ++ more).length < headerSize + f.payload.length := by
    rw [List.length_append]; omega
  have whole : (f.bytes ++ more).take (headerSize + f.payload.length) = f.bytes ++ [] := by
    rw [List.append_nil, List.take_left' total]
  simp only [nextFrame, peekHead_bytes fits, if_neg enough, whole, decode_bytes fits,
    List.drop_left' total]

/- A strict prefix of a frame's encoding is never rejected. -/
theorem nextFrame_cut {f : Frame} (fits : f.payload.length ≤ maxPayloadSize)
    {src : List UInt8} (part : src <+: f.bytes) (strict : src.length < f.bytes.length) :
    nextFrame src = .ok none := by
  by_cases short : src.length < headerSize
  · simp [nextFrame, peekHead_short short]
  · obtain ⟨more, whole⟩ := part
    have head : peekHead src = .ok (some (f.ty, f.flag, f.payload.length)) := by
      rw [← peekHead_append (Nat.le_of_not_lt short) more, whole]
      simpa using peekHead_bytes fits []
    rw [bytes_length] at strict
    simp [nextFrame, head, strict]

theorem parses_framesBytes {fs gs : List Frame} {src mid : List UInt8}
    (fits : ∀ f ∈ fs, f.payload.length ≤ maxPayloadSize)
    (tail : frameDecoder.Parses src gs mid) :
    frameDecoder.Parses (framesBytes fs ++ src) (fs ++ gs) mid := by
  induction fs with
  | nil => exact tail
  | cons f fs ih =>
    have rest := ih fun g member => fits g (by simp [member])
    have found := nextFrame_bytes (fits f (by simp)) (framesBytes fs ++ src)
    have first : frameDecoder.next (framesBytes (f :: fs) ++ src) =
        .ok (some (f, framesBytes fs ++ src)) := by
      simpa [framesBytes, frameDecoder] using found
    exact .item first rest

theorem parses_cut {fs : List Frame} {src : List UInt8}
    (fits : ∀ f ∈ fs, f.payload.length ≤ maxPayloadSize)
    (part : src <+: framesBytes fs) (strict : src.length < (framesBytes fs).length) :
    ∃ front f back mid, fs = front ++ f :: back ∧ frameDecoder.Parses src front mid := by
  induction fs generalizing src with
  | nil => simp [framesBytes] at strict
  | cons f fs ih =>
    have fitsTail : ∀ g ∈ fs, g.payload.length ≤ maxPayloadSize :=
      fun g member => fits g (by simp [member])
    have shape : framesBytes (f :: fs) = f.bytes ++ framesBytes fs := by simp [framesBytes]
    rw [shape] at part strict
    by_cases inside : src.length < f.bytes.length
    · have here : src <+: f.bytes := List.prefix_of_prefix_length_le part
        (List.prefix_append _ _) (Nat.le_of_lt inside)
      exact ⟨[], f, fs, src, rfl, .done (nextFrame_cut (fits f (by simp)) here inside)⟩
    · obtain ⟨tail, rfl⟩ : f.bytes <+: src := List.prefix_of_prefix_length_le
        (List.prefix_append _ _) part (Nat.le_of_not_lt inside)
      have tailPart : tail <+: framesBytes fs := (List.prefix_append_right_inj _).mp part
      simp only [List.length_append] at strict
      obtain ⟨front, g, back, mid, rfl, parsed⟩ := ih fitsTail tailPart (by omega)
      exact ⟨f :: front, g, back, mid, rfl,
        .item (nextFrame_bytes (fits f (by simp)) tail) parsed⟩

/-- The packets of ps whose last encoded byte is among the first n bytes. -/
def packetsWithin : List Packet → Nat → List Packet
  | [], _ => []
  | p :: ps, n =>
    if (packetBytes p).length ≤ n then p :: packetsWithin ps (n - (packetBytes p).length) else []

theorem nextFrame_nil : nextFrame [] = .ok none := rfl

theorem parse_prefix {ps : List Packet} {src : List UInt8} (part : src <+: wire ps) :
    ∃ fs mid frames, frameDecoder.Parses src fs mid ∧
      packetDecoder.Parses fs (packetsWithin ps src.length) frames ∧
      (src = wire ps → mid = [] ∧ frames = []) := by
  induction ps generalizing src with
  | nil =>
    have empty : src = [] := List.prefix_nil.mp part
    subst empty
    exact ⟨[], [], [], .done nextFrame_nil, .done rfl, fun _ => ⟨rfl, rfl⟩⟩
  | cons p ps ih =>
    obtain ⟨fs, frags, bytes⟩ := packetBytes_fragments p
    obtain ⟨init, final, rfl, ends, more⟩ := frags.last
    rw [wire_cons] at part
    by_cases inside : (packetBytes p).length ≤ src.length
    · obtain ⟨tail, rfl⟩ : packetBytes p <+: src := List.prefix_of_prefix_length_le
        (List.prefix_append _ _) part inside
      obtain ⟨gs, mid, frames, decoded, assembledTail, whole⟩ :=
        ih ((List.prefix_append_right_inj _).mp part)
      refine ⟨(init ++ [final]) ++ gs, mid, frames, ?_, ?_, ?_⟩
      · rw [bytes]
        exact parses_framesBytes frags.fits decoded
      · have rest : (packetBytes p ++ tail).length - (packetBytes p).length = tail.length := by
          simp
        rw [packetsWithin, if_pos inside, rest]
        have verdict := nextPacket_cut gs more ends
        rw [assembled_fragments frags] at verdict
        have found : packetDecoder.next ((init ++ [final]) ++ gs) = .ok (some (p, gs)) := by
          rw [List.append_assoc]
          refine verdict.trans ?_
          simp only [Except.map]
          rw [List.append_cons, List.drop_left' (by simp)]
        exact .item found assembledTail
      · intro same
        rw [wire_cons] at same
        exact whole (List.append_cancel_left same)
    · have here : src <+: framesBytes (init ++ [final]) := by
        rw [← bytes]
        exact List.prefix_of_prefix_length_le part (List.prefix_append _ _) (by omega)
      rw [bytes] at inside
      obtain ⟨front, g, back, mid, cut, decoded⟩ :=
        parses_cut frags.fits here (by omega)
      have flags : ∀ f ∈ front, f.flag = .more := by
        have shorter : front <+: init := by
          have fine : front <+: init ++ [final] := ⟨g :: back, cut.symm⟩
          have lengths := congrArg List.length cut
          simp only [List.length_append, List.length_cons, List.length_nil] at lengths
          exact List.prefix_of_prefix_length_le fine (List.prefix_append _ _) (by omega)
        intro f member
        exact more f (shorter.subset member)
      refine ⟨front, mid, front, decoded, ?_, ?_⟩
      · rw [packetsWithin, if_neg (by rw [bytes]; exact inside)]
        exact .done (nextPacket_none flags)
      · intro same
        rw [same, wire_cons, bytes, List.length_append] at inside
        omega

theorem packetsWithin_prefix (ps : List Packet) (n : Nat) : packetsWithin ps n <+: ps := by
  induction ps generalizing n with
  | nil => simp [packetsWithin]
  | cons p ps ih =>
    simp only [packetsWithin]
    split
    · exact (List.prefix_cons_inj p).mpr (ih _)
    · exact List.nil_prefix

theorem packetsWithin_all (ps : List Packet) : packetsWithin ps (wire ps).length = ps := by
  induction ps with
  | nil => rfl
  | cons p ps ih => simp [packetsWithin, ih]

end NcdIoState
