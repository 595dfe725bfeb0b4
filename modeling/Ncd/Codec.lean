import Ncd.Chunks
import Ncd.Frame

/- Packets to frames and back: fragment_packet and try_assemble_packet. -/
namespace NcdCodec
open NcdPacket NcdFrame Chunks

/-- The enumerate loop: the last of frameNum pieces gets the End flag. -/
def numberFrames (ty : UInt8) (frameNum : Nat) (pieces : List (List UInt8)) : List Frame :=
  pieces.zipIdx.map fun (chunk, i) =>
    { flag := if i = frameNum - 1 then .end_ else .more, ty := ty, payload := chunk }

/-- `none` is a failed assertion (packet length or frame count mismatch). -/
def fragmentPacket (packet : Packet) : Option (List Frame) :=
  let payloadLength := packet.length
  if payloadLength ≤ maxPayloadSize then
    let (ty, payload) := packet.encode
    some [{ flag := .end_, ty := ty, payload := payload }]
  else
    let frameNum := (payloadLength + maxPayloadSize - 1) / maxPayloadSize
    let (ty, bytes) := packet.encode
    if bytes.length ≠ payloadLength then none
    else
      let buf := numberFrames ty frameNum (chunks maxPayloadSize bytes)
      if buf.length ≠ frameNum then none else some buf

def collectPayload (ty : UInt8) : List Frame → List UInt8 → Except Error (List UInt8)
  | [], payload => .ok payload
  | frame :: frames, payload =>
    if frame.ty ≠ ty then .error (.assemblePacketError (.mismatchedTypes ty frame.ty))
    else collectPayload ty frames (payload ++ frame.payload)

def isEnd (f : Frame) : Bool := f.flag = .end_

theorem position_bound {frames : List Frame} {last : Nat}
    (found : frames.findIdx? isEnd = some last) : last < frames.length :=
  (List.findIdx?_eq_some_iff_getElem.mp found).1

/-- Returns (consumed frames, packet). -/
def tryAssemblePacket (frames : List Frame) : Except Error (Option (Nat × Packet)) :=
  match found : frames.findIdx? isEnd with
  | none => .ok none
  | some last =>
    have bound : last < frames.length := position_bound found
    let ty := frames[0].ty
    match collectPayload ty (frames.take (last + 1)) [] with
    | .error e => .error e
    | .ok payload =>
      match Packet.decode ty payload with
      | .error e => .error e
      | .ok packet => .ok (some (last + 1, packet))

/-- fs is the packet p cut into frames: only the last one ends it. -/
structure Fragments (p : Packet) (fs : List Frame) : Prop where
  last : ∃ init final, fs = init ++ [final] ∧ final.flag = .end_ ∧ ∀ f ∈ init, f.flag = .more
  types : ∀ f ∈ fs, f.ty = p.encode.1
  fits : ∀ f ∈ fs, f.payload.length ≤ maxPayloadSize
  payload : (fs.map Frame.payload).flatten = p.encode.2

theorem numberFrames_length (ty : UInt8) (n : Nat) (cs : List (List UInt8)) :
    (numberFrames ty n cs).length = cs.length := by
  simp [numberFrames]

theorem numberFrames_payloads (ty : UInt8) (n : Nat) (cs : List (List UInt8)) :
    (numberFrames ty n cs).map Frame.payload = cs := by
  rw [numberFrames, List.map_map]
  exact List.zipIdx_map_fst 0 cs

theorem numberFrames_types {ty : UInt8} {n : Nat} {cs : List (List UInt8)} {f : Frame}
    (member : f ∈ numberFrames ty n cs) : f.ty = ty := by
  simp only [numberFrames, List.mem_map] at member
  obtain ⟨_, _, rfl⟩ := member
  rfl

theorem numberFrames_last (ty : UInt8) (front : List (List UInt8)) (final : List UInt8) :
    ∃ init, numberFrames ty (front.length + 1) (front ++ [final]) =
      init ++ [{ flag := .end_, ty := ty, payload := final }] ∧ ∀ f ∈ init, f.flag = .more := by
  refine ⟨front.zipIdx.map fun (chunk, i) =>
    { flag := if i = front.length + 1 - 1 then .end_ else .more, ty := ty, payload := chunk },
    by simp [numberFrames, List.zipIdx_append], ?_⟩
  intro f member
  simp only [List.mem_map] at member
  obtain ⟨⟨chunk, i⟩, at_i, rfl⟩ := member
  have below := (List.mem_zipIdx at_i).2.1
  simp
  omega

theorem fragmentPacket_small {p : Packet} (small : p.length ≤ maxPayloadSize) :
    fragmentPacket p = some [{ flag := .end_, ty := p.encode.1, payload := p.encode.2 }] := by
  simp [fragmentPacket, small]

/- Both assertions hold: the encoded length is the announced one, and the number of
   pieces is the number of frames. -/
theorem fragmentPacket_large {p : Packet} (large : ¬ p.length ≤ maxPayloadSize) :
    fragmentPacket p = some (numberFrames p.encode.1
      (chunks maxPayloadSize p.encode.2).length (chunks maxPayloadSize p.encode.2)) := by
  have count : (chunks maxPayloadSize p.encode.2).length =
      (p.length + maxPayloadSize - 1) / maxPayloadSize := by
    rw [chunks_length (by decide), length_encode]
  simp [fragmentPacket, large, length_encode, numberFrames_length, count]

theorem fragmentPacket_fragments (p : Packet) :
    ∃ fs, fragmentPacket p = some fs ∧ Fragments p fs := by
  have positive : 0 < maxPayloadSize := by decide
  by_cases small : p.length ≤ maxPayloadSize
  · refine ⟨_, fragmentPacket_small small, ⟨[], _, rfl, rfl, by simp⟩, by simp, ?_, by simp⟩
    intro f member
    rw [List.mem_singleton.mp member]
    simpa [length_encode] using small
  · refine ⟨_, fragmentPacket_large small, ?_, fun f => numberFrames_types, ?_, ?_⟩
    · have nonempty : chunks maxPayloadSize p.encode.2 ≠ [] := by
        intro empty
        have whole := chunks_flatten positive p.encode.2
        rw [empty] at whole
        have := length_encode p
        simp only [← whole, List.flatten_nil, List.length_nil] at this
        omega
      rw [← List.dropLast_append_getLast nonempty, List.length_append, List.length_singleton]
      obtain ⟨init, shape, more⟩ := numberFrames_last p.encode.1
        (chunks maxPayloadSize p.encode.2).dropLast
        ((chunks maxPayloadSize p.encode.2).getLast nonempty)
      exact ⟨init, _, shape, rfl, more⟩
    · intro f member
      have piece : f.payload ∈ chunks maxPayloadSize p.encode.2 := by
        rw [← numberFrames_payloads p.encode.1 (chunks maxPayloadSize p.encode.2).length
          (chunks maxPayloadSize p.encode.2)]
        exact List.mem_map_of_mem member
      exact (chunks_bounds positive piece).2
    · rw [numberFrames_payloads, chunks_flatten positive]

theorem collectPayload_same {ty : UInt8} {frames : List Frame}
    (same : ∀ f ∈ frames, f.ty = ty) (payload : List UInt8) :
    collectPayload ty frames payload = .ok (payload ++ (frames.map Frame.payload).flatten) := by
  induction frames generalizing payload with
  | nil => simp [collectPayload]
  | cons f fs ih =>
    have here : f.ty = ty := same f (by simp)
    simp only [collectPayload, here, ne_eq, not_true_eq_false, if_false]
    rw [ih (fun g member => same g (by simp [member]))]
    simp

theorem findIdx_end {init rest : List Frame} {final : Frame}
    (more : ∀ f ∈ init, f.flag = .more) (ends : final.flag = .end_) :
    (init ++ final :: rest).findIdx? isEnd = some init.length := by
  have none_before : init.findIdx? isEnd = none := by
    rw [List.findIdx?_eq_none_iff]
    intro f member
    simp [isEnd, more f member]
  simp [List.findIdx?_append, none_before, List.findIdx?_cons, isEnd, ends]

theorem findIdx_none {frames : List Frame} :
    frames.findIdx? isEnd = none ↔ ∀ f ∈ frames, f.flag = .more := by
  rw [List.findIdx?_eq_none_iff]
  constructor
  · intro none f member
    have notEnd := none f member
    cases flag : f.flag with
    | more => rfl
    | end_ => simp [isEnd, flag] at notEnd
  · intro more f member
    simp [isEnd, more f member]

theorem end_or_more (frames : List Frame) :
    (∀ f ∈ frames, f.flag = .more) ∨
      ∃ init final rest, frames = init ++ final :: rest ∧ final.flag = .end_ ∧
        ∀ f ∈ init, f.flag = .more := by
  induction frames with
  | nil => exact Or.inl (by simp)
  | cons f fs ih =>
    cases flag : f.flag with
    | end_ => exact Or.inr ⟨[], f, fs, rfl, flag, by simp⟩
    | more =>
      rcases ih with more | ⟨init, final, rest, rfl, ends, more⟩
      · exact Or.inl (by simpa [flag] using more)
      · exact Or.inr ⟨f :: init, final, rest, rfl, ends, by simpa [flag] using more⟩

theorem tryAssemblePacket_none {frames : List Frame} (more : ∀ f ∈ frames, f.flag = .more) :
    tryAssemblePacket frames = .ok none := by
  unfold tryAssemblePacket
  split
  · rfl
  · rename_i found
    rw [findIdx_none.mpr more] at found
    simp at found

def assembled (init : List Frame) (final : Frame) : Except Error (Nat × Packet) :=
  match collectPayload ((init ++ [final]).head (by simp)).ty (init ++ [final]) [] with
  | .error e => .error e
  | .ok payload =>
    match Packet.decode ((init ++ [final]).head (by simp)).ty payload with
    | .error e => .error e
    | .ok packet => .ok (init.length + 1, packet)

theorem tryAssemblePacket_cut {init rest : List Frame} {final : Frame}
    (more : ∀ f ∈ init, f.flag = .more) (ends : final.flag = .end_) :
    tryAssemblePacket (init ++ final :: rest) = (assembled init final).map some := by
  have taken : (init ++ final :: rest).take (init.length + 1) = init ++ [final] := by
    rw [List.append_cons, List.take_left' (by simp)]
  have positive : 0 < (init ++ final :: rest).length := by
    rw [List.length_append, List.length_cons]
    omega
  have first : (init ++ final :: rest)[0] = (init ++ [final]).head (by simp) := by
    cases init <;> rfl
  unfold tryAssemblePacket
  split
  · rename_i none
    rw [findIdx_end more ends] at none
    simp at none
  · rename_i last found
    rw [findIdx_end more ends, Option.some.injEq] at found
    subst found
    simp only [taken, first, assembled]
    cases collectPayload ((init ++ [final]).head (by simp)).ty (init ++ [final]) [] with
    | error e => rfl
    | ok payload =>
      dsimp only
      cases Packet.decode ((init ++ [final]).head (by simp)).ty payload <;> rfl

theorem assembled_fragments {p : Packet} {init : List Frame} {final : Frame}
    (cut : Fragments p (init ++ [final])) :
    assembled init final = .ok (init.length + 1, p) := by
  have ty : ((init ++ [final]).head (by simp)).ty = p.encode.1 :=
    cut.types _ (List.head_mem _)
  simp only [assembled, ty, collectPayload_same cut.types, List.nil_append, cut.payload,
    decode_encode]

end NcdCodec
