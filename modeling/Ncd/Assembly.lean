import Ncd.Codec

/- Assembly accepts exactly the fragmentations of packets: which frame lists give
   which packet, and what fragment_packet puts in front of any other frames. -/
namespace NcdAssembly
open NcdPacket NcdFrame NcdCodec Chunks

/-- One type throughout, and the payloads together are the payload of p. -/
def Assembles (piece : List Frame) (p : Packet) : Prop :=
  ∃ ty, (∀ f ∈ piece, f.ty = ty) ∧ p.encode = (ty, (piece.map Frame.payload).flatten)

def OnlyLastEnds (fs : List Frame) : Prop :=
  ∃ init final, fs = init ++ [final] ∧ final.flag = .end_ ∧ ∀ f ∈ init, f.flag = .more

/-- What the frames up to the first End frame, at index last, decide. -/
structure Decided (fs : List Frame) (last : Nat) : Prop where
  inside : last < fs.length
  accepts : ∀ consumed p, tryAssemblePacket fs = .ok (some (consumed, p)) ↔
    consumed = last + 1 ∧ Assembles (fs.take (last + 1)) p
  rejects : (∃ e, tryAssemblePacket fs = .error e) ↔ ¬ ∃ p, Assembles (fs.take (last + 1)) p
  later : ∀ rest, tryAssemblePacket (fs.take (last + 1) ++ rest) = tryAssemblePacket fs

theorem collectPayload_ok {ty : UInt8} {frames : List Frame} {before payload : List UInt8}
    (ok : collectPayload ty frames before = .ok payload) :
    (∀ f ∈ frames, f.ty = ty) ∧ payload = before ++ (frames.map Frame.payload).flatten := by
  induction frames generalizing before with
  | nil =>
    rw [collectPayload, Except.ok.injEq] at ok
    simp [ok]
  | cons f fs ih =>
    simp only [collectPayload] at ok
    split at ok
    · simp at ok
    · rename_i same
      obtain ⟨types, joined⟩ := ih ok
      constructor
      · intro g member
        rcases List.mem_cons.mp member with first | later
        · rw [first]
          exact Decidable.not_not.mp same
        · exact types g later
      · simp [joined]

theorem assembles_first {init : List Frame} {final : Frame} {p : Packet} :
    Assembles (init ++ [final]) p ↔
      (∀ f ∈ init ++ [final], f.ty = ((init ++ [final]).head (by simp)).ty) ∧
        p.encode = (((init ++ [final]).head (by simp)).ty,
          ((init ++ [final]).map Frame.payload).flatten) := by
  constructor
  · intro piece
    obtain ⟨ty, types, encoded⟩ := piece
    have first : ((init ++ [final]).head (by simp)).ty = ty := types _ (List.head_mem _)
    rw [first]
    exact ⟨types, encoded⟩
  · intro piece
    exact ⟨_, piece.1, piece.2⟩

theorem assembled_ok_iff {init : List Frame} {final : Frame} {consumed : Nat} {p : Packet} :
    assembled init final = .ok (consumed, p) ↔
      consumed = init.length + 1 ∧ Assembles (init ++ [final]) p := by
  rw [assembles_first]
  constructor
  · intro ok
    unfold assembled at ok
    split at ok
    · simp at ok
    · rename_i payload collected
      obtain ⟨types, joined⟩ := collectPayload_ok collected
      split at ok
      · simp at ok
      · rename_i packet decoded
        rw [Except.ok.injEq, Prod.mk.injEq] at ok
        obtain ⟨count, same⟩ := ok
        subst same
        rw [decode_ok_iff] at decoded
        rw [joined, List.nil_append] at decoded
        exact ⟨count.symm, types, decoded⟩
  · intro whole
    obtain ⟨count, types, encoded⟩ := whole
    have decoded := decode_ok_iff.mpr encoded
    simp only [assembled, collectPayload_same types, List.nil_append, decoded, count]

theorem assembled_error_iff {init : List Frame} {final : Frame} :
    (∃ e, assembled init final = .error e) ↔ ¬ ∃ p, Assembles (init ++ [final]) p := by
  constructor
  · intro failed accepted
    obtain ⟨e, failed⟩ := failed
    obtain ⟨p, piece⟩ := accepted
    have ok := assembled_ok_iff.mpr ⟨rfl, piece⟩
    rw [failed] at ok
    simp at ok
  · intro no_packet
    cases verdict : assembled init final with
    | error e => exact ⟨e, rfl⟩
    | ok found =>
      have piece := (assembled_ok_iff.mp verdict).2
      exact absurd ⟨found.2, piece⟩ no_packet

theorem cut_at_end {init rest : List Frame} {final : Frame} :
    (init ++ final :: rest).take (init.length + 1) = init ++ [final] := by
  rw [List.append_cons, List.take_left' (by simp)]

theorem decided_cut {init rest : List Frame} {final : Frame}
    (more : ∀ f ∈ init, f.flag = .more) (ends : final.flag = .end_) :
    Decided (init ++ final :: rest) init.length := by
  have verdict : tryAssemblePacket (init ++ final :: rest) = _ := tryAssemblePacket_cut more ends
  constructor
  · rw [List.length_append, List.length_cons]
    omega
  · intro consumed p
    rw [verdict, cut_at_end, ← assembled_ok_iff]
    cases assembled init final with
    | error e => simp [Except.map]
    | ok found => simp [Except.map]
  · rw [verdict, cut_at_end, ← assembled_error_iff]
    cases assembled init final with
    | error e => simp [Except.map]
    | ok found => simp [Except.map]
  · intro others
    rw [verdict, cut_at_end, List.append_assoc, List.singleton_append]
    exact tryAssemblePacket_cut more ends

theorem decided {fs : List Frame} {last : Nat} (found : fs.findIdx? isEnd = some last) :
    Decided fs last := by
  rcases end_or_more fs with more | ⟨init, final, rest, rfl, ends, more⟩
  · rw [findIdx_none.mpr more] at found
    simp at found
  · rw [findIdx_end more ends, Option.some.injEq] at found
    subst found
    exact decided_cut more ends

theorem incomplete_iff {fs : List Frame} :
    tryAssemblePacket fs = .ok none ↔ ∀ f ∈ fs, f.flag ≠ .end_ := by
  have plain : (∀ f ∈ fs, f.flag ≠ .end_) ↔ ∀ f ∈ fs, f.flag = .more := by
    constructor
    · intro no_end f member
      cases flag : f.flag with
      | more => rfl
      | end_ => exact absurd flag (no_end f member)
    · intro more f member
      simp [more f member]
  rw [plain]
  constructor
  · intro none
    rcases end_or_more fs with more | ⟨init, final, rest, rfl, ends, more⟩
    · exact more
    · rw [tryAssemblePacket_cut more ends] at none
      cases verdict : assembled init final with
      | error e => simp [verdict, Except.map] at none
      | ok found => simp [verdict, Except.map] at none
  · exact tryAssemblePacket_none

theorem fragments_accepted {p : Packet} {fs : List Frame} (cut : Fragments p fs)
    (rest : List Frame) : tryAssemblePacket (fs ++ rest) = .ok (some (fs.length, p)) := by
  obtain ⟨init, final, rfl, ends, more⟩ := cut.last
  rw [List.append_assoc, List.singleton_append, tryAssemblePacket_cut more ends,
    assembled_fragments cut]
  simp [Except.map]

theorem assembly_exact :
    (∀ fs, (tryAssemblePacket fs = .ok none ↔ ∀ f ∈ fs, f.flag ≠ .end_) ∧
      ∀ last, fs.findIdx? isEnd = some last → Decided fs last) ∧
    ∀ p, ∃ fs, fragmentPacket p = some fs ∧ OnlyLastEnds fs ∧
      (∀ f ∈ fs, f.payload.length ≤ maxPayloadSize) ∧
      ∀ rest, tryAssemblePacket (fs ++ rest) = .ok (some (fs.length, p)) := by
  constructor
  · intro fs
    constructor
    · exact incomplete_iff
    · intro last found
      exact decided found
  · intro p
    obtain ⟨fs, made, cut⟩ := fragmentPacket_fragments p
    exact ⟨fs, made, cut.last, cut.fits, fragments_accepted cut⟩

end NcdAssembly
