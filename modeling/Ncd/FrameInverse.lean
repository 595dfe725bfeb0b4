import Ncd.Frame

/- Frame decoding is the inverse of encoding, on every byte string: what is accepted
   starts with an encoded frame, a truncated frame is only ever too short, and
   peek_head sees the header that decode uses. -/
namespace NcdFrameInverse
open NcdPacket NcdFrame

def IsFormatError : Error → Prop
  | .frameDecodeError (.invalidMagicNumber _ _) => True
  | .frameDecodeError (.invalidVersion _ _) => True
  | .frameDecodeError (.invalidFlag _) => True
  | _ => False

def tooShort (expected got : Nat) : Error := .frameDecodeError (.dataTooShort expected got)

def shorterThanHeader (got : Nat) : Error :=
  .frameDecodeError (.dataShorterThanHeader headerSize got)

/-- What a strict prefix of an encoded frame gives: the lengths expected are those of a
    header, and of the whole frame once its header is there. -/
def truncated (f : Frame) (got : Nat) : Error :=
  if got < headerSize then shorterThanHeader got
  else tooShort (headerSize + f.payload.length) got

structure Inverted (f : Frame) : Prop where
  appends : ∀ buf, f.encode buf = some (buf ++ f.bytes)
  accepts : ∀ src, Frame.decode src = .ok f ↔ ∃ more, src = f.bytes ++ more
  truncations : ∀ src, src <+: f.bytes → src ≠ f.bytes →
    Frame.decode src = .error (truncated f src.length)

structure PeekAgrees (src : List UInt8) : Prop where
  short : peekHead src = .ok none ↔ src.length < headerSize
  format : ∀ e, peekHead src = .error e ↔ Frame.decode src = .error e ∧ IsFormatError e
  head : ∀ ty flag length, peekHead src = .ok (some (ty, flag, length)) →
    (src.length < headerSize + length ∧
      Frame.decode src = .error (tooShort (headerSize + length) src.length)) ∨
    (headerSize + length ≤ src.length ∧ ∃ payload, payload.length = length ∧
      Frame.decode src = .ok { flag := flag, ty := ty, payload := payload })

theorem tryFrom_ok {v : UInt8} {flag : Flag} (ok : Flag.tryFrom v = .ok flag) :
    v = flag.toByte := by
  simp only [Flag.tryFrom] at ok
  split at ok
  · rename_i ends
    cases ok
    exact ends
  split at ok
  · rename_i more
    cases ok
    exact more
  · simp at ok

theorem tryFrom_error {v : UInt8} {e : Error} (error : Flag.tryFrom v = .error e) :
    IsFormatError e := by
  simp only [Flag.tryFrom] at error
  split at error
  · simp at error
  split at error
  · simp at error
  · cases error
    exact True.intro

theorem header_and_rest {src : List UInt8} (long : headerSize ≤ src.length) :
    ∃ m₀ m₁ m₂ v high low g ty rest, src = m₀ :: m₁ :: m₂ :: v :: high :: low :: g :: ty :: rest := by
  have eight : 8 ≤ src.length := long
  have front : (src.take 4).length = 4 := by
    rw [List.length_take]
    omega
  have back : ((src.drop 4).take 4).length = 4 := by
    rw [List.length_take, List.length_drop]
    omega
  obtain ⟨m₀, m₁, m₂, v, first⟩ := List.length_eq_four.mp front
  obtain ⟨high, low, g, ty, second⟩ := List.length_eq_four.mp back
  refine ⟨m₀, m₁, m₂, v, high, low, g, ty, (src.drop 4).drop 4, ?_⟩
  calc src = src.take 4 ++ ((src.drop 4).take 4 ++ (src.drop 4).drop 4) := by
        rw [List.take_append_drop, List.take_append_drop]
    _ = m₀ :: m₁ :: m₂ :: v :: high :: low :: g :: ty :: (src.drop 4).drop 4 := by
        rw [first, second]
        rfl

def wordOf (high low : UInt8) : Nat := high.toNat * 2 ^ 8 + low.toNat

theorem wordOf_bytes (high low : UInt8) :
    [UInt8.ofNat (wordOf high low / 2 ^ 8), UInt8.ofNat (wordOf high low)] = [high, low] := by
  have highBound := high.toNat_lt
  have lowBound := low.toNat_lt
  have front : UInt8.ofNat (wordOf high low / 2 ^ 8) = high := by
    apply UInt8.toNat_inj.mp
    rw [UInt8.toNat_ofNat', wordOf]
    omega
  have back : UInt8.ofNat (wordOf high low) = low := by
    apply UInt8.toNat_inj.mp
    rw [UInt8.toNat_ofNat', wordOf]
    omega
  rw [front, back]

theorem wordOf_fits (high low : UInt8) : wordOf high low ≤ maxPayloadSize := by
  have highBound := high.toNat_lt
  have lowBound := low.toNat_lt
  simp only [wordOf, maxPayloadSize]
  omega

theorem peekHead_header (m₀ m₁ m₂ v high low g ty : UInt8) (rest : List UInt8) :
    peekHead (m₀ :: m₁ :: m₂ :: v :: high :: low :: g :: ty :: rest) =
      if [m₀, m₁, m₂] ≠ magicNumber then
        .error (.frameDecodeError (.invalidMagicNumber magicNumber [m₀, m₁, m₂]))
      else if v ≠ version then .error (.frameDecodeError (.invalidVersion version v))
      else (Flag.tryFrom g).map fun flag => some (ty, flag, wordOf high low) := by
  have long : ¬ (m₀ :: m₁ :: m₂ :: v :: high :: low :: g :: ty :: rest).length < headerSize := by
    simp [headerSize]
  simp only [peekHead, dif_neg long, List.getElem_cons_zero, List.getElem_cons_succ, wordOf]
  cases Flag.tryFrom g <;> rfl

theorem peekHead_ok {src : List UInt8} {ty : UInt8} {flag : Flag} {length : Nat}
    (ok : peekHead src = .ok (some (ty, flag, length))) :
    length ≤ maxPayloadSize ∧ ∃ rest, src = magicNumber ++ [version] ++
      [UInt8.ofNat (length / 2 ^ 8), UInt8.ofNat length] ++ [flag.toByte] ++ [ty] ++ rest := by
  by_cases short : src.length < headerSize
  · rw [peekHead_short short] at ok
    simp at ok
  · obtain ⟨m₀, m₁, m₂, v, high, low, g, t, rest, rfl⟩ := header_and_rest (Nat.not_lt.mp short)
    rw [peekHead_header] at ok
    split at ok
    · simp at ok
    rename_i magic
    split at ok
    · simp at ok
    rename_i supported
    cases verdict : Flag.tryFrom g with
    | error e => simp [verdict, Except.map] at ok
    | ok known =>
      simp only [verdict, Except.map, Except.ok.injEq, Option.some.injEq, Prod.mk.injEq] at ok
      obtain ⟨rfl, rfl, rfl⟩ := ok
      constructor
      · exact wordOf_fits high low
      · rw [wordOf_bytes, ← tryFrom_ok verdict, ← Decidable.not_not.mp magic,
          ← Decidable.not_not.mp supported]
        exact ⟨rest, rfl⟩

theorem peekHead_error {src : List UInt8} {e : Error} (error : peekHead src = .error e) :
    IsFormatError e := by
  by_cases short : src.length < headerSize
  · rw [peekHead_short short] at error
    simp at error
  · obtain ⟨m₀, m₁, m₂, v, high, low, g, ty, rest, rfl⟩ := header_and_rest (Nat.not_lt.mp short)
    rw [peekHead_header] at error
    split at error
    · cases error
      exact True.intro
    split at error
    · cases error
      exact True.intro
    · cases verdict : Flag.tryFrom g with
      | ok flag => simp [verdict, Except.map] at error
      | error cause =>
        simp only [verdict, Except.map, Except.error.injEq] at error
        rw [← error]
        exact tryFrom_error verdict

theorem decode_error_peek {src : List UInt8} {e : Error} (error : peekHead src = .error e) :
    Frame.decode src = .error e := by
  simp only [Frame.decode, error]

theorem decode_short {src : List UInt8} (short : src.length < headerSize) :
    Frame.decode src = .error (shorterThanHeader src.length) := by
  simp only [Frame.decode, peekHead_short short, shorterThanHeader]

theorem decode_incomplete {src : List UInt8} {ty : UInt8} {flag : Flag} {length : Nat}
    (head : peekHead src = .ok (some (ty, flag, length)))
    (few : src.length < headerSize + length) :
    Frame.decode src = .error (tooShort (headerSize + length) src.length) := by
  simp only [Frame.decode, head, if_pos few, tooShort]

theorem decode_complete {src : List UInt8} {ty : UInt8} {flag : Flag} {length : Nat}
    (head : peekHead src = .ok (some (ty, flag, length)))
    (enough : headerSize + length ≤ src.length) :
    Frame.decode src = .ok
      { flag := flag, ty := ty, payload := (src.take (headerSize + length)).drop headerSize } := by
  simp only [Frame.decode, head, if_neg (Nat.not_lt.mpr enough)]

theorem payload_length {src : List UInt8} {length : Nat}
    (enough : headerSize + length ≤ src.length) :
    ((src.take (headerSize + length)).drop headerSize).length = length := by
  rw [List.length_drop, List.length_take]
  omega

theorem decode_ok {src : List UInt8} {f : Frame} (ok : Frame.decode src = .ok f) :
    f.payload.length ≤ maxPayloadSize ∧ ∃ more, src = f.bytes ++ more := by
  cases head : peekHead src with
  | error e => simp [decode_error_peek head] at ok
  | ok found =>
    cases found with
    | none => simp [decode_short (peekHead_none_iff.mp head)] at ok
    | some parts =>
      obtain ⟨ty, flag, length⟩ := parts
      by_cases few : src.length < headerSize + length
      · simp [decode_incomplete head few] at ok
      · have enough := Nat.not_lt.mp few
        have size := payload_length enough
        rw [decode_complete head enough, Except.ok.injEq] at ok
        subst ok
        obtain ⟨fits, rest, shape⟩ := peekHead_ok head
        constructor
        · rw [size]
          exact fits
        · refine ⟨src.drop (headerSize + length), ?_⟩
          simp only [Frame.bytes, size]
          have payload : (src.take (headerSize + length)).drop headerSize ++
              src.drop (headerSize + length) = src.drop headerSize := by
            rw [← List.drop_append_of_le_length (by rw [List.length_take]; omega),
              List.take_append_drop]
          rw [List.append_assoc, payload]
          conv => lhs; rw [shape]
          conv => rhs; rw [shape]
          rfl

theorem decode_ok_iff {src : List UInt8} {f : Frame} (fits : f.payload.length ≤ maxPayloadSize) :
    Frame.decode src = .ok f ↔ ∃ more, src = f.bytes ++ more := by
  constructor
  · intro ok
    exact (decode_ok ok).2
  · intro starts
    obtain ⟨more, rfl⟩ := starts
    exact decode_bytes fits more

theorem peekHead_part {f : Frame} (fits : f.payload.length ≤ maxPayloadSize) {src : List UInt8}
    (part : src <+: f.bytes) (long : headerSize ≤ src.length) :
    peekHead src = .ok (some (f.ty, f.flag, f.payload.length)) := by
  obtain ⟨missing, whole⟩ := part
  have head := peekHead_bytes fits []
  rwa [List.append_nil, ← whole, peekHead_append long] at head

theorem decode_part {f : Frame} (fits : f.payload.length ≤ maxPayloadSize) {src : List UInt8}
    (part : src <+: f.bytes) (strict : src ≠ f.bytes) :
    Frame.decode src = .error (truncated f src.length) := by
  have fewer : src.length < f.bytes.length := by
    have atMost := part.length_le
    have different : src.length ≠ f.bytes.length := fun same => strict (part.eq_of_length same)
    omega
  rw [bytes_length] at fewer
  by_cases short : src.length < headerSize
  · rw [decode_short short, truncated, if_pos short]
  · rw [decode_incomplete (peekHead_part fits part (Nat.not_lt.mp short)) fewer, truncated,
      if_neg short]

theorem inverted {f : Frame} (fits : f.payload.length ≤ maxPayloadSize) : Inverted f := by
  constructor
  · exact encode_eq fits
  · intro src
    exact decode_ok_iff fits
  · intro src
    exact decode_part fits

theorem format_iff {src : List UInt8} {e : Error} :
    peekHead src = .error e ↔ Frame.decode src = .error e ∧ IsFormatError e := by
  constructor
  · intro error
    exact ⟨decode_error_peek error, peekHead_error error⟩
  · intro verdict
    obtain ⟨error, format⟩ := verdict
    cases head : peekHead src with
    | error cause =>
      rw [decode_error_peek head, Except.error.injEq] at error
      rw [error]
    | ok found =>
      cases found with
      | none =>
        rw [decode_short (peekHead_none_iff.mp head), Except.error.injEq] at error
        rw [← error] at format
        exact format.elim
      | some parts =>
        obtain ⟨ty, flag, length⟩ := parts
        by_cases few : src.length < headerSize + length
        · rw [decode_incomplete head few, Except.error.injEq] at error
          rw [← error] at format
          exact format.elim
        · rw [decode_complete head (Nat.not_lt.mp few)] at error
          simp at error

theorem peek_agrees (src : List UInt8) : PeekAgrees src := by
  constructor
  · exact peekHead_none_iff
  · intro e
    exact format_iff
  · intro ty flag length head
    by_cases few : src.length < headerSize + length
    · exact Or.inl ⟨few, decode_incomplete head few⟩
    · have enough := Nat.not_lt.mp few
      exact Or.inr ⟨enough, _, payload_length enough, decode_complete head enough⟩

theorem decoding_inverts_encoding :
    (∀ f, f.payload.length ≤ maxPayloadSize → Inverted f) ∧
    (∀ src f, Frame.decode src = .ok f → f.payload.length ≤ maxPayloadSize) ∧
    ∀ src, PeekAgrees src := by
  constructor
  · intro f fits
    exact inverted fits
  constructor
  · intro src f ok
    exact (decode_ok ok).1
  · exact peek_agrees

end NcdFrameInverse
