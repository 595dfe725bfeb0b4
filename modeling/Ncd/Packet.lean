import Mathlib.Algebra.Group.Nat.Defs
import Mathlib.Data.List.Basic

/- Packets of the protocol and their tag and payload form. Bytes are UInt8, the
   numbers of the wire are UInt32, sent with the most significant byte first. -/
namespace NcdPacket

inductive PacketDecodeError where
  | dataLengthMismatch (expected got : Nat) (details : String)
  | unknownTag (tag : UInt8)
  deriving DecidableEq, Repr

inductive FrameDecodeError where
  | invalidFlag (value : UInt8)
  | invalidMagicNumber (expected actual : List UInt8)
  | invalidVersion (expected actual : UInt8)
  | dataShorterThanHeader (expected got : Nat)
  | dataTooShort (expected got : Nat)
  deriving DecidableEq, Repr

inductive AssemblePacketError where
  | mismatchedTypes (firstFrameType frameType : UInt8)
  deriving DecidableEq, Repr

inductive Error where
  | packetDecodeError (e : PacketDecodeError)
  | frameDecodeError (e : FrameDecodeError)
  | assemblePacketError (e : AssemblePacketError)
  deriving DecidableEq, Repr

inductive Packet where
  | controlHello (keepAliveIntervalMs : UInt32)
  | controlHelloAck (keepAliveIntervalMs : UInt32)
  | controlClose
  | controlKeepAlive
  | controlPing (id : UInt32)
  | controlPong (id : UInt32)
  | data (bytes : List UInt8)
  deriving DecidableEq, Repr

def controlHelloTag : UInt8 := 0x01
def controlHelloAckTag : UInt8 := 0x02
def controlCloseTag : UInt8 := 0x03
def controlKeepAliveTag : UInt8 := 0x04
def controlPingTag : UInt8 := 0x05
def controlPongTag : UInt8 := 0x06
def dataTag : UInt8 := 0x07

def Packet.tag : Packet → UInt8
  | .controlHello _ => controlHelloTag
  | .controlHelloAck _ => controlHelloAckTag
  | .controlClose => controlCloseTag
  | .controlKeepAlive => controlKeepAliveTag
  | .controlPing _ => controlPingTag
  | .controlPong _ => controlPongTag
  | .data _ => dataTag

def fixedLength (tag : UInt8) : Option Nat :=
  if tag = controlCloseTag ∨ tag = controlKeepAliveTag then some 0
  else if tag = controlHelloTag ∨ tag = controlHelloAckTag ∨ tag = controlPingTag ∨
      tag = controlPongTag then some 4
  else none

/-- The expect in the source is the membership proof here. -/
def Packet.length : Packet → Nat
  | .data bytes => bytes.length
  | .controlHello k => (fixedLength (Packet.controlHello k).tag).get rfl
  | .controlHelloAck k => (fixedLength (Packet.controlHelloAck k).tag).get rfl
  | .controlClose => (fixedLength Packet.controlClose.tag).get rfl
  | .controlKeepAlive => (fixedLength Packet.controlKeepAlive.tag).get rfl
  | .controlPing id => (fixedLength (Packet.controlPing id).tag).get rfl
  | .controlPong id => (fixedLength (Packet.controlPong id).tag).get rfl

def toBeBytes (x : UInt32) : List UInt8 :=
  [UInt8.ofNat (x.toNat / 2 ^ 24), UInt8.ofNat (x.toNat / 2 ^ 16),
    UInt8.ofNat (x.toNat / 2 ^ 8), UInt8.ofNat x.toNat]

def fromBeBytes (a b c d : UInt8) : UInt32 :=
  UInt32.ofNat (a.toNat * 2 ^ 24 + b.toNat * 2 ^ 16 + c.toNat * 2 ^ 8 + d.toNat)

theorem fromBeBytes_toBeBytes (x : UInt32) :
    fromBeBytes (UInt8.ofNat (x.toNat / 2 ^ 24)) (UInt8.ofNat (x.toNat / 2 ^ 16))
      (UInt8.ofNat (x.toNat / 2 ^ 8)) (UInt8.ofNat x.toNat) = x := by
  have bound := x.toNat_lt
  apply UInt32.toNat_inj.mp
  simp only [fromBeBytes, UInt8.toNat_ofNat', UInt32.toNat_ofNat']
  omega

theorem toBeBytes_fromBeBytes (a b c d : UInt8) :
    toBeBytes (fromBeBytes a b c d) = [a, b, c, d] := by
  have ha := a.toNat_lt
  have hb := b.toNat_lt
  have hc := c.toNat_lt
  have hd := d.toNat_lt
  simp only [toBeBytes, fromBeBytes, UInt32.toNat_ofNat', List.cons.injEq, and_true]
  refine ⟨?_, ?_, ?_, ?_⟩ <;> apply UInt8.toNat_inj.mp <;>
    simp only [UInt8.toNat_ofNat'] <;> omega

def Packet.encode (p : Packet) : UInt8 × List UInt8 :=
  (p.tag, match p with
    | .controlHello k => toBeBytes k
    | .controlHelloAck k => toBeBytes k
    | .controlClose => []
    | .controlKeepAlive => []
    | .controlPing id => toBeBytes id
    | .controlPong id => toBeBytes id
    | .data bytes => bytes)

def hex (tag : UInt8) : String :=
  String.ofList ['0', 'x', Nat.digitChar (tag.toNat / 16), Nat.digitChar (tag.toNat % 16)]

def lengthMismatch (tag : UInt8) (expected got : Nat) : Error :=
  .packetDecodeError (.dataLengthMismatch expected got
    ("Source data length mismatch for tag " ++ hex tag))

/-- The match on the tag, after the length check; the check bounds every index. -/
def typedPayload (tag : UInt8) (src : List UInt8)
    (fits : ∀ n, fixedLength tag = some n → src.length = n) : Except Error Packet :=
  if hello : tag = controlHelloTag then
    have four : src.length = 4 := fits 4 (by rw [hello]; rfl)
    .ok (.controlHello (fromBeBytes src[0] src[1] src[2] src[3]))
  else if ack : tag = controlHelloAckTag then
    have four : src.length = 4 := fits 4 (by rw [ack]; rfl)
    .ok (.controlHelloAck (fromBeBytes src[0] src[1] src[2] src[3]))
  else if tag = controlCloseTag then .ok .controlClose
  else if tag = controlKeepAliveTag then .ok .controlKeepAlive
  else if ping : tag = controlPingTag then
    have four : src.length = 4 := fits 4 (by rw [ping]; rfl)
    .ok (.controlPing (fromBeBytes src[0] src[1] src[2] src[3]))
  else if pong : tag = controlPongTag then
    have four : src.length = 4 := fits 4 (by rw [pong]; rfl)
    .ok (.controlPong (fromBeBytes src[0] src[1] src[2] src[3]))
  else if tag = dataTag then .ok (.data src)
  else .error (.packetDecodeError (.unknownTag tag))

def Packet.decode (tag : UInt8) (src : List UInt8) : Except Error Packet :=
  match known : fixedLength tag with
  | some expected =>
    if mismatch : src.length ≠ expected then .error (lengthMismatch tag expected src.length)
    else typedPayload tag src (by intro n same; rw [known] at same; simp_all)
  | none => typedPayload tag src (by intro n same; rw [known] at same; simp at same)

theorem decode_of_fits {tag : UInt8} {src : List UInt8}
    (fits : ∀ n, fixedLength tag = some n → src.length = n) :
    Packet.decode tag src = typedPayload tag src fits := by
  unfold Packet.decode
  split
  · rename_i expected known
    have same := fits expected known
    rw [dif_neg (by omega)]
  · rfl

theorem encode_fits (p : Packet) :
    ∀ n, fixedLength p.encode.1 = some n → p.encode.2.length = n := by
  intro n known
  cases p with
  | data bytes =>
    have unknown : fixedLength dataTag = none := by decide
    simp [Packet.encode, Packet.tag, unknown] at known
  | _ => exact Option.some.inj known

theorem length_encode (p : Packet) : p.encode.2.length = p.length := by
  cases p <;> rfl

theorem decode_encode (p : Packet) : Packet.decode p.encode.1 p.encode.2 = .ok p := by
  rw [decode_of_fits (encode_fits p)]
  cases p with
  | controlClose => rfl
  | controlKeepAlive => rfl
  | data bytes => rfl
  | controlHello k => exact congrArg (Except.ok ∘ Packet.controlHello) (fromBeBytes_toBeBytes k)
  | controlHelloAck k =>
    exact congrArg (Except.ok ∘ Packet.controlHelloAck) (fromBeBytes_toBeBytes k)
  | controlPing id => exact congrArg (Except.ok ∘ Packet.controlPing) (fromBeBytes_toBeBytes id)
  | controlPong id => exact congrArg (Except.ok ∘ Packet.controlPong) (fromBeBytes_toBeBytes id)

theorem four_bytes {src : List UInt8} (four : src.length = 4) :
    toBeBytes (fromBeBytes src[0] src[1] src[2] src[3]) = src := by
  rw [toBeBytes_fromBeBytes]
  obtain ⟨a, b, c, d, rfl⟩ : ∃ a b c d, src = [a, b, c, d] := List.length_eq_four.mp four
  rfl

theorem typedPayload_encode {tag : UInt8} {src : List UInt8}
    {fits : ∀ n, fixedLength tag = some n → src.length = n} {p : Packet}
    (ok : typedPayload tag src fits = .ok p) : p.encode = (tag, src) := by
  unfold typedPayload at ok
  split at ok
  · rename_i hello
    have four : src.length = 4 := fits 4 (by rw [hello]; rfl)
    cases ok
    simp [Packet.encode, Packet.tag, hello, four_bytes four]
  split at ok
  · rename_i ack
    have four : src.length = 4 := fits 4 (by rw [ack]; rfl)
    cases ok
    simp [Packet.encode, Packet.tag, ack, four_bytes four]
  split at ok
  · rename_i close
    have empty : src = [] := List.length_eq_zero_iff.mp (fits 0 (by rw [close]; rfl))
    cases ok
    simp [Packet.encode, Packet.tag, close, empty]
  split at ok
  · rename_i alive
    have empty : src = [] := List.length_eq_zero_iff.mp (fits 0 (by rw [alive]; rfl))
    cases ok
    simp [Packet.encode, Packet.tag, alive, empty]
  split at ok
  · rename_i ping
    have four : src.length = 4 := fits 4 (by rw [ping]; rfl)
    cases ok
    simp [Packet.encode, Packet.tag, ping, four_bytes four]
  split at ok
  · rename_i pong
    have four : src.length = 4 := fits 4 (by rw [pong]; rfl)
    cases ok
    simp [Packet.encode, Packet.tag, pong, four_bytes four]
  split at ok
  · rename_i data
    cases ok
    simp [Packet.encode, Packet.tag, data]
  · simp at ok

theorem decode_ok_iff {tag : UInt8} {src : List UInt8} {p : Packet} :
    Packet.decode tag src = .ok p ↔ p.encode = (tag, src) := by
  constructor
  · intro ok
    unfold Packet.decode at ok
    split at ok
    · split at ok
      · simp at ok
      · exact typedPayload_encode ok
    · exact typedPayload_encode ok
  · intro encoded
    have whole := decode_encode p
    rwa [encoded] at whole

end NcdPacket
