import Ncd.Packet

/- Frames: an eight byte header (magic, version, payload length, flag, type), then the
   payload. Encoding appends to a buffer; decoding looks at the front of one. -/
namespace NcdFrame
open NcdPacket

def magicNumber : List UInt8 := [0x4E, 0x43, 0x44]
def version : UInt8 := 1
def maxPayloadSize : Nat := 65535
def headerSize : Nat := 8

inductive Flag where
  | end_
  | more
  deriving DecidableEq, Repr

def Flag.toByte : Flag → UInt8
  | .end_ => 0x00
  | .more => 0x01

def Flag.tryFrom (v : UInt8) : Except Error Flag :=
  if v = Flag.end_.toByte then .ok .end_
  else if v = Flag.more.toByte then .ok .more
  else .error (.frameDecodeError (.invalidFlag v))

theorem tryFrom_toByte (flag : Flag) : Flag.tryFrom flag.toByte = .ok flag := by
  cases flag <;> rfl

structure Frame where
  flag : Flag
  ty : UInt8
  payload : List UInt8
  deriving DecidableEq, Repr

/-- `none` is a failed assertion: the payload does not fit a frame, or the header
    written is not eight bytes long. -/
def Frame.encode (f : Frame) (buf : List UInt8) : Option (List UInt8) :=
  let headerStart := buf.length
  let buf := buf ++ magicNumber ++ [version]
  if maxPayloadSize < f.payload.length then none
  else
    let length := f.payload.length % 2 ^ 16
    let buf := buf ++ [UInt8.ofNat (length / 2 ^ 8), UInt8.ofNat length]
    let buf := buf ++ [f.flag.toByte] ++ [f.ty]
    if buf.length ≠ headerStart + headerSize then none
    else some (buf ++ f.payload)

/-- Returns (type, flag, payload length), or none when the header is not complete.
    The length test puts every index in range. -/
def peekHead (src : List UInt8) : Except Error (Option (UInt8 × Flag × Nat)) :=
  if short : src.length < headerSize then .ok none
  else
    have long : 8 ≤ src.length := Nat.le_of_not_lt short
    let magic := [src[0], src[1], src[2]]
    if magic ≠ magicNumber then
      .error (.frameDecodeError (.invalidMagicNumber magicNumber magic))
    else if src[3] ≠ version then
      .error (.frameDecodeError (.invalidVersion version src[3]))
    else
      let length := src[4].toNat * 2 ^ 8 + src[5].toNat
      let ty := src[7]
      match Flag.tryFrom src[6] with
      | .error e => .error e
      | .ok flag => .ok (some (ty, flag, length))

def Frame.decode (src : List UInt8) : Except Error Frame :=
  match peekHead src with
  | .error e => .error e
  | .ok none => .error (.frameDecodeError (.dataShorterThanHeader headerSize src.length))
  | .ok (some (ty, flag, length)) =>
    let expectedTotalLength := headerSize + length
    if src.length < expectedTotalLength then
      .error (.frameDecodeError (.dataTooShort expectedTotalLength src.length))
    else
      .ok { flag := flag, ty := ty, payload := (src.take expectedTotalLength).drop headerSize }

def Frame.bytes (f : Frame) : List UInt8 :=
  magicNumber ++ [version] ++
    [UInt8.ofNat (f.payload.length / 2 ^ 8), UInt8.ofNat f.payload.length] ++
    [f.flag.toByte] ++ [f.ty] ++ f.payload

theorem bytes_length (f : Frame) : f.bytes.length = headerSize + f.payload.length := by
  simp [Frame.bytes, magicNumber, headerSize]
  omega

theorem encode_eq {f : Frame} (fits : f.payload.length ≤ maxPayloadSize)
    (buf : List UInt8) : f.encode buf = some (buf ++ f.bytes) := by
  have small : f.payload.length % 2 ^ 16 = f.payload.length := by
    simp only [maxPayloadSize] at fits
    omega
  have plain : ¬ maxPayloadSize < f.payload.length := Nat.not_lt.mpr fits
  simp only [Frame.encode, if_neg plain, small, Frame.bytes]
  simp [magicNumber, headerSize]

theorem peekHead_short {src : List UInt8} (short : src.length < headerSize) :
    peekHead src = .ok none := by
  simp [peekHead, short]

theorem peekHead_none_iff {src : List UInt8} :
    peekHead src = .ok none ↔ src.length < headerSize := by
  constructor
  · intro none
    by_contra long
    simp only [peekHead, dif_neg long] at none
    repeat' split at none
    all_goals simp at none
  · exact peekHead_short

theorem peekHead_append {src : List UInt8} (long : headerSize ≤ src.length)
    (more : List UInt8) : peekHead (src ++ more) = peekHead src := by
  have long' : ¬ src.length < headerSize := Nat.not_lt.mpr long
  have longer : ¬ (src ++ more).length < headerSize := by
    rw [List.length_append]; omega
  have eight : 8 ≤ src.length := long
  have total : 8 ≤ (src ++ more).length := Nat.le_of_not_lt longer
  have same (i : Nat) (small : i < 8) : (src ++ more)[i] = src[i] :=
    List.getElem_append_left (by omega)
  simp only [peekHead, dif_neg long', dif_neg longer, same 0 (by omega), same 1 (by omega),
    same 2 (by omega), same 3 (by omega), same 4 (by omega), same 5 (by omega),
    same 6 (by omega), same 7 (by omega)]

theorem peekHead_bytes {f : Frame} (fits : f.payload.length ≤ maxPayloadSize)
    (more : List UInt8) :
    peekHead (f.bytes ++ more) = .ok (some (f.ty, f.flag, f.payload.length)) := by
  have long : headerSize ≤ f.bytes.length := by rw [bytes_length]; omega
  have small : f.payload.length < 2 ^ 16 := by
    simp only [maxPayloadSize] at fits
    omega
  have word : (UInt8.ofNat (f.payload.length / 2 ^ 8)).toNat * 2 ^ 8 +
      (UInt8.ofNat f.payload.length).toNat = f.payload.length := by
    simp only [UInt8.toNat_ofNat']
    omega
  rw [peekHead_append long]
  have long' : ¬ f.bytes.length < headerSize := Nat.not_lt.mpr long
  simp only [peekHead, dif_neg long']
  simp only [Frame.bytes, magicNumber, version, List.cons_append, List.nil_append,
    List.getElem_cons_zero, List.getElem_cons_succ, ne_eq, not_true_eq_false, if_false,
    tryFrom_toByte, word]

theorem decode_bytes {f : Frame} (fits : f.payload.length ≤ maxPayloadSize)
    (more : List UInt8) : Frame.decode (f.bytes ++ more) = .ok f := by
  have total : f.bytes.length = headerSize + f.payload.length := bytes_length f
  have enough : ¬ (f.bytes ++ more).length < headerSize + f.payload.length := by
    rw [List.length_append]; omega
  simp only [Frame.decode, peekHead_bytes fits, if_neg enough]
  rw [← total, List.take_left']
  · congr 1
  · rfl

end NcdFrame
