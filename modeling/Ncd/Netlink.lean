import Mathlib.Algebra.Group.Nat.Defs
import Mathlib.Algebra.Group.Int.Defs
import Ncd.Registry

/- recv_from_daemon on the bytes of a netlink message. Netlink passes on whatever a process
   has sent to the socket of the driver, so the header fields and the payload are the
   sender's choice; the numbers of the header are little-endian. -/
namespace NcdNetlink
open NcdDriver NcdSessions NcdRegistry

def nlmsgHdrlen : Nat := 16

def ncdMsgRegister : Nat := 0
def ncdMsgConnRes : Nat := 2
def ncdMsgData : Nat := 3
def ncdMsgCreateDev : Nat := 5
def ncdMsgDestroyDev : Nat := 6

/-- The bytes of a message, what lies in memory after them, and the port id of the socket
    that has sent it. -/
structure Skb where
  data : List UInt8
  beyond : Nat → UInt8 := fun _ => 0
  portid : Nat

def Skb.byte (skb : Skb) (i : Nat) : UInt8 :=
  skb.data[i]?.getD (skb.beyond (i - skb.data.length))

def Skb.bytes (skb : Skb) (start count : Nat) : List UInt8 :=
  (List.range count).map fun i => skb.byte (start + i)

def littleEndian : List UInt8 → Nat
  | [] => 0
  | b :: bs => b.toNat + 2 ^ 8 * littleEndian bs

def toLittleEndian : Nat → Nat → List UInt8
  | 0, _ => []
  | count + 1, n => UInt8.ofNat n :: toLittleEndian count (n / 2 ^ 8)

/-- The header that try_send of the daemon writes, with no flags and no sequence number. -/
def nlMsgHdr (len type pid : Nat) : List UInt8 :=
  toLittleEndian 4 len ++ toLittleEndian 2 type ++ toLittleEndian 2 0 ++ toLittleEndian 4 0 ++
    toLittleEndian 4 pid

/- The fields of struct nlmsghdr that the driver uses. -/
def Skb.nlmsgLen (skb : Skb) : Nat := littleEndian (skb.bytes 0 4)
def Skb.nlmsgType (skb : Skb) : Nat := littleEndian (skb.bytes 4 2)
def Skb.nlmsgPid (skb : Skb) : Nat := littleEndian (skb.bytes 12 4)

def Skb.minor (skb : Skb) : Nat := (skb.byte nlmsgHdrlen).toNat

def wrapInt (x : Int) : Int := Int.bmod x (2 ^ 32)

def wrapUnsigned (x : Int) : Nat := (x % 2 ^ 32).toNat

/-- The argument of memcpy for an int. -/
def wrapSize (x : Int) : Nat := (x % 2 ^ 64).toNat

def Skb.len (skb : Skb) : Int := wrapInt (skb.nlmsgLen - nlmsgHdrlen)

def Skb.payloadLen (skb : Skb) : Nat := wrapUnsigned (skb.len - 1)

def Skb.nameLen (skb : Skb) : Int :=
  let nameLen := wrapInt (skb.len - 1)
  if (ncdMaxNameLen : Int) ≤ nameLen then ncdMaxNameLen - 1 else nameLen

/-- A variable of the driver that counts bytes of the message from start on: what it holds,
    and what the same arithmetic gives without a word size. -/
structure Length where
  start : Nat
  value : Int
  exact : Int
  deriving DecidableEq, Repr

def Skb.lenLength (skb : Skb) : Length :=
  { start := nlmsgHdrlen, value := skb.len, exact := skb.nlmsgLen - nlmsgHdrlen }

def Skb.payloadLength (skb : Skb) : Length :=
  { start := nlmsgHdrlen + 1, value := skb.payloadLen, exact := skb.nlmsgLen - nlmsgHdrlen - 1 }

def Skb.nameLength (skb : Skb) : Length :=
  { start := nlmsgHdrlen + 1
    value := skb.nameLen
    exact := min (skb.nlmsgLen - nlmsgHdrlen - 1) (ncdMaxNameLen - 1) }

/-- What a call of recv_from_daemon does: the driver after it, the ranges (start, count) of
    the message that it reads, and the lengths that it computes. -/
structure Handled where
  driver : Driver
  reads : List (Nat × Nat) := []
  lengths : List Length := []

def Handled.reading (range : Nat × Nat) (rest : Handled) : Handled :=
  { rest with reads := range :: rest.reads }

def Handled.computing (length : Length) (rest : Handled) : Handled :=
  { rest with lengths := length :: rest.lengths }

def typeField : Nat × Nat := (4, 2)
def lenField : Nat × Nat := (0, 4)
def pidField : Nat × Nat := (12, 4)
def minorField : Nat × Nat := (nlmsgHdrlen, 1)

/-- What the kernel answers during the call. -/
structure Env where
  memory : Bool := true
  outcome : SendOutcome := .sent
  create : CreateOutcome := .created
  deriving DecidableEq, Repr

def recvConnRes (d : Driver) (skb : Skb) : Handled :=
  Handled.reading pidField <|
  if skb.nlmsgPid ≠ d.daemonPid then { driver := d }
  else Handled.reading lenField <|
  if skb.nlmsgLen ≤ nlmsgHdrlen + 1 then { driver := d }
  else Handled.computing skb.lenLength <| Handled.reading minorField <|
  match d.known skb.minor with
  | none => { driver := d }
  | some _ =>
    Handled.reading (nlmsgHdrlen + 1, 1)
      { driver := d.connRes skb.nlmsgPid skb.minor (skb.byte (nlmsgHdrlen + 1) = 0x31) }

/-- The payload is read by kfifo_in or by the memcpy of ncd_queue_pending_locked; a chunk that
    is dropped is not looked at. -/
def recvDataMsg (d : Driver) (skb : Skb) (env : Env) : Handled :=
  Handled.reading pidField <|
  if skb.nlmsgPid ≠ d.daemonPid then { driver := d }
  else Handled.reading lenField <|
  if skb.nlmsgLen ≤ nlmsgHdrlen then { driver := d }
  else Handled.computing skb.lenLength <| Handled.reading minorField <|
  match d.known skb.minor with
  | none => { driver := d }
  | some dev =>
    Handled.computing skb.payloadLength <|
    if skb.payloadLen = 0 then { driver := d }
    else
      let payload := skb.bytes (nlmsgHdrlen + 1) skb.payloadLen
      let after : Handled :=
        { driver := d.data skb.nlmsgPid skb.minor payload env.memory env.outcome }
      if (recvData dev.buffers payload env.memory).2.dropped then after
      else Handled.reading (nlmsgHdrlen + 1, skb.payloadLen) after

/-- CREATE_DEV up to the memcpy of the name: kzalloc fails, or the struct is there. -/
def Driver.allocated (d : Driver) (minor : Nat) (create : CreateOutcome) : Option Device :=
  match d.devices minor with
  | some dev => some dev
  | none => if create = .kzalloc then none else some {}

/-- A negative name_len makes memcpy run past all memory; in_use is set by then. -/
def recvCreateDev (d : Driver) (skb : Skb) (env : Env) : Handled :=
  Handled.reading pidField <|
  if skb.nlmsgPid ≠ d.daemonPid then { driver := d }
  else Handled.reading lenField <|
  if skb.nlmsgLen ≤ nlmsgHdrlen + 1 then { driver := d }
  else Handled.computing skb.lenLength <| Handled.reading minorField <|
  if ncdMaxDevices ≤ skb.minor ∨ (d.known skb.minor).isSome then { driver := d }
  else Handled.computing skb.nameLength <|
  match Driver.allocated d skb.minor env.create with
  | none => { driver := d }
  | some dev =>
    Handled.reading (nlmsgHdrlen + 1, wrapSize skb.nameLen) <|
    if skb.nameLen < 0 then { driver := d.setDevice skb.minor { dev with inUse := true } }
    else
      { driver := d.createDev skb.nlmsgPid skb.minor
          (skb.bytes (nlmsgHdrlen + 1) skb.nameLen.toNat) env.create }

def recvDestroyDev (d : Driver) (skb : Skb) : Handled :=
  Handled.reading pidField <|
  if skb.nlmsgPid ≠ d.daemonPid then { driver := d }
  else Handled.reading lenField <|
  if skb.nlmsgLen ≤ nlmsgHdrlen then { driver := d }
  else Handled.reading minorField { driver := d.destroyDev skb.nlmsgPid skb.minor }

def recvFromDaemon (d : Driver) (skb : Skb) (env : Env) : Handled :=
  Handled.reading typeField <|
  if skb.nlmsgType = ncdMsgRegister then
    Handled.reading pidField { driver := d.register skb.nlmsgPid }
  else if skb.nlmsgType = ncdMsgConnRes then recvConnRes d skb
  else if skb.nlmsgType = ncdMsgData then recvDataMsg d skb env
  else if skb.nlmsgType = ncdMsgCreateDev then recvCreateDev d skb env
  else if skb.nlmsgType = ncdMsgDestroyDev then recvDestroyDev d skb
  else { driver := d }

@[simp] theorem reading_driver (range : Nat × Nat) (rest : Handled) :
    (rest.reading range).driver = rest.driver := rfl

@[simp] theorem computing_driver (length : Length) (rest : Handled) :
    (rest.computing length).driver = rest.driver := rfl

theorem littleEndian_bound (bs : List UInt8) : littleEndian bs < 2 ^ (8 * bs.length) := by
  induction bs with
  | nil => simp [littleEndian]
  | cons b bs ih =>
    have byte := b.toNat_lt
    have power : 2 ^ (8 * (b :: bs).length) = 2 ^ 8 * 2 ^ (8 * bs.length) := by
      rw [List.length_cons, Nat.mul_add, Nat.pow_add, Nat.mul_comm]
    rw [littleEndian, power]
    omega

theorem nlmsgLen_bound (skb : Skb) : skb.nlmsgLen < 2 ^ 32 := by
  have bound := littleEndian_bound (skb.bytes 0 4)
  rwa [Skb.bytes, List.length_map, List.length_range] at bound

theorem payloadLen_eq {skb : Skb} (long : nlmsgHdrlen < skb.nlmsgLen) :
    skb.payloadLen = skb.nlmsgLen - (nlmsgHdrlen + 1) := by
  have bound := nlmsgLen_bound skb
  simp only [nlmsgHdrlen] at long
  simp only [Skb.payloadLen, wrapUnsigned, Skb.len, wrapInt, nlmsgHdrlen, Int.bmod_def]
  omega

theorem connRes_driver (d : Driver) (skb : Skb) : (recvConnRes d skb).driver =
    if skb.nlmsgLen ≤ nlmsgHdrlen + 1 then d
    else d.connRes skb.nlmsgPid skb.minor (skb.byte (nlmsgHdrlen + 1) = 0x31) := by
  unfold recvConnRes
  by_cases ours : skb.nlmsgPid = d.daemonPid
  · rw [if_neg (not_not.mpr ours)]
    by_cases short : skb.nlmsgLen ≤ nlmsgHdrlen + 1
    · simp only [if_pos short, reading_driver]
    · simp only [if_neg short, reading_driver, computing_driver]
      cases known : d.known skb.minor with
      | none => simp [Driver.connRes, known]
      | some dev => rfl
  · rw [if_pos ours]
    simp [Driver.connRes, ours]

theorem destroyDev_driver (d : Driver) (skb : Skb) : (recvDestroyDev d skb).driver =
    if skb.nlmsgLen ≤ nlmsgHdrlen then d else d.destroyDev skb.nlmsgPid skb.minor := by
  unfold recvDestroyDev
  by_cases ours : skb.nlmsgPid = d.daemonPid
  · rw [if_neg (not_not.mpr ours)]
    split
    · rfl
    · rfl
  · rw [if_pos ours]
    simp [Driver.destroyDev, ours]

theorem data_nil (d : Driver) (pid minor : Nat) (memory : Bool) (outcome : SendOutcome) :
    d.data pid minor [] memory outcome = d := by
  unfold Driver.data
  split
  · cases known : d.known minor with
    | none => rfl
    | some dev =>
      have same : Function.update d.devices minor (some dev) = d.devices :=
        Function.update_eq_self_iff.mpr (known_some known).2.1.symm
      simp [recvData, Driver.setDevice, same]
  · rfl

theorem data_driver (d : Driver) (skb : Skb) (env : Env) : (recvDataMsg d skb env).driver =
    if skb.nlmsgLen ≤ nlmsgHdrlen then d
    else d.data skb.nlmsgPid skb.minor (skb.bytes (nlmsgHdrlen + 1) skb.payloadLen)
      env.memory env.outcome := by
  unfold recvDataMsg
  by_cases ours : skb.nlmsgPid = d.daemonPid
  · rw [if_neg (not_not.mpr ours)]
    by_cases short : skb.nlmsgLen ≤ nlmsgHdrlen
    · simp only [if_pos short, reading_driver]
    · simp only [if_neg short, reading_driver, computing_driver]
      cases known : d.known skb.minor with
      | none => simp [Driver.data, known]
      | some dev =>
        simp only [computing_driver]
        split
        · rename_i empty
          have nothing : skb.bytes (nlmsgHdrlen + 1) skb.payloadLen = [] := by
            rw [empty]
            rfl
          rw [nothing, data_nil]
        · split <;> rfl
  · rw [if_pos ours]
    simp [Driver.data, ours]

end NcdNetlink
