import Ncd.Netlink

/- When recv_from_daemon stays inside the message that it was given: the driver believes
   nlmsg_len, which nothing has compared with the number of bytes received. -/
namespace NcdMessageBounds
open NcdDriver NcdRegistry NcdNetlink

def Inside (skb : Skb) (range : Nat × Nat) : Prop := range.1 + range.2 ≤ skb.data.length

/-- The variable holds what was meant, and the bytes it counts are there. -/
structure Sound (skb : Skb) (length : Length) : Prop where
  whole : length.value = length.exact
  present : length.start + length.value ≤ skb.data.length

def Safe (skb : Skb) (handled : Handled) : Prop :=
  (∀ range ∈ handled.reads, Inside skb range) ∧ ∀ length ∈ handled.lengths, Sound skb length

/-- nlmsg_len counts no more bytes than were sent, and fits an int without the header. -/
def Honest (skb : Skb) : Prop :=
  skb.nlmsgLen ≤ skb.data.length ∧ skb.nlmsgLen < 2 ^ 31 + nlmsgHdrlen

def isHandled (type : Nat) : Prop :=
  type = ncdMsgRegister ∨ type = ncdMsgConnRes ∨ type = ncdMsgData ∨ type = ncdMsgCreateDev ∨
    type = ncdMsgDestroyDev

/-- What the bytes have to be so that the driver stays inside them. -/
structure Fits (d : Driver) (skb : Skb) : Prop where
  typed : 6 ≤ skb.data.length
  header : isHandled skb.nlmsgType → nlmsgHdrlen ≤ skb.data.length
  connRes : skb.nlmsgPid = d.daemonPid → skb.nlmsgType = ncdMsgConnRes →
    skb.nlmsgLen ≤ nlmsgHdrlen + 1 ∨ Honest skb
  data : skb.nlmsgPid = d.daemonPid → skb.nlmsgType = ncdMsgData →
    skb.nlmsgLen ≤ nlmsgHdrlen ∨ Honest skb
  createDev : skb.nlmsgPid = d.daemonPid → skb.nlmsgType = ncdMsgCreateDev →
    skb.nlmsgLen ≤ nlmsgHdrlen + 1 ∨ Honest skb
  destroyDev : skb.nlmsgPid = d.daemonPid → skb.nlmsgType = ncdMsgDestroyDev →
    skb.nlmsgLen ≤ nlmsgHdrlen ∨ nlmsgHdrlen + 1 ≤ skb.data.length

@[simp] theorem safe_plain (skb : Skb) (d : Driver) : Safe skb { driver := d } ↔ True := by
  simp [Safe]

@[simp] theorem safe_reading (skb : Skb) (range : Nat × Nat) (rest : Handled) :
    Safe skb (rest.reading range) ↔ Inside skb range ∧ Safe skb rest := by
  simp [Safe, Handled.reading, and_assoc]

@[simp] theorem safe_computing (skb : Skb) (length : Length) (rest : Handled) :
    Safe skb (rest.computing length) ↔ Sound skb length ∧ Safe skb rest := by
  simp [Safe, Handled.computing]
  tauto

theorem wrapInt_small {x : Int} (low : 0 ≤ x) (high : x < 2 ^ 31) : wrapInt x = x := by
  unfold wrapInt
  rw [Int.bmod_eq_of_le (by omega) (by omega)]

theorem wrapInt_large {x : Int} (low : 2 ^ 31 ≤ x) (high : x < 2 ^ 32) : wrapInt x < 0 := by
  unfold wrapInt
  rw [Int.bmod_def]
  omega

theorem len_sound {skb : Skb} (long : nlmsgHdrlen < skb.nlmsgLen) :
    Sound skb skb.lenLength ↔ Honest skb := by
  have bound := nlmsgLen_bound skb
  simp only [nlmsgHdrlen] at long
  constructor
  · intro sound
    have whole := sound.whole
    have present := sound.present
    simp only [Skb.lenLength, Skb.len, nlmsgHdrlen, Int.cast_ofNat_Int] at whole present
    by_cases small : skb.nlmsgLen < 2 ^ 31 + 16
    · constructor
      · omega
      · exact small
    · have negative := wrapInt_large (x := (skb.nlmsgLen : Int) - 16) (by omega) (by omega)
      omega
  · intro honest
    obtain ⟨present, small⟩ := honest
    simp only [nlmsgHdrlen] at small
    have whole : skb.len = skb.nlmsgLen - nlmsgHdrlen :=
      wrapInt_small (by simp only [nlmsgHdrlen]; omega) (by simp only [nlmsgHdrlen]; omega)
    constructor
    · exact whole
    · simp only [Skb.lenLength, whole, nlmsgHdrlen]
      omega

theorem len_honest {skb : Skb} (long : nlmsgHdrlen < skb.nlmsgLen) (honest : Honest skb) :
    skb.len = skb.nlmsgLen - nlmsgHdrlen := (len_sound long |>.mpr honest).whole

theorem payload_sound {skb : Skb} (long : nlmsgHdrlen < skb.nlmsgLen) (honest : Honest skb) :
    Sound skb skb.payloadLength := by
  have value := payloadLen_eq long
  have present := honest.1
  simp only [nlmsgHdrlen] at long value
  constructor
  · simp only [Skb.payloadLength, value, nlmsgHdrlen]
    omega
  · simp only [Skb.payloadLength, value, nlmsgHdrlen]
    omega

theorem nameLen_honest {skb : Skb} (long : nlmsgHdrlen + 1 < skb.nlmsgLen)
    (honest : Honest skb) :
    skb.nameLen = min ((skb.nlmsgLen : Int) - nlmsgHdrlen - 1) (ncdMaxNameLen - 1) ∧
      0 < skb.nameLen := by
  have len := len_honest (by omega) honest
  have small := honest.2
  simp only [nlmsgHdrlen, Int.cast_ofNat_Int] at long len small ⊢
  have whole : wrapInt (skb.len - 1) = skb.len - 1 := wrapInt_small (by omega) (by omega)
  have most : (ncdMaxNameLen : Int) = 32 := rfl
  rw [Skb.nameLen, whole, len]
  split <;> omega

theorem name_sound {skb : Skb} (long : nlmsgHdrlen + 1 < skb.nlmsgLen) (honest : Honest skb) :
    Sound skb skb.nameLength ∧ Inside skb (nlmsgHdrlen + 1, wrapSize skb.nameLen) := by
  obtain ⟨value, positive⟩ := nameLen_honest long honest
  have present := honest.1
  have size : (wrapSize skb.nameLen : Int) = skb.nameLen := by
    simp only [ncdMaxNameLen, Int.cast_ofNat_Int] at value
    simp only [wrapSize]
    omega
  simp only [nlmsgHdrlen, Int.cast_ofNat_Int] at long value
  constructor
  · constructor
    · simp only [Skb.nameLength, value, nlmsgHdrlen, Int.cast_ofNat_Int]
    · simp only [Skb.nameLength, value, nlmsgHdrlen, ncdMaxNameLen]
      omega
  · simp only [Inside, nlmsgHdrlen]
    omega

theorem pidField_inside {skb : Skb} : Inside skb pidField ↔ nlmsgHdrlen ≤ skb.data.length :=
  Iff.rfl

theorem lenField_inside {skb : Skb} (header : nlmsgHdrlen ≤ skb.data.length) :
    Inside skb lenField := by
  simp only [Inside, lenField, nlmsgHdrlen] at header ⊢
  omega

theorem honest_inside {skb : Skb} {range : Nat × Nat} (honest : Honest skb)
    (counted : range.1 + range.2 ≤ skb.nlmsgLen) : Inside skb range :=
  Nat.le_trans counted honest.1

/-- The front that CONN_RES, DATA and CREATE_DEV share: the length they compute first has to
    be sound, and then what follows stays inside. -/
theorem checked_safe {d : Driver} {skb : Skb} {least : Nat} {rest : Handled}
    (least_header : nlmsgHdrlen ≤ least)
    (inside : least < skb.nlmsgLen → Honest skb → Safe skb rest) :
    Safe skb (Handled.reading pidField <|
      if skb.nlmsgPid ≠ d.daemonPid then { driver := d }
      else Handled.reading lenField <|
        if skb.nlmsgLen ≤ least then { driver := d }
        else Handled.computing skb.lenLength <| Handled.reading minorField rest) ↔
      nlmsgHdrlen ≤ skb.data.length ∧
        (skb.nlmsgPid = d.daemonPid → skb.nlmsgLen ≤ least ∨ Honest skb) := by
  rw [safe_reading, pidField_inside]
  apply and_congr_right
  intro header
  split
  · rename_i stranger
    simp [stranger]
  rename_i ours
  simp only [Decidable.not_not.mp ours, forall_const, safe_reading, lenField_inside header,
    true_and]
  split
  · rename_i short
    simp [short]
  rename_i long
  rw [safe_computing, len_sound (by omega)]
  constructor
  · intro safe
    exact Or.inr safe.1
  · intro fits
    have honest := fits.resolve_left long
    constructor
    · exact honest
    rw [safe_reading]
    constructor
    · apply honest_inside honest
      simp only [minorField]
      omega
    · exact inside (Nat.not_le.mp long) honest

theorem connRes_safe {d : Driver} {skb : Skb} : Safe skb (recvConnRes d skb) ↔
    nlmsgHdrlen ≤ skb.data.length ∧ (skb.nlmsgPid = d.daemonPid →
      skb.nlmsgLen ≤ nlmsgHdrlen + 1 ∨ Honest skb) := by
  apply checked_safe (by omega)
  intro long honest
  split
  · simp
  · rw [safe_reading]
    constructor
    · exact honest_inside honest long
    · simp

theorem data_safe {d : Driver} {skb : Skb} {env : Env} : Safe skb (recvDataMsg d skb env) ↔
    nlmsgHdrlen ≤ skb.data.length ∧ (skb.nlmsgPid = d.daemonPid →
      skb.nlmsgLen ≤ nlmsgHdrlen ∨ Honest skb) := by
  apply checked_safe (Nat.le_refl _)
  intro long honest
  split
  · simp
  rw [safe_computing]
  constructor
  · exact payload_sound long honest
  split
  · simp
  dsimp only
  split
  · simp
  · rw [safe_reading]
    constructor
    · apply honest_inside honest
      rw [payloadLen_eq long]
      dsimp only
      omega
    · simp

theorem createDev_safe {d : Driver} {skb : Skb} {env : Env} : Safe skb (recvCreateDev d skb env) ↔
    nlmsgHdrlen ≤ skb.data.length ∧ (skb.nlmsgPid = d.daemonPid →
      skb.nlmsgLen ≤ nlmsgHdrlen + 1 ∨ Honest skb) := by
  apply checked_safe (by omega)
  intro long honest
  obtain ⟨sound, inside⟩ := name_sound long honest
  split
  · simp
  rw [safe_computing]
  constructor
  · exact sound
  split
  · simp
  · rw [safe_reading]
    constructor
    · exact inside
    · split <;> simp

theorem destroyDev_safe {d : Driver} {skb : Skb} : Safe skb (recvDestroyDev d skb) ↔
    nlmsgHdrlen ≤ skb.data.length ∧ (skb.nlmsgPid = d.daemonPid →
      skb.nlmsgLen ≤ nlmsgHdrlen ∨ nlmsgHdrlen + 1 ≤ skb.data.length) := by
  rw [recvDestroyDev, safe_reading, pidField_inside]
  apply and_congr_right
  intro header
  split
  · rename_i stranger
    simp [stranger]
  rename_i ours
  simp only [Decidable.not_not.mp ours, forall_const, safe_reading, lenField_inside header,
    true_and]
  split
  · rename_i short
    simp [short]
  · rename_i long
    simp [long, Inside, minorField]

theorem typeField_inside {skb : Skb} : Inside skb typeField ↔ 6 ≤ skb.data.length := Iff.rfl

theorem reads_inside_iff (d : Driver) (skb : Skb) (env : Env) :
    Safe skb (recvFromDaemon d skb env) ↔ Fits d skb := by
  have split_up : Fits d skb ↔ 6 ≤ skb.data.length ∧
      (isHandled skb.nlmsgType → nlmsgHdrlen ≤ skb.data.length) ∧
      (skb.nlmsgPid = d.daemonPid →
        (skb.nlmsgType = ncdMsgConnRes → skb.nlmsgLen ≤ nlmsgHdrlen + 1 ∨ Honest skb) ∧
        (skb.nlmsgType = ncdMsgData → skb.nlmsgLen ≤ nlmsgHdrlen ∨ Honest skb) ∧
        (skb.nlmsgType = ncdMsgCreateDev → skb.nlmsgLen ≤ nlmsgHdrlen + 1 ∨ Honest skb) ∧
        (skb.nlmsgType = ncdMsgDestroyDev →
          skb.nlmsgLen ≤ nlmsgHdrlen ∨ nlmsgHdrlen + 1 ≤ skb.data.length)) := by
    constructor
    · intro fits
      exact ⟨fits.typed, fits.header, fun ours => ⟨fits.connRes ours, fits.data ours,
        fits.createDev ours, fits.destroyDev ours⟩⟩
    · intro ⟨typed, header, ours⟩
      exact ⟨typed, header, fun pid => (ours pid).1, fun pid => (ours pid).2.1,
        fun pid => (ours pid).2.2.1, fun pid => (ours pid).2.2.2⟩
  rw [split_up, recvFromDaemon, safe_reading, typeField_inside]
  apply and_congr_right
  intro _
  generalize skb.nlmsgType = type
  by_cases register : type = ncdMsgRegister
  · subst register
    simp [isHandled, pidField_inside, ncdMsgRegister, ncdMsgConnRes, ncdMsgData, ncdMsgCreateDev,
      ncdMsgDestroyDev]
  by_cases connRes : type = ncdMsgConnRes
  · subst connRes
    rw [if_neg register, if_pos rfl, connRes_safe]
    simp [isHandled, ncdMsgConnRes, ncdMsgData, ncdMsgCreateDev, ncdMsgDestroyDev]
  by_cases data : type = ncdMsgData
  · subst data
    rw [if_neg register, if_neg connRes, if_pos rfl, data_safe]
    simp [isHandled, ncdMsgConnRes, ncdMsgData, ncdMsgCreateDev, ncdMsgDestroyDev]
  by_cases createDev : type = ncdMsgCreateDev
  · subst createDev
    rw [if_neg register, if_neg connRes, if_neg data, if_pos rfl, createDev_safe]
    simp [isHandled, ncdMsgConnRes, ncdMsgData, ncdMsgCreateDev, ncdMsgDestroyDev]
  by_cases destroyDev : type = ncdMsgDestroyDev
  · subst destroyDev
    rw [if_neg register, if_neg connRes, if_neg data, if_neg createDev, if_pos rfl,
      destroyDev_safe]
    simp [isHandled, ncdMsgConnRes, ncdMsgData, ncdMsgCreateDev, ncdMsgDestroyDev]
  · simp [isHandled, register, connRes, data, createDev, destroyDev]

/-- One byte of payload is there, nlmsg_len promises a page. -/
theorem reads_past_the_end : ¬ ∀ (d : Driver) (skb : Skb) (env : Env),
    Safe skb (recvFromDaemon d skb env) := by
  intro always
  have safe := always
    { daemonPid := 7, devices := fun minor => if minor = 0 then some { inUse := true } else none }
    { data := nlMsgHdr 4113 ncdMsgData 7 ++ [0], portid := 7 } {}
  have computed : { start := 16, value := 4097, exact := 4097 } ∈ Handled.lengths
      (recvFromDaemon { daemonPid := 7, devices := fun minor =>
        if minor = 0 then some { inUse := true } else none }
        { data := nlMsgHdr 4113 ncdMsgData 7 ++ [0], portid := 7 } {}) := by decide +kernel
  have present := (safe.2 _ computed).present
  simp [nlMsgHdr, toLittleEndian] at present

end NcdMessageBounds
