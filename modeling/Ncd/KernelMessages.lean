import Ncd.DaemonMessages
import Ncd.Pipeline

/- The messages that the driver sends, byte by byte, and try_recv of the daemon's
   NetlinkSocket, which finds them in a buffer of fixed size. -/
namespace NcdKernelMessages
open NcdRegistry NcdNetlink NcdSenders NcdDaemonMessages
open NcdPipeline (recvBufSize)

def ncdMsgOpenReq : Nat := 1
def ncdMsgCloseReq : Nat := 4
def ncdMsgKfifoFull : Nat := 7
def ncdMsgKfifoAvailable : Nat := 8

def msgType : Message → Nat
  | .openReq => ncdMsgOpenReq
  | .data _ => ncdMsgData
  | .closeReq => ncdMsgCloseReq
  | .kfifoFull => ncdMsgKfifoFull
  | .kfifoAvailable => ncdMsgKfifoAvailable

def payload (minor : UInt8) : Message → List UInt8
  | .data bytes => minor :: bytes
  | _ => [minor]

/-- The skb of send_to_daemon: nlmsg_put with port id, sequence number and flags 0, which
    pads to a multiple of four bytes. -/
def sendToDaemon (minor : UInt8) (message : Message) : List UInt8 :=
  let len := nlmsgHdrlen + (payload minor message).length
  nlMsgHdr len (msgType message) 0 ++ payload minor message ++
    List.replicate (nlmsgAlign len - len) 0

/-- What try_recv returns; truncated is its Ok(None), and panicked its assertion. -/
inductive TryRecv where
  | failed (text : String)
  | panicked
  | truncated
  | message (msgType : Nat) (payload : List UInt8)
  deriving DecidableEq, Repr

/-- recvmsg puts what fits into buf, and the rest of buf is zero. -/
def buffer (bytes : List UInt8) : Skb := { data := bytes.take recvBufSize, portid := 0 }

/-- A call of try_recv: its result, and the ranges (start, count) of buf that it has read. -/
structure Call where
  result : TryRecv
  reads : List (Nat × Nat) := []
  deriving DecidableEq, Repr

def tryRecv (bytes : List UInt8) : Call :=
  let buf := buffer bytes
  let recvLen := buf.data.length
  if recvLen < nlmsgHdrlen then { result := .failed "short netlink message" }
  else if buf.nlmsgLen < nlmsgHdrlen then
    { result := .failed "bogus nlmsg_len", reads := [(0, nlmsgHdrlen)] }
  else
    let payloadLen := buf.nlmsgLen - nlmsgHdrlen
    if payloadLen = 0 then { result := .panicked, reads := [(0, nlmsgHdrlen)] }
    else if nlmsgHdrlen + payloadLen ≤ recvLen then
      { result := .message buf.nlmsgType (buf.bytes nlmsgHdrlen payloadLen)
        reads := [(0, nlmsgHdrlen), (nlmsgHdrlen, payloadLen)] }
    else { result := .truncated, reads := [(0, nlmsgHdrlen)] }

/-- The arm of the main loop that takes the message, with its minor; recv_from_kernel goes on
    after Ok(None), and the main loop after an error. -/
def arm : TryRecv → Option (Nat × Message)
  | .message msgType (minor :: rest) =>
    if msgType = ncdMsgOpenReq then some (minor.toNat, .openReq)
    else if msgType = ncdMsgData then some (minor.toNat, .data rest)
    else if msgType = ncdMsgCloseReq then some (minor.toNat, .closeReq)
    else if msgType = ncdMsgKfifoFull then some (minor.toNat, .kfifoFull)
    else if msgType = ncdMsgKfifoAvailable then some (minor.toNat, .kfifoAvailable)
    else none
  | _ => none

theorem toLittleEndian_littleEndian (bs : List UInt8) :
    toLittleEndian bs.length (littleEndian bs) = bs := by
  induction bs with
  | nil => rfl
  | cons b bs ih =>
    have low : UInt8.ofNat (b.toNat + 2 ^ 8 * littleEndian bs) = b := by
      apply UInt8.toNat_inj.mp
      rw [UInt8.toNat_ofNat', Nat.add_mul_mod_self_left, Nat.mod_eq_of_lt b.toNat_lt]
    have high : (b.toNat + 2 ^ 8 * littleEndian bs) / 2 ^ 8 = littleEndian bs := by
      rw [Nat.add_mul_div_left _ _ (Nat.two_pow_pos 8), Nat.div_eq_of_lt b.toNat_lt, Nat.zero_add]
    rw [List.length_cons, littleEndian, toLittleEndian, low, high, ih]

theorem bytes_inside {skb : Skb} {start count : Nat} (inside : start + count ≤ skb.data.length) :
    skb.bytes start count = (skb.data.drop start).take count := by
  apply List.ext_getElem
  · rw [bytes_length, List.length_take, List.length_drop]
    omega
  · intro i small _
    rw [bytes_length] at small
    have here : start + i < skb.data.length := by omega
    simp [Skb.bytes, Skb.byte, here]

/-- A message as try_recv accepts it: a header whose nlmsg_len counts a payload that is not
    empty and all there. fields are nlmsg_flags, nlmsg_seq and nlmsg_pid. -/
structure Framed (received : List UInt8) (msgType : Nat) (payload : List UInt8) : Prop where
  nonempty : payload ≠ []
  small : nlmsgHdrlen + payload.length < 2 ^ 32
  typed : msgType < 2 ^ 16
  parts : ∃ fields rest, fields.length = 10 ∧ received =
    toLittleEndian 4 (nlmsgHdrlen + payload.length) ++ toLittleEndian 2 msgType ++ fields ++
      payload ++ rest

theorem split_header (bytes : List UInt8) (n : Nat) :
    bytes = bytes.take 4 ++ (bytes.drop 4).take 2 ++ (bytes.drop 6).take 10 ++
      (bytes.drop 16).take n ++ bytes.drop (16 + n) := by
  have first := List.take_append_drop 4 bytes
  have second := List.take_append_drop 2 (bytes.drop 4)
  have third := List.take_append_drop 10 (bytes.drop 6)
  have fourth := List.take_append_drop n (bytes.drop 16)
  rw [List.drop_drop] at second third fourth
  rw [List.append_assoc, fourth, List.append_assoc, third, List.append_assoc, second, first]

theorem number_field {skb : Skb} {start count : Nat} (inside : start + count ≤ skb.data.length) :
    toLittleEndian count (littleEndian (skb.bytes start count)) =
      (skb.data.drop start).take count := by
  have length := bytes_length skb start count
  have inverse := toLittleEndian_littleEndian (skb.bytes start count)
  rw [length] at inverse
  rw [inverse, bytes_inside inside]

theorem number_small (skb : Skb) (start count : Nat) :
    littleEndian (skb.bytes start count) < 2 ^ (8 * count) := by
  have bound := littleEndian_bound (skb.bytes start count)
  rwa [bytes_length] at bound

theorem framed_of_tryRecv {bytes : List UInt8} {msgType : Nat} {payload : List UInt8}
    (accepted : (tryRecv bytes).result = .message msgType payload) :
    Framed (buffer bytes).data msgType payload := by
  unfold tryRecv at accepted
  dsimp only at accepted
  generalize buffer bytes = buf at accepted ⊢
  split at accepted
  · cases accepted
  rename_i long
  split at accepted
  · cases accepted
  rename_i whole
  split at accepted
  · cases accepted
  rename_i more
  split at accepted
  · rename_i inside
    cases accepted
    simp only [nlmsgHdrlen] at long whole more inside
    have count := bytes_length buf nlmsgHdrlen (buf.nlmsgLen - nlmsgHdrlen)
    have lenField : toLittleEndian 4 buf.nlmsgLen = (buf.data.drop 0).take 4 :=
      number_field (by omega)
    have typeField : toLittleEndian 2 buf.nlmsgType = (buf.data.drop 4).take 2 :=
      number_field (by omega)
    have body : buf.bytes nlmsgHdrlen (buf.nlmsgLen - nlmsgHdrlen) =
        (buf.data.drop 16).take (buf.nlmsgLen - nlmsgHdrlen) :=
      bytes_inside (by simp only [nlmsgHdrlen]; omega)
    have len : nlmsgHdrlen + (buf.nlmsgLen - nlmsgHdrlen) = buf.nlmsgLen := by
      simp only [nlmsgHdrlen]
      omega
    refine ⟨?_, ?_, number_small buf 4 2, (buf.data.drop 6).take 10,
      buf.data.drop (16 + (buf.nlmsgLen - nlmsgHdrlen)), ?_, ?_⟩
    · intro empty
      rw [empty] at count
      simp only [nlmsgHdrlen, List.length_nil] at count
      omega
    · rw [count, len]
      exact number_small buf 0 4
    · rw [List.length_take, List.length_drop]
      omega
    · rw [count, len, lenField, typeField, body, List.drop_zero]
      exact split_header buf.data _
  · cases accepted

theorem tryRecv_of_framed {bytes payload : List UInt8} {msgType : Nat}
    (framed : Framed (buffer bytes).data msgType payload) :
    (tryRecv bytes).result = .message msgType payload := by
  obtain ⟨fields, rest, ten, parts⟩ := framed.parts
  have positive := List.length_pos_iff.mpr framed.nonempty
  unfold tryRecv
  dsimp only
  generalize buffer bytes = buf at parts ⊢
  have atLen : buf.data = [] ++ toLittleEndian 4 (nlmsgHdrlen + payload.length) ++
      (toLittleEndian 2 msgType ++ fields ++ payload ++ rest) := by
    rw [parts]
    simp only [List.append_assoc, List.nil_append]
  have atType : buf.data = toLittleEndian 4 (nlmsgHdrlen + payload.length) ++
      toLittleEndian 2 msgType ++ (fields ++ payload ++ rest) := by
    rw [parts]
    simp only [List.append_assoc]
  have len : buf.nlmsgLen = nlmsgHdrlen + payload.length := number_present framed.small atLen
  have type : buf.nlmsgType = msgType := by
    have here := number_present framed.typed atType
    rwa [toLittleEndian_length] at here
  have body : buf.bytes nlmsgHdrlen payload.length = payload := by
    have here := bytes_present parts
    simp only [List.length_append, toLittleEndian_length, ten] at here
    exact here
  have long : buf.data.length = nlmsgHdrlen + payload.length + rest.length := by
    rw [parts]
    simp only [List.length_append, toLittleEndian_length, ten, nlmsgHdrlen]
  rw [len, type, Nat.add_sub_cancel_left, body, long, if_neg (by omega), if_neg (by omega),
    if_neg (by omega), if_pos (by omega)]

/-- Every call of try_recv ends in one of five ways, each for a reason of its own. -/
theorem tryRecv_cases (bytes : List UInt8) :
    let buf := buffer bytes
    (buf.data.length < nlmsgHdrlen ∧
      tryRecv bytes = { result := .failed "short netlink message" }) ∨
    nlmsgHdrlen ≤ buf.data.length ∧
      (buf.nlmsgLen < nlmsgHdrlen ∧
        tryRecv bytes = { result := .failed "bogus nlmsg_len", reads := [(0, nlmsgHdrlen)] } ∨
      buf.nlmsgLen = nlmsgHdrlen ∧
        tryRecv bytes = { result := .panicked, reads := [(0, nlmsgHdrlen)] } ∨
      nlmsgHdrlen < buf.nlmsgLen ∧ buf.nlmsgLen ≤ buf.data.length ∧
        tryRecv bytes =
          { result := .message buf.nlmsgType (buf.bytes nlmsgHdrlen (buf.nlmsgLen - nlmsgHdrlen))
            reads := [(0, nlmsgHdrlen), (nlmsgHdrlen, buf.nlmsgLen - nlmsgHdrlen)] } ∨
      nlmsgHdrlen < buf.nlmsgLen ∧ buf.data.length < buf.nlmsgLen ∧
        tryRecv bytes = { result := .truncated, reads := [(0, nlmsgHdrlen)] }) := by
  unfold tryRecv
  dsimp only
  generalize buffer bytes = buf
  by_cases short : buf.data.length < nlmsgHdrlen
  · exact .inl ⟨short, by rw [if_pos short]⟩
  · refine .inr ⟨Nat.le_of_not_lt short, ?_⟩
    rw [if_neg short]
    rcases Nat.lt_trichotomy buf.nlmsgLen nlmsgHdrlen with bogus | bare | full
    · exact .inl ⟨bogus, by rw [if_pos bogus]⟩
    · exact .inr (.inl ⟨bare, by rw [if_neg (by omega), if_pos (by omega)]⟩)
    · rw [if_neg (by omega), if_neg (by omega)]
      by_cases inside : nlmsgHdrlen + (buf.nlmsgLen - nlmsgHdrlen) ≤ buf.data.length
      · exact .inr (.inr (.inl ⟨full, by omega, by rw [if_pos inside]⟩))
      · exact .inr (.inr (.inr ⟨full, by omega, by rw [if_neg inside]⟩))

theorem reads_received (bytes : List UInt8) :
    ∀ range ∈ (tryRecv bytes).reads, range.1 + range.2 ≤ (buffer bytes).data.length := by
  rcases tryRecv_cases bytes with ⟨-, is⟩ | ⟨long, ⟨-, is⟩ | ⟨-, is⟩ | ⟨more, inside, is⟩ | ⟨-, -, is⟩⟩
  · simp [is]
  · simpa [is] using long
  · simpa [is] using long
  · rw [is]
    simp only [List.mem_cons, List.not_mem_nil, or_false, forall_eq_or_imp, forall_eq]
    omega
  · simpa [is] using long

/-- try_recv accepts exactly the well framed messages, and returns their type and payload. What
    it does with the rest depends on how many bytes there are and on what nlmsg_len says. It
    never looks behind what was received. -/
theorem accepts_exactly (bytes : List UInt8) :
    (∀ msgType payload, (tryRecv bytes).result = .message msgType payload ↔
      Framed (buffer bytes).data msgType payload) ∧
    ((tryRecv bytes).result = .failed "short netlink message" ↔
      (buffer bytes).data.length < nlmsgHdrlen) ∧
    ((tryRecv bytes).result = .failed "bogus nlmsg_len" ↔
      nlmsgHdrlen ≤ (buffer bytes).data.length ∧ (buffer bytes).nlmsgLen < nlmsgHdrlen) ∧
    ((tryRecv bytes).result = .panicked ↔
      nlmsgHdrlen ≤ (buffer bytes).data.length ∧ (buffer bytes).nlmsgLen = nlmsgHdrlen) ∧
    ((tryRecv bytes).result = .truncated ↔ nlmsgHdrlen ≤ (buffer bytes).data.length ∧
      (buffer bytes).data.length < (buffer bytes).nlmsgLen) ∧
    ∀ range ∈ (tryRecv bytes).reads, range.1 + range.2 ≤ (buffer bytes).data.length := by
  refine ⟨fun msgType payload => ⟨framed_of_tryRecv, tryRecv_of_framed⟩, ?_, ?_, ?_, ?_,
    reads_received bytes⟩ <;>
    rcases tryRecv_cases bytes with ⟨short, is⟩ | ⟨long, ⟨bogus, is⟩ | ⟨bare, is⟩ |
      ⟨more, inside, is⟩ | ⟨more, beyond, is⟩⟩ <;>
    simp [is] <;> omega

def behind (minor : UInt8) (message : Message) : List UInt8 :=
  toLittleEndian 2 0 ++ toLittleEndian 4 0 ++ toLittleEndian 4 0 ++ payload minor message ++
    List.replicate (nlmsgAlign (nlmsgHdrlen + (payload minor message).length) -
      (nlmsgHdrlen + (payload minor message).length)) 0

theorem sendToDaemon_split (minor : UInt8) (message : Message) : sendToDaemon minor message =
    toLittleEndian 4 (nlmsgHdrlen + (payload minor message).length) ++
      (toLittleEndian 2 (msgType message) ++ behind minor message) := by
  simp only [sendToDaemon, nlMsgHdr, behind, List.append_assoc]

theorem payload_some (minor : UInt8) (message : Message) :
    ∃ rest, payload minor message = minor :: rest := by
  cases message <;> exact ⟨_, rfl⟩

theorem msgType_small (message : Message) : msgType message < 2 ^ 16 := by
  cases message <;> simp [msgType, ncdMsgOpenReq, ncdMsgData, ncdMsgCloseReq, ncdMsgKfifoFull,
    ncdMsgKfifoAvailable]

theorem aligned_fits {len : Nat} (fits : len ≤ recvBufSize) : nlmsgAlign len ≤ recvBufSize := by
  simp only [recvBufSize, nlmsgAlign] at fits ⊢
  omega

theorem sendToDaemon_length (minor : UInt8) (message : Message) :
    (sendToDaemon minor message).length =
      nlmsgAlign (nlmsgHdrlen + (payload minor message).length) := by
  simp only [sendToDaemon_split, behind, List.length_append, toLittleEndian_length,
    List.length_replicate, nlmsgAlign, nlmsgHdrlen]
  omega

theorem sent_framed {minor : UInt8} {message : Message}
    (fits : nlmsgHdrlen + (payload minor message).length ≤ recvBufSize) :
    Framed (buffer (sendToDaemon minor message)).data (msgType message) (payload minor message) := by
  obtain ⟨rest, starts⟩ := payload_some minor message
  have whole : (buffer (sendToDaemon minor message)).data = sendToDaemon minor message :=
    List.take_of_length_le (by rw [sendToDaemon_length]; exact aligned_fits fits)
  refine ⟨by simp [starts], Nat.lt_of_le_of_lt fits (by decide), msgType_small message,
    toLittleEndian 2 0 ++ toLittleEndian 4 0 ++ toLittleEndian 4 0,
    List.replicate (nlmsgAlign (nlmsgHdrlen + (payload minor message).length) -
      (nlmsgHdrlen + (payload minor message).length)) 0, ?_, ?_⟩
  · simp only [List.length_append, toLittleEndian_length]
  · rw [whole, sendToDaemon_split, behind]
    simp only [List.append_assoc]

theorem sent_truncated {minor : UInt8} {message : Message}
    (sane : nlmsgHdrlen + (payload minor message).length < 2 ^ 32)
    (long : recvBufSize < nlmsgHdrlen + (payload minor message).length) :
    (tryRecv (sendToDaemon minor message)).result = .truncated := by
  have full : (buffer (sendToDaemon minor message)).data.length = recvBufSize := by
    have aligned : nlmsgHdrlen + (payload minor message).length ≤
        (sendToDaemon minor message).length := by
      rw [sendToDaemon_length, nlmsgAlign]
      omega
    exact List.length_take_of_le (by omega)
  have data : (buffer (sendToDaemon minor message)).data =
      [] ++ toLittleEndian 4 (nlmsgHdrlen + (payload minor message).length) ++
        (toLittleEndian 2 (msgType message) ++ behind minor message).take (recvBufSize - 4) := by
    rw [buffer, sendToDaemon_split, List.take_append, toLittleEndian_length, List.nil_append,
      List.take_of_length_le (by rw [toLittleEndian_length]; decide)]
  have len := number_present sane data
  simp only [List.length_nil] at len
  unfold tryRecv
  dsimp only
  rw [full, Skb.nlmsgLen, len, Nat.add_sub_cancel_left, if_neg (by decide), if_neg (by omega),
    if_neg (by simp only [recvBufSize, nlmsgHdrlen] at long; omega), if_neg (by omega)]

/-- What the driver sends reaches its arm of the main loop, unless it is longer than the
    buffer: then it reaches none. -/
theorem kernel_messages_arrive (minor : UInt8) (message : Message)
    (sane : nlmsgHdrlen + (payload minor message).length < 2 ^ 31) :
    arm (tryRecv (sendToDaemon minor message)).result =
      if nlmsgHdrlen + (payload minor message).length ≤ recvBufSize then
        some (minor.toNat, message)
      else none := by
  split
  · rename_i fits
    rw [tryRecv_of_framed (sent_framed fits)]
    cases message <;> rfl
  · rename_i long
    rw [sent_truncated (Nat.lt_trans sane (by decide)) (Nat.not_le.mp long)]
    rfl

theorem open_request_arrives :
    arm (tryRecv (sendToDaemon 3 .openReq)).result = some (3, .openReq) := by
  rw [kernel_messages_arrive 3 .openReq (by decide)]
  rfl

end NcdKernelMessages
