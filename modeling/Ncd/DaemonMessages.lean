import Ncd.MessageBounds
import Ncd.Senders
import Ncd.Simulations

/- What recv_from_daemon makes of the bytes of a message is a step of the device table, as
   long as nlmsg_len keeps the payload's size positive; and the messages that the daemon's
   NetlinkSocket sends, byte by byte, are read as what they were sent for. -/
namespace NcdDaemonMessages
open NcdDriver NcdSessions NcdRegistry NcdNetlink NcdMessageBounds NcdSenders LabelledRuns
  Simulations

/-- The step of the device table that the message asks for, if it is long enough. -/
def eventOf (skb : Skb) (env : Env) : Option Event :=
  if skb.nlmsgType = ncdMsgRegister then some (.register skb.nlmsgPid)
  else if skb.nlmsgType = ncdMsgConnRes then
    if skb.nlmsgLen ≤ nlmsgHdrlen + 1 then none
    else some (.connRes skb.nlmsgPid skb.minor (skb.byte (nlmsgHdrlen + 1) = 0x31))
  else if skb.nlmsgType = ncdMsgData then
    if skb.nlmsgLen ≤ nlmsgHdrlen then none
    else
      some (.data skb.nlmsgPid skb.minor (skb.bytes (nlmsgHdrlen + 1) skb.payloadLen)
        env.memory env.outcome)
  else if skb.nlmsgType = ncdMsgCreateDev then
    if skb.nlmsgLen ≤ nlmsgHdrlen + 1 then none
    else
      some (.createDev skb.nlmsgPid skb.minor (skb.bytes (nlmsgHdrlen + 1) skb.nameLen.toNat)
        env.create)
  else if skb.nlmsgType = ncdMsgDestroyDev then
    if skb.nlmsgLen ≤ nlmsgHdrlen then none
    else some (.destroyDev skb.nlmsgPid skb.minor)
  else none

/-- nlmsg_len - NLMSG_HDRLEN - 1 is no negative int. -/
def Sized (skb : Skb) : Prop := skb.nlmsgLen < 2 ^ 31 + nlmsgHdrlen + 1

section
variable {d : Driver} {skb : Skb} {env : Env}

theorem nameLen_nonneg (sized : Sized skb) (long : nlmsgHdrlen + 1 < skb.nlmsgLen) :
    0 ≤ skb.nameLen := by
  simp only [Sized, nlmsgHdrlen] at sized long
  simp only [Skb.nameLen, Skb.len, wrapInt, nlmsgHdrlen, ncdMaxNameLen, Int.bmod_def]
  omega

theorem createDev_unallocated {pid minor : Nat} {name : List UInt8} {create : CreateOutcome}
    (missing : Driver.allocated d minor create = none) : d.createDev pid minor name create = d := by
  unfold Driver.allocated at missing
  unfold Driver.createDev
  split
  · cases device : d.devices minor with
    | some dev =>
      rw [device] at missing
      cases missing
    | none =>
      simp only [device] at missing
      split at missing
      · rename_i memory
        simp [memory]
      · cases missing
  · rfl

theorem createDev_driver (env : Env) (sized : Sized skb) : (recvCreateDev d skb env).driver =
    if skb.nlmsgLen ≤ nlmsgHdrlen + 1 then d
    else d.createDev skb.nlmsgPid skb.minor (skb.bytes (nlmsgHdrlen + 1) skb.nameLen.toNat)
      env.create := by
  unfold recvCreateDev
  by_cases ours : skb.nlmsgPid = d.daemonPid
  · rw [if_neg (not_not.mpr ours)]
    by_cases short : skb.nlmsgLen ≤ nlmsgHdrlen + 1
    · simp only [if_pos short, reading_driver]
    · simp only [if_neg short, reading_driver, computing_driver]
      split
      · rename_i ignored
        have refused : d.admits skb.nlmsgPid skb.minor
            (skb.bytes (nlmsgHdrlen + 1) skb.nameLen.toNat) = false := by
          rcases ignored with large | used
          · simp [Driver.admits, Nat.not_lt.mpr large]
          · simp [Driver.admits, used]
        rw [Driver.createDev, refused]
        rfl
      · simp only [computing_driver]
        cases allocated : Driver.allocated d skb.minor env.create with
        | none => exact (createDev_unallocated allocated).symm
        | some dev =>
          have named := nameLen_nonneg sized (Nat.not_le.mp short)
          simp only [reading_driver, if_neg (Int.not_lt.mpr named)]
  · rw [if_pos ours]
    simp [Driver.createDev, Driver.admits, ours]

theorem recvFromDaemon_event (d : Driver) (env : Env) (sender : skb.nlmsgPid ≠ 0)
    (sized : Sized skb) :
    (eventOf skb env).elim (some d) d.step = some (recvFromDaemon d skb env).driver := by
  unfold eventOf recvFromDaemon
  rw [reading_driver]
  split
  · simp only [Option.elim, Driver.step, if_neg sender, reading_driver]
  split
  · rw [connRes_driver]
    split
    · rfl
    · simp only [Option.elim, Driver.step, if_neg sender]
  split
  · rw [data_driver]
    split
    · rfl
    · simp only [Option.elim, Driver.step, if_neg sender]
  split
  · rw [createDev_driver env sized]
    split
    · rfl
    · simp only [Option.elim, Driver.step, if_neg sender]
  split
  · rw [destroyDev_driver]
    split
    · rfl
    · simp only [Option.elim, Driver.step, if_neg sender]
  · rfl

end

def WellSized (_ : System) : SystemEvent → Prop
  | .netlink skb _ => skb.nlmsgPid ≠ 0 ∧ Sized skb
  | .process _ => True

/-- What the driver does with the bytes of such messages, the device table does in steps of
    its own. -/
theorem netlink_simulates :
    Simulation System.step WellSized Driver.step Any fun s d => True ∧ s.driver = d := by
  apply Simulation.of_view
  intro s event t _ allowed step
  refine ⟨trivial, ?_⟩
  cases event with
  | netlink skb env =>
    simp only [System.step] at step
    split at step <;> cases step
    have moved := recvFromDaemon_event s.driver env allowed.1 allowed.2
    cases asked : eventOf skb env with
    | none =>
      rw [asked] at moved
      exact .inl (Option.some.inj moved).symm
    | some event =>
      rw [asked] at moved
      exact .inr ⟨event, trivial, moved⟩
  | process event =>
    simp only [System.step] at step
    split at step
    · obtain ⟨driver, moved, rfl⟩ := Option.map_eq_some_iff.mp step
      exact .inr ⟨event, trivial, moved⟩
    · cases step

def nlmsgAlign (len : Nat) : Nat := (len + 3) / 4 * 4

/-- The buffer of try_send: header, payload and padding. -/
def trySend (pid msgType : Nat) (payload : List UInt8) : List UInt8 :=
  nlMsgHdr (nlmsgHdrlen + payload.length) msgType pid ++ payload ++
    List.replicate (nlmsgAlign (nlmsgHdrlen + payload.length) - (nlmsgHdrlen + payload.length)) 0

/-- register, create_device, destroy_device, send_conn_result_to_kernel and
    send_data_to_kernel -/
inductive DaemonMessage where
  | register
  | createDevice (minor : UInt8) (name : List UInt8)
  | destroyDevice (minor : UInt8)
  | connResult (minor : UInt8) (success : Bool)
  | data (minor : UInt8) (bytes : List UInt8)
  deriving DecidableEq, Repr

def DaemonMessage.msgType : DaemonMessage → Nat
  | .register => ncdMsgRegister
  | .createDevice _ _ => ncdMsgCreateDev
  | .destroyDevice _ => ncdMsgDestroyDev
  | .connResult _ _ => ncdMsgConnRes
  | .data _ _ => ncdMsgData

def DaemonMessage.payload : DaemonMessage → List UInt8
  | .register => []
  | .createDevice minor name => minor :: name
  | .destroyDevice minor => [minor]
  | .connResult minor success => [minor, if success then 0x31 else 0x30]
  | .data minor bytes => minor :: bytes

def DaemonMessage.event (pid : Nat) (env : Env) : DaemonMessage → Event
  | .register => .register pid
  | .createDevice minor name => .createDev pid minor.toNat name env.create
  | .destroyDevice minor => .destroyDev pid minor.toNat
  | .connResult minor success => .connRes pid minor.toNat success
  | .data minor bytes => .data pid minor.toNat bytes env.memory env.outcome

def sendToKernel (pid : Nat) (message : DaemonMessage) : Skb :=
  { data := trySend pid message.msgType message.payload, portid := pid }

theorem littleEndian_toLittleEndian (count n : Nat) (fits : n < 2 ^ (8 * count)) :
    littleEndian (toLittleEndian count n) = n := by
  induction count generalizing n with
  | zero =>
    simp only [Nat.mul_zero, Nat.pow_zero] at fits
    simp only [toLittleEndian, littleEndian]
    omega
  | succ count ih =>
    have power : 2 ^ (8 * (count + 1)) = 2 ^ 8 * 2 ^ (8 * count) := by
      rw [Nat.mul_add, Nat.pow_add, Nat.mul_comm]
    rw [power] at fits
    have rest : n / 2 ^ 8 < 2 ^ (8 * count) := Nat.div_lt_of_lt_mul fits
    have byte : (UInt8.ofNat n).toNat = n % 2 ^ 8 := UInt8.toNat_ofNat'
    rw [toLittleEndian, littleEndian, ih _ rest, byte, Nat.mod_add_div]

theorem toLittleEndian_length (count n : Nat) : (toLittleEndian count n).length = count := by
  induction count generalizing n with
  | zero => rfl
  | succ count ih => rw [toLittleEndian, List.length_cons, ih]

theorem bytes_present {skb : Skb} {before here after : List UInt8}
    (data : skb.data = before ++ here ++ after) :
    skb.bytes before.length here.length = here := by
  apply List.ext_getElem
  · rw [bytes_length]
  · intro i _ inside
    have found : skb.data[before.length + i]? = some here[i] := by
      rw [data, List.append_assoc, List.getElem?_append_right (by omega),
        List.getElem?_append_left (by omega)]
      simp
    simp [Skb.bytes, Skb.byte, found]

theorem number_present {skb : Skb} {before after : List UInt8} {count n : Nat}
    (fits : n < 2 ^ (8 * count)) (data : skb.data = before ++ toLittleEndian count n ++ after) :
    littleEndian (skb.bytes before.length count) = n := by
  have here := bytes_present data
  rw [toLittleEndian_length] at here
  rw [here, littleEndian_toLittleEndian count n fits]

def body (message : DaemonMessage) : List UInt8 :=
  message.payload ++ List.replicate (nlmsgAlign (nlmsgHdrlen + message.payload.length) -
    (nlmsgHdrlen + message.payload.length)) 0

variable {pid : Nat} {message : DaemonMessage}

theorem sent_data (pid : Nat) (message : DaemonMessage) : (sendToKernel pid message).data =
    toLittleEndian 4 (nlmsgHdrlen + message.payload.length) ++
      (toLittleEndian 2 message.msgType ++ (toLittleEndian 2 0 ++ (toLittleEndian 4 0 ++
        (toLittleEndian 4 pid ++ body message)))) := by
  simp only [sendToKernel, trySend, nlMsgHdr, body, List.append_assoc]

theorem sent_len (pid : Nat) (short : nlmsgHdrlen + message.payload.length < 2 ^ 31) :
    (sendToKernel pid message).nlmsgLen = nlmsgHdrlen + message.payload.length := by
  have data : (sendToKernel pid message).data = [] ++ toLittleEndian 4
      (nlmsgHdrlen + message.payload.length) ++ (toLittleEndian 2 message.msgType ++
        (toLittleEndian 2 0 ++ (toLittleEndian 4 0 ++
          (toLittleEndian 4 pid ++ body message)))) := by
    rw [sent_data, List.nil_append]
  exact number_present (by omega) data

theorem sent_type (pid : Nat) (message : DaemonMessage) :
    (sendToKernel pid message).nlmsgType = message.msgType := by
  have data : (sendToKernel pid message).data =
      toLittleEndian 4 (nlmsgHdrlen + message.payload.length) ++
        toLittleEndian 2 message.msgType ++ (toLittleEndian 2 0 ++ (toLittleEndian 4 0 ++
          (toLittleEndian 4 pid ++ body message))) := by
    rw [sent_data, List.append_assoc]
  have fits : message.msgType < 2 ^ (8 * 2) := by
    cases message <;> simp [DaemonMessage.msgType, ncdMsgRegister, ncdMsgCreateDev,
      ncdMsgDestroyDev, ncdMsgConnRes, ncdMsgData]
  have type := number_present fits data
  rwa [toLittleEndian_length] at type

theorem sent_pid (message : DaemonMessage) (small : pid < 2 ^ 32) :
    (sendToKernel pid message).nlmsgPid = pid := by
  have data : (sendToKernel pid message).data =
      (toLittleEndian 4 (nlmsgHdrlen + message.payload.length) ++
        toLittleEndian 2 message.msgType ++ toLittleEndian 2 0 ++ toLittleEndian 4 0) ++
      toLittleEndian 4 pid ++ body message := by
    rw [sent_data]
    simp only [List.append_assoc]
  have number := number_present small data
  simp only [List.length_append, toLittleEndian_length] at number
  exact number

theorem sent_payload {front rest : List UInt8} (split : message.payload = front ++ rest) :
    (sendToKernel pid message).bytes (nlmsgHdrlen + front.length) rest.length = rest := by
  have data : (sendToKernel pid message).data =
      (toLittleEndian 4 (nlmsgHdrlen + message.payload.length) ++
        toLittleEndian 2 message.msgType ++ toLittleEndian 2 0 ++ toLittleEndian 4 0 ++
        toLittleEndian 4 pid ++ front) ++ rest ++
      List.replicate (nlmsgAlign (nlmsgHdrlen + message.payload.length) -
        (nlmsgHdrlen + message.payload.length)) 0 := by
    rw [sent_data, body, split]
    simp only [List.append_assoc]
  have present := bytes_present data
  simp only [List.length_append, toLittleEndian_length] at present
  exact present

theorem bytes_head {skb : Skb} {start : Nat} {b : UInt8} {bs : List UInt8}
    (here : skb.bytes start (b :: bs).length = b :: bs) : skb.byte start = b := by
  simp only [Skb.bytes, List.length_cons, List.range_succ_eq_map, List.map_cons,
    List.cons.injEq] at here
  exact here.1

theorem sent_minor {minor : UInt8} {rest : List UInt8} (payload : message.payload = minor :: rest) :
    (sendToKernel pid message).minor = minor.toNat := by
  have split : message.payload = [] ++ minor :: rest := payload
  exact congrArg UInt8.toNat (bytes_head (sent_payload split))

theorem sent_rest (pid : Nat) {minor : UInt8} {rest : List UInt8}
    (payload : message.payload = minor :: rest) :
    (sendToKernel pid message).bytes (nlmsgHdrlen + 1) rest.length = rest := by
  have split : message.payload = [minor] ++ rest := payload
  exact sent_payload split

theorem sent_long (pid : Nat) (short : nlmsgHdrlen + message.payload.length < 2 ^ 31)
    {minor : UInt8} {rest : List UInt8} (payload : message.payload = minor :: rest) :
    (sendToKernel pid message).nlmsgLen = nlmsgHdrlen + 1 + rest.length := by
  rw [sent_len pid short, payload, List.length_cons]
  omega

theorem bytes_take (skb : Skb) (start count n : Nat) :
    (skb.bytes start count).take n = skb.bytes start (min n count) := by
  rw [Skb.bytes, Skb.bytes, ← List.map_take, List.take_range]

theorem nameLen_toNat {skb : Skb} {count : Nat} (long : skb.nlmsgLen = nlmsgHdrlen + 1 + count)
    (sized : Sized skb) : skb.nameLen.toNat = min (ncdMaxNameLen - 1) count := by
  simp only [Sized, nlmsgHdrlen] at sized long
  simp only [Skb.nameLen, Skb.len, wrapInt, nlmsgHdrlen, ncdMaxNameLen, Int.bmod_def]
  omega

theorem createDev_cut (d : Driver) (minor : Nat) (name : List UInt8) (create : CreateOutcome) :
    d.createDev pid minor (cutName name) create = d.createDev pid minor name create := by
  have once : cutName (cutName name) = cutName name := by
    rw [cutName, cutName, List.take_take, Nat.min_self]
  have empty : cutName name = [] ↔ name = [] := by
    simp [cutName, ncdMaxNameLen]
  have admits : d.admits pid minor (cutName name) = d.admits pid minor name := by
    simp only [Driver.admits, ne_eq, empty]
  have initialized : ∀ dev : Device,
      dev.initialized (cutName name) create = dev.initialized name create := by
    intro dev
    cases create <;> simp only [Device.initialized, once]
  simp only [Driver.createDev, admits, initialized]

/-- What the daemon sends arrives as the step it was sent for. -/
theorem received (d : Driver) (message : DaemonMessage) (env : Env) (assigned : pid ≠ 0)
    (small : pid < 2 ^ 32) (short : nlmsgHdrlen + message.payload.length < 2 ^ 31) :
    d.step (message.event pid env) =
      some (recvFromDaemon d (sendToKernel pid message) env).driver := by
  have type := sent_type pid message
  have sender := sent_pid message small
  unfold recvFromDaemon
  rw [reading_driver]
  cases message with
  | register =>
    have same : (sendToKernel pid .register).nlmsgType = ncdMsgRegister := type
    rw [if_pos same, reading_driver, sender]
    simp only [DaemonMessage.event, Driver.step, if_neg assigned]
  | createDevice minor name =>
    have payload : (DaemonMessage.createDevice minor name).payload = minor :: name := rfl
    have long := sent_long pid short payload
    have sized : Sized (sendToKernel pid (.createDevice minor name)) := by
      rw [Sized, sent_len pid short]
      omega
    have here := sent_rest pid payload
    simp only [type, DaemonMessage.msgType, ncdMsgRegister, ncdMsgConnRes, ncdMsgData,
      ncdMsgCreateDev]
    rw [if_neg (by decide), if_neg (by decide), if_neg (by decide), if_pos trivial,
      createDev_driver env sized, sender, sent_minor payload, nameLen_toNat long sized,
      ← bytes_take, here]
    simp only [DaemonMessage.event, Driver.step, if_neg assigned]
    split
    · rename_i empty
      have nothing : name = [] := by
        rw [long] at empty
        exact List.eq_nil_of_length_eq_zero (by omega)
      simp [Driver.createDev, Driver.admits, nothing]
    · exact congrArg some (createDev_cut d minor.toNat name env.create).symm
  | destroyDevice minor =>
    have payload : (DaemonMessage.destroyDevice minor).payload = [minor] := rfl
    have long := sent_long pid short payload
    simp only [type, DaemonMessage.msgType, ncdMsgRegister, ncdMsgConnRes, ncdMsgData,
      ncdMsgCreateDev, ncdMsgDestroyDev]
    rw [if_neg (by decide), if_neg (by decide), if_neg (by decide), if_neg (by decide),
      if_pos trivial, destroyDev_driver, sender, sent_minor payload, if_neg (by omega)]
    simp only [DaemonMessage.event, Driver.step, if_neg assigned]
  | connResult minor success =>
    have payload : (DaemonMessage.connResult minor success).payload =
        minor :: [if success then 0x31 else 0x30] := rfl
    have long := sent_long pid short payload
    have flag := bytes_head (sent_rest pid payload)
    rw [List.length_singleton] at long
    simp only [type, DaemonMessage.msgType, ncdMsgRegister, ncdMsgConnRes]
    rw [if_neg (by decide), if_pos trivial, connRes_driver, sender, sent_minor payload,
      if_neg (by omega), flag]
    simp only [DaemonMessage.event, Driver.step, if_neg assigned]
    cases success <;> rfl
  | data minor bytes =>
    have payload : (DaemonMessage.data minor bytes).payload = minor :: bytes := rfl
    have long := sent_long pid short payload
    have here := sent_rest pid payload
    have count : (sendToKernel pid (.data minor bytes)).payloadLen = bytes.length := by
      rw [payloadLen_eq (by omega), long]
      omega
    simp only [type, DaemonMessage.msgType, ncdMsgRegister, ncdMsgConnRes, ncdMsgData]
    rw [if_neg (by decide), if_neg (by decide), if_pos trivial, data_driver, sender,
      sent_minor payload, if_neg (by omega), count, here]
    simp only [DaemonMessage.event, Driver.step, if_neg assigned]

/-- A message of a daemon whose socket has a port id, with a length that fits an int. -/
structure Sendable (pid : Nat) (message : DaemonMessage) : Prop where
  assigned : pid ≠ 0
  small : pid < 2 ^ 32
  short : nlmsgHdrlen + message.payload.length < 2 ^ 31

theorem sent_honest (sendable : Sendable pid message) : Honest (sendToKernel pid message) := by
  have len := sent_len pid sendable.short
  constructor
  · rw [len, sent_data]
    simp only [List.length_append, toLittleEndian_length, body, nlmsgHdrlen]
    omega
  · rw [len]
    have short := sendable.short
    omega

theorem sent_safe (d : Driver) (env : Env) (sendable : Sendable pid message) :
    Safe (sendToKernel pid message) (recvFromDaemon d (sendToKernel pid message) env) := by
  have honest := sent_honest sendable
  have header : nlmsgHdrlen ≤ (sendToKernel pid message).data.length := by
    have len := sent_len pid sendable.short
    have present := honest.1
    omega
  rw [recvFromDaemon, safe_reading, typeField_inside]
  simp only [nlmsgHdrlen] at header
  refine ⟨by omega, ?_⟩
  split
  · rw [safe_reading, pidField_inside]
    exact ⟨header, (safe_plain _ _).mpr trivial⟩
  split
  · exact connRes_safe.mpr ⟨header, fun _ => .inr honest⟩
  split
  · exact data_safe.mpr ⟨header, fun _ => .inr honest⟩
  split
  · exact createDev_safe.mpr ⟨header, fun _ => .inr honest⟩
  split
  · refine destroyDev_safe.mpr ⟨header, fun _ => ?_⟩
    have present := honest.1
    simp only [nlmsgHdrlen]
    omega
  · exact (safe_plain _ _).mpr trivial

/-- A step of a process, or one that a daemon asks for. -/
def Requested (_ : Driver) (event : Event) : Prop :=
  isProcess event = true ∨
    ∃ pid message env, Sendable pid message ∧ event = DaemonMessage.event pid env message

def Built (_ : System) : SystemEvent → Prop
  | .netlink skb _ => ∃ pid message, Sendable pid message ∧ skb = sendToKernel pid message
  | .process _ => True

theorem table_simulates :
    Simulation Driver.step Requested System.step Built fun d s => s.driver = d := by
  constructor
  rintro _ s event d' rfl requested step
  rcases requested with process | ⟨pid, message, env, sendable, rfl⟩
  · refine .inr ⟨.process event, { s with driver := d' }, trivial, ?_, rfl⟩
    rw [System.step, if_pos process, step]
    rfl
  · have same := received s.driver message env sendable.assigned sendable.small sendable.short
    rw [step, Option.some.injEq] at same
    have open_ : (sendToKernel pid message).portid ≠ 0 := sendable.assigned
    refine .inr ⟨.netlink (sendToKernel pid message) env, _, ⟨pid, message, sendable, rfl⟩,
      if_neg open_, same.symm⟩

/-- Whatever the device table does for a daemon and its processes, the driver does with the
    bytes that the daemon sends; for netlink messages of a sane size it does nothing else; and
    of what a daemon sends it reads the bytes of the message only. -/
theorem netlink_carries_requests :
    (∀ (s : System) (d : Driver), Reaches Driver.step Requested s.driver d →
      ∃ t : System, Reaches System.step Built s t ∧ t.driver = d) ∧
    (∀ s t : System, Reaches System.step WellSized s t →
      Reaches Driver.step Any s.driver t.driver) ∧
    ∀ (d : Driver) (env : Env) (pid : Nat) (message : DaemonMessage), Sendable pid message →
      Safe (sendToKernel pid message) (recvFromDaemon d (sendToKernel pid message) env) := by
  refine ⟨fun s d run => ?_, fun s t run => ?_, fun d env pid message => sent_safe d env⟩
  · exact table_simulates.reaches run rfl
  · obtain ⟨d, seen, _, rfl⟩ := netlink_simulates.reaches run ⟨trivial, rfl⟩
    exact seen

def deviceMade : Driver :=
  (exec Driver.step {} [.register 77, .createDev 77 5 [0x61] .created]).getD {}

theorem device_made_over_netlink :
    (∃ t : System, Reaches System.step Built {} t ∧ t.driver = deviceMade) ∧
      ((deviceMade.devices 5).map (·.inUse)) = some true := by
  have register : Sendable 77 .register := ⟨by decide, by decide, by decide⟩
  have create : Sendable 77 (.createDevice 5 [0x61]) := ⟨by decide, by decide, by decide⟩
  have run : Reaches Driver.step Requested ({} : System).driver deviceMade :=
    .snoc (.snoc (.refl _) (.inr ⟨77, .register, {}, register, rfl⟩) rfl)
      (.inr ⟨77, .createDevice 5 [0x61], {}, create, rfl⟩) rfl
  exact ⟨netlink_carries_requests.1 {} deviceMade run, by decide⟩

end NcdDaemonMessages
