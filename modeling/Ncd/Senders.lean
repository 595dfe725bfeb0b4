import Ncd.Netlink

/- Who may act on the devices: the driver compares daemon_pid with nlmsg_pid, a field of the
   sender's own header, and never looks at the port id of the socket. -/
namespace NcdSenders
open NcdDriver NcdSessions NcdRegistry NcdNetlink LabelledRuns

/-- The driver and, with it, the port id of the socket that the last REGISTER came from. -/
structure System where
  driver : Driver := {}
  port : Nat := 0

def System.registered (s : System) : Option Nat :=
  if s.driver.daemonPid = 0 then none else some s.port

inductive SystemEvent where
  | netlink (skb : Skb) (env : Env)
  | process (event : Event)

/-- The steps of processes; what netlink brings has an event of its own. -/
def isProcess : Event → Bool
  | .register _ => false
  | .createDev _ _ _ _ => false
  | .destroyDev _ _ => false
  | .connRes _ _ _ => false
  | .data _ _ _ _ _ => false
  | _ => true

/-- Port id 0 is the kernel's own. -/
def System.step (s : System) : SystemEvent → Option System
  | .netlink skb env =>
    if skb.portid = 0 then none
    else
      some {
        driver := (recvFromDaemon s.driver skb env).driver
        port := if skb.nlmsgType = ncdMsgRegister then skb.portid else s.port }
  | .process event =>
    if isProcess event then (s.driver.step event).map fun driver => { s with driver := driver }
    else none

structure Visible where
  inUse : Bool
  connStatus : ConnStatus
  dataFifo : List UInt8
  pendingChunks : List (List UInt8)
  kfifoPaused : Bool
  openCount : Nat
  deriving DecidableEq, Repr

def visible (dev : Device) : Visible :=
  { inUse := dev.inUse
    connStatus := dev.connStatus
    dataFifo := dev.buffers.dataFifo
    pendingChunks := dev.buffers.pendingChunks
    kfifoPaused := dev.buffers.kfifoPaused
    openCount := dev.openCount }

/-- A struct that was never allocated shows as one that kzalloc gives. -/
def Driver.shown (d : Driver) (minor : Nat) : Visible := visible ((d.devices minor).getD {})

structure Untouched (d d' : Driver) : Prop where
  devices : ∀ minor, Driver.shown d' minor = Driver.shown d minor
  sent : d'.sent = d.sent

/-- Any message but REGISTER, from a socket that is not the registered daemon's. -/
def Outsider (s : System) (skb : Skb) : Prop :=
  skb.nlmsgType ≠ ncdMsgRegister ∧ s.registered ≠ some skb.portid

/-- The DATA handler neither takes the payload nor has to say so. -/
def Refused (dev : NcdDevice UInt8) (payload : List UInt8) (memory : Bool) : Prop :=
  dev.kfifoPaused = true ∧ (dev.pendingChunks ≠ [] ∨ dev.kfifoAvail < payload.length) ∧
    (ncdQueuePendingLocked dev payload memory).2 = false

def GivenUp (skb : Skb) (env : Env) (dev : Device) : Prop :=
  0 ≤ skb.nameLen ∧ (env.create = .cdevAdd ∨
    (env.create = .kfifoAlloc ∨ env.create = .deviceCreate) ∧ visible dev = visible {})

/-- When a message leaves the devices alone: the pid in its header is not daemon_pid, or it
    asks for nothing that is not so already. -/
structure Harmless (d : Driver) (skb : Skb) (env : Env) : Prop where
  connRes : skb.nlmsgPid = d.daemonPid → skb.nlmsgType = ncdMsgConnRes →
    nlmsgHdrlen + 1 < skb.nlmsgLen → ∀ dev, d.known skb.minor = some dev →
      dev.connStatus = if skb.byte (nlmsgHdrlen + 1) = 0x31 then .success else .failed
  data : skb.nlmsgPid = d.daemonPid → skb.nlmsgType = ncdMsgData →
    nlmsgHdrlen + 1 < skb.nlmsgLen → ∀ dev, d.known skb.minor = some dev →
      Refused dev.buffers (skb.bytes (nlmsgHdrlen + 1) skb.payloadLen) env.memory
  createDev : skb.nlmsgPid = d.daemonPid → skb.nlmsgType = ncdMsgCreateDev →
    nlmsgHdrlen + 1 < skb.nlmsgLen → skb.minor < ncdMaxDevices → d.known skb.minor = none →
      ∀ dev, Driver.allocated d skb.minor env.create = some dev → GivenUp skb env dev
  destroyDev : skb.nlmsgPid = d.daemonPid → skb.nlmsgType = ncdMsgDestroyDev →
    nlmsgHdrlen < skb.nlmsgLen → d.known skb.minor = none

theorem untouched_refl (d : Driver) : Untouched d d := ⟨fun _ => rfl, rfl⟩

theorem shown_setDevice (d : Driver) (minor : Nat) (dev : Device) (m : Nat) :
    Driver.shown (d.setDevice minor dev) m =
      if m = minor then visible dev else Driver.shown d m := by
  unfold Driver.shown
  rw [setDevice_devices, Function.update_apply]
  split <;> rfl

theorem untouched_setDevice {d : Driver} {minor : Nat} {dev : Device} :
    Untouched d (d.setDevice minor dev) ↔ visible dev = Driver.shown d minor := by
  constructor
  · intro untouched
    have same := untouched.devices minor
    rwa [shown_setDevice, if_pos rfl] at same
  · intro same
    constructor
    · intro m
      rw [shown_setDevice]
      split
      · rename_i here
        rw [same, here]
      · rfl
    · rfl

theorem shown_known {d : Driver} {minor : Nat} {dev : Device} (known : d.known minor = some dev) :
    Driver.shown d minor = visible dev := by
  rw [Driver.shown, (known_some known).2.1]
  rfl

theorem connRes_untouched {d : Driver} {skb : Skb} (ours : skb.nlmsgPid = d.daemonPid) :
    Untouched d (recvConnRes d skb).driver ↔ (nlmsgHdrlen + 1 < skb.nlmsgLen →
      ∀ dev, d.known skb.minor = some dev →
        dev.connStatus = if skb.byte (nlmsgHdrlen + 1) = 0x31 then .success else .failed) := by
  rw [connRes_driver]
  split
  · rename_i short
    simp [untouched_refl, Nat.not_lt.mpr short]
  rename_i long
  simp only [Nat.not_le.mp long, forall_const, Driver.connRes, ours, if_true]
  cases known : d.known skb.minor with
  | none => simp [untouched_refl]
  | some dev =>
    simp only [untouched_setDevice, shown_known known, Option.some.injEq, forall_eq']
    simp only [visible, Visible.mk.injEq, true_and, and_true, decide_eq_true_eq]
    exact eq_comm

theorem nameLen_ne_zero {skb : Skb} (long : nlmsgHdrlen + 1 < skb.nlmsgLen) : skb.nameLen ≠ 0 := by
  have bound := nlmsgLen_bound skb
  simp only [nlmsgHdrlen] at long
  simp only [Skb.nameLen, Skb.len, wrapInt, nlmsgHdrlen, ncdMaxNameLen, Int.bmod_def]
  omega

theorem queue_cases (dev : NcdDevice UInt8) {payload : List UInt8} (nonempty : payload ≠ [])
    (memory : Bool) :
    ncdQueuePendingLocked dev payload memory = (dev, false) ∨
      ncdQueuePendingLocked dev payload memory =
        ({ dev with pendingChunks := dev.pendingChunks ++ [payload]
                    pendingBytes := dev.pendingBytes + payload.length }, true) := by
  have long : payload.length ≠ 0 := by simpa using nonempty
  unfold ncdQueuePendingLocked
  rw [if_neg long]
  split
  · exact Or.inl rfl
  split
  · exact Or.inl rfl
  split
  · exact Or.inl rfl
  · exact Or.inr rfl

theorem recvData_shows {dev : Device} {payload : List UInt8} {memory : Bool}
    (nonempty : payload ≠ []) :
    visible { dev with buffers := (recvData dev.buffers payload memory).1 } = visible dev ↔
      Refused dev.buffers payload memory := by
  have long : payload.length ≠ 0 := by simpa using nonempty
  simp only [visible, Visible.mk.injEq, true_and, and_true, Refused, recvData, if_neg long]
  by_cases full : dev.buffers.pendingChunks ≠ [] ∨ dev.buffers.kfifoAvail < payload.length
  · simp only [if_pos full]
    rcases queue_cases dev.buffers nonempty memory with refused | queued
    · simp only [refused, true_and]
      constructor
      · intro same
        exact ⟨same.symm, full, trivial⟩
      · intro quiet
        exact quiet.1.symm
    · simp only [queued]
      constructor
      · intro same
        have grown := congrArg List.length same.2.1
        rw [List.length_append, List.length_singleton] at grown
        omega
      · intro quiet
        cases quiet.2.2
  · simp only [if_neg full]
    constructor
    · intro same
      rw [not_or, not_not, Nat.not_lt] at full
      have grown := congrArg List.length same.1
      rw [NcdDevice.kfifoIn, List.take_of_length_le full.2, List.length_append] at grown
      omega
    · intro quiet
      exact absurd quiet.2.1 full

theorem bytes_length (skb : Skb) (start count : Nat) : (skb.bytes start count).length = count := by
  rw [Skb.bytes, List.length_map, List.length_range]

theorem refused_quiet {dev : NcdDevice UInt8} {payload : List UInt8} {memory : Bool}
    (nonempty : payload ≠ []) (refused : Refused dev payload memory) :
    (recvData dev payload memory).2.shouldPause = false := by
  have long : payload.length ≠ 0 := by simpa using nonempty
  simp only [recvData, if_neg long, if_pos refused.2.1, refused.1]
  rfl

theorem shown_of {d d' : Driver} (devices : d'.devices = d.devices) (minor : Nat) :
    Driver.shown d' minor = Driver.shown d minor := by
  rw [Driver.shown, Driver.shown, devices]

theorem dataDriver_untouched {d : Driver} {pid minor : Nat} {dev : Device} {payload : List UInt8}
    {memory : Bool} {outcome : SendOutcome} (ours : pid = d.daemonPid)
    (known : d.known minor = some dev) (nonempty : payload ≠ []) :
    Untouched d (d.data pid minor payload memory outcome) ↔
      Refused dev.buffers payload memory := by
  have shows : visible { dev with buffers := (recvData dev.buffers payload memory).1 } =
      visible dev ↔ Refused dev.buffers payload memory := recvData_shows nonempty
  unfold Driver.data
  rw [if_pos ours]
  simp only [known]
  constructor
  · intro untouched
    have same := untouched.devices minor
    rw [shown_known known] at same
    split at same
    · rw [shown_of (send_keeps _ _ _ _).1, shown_setDevice, if_pos rfl] at same
      exact shows.mp same
    · rw [shown_setDevice, if_pos rfl] at same
      exact shows.mp same
  · intro refused
    rw [refused_quiet nonempty refused, if_neg (by simp), untouched_setDevice, shown_known known]
    exact shows.mpr refused

theorem data_untouched {d : Driver} {skb : Skb} {env : Env} (ours : skb.nlmsgPid = d.daemonPid) :
    Untouched d (recvDataMsg d skb env).driver ↔ (nlmsgHdrlen + 1 < skb.nlmsgLen →
      ∀ dev, d.known skb.minor = some dev →
        Refused dev.buffers (skb.bytes (nlmsgHdrlen + 1) skb.payloadLen) env.memory) := by
  rw [data_driver]
  split
  · rename_i short
    have short' : ¬ nlmsgHdrlen + 1 < skb.nlmsgLen := by omega
    simp [untouched_refl, short']
  rename_i long
  have length := payloadLen_eq (Nat.not_le.mp long)
  have count := bytes_length skb (nlmsgHdrlen + 1) skb.payloadLen
  by_cases long' : nlmsgHdrlen + 1 < skb.nlmsgLen
  · have payload : skb.bytes (nlmsgHdrlen + 1) skb.payloadLen ≠ [] := by
      intro empty
      rw [empty, List.length_nil] at count
      omega
    simp only [long', forall_const]
    cases known : d.known skb.minor with
    | none => simp [Driver.data, known, untouched_refl]
    | some dev =>
      simp only [Option.some.injEq, forall_eq']
      exact dataDriver_untouched ours known payload
  · have empty : skb.bytes (nlmsgHdrlen + 1) skb.payloadLen = [] :=
      List.eq_nil_of_length_eq_zero (by omega)
    rw [empty, data_nil]
    simp [untouched_refl, long']

theorem initialized_shows {dev : Device} {name : List UInt8} {create : CreateOutcome}
    (free : dev.inUse = false) :
    visible (dev.initialized name create) = visible dev ↔
      create = .cdevAdd ∨
        (create = .kfifoAlloc ∨ create = .deviceCreate) ∧ visible dev = visible {} := by
  cases create with
  | created => simp [Device.initialized, visible, free]
  | kzalloc => simp [Device.initialized, visible, free]
  | cdevAdd => simp [Device.initialized, visible, free]
  | kfifoAlloc =>
    have blank : visible (dev.initialized name .kfifoAlloc) = visible {} := rfl
    simp [blank, eq_comm]
  | deviceCreate =>
    have blank : visible (dev.initialized name .deviceCreate) = visible {} := rfl
    simp [blank, eq_comm]

theorem allocated_shown {d : Driver} {minor : Nat} {create : CreateOutcome} {dev : Device}
    (allocated : Driver.allocated d minor create = some dev) :
    Driver.shown d minor = visible dev := by
  unfold Driver.allocated at allocated
  unfold Driver.shown
  cases device : d.devices minor with
  | some dev' =>
    simp only [device, Option.some.injEq] at allocated
    rw [allocated]
    rfl
  | none =>
    simp only [device] at allocated
    split at allocated
    · cases allocated
    · cases allocated
      rfl

theorem allocated_free {d : Driver} {minor : Nat} {create : CreateOutcome} {dev : Device}
    (small : minor < ncdMaxDevices) (unknown : d.known minor = none)
    (allocated : Driver.allocated d minor create = some dev) : dev.inUse = false := by
  unfold Driver.allocated at allocated
  cases device : d.devices minor with
  | some dev' =>
    simp only [device, Option.some.injEq] at allocated
    subst allocated
    simpa [Driver.known, Nat.not_le.mpr small, device] using unknown
  | none =>
    simp only [device] at allocated
    split at allocated
    · cases allocated
    · cases allocated
      rfl

theorem createDev_allocated {d : Driver} {minor : Nat} {name : List UInt8}
    {create : CreateOutcome} {dev : Device} (nonempty : name ≠ []) (small : minor < ncdMaxDevices)
    (unknown : d.known minor = none) (allocated : Driver.allocated d minor create = some dev) :
    d.createDev d.daemonPid minor name create =
      d.setDevice minor (dev.initialized name create) := by
  have admitted : d.admits d.daemonPid minor name = true := by
    simp [Driver.admits, nonempty, small, unknown]
  unfold Driver.allocated at allocated
  unfold Driver.createDev
  rw [if_pos admitted]
  cases device : d.devices minor with
  | some dev' =>
    simp only [device, Option.some.injEq] at allocated
    rw [allocated]
  | none =>
    simp only [device] at allocated
    split at allocated
    · cases allocated
    · rename_i memory
      cases allocated
      simp [memory]

theorem createDev_untouched {d : Driver} {skb : Skb} {env : Env}
    (ours : skb.nlmsgPid = d.daemonPid) :
    Untouched d (recvCreateDev d skb env).driver ↔ (nlmsgHdrlen + 1 < skb.nlmsgLen →
      skb.minor < ncdMaxDevices → d.known skb.minor = none →
        ∀ dev, Driver.allocated d skb.minor env.create = some dev → GivenUp skb env dev) := by
  simp only [recvCreateDev, reading_driver, ours, ne_eq, not_true_eq_false, if_false]
  split
  · rename_i short
    simp [untouched_refl, Nat.not_lt.mpr short]
  rename_i long
  have long' := Nat.not_le.mp long
  simp only [long', forall_const, computing_driver, reading_driver]
  split
  · rename_i ignored
    simp only [untouched_refl, true_iff]
    intro small unknown
    rcases ignored with large | used
    · omega
    · rw [unknown] at used
      cases used
  rename_i admitted
  rw [not_or, Nat.not_le, Option.not_isSome_iff_eq_none] at admitted
  obtain ⟨small, unknown⟩ := admitted
  simp only [small, unknown, forall_const, computing_driver]
  cases allocated : Driver.allocated d skb.minor env.create with
  | none => simp [untouched_refl]
  | some dev =>
    have free := allocated_free small unknown allocated
    simp only [reading_driver, Option.some.injEq, forall_eq', GivenUp]
    split
    · rename_i negative
      simp only [untouched_setDevice, allocated_shown allocated]
      constructor
      · intro same
        have used := congrArg Visible.inUse same
        simp only [visible, free] at used
        cases used
      · intro givenUp
        omega
    · rename_i positive
      have nonempty : skb.bytes (nlmsgHdrlen + 1) skb.nameLen.toNat ≠ [] := by
        intro empty
        have zero := bytes_length skb (nlmsgHdrlen + 1) skb.nameLen.toNat
        have nonzero := nameLen_ne_zero long'
        rw [empty, List.length_nil] at zero
        omega
      dsimp only
      rw [createDev_allocated nonempty small unknown allocated, untouched_setDevice,
        allocated_shown allocated, initialized_shows free]
      simp [Int.not_lt.mp positive]

theorem destroyDev_untouched {d : Driver} {skb : Skb} (ours : skb.nlmsgPid = d.daemonPid) :
    Untouched d (recvDestroyDev d skb).driver ↔
      (nlmsgHdrlen < skb.nlmsgLen → d.known skb.minor = none) := by
  rw [destroyDev_driver]
  split
  · rename_i short
    simp [untouched_refl, Nat.not_lt.mpr short]
  rename_i long
  simp only [Nat.not_le.mp long, forall_const, Driver.destroyDev, ours, if_true]
  cases known : d.known skb.minor with
  | none => simp [untouched_refl]
  | some dev =>
    simp only [untouched_setDevice, shown_known known, reduceCtorEq, iff_false]
    intro same
    have used := congrArg Visible.inUse same
    simp only [visible, Device.destroyed, (known_some known).2.2] at used
    cases used

theorem stranger_untouched {d : Driver} {skb : Skb} {env : Env}
    (other : skb.nlmsgType ≠ ncdMsgRegister) (stranger : skb.nlmsgPid ≠ d.daemonPid) :
    (recvFromDaemon d skb env).driver = d := by
  simp only [recvFromDaemon, reading_driver, if_neg other]
  split
  · simp [recvConnRes, stranger]
  split
  · simp [recvDataMsg, stranger]
  split
  · simp [recvCreateDev, stranger]
  split
  · simp [recvDestroyDev, stranger]
  · rfl

/-- Only the case of the type counts. -/
theorem harmless_iff {d : Driver} {skb : Skb} {env : Env} (ours : skb.nlmsgPid = d.daemonPid) :
    Harmless d skb env ↔
      (skb.nlmsgType = ncdMsgConnRes → Untouched d (recvConnRes d skb).driver) ∧
      (skb.nlmsgType = ncdMsgData → Untouched d (recvDataMsg d skb env).driver) ∧
      (skb.nlmsgType = ncdMsgCreateDev → Untouched d (recvCreateDev d skb env).driver) ∧
      (skb.nlmsgType = ncdMsgDestroyDev → Untouched d (recvDestroyDev d skb).driver) := by
  rw [connRes_untouched ours, data_untouched ours, createDev_untouched ours,
    destroyDev_untouched ours]
  constructor
  · intro harmless
    exact ⟨harmless.connRes ours, harmless.data ours, harmless.createDev ours,
      harmless.destroyDev ours⟩
  · intro cases_
    exact ⟨fun _ => cases_.1, fun _ => cases_.2.1, fun _ => cases_.2.2.1, fun _ => cases_.2.2.2⟩

theorem untouched_iff {d : Driver} {skb : Skb} {env : Env}
    (other : skb.nlmsgType ≠ ncdMsgRegister) :
    Untouched d (recvFromDaemon d skb env).driver ↔ Harmless d skb env := by
  by_cases ours : skb.nlmsgPid = d.daemonPid
  · rw [harmless_iff ours]
    simp only [recvFromDaemon, reading_driver, if_neg other]
    by_cases connRes : skb.nlmsgType = ncdMsgConnRes
    · simp [connRes, ncdMsgConnRes, ncdMsgData, ncdMsgCreateDev, ncdMsgDestroyDev]
    by_cases data : skb.nlmsgType = ncdMsgData
    · simp [data, ncdMsgConnRes, ncdMsgData, ncdMsgCreateDev, ncdMsgDestroyDev]
    by_cases createDev : skb.nlmsgType = ncdMsgCreateDev
    · simp [createDev, ncdMsgConnRes, ncdMsgData, ncdMsgCreateDev, ncdMsgDestroyDev]
    by_cases destroyDev : skb.nlmsgType = ncdMsgDestroyDev
    · simp [destroyDev, ncdMsgConnRes, ncdMsgData, ncdMsgCreateDev, ncdMsgDestroyDev]
    · simp [connRes, data, createDev, destroyDev, untouched_refl]
  · rw [stranger_untouched other ours]
    constructor
    · intro _
      exact ⟨fun pid => absurd pid ours, fun pid => absurd pid ours, fun pid => absurd pid ours,
        fun pid => absurd pid ours⟩
    · intro _
      exact untouched_refl d

theorem outsiders_blocked_iff (s : System) (skb : Skb) (env : Env) :
    (Outsider s skb → Untouched s.driver (recvFromDaemon s.driver skb env).driver) ↔
      (Outsider s skb → Harmless s.driver skb env) := by
  constructor
  · intro blocked outsider
    exact (untouched_iff outsider.1).mp (blocked outsider)
  · intro harmless outsider
    exact (untouched_iff outsider.1).mpr (harmless outsider)

/-- The daemon with pid 7 has created device 0; another socket sends a DESTROY_DEV for it
    under that pid. -/
theorem outsider_destroys : ¬ ∀ s skb env, Reaches System.step Any {} s → Outsider s skb →
    Untouched s.driver (recvFromDaemon s.driver skb env).driver := by
  intro always
  have ends : (exec System.step {} [
      .netlink { data := nlMsgHdr 16 ncdMsgRegister 7, portid := 7 } {},
      .netlink { data := nlMsgHdr 18 ncdMsgCreateDev 7 ++ [0, 0x61], portid := 7 } {}]).map
      (fun s => (s.registered, (Driver.shown s.driver 0).inUse,
        (Driver.shown (recvFromDaemon s.driver
          { data := nlMsgHdr 17 ncdMsgDestroyDev 7 ++ [0], portid := 8 } {}).driver 0).inUse)) =
      some (some 7, true, false) := by decide +kernel
  obtain ⟨s, run, facts⟩ := Option.map_eq_some_iff.mp ends
  simp only [Prod.mk.injEq] at facts
  obtain ⟨registered, before, after⟩ := facts
  have outsider : Outsider s { data := nlMsgHdr 17 ncdMsgDestroyDev 7 ++ [0], portid := 8 } := by
    constructor
    · decide +kernel
    · simp [registered]
  have untouched := always s _ {} (reaches_of_exec _ run) outsider
  have same := congrArg Visible.inUse (untouched.devices 0)
  rw [before, after] at same
  cases same

end NcdSenders
