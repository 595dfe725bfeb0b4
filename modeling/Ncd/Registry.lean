import Ncd.Sessions
import Mathlib.Logic.Function.Basic

/- The driver as a whole: its table of devices, the registered daemon, and the processes in
   its file operations. A struct ncd_device is allocated once and used again. -/
namespace NcdRegistry
open NcdDriver NcdSessions LabelledRuns

def ncdMaxDevices : Nat := 16
def ncdMaxNameLen : Nat := 32

structure Device where
  inUse : Bool := false
  name : List UInt8 := []
  openCount : Nat := 0
  connStatus : ConnStatus := .waiting
  buffers : NcdDevice UInt8 := {}
  deriving DecidableEq, Repr

/-- Where a process rests. entering: chrdev_open has found the cdev and calls ncd_open.
    gone: it has returned. -/
inductive Pc where
  | entering
  | requesting
  | connecting
  | opened
  | releasing
  | gone
  deriving DecidableEq, Repr

structure Proc where
  minor : Nat
  pc : Pc
  deriving DecidableEq, Repr

inductive Message where
  | openReq
  | data (bytes : List UInt8)
  | closeReq
  | kfifoFull
  | kfifoAvailable
  deriving DecidableEq, Repr

structure Sent where
  pid : Nat
  minor : Nat
  message : Message
  deriving DecidableEq, Repr

/-- sent is the history of what nlmsg_unicast has delivered. -/
structure Driver where
  devices : Nat → Option Device := fun _ => none
  daemonPid : Nat := 0
  procs : List Proc := []
  sent : List Sent := []

/-- noMemory: nlmsg_new or nlmsg_put fails. undelivered: nlmsg_unicast fails. -/
inductive SendOutcome where
  | sent
  | noMemory
  | undelivered
  deriving DecidableEq, Repr

def Driver.sendToDaemon (d : Driver) (minor : Nat) (message : Message) (outcome : SendOutcome) :
    Driver × Bool :=
  if d.daemonPid = 0 then (d, false)
  else
    match outcome with
    | .sent => ({ d with sent := d.sent ++ [⟨d.daemonPid, minor, message⟩] }, true)
    | .noMemory => (d, false)
    | .undelivered => ({ d with daemonPid := 0 }, false)

def Driver.setDevice (d : Driver) (minor : Nat) (dev : Device) : Driver :=
  { d with devices := Function.update d.devices minor (some dev) }

def Driver.setPc (d : Driver) (i minor : Nat) (pc : Pc) : Driver :=
  { d with procs := d.procs.set i ⟨minor, pc⟩ }

/-- A minor that passes the checks in front of CONN_RES, DATA and DESTROY_DEV. -/
def Driver.known (d : Driver) (minor : Nat) : Option Device :=
  if ncdMaxDevices ≤ minor then none
  else (d.devices minor).bind fun dev => if dev.inUse then some dev else none

def Device.destroyed (dev : Device) : Device :=
  { dev with inUse := false, buffers := ncdClearBuffers dev.buffers }

/-- NCD_MSG_REGISTER; the table has no entry from NCD_MAX_DEVICES on. -/
def Driver.register (d : Driver) (pid : Nat) : Driver :=
  if d.daemonPid ≠ 0 then
    { d with
      daemonPid := pid
      devices := fun minor =>
        (d.devices minor).map fun dev => if dev.inUse then dev.destroyed else dev }
  else { d with daemonPid := pid }

inductive CreateOutcome where
  | created
  | kzalloc
  | cdevAdd
  | kfifoAlloc
  | deviceCreate
  deriving DecidableEq, Repr

def cutName (name : List UInt8) : List UInt8 := name.take (ncdMaxNameLen - 1)

/-- CREATE_DEV from the initialisation of the properties on. -/
def Device.initialized (dev : Device) (name : List UInt8) : CreateOutcome → Device
  | .cdevAdd => { dev with name := cutName name, inUse := false }
  | .kfifoAlloc => { name := cutName name }
  | .deviceCreate => { name := cutName name }
  | _ => { name := cutName name, inUse := true }

/-- A CREATE_DEV that is not ignored; an empty name is no valid payload. -/
def Driver.admits (d : Driver) (pid minor : Nat) (name : List UInt8) : Bool :=
  pid = d.daemonPid && name ≠ [] && minor < ncdMaxDevices && (d.known minor).isNone

def Driver.createDev (d : Driver) (pid minor : Nat) (name : List UInt8)
    (outcome : CreateOutcome) : Driver :=
  if d.admits pid minor name then
    match d.devices minor with
    | some dev => d.setDevice minor (dev.initialized name outcome)
    | none =>
      if outcome = .kzalloc then d
      else d.setDevice minor (({} : Device).initialized name outcome)
  else d

def Driver.destroyDev (d : Driver) (pid minor : Nat) : Driver :=
  if pid = d.daemonPid then
    match d.known minor with
    | some dev => d.setDevice minor dev.destroyed
    | none => d
  else d

def Driver.connRes (d : Driver) (pid minor : Nat) (success : Bool) : Driver :=
  if pid = d.daemonPid then
    match d.known minor with
    | some dev => d.setDevice minor { dev with connStatus := if success then .success else .failed }
    | none => d
  else d

def Driver.data (d : Driver) (pid minor : Nat) (payload : List UInt8) (memory : Bool)
    (outcome : SendOutcome) : Driver :=
  if pid = d.daemonPid then
    match d.known minor with
    | some dev =>
      let received := recvData dev.buffers payload memory
      let d := d.setDevice minor { dev with buffers := received.1 }
      if received.2.shouldPause then (d.sendToDaemon minor .kfifoFull outcome).1 else d
    | none => d
  else d

def Driver.proc (d : Driver) (i : Nat) (pc : Pc) : Option (Nat × Device) :=
  match d.procs[i]? with
  | some p => if p.pc = pc then (d.devices p.minor).map (p.minor, ·) else none
  | none => none

def Driver.ncdOpen (d : Driver) (i : Nat) : Option Driver :=
  (d.proc i .entering).map fun (minor, dev) =>
    if dev.openCount ≠ 0 then d.setPc i minor .gone
    else
      (d.setDevice minor
        { dev with
          openCount := 1
          connStatus := .waiting
          buffers := ncdClearBuffers dev.buffers }).setPc i minor .requesting

def Driver.sendOpenReq (d : Driver) (i : Nat) (outcome : SendOutcome) : Option Driver :=
  (d.proc i .requesting).map fun (minor, dev) =>
    let sent := d.sendToDaemon minor .openReq outcome
    if sent.2 then sent.1.setPc i minor .connecting
    else (sent.1.setDevice minor { dev with openCount := 0 }).setPc i minor .gone

def Driver.finishOpen (d : Driver) (i : Nat) : Option Driver :=
  (d.proc i .connecting).bind fun (minor, dev) =>
    match dev.connStatus with
    | .waiting => none
    | .success => some (d.setPc i minor .opened)
    | .failed => some ((d.setDevice minor { dev with openCount := 0 }).setPc i minor .gone)

def Driver.interruptOpen (d : Driver) (i : Nat) : Option Driver :=
  (d.proc i .connecting).map fun (minor, dev) =>
    (d.setDevice minor { dev with connStatus := .waiting, openCount := 0 }).setPc i minor .gone

def Driver.ncdWrite (d : Driver) (i : Nat) (bytes : List UInt8) (outcome : SendOutcome) :
    Option Driver :=
  (d.proc i .opened).map fun (minor, _) =>
    if bytes = [] then d else (d.sendToDaemon minor (.data bytes) outcome).1

/-- One round of ncd_read that gets memory. -/
def Driver.ncdRead (d : Driver) (i count : Nat) (outcome : SendOutcome) : Option Driver :=
  (d.proc i .opened).map fun (minor, dev) =>
    if dev.buffers.dataFifo = [] then (d.sendToDaemon minor .kfifoAvailable outcome).1
    else
      let read := ncdReadLocked dev.buffers count
      let d := d.setDevice minor { dev with buffers := read.1 }
      if read.2.2 then (d.sendToDaemon minor .kfifoAvailable outcome).1 else d

def Driver.sendCloseReq (d : Driver) (i : Nat) (outcome : SendOutcome) : Option Driver :=
  (d.proc i .opened).map fun (minor, _) =>
    (d.sendToDaemon minor .closeReq outcome).1.setPc i minor .releasing

def Driver.ncdRelease (d : Driver) (i : Nat) : Option Driver :=
  (d.proc i .releasing).map fun (minor, dev) =>
    (d.setDevice minor
      { dev with
        connStatus := .waiting
        buffers := ncdClearBuffers dev.buffers
        openCount := 0 }).setPc i minor .gone

inductive Event where
  | register (pid : Nat)
  | createDev (pid minor : Nat) (name : List UInt8) (outcome : CreateOutcome)
  | destroyDev (pid minor : Nat)
  | connRes (pid minor : Nat) (success : Bool)
  | data (pid minor : Nat) (payload : List UInt8) (memory : Bool) (outcome : SendOutcome)
  | lookup (minor : Nat)
  | ncdOpen (i : Nat)
  | sendOpenReq (i : Nat) (outcome : SendOutcome)
  | finishOpen (i : Nat)
  | interruptOpen (i : Nat)
  | ncdWrite (i : Nat) (bytes : List UInt8) (outcome : SendOutcome)
  | ncdRead (i count : Nat) (outcome : SendOutcome)
  | sendCloseReq (i : Nat) (outcome : SendOutcome)
  | ncdRelease (i : Nat)
  deriving DecidableEq, Repr

/-- The port id of a daemon's socket is never 0. lookup finds a cdev that cdev_del has not
    taken back. -/
def Driver.step (d : Driver) : Event → Option Driver
  | .register pid => if pid = 0 then none else some (d.register pid)
  | .createDev pid minor name outcome =>
    if pid = 0 then none else some (d.createDev pid minor name outcome)
  | .destroyDev pid minor => if pid = 0 then none else some (d.destroyDev pid minor)
  | .connRes pid minor success => if pid = 0 then none else some (d.connRes pid minor success)
  | .data pid minor payload memory outcome =>
    if pid = 0 then none else some (d.data pid minor payload memory outcome)
  | .lookup minor =>
    match d.known minor with
    | some _ => some { d with procs := d.procs ++ [⟨minor, .entering⟩] }
    | none => none
  | .ncdOpen i => d.ncdOpen i
  | .sendOpenReq i outcome => d.sendOpenReq i outcome
  | .finishOpen i => d.finishOpen i
  | .interruptOpen i => d.interruptOpen i
  | .ncdWrite i bytes outcome => d.ncdWrite i bytes outcome
  | .ncdRead i count outcome => d.ncdRead i count outcome
  | .sendCloseReq i outcome => d.sendCloseReq i outcome
  | .ncdRelease i => d.ncdRelease i

def loaded : Driver := {}

@[simp] theorem setDevice_devices (d : Driver) (minor : Nat) (dev : Device) :
    (d.setDevice minor dev).devices = Function.update d.devices minor (some dev) := rfl

@[simp] theorem setDevice_procs (d : Driver) (minor : Nat) (dev : Device) :
    (d.setDevice minor dev).procs = d.procs := rfl

@[simp] theorem setDevice_pid (d : Driver) (minor : Nat) (dev : Device) :
    (d.setDevice minor dev).daemonPid = d.daemonPid := rfl

@[simp] theorem setDevice_sent (d : Driver) (minor : Nat) (dev : Device) :
    (d.setDevice minor dev).sent = d.sent := rfl

@[simp] theorem setPc_devices (d : Driver) (i minor : Nat) (pc : Pc) :
    (d.setPc i minor pc).devices = d.devices := rfl

@[simp] theorem setPc_procs (d : Driver) (i minor : Nat) (pc : Pc) :
    (d.setPc i minor pc).procs = d.procs.set i ⟨minor, pc⟩ := rfl

@[simp] theorem setPc_pid (d : Driver) (i minor : Nat) (pc : Pc) :
    (d.setPc i minor pc).daemonPid = d.daemonPid := rfl

@[simp] theorem setPc_sent (d : Driver) (i minor : Nat) (pc : Pc) :
    (d.setPc i minor pc).sent = d.sent := rfl

theorem proc_some {d : Driver} {i minor : Nat} {pc : Pc} {dev : Device}
    (here : d.proc i pc = some (minor, dev)) :
    d.procs[i]? = some ⟨minor, pc⟩ ∧ d.devices minor = some dev := by
  unfold Driver.proc at here
  split at here
  · rename_i p found
    split at here
    · rename_i rests
      obtain ⟨dev', device, same⟩ := Option.map_eq_some_iff.mp here
      cases same
      exact ⟨by rw [found, ← rests], device⟩
    · cases here
  · cases here

theorem proc_of {d : Driver} {i minor : Nat} {pc : Pc} {dev : Device}
    (found : d.procs[i]? = some ⟨minor, pc⟩) (device : d.devices minor = some dev) :
    d.proc i pc = some (minor, dev) := by
  simp [Driver.proc, found, device]

theorem known_some {d : Driver} {minor : Nat} {dev : Device} (here : d.known minor = some dev) :
    minor < ncdMaxDevices ∧ d.devices minor = some dev ∧ dev.inUse = true := by
  unfold Driver.known at here
  split at here
  · cases here
  · rename_i small
    obtain ⟨dev', device, used⟩ := Option.bind_eq_some_iff.mp here
    split at used
    · rename_i inUse
      cases used
      exact ⟨Nat.lt_of_not_le small, device, inUse⟩
    · cases used

theorem send_cases (d : Driver) (minor : Nat) (message : Message) (outcome : SendOutcome) :
    d.sendToDaemon minor message outcome = (d, false) ∨
      d.sendToDaemon minor message outcome = ({ d with daemonPid := 0 }, false) ∨
      d.daemonPid ≠ 0 ∧ d.sendToDaemon minor message outcome =
        ({ d with sent := d.sent ++ [⟨d.daemonPid, minor, message⟩] }, true) := by
  unfold Driver.sendToDaemon
  split
  · exact .inl rfl
  · rename_i registered
    cases outcome with
    | sent => exact .inr (.inr ⟨registered, rfl⟩)
    | noMemory => exact .inl rfl
    | undelivered => exact .inr (.inl rfl)

theorem send_keeps (d : Driver) (minor : Nat) (message : Message) (outcome : SendOutcome) :
    (d.sendToDaemon minor message outcome).1.devices = d.devices ∧
      (d.sendToDaemon minor message outcome).1.procs = d.procs := by
  rcases send_cases d minor message outcome with same | gone | ⟨_, sent⟩
  · rw [same]
    exact ⟨rfl, rfl⟩
  · rw [gone]
    exact ⟨rfl, rfl⟩
  · rw [sent]
    exact ⟨rfl, rfl⟩

theorem admits_some {d : Driver} {pid minor : Nat} {name : List UInt8}
    (admitted : d.admits pid minor name = true) :
    pid = d.daemonPid ∧ name ≠ [] ∧ minor < ncdMaxDevices ∧ d.known minor = none := by
  simp only [Driver.admits, Bool.and_eq_true, decide_eq_true_eq, Option.isNone_iff_eq_none]
    at admitted
  exact ⟨admitted.1.1.1, admitted.1.1.2, admitted.1.2, admitted.2⟩

theorem createDev_created {d : Driver} {pid minor : Nat} {name : List UInt8}
    (admitted : d.admits pid minor name = true) :
    d.createDev pid minor name .created =
      d.setDevice minor { name := cutName name, inUse := true } := by
  unfold Driver.createDev
  rw [if_pos admitted]
  split <;> rfl

theorem known_setDevice {d : Driver} {minor : Nat} {dev : Device} (small : minor < ncdMaxDevices) :
    (d.setDevice minor dev).known minor = if dev.inUse then some dev else none := by
  simp [Driver.known, Nat.not_le_of_lt small]

/- Steps that a process at its resting place can take. -/
section
variable {d : Driver} {i minor : Nat} {dev : Device}

theorem ncdOpen_free (found : d.procs[i]? = some ⟨minor, .entering⟩)
    (device : d.devices minor = some dev) (free : dev.openCount = 0) :
    d.step (.ncdOpen i) = some ((d.setDevice minor
      { dev with
        openCount := 1
        connStatus := .waiting
        buffers := ncdClearBuffers dev.buffers }).setPc i minor .requesting) := by
  simp [Driver.step, Driver.ncdOpen, proc_of found device, free]

theorem sendOpenReq_sent (found : d.procs[i]? = some ⟨minor, .requesting⟩)
    (device : d.devices minor = some dev) (registered : d.daemonPid ≠ 0) :
    d.step (.sendOpenReq i .sent) = some (Driver.setPc
      { d with sent := d.sent ++ [{ pid := d.daemonPid, minor := minor, message := .openReq }] }
      i minor .connecting) := by
  simp [Driver.step, Driver.sendOpenReq, proc_of found device, Driver.sendToDaemon, registered]

theorem finishOpen_success (found : d.procs[i]? = some ⟨minor, .connecting⟩)
    (device : d.devices minor = some dev) (status : dev.connStatus = .success) :
    d.step (.finishOpen i) = some (d.setPc i minor .opened) := by
  simp [Driver.step, Driver.finishOpen, proc_of found device, status]

theorem interruptOpen_waits (found : d.procs[i]? = some ⟨minor, .connecting⟩)
    (device : d.devices minor = some dev) :
    d.step (.interruptOpen i) = some ((d.setDevice minor
      { dev with connStatus := .waiting, openCount := 0 }).setPc i minor .gone) := by
  simp [Driver.step, Driver.interruptOpen, proc_of found device]

theorem sendCloseReq_sent (found : d.procs[i]? = some ⟨minor, .opened⟩)
    (device : d.devices minor = some dev) (registered : d.daemonPid ≠ 0) :
    d.step (.sendCloseReq i .sent) = some (Driver.setPc
      { d with sent := d.sent ++ [{ pid := d.daemonPid, minor := minor, message := .closeReq }] }
      i minor .releasing) := by
  simp [Driver.step, Driver.sendCloseReq, proc_of found device, Driver.sendToDaemon, registered]

theorem ncdRelease_ends (found : d.procs[i]? = some ⟨minor, .releasing⟩)
    (device : d.devices minor = some dev) :
    d.step (.ncdRelease i) = some ((d.setDevice minor
      { dev with
        connStatus := .waiting
        buffers := ncdClearBuffers dev.buffers
        openCount := 0 }).setPc i minor .gone) := by
  simp [Driver.step, Driver.ncdRelease, proc_of found device]

theorem connRes_success (registered : d.daemonPid ≠ 0) (known : d.known minor = some dev) :
    d.step (.connRes d.daemonPid minor true) =
      some (d.setDevice minor { dev with connStatus := .success }) := by
  simp [Driver.step, registered, Driver.connRes, known]

theorem lookup_known (known : d.known minor = some dev) :
    d.step (.lookup minor) = some { d with procs := d.procs ++ [⟨minor, .entering⟩] } := by
  simp [Driver.step, known]

end

end NcdRegistry
