import Ncd.Registry
import Ncd.Ledgers

/- What the driver takes from the kernel and gives back, from module_init to module_exit and
   over as many loads as there are: the calls in the order of the source. -/
namespace NcdResources
open NcdDriver NcdSessions NcdRegistry LabelledRuns Ledgers

inductive Resource where
  | majorNumber
  | class_
  | socket
  | deviceStruct (minor : Nat)
  | cdev (minor : Nat)
  | kfifo (minor : Nat)
  | deviceNode (minor : Nat)
  | chunk (minor : Nat)
  | kbuf
  | skb
  deriving DecidableEq, Repr

def Resource.single : Resource → Bool
  | .majorNumber | .class_ | .socket | .cdev _ | .kfifo _ | .deviceNode _ => true
  | _ => false

/-- The callback of the socket makes nodes of the class and numbers; an open node leads to
    its cdev and its kfifo, which lie in the struct, as does the list of the chunks. -/
inductive Needs : Resource → Resource → Prop where
  | socketClass : Needs .socket .class_
  | socketNumber : Needs .socket .majorNumber
  | nodeClass (minor : Nat) : Needs (.deviceNode minor) .class_
  | nodeCdev (minor : Nat) : Needs (.deviceNode minor) (.cdev minor)
  | nodeKfifo (minor : Nat) : Needs (.deviceNode minor) (.kfifo minor)
  | cdevNumber (minor : Nat) : Needs (.cdev minor) .majorNumber
  | cdevStruct (minor : Nat) : Needs (.cdev minor) (.deviceStruct minor)
  | kfifoStruct (minor : Nat) : Needs (.kfifo minor) (.deviceStruct minor)
  | chunkKfifo (minor : Nat) : Needs (.chunk minor) (.kfifo minor)
  | chunkStruct (minor : Nat) : Needs (.chunk minor) (.deviceStruct minor)

def kernelRules : Rules Resource where
  exclusive r := r.single = true
  needs := Needs

/-- send_to_daemon. nlmsg_unicast takes the skb over, also when it fails; putFails says that
    noMemory is the failure of nlmsg_put. -/
def sendCalls (d : Driver) (outcome : SendOutcome) (putFails : Bool) : List (Entry Resource) :=
  if d.daemonPid = 0 then []
  else if outcome = .noMemory ∧ putFails = false then []
  else [.acquire .skb, .release .skb]

def freePendingCalls (minor : Nat) (dev : NcdDevice UInt8) : List (Entry Resource) :=
  List.replicate dev.pendingChunks.length (.release (.chunk minor))

def destroyCalls (minor : Nat) (dev : Device) : List (Entry Resource) :=
  .release (.deviceNode minor) :: freePendingCalls minor dev.buffers ++
    [.release (.kfifo minor), .release (.cdev minor)]

def registerRound (devices : Nat → Option Device) (minor : Nat) : List (Entry Resource) :=
  match devices minor with
  | some dev => if dev.inUse then destroyCalls minor dev else []
  | none => []

def registerCalls (d : Driver) : List (Entry Resource) :=
  if d.daemonPid ≠ 0 then (List.range ncdMaxDevices).flatMap (registerRound d.devices) else []

def initializeCalls (minor : Nat) : CreateOutcome → List (Entry Resource)
  | .cdevAdd => []
  | .kfifoAlloc => [.acquire (.cdev minor), .release (.cdev minor)]
  | .deviceCreate =>
    [.acquire (.cdev minor), .acquire (.kfifo minor), .release (.kfifo minor),
      .release (.cdev minor)]
  | _ => [.acquire (.cdev minor), .acquire (.kfifo minor), .acquire (.deviceNode minor)]

def createCalls (d : Driver) (pid minor : Nat) (name : List UInt8) (outcome : CreateOutcome) :
    List (Entry Resource) :=
  if d.admits pid minor name then
    match d.devices minor with
    | some _ => initializeCalls minor outcome
    | none =>
      if outcome = .kzalloc then []
      else .acquire (.deviceStruct minor) :: initializeCalls minor outcome
  else []

def destroyDevCalls (d : Driver) (pid minor : Nat) : List (Entry Resource) :=
  if pid = d.daemonPid then
    match d.known minor with
    | some dev => destroyCalls minor dev
    | none => []
  else []

/-- ncd_queue_pending_locked: the kmalloc of a chunk that passes the checks. -/
def queueCalls (minor : Nat) (dev : NcdDevice UInt8) (data : List UInt8) (memory : Bool) :
    List (Entry Resource) :=
  if data.length = 0 then []
  else if fifoSize < data.length then []
  else if fifoPendingLimit - data.length < dev.pendingBytes then []
  else if memory = false then []
  else [.acquire (.chunk minor)]

def recvCalls (minor : Nat) (dev : NcdDevice UInt8) (payload : List UInt8) (memory : Bool) :
    List (Entry Resource) :=
  if payload.length = 0 then []
  else if dev.pendingChunks ≠ [] ∨ dev.kfifoAvail < payload.length then
    queueCalls minor dev payload memory
  else []

def dataCalls (d : Driver) (pid minor : Nat) (payload : List UInt8) (memory : Bool)
    (outcome : SendOutcome) (putFails : Bool) : List (Entry Resource) :=
  if pid = d.daemonPid then
    match d.known minor with
    | some dev =>
      recvCalls minor dev.buffers payload memory ++
        if (recvData dev.buffers payload memory).2.shouldPause then sendCalls d outcome putFails
        else []
    | none => []
  else []

def drainCalls (minor : Nat) : List (List UInt8) → NcdDevice UInt8 → List (Entry Resource)
  | [], _ => []
  | chunk :: rest, dev =>
    if dev.kfifoAvail < chunk.length then []
    else .release (.chunk minor) :: drainCalls minor rest
      { (dev.kfifoIn chunk).1 with pendingBytes := dev.pendingBytes - chunk.length }

/-- ncd_read between the kmalloc and the kfree of its kbuf. -/
def readCalls (minor : Nat) (dev : NcdDevice UInt8) (count : Nat) : List (Entry Resource) :=
  .acquire .kbuf :: drainCalls minor dev.pendingChunks
    { dev with dataFifo := dev.dataFifo.drop (min count fifoSize) } ++ [.release .kbuf]

def ncdReadCalls (d : Driver) (i count : Nat) (outcome : SendOutcome) (putFails : Bool) :
    List (Entry Resource) :=
  match d.proc i .opened with
  | some (minor, dev) =>
    if dev.buffers.dataFifo = [] then sendCalls d outcome putFails
    else readCalls minor dev.buffers count ++
      if (ncdReadLocked dev.buffers count).2.2 then sendCalls d outcome putFails else []
  | none => []

def ncdWriteCalls (d : Driver) (bytes : List UInt8) (outcome : SendOutcome) (putFails : Bool) :
    List (Entry Resource) :=
  if bytes = [] then [] else .acquire .kbuf :: sendCalls d outcome putFails ++ [.release .kbuf]

def ncdOpenCalls (d : Driver) (i : Nat) : List (Entry Resource) :=
  match d.proc i .entering with
  | some (minor, dev) => if dev.openCount ≠ 0 then [] else freePendingCalls minor dev.buffers
  | none => []

def ncdReleaseCalls (d : Driver) (i : Nat) : List (Entry Resource) :=
  match d.proc i .releasing with
  | some (minor, dev) => freePendingCalls minor dev.buffers
  | none => []

def eventCalls (d : Driver) (putFails : Bool) : Event → List (Entry Resource)
  | .register _ => registerCalls d
  | .createDev pid minor name outcome => createCalls d pid minor name outcome
  | .destroyDev pid minor => destroyDevCalls d pid minor
  | .connRes _ _ _ => []
  | .data pid minor payload memory outcome =>
    dataCalls d pid minor payload memory outcome putFails
  | .lookup _ => []
  | .ncdOpen i => ncdOpenCalls d i
  | .sendOpenReq _ outcome => sendCalls d outcome putFails
  | .finishOpen _ => []
  | .interruptOpen _ => []
  | .ncdWrite _ bytes outcome => ncdWriteCalls d bytes outcome putFails
  | .ncdRead i count outcome => ncdReadCalls d i count outcome putFails
  | .sendCloseReq _ outcome => sendCalls d outcome putFails
  | .ncdRelease i => ncdReleaseCalls d i

inductive InitOutcome where
  | initialized
  | allocChrdevRegion
  | classCreate
  | netlinkKernelCreate
  deriving DecidableEq, Repr

def initCalls : InitOutcome → List (Entry Resource)
  | .initialized => [.acquire .majorNumber, .acquire .class_, .acquire .socket]
  | .allocChrdevRegion => []
  | .classCreate => [.acquire .majorNumber, .release .majorNumber]
  | .netlinkKernelCreate =>
    [.acquire .majorNumber, .acquire .class_, .release .class_, .release .majorNumber]

def exitRound (devices : Nat → Option Device) (minor : Nat) : List (Entry Resource) :=
  match devices minor with
  | some dev =>
    if dev.inUse then destroyCalls minor dev ++ [.release (.deviceStruct minor)] else []
  | none => []

def exitCalls (d : Driver) : List (Entry Resource) :=
  .release .socket :: (List.range ncdMaxDevices).flatMap (exitRound d.devices) ++
    [.release .class_, .release .majorNumber]

/-- The kernel as the module sees it. calls is the history. stranded counts the structs of a
    minor that ncd_exit has left behind. -/
structure Kernel where
  driver : Option Driver := none
  calls : List (Entry Resource) := []
  stranded : Nat → Nat := fun _ => 0

/-- readFails and writeFails: kbuf gets no memory, or the copy of its bytes from or to the
    user fails. -/
inductive Action where
  | ncdInit (outcome : InitOutcome)
  | ncdExit
  | event (event : Event) (putFails : Bool)
  | readFails (i count : Nat) (memory : Bool)
  | writeFails (i : Nat) (bytes : List UInt8) (memory : Bool)
  deriving DecidableEq, Repr

def Driver.idle (d : Driver) : Bool := d.procs.all fun p => p.pc = .gone

def spare : Option Device → Nat
  | some dev => if dev.inUse then 0 else 1
  | none => 0

/-- ncd_read whose copy_to_user fails: the bytes have left the kfifo. -/
def copyFails (d : Driver) (i count : Nat) : Option (Driver × List (Entry Resource)) :=
  (d.proc i .opened).bind fun (minor, dev) =>
    if dev.buffers.dataFifo = [] then none
    else some (d.setDevice minor { dev with buffers := (ncdReadLocked dev.buffers count).1 },
      readCalls minor dev.buffers count)

def readFails (d : Driver) (i count : Nat) (memory : Bool) :
    Option (Driver × List (Entry Resource)) :=
  if memory then copyFails d i count
  else (d.proc i .opened).bind fun (_, dev) =>
    if dev.buffers.dataFifo = [] then none else some (d, [])

def writeFails (d : Driver) (i : Nat) (bytes : List UInt8) (memory : Bool) :
    Option (Driver × List (Entry Resource)) :=
  (d.proc i .opened).bind fun _ =>
    if bytes = [] then none
    else some (d, if memory then [.acquire .kbuf, .release .kbuf] else [])

/-- The module is loaded once at a time, and held while a process is in it. -/
def Kernel.step (k : Kernel) : Action → Option Kernel
  | .ncdInit outcome =>
    match k.driver with
    | some _ => none
    | none =>
      some { k with
        driver := if outcome = .initialized then some loaded else none
        calls := k.calls ++ initCalls outcome }
  | .ncdExit =>
    k.driver.bind fun d =>
      if Driver.idle d then
        some
          { driver := none
            calls := k.calls ++ exitCalls d
            stranded := fun minor => k.stranded minor + spare (d.devices minor) }
      else none
  | .event event putFails =>
    k.driver.bind fun d => (d.step event).map fun d' =>
      { k with driver := some d', calls := k.calls ++ eventCalls d putFails event }
  | .readFails i count memory =>
    k.driver.bind fun d => (readFails d i count memory).map fun (d', calls) =>
      { k with driver := some d', calls := k.calls ++ calls }
  | .writeFails i bytes memory =>
    k.driver.bind fun d => (writeFails d i bytes memory).map fun (d', calls) =>
      { k with driver := some d', calls := k.calls ++ calls }

structure Base where
  majorNumber : Nat := 1
  class_ : Nat := 1
  socket : Nat := 1
  kbuf : Nat := 0

def taken : Option Device → Nat
  | some dev => if dev.inUse then 1 else 0
  | none => 0

def waiting : Option Device → Nat
  | some dev => dev.buffers.pendingChunks.length
  | none => 0

@[simp] theorem taken_none : taken none = 0 := rfl

@[simp] theorem waiting_none : waiting none = 0 := rfl

def ledger (base : Base) (stranded : Nat → Nat) (devices : Nat → Option Device) : Resource → Nat
  | .majorNumber => base.majorNumber
  | .class_ => base.class_
  | .socket => base.socket
  | .deviceStruct minor => stranded minor + (if (devices minor).isSome then 1 else 0)
  | .cdev minor => taken (devices minor)
  | .kfifo minor => taken (devices minor)
  | .deviceNode minor => taken (devices minor)
  | .chunk minor => waiting (devices minor)
  | .kbuf => base.kbuf
  | .skb => 0

/-- The table has no entry from NCD_MAX_DEVICES on; a device not in use has nothing pending. -/
structure Tidy (devices : Nat → Option Device) : Prop where
  bounded : ∀ minor, ncdMaxDevices ≤ minor → devices minor = none
  settled : ∀ minor dev, devices minor = some dev → dev.inUse = false →
    dev.buffers.pendingChunks = []

variable {base : Base} {stranded : Nat → Nat} {devices : Nat → Option Device} {minor : Nat}
  {dev dev' : Device}

theorem ledger_kbuf (n : Nat) :
    Function.update (ledger base stranded devices) .kbuf n =
      ledger { base with kbuf := n } stranded devices := by
  funext r
  cases r <;> simp [ledger]

theorem ledger_socket (n : Nat) :
    Function.update (ledger base stranded devices) .socket n =
      ledger { base with socket := n } stranded devices := by
  funext r
  cases r <;> simp [ledger]

theorem ledger_class (n : Nat) :
    Function.update (ledger base stranded devices) .class_ n =
      ledger { base with class_ := n } stranded devices := by
  funext r
  cases r <;> simp [ledger]

theorem ledger_majorNumber (n : Nat) :
    Function.update (ledger base stranded devices) .majorNumber n =
      ledger { base with majorNumber := n } stranded devices := by
  funext r
  cases r <;> simp [ledger]

theorem ledger_chunk (here : devices minor = some dev) (same : dev'.inUse = dev.inUse) :
    ledger base stranded (Function.update devices minor (some dev')) =
      Function.update (ledger base stranded devices) (.chunk minor)
        dev'.buffers.pendingChunks.length := by
  funext r
  cases r with
  | deviceStruct m | cdev m | kfifo m | deviceNode m | chunk m =>
    by_cases other : m = minor
    · subst other
      simp [ledger, taken, waiting, here, same]
    · simp [ledger, other]
  | _ => simp [ledger]

theorem ledger_same (here : devices minor = some dev) (same : dev'.inUse = dev.inUse)
    (pending : dev'.buffers.pendingChunks.length = dev.buffers.pendingChunks.length) :
    ledger base stranded (Function.update devices minor (some dev')) =
      ledger base stranded devices := by
  rw [ledger_chunk here same, Function.update_eq_self_iff, pending]
  simp [ledger, waiting, here]

theorem nothing_needs_chunk (r : Resource) : ¬Needs r (.chunk minor) := by
  intro needs
  cases needs

theorem leads_chunks (n : Nat) (here : devices minor = some dev) (same : dev'.inUse = dev.inUse)
    (few : n ≤ dev.buffers.pendingChunks.length)
    (left : dev'.buffers.pendingChunks.length = dev.buffers.pendingChunks.length - n) :
    kernelRules.Leads (ledger base stranded devices) (List.replicate n (.release (.chunk minor)))
      (ledger base stranded (Function.update devices minor (some dev'))) := by
  have held : ledger base stranded devices (.chunk minor) = dev.buffers.pendingChunks.length := by
    simp [ledger, waiting, here]
  have releases : kernelRules.Leads (ledger base stranded devices) _ _ :=
    leads_releases n (held.symm ▸ few)
      (fun t needs => absurd needs (nothing_needs_chunk t)) (nothing_needs_chunk _)
  rwa [held, ← left, ← ledger_chunk here same] at releases

theorem leads_chunk (here : devices minor = some dev) (used : dev.inUse = true)
    (same : dev'.inUse = dev.inUse)
    (more : dev'.buffers.pendingChunks.length = dev.buffers.pendingChunks.length + 1) :
    kernelRules.Leads (ledger base stranded devices) [.acquire (.chunk minor)]
      (ledger base stranded (Function.update devices minor (some dev'))) := by
  have held : ledger base stranded devices (.chunk minor) = dev.buffers.pendingChunks.length := by
    simp [ledger, waiting, here]
  refine .acquire (fun single => by cases single) (fun s needs => ?_) ?_
  · cases needs with
    | chunkKfifo => simp [ledger, taken, here, used]
    | chunkStruct => simp [ledger, here]
  · rw [held, ← more, ← ledger_chunk here same]
    exact leads_nil _

theorem leads_skb : kernelRules.Leads (ledger base stranded devices)
    [.acquire .skb, .release .skb] (ledger base stranded devices) := by
  refine .acquire (fun single => by cases single) (fun s needs => by cases needs)
    (.release (by simp) (fun t needs => by cases needs) ?_)
  rw [Function.update_idem, Function.update_self, Nat.add_sub_cancel, Function.update_eq_self]
  exact leads_nil _

theorem leads_send (d : Driver) (outcome : SendOutcome) (putFails : Bool) :
    kernelRules.Leads (ledger base stranded devices) (sendCalls d outcome putFails)
      (ledger base stranded devices) := by
  unfold sendCalls
  split
  · exact leads_nil _
  · split
    · exact leads_nil _
    · exact leads_skb

theorem leads_kbuf {calls : List (Entry Resource)} {devices' : Nat → Option Device}
    (within : kernelRules.Leads (ledger { base with kbuf := base.kbuf + 1 } stranded devices) calls
      (ledger { base with kbuf := base.kbuf + 1 } stranded devices')) :
    kernelRules.Leads (ledger base stranded devices) (.acquire .kbuf :: calls ++ [.release .kbuf])
      (ledger base stranded devices') := by
  rw [List.cons_append]
  refine .acquire (fun single => by cases single) (fun s needs => by cases needs) ?_
  rw [ledger_kbuf]
  refine within.append (.release (by simp [ledger]) (fun t needs => by cases needs) ?_)
  rw [ledger_kbuf]
  exact leads_nil _

theorem leads_destroy (here : devices minor = some dev) (used : dev.inUse = true) :
    kernelRules.Leads (ledger base stranded devices) (destroyCalls minor dev)
      (ledger base stranded (Function.update devices minor (some dev.destroyed))) := by
  have node : ledger base stranded devices (.deviceNode minor) = 1 := by
    simp [ledger, taken, here, used]
  have kfifo : ledger base stranded devices (.kfifo minor) = 1 := by
    simp [ledger, taken, here, used]
  have cdev : ledger base stranded devices (.cdev minor) = 1 := by
    simp [ledger, taken, here, used]
  have chunks : ledger base stranded devices (.chunk minor) = dev.buffers.pendingChunks.length := by
    simp [ledger, waiting, here]
  unfold destroyCalls
  rw [List.cons_append]
  refine .release (by simp [node]) (fun t needs => by cases needs) ?_
  refine (leads_releases dev.buffers.pendingChunks.length (by simp [chunks])
    (fun t needs => absurd needs (nothing_needs_chunk t)) (nothing_needs_chunk _)).append ?_
  refine .release (by simp [kfifo]) (fun t needs => ?_)
    (.release (by simp [cdev]) (fun t needs => ?_) ?_)
  · cases needs with
    | nodeKfifo => simp [node]
    | chunkKfifo => simp [chunks]
  · cases needs with
    | nodeCdev => simp [node]
  · refine ⟨trivial, ?_⟩
    funext r
    cases r with
    | deviceStruct m | cdev m | kfifo m | deviceNode m | chunk m =>
      by_cases other : m = minor
      · subst other
        simp [after, ledger, taken, waiting, here, used, Device.destroyed, ncdClearBuffers]
      · simp [after, ledger, other]
    | _ => simp [after, ledger]

/- CREATE_DEV from cdev_add on, for a slot whose device is not in use. -/
section
variable (here : devices minor = some dev) (unused : dev.inUse = false)
  (number : 0 < base.majorNumber)
include here unused

theorem parts_free : taken (devices minor) = 0 := by simp [taken, here, unused]

theorem ledger_stays (same : dev'.inUse = false) (empty : dev'.buffers.pendingChunks = [])
    (settled : dev.buffers.pendingChunks = []) :
    ledger base stranded (Function.update devices minor (some dev')) =
      ledger base stranded devices :=
  ledger_same here (same.trans unused.symm) (by rw [empty, settled])

include number

theorem leads_cdev {calls : List (Entry Resource)} {held : Resource → Nat}
    (next : kernelRules.Leads
      (Function.update (ledger base stranded devices) (.cdev minor) 1) calls held) :
    kernelRules.Leads (ledger base stranded devices) (.acquire (.cdev minor) :: calls) held := by
  have free := parts_free here unused
  refine .acquire (fun _ => free) (fun s needs => ?_) ?_
  · cases needs with
    | cdevNumber => exact number
    | cdevStruct => simp [ledger, here]
  · rwa [show ledger base stranded devices (.cdev minor) = 0 from free]

theorem leads_kfifo {calls : List (Entry Resource)} {held : Resource → Nat}
    (next : kernelRules.Leads (Function.update
      (Function.update (ledger base stranded devices) (.cdev minor) 1) (.kfifo minor) 1)
      calls held) :
    kernelRules.Leads (ledger base stranded devices)
      (.acquire (.cdev minor) :: .acquire (.kfifo minor) :: calls) held := by
  have free := parts_free here unused
  refine leads_cdev here unused number (.acquire (fun _ => ?_) (fun s needs => ?_) ?_)
  · simpa [ledger] using free
  · cases needs with
    | kfifoStruct => simp [ledger, here]
  · have kfifo : Function.update (ledger base stranded devices) (.cdev minor) 1
        (.kfifo minor) = 0 := by simpa [ledger] using free
    rwa [kfifo]

theorem leads_initialize (made : 0 < base.class_) (settled : dev.buffers.pendingChunks = [])
    (name : List UInt8) (outcome : CreateOutcome) :
    kernelRules.Leads (ledger base stranded devices) (initializeCalls minor outcome)
      (ledger base stranded
        (Function.update devices minor (some (dev.initialized name outcome)))) := by
  have free := parts_free here unused
  have created (dev' : Device) (used : dev'.inUse = true)
      (empty : dev'.buffers.pendingChunks = []) : kernelRules.Leads (ledger base stranded devices)
        [.acquire (.cdev minor), .acquire (.kfifo minor), .acquire (.deviceNode minor)]
        (ledger base stranded (Function.update devices minor (some dev'))) := by
    refine leads_kfifo here unused number (.acquire (fun _ => ?_) (fun s needs => ?_) ?_)
    · simpa [ledger] using free
    · cases needs with
      | nodeClass => simpa [ledger] using made
      | nodeCdev | nodeKfifo => simp
    · refine ⟨trivial, ?_⟩
      funext r
      cases r with
      | deviceStruct m | cdev m | kfifo m | deviceNode m | chunk m =>
        by_cases other : m = minor
        · subst other
          simp [after, ledger, taken, waiting, here, unused, used, empty, settled]
        · simp [after, ledger, other]
      | _ => simp [after, ledger]
  cases outcome with
  | created => exact created _ rfl rfl
  | kzalloc => exact created _ rfl rfl
  | cdevAdd =>
    have same : (dev.initialized name .cdevAdd).inUse = false := rfl
    rw [ledger_stays here unused same settled settled]
    exact leads_nil _
  | kfifoAlloc =>
    rw [ledger_stays here unused rfl rfl settled]
    refine leads_cdev here unused number (.release (by simp) (fun t needs => ?_) ⟨trivial, ?_⟩)
    · cases needs with
      | nodeCdev => simpa [ledger] using free
    · simpa [after, ledger] using free.symm
  | deviceCreate =>
    rw [ledger_stays here unused rfl rfl settled]
    refine leads_kfifo here unused number (.release (by simp) (fun t needs => ?_)
      (.release (by simp) (fun t needs => ?_) ⟨trivial, ?_⟩))
    · cases needs with
      | nodeKfifo => simpa [ledger] using free
      | chunkKfifo => simp [ledger, waiting, here, settled]
    · cases needs with
      | nodeCdev => simpa [ledger] using free
    · funext r
      cases r with
      | cdev m | kfifo m =>
        by_cases other : m = minor
        · subst other
          simpa [after, ledger] using free.symm
        · simp [after, ledger, other]
      | _ => simp [after, ledger]

end

structure Balanced (devices : Nat → Option Device) (calls : List (Entry Resource))
    (devices' : Nat → Option Device) : Prop where
  tidy : Tidy devices'
  leads : ∀ stranded, kernelRules.Leads (ledger {} stranded devices) calls
    (ledger {} stranded devices')

theorem tidy_update (tidy : Tidy devices) (small : minor < ncdMaxDevices)
    (settled : dev.inUse = false → dev.buffers.pendingChunks = []) :
    Tidy (Function.update devices minor (some dev)) := by
  refine ⟨fun m large => ?_, fun m dev' found unused => ?_⟩
  · rw [Function.update_of_ne (by omega)]
    exact tidy.bounded m large
  · by_cases same : m = minor
    · subst same
      cases (Function.update_self m (some dev) devices).symm.trans found
      exact settled unused
    · exact tidy.settled m dev' (by rwa [Function.update_of_ne same] at found) unused

theorem tidy_small (tidy : Tidy devices) (here : devices minor = some dev) :
    minor < ncdMaxDevices := by
  by_contra large
  exact absurd (here.symm.trans (tidy.bounded minor (Nat.le_of_not_lt large))) (by simp)

theorem balanced_nil (tidy : Tidy devices) : Balanced devices [] devices :=
  ⟨tidy, fun _ => leads_nil _⟩

theorem Balanced.append {devices' devices'' : Nat → Option Device}
    {calls calls' : List (Entry Resource)} (first : Balanced devices calls devices')
    (second : Balanced devices' calls' devices'') :
    Balanced devices (calls ++ calls') devices'' :=
  ⟨second.tidy, fun stranded => (first.leads stranded).append (second.leads stranded)⟩

theorem balanced_send (tidy : Tidy devices) (d : Driver) (outcome : SendOutcome)
    (putFails : Bool) : Balanced devices (sendCalls d outcome putFails) devices :=
  ⟨tidy, fun _ => leads_send d outcome putFails⟩

theorem balanced_same (tidy : Tidy devices) (here : devices minor = some dev)
    (same : dev'.inUse = dev.inUse)
    (pending : dev'.buffers.pendingChunks = dev.buffers.pendingChunks) :
    Balanced devices [] (Function.update devices minor (some dev')) := by
  refine ⟨tidy_update tidy (tidy_small tidy here) fun unused => ?_, fun stranded => ?_⟩
  · rw [pending]
    exact tidy.settled minor dev here (same.symm.trans unused)
  · rw [ledger_same here same (by rw [pending])]
    exact leads_nil _

theorem balanced_clear (tidy : Tidy devices) (here : devices minor = some dev)
    (same : dev'.inUse = dev.inUse) (empty : dev'.buffers.pendingChunks = []) :
    Balanced devices (freePendingCalls minor dev.buffers)
      (Function.update devices minor (some dev')) :=
  ⟨tidy_update tidy (tidy_small tidy here) fun _ => empty,
    fun _ => leads_chunks _ here same (Nat.le_refl _) (by simp [empty])⟩

theorem balanced_destroy (tidy : Tidy devices) (here : devices minor = some dev)
    (used : dev.inUse = true) : Balanced devices (destroyCalls minor dev)
      (Function.update devices minor (some dev.destroyed)) :=
  ⟨tidy_update tidy (tidy_small tidy here) fun _ => rfl, fun _ => leads_destroy here used⟩

theorem initialized_settled {dev : Device} {name : List UInt8} {outcome : CreateOutcome}
    (settled : dev.buffers.pendingChunks = []) :
    (dev.initialized name outcome).buffers.pendingChunks = [] := by
  cases outcome with
  | cdevAdd => exact settled
  | _ => rfl

theorem balanced_initialize (tidy : Tidy devices) (here : devices minor = some dev)
    (unused : dev.inUse = false) (name : List UInt8) (outcome : CreateOutcome) :
    Balanced devices (initializeCalls minor outcome)
      (Function.update devices minor (some (dev.initialized name outcome))) := by
  have settled := tidy.settled minor dev here unused
  exact ⟨tidy_update tidy (tidy_small tidy here) fun _ => initialized_settled settled,
    fun _ => leads_initialize here unused Nat.one_pos Nat.one_pos settled name outcome⟩

theorem balanced_kzalloc (tidy : Tidy devices) (small : minor < ncdMaxDevices)
    (empty : devices minor = none) :
    Balanced devices [.acquire (.deviceStruct minor)]
      (Function.update devices minor (some {})) := by
  refine ⟨tidy_update tidy small fun _ => rfl, fun stranded => ?_⟩
  refine .acquire (fun single => by cases single) (fun s needs => by cases needs) ⟨trivial, ?_⟩
  funext r
  cases r with
  | deviceStruct m | cdev m | kfifo m | deviceNode m | chunk m =>
    by_cases other : m = minor
    · subst other
      simp [after, ledger, taken, waiting, empty]
    · simp [after, ledger, other]
  | _ => simp [after, ledger]

theorem balanced_createDev {d : Driver} (tidy : Tidy d.devices) (pid minor : Nat)
    (name : List UInt8) (outcome : CreateOutcome) :
    Balanced d.devices (createCalls d pid minor name outcome)
      (d.createDev pid minor name outcome).devices := by
  unfold createCalls Driver.createDev
  split
  · rename_i admitted
    obtain ⟨_, _, small, unknown⟩ := admits_some admitted
    cases here : d.devices minor with
    | some dev =>
      have unused : dev.inUse = false := by
        simpa [Driver.known, Nat.not_le_of_lt small, here] using unknown
      exact balanced_initialize tidy here unused name outcome
    | none =>
      dsimp only
      split
      · exact balanced_nil tidy
      · have fresh := balanced_kzalloc tidy small here
        have next := balanced_initialize fresh.tidy (Function.update_self minor _ _) rfl name outcome
        rw [Function.update_idem] at next
        exact fresh.append next
  · exact balanced_nil tidy

theorem balanced_destroyDev {d : Driver} (tidy : Tidy d.devices) (pid minor : Nat) :
    Balanced d.devices (destroyDevCalls d pid minor) (d.destroyDev pid minor).devices := by
  unfold destroyDevCalls Driver.destroyDev
  split
  · cases known : d.known minor with
    | some dev =>
      obtain ⟨_, here, used⟩ := known_some known
      exact balanced_destroy tidy here used
    | none => exact balanced_nil tidy
  · exact balanced_nil tidy

def registered (devices : Nat → Option Device) (n minor : Nat) : Option Device :=
  (devices minor).map fun dev => if minor < n ∧ dev.inUse then dev.destroyed else dev

theorem registered_here (n : Nat) : registered devices n n = devices n := by
  cases here : devices n <;> simp [registered, here]

theorem balanced_round {n : Nat} (tidy : Tidy (registered devices n)) :
    Balanced (registered devices n) (registerRound devices n) (registered devices (n + 1)) := by
  have others (m : Nat) (other : m ≠ n) :
      registered devices (n + 1) m = registered devices n m := by
    have same : m < n + 1 ↔ m < n := by omega
    simp only [registered, same]
  unfold registerRound
  cases here : devices n with
  | none =>
    have same : registered devices (n + 1) = registered devices n := by
      funext m
      by_cases other : m = n
      · subst other
        simp [registered, here]
      · exact others m other
    rw [same]
    exact balanced_nil tidy
  | some dev =>
    have next (dev' : Device) (is : dev' = if dev.inUse then dev.destroyed else dev) :
        registered devices (n + 1) = Function.update (registered devices n) n (some dev') := by
      funext m
      by_cases other : m = n
      · subst other
        simp [registered, here, is]
      · rw [Function.update_of_ne other, others m other]
    dsimp only
    split
    · rename_i used
      rw [next dev.destroyed (by rw [if_pos used])]
      exact balanced_destroy tidy ((registered_here n).trans here) used
    · rename_i unused
      rw [next dev (by rw [if_neg unused]),
        Function.update_eq_self_iff.mpr ((registered_here n).trans here).symm]
      exact balanced_nil tidy

theorem registered_tidy (tidy : Tidy devices) (n : Nat) : Tidy (registered devices n) := by
  refine ⟨fun m large => by simp [registered, tidy.bounded m large], fun m dev found unused => ?_⟩
  obtain ⟨before, here, is⟩ := Option.map_eq_some_iff.mp found
  subst is
  split at unused
  · rename_i destroyed
    rw [if_pos destroyed]
    rfl
  · rename_i kept
    rw [if_neg kept]
    exact tidy.settled m before here unused

theorem balanced_register {d : Driver} (tidy : Tidy d.devices) (pid : Nat) :
    Balanced d.devices (registerCalls d) (d.register pid).devices := by
  unfold registerCalls Driver.register
  split
  · have first : registered d.devices 0 = d.devices := by
      funext m
      simp [registered]
    have last : registered d.devices ncdMaxDevices = fun minor =>
        (d.devices minor).map fun dev => if dev.inUse then dev.destroyed else dev := by
      funext m
      by_cases small : m < ncdMaxDevices
      · simp [registered, small]
      · simp [registered, tidy.bounded m (Nat.le_of_not_lt small)]
    refine ⟨last ▸ registered_tidy tidy _, fun stranded => ?_⟩
    have loop := leads_range _ (fun n => ledger {} stranded (registered d.devices n))
      ncdMaxDevices fun n _ => (balanced_round (registered_tidy tidy n)).leads stranded
    rwa [first, last] at loop
  · exact balanced_nil tidy

def exited (devices : Nat → Option Device) (n minor : Nat) : Option Device :=
  (devices minor).bind fun dev => if minor < n ∧ dev.inUse then none else some dev

theorem exited_here (n : Nat) : exited devices n n = devices n := by
  cases here : devices n <;> simp [exited, here]

theorem leads_kfree (here : devices minor = some dev) (unused : dev.inUse = false)
    (settled : dev.buffers.pendingChunks = []) :
    kernelRules.Leads (ledger base stranded devices) [.release (.deviceStruct minor)]
      (ledger base stranded (Function.update devices minor none)) := by
  have held : ledger base stranded devices (.deviceStruct minor) = stranded minor + 1 := by
    simp [ledger, here]
  refine .release (by simp [held]) (fun t needs => ?_) ⟨trivial, ?_⟩
  · cases needs with
    | cdevStruct | kfifoStruct => simp [ledger, taken, here, unused]
    | chunkStruct => simp [ledger, waiting, here, settled]
  · funext r
    cases r with
    | deviceStruct m | cdev m | kfifo m | deviceNode m | chunk m =>
      by_cases other : m = minor
      · subst other
        simp [after, ledger, taken, waiting, here, unused, settled]
      · simp [after, ledger, other]
    | _ => simp [after, ledger]

theorem leads_exitRound (n : Nat) :
    kernelRules.Leads (ledger base stranded (exited devices n)) (exitRound devices n)
      (ledger base stranded (exited devices (n + 1))) := by
  have others (m : Nat) (other : m ≠ n) : exited devices (n + 1) m = exited devices n m := by
    have same : m < n + 1 ↔ m < n := by omega
    simp only [exited, same]
  have next : exited devices (n + 1) = Function.update (exited devices n) n
      ((devices n).bind fun dev => if dev.inUse then none else some dev) := by
    funext m
    by_cases other : m = n
    · subst other
      simp [exited]
    · rw [Function.update_of_ne other, others m other]
  have here : exited devices n n = devices n := exited_here n
  rw [next]
  unfold exitRound
  cases found : devices n with
  | none =>
    rw [Option.bind_none, Function.update_eq_self_iff.mpr (here.trans found).symm]
    exact leads_nil _
  | some dev =>
    rw [Option.bind_some]
    dsimp only
    split
    · rename_i used
      have destroyed : kernelRules.Leads (ledger base stranded _) _ _ :=
        leads_destroy (here.trans found) used
      have freed := destroyed.append (leads_kfree (Function.update_self n _ _) rfl rfl)
      rwa [Function.update_idem] at freed
    · rw [Function.update_eq_self_iff.mpr (here.trans found).symm]
      exact leads_nil _

/-- ncd_exit leaves the structs of the devices that are not in use. -/
theorem leads_exit {d : Driver} (tidy : Tidy d.devices) :
    kernelRules.Leads (ledger {} stranded d.devices) (exitCalls d)
      (ledger ⟨0, 0, 0, 0⟩ (fun minor => stranded minor + spare (d.devices minor))
        fun _ => none) := by
  have first : exited d.devices 0 = d.devices := by
    funext m
    cases here : d.devices m <;> simp [exited, here]
  have last (m : Nat) (dev : Device) (found : exited d.devices ncdMaxDevices m = some dev) :
      d.devices m = some dev ∧ dev.inUse = false := by
    obtain ⟨before, here, kept⟩ := Option.bind_eq_some_iff.mp found
    split at kept
    · cases kept
    · rename_i out
      cases kept
      exact ⟨here, by simpa [tidy_small tidy here] using out⟩
  have none_taken (m : Nat) : taken (exited d.devices ncdMaxDevices m) = 0 := by
    cases found : exited d.devices ncdMaxDevices m with
    | none => rfl
    | some dev => simp [taken, (last m dev found).2]
  have none_waiting (m : Nat) : waiting (exited d.devices ncdMaxDevices m) = 0 := by
    cases found : exited d.devices ncdMaxDevices m with
    | none => rfl
    | some dev =>
      simp [waiting, tidy.settled m dev (last m dev found).1 (last m dev found).2]
  have loop := leads_range (exitRound d.devices)
    (fun n => ledger { socket := 0 } stranded (exited d.devices n)) ncdMaxDevices
    fun n _ => leads_exitRound n
  rw [first] at loop
  unfold exitCalls
  rw [List.cons_append]
  refine .release (by simp [ledger]) (fun t needs => by cases needs) ?_
  rw [ledger_socket]
  refine loop.append (.release (by simp [ledger]) (fun t needs => ?_)
    (.release (by simp [ledger]) (fun t needs => ?_) ⟨trivial, ?_⟩))
  · cases needs with
    | socketClass => rfl
    | nodeClass m => exact none_taken m
  · cases needs with
    | socketNumber => rfl
    | cdevNumber m => simpa [ledger] using none_taken m
  · funext r
    cases r with
    | deviceStruct m =>
      have same : (if (exited d.devices ncdMaxDevices m).isSome then 1 else 0) =
          spare (d.devices m) := by
        cases here : d.devices m with
        | none => simp [exited, here, spare]
        | some dev => cases used : dev.inUse <;>
            simp [exited, here, spare, used, tidy_small tidy here]
      simp [after, ledger, same]
    | cdev m | kfifo m | deviceNode m => simp [after, ledger, none_taken]
    | chunk m => simp [after, ledger, none_waiting]
    | _ => simp [after, ledger]

theorem balanced_recv (tidy : Tidy devices) (here : devices minor = some dev)
    (used : dev.inUse = true) (payload : List UInt8) (memory : Bool) :
    Balanced devices (recvCalls minor dev.buffers payload memory)
      (Function.update devices minor
        (some { dev with buffers := (recvData dev.buffers payload memory).1 })) := by
  have same {buffers : NcdDevice UInt8} (pending : buffers.pendingChunks = dev.buffers.pendingChunks) :
      Balanced devices [] (Function.update devices minor (some { dev with buffers := buffers })) :=
    balanced_same tidy here rfl pending
  unfold recvCalls recvData
  split
  · exact same rfl
  · split
    · unfold queueCalls ncdQueuePendingLocked
      split
      · exact same rfl
      · split
        · exact same rfl
        · split
          · exact same rfl
          · split
            · exact same rfl
            · refine ⟨tidy_update tidy (tidy_small tidy here) fun unused => ?_, fun _ => ?_⟩
              · exact absurd (unused.symm.trans used) (by simp)
              · exact leads_chunk here used rfl (by simp)
    · exact same rfl

theorem balanced_data {d : Driver} (tidy : Tidy d.devices) (pid minor : Nat)
    (payload : List UInt8) (memory : Bool) (outcome : SendOutcome) (putFails : Bool) :
    Balanced d.devices (dataCalls d pid minor payload memory outcome putFails)
      (d.data pid minor payload memory outcome).devices := by
  unfold dataCalls Driver.data
  split
  · cases known : d.known minor with
    | some dev =>
      obtain ⟨_, here, used⟩ := known_some known
      have received := balanced_recv tidy here used payload memory
      dsimp only
      split
      · rw [(send_keeps _ _ _ _).1]
        exact received.append (balanced_send received.tidy d outcome putFails)
      · rw [List.append_nil]
        exact received
    | none => exact balanced_nil tidy
  · exact balanced_nil tidy

theorem drainCalls_drained (minor : Nat) (chunks : List (List UInt8)) (dev : NcdDevice UInt8)
    (total : Nat) :
    (drainLoop chunks dev total).1.pendingChunks.length ≤ chunks.length ∧
      drainCalls minor chunks dev = List.replicate
        (chunks.length - (drainLoop chunks dev total).1.pendingChunks.length)
        (.release (.chunk minor)) := by
  induction chunks generalizing dev total with
  | nil => exact ⟨Nat.le_refl _, rfl⟩
  | cons chunk rest ih =>
    unfold drainLoop drainCalls
    split
    · simp
    · obtain ⟨fewer, calls⟩ := ih
        { (dev.kfifoIn chunk).1 with pendingBytes := dev.pendingBytes - chunk.length }
        (total + (dev.kfifoIn chunk).2)
      refine ⟨Nat.le_succ_of_le fewer, ?_⟩
      dsimp only
      rw [calls, ← List.replicate_succ, List.length_cons, Nat.succ_sub fewer]

theorem balanced_read (tidy : Tidy devices) (here : devices minor = some dev) (count : Nat) :
    Balanced devices (readCalls minor dev.buffers count)
      (Function.update devices minor
        (some { dev with buffers := (ncdReadLocked dev.buffers count).1 })) := by
  obtain ⟨fewer, calls⟩ := drainCalls_drained minor dev.buffers.pendingChunks
    { dev.buffers with dataFifo := dev.buffers.dataFifo.drop (min count fifoSize) } 0
  have pending : (ncdReadLocked dev.buffers count).1.pendingChunks =
      (drainLoop dev.buffers.pendingChunks
        { dev.buffers with
          dataFifo := dev.buffers.dataFifo.drop (min count fifoSize) } 0).1.pendingChunks := by
    unfold ncdReadLocked ncdDrainPendingLocked
    dsimp only
    split <;> rfl
  refine ⟨tidy_update tidy (tidy_small tidy here) fun unused => ?_, fun stranded => ?_⟩
  · have shorter := ncdReadLocked_suffix dev.buffers count
    rw [tidy.settled minor dev here unused] at shorter
    exact List.suffix_nil.mp shorter
  · unfold readCalls
    rw [calls]
    exact leads_kbuf (leads_chunks _ here rfl (Nat.sub_le _ _)
      (by rw [pending, Nat.sub_sub_self fewer]))

theorem balanced_ncdRead {d d' : Driver} {i count : Nat} {outcome : SendOutcome}
    (tidy : Tidy d.devices) (step : d.ncdRead i count outcome = some d') (putFails : Bool) :
    Balanced d.devices (ncdReadCalls d i count outcome putFails) d'.devices := by
  obtain ⟨⟨minor, dev⟩, here, is⟩ := Option.map_eq_some_iff.mp step
  unfold ncdReadCalls
  rw [here]
  obtain ⟨_, device⟩ := proc_some here
  dsimp only at is ⊢
  split at is
  · rename_i empty
    rw [if_pos empty, ← is, (send_keeps _ _ _ _).1]
    exact balanced_send tidy d outcome putFails
  · rename_i data
    rw [if_neg data]
    have read := balanced_read tidy device count
    split at is
    · rename_i resumes
      rw [if_pos resumes, ← is, (send_keeps _ _ _ _).1]
      exact read.append (balanced_send read.tidy d outcome putFails)
    · rename_i stays
      rw [if_neg stays, ← is, List.append_nil]
      exact read

theorem balanced_ncdWrite {d d' : Driver} {i : Nat} {bytes : List UInt8} {outcome : SendOutcome}
    (tidy : Tidy d.devices) (step : d.ncdWrite i bytes outcome = some d') (putFails : Bool) :
    Balanced d.devices (ncdWriteCalls d bytes outcome putFails) d'.devices := by
  obtain ⟨⟨minor, dev⟩, _, is⟩ := Option.map_eq_some_iff.mp step
  unfold ncdWriteCalls
  dsimp only at is
  split at is
  · rename_i nothing
    rw [if_pos nothing, ← is]
    exact balanced_nil tidy
  · rename_i nonempty
    rw [if_neg nonempty, ← is, (send_keeps _ _ _ _).1]
    exact ⟨tidy, fun _ => leads_kbuf (leads_send d outcome putFails)⟩

theorem balanced_ncdOpen {d d' : Driver} {i : Nat} (tidy : Tidy d.devices)
    (step : d.ncdOpen i = some d') : Balanced d.devices (ncdOpenCalls d i) d'.devices := by
  obtain ⟨⟨minor, dev⟩, here, is⟩ := Option.map_eq_some_iff.mp step
  unfold ncdOpenCalls
  rw [here]
  obtain ⟨_, device⟩ := proc_some here
  dsimp only at is ⊢
  split at is
  · rename_i busy
    rw [if_pos busy, ← is]
    exact balanced_nil tidy
  · rename_i free
    rw [if_neg free, ← is]
    exact balanced_clear tidy device rfl rfl

theorem balanced_ncdRelease {d d' : Driver} {i : Nat} (tidy : Tidy d.devices)
    (step : d.ncdRelease i = some d') : Balanced d.devices (ncdReleaseCalls d i) d'.devices := by
  obtain ⟨⟨minor, dev⟩, here, is⟩ := Option.map_eq_some_iff.mp step
  unfold ncdReleaseCalls
  rw [here, ← is]
  exact balanced_clear tidy (proc_some here).2 rfl rfl

theorem balanced_sendOpenReq {d d' : Driver} {i : Nat} {outcome : SendOutcome}
    (tidy : Tidy d.devices) (step : d.sendOpenReq i outcome = some d') (putFails : Bool) :
    Balanced d.devices (sendCalls d outcome putFails) d'.devices := by
  obtain ⟨⟨minor, dev⟩, here, is⟩ := Option.map_eq_some_iff.mp step
  have send := balanced_send tidy d outcome putFails
  dsimp only at is
  split at is
  · rw [← is, setPc_devices, (send_keeps _ _ _ _).1]
    exact send
  · rw [← is, setPc_devices, setDevice_devices, (send_keeps _ _ _ _).1, ← List.append_nil (sendCalls _ _ _)]
    exact send.append (balanced_same tidy (proc_some here).2 rfl rfl)

theorem balanced_finishOpen {d d' : Driver} {i : Nat} (tidy : Tidy d.devices)
    (step : d.finishOpen i = some d') : Balanced d.devices [] d'.devices := by
  obtain ⟨⟨minor, dev⟩, here, is⟩ := Option.bind_eq_some_iff.mp step
  dsimp only at is
  split at is
  · cases is
  · cases is
    exact balanced_nil tidy
  · cases is
    exact balanced_same tidy (proc_some here).2 rfl rfl

theorem balanced_connRes {d : Driver} (tidy : Tidy d.devices) (pid minor : Nat)
    (success : Bool) : Balanced d.devices [] (d.connRes pid minor success).devices := by
  unfold Driver.connRes
  split
  · cases known : d.known minor with
    | some dev => exact balanced_same tidy (known_some known).2.1 rfl rfl
    | none => exact balanced_nil tidy
  · exact balanced_nil tidy

/-- Every event of the driver takes and gives back what its table then says. -/
theorem balanced_event {d d' : Driver} {event : Event} (tidy : Tidy d.devices)
    (step : d.step event = some d') (putFails : Bool) :
    Balanced d.devices (eventCalls d putFails event) d'.devices := by
  cases event with
  | register pid =>
    obtain ⟨_, is⟩ := Option.ite_none_left_eq_some.mp step
    cases is
    exact balanced_register tidy pid
  | createDev pid minor name outcome =>
    obtain ⟨_, is⟩ := Option.ite_none_left_eq_some.mp step
    cases is
    exact balanced_createDev tidy pid minor name outcome
  | destroyDev pid minor =>
    obtain ⟨_, is⟩ := Option.ite_none_left_eq_some.mp step
    cases is
    exact balanced_destroyDev tidy pid minor
  | connRes pid minor success =>
    obtain ⟨_, is⟩ := Option.ite_none_left_eq_some.mp step
    cases is
    exact balanced_connRes tidy pid minor success
  | data pid minor payload memory outcome =>
    obtain ⟨_, is⟩ := Option.ite_none_left_eq_some.mp step
    cases is
    exact balanced_data tidy pid minor payload memory outcome putFails
  | lookup minor =>
    simp only [Driver.step] at step
    split at step
    · cases step
      exact balanced_nil tidy
    · cases step
  | ncdOpen i => exact balanced_ncdOpen tidy step
  | sendOpenReq i outcome => exact balanced_sendOpenReq tidy step putFails
  | finishOpen i => exact balanced_finishOpen tidy step
  | interruptOpen i =>
    obtain ⟨⟨minor, dev⟩, here, is⟩ := Option.map_eq_some_iff.mp step
    rw [← is]
    exact balanced_same tidy (proc_some here).2 rfl rfl
  | ncdWrite i bytes outcome => exact balanced_ncdWrite tidy step putFails
  | ncdRead i count outcome => exact balanced_ncdRead tidy step putFails
  | sendCloseReq i outcome =>
    obtain ⟨⟨minor, dev⟩, here, is⟩ := Option.map_eq_some_iff.mp step
    rw [← is, setPc_devices, (send_keeps _ _ _ _).1]
    exact balanced_send tidy d outcome putFails
  | ncdRelease i => exact balanced_ncdRelease tidy step

theorem balanced_readFails {d d' : Driver} {i count : Nat} {memory : Bool}
    {calls : List (Entry Resource)} (tidy : Tidy d.devices)
    (step : readFails d i count memory = some (d', calls)) :
    Balanced d.devices calls d'.devices := by
  unfold readFails at step
  split at step
  · obtain ⟨⟨minor, dev⟩, here, is⟩ := Option.bind_eq_some_iff.mp step
    obtain ⟨_, is⟩ := Option.ite_none_left_eq_some.mp is
    cases is
    exact balanced_read tidy (proc_some here).2 count
  · obtain ⟨⟨minor, dev⟩, here, is⟩ := Option.bind_eq_some_iff.mp step
    obtain ⟨_, is⟩ := Option.ite_none_left_eq_some.mp is
    cases is
    exact balanced_nil tidy

theorem balanced_writeFails {d d' : Driver} {i : Nat} {bytes : List UInt8} {memory : Bool}
    {calls : List (Entry Resource)} (tidy : Tidy d.devices)
    (step : writeFails d i bytes memory = some (d', calls)) :
    Balanced d.devices calls d'.devices := by
  obtain ⟨_, _, is⟩ := Option.bind_eq_some_iff.mp step
  obtain ⟨_, is⟩ := Option.ite_none_left_eq_some.mp is
  cases is
  split
  · exact ⟨tidy, fun _ => leads_kbuf (leads_nil _)⟩
  · exact balanced_nil tidy

/-- What the module should hold: the ledger of its table, or the stranded structs alone. -/
def Kernel.expected (k : Kernel) : Resource → Nat :=
  match k.driver with
  | some d => ledger {} k.stranded d.devices
  | none => ledger ⟨0, 0, 0, 0⟩ k.stranded fun _ => none

structure Accounted (k : Kernel) : Prop where
  tidy : ∀ d, k.driver = some d → Tidy d.devices
  leads : kernelRules.Leads (fun _ => 0) k.calls k.expected

theorem accounted_event {k : Kernel} {d d' : Driver} {calls : List (Entry Resource)}
    (accounted : Accounted k) (here : k.driver = some d)
    (balanced : Balanced d.devices calls d'.devices) :
    Accounted { k with driver := some d', calls := k.calls ++ calls } := by
  refine ⟨fun e is => ?_, ?_⟩
  · cases is
    exact balanced.tidy
  · have before := accounted.leads
    rw [Kernel.expected, here] at before
    exact before.append (balanced.leads k.stranded)

theorem tidy_loaded : Tidy loaded.devices :=
  ⟨fun _ _ => rfl, fun _ _ found => by cases found⟩

/-- ncd_init undoes what it has done when a later call fails. -/
theorem leads_init (stranded : Nat → Nat) (outcome : InitOutcome) :
    kernelRules.Leads (ledger ⟨0, 0, 0, 0⟩ stranded fun _ => none) (initCalls outcome)
      (if outcome = .initialized then ledger {} stranded loaded.devices
      else ledger ⟨0, 0, 0, 0⟩ stranded fun _ => none) := by
  cases outcome with
  | initialized =>
    refine .acquire (fun _ => rfl) (fun s needs => by cases needs) ?_
    rw [ledger_majorNumber]
    refine .acquire (fun _ => rfl) (fun s needs => by cases needs) ?_
    rw [ledger_class]
    refine .acquire (fun _ => rfl) (fun s needs => ?_) ?_
    · cases needs <;> exact Nat.one_pos
    · rw [ledger_socket]
      exact leads_nil _
  | allocChrdevRegion => exact leads_nil _
  | classCreate =>
    refine .acquire (fun _ => rfl) (fun s needs => by cases needs) ?_
    rw [ledger_majorNumber]
    refine .release Nat.one_pos (fun t needs => by cases needs <;> rfl) ?_
    rw [ledger_majorNumber]
    exact leads_nil _
  | netlinkKernelCreate =>
    refine .acquire (fun _ => rfl) (fun s needs => by cases needs) ?_
    rw [ledger_majorNumber]
    refine .acquire (fun _ => rfl) (fun s needs => by cases needs) ?_
    rw [ledger_class]
    refine .release Nat.one_pos (fun t needs => by cases needs <;> rfl) ?_
    rw [ledger_class]
    refine .release Nat.one_pos (fun t needs => by cases needs <;> rfl) ?_
    rw [ledger_majorNumber]
    exact leads_nil _

theorem step_accounted {k k' : Kernel} {action : Action} (accounted : Accounted k)
    (step : k.step action = some k') : Accounted k' := by
  cases action with
  | ncdInit outcome =>
    simp only [Kernel.step] at step
    split at step
    · cases step
    · rename_i unloaded
      cases step
      have before := accounted.leads
      rw [Kernel.expected, unloaded] at before
      refine ⟨fun d is => ?_, ?_⟩
      · dsimp only at is
        split at is
        · cases is
          exact tidy_loaded
        · cases is
      · have next := before.append (leads_init k.stranded outcome)
        unfold Kernel.expected
        dsimp only
        split at next
        · rename_i initialized
          rw [if_pos initialized]
          exact next
        · rename_i failed
          rw [if_neg failed]
          exact next
  | ncdExit =>
    obtain ⟨d, here, is⟩ := Option.bind_eq_some_iff.mp step
    obtain ⟨_, is⟩ := Option.ite_none_right_eq_some.mp is
    cases is
    have before := accounted.leads
    rw [Kernel.expected, here] at before
    exact ⟨by simp, before.append (leads_exit (accounted.tidy d here))⟩
  | event event putFails =>
    obtain ⟨d, here, is⟩ := Option.bind_eq_some_iff.mp step
    obtain ⟨d', moved, is⟩ := Option.map_eq_some_iff.mp is
    cases is
    exact accounted_event accounted here (balanced_event (accounted.tidy d here) moved putFails)
  | readFails i count memory =>
    obtain ⟨d, here, is⟩ := Option.bind_eq_some_iff.mp step
    obtain ⟨⟨d', calls⟩, moved, is⟩ := Option.map_eq_some_iff.mp is
    cases is
    exact accounted_event accounted here (balanced_readFails (accounted.tidy d here) moved)
  | writeFails i bytes memory =>
    obtain ⟨d, here, is⟩ := Option.bind_eq_some_iff.mp step
    obtain ⟨⟨d', calls⟩, moved, is⟩ := Option.map_eq_some_iff.mp is
    cases is
    exact accounted_event accounted here (balanced_writeFails (accounted.tidy d here) moved)

theorem accounted_boot : Accounted {} := by
  refine ⟨nofun, trivial, ?_⟩
  funext r
  cases r <;> rfl

/-- In every run over any number of loads, the driver releases only what it holds and nothing
    still needs; while it is loaded it holds what its table has, and once it is unloaded only
    the structs of the devices that were not in use when it was. -/
theorem resources_balance {k : Kernel} (run : Reaches Kernel.step Any {} k) :
    kernelRules.Legal (fun _ => 0) k.calls ∧
      (∀ past rest, k.calls = past ++ rest → kernelRules.Lawful (after (fun _ => 0) past)) ∧
      (∀ d, k.driver = some d →
        after (fun _ => 0) k.calls = ledger {} k.stranded d.devices) ∧
      (k.driver = none → ∀ r, after (fun _ => 0) k.calls r =
        match r with
        | .deviceStruct minor => k.stranded minor
        | _ => 0) := by
  have accounted := run.keeps (fun good _ step => step_accounted good step) accounted_boot
  have legal := accounted.leads.legal
  have ends := accounted.leads.ends
  refine ⟨legal, fun past rest is => ?_, fun d here => ?_, fun unloaded r => ?_⟩
  · rw [is] at legal
    exact legal_lawful (lawful_empty _) legal
  · rw [ends, Kernel.expected, here]
  · rw [ends, Kernel.expected, unloaded]
    cases r <;> rfl

/-- A device is created and destroyed before the module is unloaded. -/
def destroyedFirst : List Action :=
  [.ncdInit .initialized, .event (.register 7) false,
    .event (.createDev 7 3 [101, 48] .created) false, .event (.destroyDev 7 3) false, .ncdExit]

theorem destroyed_device_strands : ∃ k, exec Kernel.step {} destroyedFirst = some k ∧
    k.driver = none ∧ after (fun _ => 0) k.calls (.deviceStruct 3) = 1 ∧
    after (fun _ => 0) k.calls (.kfifo 3) = 0 := by
  refine ⟨_, rfl, rfl, ?_⟩
  have balance := (resources_balance (reaches_of_exec destroyedFirst rfl)).2.2.2 rfl
  exact ⟨balance (.deviceStruct 3), balance (.kfifo 3)⟩

end NcdResources
