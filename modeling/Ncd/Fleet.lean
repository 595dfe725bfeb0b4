import Ncd.Isolation
import Ncd.Pipeline
import Ncd.Registry
import Ncd.Simulations

/- All devices of one daemon: the main loop serves them one message at a time, over one
   netlink socket and one tcp channel, and finds the device by the minor in the message. -/
namespace NcdFleet
open NcdDriver NcdDaemon NcdFlowControl NcdSessions LabelledRuns Simulations
open NcdPipeline (command_none)
open NcdIsolation (Isolated leaks step_tagged created_tagged)

/-- One minor: its ncd_device and the process that has it open, its entries in the vectors of
    the main loop, and its Device with the actors of its connections. -/
structure Cell where
  dev : NcdDevice TaggedByte := {}
  reader : ReaderPc TaggedByte := .idle
  dropped : Bool := false
  user : UserPc := .closed
  connStatus : ConnStatus := .waiting
  session : Nat := 0
  returned : List (Nat × TaggedByte) := []
  minor : Minor TaggedByte := {}
  writeTx : Option Nat := none
  actors : List Actor := []

/-- The device as the model of its sessions has it. -/
def Cell.under (c : Cell) (daemon : DaemonPc TaggedByte) (queue : List DriverMsg)
    (tcp : List (List TaggedByte)) : Sessions :=
  { flow :=
      { dev := c.dev
        reader := c.reader
        minor := c.minor
        daemon := daemon
        queue := queue
        dropped := c.dropped }
    user := c.user
    connStatus := c.connStatus
    session := c.session
    actors := c.actors
    writeTx := c.writeTx
    tcp := tcp
    returned := c.returned }

def Cell.of (s : Sessions) : Cell :=
  { dev := s.flow.dev
    reader := s.flow.reader
    dropped := s.flow.dropped
    user := s.user
    connStatus := s.connStatus
    session := s.session
    returned := s.returned
    minor := s.flow.minor
    writeTx := s.writeTx
    actors := s.actors }

/-- queue is what waits at the daemon's socket, tcp what waits in tcp_rx, both with the minor
    that the message carries. serving is the minor of the arm that runs. crashed: the main loop
    has indexed a vector out of range. -/
structure Fleet where
  count : Nat
  cells : Nat → Cell := fun _ => {}
  queue : List (Nat × DriverMsg) := []
  tcp : List (Nat × List TaggedByte) := []
  daemon : DaemonPc TaggedByte := .select
  serving : Nat := 0
  crashed : Bool := false

def minorByte (minor : Nat) : Nat := minor % 256

/-- The driver has a device of this minor: it was configured, and CREATE_DEV took it. -/
def Fleet.has (f : Fleet) (minor : Nat) : Bool :=
  minor < f.count && minor < NcdRegistry.ncdMaxDevices

def Fleet.setCell (f : Fleet) (minor : Nat) (c : Cell) : Fleet :=
  { f with cells := Function.update f.cells minor c }

def ofDriver : SessionEvent → Bool
  | .ncdOpen | .sendOpenReq _ | .finishOpen | .interruptOpen | .ncdWrite _ | .sendCloseReq _
  | .ncdRelease => true
  | .flow event =>
    match event with
    | .read _ | .lock _ | .sendResume | .wake | .signal | .copy _ | .resume => true
    | _ => false
  | _ => false

/-- The functions of the driver work on their own struct ncd_device, and what they send carries
    its minor. -/
def Fleet.driver (f : Fleet) (minor : Nat) (event : SessionEvent) : Option Fleet :=
  if f.has minor && ofDriver event then
    (((f.cells minor).under .select [] []).step event).map fun after =>
      { f.setCell minor (.of after) with
        queue := f.queue ++ after.flow.queue.map (minor, ·) }
  else none

def Cell.accepts (c : Cell) : Bool :=
  match c.writeTx.bind (c.actors[·]?) with
  | some actor => actor.phase ≠ .finished
  | none => false

def Cell.command (c : Cell) (command : Option WriteCommand) : Cell :=
  match c.writeTx, command with
  | some index, some command =>
    { c with
      actors := c.actors.modify index fun actor =>
        { actor with commands := actor.commands ++ [command] } }
  | _, _ => c

def Cell.sync (c : Cell) (kfifoPaused : Bool) : Cell :=
  let synced := c.minor.syncDeviceReading kfifoPaused c.accepts
  { c.command synced.2 with minor := synced.1 }

def Cell.kfifoPaused (c : Cell) : Arm → Bool
  | .available => false
  | .tcp => c.minor.paused

/-- The arm of a message of the kernel, for a minor in range. -/
def Fleet.arm (f : Fleet) (minor : Nat) : DriverMsg → Fleet
  | .openReq session =>
    let c := f.cells minor
    { f.setCell minor { c with minor := c.minor.cleared } with
      daemon := .opening session, serving := minor }
  | .data bytes => f.setCell minor ((f.cells minor).command (some (.data bytes)))
  | .closeReq =>
    let c := (f.cells minor).command (some .close)
    f.setCell minor { c with writeTx := none, minor := c.minor.cleared }
  | .full =>
    let c := f.cells minor
    f.setCell minor ({ c with minor := { c.minor with paused := true } }.sync true)
  | .available =>
    let c := f.cells minor
    { f.setCell minor { c with minor := { c.minor with paused := false, inflight := 0 } } with
      daemon := .flushing .available, serving := minor }

/-- recv_from_kernel, and the arm of what it returns. -/
def Fleet.kernel (f : Fleet) : Option Fleet :=
  match f.daemon, f.queue with
  | .select, (minor, message) :: rest =>
    let f := { f with queue := rest }
    if f.count ≤ minor then some { f with crashed := true } else some (f.arm minor message)
  | _, _ => none

def Fleet.connect (f : Fleet) (success : Bool) : Option Fleet :=
  match f.daemon with
  | .opening session =>
    let c := f.cells f.serving
    if success then
      some { f.setCell f.serving
          { c with actors := c.actors ++ [{ session := session }], writeTx := some c.actors.length }
        with daemon := .answering true }
    else some { f with daemon := .answering false }
  | _ => none

def Fleet.connRes (f : Fleet) : Option Fleet :=
  match f.daemon with
  | .answering success =>
    let minor := minorByte f.serving
    some { f.setCell minor
        { f.cells minor with connStatus := if success then .success else .failed }
      with daemon := .select }
  | _ => none

def Fleet.flush (f : Fleet) : Option Fleet :=
  match f.daemon with
  | .flushing arm =>
    let c := f.cells f.serving
    match c.minor.nextChunk with
    | some (chunk, minor) =>
      some { f.setCell f.serving { c with minor := minor } with daemon := .sending chunk arm }
    | none =>
      some { f.setCell f.serving (c.sync (c.kfifoPaused arm)) with daemon := .select }
  | _ => none

/-- The critical section of the DATA handler, for the minor in the message. -/
def Fleet.data (f : Fleet) (memory : Bool) : Option Fleet :=
  match f.daemon with
  | .sending chunk arm =>
    let minor := minorByte f.serving
    let c := f.cells minor
    if lockFree c.reader then
      let received := recvData c.dev chunk memory
      let f := f.setCell minor
        { c with dev := received.1, dropped := c.dropped || received.2.dropped }
      if received.2.shouldPause then some { f with daemon := .notifying chunk arm }
      else
        let c := f.cells f.serving
        some { f.setCell f.serving { c with minor := c.minor.sent chunk } with
          daemon := .flushing arm }
    else none
  | _ => none

def Fleet.full (f : Fleet) : Option Fleet :=
  match f.daemon with
  | .notifying chunk arm =>
    let c := f.cells f.serving
    some { f.setCell f.serving { c with minor := c.minor.sent chunk } with
      queue := f.queue ++ [(minorByte f.serving, .full)], daemon := .flushing arm }
  | _ => none

def Fleet.takeTcp (f : Fleet) : Option Fleet :=
  match f.daemon, f.tcp with
  | .select, (minor, data) :: rest =>
    let f := { f with tcp := rest }
    if f.count ≤ minor then some { f with crashed := true }
    else
      let c := f.cells minor
      some { f.setCell minor { c with
          minor := { c.minor with pending := queueShards c.minor.pending data } }
        with daemon := .flushing .tcp, serving := minor }
  | _, _ => none

def Fleet.actor (f : Fleet) (minor index : Nat) (event : ActorEvent) : Option Fleet :=
  let c := f.cells minor
  match c.actors[index]? with
  | some actor =>
    (actor.step (c.writeTx = some index) event).map fun after =>
      { f.setCell minor { c with actors := c.actors.set index after } with
        tcp := f.tcp ++ (forwarded actor.session event).map (minorByte minor, ·) }
  | none => none

inductive FleetEvent where
  | driver (minor : Nat) (event : SessionEvent)
  | kernel
  | connect (success : Bool)
  | connRes
  | flush
  | data (memory : Bool)
  | full
  | tcp
  | actor (minor index : Nat) (event : ActorEvent)
  deriving DecidableEq, Repr

/-- The main loop does nothing more once it has panicked. -/
def Fleet.step (f : Fleet) : FleetEvent → Option Fleet
  | .driver minor event => f.driver minor event
  | .kernel => if f.crashed then none else f.kernel
  | .connect success => f.connect success
  | .connRes => f.connRes
  | .flush => f.flush
  | .data memory => f.data memory
  | .full => f.full
  | .tcp => if f.crashed then none else f.takeTcp
  | .actor minor index event => f.actor minor index event

def started (count : Nat) : Fleet := { count := count }

def channel {β : Type} (minor : Nat) (messages : List (Nat × β)) : List β :=
  messages.filterMap fun message => if message.1 = minor then some message.2 else none

/-- One device of the fleet, as if it were alone. -/
def Fleet.view (f : Fleet) (minor : Nat) : Sessions :=
  (f.cells minor).under (if f.serving = minor then f.daemon else .select)
    (channel minor f.queue) (channel minor f.tcp)

theorem channel_append {β : Type} (minor : Nat) (messages more : List (Nat × β)) :
    channel minor (messages ++ more) = channel minor messages ++ channel minor more :=
  List.filterMap_append

theorem channel_own {β : Type} (minor : Nat) (messages : List β) :
    channel minor (messages.map (minor, ·)) = messages := by
  simp [channel]

theorem channel_other {β : Type} {minor other : Nat} (apart : other ≠ minor)
    (messages : List β) : channel minor (messages.map (other, ·)) = [] := by
  simp [channel, apart]

theorem channel_first {β : Type} (minor : Nat) (message : β) (rest : List (Nat × β)) :
    channel minor ((minor, message) :: rest) = message :: channel minor rest := by
  simp [channel]

theorem channel_skips {β : Type} {minor other : Nat} (apart : other ≠ minor) (message : β)
    (rest : List (Nat × β)) : channel minor ((other, message) :: rest) = channel minor rest := by
  simp [channel, apart]

@[simp] theorem of_under (c : Cell) (daemon : DaemonPc TaggedByte) (queue : List DriverMsg)
    (tcp : List (List TaggedByte)) : Cell.of (c.under daemon queue tcp) = c := rfl

def Sends (c : Cell) (event : SessionEvent) (after : Cell) (sent : List DriverMsg) : Prop :=
  ∀ daemon queue tcp,
    (c.under daemon queue tcp).step event = some (after.under daemon (queue ++ sent) tcp)

theorem reader_flow {s s' : Flow TaggedByte} {event : FlowEvent TaggedByte}
    (own : ofDriver (.flow event) = true)
    (step : { s with daemon := .select, queue := [] }.step event = some s') :
    s.step event = some { s' with daemon := s.daemon, queue := s.queue ++ s'.queue } := by
  cases event with
  | read count =>
    simp only [Flow.step] at step ⊢
    split at step <;> cases step
    simp [*]
  | lock memory =>
    simp only [Flow.step, Flow.lock] at step ⊢
    split at step
    · split at step
      · cases step
        simp [*]
      · split at step <;> cases step <;> simp [*]
    · cases step
  | wake =>
    simp only [Flow.step] at step ⊢
    split at step
    · split at step <;> cases step
      simp [*]
    · cases step
  | sendResume | signal | copy | resume =>
    simp only [Flow.step] at step ⊢
    split at step <;> cases step
    simp [*]
  | kfifo | tcp | flush | data | full => cases own

theorem reader_silent (s : Flow TaggedByte) {event : FlowEvent TaggedByte}
    (own : ofDriver (.flow event) = true) : s.command event = none := by
  cases event <;> first | rfl | cases own

theorem driver_sends {c : Cell} {event : SessionEvent} {after : Sessions}
    (own : ofDriver event = true) (step : (c.under .select [] []).step event = some after) :
    Sends c event (.of after) after.flow.queue := by
  intro daemon queue tcp
  apply move_session
  have nothing {after : Sessions} (empty : after.flow.queue = [])
      (move : SessionMove (c.under daemon queue tcp) event
        ((Cell.of after).under daemon queue tcp)) :
      SessionMove (c.under daemon queue tcp) event
        ((Cell.of after).under daemon (queue ++ after.flow.queue) tcp) := by
    rw [empty, List.append_nil]
    exact move
  cases session_move step with
  | opens here => exact nothing rfl (.opens here)
  | asks here => exact .asks here
  | unsent here => exact nothing rfl (.unsent here)
  | succeeds here status => exact nothing rfl (.succeeds here status)
  | refused here status => exact nothing rfl (.refused here status)
  | interrupted here => exact nothing rfl (.interrupted here)
  | writes here => exact .writes here
  | closes here idle => exact .closes here idle
  | unclosed here idle => exact nothing rfl (.unclosed here idle)
  | released here => exact nothing rfl (.released here)
  | @flows event flow permitted moved =>
    have allowed : (c.under daemon queue tcp).permits event = true := by
      rw [← permitted]
      cases event <;> rfl
    have copied : (c.under daemon queue tcp).copied event =
        (c.under .select [] []).copied event := by
      cases event <;> rfl
    have moves := SessionMove.flows (s := c.under daemon queue tcp) allowed (reader_flow own moved)
    rw [reader_silent _ own, command_none, copied] at moves
    rw [reader_silent _ own, command_none]
    exact moves
  | takesOpen | connects | misses | replies | takesData | takesClose | takesTcp | acts => cases own

def Cell.event (c : Cell) : DriverMsg → SessionEvent
  | .openReq _ => .openReq
  | .data _ => .data
  | .closeReq => .closeReq
  | .full | .available => .flow (.kfifo c.accepts)

/-- The device that an event is about, and what it is to this device. -/
def Fleet.seen (f : Fleet) : FleetEvent → Option (Nat × SessionEvent)
  | .driver minor event => some (minor, event)
  | .kernel => f.queue.head?.map fun message => (message.1, (f.cells message.1).event message.2)
  | .connect success => some (f.serving, .connect success)
  | .connRes => some (f.serving, .connRes)
  | .flush => some (f.serving, .flow (.flush (f.cells f.serving).accepts))
  | .data memory => some (f.serving, .flow (.data memory))
  | .full => some (f.serving, .flow .full)
  | .tcp => f.tcp.head?.map fun message => (message.1, .tcp)
  | .actor minor index event => some (minor, .actor index event)

/-- Every minor on its way is one that the driver has, and none has been out of range. -/
structure Ranged (f : Fleet) : Prop where
  up : f.crashed = false
  queued : ∀ message ∈ f.queue, f.has message.1 = true
  received : ∀ message ∈ f.tcp, f.has message.1 = true
  serves : f.daemon ≠ .select → f.has f.serving = true
  acts : ∀ minor, (f.cells minor).actors ≠ [] → f.has minor = true

/-- The step is one of this device alone; the others see nothing of it. -/
structure Routed (f : Fleet) (event : FleetEvent) (after : Fleet) : Prop where
  ranged : Ranged after
  own : ∃ minor local_, f.seen event = some (minor, local_) ∧
    (f.view minor).step local_ = some (after.view minor) ∧
    ∀ other, other ≠ minor → after.view other = f.view other

theorem has_minorByte {f : Fleet} {minor : Nat} (has : f.has minor = true) :
    minorByte minor = minor := by
  have small : minor < NcdRegistry.ncdMaxDevices := by
    simp only [Fleet.has, Bool.and_eq_true, decide_eq_true_eq] at has
    exact has.2
  exact Nat.mod_eq_of_lt (Nat.lt_trans small (by decide))

theorem has_inRange {f : Fleet} {minor : Nat} (has : f.has minor = true) :
    minor < f.count := by
  simp only [Fleet.has, Bool.and_eq_true, decide_eq_true_eq] at has
  exact has.1

theorem view_other {f after : Fleet} {other : Nat}
    (cells : after.cells other = f.cells other)
    (daemon : (if after.serving = other then after.daemon else .select) =
      if f.serving = other then f.daemon else .select)
    (queue : channel other after.queue = channel other f.queue)
    (tcp : channel other after.tcp = channel other f.tcp) : after.view other = f.view other := by
  unfold Fleet.view
  rw [cells, daemon, queue, tcp]

/- One device with the channels of its minor: what the arms do to it. -/
section
variable (c : Cell) (daemon : DaemonPc TaggedByte) (queue : List DriverMsg)
  (tcp : List (List TaggedByte))

@[simp] theorem under_accepts : (c.under daemon queue tcp).accepts = c.accepts := rfl

theorem cell_command_keeps (command : Option WriteCommand) :
    c.command command = { c with actors := (c.command command).actors } := by
  unfold Cell.command
  split <;> rfl

theorem command_minor (minor : Minor TaggedByte) (command : Option WriteCommand) :
    Cell.command { c with minor := minor } command =
      { c.command command with minor := minor } := by
  obtain ⟨_, _, _, _, _, _, _, _, writeTx, _⟩ := c
  cases writeTx <;> cases command <;> rfl

theorem under_command (command : Option WriteCommand) :
    (c.under daemon queue tcp).command command = (c.command command).under daemon queue tcp := by
  obtain ⟨_, _, _, _, _, _, _, _, writeTx, _⟩ := c
  cases writeTx <;> cases command <;> rfl

theorem under_permits (event : FlowEvent TaggedByte)
    (own : event = .kfifo c.accepts ∨ event = .flush c.accepts ∨ event = .full ∨
      ∃ memory, event = .data memory) :
    (c.under daemon queue tcp).permits event = true := by
  rcases own with rfl | rfl | rfl | ⟨memory, rfl⟩
  · simp [Sessions.permits]
  · simp [Sessions.permits]
  · rfl
  · rfl

theorem under_openReq (session : Nat) :
    (c.under .select (.openReq session :: queue) tcp).step .openReq =
      some (Cell.under { c with minor := c.minor.cleared } (.opening session) queue tcp) := rfl

theorem under_data (bytes : List UInt8) :
    (c.under .select (.data bytes :: queue) tcp).step .data =
      some ((c.command (some (.data bytes))).under .select queue tcp) := by
  change some { (c.under .select (.data bytes :: queue) tcp).command (some (.data bytes)) with
    flow := (c.under .select queue tcp).flow } = _
  rw [under_command, cell_command_keeps]
  rfl

theorem under_closeReq :
    (c.under .select (.closeReq :: queue) tcp).step .closeReq =
      some (Cell.under
        { c.command (some .close) with writeTx := none, minor := c.minor.cleared }
        .select queue tcp) := by
  change some { (c.under .select (.closeReq :: queue) tcp).command (some .close) with
    writeTx := none
    flow := { (c.under .select queue tcp).flow with minor := c.minor.cleared } } = _
  rw [under_command, cell_command_keeps]
  rfl

theorem under_full :
    (c.under .select (.full :: queue) tcp).step (.flow (.kfifo c.accepts)) =
      some ((Cell.sync { c with minor := { c.minor with paused := true } } true).under
        .select queue tcp) := by
  have permitted := under_permits c .select (.full :: queue) tcp _ (.inl rfl)
  have moved : (c.under .select (.full :: queue) tcp).flow.step (.kfifo c.accepts) =
      some { (c.under .select queue tcp).flow with
        minor := ({ c.minor with paused := true }.syncDeviceReading true c.accepts).1 } := rfl
  have asks : (c.under .select (.full :: queue) tcp).flow.command (.kfifo c.accepts) =
      ({ c.minor with paused := true }.syncDeviceReading true c.accepts).2 := rfl
  have sync : Cell.sync { c with minor := { c.minor with paused := true } } true =
      { c.command ({ c.minor with paused := true }.syncDeviceReading true c.accepts).2 with
        minor := ({ c.minor with paused := true }.syncDeviceReading true c.accepts).1 } := by
    unfold Cell.sync
    dsimp only
    rw [command_minor]
    rfl
  simp only [Sessions.step, Sessions.flowStep, permitted, if_true]
  rw [moved, asks, sync, Option.map_some, under_command, cell_command_keeps]
  simp [Sessions.copied, Cell.under]

theorem under_available :
    (c.under .select (.available :: queue) tcp).step (.flow (.kfifo c.accepts)) =
      some (Cell.under { c with minor := { c.minor with paused := false, inflight := 0 } }
        (.flushing .available) queue tcp) := by
  have permitted := under_permits c .select (.available :: queue) tcp _ (.inl rfl)
  have moved : (c.under .select (.available :: queue) tcp).flow.step (.kfifo c.accepts) =
      some { (c.under .select queue tcp).flow with
        minor := { c.minor with paused := false, inflight := 0 }
        daemon := .flushing .available } := rfl
  have silent : (c.under .select (.available :: queue) tcp).flow.command (.kfifo c.accepts) =
      none := rfl
  simp only [Sessions.step, Sessions.flowStep, permitted, if_true]
  rw [moved, silent, Option.map_some, command_none]
  simp [Sessions.copied, Cell.under]

theorem under_connect (session : Nat) (success : Bool) :
    (c.under (.opening session) queue tcp).step (.connect success) =
      some ((if success then
          { c with actors := c.actors ++ [{ session := session }], writeTx := some c.actors.length }
        else c).under (.answering success) queue tcp) := by
  cases success <;> rfl

theorem under_connRes (success : Bool) :
    (c.under (.answering success) queue tcp).step .connRes =
      some (Cell.under { c with connStatus := if success then .success else .failed }
        .select queue tcp) := rfl

theorem under_pop {arm : Arm} {chunk : List TaggedByte} {minor : Minor TaggedByte}
    (next : c.minor.nextChunk = some (chunk, minor)) :
    (c.under (.flushing arm) queue tcp).step (.flow (.flush c.accepts)) =
      some (Cell.under { c with minor := minor } (.sending chunk arm) queue tcp) := by
  have permitted := under_permits c (.flushing arm) queue tcp _ (.inr (.inl rfl))
  simp only [Sessions.step, Sessions.flowStep, permitted, if_true]
  have moved : (c.under (.flushing arm) queue tcp).flow.step (.flush c.accepts) =
      some { (c.under (.flushing arm) queue tcp).flow with
        minor := minor, daemon := .sending chunk arm } := by
    simp [Flow.step, Flow.flush, Cell.under, next]
  have silent : (c.under (.flushing arm) queue tcp).flow.command (.flush c.accepts) = none := by
    simp [Flow.command, Cell.under, next]
  rw [moved, silent, Option.map_some, command_none]
  simp [Sessions.copied, Cell.under]

theorem under_settle {arm : Arm} (done : c.minor.nextChunk = none) :
    (c.under (.flushing arm) queue tcp).step (.flow (.flush c.accepts)) =
      some ((c.sync (c.kfifoPaused arm)).under .select queue tcp) := by
  have permitted := under_permits c (.flushing arm) queue tcp _ (.inr (.inl rfl))
  have paused : (c.under (.flushing arm) queue tcp).flow.kfifoPaused arm = c.kfifoPaused arm := by
    cases arm <;> rfl
  have moved : (c.under (.flushing arm) queue tcp).flow.step (.flush c.accepts) =
      some { (c.under (.flushing arm) queue tcp).flow with
        minor := (c.minor.syncDeviceReading (c.kfifoPaused arm) c.accepts).1
        daemon := .select } := by
    rw [← paused]
    simp [Flow.step, Flow.flush, Cell.under, done]
  have asks : (c.under (.flushing arm) queue tcp).flow.command (.flush c.accepts) =
      (c.minor.syncDeviceReading (c.kfifoPaused arm) c.accepts).2 := by
    rw [← paused]
    simp [Flow.command, Cell.under, done]
  simp only [Sessions.step, Sessions.flowStep, permitted, if_true]
  rw [moved, asks, Option.map_some, under_command, Cell.sync, cell_command_keeps]
  simp [Sessions.copied, Cell.under]

theorem under_received (chunk : List TaggedByte) (arm : Arm) (memory : Bool)
    {after : NcdDevice TaggedByte × DataFlags} (free : lockFree c.reader = true)
    (received : recvData c.dev chunk memory = after) :
    (c.under (.sending chunk arm) queue tcp).step (.flow (.data memory)) =
      some (if after.2.shouldPause then
        Cell.under { c with dev := after.1, dropped := c.dropped || after.2.dropped }
          (.notifying chunk arm) queue tcp
      else
        Cell.under
          { c with
            dev := after.1, dropped := c.dropped || after.2.dropped
            minor := c.minor.sent chunk }
          (.flushing arm) queue tcp) := by
  have permitted := under_permits c (.sending chunk arm) queue tcp (.data memory)
    (.inr (.inr (.inr ⟨memory, rfl⟩)))
  have silent : (c.under (.sending chunk arm) queue tcp).flow.command (.data memory) = none := rfl
  simp only [Sessions.step, Sessions.flowStep, permitted, if_true, silent, command_none]
  subst received
  cases pause : (recvData c.dev chunk memory).2.shouldPause <;>
    simp [Flow.step, Flow.data, Cell.under, free, pause, Sessions.copied]

theorem under_notify (chunk : List TaggedByte) (arm : Arm) :
    (c.under (.notifying chunk arm) queue tcp).step (.flow .full) =
      some (Cell.under { c with minor := c.minor.sent chunk } (.flushing arm)
        (queue ++ [.full]) tcp) := by
  have permitted := under_permits c (.notifying chunk arm) queue tcp .full (.inr (.inr (.inl rfl)))
  have silent : (c.under (.notifying chunk arm) queue tcp).flow.command .full = none := rfl
  simp only [Sessions.step, Sessions.flowStep, permitted, if_true, silent, command_none]
  simp [Flow.step, Cell.under, Sessions.copied]

theorem under_tcp (data : List TaggedByte) :
    (c.under .select queue (data :: tcp)).step .tcp =
      some (Cell.under
        { c with minor := { c.minor with pending := queueShards c.minor.pending data } }
        (.flushing .tcp) queue tcp) := rfl

theorem under_actor {index : Nat} {event : ActorEvent} {actor after : Actor}
    (there : c.actors[index]? = some actor)
    (round : actor.step (c.writeTx = some index) event = some after) :
    (c.under daemon queue tcp).step (.actor index event) =
      some (Cell.under { c with actors := c.actors.set index after } daemon queue
        (tcp ++ forwarded actor.session event)) := by
  simp only [Sessions.step, Sessions.actorStep, Cell.under, there]
  exact congrArg (Option.map _) round

end

theorem view_select {f : Fleet} (here : f.daemon = .select) (minor : Nat) :
    f.view minor = (f.cells minor).under .select (channel minor f.queue) (channel minor f.tcp) := by
  simp [Fleet.view, here]

theorem view_serving (f : Fleet) :
    f.view f.serving = (f.cells f.serving).under f.daemon (channel f.serving f.queue)
      (channel f.serving f.tcp) := by
  simp [Fleet.view]

theorem driver_routed {f after : Fleet} {minor : Nat} {event : SessionEvent} (ranged : Ranged f)
    (step : f.driver minor event = some after) : Routed f (.driver minor event) after := by
  obtain ⟨both, moved⟩ := Option.ite_none_right_eq_some.mp step
  rw [Bool.and_eq_true] at both
  obtain ⟨has, own⟩ := both
  obtain ⟨s, local_, rfl⟩ := Option.map_eq_some_iff.mp moved
  have sends := driver_sends own local_
  refine ⟨⟨ranged.up, ?_, ranged.received, ranged.serves, ?_⟩, minor, event, rfl, ?_, ?_⟩
  · intro message member
    rcases List.mem_append.mp member with old | new
    · exact ranged.queued message old
    · obtain ⟨_, _, rfl⟩ := List.mem_map.mp new
      exact has
  · intro m acts
    by_cases same : m = minor
    · exact same ▸ has
    · exact ranged.acts m (by simpa [Fleet.setCell, same] using acts)
  · unfold Fleet.view
    rw [sends]
    simp only [Fleet.setCell, Function.update_self, channel_append, channel_own]
    rfl
  · intro other apart
    refine view_other (by simp [Fleet.setCell, apart]) rfl ?_ rfl
    simp [channel_append, channel_other apart.symm]

theorem acts_setCell {f : Fleet} {minor : Nat} (ranged : Ranged f) (has : f.has minor = true)
    (c : Cell) (m : Nat) (acts : ((f.setCell minor c).cells m).actors ≠ []) :
    f.has m = true := by
  by_cases same : m = minor
  · exact same ▸ has
  · exact ranged.acts m (by simpa [Fleet.setCell, same] using acts)

theorem arm_routed {f : Fleet} {minor : Nat} {message : DriverMsg}
    {rest : List (Nat × DriverMsg)} (ranged : Ranged f) (here : f.daemon = .select)
    (queue : f.queue = (minor, message) :: rest) :
    Routed f .kernel (Fleet.arm { f with queue := rest } minor message) := by
  have has : f.has minor = true := ranged.queued (minor, message) (by simp [queue])
  have later : ∀ m ∈ rest, f.has m.1 = true :=
    fun m member => ranged.queued m (by simp [queue, member])
  have seen : f.seen .kernel = some (minor, (f.cells minor).event message) := by
    simp [Fleet.seen, queue]
  have before : f.view minor =
      (f.cells minor).under .select (message :: channel minor rest) (channel minor f.tcp) := by
    rw [view_select here, queue, channel_first]
  have others {after : Fleet} {c : Cell} (same : after.cells = Function.update f.cells minor c)
      (served : after.daemon = .select ∨ after.serving = minor) (left : after.queue = rest)
      (kept : after.tcp = f.tcp) (other : Nat) (apart : other ≠ minor) :
      after.view other = f.view other := by
    refine view_other (by rw [same, Function.update_of_ne apart]) ?_ ?_ (by rw [kept])
    · rcases served with idle | mine
      · simp [idle, here]
      · simp [mine, apart.symm, here]
    · rw [left, queue, channel_skips apart.symm]
  cases message with
  | openReq session =>
    refine ⟨⟨ranged.up, later, ranged.received, fun _ => has, acts_setCell ranged has _⟩,
      minor, _, seen, ?_, others rfl (.inr rfl) rfl rfl⟩
    rw [before, Cell.event, under_openReq]
    simp [Fleet.arm, Fleet.view, Fleet.setCell]
  | data bytes =>
    refine ⟨⟨ranged.up, later, ranged.received, ranged.serves, acts_setCell ranged has _⟩,
      minor, _, seen, ?_, others rfl (.inl here) rfl rfl⟩
    rw [before, Cell.event, under_data]
    simp [Fleet.arm, Fleet.view, Fleet.setCell, here]
  | closeReq =>
    refine ⟨⟨ranged.up, later, ranged.received, ranged.serves, acts_setCell ranged has _⟩,
      minor, _, seen, ?_, others rfl (.inl here) rfl rfl⟩
    rw [before, Cell.event, under_closeReq]
    simp [Fleet.arm, Fleet.view, Fleet.setCell, here, Minor.cleared]
  | full =>
    refine ⟨⟨ranged.up, later, ranged.received, ranged.serves, acts_setCell ranged has _⟩,
      minor, _, seen, ?_, others rfl (.inl here) rfl rfl⟩
    rw [before, Cell.event, under_full]
    simp [Fleet.arm, Fleet.view, Fleet.setCell, here]
  | available =>
    refine ⟨⟨ranged.up, later, ranged.received, fun _ => has, acts_setCell ranged has _⟩,
      minor, _, seen, ?_, others rfl (.inr rfl) rfl rfl⟩
    rw [before, Cell.event, under_available]
    simp [Fleet.arm, Fleet.view, Fleet.setCell]

theorem kernel_routed {f after : Fleet} (ranged : Ranged f) (step : f.kernel = some after) :
    Routed f .kernel after := by
  unfold Fleet.kernel at step
  split at step
  · rename_i minor message rest here queue
    have small := has_inRange (ranged.queued (minor, message) (by simp [queue]))
    dsimp only at step
    rw [if_neg (Nat.not_le_of_lt small)] at step
    cases step
    exact arm_routed ranged here queue
  · cases step

theorem serving_other {f after : Fleet} {c : Cell}
    (cells : after.cells = Function.update f.cells f.serving c)
    (serving : after.serving = f.serving)
    (queue : ∀ other, other ≠ f.serving → channel other after.queue = channel other f.queue)
    (tcp : after.tcp = f.tcp) (other : Nat) (apart : other ≠ f.serving) :
    after.view other = f.view other := by
  refine view_other (by rw [cells, Function.update_of_ne apart]) ?_ (queue other apart) (by rw [tcp])
  simp [serving, apart.symm]

theorem connect_routed {f after : Fleet} {success : Bool} (ranged : Ranged f)
    (step : f.connect success = some after) : Routed f (.connect success) after := by
  unfold Fleet.connect at step
  split at step
  · rename_i session here
    have has := ranged.serves (by rw [here]; exact nofun)
    have own := under_connect (f.cells f.serving) (channel f.serving f.queue)
      (channel f.serving f.tcp) session success
    cases success with
    | true =>
      cases step
      refine ⟨⟨ranged.up, ranged.queued, ranged.received, fun _ => has,
        acts_setCell ranged has _⟩, f.serving, _, rfl, ?_,
        serving_other rfl rfl (fun _ _ => rfl) rfl⟩
      rw [view_serving, here, own]
      simp [Fleet.view, Fleet.setCell]
    | false =>
      cases step
      refine ⟨⟨ranged.up, ranged.queued, ranged.received, fun _ => has, ranged.acts⟩,
        f.serving, _, rfl, ?_,
        serving_other (Function.update_eq_self _ _).symm rfl (fun _ _ => rfl) rfl⟩
      rw [view_serving, here, own]
      simp [Fleet.view]
  · cases step

theorem connRes_routed {f after : Fleet} (ranged : Ranged f) (step : f.connRes = some after) :
    Routed f .connRes after := by
  unfold Fleet.connRes at step
  split at step
  · rename_i success here
    have has := ranged.serves (by rw [here]; exact nofun)
    rw [has_minorByte has] at step
    cases step
    refine ⟨⟨ranged.up, ranged.queued, ranged.received, fun idle => absurd rfl idle,
      acts_setCell ranged has _⟩, f.serving, _, rfl, ?_,
      serving_other rfl rfl (fun _ _ => rfl) rfl⟩
    rw [view_serving, here, under_connRes]
    simp [Fleet.view, Fleet.setCell]
  · cases step

theorem flush_routed {f after : Fleet} (ranged : Ranged f) (step : f.flush = some after) :
    Routed f .flush after := by
  unfold Fleet.flush at step
  split at step
  · rename_i arm here
    have has := ranged.serves (by rw [here]; exact nofun)
    dsimp only at step
    split at step
    · rename_i chunk minor next
      cases step
      refine ⟨⟨ranged.up, ranged.queued, ranged.received, fun _ => has,
        acts_setCell ranged has _⟩, f.serving, _, rfl, ?_,
        serving_other rfl rfl (fun _ _ => rfl) rfl⟩
      rw [view_serving, here, under_pop _ _ _ next]
      simp [Fleet.view, Fleet.setCell]
    · rename_i done
      cases step
      refine ⟨⟨ranged.up, ranged.queued, ranged.received, fun idle => absurd rfl idle,
        acts_setCell ranged has _⟩, f.serving, _, rfl, ?_,
        serving_other rfl rfl (fun _ _ => rfl) rfl⟩
      rw [view_serving, here, under_settle _ _ _ done]
      simp [Fleet.view, Fleet.setCell]
  · cases step

theorem data_routed {f after : Fleet} {memory : Bool} (ranged : Ranged f)
    (step : f.data memory = some after) : Routed f (.data memory) after := by
  unfold Fleet.data at step
  split at step
  · rename_i chunk arm here
    have has := ranged.serves (by rw [here]; exact nofun)
    rw [has_minorByte has] at step
    obtain ⟨free, step⟩ := Option.ite_none_right_eq_some.mp step
    have own := under_received (f.cells f.serving) (channel f.serving f.queue)
      (channel f.serving f.tcp) chunk arm memory free rfl
    dsimp only at step
    split at step
    · rename_i pause
      cases step
      refine ⟨⟨ranged.up, ranged.queued, ranged.received, fun _ => has,
        acts_setCell ranged has _⟩, f.serving, _, rfl, ?_,
        serving_other rfl rfl (fun _ _ => rfl) rfl⟩
      rw [view_serving, here, own, if_pos pause]
      simp [Fleet.view, Fleet.setCell]
    · rename_i quiet
      cases step
      refine ⟨⟨ranged.up, ranged.queued, ranged.received, fun _ => has, ?_⟩,
        f.serving, _, rfl, ?_,
        serving_other (Function.update_idem _ _ _) rfl (fun _ _ => rfl) rfl⟩
      · simp only [Fleet.setCell, Function.update_idem]
        exact acts_setCell ranged has _
      · rw [view_serving, here, own, if_neg quiet]
        simp [Fleet.view, Fleet.setCell]
  · cases step

theorem full_routed {f after : Fleet} (ranged : Ranged f) (step : f.full = some after) :
    Routed f .full after := by
  unfold Fleet.full at step
  split at step
  · rename_i chunk arm here
    have has := ranged.serves (by rw [here]; exact nofun)
    rw [has_minorByte has] at step
    cases step
    refine ⟨⟨ranged.up, ?_, ranged.received, fun _ => has, acts_setCell ranged has _⟩,
      f.serving, _, rfl, ?_, serving_other rfl rfl ?_ rfl⟩
    · intro message member
      rcases List.mem_append.mp member with old | new
      · exact ranged.queued message old
      · cases List.mem_singleton.mp new
        exact has
    · rw [view_serving, here, under_notify]
      simp [Fleet.view, Fleet.setCell, channel]
    · intro other apart
      simp [channel, apart.symm]
  · cases step

theorem takeTcp_routed {f after : Fleet} (ranged : Ranged f) (step : f.takeTcp = some after) :
    Routed f .tcp after := by
  unfold Fleet.takeTcp at step
  split at step
  · rename_i minor data rest here tcp
    have has : f.has minor = true := ranged.received (minor, data) (by simp [tcp])
    dsimp only at step
    rw [if_neg (Nat.not_le_of_lt (has_inRange has))] at step
    cases step
    have later : ∀ m ∈ rest, f.has m.1 = true :=
      fun m member => ranged.received m (by simp [tcp, member])
    refine ⟨⟨ranged.up, ranged.queued, later, fun _ => has, acts_setCell ranged has _⟩,
      minor, .tcp, by simp [Fleet.seen, tcp], ?_, ?_⟩
    · rw [view_select here, tcp, channel_first, under_tcp]
      simp [Fleet.view, Fleet.setCell]
    · intro other apart
      refine view_other (by simp [Fleet.setCell, apart]) ?_ rfl ?_
      · simp [apart.symm, here]
      · rw [tcp, channel_skips apart.symm]
        rfl
  · cases step

theorem actor_routed {f after : Fleet} {minor index : Nat} {event : ActorEvent}
    (ranged : Ranged f) (step : f.actor minor index event = some after) :
    Routed f (.actor minor index event) after := by
  unfold Fleet.actor at step
  dsimp only at step
  split at step
  · rename_i actor there
    obtain ⟨actor', round, rfl⟩ := Option.map_eq_some_iff.mp step
    have has : f.has minor = true := ranged.acts minor (by
      intro empty
      simp [empty] at there)
    rw [has_minorByte has]
    refine ⟨⟨ranged.up, ranged.queued, ?_, ranged.serves, acts_setCell ranged has _⟩,
      minor, _, rfl, ?_, ?_⟩
    · intro message member
      rcases List.mem_append.mp member with old | new
      · exact ranged.received message old
      · obtain ⟨_, _, rfl⟩ := List.mem_map.mp new
        exact has
    · unfold Fleet.view
      rw [under_actor _ _ _ _ there round]
      simp only [Fleet.setCell, Function.update_self, channel_append, channel_own]
      rfl
    · intro other apart
      refine view_other (by simp [Fleet.setCell, apart]) rfl rfl ?_
      simp [channel_append, channel_other apart.symm]
  · cases step

theorem step_routed {f after : Fleet} {event : FleetEvent} (ranged : Ranged f)
    (step : f.step event = some after) : Routed f event after := by
  cases event with
  | driver minor event => exact driver_routed ranged step
  | kernel => exact kernel_routed ranged (Option.ite_none_left_eq_some.mp step).2
  | connect success => exact connect_routed ranged step
  | connRes => exact connRes_routed ranged step
  | flush => exact flush_routed ranged step
  | data memory => exact data_routed ranged step
  | full => exact full_routed ranged step
  | tcp => exact takeTcp_routed ranged (Option.ite_none_left_eq_some.mp step).2
  | actor minor index event => exact actor_routed ranged step

theorem started_ranged (count : Nat) : Ranged (started count) :=
  ⟨rfl, nofun, nofun, fun busy => absurd rfl busy, fun _ acts => absurd rfl acts⟩

/-- The event is one that ok allows the device, if it is about the device. -/
def Permitted (minor : Nat) (ok : Sessions → SessionEvent → Prop) (f : Fleet)
    (event : FleetEvent) : Prop :=
  ∀ about ∈ f.seen event, about.1 = minor → ok (f.view minor) about.2

instance (minor : Nat) (ok : Sessions → SessionEvent → Prop) [∀ s e, Decidable (ok s e)]
    (f : Fleet) (event : FleetEvent) : Decidable (Permitted minor ok f event) :=
  inferInstanceAs (Decidable (∀ about ∈ f.seen event, _ → _))

theorem fleet_simulates (minor : Nat) (ok : Sessions → SessionEvent → Prop) :
    Simulation Fleet.step (Permitted minor ok) Sessions.step ok
      fun f s => Ranged f ∧ f.view minor = s := by
  apply Simulation.of_view
  intro f event after ranged permitted step
  refine ⟨(step_routed ranged step).ranged, ?_⟩
  obtain ⟨m, event, seen, moved, others⟩ := (step_routed ranged step).own
  by_cases same : m = minor
  · subst same
    exact .inr ⟨event, permitted _ seen rfl, moved⟩
  · exact .inl (others minor (Ne.symm same))

/-- However the main loop serves its devices, it indexes its vectors in range only, and every
    device runs as if it were alone: under whatever ok holds of its own events. So a device
    whose own events do not leak returns the bytes of its own connections, whatever the other
    devices do. -/
theorem devices_run_alone {count minor : Nat} {ok : Sessions → SessionEvent → Prop} {f : Fleet}
    (run : Reaches Fleet.step (Permitted minor ok) (started count) f) :
    f.crashed = false ∧ Reaches Sessions.step ok created (f.view minor) ∧
      ((∀ s event, ok s event → leaks s event = false) →
        ∀ entry ∈ (f.cells minor).returned, entry.2.session = entry.1) := by
  have first : (started count).view minor = created := view_select rfl minor
  obtain ⟨_, alone, ranged, rfl⟩ :=
    (fleet_simulates minor ok).reaches run ⟨started_ranged count, first⟩
  refine ⟨ranged.up, alone, fun clean => ?_⟩
  have tagged := alone.keeps (fun tagged allowed step => step_tagged tagged (clean _ _ allowed) step)
    created_tagged
  exact tagged.returned

/-- Device 1 reads a byte while device 0 is open too; the bytes of both go through the one
    tcp channel. -/
def twoDevices : List FleetEvent :=
  [.driver 0 .ncdOpen, .driver 1 .ncdOpen, .driver 1 (.sendOpenReq true),
    .driver 0 (.sendOpenReq true), .kernel, .connect true, .connRes, .kernel, .connect true,
    .connRes, .driver 0 .finishOpen, .driver 1 .finishOpen, .actor 0 0 (.forward [0x61]),
    .actor 1 0 (.forward [0x62]), .tcp, .flush, .data true, .flush, .tcp, .flush, .data true,
    .flush, .driver 1 (.flow (.read 1)), .driver 1 (.flow (.lock true)),
    .driver 1 (.flow (.copy true))]

def bothOpen : Fleet :=
  (execIf Fleet.step (Permitted 1 fun s event => leaks s event = false) (started 2)
    twoDevices).getD (started 2)

theorem second_device_reads_own :
    (bothOpen.cells 1).returned = [(1, ⟨1, 0x62⟩)] ∧ bothOpen.crashed = false := by
  have runs : (execIf Fleet.step (Permitted 1 fun s event => leaks s event = false) (started 2)
      twoDevices).isSome = true := by decide +kernel
  obtain ⟨f, reached⟩ := Option.isSome_iff_exists.mp runs
  have same : bothOpen = f := by rw [bothOpen, reached, Option.getD_some]
  have alone := devices_run_alone (reaches_of_execIf twoDevices reached)
  exact ⟨by decide +kernel, same ▸ alone.1⟩

end NcdFleet
