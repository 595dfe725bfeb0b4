import Ncd.Connection

/- ConnHandler: check_task_state and the four calls, each cut at its awaits, and the
   endpoint that a handler and its connection task make up. -/
namespace NcdHandler
open NcdPacket NcdFrame NcdConnection LabelledRuns

inductive ConnectionClosed where
  | normal (messages : List (List UInt8))
  | error (messages : List (List UInt8)) (e : ConnectionError)
  | unknown (text : String)
  deriving DecidableEq, Repr

def ConnectionClosed.messages : ConnectionClosed → List (List UInt8)
  | .normal messages => messages
  | .error messages _ => messages
  | .unknown _ => []

inductive TaskState where
  | uninitialized
  | running
  | finished (closed : ConnectionClosed)
  deriving DecidableEq, Repr

inductive HandlerPanic where
  | uninitialized
  | joinFailed
  | taskNotFinished
  | notData
  deriving DecidableEq, Repr

/-- The calls that send a request, and the request each one sends. -/
inductive Asking where
  | write (bytes : List UInt8)
  | getStatus
  | close
  deriving DecidableEq, Repr

def Asking.request : Asking → Request
  | .write bytes => .send (.data bytes)
  | .getStatus => .getStatus
  | .close => .close

/-- Where a call rests. checking: read or get_status has seen its channel closed and is
    about to call check_task_state. -/
inductive HandlerPc where
  | idle
  | requesting (call : Asking)
  | reading
  | awaitingStatus
  | checking (forStatus : Bool)
  | joining
  | gone
  | panicked (site : HandlerPanic)
  deriving DecidableEq, Repr

inductive CallResult where
  | write (bytes : List UInt8) (r : Except ConnectionClosed Unit)
  | read (r : Except ConnectionClosed (List UInt8))
  | getStatus (r : Except ConnectionClosed ConnStatus)
  | close (r : Except ConnectionClosed (Except ConnectionError (List (List UInt8))))
  deriving DecidableEq, Repr

/-- accepted and results only record what has happened: the requests that went into the
    request channel and what each call returned, first to last. -/
structure Handler where
  taskHandle : TaskState := .uninitialized
  pc : HandlerPc := .idle
  accepted : List Request := []
  results : List CallResult := []
  deriving DecidableEq, Repr

structure Endpoint where
  task : Task
  channels : Channels
  handler : Handler := {}
  deriving DecidableEq, Repr

/-- Connection::new, with the keep-alive interval that handshake computes from the
    keep_alive_factor. -/
def Endpoint.new (peerAddr : SocketAddr) (timeoutMs closeTimeoutMs keepAliveIntervalMs : UInt32)
    (role : ConnRole) (bufferSize : Nat) : Endpoint :=
  { task := { conn := { timeoutMs := timeoutMs, keepAliveIntervalMs := keepAliveIntervalMs
                        closeTimeoutMs := closeTimeoutMs, peerAddr := peerAddr, role := role } }
    channels := { capacity := bufferSize } }

def connGone : Pc → Bool
  | .dropped _ | .finished _ | .failed _ | .panicked _ | .aborted => true
  | _ => false

def messages : List Packet → List (List UInt8)
  | [] => []
  | .data bytes :: packets => bytes :: messages packets
  | _ :: packets => messages packets

def closedWith (result : Except ConnectionError Unit) (rest : List (List UInt8)) :
    ConnectionClosed :=
  match result with
  | .ok () => .normal rest
  | .error e => .error rest e

def Endpoint.panic (e : Endpoint) (site : HandlerPanic) : Endpoint :=
  { e with handler := { e.handler with pc := .panicked site } }

def Endpoint.returns (e : Endpoint) (r : CallResult) : Endpoint :=
  { e with handler := { e.handler with pc := .idle, results := e.handler.results ++ [r] } }

/-- Join a finished task: take its result, drain the packet channel, cache both. -/
def Endpoint.join (e : Endpoint) (result : Except ConnectionError Unit) : Endpoint :=
  { e with
    channels := { e.channels with packets := [] }
    handler := { e.handler with
      taskHandle := .finished (closedWith result (messages e.channels.packets)) } }

def Endpoint.checkTaskState (e : Endpoint) :
    Except HandlerPanic (Endpoint × Option ConnectionClosed) :=
  match e.handler.taskHandle with
  | .uninitialized => .error .uninitialized
  | .running =>
    match e.task.pc with
    | .finished result =>
      .ok (e.join result, some (closedWith result (messages e.channels.packets)))
    | .panicked _ => .error .joinFailed
    | .aborted => .error .joinFailed
    | _ => .ok (e, none)
  | .finished closed => .ok (e, some closed)

def closeResult : ConnectionClosed →
    Except ConnectionClosed (Except ConnectionError (List (List UInt8)))
  | .normal messages => .ok (.ok messages)
  | .error messages _ => .ok (.ok messages)
  | .unknown text => .error (.unknown text)

/-- libncd_runtime::close owns the handler: when close returns, the handler is dropped. -/
def Endpoint.dropHandler (e : Endpoint) : Endpoint :=
  { e with
    channels := { e.channels with handlerAlive := false }
    handler := { e.handler with pc := .gone } }

def Endpoint.closeReturns (e : Endpoint)
    (r : Except ConnectionClosed (Except ConnectionError (List (List UInt8)))) : Endpoint :=
  (e.returns (.close r)).dropHandler

/-- The text of tokio's SendError. -/
def channelClosed : ConnectionClosed := .unknown "channel closed"

/-- What a call returns when check_task_state already knows the task as finished. -/
def Endpoint.refused (e : Endpoint) (closed : ConnectionClosed) : Asking → Endpoint
  | .write bytes => e.returns (.write bytes (.error closed))
  | .getStatus => e.returns (.getStatus (.error closed))
  | .close => e.closeReturns (closeResult closed)

/-- write, get_status and close start alike: check the task, then send a request. -/
def Endpoint.ask (e : Endpoint) (call : Asking) : Endpoint :=
  match e.checkTaskState with
  | .error site => e.panic site
  | .ok (e, some closed) => e.refused closed call
  | .ok (e, none) => { e with handler := { e.handler with pc := .requesting call } }

def Endpoint.write (e : Endpoint) (bytes : List UInt8) : Endpoint := e.ask (.write bytes)

def Endpoint.getStatus (e : Endpoint) : Endpoint := e.ask .getStatus

def Endpoint.close (e : Endpoint) : Endpoint := e.ask .close

def Endpoint.read (e : Endpoint) : Endpoint :=
  { e with handler := { e.handler with pc := .reading } }

/-- request_tx.send completes: the receiver is dropped, or there is room. -/
def Endpoint.requested (e : Endpoint) : Option Endpoint :=
  match e.handler.pc with
  | .requesting call =>
    if connGone e.task.pc then
      match call with
      | .write bytes => some (e.returns (.write bytes (.error channelClosed)))
      | .getStatus => some (e.returns (.getStatus (.error channelClosed)))
      | .close => some (e.closeReturns (.error channelClosed))
    else if e.channels.requests.length < e.channels.capacity then
      let e := { e with
        channels := { e.channels with requests := e.channels.requests ++ [call.request] }
        handler := { e.handler with accepted := e.handler.accepted ++ [call.request] } }
      match call with
      | .write bytes => some (e.returns (.write bytes (.ok ())))
      | .getStatus => some { e with handler := { e.handler with pc := .awaitingStatus } }
      | .close => some { e with handler := { e.handler with pc := .joining } }
    else none
  | _ => none

def Endpoint.recv (e : Endpoint) : Option Endpoint :=
  match e.handler.pc, e.channels.packets with
  | .reading, packet :: rest =>
    let e := { e with channels := { e.channels with packets := rest } }
    match packet with
    | .data bytes => some (e.returns (.read (.ok bytes)))
    | _ => some (e.panic .notData)
  | .reading, [] =>
    if connGone e.task.pc then
      some { e with handler := { e.handler with pc := .checking false } }
    else none
  | _, _ => none

def Endpoint.recvStatus (e : Endpoint) : Option Endpoint :=
  match e.handler.pc, e.channels.statuses with
  | .awaitingStatus, status :: rest =>
    some ({ e with channels := { e.channels with statuses := rest } }.returns
      (.getStatus (.ok status)))
  | .awaitingStatus, [] =>
    if connGone e.task.pc then
      some { e with handler := { e.handler with pc := .checking true } }
    else none
  | _, _ => none

/-- check_task_state().await.expect("Task should finished") -/
def Endpoint.check (e : Endpoint) : Option Endpoint :=
  match e.handler.pc with
  | .checking forStatus =>
    match e.checkTaskState with
    | .error site => some (e.panic site)
    | .ok (e, none) => some (e.panic .taskNotFinished)
    | .ok (e, some closed) =>
      if forStatus then some (e.returns (.getStatus (.error closed)))
      else some (e.returns (.read (.error closed)))
  | _ => none

def Endpoint.joined (e : Endpoint) : Option Endpoint :=
  match e.handler.pc with
  | .joining =>
    match e.handler.taskHandle with
    | .uninitialized => some (e.panic .uninitialized)
    | .finished closed => some (e.closeReturns (closeResult closed))
    | .running =>
      match e.task.pc with
      | .finished result =>
        some ((e.join result).closeReturns
          (closeResult (closedWith result (messages e.channels.packets))))
      | .panicked _ => some (e.panic .joinFailed)
      | .aborted => some (e.panic .joinFailed)
      | _ => none
  | _ => none

/-- The future of a call that is not close is dropped at its await. -/
def Endpoint.cancel (e : Endpoint) : Option Endpoint :=
  match e.handler.pc with
  | .requesting .close => none
  | .requesting _ | .reading | .awaitingStatus =>
    some { e with handler := { e.handler with pc := .idle } }
  | _ => none

inductive EndpointEvent where
  | task (e : TaskEvent)
  | write (bytes : List UInt8)
  | read
  | getStatus
  | close
  | requested
  | recv
  | recvStatus
  | check
  | joined
  | cancel
  | dropHandler
  deriving DecidableEq, Repr

/-- The handler is in the user's hands, and no call on it is running. -/
def Endpoint.callable (e : Endpoint) : Bool :=
  e.handler.taskHandle ≠ .uninitialized && e.handler.pc = .idle

/-- connect and listen hand out the handler once run is spawned. A dropped handler aborts
    the task only while its task_handle is Running. -/
def Endpoint.step (e : Endpoint) : EndpointEvent → Option Endpoint
  | .task event =>
    if event = .abort ∧ e.handler.taskHandle ≠ .running then none
    else
      (e.task.step e.channels event).map fun (task, channels) =>
        { e with
          task := task
          channels := channels
          handler := if event = .spawn then { e.handler with taskHandle := .running }
            else e.handler }
  | .write bytes => if e.callable then some (e.write bytes) else none
  | .read => if e.callable then some e.read else none
  | .getStatus => if e.callable then some e.getStatus else none
  | .close => if e.callable then some e.close else none
  | .requested => e.requested
  | .recv => e.recv
  | .recvStatus => e.recvStatus
  | .check => e.check
  | .joined => e.joined
  | .cancel => e.cancel
  | .dropHandler =>
    match e.handler.pc with
    | .checking _ | .gone => none
    | _ => if e.handler.taskHandle ≠ .uninitialized then some e.dropHandler else none

end NcdHandler
