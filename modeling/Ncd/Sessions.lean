import Ncd.FlowControl

/- The sessions of one device, one after the other: the process that opens, reads and
   releases it, the main loop of the daemon with its Device, and one actor task for every
   connection that Device::open has made. -/
namespace NcdSessions
open NcdDriver NcdDaemon NcdFlowControl LabelledRuns

/-- A byte of a Data packet, and the ncd_open whose OPEN_REQ its connection was opened for. -/
structure TaggedByte where
  session : Nat
  value : UInt8
  deriving DecidableEq, Repr

inductive ConnStatus where
  | waiting
  | success
  | failed
  deriving DecidableEq, Repr

/-- Where the process rests. open_count is 1 unless it is closed. -/
inductive UserPc where
  | closed
  | requesting
  | connecting
  | opened
  | releasing
  deriving DecidableEq, Repr

/-- closing: in libncd_runtime::close, or forwarding what it has returned. -/
inductive ActorPhase where
  | running
  | closing
  | finished
  deriving DecidableEq, Repr

/-- One connection_run; commands are those waiting in its write_rx. -/
structure Actor where
  session : Nat
  phase : ActorPhase := .running
  readPaused : Bool := false
  commands : List WriteCommand := []
  deriving DecidableEq, Repr

inductive ActorEvent where
  | forward (data : List UInt8)
  | command (written : Bool)
  | orphaned
  | fails
  | closed
  deriving DecidableEq, Repr

/-- One round of connection_run; sender says whether its write_tx still exists. -/
def Actor.step (actor : Actor) (sender : Bool) : ActorEvent → Option Actor
  | .forward _ =>
    match actor.phase with
    | .running => if actor.readPaused then none else some actor
    | .closing => some actor
    | .finished => none
  | .command written =>
    match actor.phase, actor.commands with
    | .running, .data _ :: rest =>
      some { actor with commands := rest, phase := if written then .running else .closing }
    | .running, .pauseRead :: rest => some { actor with commands := rest, readPaused := true }
    | .running, .resumeRead :: rest => some { actor with commands := rest, readPaused := false }
    | .running, .close :: rest => some { actor with commands := rest, phase := .closing }
    | _, _ => none
  | .orphaned =>
    match actor.phase, actor.commands with
    | .running, [] => if sender then none else some { actor with phase := .closing }
    | _, _ => none
  | .fails =>
    match actor.phase with
    | .running => if actor.readPaused then none else some { actor with phase := .closing }
    | _ => none
  | .closed =>
    match actor.phase with
    | .closing => some { actor with phase := .finished }
    | _ => none

/-- session counts the calls of ncd_open that got open_count; returned lists the bytes that
    ncd_read has returned, each with the session that was open then. -/
structure Sessions where
  flow : Flow TaggedByte := {}
  user : UserPc := .closed
  connStatus : ConnStatus := .waiting
  session : Nat := 0
  actors : List Actor := []
  writeTx : Option Nat := none
  tcp : List (List TaggedByte) := []
  returned : List (Nat × TaggedByte) := []
  deriving DecidableEq, Repr

inductive SessionEvent where
  | ncdOpen
  | sendOpenReq (sent : Bool)
  | finishOpen
  | interruptOpen
  | ncdWrite (bytes : List UInt8)
  | sendCloseReq (sent : Bool)
  | ncdRelease
  | flow (event : FlowEvent TaggedByte)
  | openReq
  | connect (success : Bool)
  | connRes
  | data
  | closeReq
  | tcp
  | actor (index : Nat) (event : ActorEvent)
  deriving DecidableEq, Repr

/-- ncd_open up to its OPEN_REQ. -/
def Sessions.ncdOpen (s : Sessions) : Option Sessions :=
  match s.user with
  | .closed =>
    some { s with
      user := .requesting
      connStatus := .waiting
      session := s.session + 1
      flow := { s.flow with dev := ncdClearBuffers s.flow.dev } }
  | _ => none

def Sessions.sendOpenReq (s : Sessions) (sent : Bool) : Option Sessions :=
  match s.user with
  | .requesting =>
    if sent then
      some { s with
        user := .connecting
        flow := { s.flow with queue := s.flow.queue ++ [.openReq s.session] } }
    else some { s with user := .closed }
  | _ => none

def Sessions.finishOpen (s : Sessions) : Option Sessions :=
  match s.user, s.connStatus with
  | .connecting, .success => some { s with user := .opened }
  | .connecting, .failed => some { s with user := .closed }
  | _, _ => none

def Sessions.interruptOpen (s : Sessions) : Option Sessions :=
  match s.user with
  | .connecting => some { s with user := .closed, connStatus := .waiting }
  | _ => none

def Sessions.ncdWrite (s : Sessions) (bytes : List UInt8) : Option Sessions :=
  match s.user with
  | .opened => some { s with flow := { s.flow with queue := s.flow.queue ++ [.data bytes] } }
  | _ => none

def Sessions.sendCloseReq (s : Sessions) (sent : Bool) : Option Sessions :=
  match s.user, s.flow.reader with
  | .opened, .idle =>
    let queue := if sent then s.flow.queue ++ [.closeReq] else s.flow.queue
    some { s with user := .releasing, flow := { s.flow with queue := queue } }
  | _, _ => none

def Sessions.ncdRelease (s : Sessions) : Option Sessions :=
  match s.user with
  | .releasing =>
    some { s with
      user := .closed
      connStatus := .waiting
      flow := { s.flow with dev := ncdClearBuffers s.flow.dev } }
  | _ => none

/-- Device::send_command finds a receiver. -/
def Sessions.accepts (s : Sessions) : Bool :=
  match s.writeTx.bind (s.actors[·]?) with
  | some actor => actor.phase ≠ .finished
  | none => false

def Sessions.command (s : Sessions) (command : Option WriteCommand) : Sessions :=
  match s.writeTx, command with
  | some index, some command =>
    { s with
      actors := s.actors.modify index fun actor =>
        { actor with commands := actor.commands ++ [command] } }
  | _, _ => s

theorem command_keeps (s : Sessions) (command : Option WriteCommand) :
    s.command command = { s with actors := (s.command command).actors } := by
  unfold Sessions.command
  split <;> rfl

/-- The steps that the session and the channels allow. -/
def Sessions.permits (s : Sessions) : FlowEvent TaggedByte → Bool
  | .read _ => s.user = .opened
  | .tcp _ => false
  | .kfifo accepts => accepts = s.accepts
  | .flush accepts => accepts = s.accepts
  | _ => true

def Sessions.copied (s : Sessions) : FlowEvent TaggedByte → List TaggedByte
  | .copy true =>
    match s.flow.reader with
    | .copying kbuf _ => kbuf
    | _ => []
  | _ => []

def Sessions.flowStep (s : Sessions) (event : FlowEvent TaggedByte) : Option Sessions :=
  if s.permits event then
    (s.flow.step event).map fun flow =>
      let after := s.command (s.flow.command event)
      { after with flow := flow, returned := s.returned ++ (s.copied event).map (s.session, ·) }
  else none

/-- The OPEN_REQ arm up to Device::open. -/
def Sessions.openReq (s : Sessions) : Option Sessions :=
  match s.flow.daemon, s.flow.queue with
  | .select, .openReq session :: rest =>
    some { s with
      flow := { s.flow with
        queue := rest, minor := s.flow.minor.cleared, daemon := .opening session } }
  | _, _ => none

def Sessions.connect (s : Sessions) (success : Bool) : Option Sessions :=
  match s.flow.daemon with
  | .opening session =>
    if success then
      some { s with
        actors := s.actors ++ [{ session := session }]
        writeTx := some s.actors.length
        flow := { s.flow with daemon := .answering true } }
    else some { s with flow := { s.flow with daemon := .answering false } }
  | _ => none

def Sessions.connRes (s : Sessions) : Option Sessions :=
  match s.flow.daemon with
  | .answering success =>
    some { s with
      connStatus := if success then .success else .failed
      flow := { s.flow with daemon := .select } }
  | _ => none

def Sessions.data (s : Sessions) : Option Sessions :=
  match s.flow.daemon, s.flow.queue with
  | .select, .data bytes :: rest =>
    some { s.command (some (.data bytes)) with flow := { s.flow with queue := rest } }
  | _, _ => none

def Sessions.closeReq (s : Sessions) : Option Sessions :=
  match s.flow.daemon, s.flow.queue with
  | .select, .closeReq :: rest =>
    some { s.command (some .close) with
      writeTx := none
      flow := { s.flow with queue := rest, minor := s.flow.minor.cleared } }
  | _, _ => none

def Sessions.takeTcp (s : Sessions) : Option Sessions :=
  match s.tcp with
  | data :: rest => (s.flow.step (.tcp data)).map fun flow => { s with flow := flow, tcp := rest }
  | [] => none

/-- What the step puts into tcp_tx. -/
def forwarded (session : Nat) : ActorEvent → List (List TaggedByte)
  | .forward data => [data.map (TaggedByte.mk session)]
  | _ => []

def Sessions.actorStep (s : Sessions) (index : Nat) (event : ActorEvent) : Option Sessions :=
  match s.actors[index]? with
  | some actor =>
    (actor.step (s.writeTx = some index) event).map fun after =>
      { s with
        actors := s.actors.set index after
        tcp := s.tcp ++ forwarded actor.session event }
  | none => none

def Sessions.step (s : Sessions) : SessionEvent → Option Sessions
  | .ncdOpen => s.ncdOpen
  | .sendOpenReq sent => s.sendOpenReq sent
  | .finishOpen => s.finishOpen
  | .interruptOpen => s.interruptOpen
  | .ncdWrite bytes => s.ncdWrite bytes
  | .sendCloseReq sent => s.sendCloseReq sent
  | .ncdRelease => s.ncdRelease
  | .flow event => s.flowStep event
  | .openReq => s.openReq
  | .connect success => s.connect success
  | .connRes => s.connRes
  | .data => s.data
  | .closeReq => s.closeReq
  | .tcp => s.takeTcp
  | .actor index event => s.actorStep index event

/-- Everything that one step can be. -/
inductive SessionMove (s : Sessions) : SessionEvent → Sessions → Prop where
  | opens (here : s.user = .closed) :
      SessionMove s .ncdOpen { s with
        user := .requesting
        connStatus := .waiting
        session := s.session + 1
        flow := { s.flow with dev := ncdClearBuffers s.flow.dev } }
  | asks (here : s.user = .requesting) :
      SessionMove s (.sendOpenReq true) { s with
        user := .connecting
        flow := { s.flow with queue := s.flow.queue ++ [.openReq s.session] } }
  | unsent (here : s.user = .requesting) :
      SessionMove s (.sendOpenReq false) { s with user := .closed }
  | succeeds (here : s.user = .connecting) (status : s.connStatus = .success) :
      SessionMove s .finishOpen { s with user := .opened }
  | refused (here : s.user = .connecting) (status : s.connStatus = .failed) :
      SessionMove s .finishOpen { s with user := .closed }
  | interrupted (here : s.user = .connecting) :
      SessionMove s .interruptOpen { s with user := .closed, connStatus := .waiting }
  | writes {bytes : List UInt8} (here : s.user = .opened) :
      SessionMove s (.ncdWrite bytes) { s with
        flow := { s.flow with queue := s.flow.queue ++ [.data bytes] } }
  | closes (here : s.user = .opened) (idle : s.flow.reader = .idle) :
      SessionMove s (.sendCloseReq true) { s with
        user := .releasing, flow := { s.flow with queue := s.flow.queue ++ [.closeReq] } }
  | unclosed (here : s.user = .opened) (idle : s.flow.reader = .idle) :
      SessionMove s (.sendCloseReq false) { s with user := .releasing }
  | released (here : s.user = .releasing) :
      SessionMove s .ncdRelease { s with
        user := .closed
        connStatus := .waiting
        flow := { s.flow with dev := ncdClearBuffers s.flow.dev } }
  | flows {event : FlowEvent TaggedByte} {flow : Flow TaggedByte}
      (permitted : s.permits event = true) (moved : s.flow.step event = some flow) :
      SessionMove s (.flow event) { s with
        flow := flow
        actors := (s.command (s.flow.command event)).actors
        returned := s.returned ++ (s.copied event).map (s.session, ·) }
  | takesOpen {session : Nat} {rest : List DriverMsg} (here : s.flow.daemon = .select)
      (queue : s.flow.queue = .openReq session :: rest) :
      SessionMove s .openReq { s with
        flow := { s.flow with
          queue := rest, minor := s.flow.minor.cleared, daemon := .opening session } }
  | connects {session : Nat} (here : s.flow.daemon = .opening session) :
      SessionMove s (.connect true) { s with
        actors := s.actors ++ [{ session := session }]
        writeTx := some s.actors.length
        flow := { s.flow with daemon := .answering true } }
  | misses {session : Nat} (here : s.flow.daemon = .opening session) :
      SessionMove s (.connect false) { s with flow := { s.flow with daemon := .answering false } }
  | replies {success : Bool} (here : s.flow.daemon = .answering success) :
      SessionMove s .connRes { s with
        connStatus := if success then .success else .failed
        flow := { s.flow with daemon := .select } }
  | takesData {bytes : List UInt8} {rest : List DriverMsg} (here : s.flow.daemon = .select)
      (queue : s.flow.queue = .data bytes :: rest) :
      SessionMove s .data { s with
        actors := (s.command (some (.data bytes))).actors
        flow := { s.flow with queue := rest } }
  | takesClose {rest : List DriverMsg} (here : s.flow.daemon = .select)
      (queue : s.flow.queue = .closeReq :: rest) :
      SessionMove s .closeReq { s with
        actors := (s.command (some .close)).actors
        writeTx := none
        flow := { s.flow with queue := rest, minor := s.flow.minor.cleared } }
  | takesTcp {data : List TaggedByte} {rest : List (List TaggedByte)} {flow : Flow TaggedByte}
      (tcp : s.tcp = data :: rest) (moved : s.flow.step (.tcp data) = some flow) :
      SessionMove s .tcp { s with flow := flow, tcp := rest }
  | acts {index : Nat} {event : ActorEvent} {actor after : Actor}
      (there : s.actors[index]? = some actor)
      (round : actor.step (s.writeTx = some index) event = some after) :
      SessionMove s (.actor index event) { s with
        actors := s.actors.set index after
        tcp := s.tcp ++ forwarded actor.session event }

section Moves

variable {s s' : Sessions}

theorem sendOpenReq_move {sent : Bool} (step : s.sendOpenReq sent = some s') :
    SessionMove s (.sendOpenReq sent) s' := by
  unfold Sessions.sendOpenReq at step
  split at step
  · rename_i here
    cases sent with
    | true =>
      cases step
      exact .asks here
    | false =>
      cases step
      exact .unsent here
  · cases step

theorem finishOpen_move (step : s.finishOpen = some s') : SessionMove s .finishOpen s' := by
  unfold Sessions.finishOpen at step
  split at step
  · rename_i here status
    cases step
    exact .succeeds here status
  · rename_i here status
    cases step
    exact .refused here status
  · cases step

theorem sendCloseReq_move {sent : Bool} (step : s.sendCloseReq sent = some s') :
    SessionMove s (.sendCloseReq sent) s' := by
  unfold Sessions.sendCloseReq at step
  split at step
  · rename_i here idle
    cases sent with
    | true =>
      cases step
      exact .closes here idle
    | false =>
      cases step
      exact .unclosed here idle
  · cases step

theorem flowStep_move {event : FlowEvent TaggedByte} (step : s.flowStep event = some s') :
    SessionMove s (.flow event) s' := by
  unfold Sessions.flowStep at step
  split at step
  · rename_i permitted
    obtain ⟨flow, moved, rfl⟩ := Option.map_eq_some_iff.mp step
    dsimp only
    rw [command_keeps]
    exact .flows permitted moved
  · cases step

theorem connect_move {success : Bool} (step : s.connect success = some s') :
    SessionMove s (.connect success) s' := by
  unfold Sessions.connect at step
  split at step
  · rename_i session here
    cases success with
    | true =>
      cases step
      exact .connects here
    | false =>
      cases step
      exact .misses here
  · cases step

theorem data_move (step : s.data = some s') : SessionMove s .data s' := by
  unfold Sessions.data at step
  split at step
  · rename_i bytes rest here queue
    rw [command_keeps] at step
    cases step
    exact .takesData here queue
  · cases step

theorem closeReq_move (step : s.closeReq = some s') : SessionMove s .closeReq s' := by
  unfold Sessions.closeReq at step
  split at step
  · rename_i rest here queue
    rw [command_keeps] at step
    cases step
    exact .takesClose here queue
  · cases step

theorem takeTcp_move (step : s.takeTcp = some s') : SessionMove s .tcp s' := by
  unfold Sessions.takeTcp at step
  split at step
  · rename_i data rest tcp
    obtain ⟨flow, moved, rfl⟩ := Option.map_eq_some_iff.mp step
    exact .takesTcp tcp moved
  · cases step

theorem actorStep_move {index : Nat} {event : ActorEvent}
    (step : s.actorStep index event = some s') : SessionMove s (.actor index event) s' := by
  unfold Sessions.actorStep at step
  split at step
  · rename_i actor there
    obtain ⟨after, round, rfl⟩ := Option.map_eq_some_iff.mp step
    exact .acts there round
  · cases step

theorem session_move {event : SessionEvent} (step : s.step event = some s') :
    SessionMove s event s' := by
  cases event with
  | ncdOpen =>
    simp only [Sessions.step, Sessions.ncdOpen] at step
    split at step <;> cases step
    rename_i here
    exact .opens here
  | sendOpenReq sent => exact sendOpenReq_move step
  | finishOpen => exact finishOpen_move step
  | interruptOpen =>
    simp only [Sessions.step, Sessions.interruptOpen] at step
    split at step <;> cases step
    rename_i here
    exact .interrupted here
  | ncdWrite bytes =>
    simp only [Sessions.step, Sessions.ncdWrite] at step
    split at step <;> cases step
    rename_i here
    exact .writes here
  | sendCloseReq sent => exact sendCloseReq_move step
  | ncdRelease =>
    simp only [Sessions.step, Sessions.ncdRelease] at step
    split at step <;> cases step
    rename_i here
    exact .released here
  | flow event => exact flowStep_move step
  | openReq =>
    simp only [Sessions.step, Sessions.openReq] at step
    split at step <;> cases step
    rename_i here queue
    exact .takesOpen here queue
  | connect success => exact connect_move step
  | connRes =>
    simp only [Sessions.step, Sessions.connRes] at step
    split at step <;> cases step
    rename_i here
    exact .replies here
  | data => exact data_move step
  | closeReq => exact closeReq_move step
  | tcp => exact takeTcp_move step
  | actor index event => exact actorStep_move step

/-- Every move is a step. -/
theorem move_session {event : SessionEvent} (move : SessionMove s event s') :
    s.step event = some s' := by
  cases move with
  | opens here => simp [Sessions.step, Sessions.ncdOpen, here]
  | asks here | unsent here => simp [Sessions.step, Sessions.sendOpenReq, here]
  | succeeds here status | refused here status =>
    simp [Sessions.step, Sessions.finishOpen, here, status]
  | interrupted here => simp [Sessions.step, Sessions.interruptOpen, here]
  | writes here => simp [Sessions.step, Sessions.ncdWrite, here]
  | closes here idle => simp [Sessions.step, Sessions.sendCloseReq, here, idle]
  | unclosed here idle =>
    simp only [Sessions.step, Sessions.sendCloseReq, here, idle, Bool.false_eq_true, if_false]
    rw [← idle]
  | released here => simp [Sessions.step, Sessions.ncdRelease, here]
  | flows permitted moved =>
    simp only [Sessions.step, Sessions.flowStep, permitted, moved, if_true, Option.map_some]
    rw [command_keeps]
  | takesOpen here queue => simp [Sessions.step, Sessions.openReq, here, queue]
  | connects here | misses here => simp [Sessions.step, Sessions.connect, here]
  | replies here => simp [Sessions.step, Sessions.connRes, here]
  | takesData here queue =>
    simp only [Sessions.step, Sessions.data, here, queue]
    rw [command_keeps]
  | takesClose here queue =>
    simp only [Sessions.step, Sessions.closeReq, here, queue]
    rw [command_keeps]
  | takesTcp tcp moved => simp [Sessions.step, Sessions.takeTcp, tcp, moved]
  | acts there round => simp [Sessions.step, Sessions.actorStep, there, round]

end Moves

def created : Sessions := {}

end NcdSessions
