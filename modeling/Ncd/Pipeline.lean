import Ncd.Bridges
import Ncd.Netlink
import Ncd.OpenClose

/- The way of a written message through the whole daemon: ncd_write, the netlink queue, the
   main loop, the command channel of the device, connection_run and its connection. The
   sessions are those of Sessions; each of their actors is now a connection_run with the
   endpoint it owns. -/
namespace NcdPipeline
open NcdConnection NcdHandler NcdBooks NcdDriver NcdDaemon NcdFlowControl NcdSessions NcdOpenClose
  NcdBridges LabelledRuns
open NcdNetlink (nlmsgHdrlen)

def recvBufSize : Nat := 4096 * 1024

def dataMessageLen (bytes : List UInt8) : Nat := nlmsgHdrlen + (1 + bytes.length)

/-- fresh is what Connection::new makes when this device is opened; opening is the connection
    inside Device::open. writes lists the calls of ncd_write that returned count, each with
    its session. -/
structure Pipeline where
  fresh : Endpoint
  s : Sessions := {}
  opening : Option Endpoint := none
  links : List ConnectionRun := []
  writes : List (Nat × List UInt8) := []
  deriving DecidableEq, Repr

/-- sent: kmalloc, copy_from_user and send_to_daemon succeed. -/
inductive PipelineEvent where
  | session (event : SessionEvent)
  | ncdWrite (bytes : List UInt8) (sent : Bool)
  | opening (event : TaskEvent)
  | link (index : Nat) (event : RunEvent)
  deriving DecidableEq, Repr

def Pipeline.ncdWrite (p : Pipeline) (bytes : List UInt8) (sent : Bool) : Option Pipeline :=
  if p.s.user ≠ .opened then none
  else if bytes = [] ∨ sent = false then some p
  else
    (p.s.ncdWrite bytes).map fun s =>
      { p with s := s, writes := p.writes ++ [(p.s.session, bytes)] }

/-- The DATA arm; try_recv drops a message that its buffer has cut off. -/
def Pipeline.data (p : Pipeline) : Option Pipeline :=
  match p.s.flow.daemon, p.s.flow.queue with
  | .select, .data bytes :: rest =>
    if dataMessageLen bytes ≤ recvBufSize then p.s.data.map fun s => { p with s := s }
    else some { p with s := { p.s with flow := { p.s.flow with queue := rest } } }
  | _, _ => none

def Pipeline.connect (p : Pipeline) (success : Bool) : Option Pipeline :=
  match p.opening with
  | some conn =>
    if success then
      if conn.callable then
        (p.s.connect true).map fun s =>
          { p with s := s, opening := none, links := p.links ++ [{ conn := conn, pc := .select }] }
      else none
    else (p.s.connect false).map fun s => { p with s := s, opening := none }
  | none => none

def Pipeline.session (p : Pipeline) : SessionEvent → Option Pipeline
  | .actor _ _ => none
  | .ncdWrite _ => none
  | .openReq => p.s.openReq.map fun s => { p with s := s, opening := some p.fresh }
  | .connect success => p.connect success
  | .data => p.data
  | event => (p.s.step event).map fun s => { p with s := s }

def remaining (commands : List WriteCommand) (sender : Bool) :
    RunEvent → Option (List WriteCommand)
  | .command (some command) => if commands.head? = some command then some commands.tail else none
  | .command none => if commands = [] ∧ sender = false then some [] else none
  | .mainLoopEnds => none
  | .start => none
  | _ => some commands

/-- One step of a connection_run. What it forwards goes to the main loop. -/
def Pipeline.link (p : Pipeline) (index : Nat) (event : RunEvent) : Option Pipeline :=
  match p.s.actors[index]?, p.links[index]? with
  | some actor, some run =>
    (remaining actor.commands (p.s.writeTx = some index) event).bind fun rest =>
      (run.step event).map fun after =>
        { p with
          links := p.links.set index after
          s := { p.s with
            actors := p.s.actors.set index
              { actor with
                commands := rest
                phase := if after.pc = .ended then .finished else .running }
            tcp := p.s.tcp ++ (after.forwarded.drop run.forwarded.length).map fun msg =>
              msg.map (TaggedByte.mk actor.session) } }
  | _, _ => none

def Pipeline.step (p : Pipeline) : PipelineEvent → Option Pipeline
  | .session event => p.session event
  | .ncdWrite bytes sent => p.ncdWrite bytes sent
  | .opening event =>
    match p.opening with
    | some conn => (conn.step (.task event)).map fun conn => { p with opening := some conn }
    | none => none
  | .link index event => p.link index event

/-- What the messages of a device and its channels show of a state: the queue without the
    KFIFO_* messages, and for each actor its session and its commands. -/
structure Lane where
  user : UserPc
  connStatus : NcdSessions.ConnStatus
  session : Nat
  msgs : List DriverMsg
  daemon : Answer
  writeTx : Option Nat
  actors : List (Nat × List WriteCommand)

def relevant : DriverMsg → Bool
  | .full | .available => false
  | _ => true

@[simp] theorem relevant_openReq (session : Nat) : relevant (.openReq session) = true := rfl
@[simp] theorem relevant_data (bytes : List UInt8) : relevant (.data bytes) = true := rfl
@[simp] theorem relevant_closeReq : relevant .closeReq = true := rfl
@[simp] theorem relevant_full : relevant .full = false := rfl
@[simp] theorem relevant_available : relevant .available = false := rfl

def lane (s : Sessions) : Lane where
  user := s.user
  connStatus := s.connStatus
  session := s.session
  msgs := s.flow.queue.filter relevant
  daemon := answer s.flow.daemon
  writeTx := s.writeTx
  actors := s.actors.map fun actor => (actor.session, actor.commands)

def Lane.give (l : Lane) (command : WriteCommand) : Lane :=
  match l.writeTx with
  | some index =>
    { l with actors := l.actors.modify index fun actor => (actor.1, actor.2 ++ [command]) }
  | none => l

inductive Lane.Step (l : Lane) : SessionEvent → Lane → Prop where
  | opens (here : l.user = .closed) :
      Step l .ncdOpen
        { l with user := .requesting, connStatus := .waiting, session := l.session + 1 }
  | asks (here : l.user = .requesting) :
      Step l (.sendOpenReq true)
        { l with user := .connecting, msgs := l.msgs ++ [.openReq l.session] }
  | unsent (here : l.user = .requesting) : Step l (.sendOpenReq false) { l with user := .closed }
  | succeeds (here : l.user = .connecting) (status : l.connStatus = .success) :
      Step l .finishOpen { l with user := .opened }
  | refused (here : l.user = .connecting) (status : l.connStatus = .failed) :
      Step l .finishOpen { l with user := .closed }
  | interrupted (here : l.user = .connecting) :
      Step l .interruptOpen { l with user := .closed, connStatus := .waiting }
  | writes {bytes : List UInt8} (here : l.user = .opened) :
      Step l (.ncdWrite bytes) { l with msgs := l.msgs ++ [.data bytes] }
  | closes (here : l.user = .opened) :
      Step l (.sendCloseReq true) { l with user := .releasing, msgs := l.msgs ++ [.closeReq] }
  | unclosed (here : l.user = .opened) : Step l (.sendCloseReq false) { l with user := .releasing }
  | released (here : l.user = .releasing) :
      Step l .ncdRelease { l with user := .closed, connStatus := .waiting }
  | takesOpen {session : Nat} {rest : List DriverMsg} (here : l.daemon = .idle)
      (first : l.msgs = .openReq session :: rest) :
      Step l .openReq { l with msgs := rest, daemon := .opening session }
  | connects {session : Nat} (here : l.daemon = .opening session) :
      Step l (.connect true)
        { l with
          daemon := .answering true
          writeTx := some l.actors.length
          actors := l.actors ++ [(session, [])] }
  | misses {session : Nat} (here : l.daemon = .opening session) :
      Step l (.connect false) { l with daemon := .answering false }
  | replies {success : Bool} (here : l.daemon = .answering success) :
      Step l .connRes { l with daemon := .idle, connStatus := statusOf success }
  | takesData {bytes : List UInt8} {rest : List DriverMsg} (here : l.daemon = .idle)
      (first : l.msgs = .data bytes :: rest) :
      Step l .data { l.give (.data bytes) with msgs := rest }
  | takesClose {rest : List DriverMsg} (here : l.daemon = .idle)
      (first : l.msgs = .closeReq :: rest) :
      Step l .closeReq { l.give .close with msgs := rest, writeTx := none }
  | pauses {event : SessionEvent} : Step l event (l.give .pauseRead)
  | resumes {event : SessionEvent} : Step l event (l.give .resumeRead)
  | rests {event : SessionEvent} : Step l event l

theorem lane_command (s : Sessions) (c : WriteCommand) :
    lane (s.command (some c)) = (lane s).give c := by
  unfold Sessions.command Lane.give
  cases found : s.writeTx with
  | none => simp [lane, found]
  | some index =>
    simp only [lane, found, Lane.mk.injEq, true_and]
    refine List.ext_getElem? fun j => ?_
    simp only [List.getElem?_map, List.getElem?_modify, Functor.map, Option.map_map]
    refine congrArg (Option.map · s.actors[j]?) (funext fun actor => ?_)
    by_cases here : index = j <;> simp [here]

theorem command_none (s : Sessions) : s.command none = s := by
  unfold Sessions.command
  cases s.writeTx <;> rfl

/- The steps of the flow put KFIFO_* messages into the queue and take them out. -/
theorem flow_msgs {α : Type} {s s' : Flow α} {event : FlowEvent α}
    (step : s.step event = some s') : s'.queue.filter relevant = s.queue.filter relevant := by
  cases step_change step with
  | pauses here queue same =>
    rw [queue]
    rfl
  | resets here queue =>
    rw [queue]
    rfl
  | asks here => simp
  | resumes here => simp
  | notifies here => simp
  | _ => rfl

theorem sync_command {α : Type} (minor : Minor α) (kfifoPaused accepts : Bool) :
    (minor.syncDeviceReading kfifoPaused accepts).2 = none ∨
      (minor.syncDeviceReading kfifoPaused accepts).2 = some .pauseRead ∨
      (minor.syncDeviceReading kfifoPaused accepts).2 = some .resumeRead := by
  unfold Minor.syncDeviceReading
  dsimp only
  split
  · exact .inl rfl
  · split
    · cases kfifoPaused || !minor.pending.isEmpty
      · exact .inr (.inr rfl)
      · exact .inr (.inl rfl)
    · exact .inl rfl

theorem flow_command {α : Type} (s : Flow α) (event : FlowEvent α) :
    s.command event = none ∨ s.command event = some .pauseRead ∨
      s.command event = some .resumeRead := by
  unfold Flow.command
  split
  · split
    · exact sync_command _ _ _
    · exact .inl rfl
  · split
    · exact sync_command _ _ _
    · exact .inl rfl
  · exact .inl rfl

theorem lane_same {s s' : Sessions} (user : s'.user = s.user)
    (status : s'.connStatus = s.connStatus)
    (session : s'.session = s.session)
    (msgs : s'.flow.queue.filter relevant = s.flow.queue.filter relevant)
    (daemon : answer s'.flow.daemon = answer s.flow.daemon) (writeTx : s'.writeTx = s.writeTx)
    (actors : s'.actors = s.actors) : lane s' = lane s := by
  simp only [lane, user, status, session, msgs, daemon, writeTx, actors]

theorem lane_flow {s : Sessions} {event : FlowEvent TaggedByte} {flow : Flow TaggedByte}
    (moved : s.flow.step event = some flow) (returned : List (Nat × TaggedByte)) :
    (lane s).Step (.flow event) (lane { s with
      flow := flow, actors := (s.command (s.flow.command event)).actors
      returned := returned }) := by
  have same : lane { s with
      flow := flow, actors := (s.command (s.flow.command event)).actors, returned := returned } =
      lane (s.command (s.flow.command event)) := by
    rw [command_keeps]
    exact lane_same rfl rfl rfl (flow_msgs moved) (flow_answer moved).2 rfl rfl
  rw [same]
  rcases flow_command s.flow event with nothing | pause | resume
  · rw [nothing, command_none]
    exact .rests
  · rw [pause, lane_command]
    exact .pauses
  · rw [resume, lane_command]
    exact .resumes

/- One case per move of the sessions: what it does to the lane. -/
theorem lane_step {s s' : Sessions} {event : SessionEvent} (actor : ∀ i e, event ≠ .actor i e)
    (step : s.step event = some s') : (lane s).Step event (lane s') := by
  cases session_move step with
  | opens here => exact Lane.Step.opens (l := lane s) here
  | asks here => simpa [lane, List.filter_cons] using Lane.Step.asks (l := lane s) here
  | unsent here => exact Lane.Step.unsent (l := lane s) here
  | succeeds here status => exact Lane.Step.succeeds (l := lane s) here status
  | refused here status => exact Lane.Step.refused (l := lane s) here status
  | interrupted here => exact Lane.Step.interrupted (l := lane s) here
  | @writes bytes here =>
    simpa [lane, List.filter_cons] using @Lane.Step.writes (lane s) bytes here
  | closes here idle => simpa [lane, List.filter_cons] using Lane.Step.closes (l := lane s) here
  | unclosed here idle => exact Lane.Step.unclosed (l := lane s) here
  | released here => exact Lane.Step.released (l := lane s) here
  | flows permitted moved => exact lane_flow moved _
  | @takesOpen session rest here queue =>
    have idle : (lane s).daemon = .idle := by simp [lane, here, answer]
    have first : (lane s).msgs = .openReq session :: rest.filter relevant := by
      simp [lane, queue, List.filter_cons]
    exact Lane.Step.takesOpen idle first
  | @connects session here =>
    have opening : (lane s).daemon = .opening session := by simp [lane, here, answer]
    simpa [lane, answer] using Lane.Step.connects opening
  | @misses session here =>
    have opening : (lane s).daemon = .opening session := by simp [lane, here, answer]
    exact Lane.Step.misses opening
  | @replies success here =>
    have answering : (lane s).daemon = .answering success := by simp [lane, here, answer]
    exact Lane.Step.replies answering
  | @takesData bytes rest here queue =>
    have idle : (lane s).daemon = .idle := by simp [lane, here, answer]
    have first : (lane s).msgs = .data bytes :: rest.filter relevant := by
      simp [lane, queue, List.filter_cons]
    have taken := Lane.Step.takesData idle first
    rw [← lane_command, command_keeps] at taken
    exact taken
  | @takesClose rest here queue =>
    have idle : (lane s).daemon = .idle := by simp [lane, here, answer]
    have first : (lane s).msgs = .closeReq :: rest.filter relevant := by
      simp [lane, queue, List.filter_cons]
    have taken := Lane.Step.takesClose idle first
    rw [← lane_command, command_keeps] at taken
    exact taken
  | @takesTcp data rest flow tcp moved =>
    have same : lane { s with flow := flow, tcp := rest } = lane s :=
      lane_same rfl rfl rfl (flow_msgs moved) (flow_answer moved).2 rfl rfl
    rw [same]
    exact .rests
  | acts there round => exact absurd rfl (actor _ _)

end NcdPipeline
