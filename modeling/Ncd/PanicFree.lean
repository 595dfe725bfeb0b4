import Ncd.Books

/- Which peer input can make run panic: an invariant that rules out every other
   panicking expression of run, handle_packet, close_inner and switch_to. -/
namespace NcdPanicFree
open NcdPacket NcdFrame NcdIoState NcdConnection NcdHandler NcdTaskMoves NcdTaskSteps NcdBooks
  LabelledRuns

inductive Phase where
  | handshake
  | running
  | ended
  | panicked
  deriving DecidableEq, Repr

def nextPhase : Resume → Phase
  | .helloSent | .ackSent _ => .handshake
  | .loop | .drain | .peerClosing | .closing _ => .running

def phase : Pc → Phase
  | .start | .awaitHelloAck | .awaitHello | .failed _ => .handshake
  | .sending _ next => nextPhase next
  | .connected | .spawned | .select | .delivering _ _ | .replying _ | .draining
  | .shuttingDown _ | .awaitClose _ _ => .running
  | .returned _ | .dropped _ | .finished _ | .aborted => .ended
  | .panicked _ => .panicked

/-- A task after its handshake that has not panicked. -/
def InRun (t : Task) : Prop :=
  (phase t.pc = .running ∧ Ready t.conn) ∨ phase t.pc = .ended

def isHello : Packet → Bool
  | .controlHello _ | .controlHelloAck _ => true
  | _ => false

def received (t : Task) : TaskEvent → Option Packet
  | .packet => t.conn.io.packetBuffer.head?
  | .read chunk =>
    if chunk = [] then none
    else
      match t.conn.io.readBytes chunk with
      | .ok io => io.packetBuffer.head?
      | .error _ => none
  | _ => none

/-- handle_packet is given a ControlHello or a ControlHelloAck. -/
def HandlesHello (t : Task) (event : TaskEvent) : Prop :=
  t.pc = .select ∧ (received t event).any isHello

instance (t : Task) (event : TaskEvent) : Decidable (HandlesHello t event) :=
  inferInstanceAs (Decidable (_ ∧ _))

def Outcome (hello : Prop) (t' : Task) : Prop :=
  (hello → t'.pc = .panicked .helloAfterHandshake) ∧ (¬ hello → InRun t')

theorem outcome_of {hello : Prop} {t' : Task} (none : ¬ hello) (inRun : InRun t') :
    Outcome hello t' :=
  ⟨fun is => absurd is none, fun _ => inRun⟩

theorem outcome_iff {hello hello' : Prop} {t' : Task} (same : hello ↔ hello')
    (outcome : Outcome hello t') : Outcome hello' t' :=
  ⟨fun is => outcome.1 (same.mpr is), fun no => outcome.2 fun is => no (same.mp is)⟩

theorem not_panicked {t : Task} (inRun : InRun t) (site : PanicSite) : t.pc ≠ .panicked site := by
  intro panicked
  rcases inRun with ⟨running, _⟩ | ended
  · simp [panicked, phase] at running
  · simp [panicked, phase] at ended

theorem not_handshake {t : Task} (inRun : InRun t) : phase t.pc ≠ .handshake := by
  intro handshake
  rcases inRun with ⟨running, _⟩ | ended
  · simp [handshake] at running
  · simp [handshake] at ended

theorem inRun_at {t : Task} {pc : Pc} (at_pc : t.pc = pc) (running : phase pc = .running)
    (inRun : InRun t) : Ready t.conn := by
  rcases inRun with ⟨_, ready⟩ | ended
  · exact ready
  · rw [at_pc, running] at ended
    cases ended

theorem inRun_running {t : Task} (running : phase t.pc = .running) (ready : Ready t.conn) :
    InRun t := .inl ⟨running, ready⟩

theorem inRun_send {t : Task} {next : Resume} (running : nextPhase next = .running)
    (ready : Ready t.conn) (p : Packet) : InRun (t.send p next) := by
  rw [send_eq]
  exact .inl ⟨running, ready⟩

theorem inRun_loopTop {t : Task} (ready : Ready t.conn) : InRun t.loopTop := by
  rw [loopTop_ready ready.state]
  exact .inl ⟨rfl, ready⟩

theorem inRun_closeBySelf {t : Task} (ready : Ready t.conn) (inactive : Bool) :
    InRun (t.closeBySelf inactive) := by
  rw [closeBySelf_ready ready.state]
  exact inRun_send rfl ready _

theorem inRun_ping {t : Task} (ready : Ready t.conn) (id : UInt32) : InRun (t.pingPeer id) := by
  unfold Task.pingPeer
  rw [send_eq]
  exact .inl ⟨rfl, ready.state, ready.keepAlive, ready.query, ready.timeout⟩

theorem inRun_resume {t : Task} {next : Resume} (running : nextPhase next = .running)
    (ready : Ready t.conn) : InRun (t.resume next) := by
  cases next with
  | helloSent => simp [nextPhase] at running
  | ackSent peer => simp [nextPhase] at running
  | loop => exact inRun_loopTop ready
  | drain => exact inRun_running rfl ready
  | peerClosing => exact inRun_running rfl ready
  | closing inactive => exact inRun_running rfl ready

/- One case per packet: only the two hellos reach the unreachable!. -/
theorem handlePacket_inRun {t : Task} (ready : Ready t.conn) (p : Packet) :
    Outcome (isHello p) (t.handlePacket p) := by
  have ready' := resetTimers_ready ready t.clock
  cases p with
  | controlHello k => exact ⟨fun _ => rfl, fun no => absurd rfl no⟩
  | controlHelloAck k => exact ⟨fun _ => rfl, fun no => absurd rfl no⟩
  | controlClose =>
    refine outcome_of (by simp [isHello]) ?_
    have same : t.handlePacket .controlClose = { t with
        conn := t.conn.resetTimers t.clock, pc := .draining } :=
      closeByPeer_ready (t := { t with conn := t.conn.resetTimers t.clock }) ready'.state
    rw [same]
    exact inRun_running rfl ready'
  | controlKeepAlive => exact outcome_of (by simp [isHello]) (inRun_loopTop ready')
  | controlPing id => exact outcome_of (by simp [isHello]) (inRun_send rfl ready' _)
  | controlPong id =>
    exact outcome_of (by simp [isHello]) (inRun_loopTop (pong_ready ready' id t.clock))
  | data bytes => exact outcome_of (by simp [isHello]) (inRun_running rfl ready')

section Step

variable {t t' u : Task} {ch ch' : Channels} {event : TaskEvent}

theorem hands_received {p : Packet} (hands : Hands t event p u) : received t event = some p := by
  cases hands with
  | buffered buffer => simp [received, buffer]
  | read empty some read buffer => simp [received, some, read, buffer]

theorem breaks_received {e : ConnectionError} (breaks : Breaks t event e u) :
    received t event = none := by
  cases breaks with
  | io => rfl
  | garbled waits empty some bad => simp [received, some, bad]

theorem hands_ready {p : Packet} (hands : Hands t event p u) (ready : Ready t.conn) :
    Ready u.conn := by
  cases hands <;> exact ready_io ready _

theorem outcome_quiet (quiet : received t event = none) (inRun : InRun t') :
    Outcome (HandlesHello t event) t' :=
  outcome_of (by simp [HandlesHello, quiet]) inRun

theorem outcome_waits {inactive : Bool} {deadline : Nat}
    (here : t.pc = .awaitClose inactive deadline) (inRun : InRun t') :
    Outcome (HandlesHello t event) t' :=
  outcome_of (by simp [HandlesHello, here]) inRun

theorem sending_running {rest : List UInt8} {next : Resume} (inRun : InRun t)
    (here : t.pc = .sending rest next) : nextPhase next = .running := by
  cases next with
  | helloSent => exact absurd (by rw [here]; rfl) (not_handshake inRun)
  | ackSent peer => exact absurd (by rw [here]; rfl) (not_handshake inRun)
  | _ => rfl

theorem shaking_absurd {P : Prop} {pc : Pc} (inRun : InRun t) (here : t.pc = pc)
    (shaking : phase pc = .handshake) : P :=
  absurd (here ▸ shaking) (not_handshake inRun)

theorem step_outcome (inRun : InRun t) (alive : ch.handlerAlive = true)
    (step : t.step ch event = some (t', ch')) : Outcome (HandlesHello t event) t' := by
  cases task_move step with
  | saysHello here | awaitsHello here | acknowledged here | greeted here =>
    exact shaking_absurd inRun here rfl
  | shakeBreaks here | shakeEof here =>
    rcases here with here | here <;> exact shaking_absurd inRun here rfl
  | misgreeted here =>
    rcases here with ⟨here, _⟩ | ⟨here, _⟩ <;> exact shaking_absurd inRun here rfl
  | losesHello here shaking =>
    have running := sending_running inRun here
    rcases shaking with rfl | ⟨peer, rfl⟩ <;> cases running
  | spawns here =>
    have ready := inRun_at here rfl inRun
    exact outcome_quiet rfl (inRun_running rfl ready)
  | entersRun here => exact outcome_quiet rfl (inRun_ping (inRun_at here rfl inRun) _)
  | writes here =>
    have running := sending_running inRun here
    exact outcome_quiet rfl (inRun_running running (ready_io (inRun_at here running inRun) _))
  | resumes here =>
    have running := sending_running inRun here
    exact outcome_quiet rfl (inRun_resume running (ready_io (inRun_at here running inRun) _))
  | closesStream | losesSend | losesShutdown | givesUp | drops | finishes =>
    exact outcome_quiet rfl (.inr rfl)
  | awaitsClose here =>
    exact outcome_quiet rfl (inRun_running rfl (ready_io (inRun_at here rfl inRun) _))
  | runBreaks here breaks | closeBreaks here breaks =>
    exact outcome_quiet (breaks_received breaks) (.inr rfl)
  | runEof => exact outcome_quiet rfl (.inr rfl)
  | @reads chunk io waits empty some read none =>
    have quiet : received t (.read chunk) = Option.none := by simp [received, some, read, none]
    exact outcome_quiet quiet (inRun.imp (fun run => ⟨run.1, ready_io run.2 _⟩) id)
  | handles here hands =>
    have ready := hands_ready hands (inRun_at here rfl inRun)
    exact outcome_iff (by simp [HandlesHello, here, hands_received hands])
      (handlePacket_inRun ready _)
  | closeMeets here hands => exact outcome_waits here (.inr rfl)
  | closeGets here hands =>
    have ready := hands_ready hands (inRun_at here rfl inRun)
    exact outcome_waits here (inRun_running rfl ready)
  | closeSkips here other control hands =>
    have ready := hands_ready hands (inRun_at here rfl inRun)
    have place : t'.pc = t.pc := by cases hands <;> rfl
    exact outcome_waits here (inRun_running (by rw [place, here]; rfl) ready)
  | keepsAlive here =>
    have ready := inRun_at here rfl inRun
    apply outcome_quiet rfl
    apply inRun_send rfl
    exact ⟨ready.state, rfl, ready.query, ready.timeout⟩
  | queries here =>
    have ready := inRun_at here rfl inRun
    apply outcome_quiet rfl
    apply inRun_ping
    exact ⟨ready.state, ready.keepAlive, rfl, ready.timeout⟩
  | timesOut here =>
    have ready := inRun_at here rfl inRun
    apply outcome_quiet rfl
    apply inRun_closeBySelf
    exact ⟨ready.state, ready.keepAlive, ready.query, rfl⟩
  | takesClose here =>
    apply outcome_quiet rfl
    apply inRun_closeBySelf
    exact inRun_at here rfl inRun
  | takesSend here | drainsClose here | drainsSend here =>
    apply outcome_quiet rfl
    apply inRun_send rfl
    exact inRun_at here rfl inRun
  | takesGetStatus here | deliversLate here =>
    have ready := inRun_at here rfl inRun
    exact outcome_quiet rfl (inRun_running rfl ready)
  | drained here => exact outcome_quiet rfl (inRun_send rfl (inRun_at here rfl inRun) _)
  | drainsGetStatus here =>
    have ready := inRun_at here rfl inRun
    exact outcome_quiet rfl (inRun_running (by rw [here]; rfl) ready)
  | undelivered here dead | unanswered here dead => simp [alive] at dead
  | delivers here =>
    apply outcome_quiet rfl
    apply inRun_loopTop
    exact inRun_at here rfl inRun
  | replies here => exact outcome_quiet rfl (inRun_loopTop (inRun_at here rfl inRun))
  | aborts dead => simp [alive] at dead
  | passes => exact outcome_quiet rfl inRun

theorem past_send (p : Packet) {next : Resume} (running : nextPhase next ≠ .handshake) :
    phase (t.send p next).pc ≠ .handshake := by
  rw [send_eq]
  exact running

theorem past_loopTop : phase t.loopTop.pc ≠ .handshake := by
  unfold Task.loopTop
  split
  · simp [phase]
  · split <;> simp [phase, Task.panic]

theorem past_closeBySelf (inactive : Bool) : phase (t.closeBySelf inactive).pc ≠ .handshake := by
  unfold Task.closeBySelf
  split
  · simp [phase, Task.panic]
  · exact past_send _ (by simp [nextPhase])

theorem past_handlePacket (p : Packet) : phase (t.handlePacket p).pc ≠ .handshake := by
  cases p with
  | controlPing => exact past_send _ (by simp [nextPhase])
  | controlPong | controlKeepAlive => exact past_loopTop
  | controlClose =>
    simp only [Task.handlePacket, Task.closeByPeer]
    split <;> simp [phase, Task.panic]
  | data | controlHello | controlHelloAck => simp [Task.handlePacket, phase, Task.panic]

theorem step_past (past : phase t.pc ≠ .handshake) (step : t.step ch event = some (t', ch')) :
    phase t'.pc ≠ .handshake := by
  cases task_move step with
  | saysHello here | awaitsHello here | acknowledged here | greeted here =>
    exact absurd (by rw [here]; rfl) past
  | shakeBreaks here | shakeEof here =>
    exact absurd (by rcases here with is | is <;> rw [is] <;> rfl) past
  | misgreeted here =>
    exact absurd (by rcases here with ⟨is, _⟩ | ⟨is, _⟩ <;> rw [is] <;> rfl) past
  | losesHello here shaking =>
    exact absurd (by rcases shaking with rfl | ⟨_, rfl⟩ <;> rw [here] <;> rfl) past
  | entersRun | keepsAlive | queries | takesSend | drained | drainsClose | drainsSend =>
    exact past_send _ (by simp [nextPhase])
  | writes here =>
    rw [here] at past
    exact past
  | @resumes n rest next here =>
    rw [here] at past
    cases next with
    | helloSent | ackSent => exact absurd rfl past
    | loop => exact past_loopTop
    | drain | peerClosing | closing => simp [Task.resume, phase]
  | timesOut | takesClose => exact past_closeBySelf _
  | handles here hands => exact past_handlePacket _
  | closeSkips here other control hands =>
    have place : t'.pc = t.pc := by cases hands <;> rfl
    rw [place]
    exact past
  | delivers | replies => exact past_loopTop
  | reads | drainsGetStatus | passes => exact past
  | closesStream | closeBreaks | closeMeets =>
    rw [finishClose_eq]
    simp [phase]
  | _ => simp [phase, Task.panic]

end Step

structure AfterHandshake (e : Endpoint) : Prop where
  connected : e.task.pc = .connected
  ready : Ready e.task.conn

theorem startTimers_handshaken (t : Task) (peer : UInt32) :
    (∃ site, (t.startTimers peer).pc = .panicked site) ∨
      (t.startTimers peer).pc = .connected ∧ Ready (t.startTimers peer).conn := by
  unfold Task.startTimers
  rcases startTimers_cases t.conn t.clock peer with ⟨site, failed⟩ | ⟨c, started, ready, _⟩
  · exact .inl ⟨site, by simp [failed, Task.panic]⟩
  · exact .inr ⟨by simp [started], by simpa [started] using ready⟩

def HandlerAlive (e : Endpoint) (_ : EndpointEvent) : Prop := e.channels.handlerAlive = true

instance (e : Endpoint) (event : EndpointEvent) : Decidable (HandlerAlive e event) :=
  inferInstanceAs (Decidable (_ = true))

def GetsHello (e : Endpoint) : EndpointEvent → Prop
  | .task event => HandlesHello e.task event
  | _ => False

theorem step_run {e e' : Endpoint} {event : EndpointEvent} (inRun : InRun e.task)
    (alive : HandlerAlive e event) (step : e.step event = some e') :
    Outcome (GetsHello e event) e'.task := by
  by_cases mine : ∃ te, event = .task te
  · obtain ⟨te, rfl⟩ := mine
    obtain ⟨t', ch', moved, rfl, _⟩ := task_parts step
    exact step_outcome inRun alive moved
  · have same := call_task (fun te is => mine ⟨te, is⟩) step
    refine outcome_of ?_ (same ▸ inRun)
    intro gets
    cases event with
    | task te => exact mine ⟨te, rfl⟩
    | _ => exact gets

/-- After the handshake run never panics unless handle_packet is given a hello, whatever
    the peer sends and the handler asks; a hello there always is a panic. -/
theorem run_panics_only_on_hello {e₀ : Endpoint} (start : AfterHandshake e₀) :
    (∀ e, Reaches Endpoint.step (fun e event => HandlerAlive e event ∧ ¬ GetsHello e event) e₀ e →
      ∀ site, e.task.pc ≠ .panicked site) ∧
    ∀ e e' event, Reaches Endpoint.step (fun e event => HandlerAlive e event ∧
        ¬ GetsHello e event) e₀ e →
      HandlerAlive e event → GetsHello e event → e.step event = some e' →
      e'.task.pc = .panicked .helloAfterHandshake := by
  have first : InRun e₀.task := inRun_running (by rw [start.connected]; rfl) start.ready
  have inRun : ∀ e, Reaches Endpoint.step (fun e event => HandlerAlive e event ∧
      ¬ GetsHello e event) e₀ e → InRun e.task := fun e run =>
    run.keeps (I := fun e => InRun e.task)
      (fun inRun allowed step => (step_run inRun allowed.1 step).2 allowed.2) first
  constructor
  · exact fun e run site => not_panicked (inRun e run) site
  · exact fun e e' event run alive gets step => (step_run (inRun e run) alive step).1 gets

def shaken : Endpoint := (exec Endpoint.step aHost (hostHandshake.take 3)).getD aHost

theorem shaken_handshaken : AfterHandshake shaken :=
  ⟨by decide +kernel, by decide +kernel, by decide +kernel, by decide +kernel, by decide +kernel⟩

theorem host_panics_only_on_hello :
    (∀ e, Reaches Endpoint.step (fun e event => HandlerAlive e event ∧ ¬ GetsHello e event)
        shaken e →
      ∀ site, e.task.pc ≠ .panicked site) ∧
    ∀ e e' event, Reaches Endpoint.step (fun e event => HandlerAlive e event ∧
        ¬ GetsHello e event) shaken e →
      HandlerAlive e event → GetsHello e event → e.step event = some e' →
      e'.task.pc = .panicked .helloAfterHandshake :=
  run_panics_only_on_hello shaken_handshaken

/-- A device that sends its ControlHello twice takes the task of the host down. -/
def secondHello : List EndpointEvent :=
  [.task .spawn, .task (.enterRun 0), .task (.wrote 12),
    .task (.read [0x4E, 0x43, 0x44, 0x01, 0x00, 0x04, 0x00, 0x01, 0x00, 0x00, 0x09, 0xC4])]

theorem second_hello_panics :
    ¬ ∀ e₀ e : Endpoint, AfterHandshake e₀ → Reaches Endpoint.step HandlerAlive e₀ e →
      ∀ site, e.task.pc ≠ .panicked site := by
  intro claim
  refine claim shaken ((exec Endpoint.step shaken secondHello).getD shaken) shaken_handshaken
    (reaches_of_execIf secondHello ?_) .helloAfterHandshake ?_ <;> decide +kernel

end NcdPanicFree
