import Ncd.PanicFree

/- Connection::handshake from the first step to its return: every configuration, both
   roles, whatever the peer sends first. -/
namespace NcdHandshake
open NcdPacket NcdFrame NcdIoState IncrementalDecoding NcdConnection NcdHandler NcdTaskMoves
  NcdTaskSteps NcdBooks NcdPanicFree LabelledRuns

def ofTask : EndpointEvent → Bool
  | .task _ => true
  | _ => false

def Shaking (e : Endpoint) (event : EndpointEvent) : Prop :=
  phase e.task.pc = .handshake ∧ ofTask event

instance (e : Endpoint) (event : EndpointEvent) : Decidable (Shaking e event) :=
  inferInstanceAs (Decidable (_ ∧ _))

/-- The peer's keep_alive_interval_ms, if packet is the hello that this role waits for. -/
def announced : ConnRole → Packet → Option UInt32
  | .device, .controlHelloAck peer => some peer
  | .host, .controlHello peer => some peer
  | _, _ => none

/-- time::interval accepts the three periods, and their u32 sum does not overflow. -/
structure TimersFit (timeoutMs keepAliveIntervalMs peer : UInt32) : Prop where
  keepAlive : peer.toNat ≠ 0
  adds : keepAliveIntervalMs.toNat + timeoutMs.toNat < 2 ^ 32
  query : (keepAliveIntervalMs.toNat + timeoutMs.toNat) / 2 ≠ 0
  timeout : timeoutMs.toNat ≠ 0

def returned : Pc → Bool
  | .connected | .failed _ => true
  | _ => false

def Undisturbed (e : Endpoint) (event : EndpointEvent) : Prop :=
  Shaking e event ∧ event ≠ .task .ioError

def CanReturn (e : Endpoint) : Prop :=
  ∃ e', Reaches Endpoint.step Undisturbed e e' ∧ returned e'.task.pc

theorem startTimers_ok {c : Connection} {peer : UInt32} (now : Nat)
    (fit : TimersFit c.timeoutMs c.keepAliveIntervalMs peer) :
    ∃ c', c.startTimers now peer = .ok c' := by
  have room : ¬ 2 ^ 32 ≤ c.keepAliveIntervalMs.toNat + c.timeoutMs.toNat := by
    have := fit.adds
    omega
  simp only [Connection.startTimers, Interval.new, if_neg fit.keepAlive, if_neg room,
    if_neg fit.query, if_neg fit.timeout]
  exact ⟨_, rfl⟩

theorem startTimers_error {c : Connection} {peer : UInt32} (now : Nat)
    (unfit : ¬ TimersFit c.timeoutMs c.keepAliveIntervalMs peer) :
    ∃ site, c.startTimers now peer = .error site := by
  by_cases keepAlive : peer.toNat = 0
  · exact ⟨.zeroInterval, by simp [Connection.startTimers, Interval.new, keepAlive]⟩
  by_cases adds : 2 ^ 32 ≤ c.keepAliveIntervalMs.toNat + c.timeoutMs.toNat
  · exact ⟨.addOverflow, by
      simp only [Connection.startTimers, Interval.new, if_neg keepAlive, if_pos adds]⟩
  by_cases query : (c.keepAliveIntervalMs.toNat + c.timeoutMs.toNat) / 2 = 0
  · exact ⟨.zeroInterval, by
      simp only [Connection.startTimers, Interval.new, if_neg keepAlive, if_neg adds,
        if_pos query]⟩
  by_cases timeout : c.timeoutMs.toNat = 0
  · exact ⟨.zeroInterval, by
      simp only [Connection.startTimers, Interval.new, if_neg keepAlive, if_neg adds,
        if_neg query, if_pos timeout]⟩
  exact absurd ⟨keepAlive, by omega, query, timeout⟩ unfit

inductive Stage (role : ConnRole) (timeoutMs keepAliveIntervalMs : UInt32) :
    Pc → List Packet → Prop where
  | start : Stage role timeoutMs keepAliveIntervalMs .start []
  | hello {rest : List UInt8} (is : role = .device) (more : rest ≠ []) :
      Stage role timeoutMs keepAliveIntervalMs (.sending rest .helloSent) []
  | awaitHelloAck (is : role = .device) :
      Stage role timeoutMs keepAliveIntervalMs .awaitHelloAck []
  | awaitHello (is : role = .host) : Stage role timeoutMs keepAliveIntervalMs .awaitHello []
  | ack {rest : List UInt8} {peer : UInt32} (is : role = .host) (more : rest ≠ []) :
      Stage role timeoutMs keepAliveIntervalMs (.sending rest (.ackSent peer))
        [.controlHello peer]
  | failed (e : ConnectionCreateError) (ps : List Packet) :
      Stage role timeoutMs keepAliveIntervalMs (.failed e) ps
  | connected (ps : List Packet) : Stage role timeoutMs keepAliveIntervalMs .connected ps
  | panicked {packet : Packet} {peer : UInt32} (site : PanicSite)
      (gives : announced role packet = some peer)
      (unfit : ¬ TimersFit timeoutMs keepAliveIntervalMs peer) :
      Stage role timeoutMs keepAliveIntervalMs (.panicked site) [packet]

/-- The settings stand as long as handshake runs, and it looks at no second packet. -/
structure InHandshake (role : ConnRole) (timeoutMs keepAliveIntervalMs : UInt32) (t : Task) :
    Prop where
  stage : Stage role timeoutMs keepAliveIntervalMs t.pc t.received
  role : phase t.pc = .handshake → t.conn.role = role
  timeout : phase t.pc = .handshake → t.conn.timeoutMs = timeoutMs
  interval : phase t.pc = .handshake → t.conn.keepAliveIntervalMs = keepAliveIntervalMs
  quiet : t.received = [] → t.conn.io.packetBuffer = []

variable {role : ConnRole} {timeoutMs keepAliveIntervalMs : UInt32} {t t' : Task}

theorem nothing_yet {pc : Pc} {ps : List Packet}
    (stage : Stage role timeoutMs keepAliveIntervalMs pc ps)
    (early : pc = .start ∨ pc = .awaitHelloAck ∨ pc = .awaitHello) : ps = [] := by
  cases stage <;> first | rfl | simp at early

theorem receives {pc : Pc} {ps : List Packet}
    (stage : Stage role timeoutMs keepAliveIntervalMs pc ps) (receiving : pc.receiving) :
    (role = .device ∧ pc = .awaitHelloAck) ∨ (role = .host ∧ pc = .awaitHello) := by
  cases stage with
  | awaitHelloAck is => exact .inl ⟨is, rfl⟩
  | awaitHello is => exact .inr ⟨is, rfl⟩
  | _ => simp [Pc.receiving] at receiving

theorem writes {rest : List UInt8} {next : Resume} {ps : List Packet}
    (stage : Stage role timeoutMs keepAliveIntervalMs (.sending rest next) ps) :
    (role = .device ∧ next = .helloSent ∧ ps = []) ∨
      ∃ peer, role = .host ∧ next = .ackSent peer ∧ ps = [.controlHello peer] := by
  cases stage with
  | hello is => exact .inl ⟨is, rfl, rfl⟩
  | ack is => exact .inr ⟨_, is, rfl, rfl⟩

theorem startTimers_inHandshake (packet : Packet) {peer : UInt32}
    (timeout : t.conn.timeoutMs = timeoutMs)
    (interval : t.conn.keepAliveIntervalMs = keepAliveIntervalMs)
    (gives : announced role packet = some peer) (one : t.received = [packet]) :
    InHandshake role timeoutMs keepAliveIntervalMs (t.startTimers peer) := by
  have some : t.received ≠ [] := by simp [one]
  unfold Task.startTimers
  by_cases fit : TimersFit timeoutMs keepAliveIntervalMs peer
  · rw [← timeout, ← interval] at fit
    obtain ⟨c, started⟩ := startTimers_ok t.clock fit
    rw [started]
    exact ⟨.connected _, by simp [phase], by simp [phase], by simp [phase],
      fun empty => absurd empty some⟩
  · have unfit := fit
    rw [← timeout, ← interval] at unfit
    obtain ⟨site, failed⟩ := startTimers_error t.clock unfit
    rw [failed]
    refine ⟨?_, by simp [phase, Task.panic], by simp [phase, Task.panic],
      by simp [phase, Task.panic], fun empty => absurd empty some⟩
    simp only [Task.panic, one]
    exact .panicked site gives fit

theorem failed_inHandshake {t u : Task} (e : ConnectionCreateError)
    (inside : InHandshake role timeoutMs keepAliveIntervalMs t)
    (shaking : phase t.pc = .handshake) (conn : u.conn = { t.conn with io := u.conn.io })
    (quiet : u.received = [] → u.conn.io.packetBuffer = []) :
    InHandshake role timeoutMs keepAliveIntervalMs (u.fail e) := by
  refine ⟨.failed e _, fun _ => ?_, fun _ => ?_, fun _ => ?_, quiet⟩
  · rw [Task.fail, conn]
    exact inside.role shaking
  · rw [Task.fail, conn]
    exact inside.timeout shaking
  · rw [Task.fail, conn]
    exact inside.interval shaking

theorem step_inHandshake {ch ch' : Channels} {event : TaskEvent}
    (inside : InHandshake role timeoutMs keepAliveIntervalMs t)
    (shaking : phase t.pc = .handshake) (kept : event ≠ .abort)
    (step : t.step ch event = some (t', ch')) :
    InHandshake role timeoutMs keepAliveIntervalMs t' := by
  have isRole := inside.role shaking
  have timeout := inside.timeout shaking
  have interval := inside.interval shaking
  have stage := inside.stage
  cases task_move step with
  | saysHello here device =>
    have none := nothing_yet stage (.inl here)
    rw [device] at isRole
    rw [send_eq]
    refine ⟨?_, fun _ => device.trans isRole, fun _ => timeout, fun _ => interval, inside.quiet⟩
    simp only [none]
    exact .hello isRole.symm (packetBytes_ne_nil _)
  | awaitsHello here host =>
    have none := nothing_yet stage (.inl here)
    rw [host] at isRole
    refine ⟨?_, fun _ => host.trans isRole, fun _ => timeout, fun _ => interval, inside.quiet⟩
    simp only [none]
    exact .awaitHello isRole.symm
  | writes here positive fits more =>
    rw [here] at stage
    refine ⟨?_, fun _ => isRole, fun _ => timeout, fun _ => interval, inside.quiet⟩
    rcases writes stage with ⟨device, rfl, none⟩ | ⟨peer, host, rfl, one⟩
    · simp only [wroteBytes, none]
      exact .hello device more
    · simp only [wroteBytes, one]
      exact .ack host more
  | resumes here =>
    rw [here] at stage
    rcases writes stage with ⟨device, rfl, none⟩ | ⟨peer, host, rfl, one⟩
    · refine ⟨?_, fun _ => isRole, fun _ => timeout, fun _ => interval, inside.quiet⟩
      simp only [Task.resume, wroteBytes, none]
      exact .awaitHelloAck device
    · exact startTimers_inHandshake _ timeout interval (by rw [host]; rfl) one
  | reads waits empty nonempty read bare =>
    exact ⟨stage, inside.role, inside.timeout, inside.interval, fun _ => bare⟩
  | acknowledged here hands =>
    have none := nothing_yet stage (.inr (.inl here))
    rcases receives stage (by rw [here]; rfl) with ⟨device, _⟩ | ⟨_, other⟩
    · rw [hands_eq hands, none]
      exact startTimers_inHandshake (.controlHelloAck _) timeout interval (by rw [device]; rfl) rfl
    · rw [here] at other
      cases other
  | greeted here hands =>
    have none := nothing_yet stage (.inr (.inr here))
    rcases receives stage (by rw [here]; rfl) with ⟨_, other⟩ | ⟨host, _⟩
    · rw [here] at other
      cases other
    · rw [hands_eq hands, none, send_eq]
      exact ⟨.ack host (packetBytes_ne_nil _), fun _ => isRole, fun _ => timeout, fun _ => interval,
        by simp⟩
  | misgreeted here hands =>
    rw [hands_eq hands]
    exact failed_inHandshake _ inside shaking rfl (by simp)
  | losesHello | shakeEof => exact failed_inHandshake _ inside shaking rfl inside.quiet
  | shakeBreaks here breaks =>
    have quiet := inside.quiet
    cases breaks with
    | io => exact failed_inHandshake _ inside shaking rfl quiet
    | garbled => exact failed_inHandshake _ inside shaking rfl quiet
  | losesSend here running =>
    rw [here] at stage
    rcases writes stage with ⟨_, rfl, _⟩ | ⟨peer, _, rfl, _⟩
    · exact absurd rfl running.1
    · exact absurd rfl (running.2 peer)
  | passes => exact ⟨stage, inside.role, inside.timeout, inside.interval, inside.quiet⟩
  | aborts => exact absurd rfl kept
  | runEof here =>
    rcases here with here | ⟨_, _, here⟩
    · simp [here, phase] at shaking
    · simp [here, phase] at shaking
  | givesUp here =>
    rcases here with here | ⟨_, here⟩
    · simp [here, phase] at shaking
    · simp [here, phase] at shaking
  | spawns here | entersRun here | closesStream here | awaitsClose here | losesShutdown here
  | runBreaks here | closeBreaks here | handles here | closeMeets here | closeGets here
  | closeSkips here | keepsAlive here | queries here | timesOut here | takesClose here
  | takesSend here | takesGetStatus here | drained here | drainsClose here | drainsSend here
  | drainsGetStatus here | undelivered here | delivers here | deliversLate here | unanswered here
  | replies here | drops here | finishes here =>
    rw [here] at shaking
    cases shaking

theorem shaking_channels {ch ch' : Channels} {event : TaskEvent}
    (shaking : phase t.pc = .handshake) (step : t.step ch event = some (t', ch')) : ch' = ch := by
  cases task_move step with
  | takesClose here | takesSend here | takesGetStatus here | drainsClose here | drainsSend here
  | drainsGetStatus here | delivers here | deliversLate here | replies here =>
    rw [here] at shaking
    cases shaking
  | _ => rfl

theorem new_inHandshake (peerAddr : SocketAddr)
    (timeoutMs closeTimeoutMs keepAliveIntervalMs : UInt32) (role : ConnRole) (bufferSize : Nat) :
    InHandshake role timeoutMs keepAliveIntervalMs (Endpoint.new peerAddr timeoutMs closeTimeoutMs
      keepAliveIntervalMs role bufferSize).task :=
  ⟨.start, fun _ => rfl, fun _ => rfl, fun _ => rfl, fun _ => rfl⟩

theorem step_shaking {e e' : Endpoint} {event : EndpointEvent}
    (inside : InHandshake role timeoutMs keepAliveIntervalMs e.task ∧
      e.channels.handlerAlive = true)
    (allowed : Shaking e event) (step : e.step event = some e') :
    InHandshake role timeoutMs keepAliveIntervalMs e'.task ∧ e'.channels.handlerAlive = true := by
  obtain ⟨shaking, mine⟩ := allowed
  cases event with
  | task te =>
    obtain ⟨t', ch', moved, task, channels, _⟩ := task_parts step
    have kept : te ≠ .abort := by
      rintro rfl
      cases task_move moved with
      | aborts dead =>
        rw [inside.2] at dead
        cases dead
      | _ => contradiction
    rw [task, channels, shaking_channels shaking moved]
    exact ⟨step_inHandshake inside.1 shaking kept moved, inside.2⟩
  | _ => cases mine

theorem run_inHandshake {peerAddr : SocketAddr}
    {timeoutMs closeTimeoutMs keepAliveIntervalMs : UInt32} {role : ConnRole} {bufferSize : Nat}
    {e : Endpoint} (run : Reaches Endpoint.step Shaking (Endpoint.new peerAddr timeoutMs
      closeTimeoutMs keepAliveIntervalMs role bufferSize) e) :
    InHandshake role timeoutMs keepAliveIntervalMs e.task ∧ e.channels.handlerAlive = true :=
  run.keeps step_shaking ⟨new_inHandshake _ _ _ _ _ _, rfl⟩

theorem lifted {o : Option Task} {t' : Task} (ch : Channels) (is : o = some t') :
    o.map (·, ch) = some (t', ch) := by
  rw [is]
  rfl

theorem task_step {e : Endpoint} {te : TaskEvent} {t' : Task}
    (plain : te ≠ .ioError ∧ te ≠ .abort ∧ te ≠ .spawn)
    (moves : e.task.step e.channels te = some (t', e.channels)) :
    e.step (.task te) = some { e with task := t' } := by
  simp [Endpoint.step, plain, moves]

theorem returns_at (e : Endpoint) (done : returned e.task.pc) : CanReturn e := ⟨e, .refl e, done⟩

theorem returns_after {e : Endpoint} {t' : Task} (te : TaskEvent)
    (shaking : phase e.task.pc = .handshake) (plain : te ≠ .ioError ∧ te ≠ .abort ∧ te ≠ .spawn)
    (moves : e.task.step e.channels te = some (t', e.channels))
    (rest : CanReturn { e with task := t' }) : CanReturn e := by
  obtain ⟨last, run, done⟩ := rest
  have one : Undisturbed e (.task te) :=
    ⟨⟨shaking, rfl⟩, fun same => plain.1 (EndpointEvent.task.inj same)⟩
  exact ⟨last, (Reaches.single one (task_step plain moves)).trans run, done⟩

theorem waiting_returns {e : Endpoint}
    (inside : InHandshake role timeoutMs keepAliveIntervalMs e.task)
    (receiving : e.task.pc = .awaitHelloAck ∨ e.task.pc = .awaitHello) : CanReturn e := by
  have quiet := inside.quiet (nothing_yet inside.stage (.inr receiving))
  have ends : e.task.read [] = some (e.task.fail (.packetTransferError .unexpectedEOF)) := by
    rcases receiving with at_pc | at_pc <;>
      simp [Task.read, Task.gotEof, quiet, at_pc, Pc.receiving]
  have shaking : phase e.task.pc = .handshake := by
    rcases receiving with at_pc | at_pc <;> rw [at_pc] <;> rfl
  exact returns_after (.read []) shaking (by simp) (lifted e.channels ends) (returns_at _ rfl)

theorem wrote_all {t : Task} {rest : List UInt8} {next : Resume}
    (at_pc : t.pc = .sending rest next) (more : rest ≠ []) :
    ∃ io, t.wrote rest.length =
      some (({ t with conn := { t.conn with io := io } } : Task).resume next) ∧
      io.byteBuffer = t.conn.io.byteBuffer ∧ io.frameBuffer = t.conn.io.frameBuffer ∧
      io.packetBuffer = t.conn.io.packetBuffer := by
  have some : ¬ (rest.length = 0 ∨ rest.length < rest.length) := by
    simp [more]
  refine ⟨{ t.conn.io with stream := { t.conn.io.stream with
    written := t.conn.io.stream.written ++ rest.take rest.length } }, ?_, rfl, rfl, rfl⟩
  simp only [Task.wrote, at_pc, if_neg some, List.drop_length, if_true]

theorem wrote_packet (t : Task) (packet : Packet) (next : Resume) :
    ∃ io, (t.send packet next).wrote (packetBytes packet).length =
      some (({ t with
        conn := { t.conn with io := io }
        pc := .sending (packetBytes packet) next
        sent := t.sent ++ [packet] } : Task).resume next) ∧
      io.byteBuffer = t.conn.io.byteBuffer ∧ io.frameBuffer = t.conn.io.frameBuffer ∧
      io.packetBuffer = t.conn.io.packetBuffer := by
  rw [send_eq]
  exact wrote_all rfl (packetBytes_ne_nil packet)

theorem sending_returns {e : Endpoint} {rest : List UInt8} {next : Resume}
    (inside : InHandshake role timeoutMs keepAliveIntervalMs e.task)
    (at_pc : e.task.pc = .sending rest next) (more : rest ≠ [])
    (fits : ∀ peer, next = .ackSent peer → TimersFit timeoutMs keepAliveIntervalMs peer) :
    CanReturn e := by
  have stage := inside.stage
  rw [at_pc] at stage
  obtain ⟨io, wrote, _⟩ := wrote_all at_pc more
  have shaking : phase e.task.pc = .handshake := by
    rcases writes stage with ⟨_, rfl, _⟩ | ⟨_, _, rfl, _⟩ <;> rw [at_pc] <;> rfl
  have moved : e.task.step e.channels (.wrote rest.length) = some (_, e.channels) :=
    lifted e.channels wrote
  have after := step_inHandshake inside shaking (by simp) moved
  refine returns_after (.wrote rest.length) shaking (by simp) moved ?_
  rcases writes stage with ⟨_, rfl, _⟩ | ⟨peer, _, rfl, _⟩
  · exact waiting_returns after (.inl rfl)
  · have fit := fits peer rfl
    rw [← inside.timeout shaking, ← inside.interval shaking] at fit
    obtain ⟨_, started⟩ :=
      startTimers_ok (c := { e.task.conn with io := io }) e.task.clock fit
    refine returns_at _ ?_
    simp only [Task.resume, Task.startTimers, started]
    rfl

theorem start_returns {e : Endpoint}
    (inside : InHandshake role timeoutMs keepAliveIntervalMs e.task)
    (at_pc : e.task.pc = .start) : CanReturn e := by
  have shaking : phase e.task.pc = .handshake := by
    rw [at_pc]
    rfl
  cases is : e.task.conn.role with
  | device =>
    have begun : e.task.begin =
        some (e.task.send (.controlHello e.task.conn.keepAliveIntervalMs) .helloSent) := by
      simp only [Task.begin, at_pc, is]
    have moved : e.task.step e.channels .begin = some (_, e.channels) := lifted e.channels begun
    have after := step_inHandshake inside shaking (by simp) moved
    refine returns_after .begin shaking (by simp) moved ?_
    have sending : (e.task.send (.controlHello e.task.conn.keepAliveIntervalMs) .helloSent).pc =
        .sending (packetBytes (.controlHello e.task.conn.keepAliveIntervalMs)) .helloSent := by
      simp only [send_eq]
    exact sending_returns after sending (packetBytes_ne_nil _) (by simp)
  | host =>
    have begun : e.task.begin = some { e.task with pc := .awaitHello } := by
      simp only [Task.begin, at_pc, is]
    have moved : e.task.step e.channels .begin = some (_, e.channels) := lifted e.channels begun
    have after := step_inHandshake inside shaking (by simp) moved
    refine returns_after .begin shaking (by simp) moved ?_
    exact waiting_returns after (.inr rfl)

theorem read_first {t : Task} (packet : Packet) (receiving : t.pc.receiving)
    (bytes : t.conn.io.byteBuffer = []) (frames : t.conn.io.frameBuffer = [])
    (packets : t.conn.io.packetBuffer = []) :
    ∃ io, t.read (packetBytes packet) =
      ({ t with conn := { t.conn with io := io } } : Task).gotPacket packet := by
  have src : packetBytes packet = wire [packet] := by simp
  obtain ⟨fs, mid, last, decoded, assembled, whole⟩ := parse_prefix (src ▸ List.prefix_refl _ :
    packetBytes packet <+: wire [packet])
  obtain ⟨rfl, rfl⟩ := whole src
  have all := packetsWithin_all [packet]
  rw [← src] at all
  rw [all] at assembled
  have framed : frameDecoder.drain (t.conn.io.byteBuffer ++ packetBytes packet)
      t.conn.io.frameBuffer = .ok ([], fs) := by
    rw [bytes, frames]
    exact drain_ok_iff.mpr ⟨fs, decoded, rfl⟩
  have packed : packetDecoder.drain fs t.conn.io.packetBuffer = .ok ([], [packet]) := by
    rw [packets]
    exact drain_ok_iff.mpr ⟨[packet], assembled, rfl⟩
  refine ⟨{ stream := { t.conn.io.stream with
    consumed := t.conn.io.stream.consumed ++ packetBytes packet } }, ?_⟩
  have ready : ¬ (t.pc.receiving = false ∨ t.conn.io.packetBuffer ≠ []) := by
    simp [receiving, packets]
  simp only [Task.read, if_neg ready, if_neg (packetBytes_ne_nil packet), IoState.readBytes,
    framed, packed]
  rfl

structure Waits (role : ConnRole) (timeoutMs keepAliveIntervalMs : UInt32) (t : Task) : Prop where
  receiving : t.pc = match role with
    | .device => .awaitHelloAck
    | .host => .awaitHello
  role : t.conn.role = role
  timeout : t.conn.timeoutMs = timeoutMs
  interval : t.conn.keepAliveIntervalMs = keepAliveIntervalMs
  received : t.received = []
  bytes : t.conn.io.byteBuffer = []
  frames : t.conn.io.frameBuffer = []
  packets : t.conn.io.packetBuffer = []

theorem plain_step {e : Endpoint} {t' : Task} (te : TaskEvent)
    (shaking : phase e.task.pc = .handshake) (plain : te ≠ .ioError ∧ te ≠ .abort ∧ te ≠ .spawn)
    (moves : e.task.step e.channels te = some (t', e.channels)) :
    Reaches Endpoint.step Shaking e { e with task := t' } :=
  .single ⟨shaking, rfl⟩ (task_step plain moves)

theorem new_waits (peerAddr : SocketAddr)
    (timeoutMs closeTimeoutMs keepAliveIntervalMs : UInt32) (role : ConnRole) (bufferSize : Nat) :
    ∃ e, Reaches Endpoint.step Shaking (Endpoint.new peerAddr timeoutMs closeTimeoutMs
      keepAliveIntervalMs role bufferSize) e ∧ Waits role timeoutMs keepAliveIntervalMs e.task := by
  cases role with
  | host =>
    exact ⟨_, plain_step .begin rfl (by simp) (lifted _ rfl), rfl, rfl, rfl, rfl, rfl, rfl, rfl,
      rfl⟩
  | device =>
    obtain ⟨io, wrote, bytes, frames, packets⟩ := wrote_packet (Endpoint.new peerAddr timeoutMs
      closeTimeoutMs keepAliveIntervalMs .device bufferSize).task
      (.controlHello keepAliveIntervalMs) .helloSent
    have first := plain_step (e := Endpoint.new peerAddr timeoutMs closeTimeoutMs
      keepAliveIntervalMs .device bufferSize) .begin rfl (by simp) (lifted _ rfl)
    refine ⟨_, first.trans (plain_step (.wrote _) ?_ (by simp) (lifted _ wrote)), rfl, rfl, rfl,
      rfl, rfl, bytes, frames, packets⟩
    simp only [send_eq]
    rfl

/-- Timers that cannot be built end the handshake in a panic. -/
theorem unfit_panics {e : Endpoint} {packet : Packet} {peer : UInt32}
    (waits : Waits role timeoutMs keepAliveIntervalMs e.task)
    (gives : announced role packet = some peer)
    (unfit : ¬ TimersFit timeoutMs keepAliveIntervalMs peer) :
    ∃ e', Reaches Endpoint.step Shaking e e' ∧ e'.task.received = [packet] ∧
      ∃ site, e'.task.pc = .panicked site := by
  have receiving : e.task.pc.receiving := by
    rw [waits.receiving]
    cases role <;> rfl
  have shaking : phase e.task.pc = .handshake := by
    rw [waits.receiving]
    cases role <;> rfl
  obtain ⟨io, took⟩ := read_first packet receiving waits.bytes waits.frames waits.packets
  rw [← waits.timeout, ← waits.interval] at unfit
  cases role with
  | device =>
    cases packet with
    | controlHelloAck k =>
      cases gives
      obtain ⟨site, failed⟩ :=
        startTimers_error (c := { e.task.conn with io := io }) e.task.clock unfit
      have at_pc := waits.receiving
      simp only at at_pc
      simp only [Task.gotPacket, at_pc, Task.startTimers, failed] at took
      exact ⟨_, plain_step (.read _) shaking (by simp) (lifted _ took), by
        simp [Task.panic, waits.received], site, rfl⟩
    | _ => cases gives
  | host =>
    cases packet with
    | controlHello k =>
      cases gives
      have at_pc := waits.receiving
      simp only at at_pc
      simp only [Task.gotPacket, at_pc] at took
      have first := plain_step (e := e) (.read _) shaking (by simp) (lifted _ took)
      obtain ⟨io', wrote, _⟩ := wrote_packet
        { e.task with conn := { e.task.conn with io := io }, received := [.controlHello peer] }
        (.controlHelloAck e.task.conn.keepAliveIntervalMs) (.ackSent peer)
      obtain ⟨site, failed⟩ :=
        startTimers_error (c := { e.task.conn with io := io' }) e.task.clock unfit
      simp only [Task.resume, Task.startTimers, failed] at wrote
      rw [waits.received] at first
      refine ⟨_, first.trans (plain_step (.wrote _) ?_ (by simp) (lifted _ wrote)), rfl, site, rfl⟩
      simp only [send_eq]
      rfl
    | _ => cases gives

/-- The first packet is the only one that handshake looks at. -/
theorem fits_first {first : Option Packet} {packet : Packet} {peer : UInt32}
    (fits : ∀ packet peer, first = some packet → announced role packet = some peer →
      TimersFit timeoutMs keepAliveIntervalMs peer)
    (part : [packet] <+: first.toList) (gives : announced role packet = some peer) :
    TimersFit timeoutMs keepAliveIntervalMs peer := by
  cases first with
  | none => simp at part
  | some q =>
    have same : packet = q := by simpa using part
    exact fits packet peer (congrArg some same.symm) gives

theorem shaken_returns {e : Endpoint}
    (inside : InHandshake role timeoutMs keepAliveIntervalMs e.task)
    (fits : ∀ packet peer, e.task.received = [packet] → announced role packet = some peer →
      TimersFit timeoutMs keepAliveIntervalMs peer) :
    (∀ site, e.task.pc ≠ .panicked site) ∧ CanReturn e := by
  have stage := inside.stage
  generalize at_pc : e.task.pc = pc at stage
  generalize got : e.task.received = ps at stage
  cases stage with
  | start => exact ⟨by simp, start_returns inside at_pc⟩
  | hello is more => exact ⟨by simp, sending_returns inside at_pc more (by simp)⟩
  | awaitHelloAck => exact ⟨by simp, waiting_returns inside (.inl at_pc)⟩
  | awaitHello => exact ⟨by simp, waiting_returns inside (.inr at_pc)⟩
  | ack is more =>
    refine ⟨by simp, sending_returns inside at_pc more ?_⟩
    intro peer same
    cases same
    exact fits _ _ got (by rw [is]; rfl)
  | failed => exact ⟨by simp, returns_at e (by rw [at_pc]; rfl)⟩
  | connected => exact ⟨by simp, returns_at e (by rw [at_pc]; rfl)⟩
  | panicked site gives unfit => exact absurd (fits _ _ got gives) unfit

/-- handshake returns Ok or Err and never panics, however its bytes come in, exactly when
    the first packet is not the hello it waits for or the three timers can be built. -/
theorem handshake_returns_iff (peerAddr : SocketAddr)
    (timeoutMs closeTimeoutMs keepAliveIntervalMs : UInt32) (role : ConnRole) (bufferSize : Nat)
    (first : Option Packet) :
    (∀ e, Reaches Endpoint.step Shaking (Endpoint.new peerAddr timeoutMs closeTimeoutMs
        keepAliveIntervalMs role bufferSize) e → e.task.received <+: first.toList →
      (∀ site, e.task.pc ≠ .panicked site) ∧ CanReturn e) ↔
    ∀ packet peer, first = some packet → announced role packet = some peer →
      TimersFit timeoutMs keepAliveIntervalMs peer := by
  constructor
  · rintro safe packet peer rfl gives
    by_contra unfit
    obtain ⟨e, run, waits⟩ :=
      new_waits peerAddr timeoutMs closeTimeoutMs keepAliveIntervalMs role bufferSize
    obtain ⟨e', rest, received, site, panicked⟩ := unfit_panics waits gives unfit
    exact (safe e' (run.trans rest) (by simp [received])).1 site panicked
  · intro fits e run part
    refine shaken_returns (run_inHandshake run).1 fun packet peer received gives => ?_
    rw [received] at part
    exact fits_first fits part gives

/-- A device whose ControlHello announces 0 ms takes the host down. -/
def zeroHello : List EndpointEvent :=
  [.task .begin,
    .task (.read [0x4E, 0x43, 0x44, 0x01, 0x00, 0x04, 0x00, 0x01, 0x00, 0x00, 0x00, 0x00]),
    .task (.wrote 12)]

theorem zero_interval_panics :
    ¬ ∀ (peerAddr : SocketAddr) (timeoutMs closeTimeoutMs keepAliveIntervalMs : UInt32)
      (role : ConnRole) (bufferSize : Nat) (e : Endpoint),
      Reaches Endpoint.step Shaking (Endpoint.new peerAddr timeoutMs closeTimeoutMs
        keepAliveIntervalMs role bufferSize) e →
      (∀ site, e.task.pc ≠ .panicked site) ∧ CanReturn e := by
  intro claim
  refine (claim { ip := [127, 0, 0, 1], port := 9000 } 5000 5000 2500 .host 4
    ((exec Endpoint.step aHost zeroHello).getD aHost) (reaches_of_execIf zeroHello ?_)).1
    .zeroInterval ?_ <;> decide +kernel

end NcdHandshake
