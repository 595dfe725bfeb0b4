import Ncd.PanicFree

/- What the task has sent, received, taken and handed over by the time it rests at each
   point of its way from the handshake to an orderly close. -/
namespace NcdTransfer
open NcdPacket NcdFrame NcdIoState NcdReceiver NcdConnection NcdHandler NcdTaskMoves NcdTaskSteps
  NcdBooks NcdPanicFree

/-- unsent: what write_all still has to write. inHand: a message on its way into the packet
    channel. The rest says what has happened: the first packet each way, the handler's
    close taken, ControlClose sent and received. -/
structure Marks where
  unsent : List UInt8 := []
  inHand : List (List UInt8) := []
  greeted : Bool := true
  met : Bool := true
  asked : Bool := false
  closeSent : Bool := false
  closeReceived : Bool := false
  deriving DecidableEq, Repr

def ended : Except ConnectionError Unit → Option Marks
  | .ok () => some { asked := true, closeSent := true, closeReceived := true }
  | .error .peerClosed => some { closeSent := true, closeReceived := true }
  | .error _ => none

def marks : Pc → Option Marks
  | .start | .awaitHello => some { greeted := false, met := false }
  | .awaitHelloAck => some { met := false }
  | .sending rest .helloSent => some { unsent := rest, met := false }
  | .sending rest (.ackSent _) | .sending rest .loop => some { unsent := rest }
  | .connected | .spawned | .select | .replying _ => some {}
  | .delivering bytes none => some { inHand := [bytes] }
  | .draining => some { closeReceived := true }
  | .sending rest .drain => some { unsent := rest, closeReceived := true }
  | .sending rest .peerClosing => some { unsent := rest, closeSent := true, closeReceived := true }
  | .shuttingDown none => some { closeSent := true, closeReceived := true }
  | .sending rest (.closing false) => some { unsent := rest, asked := true, closeSent := true }
  | .shuttingDown (some false) | .awaitClose false _ => some { asked := true, closeSent := true }
  | .delivering bytes (some (false, _)) =>
    some { inHand := [bytes], asked := true, closeSent := true }
  | .returned result | .dropped result | .finished result => ended result
  | _ => none

theorem ended_marks {result : Except ConnectionError Unit} {m : Marks}
    (is : ended result = some m) : m.closeSent = true ∧ m.closeReceived = true ∧
      m.unsent = [] ∧ m.inHand = [] := by
  unfold ended at is
  split at is <;> cases is <;> exact ⟨rfl, rfl, rfl, rfl⟩

theorem marks_gone {pc : Pc} {m : Marks} (gone : connGone pc = true) (is : marks pc = some m) :
    m.closeSent = true ∧ m.closeReceived = true ∧ m.unsent = [] ∧ m.inHand = [] := by
  cases pc with
  | dropped result => exact ended_marks is
  | finished result => exact ended_marks is
  | failed e => cases is
  | panicked site => cases is
  | aborted => cases is
  | _ => cases gone

theorem marks_receiving {pc : Pc} {m : Marks} (waits : pc.receiving = true)
    (is : marks pc = some m) : m.closeReceived = false := by
  cases pc with
  | awaitClose inactive deadline => cases inactive <;> cases is; rfl
  | awaitHelloAck => cases is; rfl
  | awaitHello => cases is; rfl
  | select => cases is; rfl
  | _ => cases waits

theorem marks_closeSent {pc : Pc} {m : Marks} (is : marks pc = some m)
    (closed : m.closeSent = true) : m.asked = true ∨ m.closeReceived = true := by
  unfold marks at is
  split at is
  all_goals first
    | exact .inr (ended_marks is).2.1
    | cases is; first | exact .inl rfl | exact .inr rfl | cases closed
    | cases is

def Ends (closed : Bool) (ps : List Packet) : Prop :=
  if closed then ∃ front, ps = front ++ [.controlClose] ∧ .controlClose ∉ front
  else .controlClose ∉ ps

/-- peerFirst: whether the peer may be the one to close first. -/
structure Holds (peerFirst : Prop) (io : IoState) (sent received : List Packet)
    (taken : List Request) (put : List (List UInt8)) (m : Marks) : Prop where
  wrote : io.stream.written ++ m.unsent = wire sent
  agrees : Agrees io received
  gave : messages received = put ++ m.inHand
  carried : messages sent = sends taken
  hellos : ∀ p ∈ sent.tail, isHello p = false
  greeted : m.greeted = true ↔ sent ≠ []
  met : m.met = true ↔ received ≠ []
  asked : m.asked = true → .close ∈ taken
  closeSent : Ends m.closeSent sent
  closeReceived : Ends m.closeReceived received
  answers : m.closeSent = true → m.asked = false → peerFirst
  shutdown : io.stream.shutdown = true → m.closeSent = true ∧ m.unsent = []

variable {peerFirst : Prop}

def crashed : Pc → Bool
  | .failed _ | .panicked _ => true
  | _ => false

/-- A task on its way has the marks of the point where it rests. -/
def Lands (peerFirst : Prop) (t : Task) : Prop :=
  crashed t.pc = true ∨
    ∃ m, marks t.pc = some m ∧ Holds peerFirst t.conn.io t.sent t.received t.taken t.put m

theorem lands_crashed {t : Task} (crash : crashed t.pc = true) : Lands peerFirst t := .inl crash

theorem lands_of {t : Task} {m : Marks} (is : marks t.pc = some m)
    (holds : Holds peerFirst t.conn.io t.sent t.received t.taken t.put m) : Lands peerFirst t :=
  .inr ⟨m, is, holds⟩

theorem lands_at {t : Task} {pc : Pc} (lands : Lands peerFirst t) (here : t.pc = pc)
    (fine : crashed pc = false) :
    ∃ m, marks pc = some m ∧ Holds peerFirst t.conn.io t.sent t.received t.taken t.put m := by
  rcases lands with crash | ⟨m, is, holds⟩
  · rw [here, fine] at crash
    cases crash
  · exact ⟨m, here ▸ is, holds⟩

theorem holds_at {t : Task} {pc : Pc} {m : Marks} (lands : Lands peerFirst t) (here : t.pc = pc)
    (is : marks pc = some m) : Holds peerFirst t.conn.io t.sent t.received t.taken t.put m := by
  have fine : crashed pc = false := by
    cases pc with
    | failed e => cases is
    | panicked site => cases is
    | _ => rfl
  obtain ⟨m', is', holds⟩ := lands_at lands here fine
  rw [is, Option.some.injEq] at is'
  exact is' ▸ holds

section Pieces

variable {io io' : IoState} {sent received : List Packet} {taken taken' : List Request}
  {put : List (List UInt8)} {m : Marks}

theorem ends_snoc {ps : List Packet} (before : Ends false ps) (p : Packet) :
    Ends (decide (p = .controlClose)) (ps ++ [p]) := by
  unfold Ends at before ⊢
  by_cases close : p = .controlClose
  · simpa [close] using before
  · simpa [close, eq_comm] using before

theorem holds_send (holds : Holds peerFirst io sent received taken put m) {p : Packet}
    {asked : Bool}
    (unsent : m.unsent = []) (closeSent : m.closeSent = false)
    (hello : isHello p = true → m.greeted = false)
    (carries : sends taken' = sends taken ++ messages [p]) (asks : asked = true → .close ∈ taken')
    (answers : p = .controlClose → asked = false → peerFirst) :
    Holds peerFirst io (sent ++ [p]) received taken' put { m with
      unsent := packetBytes p, greeted := true, asked := asked
      closeSent := decide (p = .controlClose) } where
  wrote := by
    have wrote := holds.wrote
    simp only [unsent, List.append_nil] at wrote
    simp [wrote]
  agrees := holds.agrees
  gave := holds.gave
  carried := by rw [messages_append, holds.carried, carries]
  hellos := by
    intro q member
    cases sent with
    | nil => simp at member
    | cons first rest =>
      rw [List.cons_append, List.tail_cons, List.mem_append, List.mem_singleton] at member
      rcases member with old | rfl
      · exact holds.hellos q old
      · by_contra is
        have fresh := hello (by simpa using is)
        simpa [fresh] using holds.greeted
  greeted := by simp
  met := holds.met
  asked := asks
  closeSent := ends_snoc (closeSent ▸ holds.closeSent) p
  closeReceived := holds.closeReceived
  answers := fun is => answers (by simpa using is)
  shutdown := by
    intro down
    have sentClose := (holds.shutdown down).1
    rw [closeSent] at sentClose
    cases sentClose

theorem holds_wrote (holds : Holds peerFirst io sent received taken put m) (n : Nat) :
    Holds peerFirst { io with stream := { io.stream with
        written := io.stream.written ++ m.unsent.take n } } sent received taken put
      { m with unsent := m.unsent.drop n } where
  wrote := by simpa using holds.wrote
  agrees := holds.agrees
  gave := holds.gave
  carried := holds.carried
  hellos := holds.hellos
  greeted := holds.greeted
  met := holds.met
  asked := holds.asked
  closeSent := holds.closeSent
  closeReceived := holds.closeReceived
  answers := holds.answers
  shutdown := by
    intro down
    obtain ⟨sentClose, all⟩ := holds.shutdown down
    exact ⟨sentClose, by simp [all]⟩

theorem holds_receive (holds : Holds peerFirst io sent received taken put m) {p : Packet}
    {rest : List Packet} (queue : io.packetBuffer = p :: rest) (inHand : m.inHand = [])
    (closeReceived : m.closeReceived = false) :
    Holds peerFirst { io with packetBuffer := rest } sent (received ++ [p]) taken put { m with
      inHand := messages [p], met := true, closeReceived := decide (p = .controlClose) } where
  wrote := holds.wrote
  agrees := agrees_pop holds.agrees queue
  gave := by
    have gave := holds.gave
    simp only [inHand, List.append_nil] at gave
    rw [messages_append, gave]
  carried := holds.carried
  hellos := holds.hellos
  greeted := holds.greeted
  met := by simp
  asked := holds.asked
  closeSent := holds.closeSent
  closeReceived := ends_snoc (closeReceived ▸ holds.closeReceived) p
  answers := holds.answers
  shutdown := holds.shutdown

theorem holds_read (holds : Holds peerFirst io sent received taken put m) {chunk : List UInt8}
    (read : io.readBytes chunk = .ok io') : Holds peerFirst io' sent received taken put m where
  wrote := by simpa [readBytes_stream read] using holds.wrote
  agrees := agrees_read holds.agrees read
  gave := holds.gave
  carried := holds.carried
  hellos := holds.hellos
  greeted := holds.greeted
  met := holds.met
  asked := holds.asked
  closeSent := holds.closeSent
  closeReceived := holds.closeReceived
  answers := holds.answers
  shutdown := by simpa [readBytes_stream read] using holds.shutdown

theorem holds_take (holds : Holds peerFirst io sent received taken put m) {r : Request}
    (quiet : sends [r] = []) : Holds peerFirst io sent received (taken ++ [r]) put m where
  wrote := holds.wrote
  agrees := holds.agrees
  gave := holds.gave
  carried := by rw [holds.carried, sends_append, quiet, List.append_nil]
  hellos := holds.hellos
  greeted := holds.greeted
  met := holds.met
  asked := fun is => List.mem_append.mpr (.inl (holds.asked is))
  closeSent := holds.closeSent
  closeReceived := holds.closeReceived
  answers := holds.answers
  shutdown := holds.shutdown

theorem holds_deliver (holds : Holds peerFirst io sent received taken put m) {bytes : List UInt8}
    (inHand : m.inHand = [bytes]) :
    Holds peerFirst io sent received taken (put ++ [bytes]) { m with inHand := [] } where
  wrote := holds.wrote
  agrees := holds.agrees
  gave := by rw [holds.gave, inHand, List.append_nil]
  carried := holds.carried
  hellos := holds.hellos
  greeted := holds.greeted
  met := holds.met
  asked := holds.asked
  closeSent := holds.closeSent
  closeReceived := holds.closeReceived
  answers := holds.answers
  shutdown := holds.shutdown

theorem holds_shutdown (holds : Holds peerFirst io sent received taken put m)
    (sentClose : m.closeSent = true)
    (all : m.unsent = []) :
    Holds peerFirst { io with stream := { io.stream with shutdown := true } } sent received
      taken put m where
  wrote := holds.wrote
  agrees := holds.agrees
  gave := holds.gave
  carried := holds.carried
  hellos := holds.hellos
  greeted := holds.greeted
  met := holds.met
  asked := holds.asked
  closeSent := holds.closeSent
  closeReceived := holds.closeReceived
  answers := holds.answers
  shutdown := fun _ => ⟨sentClose, all⟩

end Pieces

theorem lands_send {t : Task} {taken : List Request} {m : Marks} {p : Packet} {next : Resume}
    (asked : Bool) (holds : Holds peerFirst t.conn.io t.sent t.received taken t.put m)
    (unsent : m.unsent = []) (closeSent : m.closeSent = false)
    (hello : isHello p = true → m.greeted = false)
    (carries : sends t.taken = sends taken ++ messages [p]) (asks : asked = true → .close ∈ t.taken)
    (answers : p = .controlClose → asked = false → peerFirst)
    (is : ∀ rest, marks (.sending rest next) = some { m with
      unsent := rest, greeted := true, asked := asked, closeSent := decide (p = .controlClose) }) :
    Lands peerFirst (t.send p next) := by
  rw [send_eq]
  exact lands_of (is _) (holds_send holds unsent closeSent hello carries asks answers)

theorem lands_control {t : Task}
    (holds : Holds peerFirst t.conn.io t.sent t.received t.taken t.put {})
    {p : Packet} (quiet : messages [p] = []) (hello : isHello p = false)
    (close : p ≠ .controlClose) :
    Lands peerFirst (t.send p .loop) := by
  refine lands_send false holds rfl rfl (by simp [hello]) (by simp [quiet]) (by simp)
    (by simp [close]) ?_
  simp [marks, close]

theorem lands_loopTop {t : Task} (ready : t.conn.state = .connected)
    (holds : Holds peerFirst t.conn.io t.sent t.received t.taken t.put {}) :
    Lands peerFirst t.loopTop := by
  rw [loopTop_ready ready]
  exact lands_of rfl holds

theorem lands_pingPeer {t : Task}
    (holds : Holds peerFirst t.conn.io t.sent t.received t.taken t.put {})
    (id : UInt32) : Lands peerFirst (t.pingPeer id) := by
  unfold Task.pingPeer
  exact lands_control (p := .controlPing id) (by exact holds) rfl rfl (by simp)

theorem lands_startTimers {t : Task} (peer : UInt32)
    (holds : Holds peerFirst t.conn.io t.sent t.received t.taken t.put {}) :
    Lands peerFirst (t.startTimers peer) := by
  unfold Task.startTimers
  rcases startTimers_cases t.conn t.clock peer with ⟨site, failed⟩ | ⟨c, started, _, io, _⟩
  · simp only [failed]
    exact lands_crashed rfl
  · simp only [started]
    exact lands_of rfl (by simpa only [io] using holds)

theorem lands_handlePacket {t : Task} (ready : t.conn.state = .connected) {p : Packet}
    (holds : Holds peerFirst t.conn.io t.sent t.received t.taken t.put
      { inHand := messages [p], closeReceived := decide (p = .controlClose) }) :
    Lands peerFirst (t.handlePacket p) := by
  cases p with
  | data bytes => exact lands_of rfl holds
  | controlPing id =>
    exact lands_control (t := { t with conn := t.conn.resetTimers t.clock })
      (p := .controlPong id) holds rfl rfl (by simp)
  | controlPong id =>
    obtain ⟨io, state, _⟩ := pong_same (t.conn.resetTimers t.clock) id t.clock
    refine lands_loopTop (state.trans ready) ?_
    simp only [io]
    exact holds
  | controlKeepAlive =>
    exact lands_loopTop (t := { t with conn := t.conn.resetTimers t.clock }) ready holds
  | controlClose =>
    simp only [Task.handlePacket]
    rw [closeByPeer_ready (by exact ready)]
    exact lands_of rfl holds
  | controlHello interval => exact lands_crashed rfl
  | controlHelloAck interval => exact lands_crashed rfl

theorem holds_hands {t u : Task} {event : TaskEvent} {p : Packet} {m : Marks}
    (holds : Holds peerFirst t.conn.io t.sent t.received t.taken t.put m)
    (inHand : m.inHand = []) (closeReceived : m.closeReceived = false)
    (hands : Hands t event p u) :
    Holds peerFirst u.conn.io t.sent (t.received ++ [p]) t.taken t.put { m with
      inHand := messages [p], met := true, closeReceived := decide (p = .controlClose) } := by
  cases hands with
  | buffered buffer => exact holds_receive holds buffer inHand closeReceived
  | read empty nonempty read buffer =>
    exact holds_receive (holds_read holds read) buffer inHand closeReceived

theorem lands_resume {t : Task} {next : Resume} {m : Marks}
    (ready : next = .loop → t.conn.state = .connected) (is : marks (.sending [] next) = some m)
    (holds : Holds peerFirst t.conn.io t.sent t.received t.taken t.put m) :
    Lands peerFirst (t.resume next) := by
  cases next with
  | helloSent => exact lands_of is holds
  | ackSent peer =>
    cases is
    exact lands_startTimers peer holds
  | loop =>
    cases is
    exact lands_loopTop (ready rfl) holds
  | drain => exact lands_of is holds
  | peerClosing => exact lands_of is holds
  | closing inactive =>
    cases inactive with
    | true => cases is
    | false => exact lands_of is holds

theorem marks_sending {rest' : List UInt8} (rest : List UInt8) {next : Resume} {m : Marks}
    (is : marks (.sending rest' next) = some m) :
    marks (.sending rest next) = some { m with unsent := rest } ∧ m.unsent = rest' := by
  cases next with
  | closing inactive => cases inactive <;> cases is; exact ⟨rfl, rfl⟩
  | _ => cases is; exact ⟨rfl, rfl⟩

/-- No I/O error, no timeout, no abort, and no end of the stream. -/
def calm : TaskEvent → Bool
  | .ioError | .activeTimeoutTick | .closeTimeout | .abort | .read [] => false
  | _ => true

theorem step_lands {t t' : Task} {ch ch' : Channels} {event : TaskEvent}
    (ready : phase t.pc = .running → t.conn.state = .connected) (lands : Lands peerFirst t)
    (data : ∀ p, .send p ∈ ch.requests → ∃ bytes, p = .data bytes)
    (decodes : ∀ chunk, event = .read chunk → ∃ io, t.conn.io.readBytes chunk = .ok io)
    (first : t.pc = .draining → peerFirst) (fine : calm event = true)
    (step : t.step ch event = some (t', ch')) : Lands peerFirst t' := by
  have sound : ∀ {e u}, Breaks t event e u → False := by
    intro e u breaks
    cases breaks with
    | io => cases fine
    | garbled waits empty nonempty bad =>
      obtain ⟨io, read⟩ := decodes _ rfl
      rw [read] at bad
      cases bad
  -- one who closes for inactivity has no marks
  have timely : ∀ {pc : Pc}, t.pc = pc → crashed pc = false → marks pc = none → False := by
    intro pc here whole unmarked
    obtain ⟨m, is, _⟩ := lands_at lands here whole
    rw [unmarked] at is
    cases is
  cases task_move step with
  | passes => exact lands
  | aborts | losesHello | losesSend | losesShutdown | timesOut | givesUp | shakeEof | runEof =>
    cases fine
  | shakeBreaks here breaks | runBreaks here breaks | closeBreaks here breaks =>
    exact (sound breaks).elim
  | saysHello here =>
    exact lands_send false (holds_at lands here rfl) rfl rfl (by simp) (by simp [messages])
      (by simp) (by simp) (by simp [marks])
  | awaitsHello here | spawns here =>
    have holds := holds_at lands here rfl
    exact lands_of rfl holds
  | entersRun here => exact lands_pingPeer (holds_at lands here rfl) _
  | @writes n rest next here =>
    obtain ⟨m, is, holds⟩ := lands_at lands here rfl
    obtain ⟨after, unsent⟩ := marks_sending (rest.drop n) is
    have written := holds_wrote holds n
    rw [unsent] at written
    exact lands_of after written
  | @resumes n rest next here positive fits all =>
    obtain ⟨m, is, holds⟩ := lands_at lands here rfl
    obtain ⟨after, unsent⟩ := marks_sending (rest.drop n) is
    have written := holds_wrote holds n
    rw [unsent] at written
    rw [all] at after written
    refine lands_resume ?_ after written
    rintro rfl
    exact ready (by rw [here]; rfl)
  | closesStream here => exact lands_of rfl (holds_shutdown (holds_at lands here rfl) rfl rfl)
  | @awaitsClose inactive here =>
    cases inactive with
    | true => exact (timely here rfl rfl).elim
    | false => exact lands_of rfl (holds_shutdown (holds_at lands here rfl) rfl rfl)
  | reads waits empty nonempty read =>
    refine lands.imp id ?_
    rintro ⟨m, is, holds⟩
    exact ⟨m, is, holds_read holds read⟩
  | acknowledged here hands =>
    have holds := holds_hands (holds_at lands here rfl) rfl rfl hands
    rw [hands_eq hands]
    exact lands_startTimers _ holds
  | greeted here hands =>
    have holds := holds_hands (holds_at lands here rfl) rfl rfl hands
    rw [hands_eq hands]
    exact lands_send false holds rfl rfl (by simp) (by simp [withIo, messages]) (by simp) (by simp)
      (by simp [marks, messages])
  | misgreeted => exact lands_crashed rfl
  | handles here hands =>
    have holds := holds_hands (holds_at lands here rfl) rfl rfl hands
    rw [hands_eq hands]
    exact lands_handlePacket (by exact ready (by rw [here]; rfl)) (by exact holds)
  | @closeMeets _ _ inactive deadline here hands | @closeGets _ _ _ inactive deadline here hands =>
    cases inactive with
    | true => exact (timely here rfl rfl).elim
    | false =>
      have holds := holds_hands (holds_at lands here rfl) rfl rfl hands
      rw [hands_eq hands]
      exact lands_of rfl holds
  | @closeSkips _ p _ inactive deadline here other control hands =>
    cases inactive with
    | true => exact (timely here rfl rfl).elim
    | false =>
      have holds := holds_hands (holds_at lands here rfl) rfl rfl hands
      rw [hands_eq hands]
      refine lands_of (by rw [withIo, here]; rfl) ?_
      cases p with
      | data bytes => exact absurd rfl (control bytes)
      | controlClose => exact absurd rfl other
      | _ => exact holds
  | keepsAlive here => exact lands_control (by exact holds_at lands here rfl) rfl rfl (by simp)
  | queries here => exact lands_pingPeer (by exact holds_at lands here rfl) _
  | takesClose here =>
    have holds := holds_at lands here rfl
    rw [closeBySelf_ready (by exact ready (by rw [here]; rfl))]
    exact lands_send true holds rfl rfl (by simp [isHello])
      (by simp [sends, messages]) (by simp) (by simp) (by simp [marks])
  | takesSend here queue =>
    have holds := holds_at lands here rfl
    obtain ⟨bytes, rfl⟩ := data _ (by rw [queue]; exact List.mem_cons_self)
    exact lands_send false holds rfl rfl (by simp [isHello])
      (by simp [sends, messages]) (by simp) (by simp) (by simp [marks])
  | takesGetStatus here => exact lands_of rfl (holds_take (holds_at lands here rfl) rfl)
  | drained here =>
    exact lands_send false (holds_at lands here rfl) rfl rfl (by simp [isHello])
      (by simp [messages]) (by simp) (fun _ _ => first here) (by simp [marks])
  | drainsClose here =>
    have holds := holds_at lands here rfl
    exact lands_send false holds rfl rfl (by simp [isHello])
      (by simp [sends, messages]) (by simp) (fun _ _ => first here) (by simp [marks])
  | drainsSend here queue =>
    have holds := holds_at lands here rfl
    obtain ⟨bytes, rfl⟩ := data _ (by rw [queue]; exact List.mem_cons_self)
    exact lands_send false holds rfl rfl (by simp [isHello])
      (by simp [sends, messages]) (by simp) (by simp) (by simp [marks])
  | drainsGetStatus here =>
    exact lands_of (by rw [here]; rfl) (holds_take (holds_at lands here rfl) rfl)
  | undelivered | unanswered => exact lands_crashed rfl
  | delivers here =>
    exact lands_loopTop (by exact ready (by rw [here]; rfl))
      (holds_deliver (holds_at lands here rfl) rfl)
  | @deliversLate _ inactive deadline here =>
    cases inactive with
    | true => exact (timely here rfl rfl).elim
    | false => exact lands_of rfl (holds_deliver (holds_at lands here rfl) rfl)
  | replies here => exact lands_loopTop (ready (by rw [here]; rfl)) (holds_at lands here rfl)
  | drops here | finishes here =>
    obtain ⟨m, is, holds⟩ := lands_at lands here rfl
    exact lands_of is holds

theorem startTimers_inRun {t : Task} {peer : UInt32}
    (fine : crashed (t.startTimers peer).pc = false) :
    InRun (t.startTimers peer) := by
  rcases startTimers_handshaken t peer with ⟨site, panicked⟩ | ⟨connected, ready⟩
  · rw [panicked] at fine
    cases fine
  · exact inRun_running (by rw [connected]; rfl) ready

/-- A handshake that has not failed goes on, or has handed over to run. -/
theorem handshake_step {t t' : Task} {ch ch' : Channels} {event : TaskEvent}
    (early : phase t.pc = .handshake) (fine : crashed t'.pc = false)
    (step : t.step ch event = some (t', ch')) : phase t'.pc = .handshake ∨ InRun t' := by
  cases task_move step with
  | saysHello =>
    rw [send_eq]
    exact .inl rfl
  | greeted here hands =>
    rw [send_eq]
    exact .inl rfl
  | awaitsHello => exact .inl rfl
  | writes here =>
    rw [here] at early
    exact .inl early
  | @resumes n rest next here =>
    cases next with
    | helloSent => exact .inl rfl
    | ackSent peer => exact .inr (startTimers_inRun fine)
    | _ =>
      rw [here] at early
      cases early
  | reads | passes => exact .inl early
  | acknowledged => exact .inr (startTimers_inRun fine)
  | aborts | losesSend | losesShutdown => exact .inr (.inr rfl)
  | losesHello | shakeBreaks | shakeEof | misgreeted | undelivered | unanswered => cases fine
  | runEof here =>
    rcases here with here | ⟨_, _, here⟩ <;>
    · rw [here] at early
      cases early
  | givesUp here =>
    rcases here with here | ⟨_, here⟩ <;>
    · rw [here] at early
      cases early
  | spawns here | entersRun here | closesStream here | awaitsClose here | runBreaks here
  | closeBreaks here | handles here | closeMeets here | closeGets here | closeSkips here
  | keepsAlive here | queries here | timesOut here | takesClose here | takesSend here
  | takesGetStatus here | drained here | drainsClose here | drainsSend here | drainsGetStatus here
  | delivers here | deliversLate here | replies here | drops here | finishes here =>
    rw [here] at early
    cases early

end NcdTransfer
