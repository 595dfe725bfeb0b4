import Ncd.PanicFree

/- What an endpoint puts on the wire. A small automaton says which packet may follow
   which; every place that calls send_packet moves along it, and what is written is
   always the beginning of what was given to send_packet. -/
namespace NcdWireGrammar
open NcdPacket NcdFrame NcdIoState NcdReceiver NcdConnection NcdHandler NcdTaskMoves NcdTaskSteps
  NcdBooks NcdPanicFree LabelledRuns

inductive Stage where
  | silent
  | talking
  | closed
  deriving DecidableEq, Repr

def isTalk : Packet → Bool
  | .controlPing _ | .controlPong _ | .controlKeepAlive | .data _ => true
  | _ => false

def speak (hello : Packet) : Stage → Packet → Option Stage
  | .silent, p => if p = hello then some .talking else none
  | .talking, p =>
    if isTalk p then some .talking else if p = .controlClose then some .closed else none
  | .closed, _ => none

/-- One hello, then talk, then at most one ControlClose. -/
def Sentence (hello : Packet) (ps : List Packet) : Prop :=
  ∃ talk close, ps = hello :: talk ++ close ∧ (∀ p ∈ talk, isTalk p = true) ∧
    (close = [] ∨ close = [.controlClose])

theorem closed_says_nothing {hello : Packet} {stage : Stage} {ps : List Packet}
    (spoken : exec (speak hello) .closed ps = some stage) : ps = [] := by
  cases ps with
  | nil => rfl
  | cons p ps => simp [exec, speak] at spoken

theorem talk_then_close {hello : Packet} {stage : Stage} {ps : List Packet}
    (spoken : exec (speak hello) .talking ps = some stage) :
    ∃ talk close, ps = talk ++ close ∧ (∀ p ∈ talk, isTalk p = true) ∧
      (close = [] ∨ close = [.controlClose]) := by
  induction ps with
  | nil => exact ⟨[], [], rfl, by simp, .inl rfl⟩
  | cons p ps ih =>
    obtain ⟨next, first, rest⟩ := exec_cons spoken
    by_cases talks : isTalk p = true
    · simp only [speak, talks, if_true, Option.some.injEq] at first
      subst first
      obtain ⟨talk, close, rfl, all, ending⟩ := ih rest
      refine ⟨p :: talk, close, rfl, ?_, ending⟩
      intro q member
      rcases List.mem_cons.mp member with rfl | later
      · exact talks
      · exact all q later
    · by_cases last : p = .controlClose
      · simp only [speak, last, if_true] at first
        cases first
        rw [closed_says_nothing rest, last]
        exact ⟨[], [.controlClose], rfl, by simp, .inr rfl⟩
      · simp [speak, talks, last] at first

/- The language of the automaton, less the empty sequence. -/
theorem sentence_of_spoken {hello : Packet} {stage : Stage} {ps : List Packet}
    (spoken : exec (speak hello) .silent ps = some stage) : ps = [] ∨ Sentence hello ps := by
  cases ps with
  | nil => exact .inl rfl
  | cons p ps =>
    obtain ⟨next, first, rest⟩ := exec_cons spoken
    by_cases opens : p = hello
    · simp only [speak, opens, if_true, Option.some.injEq] at first
      subst first
      obtain ⟨talk, close, rfl, all, ending⟩ := talk_then_close rest
      exact .inr ⟨talk, close, by rw [opens, List.cons_append], all, ending⟩
    · simp [speak, opens] at first

def pingIds : List Packet → List UInt32
  | [] => []
  | .controlPing id :: ps => id :: pingIds ps
  | _ :: ps => pingIds ps

def pongIds : List Packet → List UInt32
  | [] => []
  | .controlPong id :: ps => id :: pongIds ps
  | _ :: ps => pongIds ps

@[simp] theorem pingIds_append (ps qs : List Packet) :
    pingIds (ps ++ qs) = pingIds ps ++ pingIds qs := by
  induction ps with
  | nil => rfl
  | cons p ps ih => cases p <;> simp [pingIds, ih]

@[simp] theorem pongIds_append (ps qs : List Packet) :
    pongIds (ps ++ qs) = pongIds ps ++ pongIds qs := by
  induction ps with
  | nil => rfl
  | cons p ps ih => cases p <;> simp [pongIds, ih]

def helloOf (role : ConnRole) (keepAliveIntervalMs : UInt32) : Packet :=
  match role with
  | .device => .controlHello keepAliveIntervalMs
  | .host => .controlHelloAck keepAliveIntervalMs

def stageOf : Resume → Stage
  | .helloSent | .ackSent _ | .loop | .drain => .talking
  | .peerClosing | .closing _ => .closed

/-- How far the wire is at each await: the stage, and what send_packet has still to
    write. Once run has returned neither matters. -/
def fits (role : ConnRole) : Pc → Stage → List UInt8 → Prop
  | .start, stage, rest => stage = .silent ∧ rest = []
  | .awaitHello, stage, rest => stage = .silent ∧ rest = [] ∧ role = .host
  | .sending left next, stage, rest => stage = stageOf next ∧ rest = left
  | .awaitHelloAck, stage, rest | .connected, stage, rest | .spawned, stage, rest
  | .select, stage, rest | .replying _, stage, rest | .draining, stage, rest
  | .delivering _ none, stage, rest => stage = .talking ∧ rest = []
  | .shuttingDown _, stage, rest | .awaitClose _ _, stage, rest
  | .delivering _ (some _), stage, rest => stage = .closed ∧ rest = []
  | .failed _, _, _ | .returned _, _, _ | .dropped _, _, _ | .finished _, _, _
  | .panicked _, _, _ | .aborted, _, _ => True

/-- What has been said so far, and to what end: Data for the requests taken, pongs for the
    pings handled. -/
structure Said (hello : Packet) (handled : List Packet) (t : Task) (stage : Stage)
    (rest : List UInt8) : Prop where
  opening : helloOf t.conn.role t.conn.keepAliveIntervalMs = hello
  spoken : exec (speak hello) .silent t.sent = some stage
  bytes : t.conn.io.stream.written ++ rest = wire t.sent
  data : messages t.sent = sends t.taken
  pongs : pongIds t.sent = pingIds handled

def Grammatical (hello : Packet) (handled : List Packet) (t : Task) : Prop :=
  ∃ stage rest, Said hello handled t stage rest ∧ fits t.conn.role t.pc stage rest

structure Quiet (t u : Task) : Prop where
  role : u.conn.role = t.conn.role
  interval : u.conn.keepAliveIntervalMs = t.conn.keepAliveIntervalMs
  sent : u.sent = t.sent
  written : u.conn.io.stream.written = t.conn.io.stream.written

theorem Quiet.refl (t : Task) : Quiet t t := ⟨rfl, rfl, rfl, rfl⟩

variable {hello : Packet} {handled more : List Packet} {t t' u : Task} {stage : Stage}
  {rest : List UInt8}

theorem said_quiet (more : List Packet) (said : Said hello handled t stage rest)
    (quiet : Quiet t u) (taken : sends u.taken = sends t.taken) (pings : pingIds more = []) :
    Said hello (handled ++ more) u stage rest where
  opening := by rw [quiet.role, quiet.interval, said.opening]
  spoken := by rw [quiet.sent, said.spoken]
  bytes := by rw [quiet.written, quiet.sent, said.bytes]
  data := by rw [quiet.sent, taken, said.data]
  pongs := by rw [quiet.sent, said.pongs, pingIds_append, pings, List.append_nil]

theorem said_same (said : Said hello handled t stage rest) (quiet : Quiet t u)
    (taken : u.taken = t.taken) : Said hello handled u stage rest := by
  simpa using said_quiet [] said quiet (by rw [taken]) rfl

/- The only place where sent grows: everything earlier has been written completely. -/
theorem grammatical_send (next : Resume) (more : List Packet)
    (said : Said hello handled t stage []) (quiet : Quiet t u) {p : Packet}
    (follows : speak hello stage p = some (stageOf next))
    (taken : sends u.taken = sends t.taken ++ messages [p])
    (pongs : pongIds [p] = pingIds more) : Grammatical hello (handled ++ more) (u.send p next) := by
  rw [send_eq]
  refine ⟨stageOf next, packetBytes p, ⟨?_, ?_, ?_, ?_, ?_⟩, rfl, rfl⟩
  · exact (congrArg₂ helloOf quiet.role quiet.interval).trans said.opening
  · dsimp only
    rw [exec_snoc, quiet.sent, said.spoken, Option.bind_some, follows]
  · have written : t.conn.io.stream.written = wire t.sent := by simpa using said.bytes
    dsimp only
    rw [quiet.written, quiet.sent, wire_append, written]
    simp [wire]
  · dsimp only
    rw [quiet.sent, messages_append, said.data, taken]
  · dsimp only
    rw [quiet.sent, pongIds_append, said.pongs, pongs, pingIds_append]

theorem grammatical_loopTop (said : Said hello handled t .talking []) :
    Grammatical hello handled t.loopTop := by
  unfold Task.loopTop
  split
  · exact ⟨_, _, said_same said ⟨rfl, rfl, rfl, rfl⟩ rfl, rfl, rfl⟩
  · split <;> exact ⟨_, _, said_same said ⟨rfl, rfl, rfl, rfl⟩ rfl, trivial⟩

theorem grammatical_ended (said : Said hello handled t stage rest) (quiet : Quiet t u)
    (taken : u.taken = t.taken) (ended : ∀ stage rest, fits u.conn.role u.pc stage rest) :
    Grammatical hello handled u :=
  ⟨_, _, said_same said quiet taken, ended _ _⟩

theorem startTimers_same {c c' : Connection} {now : Nat} {peer : UInt32}
    (started : c.startTimers now peer = .ok c') :
    c'.role = c.role ∧ c'.keepAliveIntervalMs = c.keepAliveIntervalMs ∧ c'.io = c.io := by
  unfold Connection.startTimers at started
  split at started
  · cases started
  · split at started
    · cases started
    · split at started
      · cases started
      · split at started
        · cases started
        · cases started
          exact ⟨rfl, rfl, rfl⟩

theorem grammatical_startTimers (said : Said hello handled t .talking []) (peer : UInt32) :
    Grammatical hello handled (t.startTimers peer) := by
  unfold Task.startTimers
  split
  · exact grammatical_ended said ⟨rfl, rfl, rfl, rfl⟩ rfl fun _ _ => trivial
  · rename_i conn started
    obtain ⟨role, interval, io⟩ := startTimers_same started
    refine ⟨.talking, [], ?_, rfl, rfl⟩
    exact said_same said ⟨role, interval, rfl, by rw [io]⟩ rfl

theorem grammatical_resume {next : Resume} (said : Said hello handled t (stageOf next) []) :
    Grammatical hello handled (t.resume next) := by
  have here : ∀ pc, fits t.conn.role pc (stageOf next) [] →
      Grammatical hello handled { t with pc := pc } := fun pc fit =>
    ⟨_, _, said_same said ⟨rfl, rfl, rfl, rfl⟩ rfl, fit⟩
  cases next with
  | helloSent => exact here .awaitHelloAck ⟨rfl, rfl⟩
  | ackSent peer => exact grammatical_startTimers said peer
  | loop => exact grammatical_loopTop said
  | drain => exact here .draining ⟨rfl, rfl⟩
  | peerClosing => exact here (.shuttingDown none) ⟨rfl, rfl⟩
  | closing inactive => exact here (.shuttingDown (some inactive)) ⟨rfl, rfl⟩

theorem grammatical_finishClose (said : Said hello handled t stage rest)
    (result : Except ConnectionError Unit) : Grammatical hello handled (t.finishClose result) := by
  rw [finishClose_eq]
  exact grammatical_ended said ⟨rfl, rfl, rfl, rfl⟩ rfl fun _ _ => trivial

/- One case per packet: only a ping is answered. -/
theorem grammatical_handlePacket (said : Said hello handled t .talking []) (p : Packet) :
    Grammatical hello (handled ++ [p]) (t.handlePacket p) := by
  have reset : Quiet t { t with conn := t.conn.resetTimers t.clock } := ⟨rfl, rfl, rfl, rfl⟩
  have quiet : pingIds [p] = [] → Said hello (handled ++ [p])
      { t with conn := t.conn.resetTimers t.clock } .talking [] :=
    fun none => said_quiet _ said reset rfl none
  cases p with
  | controlPing id =>
    exact grammatical_send (p := .controlPong id) _ _ said reset rfl (by simp [messages]) rfl
  | controlPong id =>
    obtain ⟨role, _, interval⟩ := pong_setup (t.conn.resetTimers t.clock) id t.clock
    refine grammatical_loopTop (said_quiet _ said ⟨role, interval, rfl, ?_⟩ rfl rfl)
    exact congrArg (fun io : IoState => io.stream.written) (pong_io _ id t.clock)
  | controlKeepAlive => exact grammatical_loopTop (quiet rfl)
  | controlClose =>
    have said' := quiet rfl
    simp only [Task.handlePacket, Task.closeByPeer]
    split
    · exact grammatical_ended said' ⟨rfl, rfl, rfl, rfl⟩ rfl fun _ _ => trivial
    · exact ⟨_, _, said_same said' ⟨rfl, rfl, rfl, rfl⟩ rfl, rfl, rfl⟩
  | data bytes =>
    have said' := quiet rfl
    exact ⟨_, _, said_same said' ⟨rfl, rfl, rfl, rfl⟩ rfl, rfl, rfl⟩
  | controlHello k =>
    exact grammatical_ended (quiet rfl) ⟨rfl, rfl, rfl, rfl⟩ rfl fun _ _ => trivial
  | controlHelloAck k =>
    exact grammatical_ended (quiet rfl) ⟨rfl, rfl, rfl, rfl⟩ rfl fun _ _ => trivial

def given (pc : Pc) (p : Packet) : List Packet := if pc = .select then [p] else []

def handledBy (t : Task) (event : TaskEvent) : List Packet :=
  match received t event with
  | some p => given t.pc p
  | none => []

theorem handledBy_away (away : t.pc ≠ .select) (event : TaskEvent) : handledBy t event = [] := by
  unfold handledBy
  split
  · rw [given, if_neg away]
  · rfl

theorem hands_quiet {event : TaskEvent} {p : Packet} (hands : Hands t event p u) : Quiet t u := by
  cases hands with
  | buffered => exact ⟨rfl, rfl, rfl, rfl⟩
  | read _ _ read => exact ⟨rfl, rfl, rfl, by simp [withIo, readBytes_stream read]⟩

theorem breaks_quiet {event : TaskEvent} {e : ConnectionError} (breaks : Breaks t event e u) :
    Quiet t u := by
  cases breaks <;> exact ⟨rfl, rfl, rfl, rfl⟩

theorem grammatical_same (good : Grammatical hello handled t) (quiet : Quiet t u)
    (taken : u.taken = t.taken) (pc : u.pc = t.pc) : Grammatical hello handled u := by
  obtain ⟨stage, rest, said, fit⟩ := good
  exact ⟨stage, rest, said_same said quiet taken, by rw [pc, quiet.role]; exact fit⟩

theorem said_wrote (said : Said hello handled t stage rest) (n : Nat) :
    Said hello handled (wroteBytes t (rest.take n)) stage (rest.drop n) :=
  ⟨said.opening, said.spoken, by simpa [wroteBytes] using said.bytes, said.data, said.pongs⟩

theorem said_asked (said : Said hello handled t stage rest) :
    Said hello handled { t with taken := t.taken ++ [.getStatus] } stage rest := by
  have said' := said_quiet [] said (u := { t with taken := t.taken ++ [.getStatus] })
    ⟨rfl, rfl, rfl, rfl⟩ (by simp [sends]) rfl
  rwa [List.append_nil] at said'

theorem grammatical_ping (said : Said hello handled t .talking []) (id : UInt32) :
    Grammatical hello handled (t.pingPeer id) := by
  unfold Task.pingPeer
  simpa using grammatical_send (p := .controlPing id) .loop [] said
    (u := { t with conn := { t.conn with pingTimers :=
      (id, t.clock) :: t.conn.pingTimers.filter fun entry => entry.1 ≠ id } })
    ⟨rfl, rfl, rfl, rfl⟩ rfl (by simp [messages]) rfl

theorem grammatical_close (said : Said hello handled t .talking []) {u : Task} (quiet : Quiet t u)
    (taken : sends u.taken = sends t.taken) {next : Resume} (closes : stageOf next = .closed) :
    Grammatical hello handled (u.send .controlClose next) := by
  have sent := grammatical_send (p := .controlClose) next [] said quiet
    (by rw [closes]; rfl) (by simpa [messages] using taken) rfl
  simpa using sent

theorem grammatical_closeBySelf (said : Said hello handled t .talking []) (quiet : Quiet t u)
    (taken : sends u.taken = sends t.taken) (inactive : Bool) :
    Grammatical hello handled (u.closeBySelf inactive) := by
  unfold Task.closeBySelf
  split
  · have said' := said_quiet [] said quiet taken rfl
    rw [List.append_nil] at said'
    exact grammatical_ended said' ⟨rfl, rfl, rfl, rfl⟩ rfl fun _ _ => trivial
  · exact grammatical_close said quiet taken rfl

/-- The handler asks for nothing but Data to be sent. -/
def UserRequests (requests : List Request) : Prop :=
  ∀ r ∈ requests, ∃ call : Asking, r = call.request

theorem grammatical_sendData (said : Said hello handled t .talking []) (quiet : Quiet t u)
    {bytes : List UInt8} (taken : u.taken = t.taken ++ [.send (.data bytes)]) {next : Resume}
    (talks : stageOf next = .talking) :
    Grammatical hello handled (u.send (.data bytes) next) := by
  have sent := grammatical_send (p := .data bytes) next [] said quiet
    (by rw [talks]; rfl) (by simp [taken, sends, messages]) rfl
  rwa [List.append_nil] at sent

theorem user_send {requests rest : List Request} {p : Packet} (user : UserRequests requests)
    (queue : requests = .send p :: rest) : ∃ bytes, p = .data bytes := by
  obtain ⟨call, asked⟩ := user (.send p) (by simp [queue])
  cases call with
  | write bytes => exact ⟨bytes, by simpa [Asking.request] using asked⟩
  | getStatus => cases asked
  | close => cases asked

/-- Every event of the task moves along the automaton or says nothing. -/
theorem step_grammatical {ch ch' : Channels} {event : TaskEvent}
    (good : Grammatical hello handled t) (user : UserRequests ch.requests)
    (step : t.step ch event = some (t', ch')) :
    Grammatical hello (handled ++ handledBy t event) t' := by
  have idle : handledBy t event = [] → Grammatical hello handled t' →
      Grammatical hello (handled ++ handledBy t event) t' := by
    intro nothing good'
    rwa [nothing, List.append_nil]
  have silent : received t event = none → handledBy t event = [] := by
    intro none
    rw [handledBy, none]
  have ⟨stage, rest, said, fit⟩ := good
  cases task_move step with
  | saysHello here role =>
    rw [here] at fit
    obtain ⟨rfl, rfl⟩ := fit
    have opens : hello = .controlHello t.conn.keepAliveIntervalMs := by
      rw [← said.opening, role, helloOf]
    have sent := grammatical_send (p := hello) .helloSent [] said (Quiet.refl t)
      (by simp [speak, stageOf]) (by simp [opens, messages]) (by rw [opens]; rfl)
    rwa [← opens]
  | awaitsHello here role =>
    rw [here] at fit
    obtain ⟨rfl, rfl⟩ := fit
    exact idle rfl ⟨_, _, said_same said ⟨rfl, rfl, rfl, rfl⟩ rfl, rfl, rfl, role⟩
  | spawns here =>
    rw [here] at fit
    exact idle rfl ⟨_, _, said_same said ⟨rfl, rfl, rfl, rfl⟩ rfl, fit⟩
  | entersRun here =>
    rw [here] at fit
    obtain ⟨rfl, rfl⟩ := fit
    exact idle rfl (grammatical_ping said _)
  | @writes n left next here =>
    rw [here] at fit
    obtain ⟨rfl, rfl⟩ := fit
    exact idle rfl ⟨_, _, said_same (said_wrote said n) ⟨rfl, rfl, rfl, rfl⟩ rfl, rfl, rfl⟩
  | @resumes n left next here positive fits all =>
    rw [here] at fit
    obtain ⟨rfl, rfl⟩ := fit
    have wrote := said_wrote said n
    rw [all] at wrote
    exact idle rfl (grammatical_resume (said_same wrote ⟨rfl, rfl, rfl, rfl⟩ rfl))
  | closesStream here =>
    rw [here] at fit
    obtain ⟨rfl, rfl⟩ := fit
    refine idle rfl (grammatical_finishClose (?_ : Said hello handled _ .closed []) _)
    exact said_same said ⟨rfl, rfl, rfl, rfl⟩ rfl
  | awaitsClose here =>
    rw [here] at fit
    exact idle rfl ⟨_, _, said_same said ⟨rfl, rfl, rfl, rfl⟩ rfl, fit⟩
  | losesHello | losesSend | losesShutdown | givesUp | drops | finishes | aborts | undelivered
  | unanswered =>
    exact idle rfl (grammatical_ended said ⟨rfl, rfl, rfl, rfl⟩ rfl fun _ _ => trivial)
  | shakeEof | runEof =>
    exact idle (silent rfl) (grammatical_ended said ⟨rfl, rfl, rfl, rfl⟩ rfl fun _ _ => trivial)
  | shakeBreaks here breaks | runBreaks here breaks =>
    have said' := said_same said (breaks_quiet breaks) (breaks_taken breaks)
    exact idle (silent (breaks_received breaks))
      (grammatical_ended said' ⟨rfl, rfl, rfl, rfl⟩ rfl fun _ _ => trivial)
  | closeBreaks here breaks =>
    exact idle (silent (breaks_received breaks)) (grammatical_finishClose
      (said_same said (breaks_quiet breaks) (breaks_taken breaks)) _)
  | reads waits empty nonempty read bare =>
    refine idle (silent ?_) (grammatical_same good ⟨rfl, rfl, rfl, ?_⟩ rfl rfl)
    · simp [received, nonempty, read, bare]
    · simp [withIo, readBytes_stream read]
  | acknowledged here hands =>
    rw [here] at fit
    obtain ⟨rfl, rfl⟩ := fit
    exact idle (handledBy_away (by simp [here]) _) (grammatical_startTimers
      (said_same said (hands_quiet hands) (hands_taken hands)) _)
  | greeted here hands =>
    rw [here] at fit
    obtain ⟨rfl, rfl, host⟩ := fit
    have said' := said_same said (hands_quiet hands) (hands_taken hands)
    rename_i peer u
    have ack : hello = .controlHelloAck u.conn.keepAliveIntervalMs := by
      rw [← said'.opening, (hands_quiet hands).role, host, helloOf]
    have sent := grammatical_send (p := hello) (.ackSent peer) [] said' (Quiet.refl u)
      (by simp [speak, stageOf]) (by simp [ack, messages]) (by rw [ack]; rfl)
    rw [handledBy_away (by simp [here])]
    rwa [← ack]
  | misgreeted here hands =>
    have said' := said_same said (hands_quiet hands) (hands_taken hands)
    have away : t.pc ≠ .select := by rcases here with ⟨is, _⟩ | ⟨is, _⟩ <;> simp [is]
    exact idle (handledBy_away away _)
      (grammatical_ended said' ⟨rfl, rfl, rfl, rfl⟩ rfl fun _ _ => trivial)
  | handles here hands =>
    rw [here] at fit
    obtain ⟨rfl, rfl⟩ := fit
    rw [handledBy, hands_received hands]
    dsimp only
    rw [given, if_pos here]
    exact grammatical_handlePacket (said_same said (hands_quiet hands) (hands_taken hands)) _
  | closeMeets here hands =>
    exact idle (handledBy_away (by simp [here]) _) (grammatical_finishClose
      (said_same said (hands_quiet hands) (hands_taken hands)) _)
  | closeGets here hands =>
    rw [here] at fit
    have said' := said_same said (hands_quiet hands) (hands_taken hands)
    exact idle (handledBy_away (by simp [here]) _)
      ⟨_, _, said_same said' ⟨rfl, rfl, rfl, rfl⟩ rfl, fit⟩
  | closeSkips here other control hands =>
    have pc : t'.pc = t.pc := by cases hands <;> rfl
    exact idle (handledBy_away (by simp [here]) _)
      (grammatical_same good (hands_quiet hands) (hands_taken hands) pc)
  | @keepsAlive timer here =>
    rw [here] at fit
    obtain ⟨rfl, rfl⟩ := fit
    exact grammatical_send (p := .controlKeepAlive) .loop [] said
      (u := { t with conn := { t.conn with keepAliveTimer := some timer.tick } })
      ⟨rfl, rfl, rfl, rfl⟩ rfl (by simp [messages]) rfl
  | queries here =>
    rw [here] at fit
    obtain ⟨rfl, rfl⟩ := fit
    refine idle rfl (grammatical_ping ?_ _)
    exact said_same said ⟨rfl, rfl, rfl, rfl⟩ rfl
  | timesOut here =>
    rw [here] at fit
    obtain ⟨rfl, rfl⟩ := fit
    refine idle rfl (grammatical_closeBySelf said ?_ ?_ true)
    · exact ⟨rfl, rfl, rfl, rfl⟩
    · rfl
  | takesClose here =>
    rw [here] at fit
    obtain ⟨rfl, rfl⟩ := fit
    refine idle rfl (grammatical_closeBySelf said ?_ ?_ false)
    · exact ⟨rfl, rfl, rfl, rfl⟩
    · simp [sends]
  | takesSend here queue =>
    obtain ⟨bytes, rfl⟩ := user_send user queue
    rw [here] at fit
    obtain ⟨rfl, rfl⟩ := fit
    refine idle rfl (grammatical_sendData said ?_ ?_ rfl)
    · exact ⟨rfl, rfl, rfl, rfl⟩
    · rfl
  | takesGetStatus here =>
    rw [here] at fit
    exact idle rfl ⟨_, _, said_same (said_asked said) ⟨rfl, rfl, rfl, rfl⟩ rfl, fit⟩
  | drained here =>
    rw [here] at fit
    obtain ⟨rfl, rfl⟩ := fit
    exact idle rfl (grammatical_close said (Quiet.refl t) rfl rfl)
  | drainsClose here =>
    rw [here] at fit
    obtain ⟨rfl, rfl⟩ := fit
    refine idle rfl (grammatical_close said ?_ ?_ rfl)
    · exact ⟨rfl, rfl, rfl, rfl⟩
    · simp [sends]
  | drainsSend here queue =>
    obtain ⟨bytes, rfl⟩ := user_send user queue
    rw [here] at fit
    obtain ⟨rfl, rfl⟩ := fit
    refine idle rfl (grammatical_sendData said ?_ ?_ rfl)
    · exact ⟨rfl, rfl, rfl, rfl⟩
    · rfl
  | drainsGetStatus here =>
    exact idle rfl ⟨_, _, said_asked said, fit⟩
  | delivers here =>
    rw [here] at fit
    obtain ⟨rfl, rfl⟩ := fit
    refine idle rfl (grammatical_loopTop ?_)
    exact said_same said ⟨rfl, rfl, rfl, rfl⟩ rfl
  | deliversLate here =>
    rw [here] at fit
    exact idle rfl ⟨_, _, said_same said ⟨rfl, rfl, rfl, rfl⟩ rfl, fit⟩
  | replies here =>
    rw [here] at fit
    obtain ⟨rfl, rfl⟩ := fit
    exact idle rfl (grammatical_loopTop said)
  | passes => exact idle rfl (grammatical_same good ⟨rfl, rfl, rfl, rfl⟩ rfl rfl)

/-- An endpoint, and the packets that its run has given to handle_packet. -/
structure Handling where
  endpoint : Endpoint
  handled : List Packet := []
  deriving DecidableEq, Repr

def Handling.step (h : Handling) (event : EndpointEvent) : Option Handling :=
  (h.endpoint.step event).map fun e =>
    { endpoint := e
      handled := match event with
        | .task event => h.handled ++ handledBy h.endpoint.task event
        | _ => h.handled }

def Orderly (hello : Packet) (h : Handling) : Prop :=
  Books h.endpoint ∧ Grammatical hello h.handled h.endpoint.task

theorem step_orderly {h h' : Handling} {event : EndpointEvent} (orderly : Orderly hello h)
    (step : h.step event = some h') : Orderly hello h' := by
  obtain ⟨books, good⟩ := orderly
  simp only [Handling.step, Option.map_eq_some_iff] at step
  obtain ⟨e, step, rfl⟩ := step
  refine ⟨step_books books step, ?_⟩
  cases event with
  | task event =>
    obtain ⟨t', ch', moved, task, _⟩ := task_parts step
    have user : UserRequests h.endpoint.channels.requests := by
      intro r member
      refine books.asked r ?_
      rw [books.requests]
      exact List.mem_append_right _ member
    rw [← task] at moved
    exact step_grammatical good user moved
  | _ =>
    have same := call_task (by simp) step
    dsimp only
    rw [same]
    exact good

theorem run_orderly {peerAddr : SocketAddr} {timeoutMs closeTimeoutMs keepAliveIntervalMs : UInt32}
    {role : ConnRole} {bufferSize : Nat} {h : Handling}
    (run : Reaches Handling.step Any
      ⟨Endpoint.new peerAddr timeoutMs closeTimeoutMs keepAliveIntervalMs role bufferSize, []⟩ h) :
    Orderly (helloOf role keepAliveIntervalMs) h := by
  refine run.keeps (fun orderly _ step => step_orderly orderly step) ⟨?_, ?_⟩
  · exact opened_books (new_opened _ _ _ _ _ _)
  · exact ⟨.silent, [], ⟨rfl, rfl, rfl, rfl, rfl⟩, rfl, rfl⟩

theorem wire_mono {ps qs : List Packet} (shorter : ps <+: qs) : wire ps <+: wire qs := by
  obtain ⟨more, rfl⟩ := shorter
  rw [wire_append]
  exact List.prefix_append _ _

theorem sends_prefix {rs qs : List Request} (shorter : rs <+: qs) : sends rs <+: sends qs := by
  obtain ⟨more, rfl⟩ := shorter
  rw [sends_append]
  exact List.prefix_append _ _

/-- The bytes on the wire are a prefix of the encoding of a sentence that carries the
    accepted Data in order and one pong for each ping handled. -/
theorem endpoint_keeps_grammar {peerAddr : SocketAddr}
    {timeoutMs closeTimeoutMs keepAliveIntervalMs : UInt32} {role : ConnRole} {bufferSize : Nat}
    {h : Handling}
    (run : Reaches Handling.step Any
      ⟨Endpoint.new peerAddr timeoutMs closeTimeoutMs keepAliveIntervalMs role bufferSize, []⟩ h) :
    ∃ packets, Sentence (helloOf role keepAliveIntervalMs) packets ∧
      h.endpoint.task.conn.io.stream.written <+: wire packets ∧
      h.endpoint.task.sent <+: packets ∧
      messages packets <+: sends h.endpoint.handler.accepted ∧
      pongIds packets = pingIds h.handled := by
  obtain ⟨books, stage, rest, said, _⟩ := run_orderly run
  have written : h.endpoint.task.conn.io.stream.written <+: wire h.endpoint.task.sent :=
    ⟨rest, said.bytes⟩
  have accepted : sends h.endpoint.task.taken <+: sends h.endpoint.handler.accepted :=
    sends_prefix ⟨h.endpoint.channels.requests, books.requests.symm⟩
  rcases sentence_of_spoken said.spoken with silent | sentence
  · refine ⟨[helloOf role keepAliveIntervalMs], ⟨[], [], rfl, by simp, .inl rfl⟩, ?_, ?_, ?_, ?_⟩
    · exact written.trans (wire_mono (by simp [silent]))
    · simp [silent]
    · cases role <;> exact List.nil_prefix
    · have none := said.pongs
      rw [silent] at none
      rw [← none]
      cases role <;> rfl
  · exact ⟨_, sentence, written, List.prefix_rfl, said.data ▸ accepted, said.pongs⟩

/-- The host answers a ping, takes a write and a close; the ControlClose is half written. -/
def chat : List EndpointEvent :=
  hostHandshake ++
    [.task (.read [0x4E, 0x43, 0x44, 0x01, 0x00, 0x04, 0x00, 0x05, 0x00, 0x00, 0x00, 0x07]),
      .task (.wrote 12), .write [0xAA], .requested, .task .request, .task (.wrote 9),
      .close, .requested, .task .request, .task (.wrote 4)]

def afterChat : Handling := (exec Handling.step ⟨aHost, []⟩ chat).getD ⟨aHost, []⟩

theorem chat_reached : Reaches Handling.step Any
    ⟨Endpoint.new { ip := [127, 0, 0, 1], port := 9000 } 5000 5000 2500 .host 4, []⟩ afterChat :=
  reaches_of_exec chat (by decide +kernel)

theorem chat_keeps_grammar :
    ∃ packets, Sentence (.controlHelloAck 2500) packets ∧
      afterChat.endpoint.task.conn.io.stream.written <+: wire packets ∧
      afterChat.endpoint.task.sent <+: packets ∧
      messages packets <+: sends afterChat.endpoint.handler.accepted ∧
      pongIds packets = pingIds afterChat.handled :=
  endpoint_keeps_grammar chat_reached

end NcdWireGrammar
