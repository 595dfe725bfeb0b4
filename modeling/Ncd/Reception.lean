import Ncd.WireGrammar

/- What a task makes of the bytes its peer has written, in any run: errors, timeouts and the
   end of the stream at any moment included. -/
namespace NcdReception
open NcdPacket NcdFrame NcdIoState NcdReceiver NcdConnection NcdHandler NcdTaskMoves NcdTaskSteps
  NcdBooks LabelledRuns

def inHand : Pc → List (List UInt8)
  | .delivering data _ => [data]
  | _ => []

def attends : Pc → Bool
  | .failed _ | .returned _ | .dropped _ | .finished _ | .panicked _ | .aborted => false
  | _ => true

structure Heard (t : Task) : Prop where
  agrees : Agrees t.conn.io t.received
  order : t.put <+: messages t.received
  whole : attends t.pc = true → t.put ++ inHand t.pc = messages t.received

/-- A piece of the task that reads nothing and puts nothing into the packet channel. -/
structure SameInput (t t' : Task) : Prop where
  received : t'.received = t.received
  put : t'.put = t.put
  consumed : t'.conn.io.stream.consumed = t.conn.io.stream.consumed
  byteBuffer : t'.conn.io.byteBuffer = t.conn.io.byteBuffer
  frameBuffer : t'.conn.io.frameBuffer = t.conn.io.frameBuffer
  packetBuffer : t'.conn.io.packetBuffer = t.conn.io.packetBuffer

variable {t m t' : Task}

theorem SameInput.trans (first : SameInput t m) (second : SameInput m t') : SameInput t t' :=
  ⟨second.received.trans first.received, second.put.trans first.put,
    second.consumed.trans first.consumed, second.byteBuffer.trans first.byteBuffer,
    second.frameBuffer.trans first.frameBuffer, second.packetBuffer.trans first.packetBuffer⟩

theorem SameInput.agrees (same : SameInput t t') (agrees : Agrees t.conn.io t.received) :
    Agrees t'.conn.io t'.received := by
  obtain ⟨fs, decoded, packets⟩ := agrees
  refine ⟨fs, ?_, ?_⟩
  · rw [same.consumed, same.byteBuffer]
    exact decoded
  · rw [same.received, same.packetBuffer, same.frameBuffer]
    exact packets

structure Rests (t t' : Task) : Prop where
  same : SameInput t t'
  empty : inHand t'.pc = []

theorem Rests.after (rests : Rests m t') (same : SameInput t m) : Rests t t' :=
  ⟨same.trans rests.same, rests.empty⟩

theorem rests_send (t : Task) (p : Packet) (next : Resume) : Rests t (t.send p next) := by
  rw [send_eq]
  exact ⟨⟨rfl, rfl, rfl, rfl, rfl, rfl⟩, rfl⟩

theorem rests_loopTop (t : Task) : Rests t t.loopTop := by
  unfold Task.loopTop
  split
  · exact ⟨⟨rfl, rfl, rfl, rfl, rfl, rfl⟩, rfl⟩
  · split <;> exact ⟨⟨rfl, rfl, rfl, rfl, rfl, rfl⟩, rfl⟩

theorem rests_startTimers (t : Task) (peer : UInt32) : Rests t (t.startTimers peer) := by
  unfold Task.startTimers
  rcases startTimers_cases t.conn t.clock peer with ⟨site, failed⟩ | ⟨c, started, _, io, _⟩
  · simp only [failed]
    exact ⟨⟨rfl, rfl, rfl, rfl, rfl, rfl⟩, rfl⟩
  · simp only [started]
    exact ⟨⟨rfl, rfl, by rw [io], by rw [io], by rw [io], by rw [io]⟩, rfl⟩

theorem rests_resume (t : Task) (next : Resume) : Rests t (t.resume next) := by
  cases next with
  | loop => exact rests_loopTop t
  | ackSent peer => exact rests_startTimers t peer
  | _ => exact ⟨⟨rfl, rfl, rfl, rfl, rfl, rfl⟩, rfl⟩

theorem rests_closeByPeer (t : Task) : Rests t t.closeByPeer := by
  unfold Task.closeByPeer
  split <;> exact ⟨⟨rfl, rfl, rfl, rfl, rfl, rfl⟩, rfl⟩

theorem rests_closeBySelf (t : Task) (inactive : Bool) : Rests t (t.closeBySelf inactive) := by
  unfold Task.closeBySelf
  split
  · exact ⟨⟨rfl, rfl, rfl, rfl, rfl, rfl⟩, rfl⟩
  · exact rests_send t _ _

theorem rests_finishClose (t : Task) (result : Except ConnectionError Unit) :
    Rests t (t.finishClose result) :=
  ⟨⟨rfl, rfl, rfl, rfl, rfl, rfl⟩, rfl⟩

theorem rests_pingPeer (t : Task) (id : UInt32) : Rests t (t.pingPeer id) := by
  unfold Task.pingPeer
  exact (rests_send _ _ _).after ⟨rfl, rfl, rfl, rfl, rfl, rfl⟩

theorem heard_rests (agrees : Agrees t.conn.io t.received) (all : t.put = messages t.received)
    (rests : Rests t t') : Heard t' := by
  obtain ⟨same, empty⟩ := rests
  refine ⟨same.agrees agrees, ?_, fun _ => ?_⟩
  · rw [same.put, same.received, all]
  · rw [empty, List.append_nil, same.put, same.received, all]

theorem heard_all (heard : Heard t) (goes : attends t.pc = true) (empty : inHand t.pc = []) :
    t.put = messages t.received := by
  rw [← heard.whole goes, empty, List.append_nil]

theorem heard_stops (heard : Heard t) (same : SameInput t t') (stops : attends t'.pc = false) :
    Heard t' := by
  refine ⟨same.agrees heard.agrees, ?_, fun goes => ?_⟩
  · rw [same.put, same.received]
    exact heard.order
  · rw [stops] at goes
    cases goes

theorem rests_handlePacket {p : Packet} (silent : messages [p] = []) :
    Rests t (t.handlePacket p) := by
  have timed : SameInput t { t with conn := t.conn.resetTimers t.clock } :=
    ⟨rfl, rfl, rfl, rfl, rfl, rfl⟩
  cases p with
  | data bytes => cases silent
  | controlPing id =>
    have answered := (rests_send _ (.controlPong id) .loop).after timed
    exact answered
  | controlPong id =>
    have pong : SameInput t { t with conn := (t.conn.resetTimers t.clock).pong id t.clock } := by
      constructor <;> simp [Connection.resetTimers]
    have looped := (rests_loopTop _).after pong
    exact looped
  | controlKeepAlive =>
    have looped := (rests_loopTop _).after timed
    exact looped
  | controlClose =>
    have closed := (rests_closeByPeer _).after timed
    exact closed
  | controlHello peer => exact ⟨⟨rfl, rfl, rfl, rfl, rfl, rfl⟩, rfl⟩
  | controlHelloAck peer => exact ⟨⟨rfl, rfl, rfl, rfl, rfl, rfl⟩, rfl⟩

theorem heard_handlePacket {p : Packet} (agrees : Agrees t.conn.io t.received)
    (all : t.put ++ messages [p] = messages t.received) : Heard (t.handlePacket p) := by
  cases p with
  | data bytes =>
    refine ⟨agrees, ?_, fun _ => all⟩
    change t.put <+: messages t.received
    rw [← all]
    exact List.prefix_append _ _
  | _ =>
    refine heard_rests agrees ?_ (rests_handlePacket rfl)
    rw [← all]
    exact (List.append_nil _).symm

theorem heard_hands {event : TaskEvent} {p : Packet} {pc : Pc} (heard : Heard t)
    (here : t.pc = pc) (goes : attends pc = true) (empty : inHand pc = [])
    (hands : Hands t event p m) : Agrees m.conn.io m.received ∧
      m.put ++ messages [p] = messages m.received := by
  have all := heard_all heard (by rw [here, goes]) (by rw [here, empty])
  cases hands with
  | buffered buffer =>
    refine ⟨agrees_pop heard.agrees buffer, ?_⟩
    exact (congrArg (· ++ messages [p]) all).trans (messages_append _ _).symm
  | read _ _ read buffer =>
    refine ⟨agrees_pop (agrees_read heard.agrees read) buffer, ?_⟩
    exact (congrArg (· ++ messages [p]) all).trans (messages_append _ _).symm

theorem heard_control {event : TaskEvent} {p : Packet} {pc : Pc} (heard : Heard t)
    (here : t.pc = pc) (goes : attends pc = true) (empty : inHand pc = [])
    (hands : Hands t event p m) (silent : messages [p] = []) (rests : Rests m t') : Heard t' := by
  obtain ⟨agrees, all⟩ := heard_hands heard here goes empty hands
  rw [silent, List.append_nil] at all
  exact heard_rests agrees all rests

theorem heard_wrong {event : TaskEvent} {p : Packet} {pc : Pc} (heard : Heard t)
    (here : t.pc = pc) (goes : attends pc = true) (empty : inHand pc = [])
    (hands : Hands t event p m) : Heard (m.fail wrongHello) := by
  obtain ⟨agrees, all⟩ := heard_hands heard here goes empty hands
  refine ⟨agrees, ?_, by simp [Task.fail, attends]⟩
  change m.put <+: messages m.received
  rw [← all]
  exact List.prefix_append _ _

theorem heard_gave {bytes : List UInt8} {back : Option (Bool × Nat)} (heard : Heard t)
    (here : t.pc = .delivering bytes back) : t.put ++ [bytes] = messages t.received := by
  have all := heard.whole (by rw [here]; rfl)
  rwa [here] at all

def HearsFrom (ps : List Packet) (t : Task) (event : TaskEvent) : Prop :=
  ∀ chunk, event = .read chunk → t.conn.io.stream.consumed ++ chunk <+: wire ps

theorem step_heard {ch ch' : Channels} {event : TaskEvent} {ps : List Packet} (heard : Heard t)
    (hears : HearsFrom ps t event) (step : t.step ch event = some (t', ch')) : Heard t' := by
  have sound : ∀ {chunk e}, event = .read chunk → t.conn.io.readBytes chunk = .error e →
      False := by
    intro chunk e is bad
    obtain ⟨io, read⟩ := readBytes_ok heard.agrees (hears chunk is)
    rw [read] at bad
    cases bad
  -- where no message is in hand, and the task goes on with none
  have rests : ∀ {pc : Pc}, t.pc = pc → attends pc = true → inHand pc = [] → Rests t t' →
      Heard t' := by
    intro pc here goes empty rests
    exact heard_rests heard.agrees (heard_all heard (by rw [here, goes]) (by rw [here, empty])) rests
  cases task_move step with
  | saysHello here | drained here => exact rests here rfl rfl (rests_send _ _ _)
  | awaitsHello here | spawns here | awaitsClose here | takesGetStatus here =>
    exact rests here rfl rfl ⟨⟨rfl, rfl, rfl, rfl, rfl, rfl⟩, rfl⟩
  | writes here => exact rests here rfl rfl ⟨⟨rfl, rfl, rfl, rfl, rfl, rfl⟩, rfl⟩
  | entersRun here => exact rests here rfl rfl (rests_pingPeer _ _)
  | resumes here =>
    exact rests here rfl rfl ((rests_resume _ _).after ⟨rfl, rfl, rfl, rfl, rfl, rfl⟩)
  | closesStream | losesHello | losesSend | losesShutdown | shakeEof | runEof | undelivered
  | unanswered | givesUp | drops | finishes | aborts =>
    exact heard_stops heard ⟨rfl, rfl, rfl, rfl, rfl, rfl⟩ rfl
  | shakeBreaks here breaks | runBreaks here breaks | closeBreaks here breaks =>
    cases breaks with
    | io => exact heard_stops heard ⟨rfl, rfl, rfl, rfl, rfl, rfl⟩ rfl
    | garbled _ _ _ bad => exact (sound rfl bad).elim
  | reads waits empty nonempty read =>
    exact ⟨agrees_read heard.agrees read, heard.order, heard.whole⟩
  | acknowledged here hands =>
    exact heard_control heard here rfl rfl hands rfl (rests_startTimers _ _)
  | greeted here hands => exact heard_control heard here rfl rfl hands rfl (rests_send _ _ _)
  | misgreeted here hands =>
    rcases here with ⟨here, _⟩ | ⟨here, _⟩
    · exact heard_wrong heard here rfl rfl hands
    · exact heard_wrong heard here rfl rfl hands
  | handles here hands =>
    obtain ⟨agrees, all⟩ := heard_hands heard here rfl rfl hands
    exact heard_handlePacket agrees all
  | closeMeets here hands =>
    exact heard_control heard here rfl rfl hands rfl (rests_finishClose _ _)
  | closeGets here hands =>
    obtain ⟨agrees, all⟩ := heard_hands heard here rfl rfl hands
    refine ⟨agrees, ?_, fun _ => all⟩
    rw [← all]
    exact List.prefix_append _ _
  | @closeSkips _ p u inactive deadline here other control hands =>
    have silent : messages [p] = [] := by
      cases p with
      | data bytes => exact absurd rfl (control bytes)
      | _ => rfl
    have empty : inHand t'.pc = [] := by
      rw [hands_eq hands, withIo, here]
      rfl
    exact heard_control heard here rfl rfl hands silent ⟨⟨rfl, rfl, rfl, rfl, rfl, rfl⟩, empty⟩
  | keepsAlive here =>
    exact rests here rfl rfl ((rests_send _ _ _).after ⟨rfl, rfl, rfl, rfl, rfl, rfl⟩)
  | queries here =>
    exact rests here rfl rfl ((rests_pingPeer _ _).after ⟨rfl, rfl, rfl, rfl, rfl, rfl⟩)
  | timesOut here | takesClose here =>
    exact rests here rfl rfl ((rests_closeBySelf _ _).after ⟨rfl, rfl, rfl, rfl, rfl, rfl⟩)
  | takesSend here | drainsClose here | drainsSend here =>
    exact rests here rfl rfl ((rests_send _ _ _).after ⟨rfl, rfl, rfl, rfl, rfl, rfl⟩)
  | drainsGetStatus here =>
    exact rests here rfl rfl ⟨⟨rfl, rfl, rfl, rfl, rfl, rfl⟩, by rw [here]; rfl⟩
  | @delivers bytes here =>
    exact heard_rests (t := { t with put := t.put ++ [bytes] }) heard.agrees (heard_gave heard here)
      (rests_loopTop _)
  | @deliversLate bytes inactive deadline here =>
    exact heard_rests (t := { t with put := t.put ++ [bytes] }) heard.agrees (heard_gave heard here)
      ⟨⟨rfl, rfl, rfl, rfl, rfl, rfl⟩, rfl⟩
  | replies here => exact rests here rfl rfl (rests_loopTop _)
  | passes => exact ⟨heard.agrees, heard.order, heard.whole⟩

/-- What has gone into the packet channel is what the peer has sent, from its first message. -/
theorem heard_put {ps : List Packet} (heard : Heard t)
    (part : t.conn.io.stream.consumed <+: wire ps) : t.put <+: messages ps := by
  have within := agrees_within heard.agrees part
  obtain ⟨more, all⟩ := packetsWithin_prefix ps t.conn.io.stream.consumed.length
  rw [← all, ← within, List.append_assoc, messages_append]
  exact heard.order.trans (List.prefix_append _ _)

end NcdReception
