import Ncd.Handler
import Ncd.TaskMoves

/- What the pieces of the connection task do: explicit results while run is in its loop,
   and the recorded fields that a piece leaves alone. -/
namespace NcdTaskSteps
open NcdPacket NcdFrame NcdIoState NcdReceiver NcdConnection NcdHandler NcdTaskMoves

/-- What holds from the end of handshake until switch_to(Closed). -/
structure Ready (c : Connection) : Prop where
  state : c.state = .connected
  keepAlive : c.keepAliveTimer.isSome
  query : c.peerQueryActiveTimer.isSome
  timeout : c.peerActiveTimeoutTimer.isSome

@[simp] theorem send_eq (t : Task) (p : Packet) (next : Resume) :
    t.send p next = { t with pc := .sending (packetBytes p) next, sent := t.sent ++ [p] } := by
  simp [Task.send]

theorem loopTop_ready {t : Task} (ready : t.conn.state = .connected) :
    t.loopTop = { t with pc := .select } := by
  simp [Task.loopTop, ready]

theorem closeByPeer_ready {t : Task} (ready : t.conn.state = .connected) :
    t.closeByPeer = { t with pc := .draining } := by
  simp [Task.closeByPeer, ready]

theorem closeBySelf_ready {t : Task} (ready : t.conn.state = .connected) (inactive : Bool) :
    t.closeBySelf inactive = t.send .controlClose (.closing inactive) := by
  simp [Task.closeBySelf, ready]

def closedConn (c : Connection) : Connection :=
  { c with keepAliveTimer := none, peerQueryActiveTimer := none,
           peerActiveTimeoutTimer := none, state := .closed }

@[simp] theorem finishClose_eq (t : Task) (result : Except ConnectionError Unit) :
    t.finishClose result = { t with conn := closedConn t.conn, pc := .returned result } := rfl

@[simp] theorem closedConn_io (c : Connection) : (closedConn c).io = c.io := rfl

theorem ready_io {c : Connection} (ready : Ready c) (io : IoState) : Ready { c with io := io } :=
  ⟨ready.state, ready.keepAlive, ready.query, ready.timeout⟩

@[simp] theorem resetTimers_io (c : Connection) (now : Nat) : (c.resetTimers now).io = c.io := rfl

theorem resetTimers_ready {c : Connection} (ready : Ready c) (now : Nat) :
    Ready (c.resetTimers now) :=
  ⟨ready.state, ready.keepAlive, by simpa [Connection.resetTimers] using ready.query,
    by simpa [Connection.resetTimers] using ready.timeout⟩

theorem pong_same (c : Connection) (id : UInt32) (now : Nat) :
    (c.pong id now).io = c.io ∧ (c.pong id now).state = c.state ∧
      (c.pong id now).keepAliveTimer = c.keepAliveTimer ∧
      (c.pong id now).peerQueryActiveTimer = c.peerQueryActiveTimer ∧
      (c.pong id now).peerActiveTimeoutTimer = c.peerActiveTimeoutTimer := by
  unfold Connection.pong
  split <;> exact ⟨rfl, rfl, rfl, rfl, rfl⟩

theorem pong_setup (c : Connection) (id : UInt32) (now : Nat) :
    (c.pong id now).role = c.role ∧ (c.pong id now).timeoutMs = c.timeoutMs ∧
      (c.pong id now).keepAliveIntervalMs = c.keepAliveIntervalMs := by
  unfold Connection.pong
  split <;> exact ⟨rfl, rfl, rfl⟩

@[simp] theorem pong_io (c : Connection) (id : UInt32) (now : Nat) : (c.pong id now).io = c.io :=
  (pong_same c id now).1

theorem pong_ready {c : Connection} (ready : Ready c) (id : UInt32) (now : Nat) :
    Ready (c.pong id now) := by
  obtain ⟨_, state, keepAlive, query, timeout⟩ := pong_same c id now
  exact ⟨state.trans ready.state, keepAlive ▸ ready.keepAlive, query ▸ ready.query,
    timeout ▸ ready.timeout⟩

theorem startTimers_cases (c : Connection) (now : Nat) (peer : UInt32) :
    (∃ site, c.startTimers now peer = .error site) ∨
    ∃ c', c.startTimers now peer = .ok c' ∧ Ready c' ∧ c'.io = c.io ∧
      c'.timeoutMs = c.timeoutMs ∧
      c'.peerActiveTimeoutTimer = some ⟨now + c.timeoutMs.toNat, c.timeoutMs.toNat⟩ := by
  unfold Connection.startTimers
  split
  · exact .inl ⟨_, rfl⟩
  · split
    · exact .inl ⟨_, rfl⟩
    · split
      · exact .inl ⟨_, rfl⟩
      · split
        · exact .inl ⟨_, rfl⟩
        · rename_i timeout started
          have fresh : timeout = ⟨now, c.timeoutMs.toNat⟩ := by
            unfold Interval.new at started
            split at started
            · simp at started
            · exact (Option.some.inj started).symm
          subst fresh
          refine .inr ⟨_, rfl, ⟨rfl, rfl, rfl, rfl⟩, rfl, rfl, rfl⟩

/-- Where no ordinary piece of the task goes: abort, an answer to get_status, a send with
    nothing left to write. -/
def settled : Pc → Bool
  | .aborted | .replying _ | .sending [] _ => false
  | _ => true

theorem settled_sending {rest : List UInt8} (next : Resume) (more : rest ≠ []) :
    settled (.sending rest next) = true := by
  cases rest with
  | nil => exact absurd rfl more
  | cons b rest => rfl

/-- What every piece of the task keeps that touches neither channel and reads nothing. -/
def Steady (t t' : Task) : Prop :=
  t'.taken = t.taken ∧ t'.put = t.put ∧ (t'.pc = t.pc ∨ settled t'.pc = true) ∧
    t.clock ≤ t'.clock ∧ t.conn.io.stream.written <+: t'.conn.io.stream.written ∧
    t'.conn.io.stream.consumed = t.conn.io.stream.consumed

theorem Steady.trans {t t' t'' : Task} (first : Steady t t') (second : Steady t' t'') :
    Steady t t'' :=
  ⟨second.1.trans first.1, second.2.1.trans first.2.1,
    second.2.2.1.elim (fun same => same ▸ first.2.2.1) .inr, first.2.2.2.1.trans second.2.2.2.1,
    first.2.2.2.2.1.trans second.2.2.2.2.1, second.2.2.2.2.2.trans first.2.2.2.2.2⟩

theorem Steady.moved {t m t' : Task} (rest : Steady m t') (taken : m.taken = t.taken)
    (put : m.put = t.put) (place : m.pc = t.pc ∨ settled m.pc = true) (clock : t.clock ≤ m.clock)
    (written : t.conn.io.stream.written <+: m.conn.io.stream.written)
    (consumed : m.conn.io.stream.consumed = t.conn.io.stream.consumed) : Steady t t' :=
  ⟨rest.1.trans taken, rest.2.1.trans put, rest.2.2.1.elim (fun same => same ▸ place) .inr,
    clock.trans rest.2.2.2.1, written.trans rest.2.2.2.2.1, rest.2.2.2.2.2.trans consumed⟩

theorem steady_send (t : Task) (p : Packet) (next : Resume) : Steady t (t.send p next) := by
  rw [send_eq]
  exact ⟨rfl, rfl, .inr (settled_sending _ (packetBytes_ne_nil _)), Nat.le_refl _,
    List.prefix_rfl, rfl⟩

theorem steady_loopTop (t : Task) : Steady t t.loopTop := by
  unfold Task.loopTop
  split
  · exact ⟨rfl, rfl, .inr rfl, Nat.le_refl _, List.prefix_rfl, rfl⟩
  · split <;> exact ⟨rfl, rfl, .inr rfl, Nat.le_refl _, List.prefix_rfl, rfl⟩

theorem steady_startTimers (t : Task) (peer : UInt32) : Steady t (t.startTimers peer) := by
  unfold Task.startTimers
  rcases startTimers_cases t.conn t.clock peer with ⟨site, failed⟩ | ⟨c, started, _, io, _⟩
  · simp only [failed]
    exact ⟨rfl, rfl, .inr rfl, Nat.le_refl _, List.prefix_rfl, rfl⟩
  · simp only [started]
    exact ⟨rfl, rfl, .inr rfl, Nat.le_refl _, by simp [io], by simp [io]⟩

theorem steady_resume (t : Task) (next : Resume) : Steady t (t.resume next) := by
  cases next with
  | loop => exact steady_loopTop t
  | ackSent peer => exact steady_startTimers t peer
  | _ => exact ⟨rfl, rfl, .inr rfl, Nat.le_refl _, List.prefix_rfl, rfl⟩

theorem steady_closeByPeer (t : Task) : Steady t t.closeByPeer := by
  unfold Task.closeByPeer
  split <;> exact ⟨rfl, rfl, .inr rfl, Nat.le_refl _, List.prefix_rfl, rfl⟩

theorem steady_closeBySelf (t : Task) (inactive : Bool) : Steady t (t.closeBySelf inactive) := by
  unfold Task.closeBySelf
  split
  · exact ⟨rfl, rfl, .inr rfl, Nat.le_refl _, List.prefix_rfl, rfl⟩
  · exact steady_send t _ _

theorem steady_pingPeer (t : Task) (id : UInt32) : Steady t (t.pingPeer id) := by
  unfold Task.pingPeer
  exact (steady_send _ _ _).moved rfl rfl (.inl rfl) (Nat.le_refl _) List.prefix_rfl rfl

theorem steady_handlePacket (t : Task) (p : Packet) : Steady t (t.handlePacket p) := by
  cases p with
  | controlPing id => exact steady_send _ _ _
  | controlPong id =>
    have same : Steady t { t with conn := (t.conn.resetTimers t.clock).pong id t.clock } :=
      ⟨rfl, rfl, .inl rfl, Nat.le_refl _, by simp, by simp⟩
    exact same.trans (steady_loopTop _)
  | controlKeepAlive => exact steady_loopTop _
  | controlClose => exact steady_closeByPeer _
  | _ => exact ⟨rfl, rfl, .inr rfl, Nat.le_refl _, List.prefix_rfl, rfl⟩

/-- What one event of the task does to the request and the packet channel. -/
inductive Moves (t : Task) (ch : Channels) (event : TaskEvent) : Task → Channels → Prop where
  | steady {t' : Task} {statuses : List ConnStatus} (same : Steady t t') :
      Moves t ch event t' { ch with statuses := statuses }
  | asks {status : ConnStatus} {rest : List Request} (here : t.pc = .select)
      (queue : ch.requests = .getStatus :: rest) :
      Moves t ch event { t with taken := t.taken ++ [.getStatus], pc := .replying status }
        { ch with requests := rest }
  | takes {t' : Task} {r : Request} {rest : List Request} {statuses : List ConnStatus}
      (queue : ch.requests = r :: rest) (same : Steady { t with taken := t.taken ++ [r] } t') :
      Moves t ch event t' { ch with requests := rest, statuses := statuses }
  | puts {t' : Task} {bytes : List UInt8} {back : Option (Bool × Nat)}
      (delivering : t.pc = .delivering bytes back)
      (same : Steady { t with put := t.put ++ [bytes] } t') :
      Moves t ch event t' { ch with packets := ch.packets ++ [.data bytes] }
  | reads {t' : Task} {chunk : List UInt8} (read : event = .read chunk)
      (same : Steady (tookBytes t chunk) t') : Moves t ch event t' ch
  | aborts (dead : ch.handlerAlive = false) : Moves t ch event { t with pc := .aborted } ch

variable {t t' u : Task} {ch ch' : Channels} {event : TaskEvent}

theorem moves_breaks {e : ConnectionError} (breaks : Breaks t event e u) (same : Steady u t') :
    Moves t ch event t' ch := by
  cases breaks with
  | io => exact .steady same
  | garbled => exact .reads rfl same

theorem moves_hands {p : Packet} (hands : Hands t event p u) (same : Steady u t') :
    Moves t ch event t' ch := by
  cases hands with
  | buffered => exact .steady same
  | read empty some read =>
    have stream := readBytes_stream read
    exact .reads rfl (same.moved rfl rfl (.inl rfl) (Nat.le_refl _)
      (by simp [withIo, tookBytes, stream]) (by simp [withIo, tookBytes, stream]))

theorem steady_stops {pc : Pc} (place : settled pc = true) : Steady t { t with pc := pc } :=
  ⟨rfl, rfl, .inr place, Nat.le_refl _, List.prefix_rfl, rfl⟩

theorem moves_eof (same : Steady t t') : Moves t ch (.read []) t' ch := by
  apply Moves.reads rfl
  have empty : tookBytes t [] = t := by simp [tookBytes]
  rw [empty]
  exact same

theorem step_moves (step : t.step ch event = some (t', ch')) : Moves t ch event t' ch' := by
  cases task_move step with
  | saysHello => exact .steady (steady_send _ _ _)
  | awaitsHello | spawns | losesHello | losesSend | losesShutdown | undelivered | unanswered
  | givesUp | drops | finishes => exact .steady (steady_stops rfl)
  | entersRun => exact .steady (steady_pingPeer _ _)
  | @writes n rest next here some fits more =>
    exact .steady ⟨rfl, rfl, .inr (settled_sending next more), Nat.le_refl _,
      List.prefix_append _ _, rfl⟩
  | resumes =>
    exact .steady ((steady_resume _ _).moved rfl rfl (.inl rfl) (Nat.le_refl _)
      (List.prefix_append _ _) rfl)
  | closesStream | awaitsClose =>
    exact .steady ⟨rfl, rfl, .inr rfl, Nat.le_refl _, List.prefix_rfl, rfl⟩
  | shakeBreaks here breaks => exact moves_breaks breaks (steady_stops rfl)
  | runBreaks here breaks => exact moves_breaks breaks (steady_stops rfl)
  | closeBreaks here breaks =>
    exact moves_breaks breaks ⟨rfl, rfl, .inr rfl, Nat.le_refl _, List.prefix_rfl, rfl⟩
  | shakeEof | runEof => exact moves_eof (steady_stops rfl)
  | reads waits empty some read none =>
    have stream := readBytes_stream read
    exact .reads rfl ⟨rfl, rfl, .inl rfl, Nat.le_refl _, by simp [withIo, tookBytes, stream],
      by simp [withIo, tookBytes, stream]⟩
  | acknowledged here hands => exact moves_hands hands (steady_startTimers _ _)
  | greeted here hands => exact moves_hands hands (steady_send _ _ _)
  | misgreeted here hands => exact moves_hands hands (steady_stops rfl)
  | handles here hands =>
    exact moves_hands hands ((steady_handlePacket _ _).moved rfl rfl (.inl rfl) (Nat.le_refl _)
      List.prefix_rfl rfl)
  | closeMeets here hands =>
    exact moves_hands hands ⟨rfl, rfl, .inr rfl, Nat.le_refl _, List.prefix_rfl, rfl⟩
  | closeGets here hands => exact moves_hands hands (steady_stops rfl)
  | closeSkips here other control hands =>
    exact moves_hands hands ⟨rfl, rfl, .inl rfl, Nat.le_refl _, List.prefix_rfl, rfl⟩
  | keepsAlive => exact .steady (steady_send _ _ _)
  | queries => exact .steady (steady_pingPeer _ _)
  | timesOut => exact .steady (steady_closeBySelf _ _)
  | takesClose here queue => exact .takes queue (steady_closeBySelf _ _)
  | takesSend here queue => exact .takes queue (steady_send _ _ _)
  | takesGetStatus here queue => exact .asks here queue
  | drained => exact .steady (steady_send _ _ _)
  | drainsClose here queue => exact .takes queue (steady_send _ _ _)
  | drainsSend here queue => exact .takes queue (steady_send _ _ _)
  | drainsGetStatus here queue =>
    exact .takes queue ⟨rfl, rfl, .inl rfl, Nat.le_refl _, List.prefix_rfl, rfl⟩
  | delivers here => exact .puts here (steady_loopTop _)
  | deliversLate here => exact .puts here ⟨rfl, rfl, .inr rfl, Nat.le_refl _, List.prefix_rfl, rfl⟩
  | replies => exact .steady (steady_loopTop _)
  | aborts dead => exact .aborts dead
  | passes => exact .steady ⟨rfl, rfl, .inl rfl, Nat.le_succ _, List.prefix_rfl, rfl⟩

theorem step_clock (step : t.step ch event = some (t', ch')) : t.clock ≤ t'.clock := by
  cases step_moves step with
  | steady same => exact same.2.2.2.1
  | asks here queue => exact Nat.le_refl _
  | takes queue same => exact same.2.2.2.1
  | puts delivering same => exact same.2.2.2.1
  | reads read same => exact same.2.2.2.1
  | aborts dead => exact Nat.le_refl _

theorem gone_moves (gone : connGone t.pc = true) (step : t.step ch event = some (t', ch')) :
    t' = { t with clock := t.clock + 1 } ∨ event = .abort ∧ t' = { t with pc := .aborted } ∨
      ∃ result, t.pc = .dropped result ∧ t' = { t with pc := .finished result } := by
  have place := takes_place (task_move step)
  have late : event = .pass ∨ event = .abort ∨ event = .finish := by
    cases here : t.pc <;> rw [here] at gone place <;> cases gone <;> cases event <;>
      first | (simp; done) | cases place
  have move := task_move step
  rcases late with rfl | rfl | rfl
  · cases step
    exact .inl rfl
  · cases move with
    | aborts dead => exact .inr (.inl ⟨rfl, rfl⟩)
    | _ => contradiction
  · cases move with
    | finishes here => exact .inr (.inr ⟨_, here, rfl⟩)
    | _ => contradiction

/-- For a finished task only time goes on; a dropped handler could still abort it. -/
theorem finished_passes {result : Except ConnectionError Unit} (here : t.pc = .finished result)
    (kept : event ≠ .abort) (step : t.step ch event = some (t', ch')) :
    event = .pass ∧ t' = { t with clock := t.clock + 1 } ∧ ch' = ch := by
  have place := takes_place (task_move step)
  rw [here] at place
  cases event with
  | pass =>
    cases step
    exact ⟨rfl, rfl, rfl⟩
  | abort => exact absurd rfl kept
  | _ => cases place

theorem step_finished {result : Except ConnectionError Unit} (here : t.pc = .finished result)
    (kept : event ≠ .abort) (step : t.step ch event = some (t', ch')) :
    t'.pc = .finished result := by
  obtain ⟨_, rfl, _⟩ := finished_passes here kept step
  exact here

end NcdTaskSteps
