import Ncd.Inactivity

/- What the peer hears of a task, and what keeps its two deadlines: the steps of a task
   between its handshake and a close, by their effect on the keep-alive timer, on the
   inactivity timer and on what has been sent and received. -/
namespace NcdKeepAlive
open NcdPacket NcdIoState NcdReceiver NcdConnection NcdTaskMoves NcdTaskSteps NcdInactivity

/-- How far a task is: calling is a device that waits for HelloAck, acking a host that
    writes its own, door the way from the handshake into run. -/
inductive Stand where
  | start
  | calling
  | listening
  | acking (peerKeepAliveInterval : UInt32)
  | door
  | loop
  | gone
  deriving DecidableEq, Repr

def stand : Pc → Stand
  | .start => .start
  | .sending _ .helloSent | .awaitHelloAck => .calling
  | .awaitHello => .listening
  | .sending _ (.ackSent peer) => .acking peer
  | .connected | .spawned => .door
  | .select | .replying _ | .sending _ .loop | .delivering _ none => .loop
  | _ => .gone

structure SameSetup (t t' : Task) : Prop where
  role : t'.conn.role = t.conn.role
  timeoutMs : t'.conn.timeoutMs = t.conn.timeoutMs
  interval : t'.conn.keepAliveIntervalMs = t.conn.keepAliveIntervalMs
  clock : t'.clock = t.clock

structure Still (t t' : Task) : Prop extends SameSetup t t' where
  keepAlive : t'.conn.keepAliveTimer = t.conn.keepAliveTimer
  timeout : timeoutTimer t' = timeoutTimer t

inductive Beat (t t' : Task) : Prop where
  | quiet (still : Still t t') (same : stand t'.pc = stand t.pc) (sent : t'.sent = t.sent)
      (received : t'.received = t.received)
  | listens (still : Still t t') (role : t.conn.role = .host) (before : stand t.pc = .start)
      (now : stand t'.pc = .listening) (sent : t'.sent = t.sent)
      (received : t'.received = t.received)
  | calls {p : Packet} (still : Still t t') (role : t.conn.role = .device)
      (before : stand t.pc = .start) (now : stand t'.pc = .calling) (sent : t'.sent = t.sent ++ [p])
      (received : t'.received = t.received)
  | greets {p : Packet} {peer : UInt32} (still : Still t t') (before : stand t.pc = .listening)
      (now : stand t'.pc = .acking peer) (sent : t'.sent = t.sent ++ [p])
      (received : t'.received = t.received ++ [.controlHello peer])
  | starts {peer : UInt32} (setup : SameSetup t t') (now : stand t'.pc = .door)
      (keepAlive : t'.conn.keepAliveTimer = some ⟨t.clock + peer.toNat, peer.toNat⟩)
      (timeout : timeoutTimer t' =
        some ⟨t.clock + t.conn.timeoutMs.toNat, t.conn.timeoutMs.toNat⟩)
      (sent : t'.sent = t.sent)
      (how : stand t.pc = .calling ∧ t'.received = t.received ++ [.controlHelloAck peer] ∨
        stand t.pc = .acking peer ∧ t'.received = t.received)
  | speaks {p : Packet} (still : Still t t') (before : stand t.pc = .door ∨ stand t.pc = .loop)
      (now : stand t'.pc = .loop) (sent : t'.sent = t.sent ++ [p])
      (received : t'.received = t.received)
  | beats {p : Packet} {timer : Interval} (setup : SameSetup t t') (before : stand t.pc = .loop)
      (now : stand t'.pc = .loop) (running : t.conn.keepAliveTimer = some timer)
      (ready : timer.deadline ≤ t.clock)
      (keepAlive : t'.conn.keepAliveTimer = some timer.tick)
      (timeout : timeoutTimer t' = timeoutTimer t) (sent : t'.sent = t.sent ++ [p])
        (received : t'.received = t.received)
  | hears {p : Packet} (setup : SameSetup t t') (before : stand t.pc = .loop)
      (now : stand t'.pc = .loop) (keepAlive : t'.conn.keepAliveTimer = t.conn.keepAliveTimer)
      (timeout : timeoutTimer t' = (timeoutTimer t).map fun timer => timer.reset t.clock)
      (received : t'.received = t.received ++ [p])
      (sent : t'.sent = t.sent ∨ ∃ q, t'.sent = t.sent ++ [q])

variable {t t' u : Task}

theorem startTimers_timers {c c' : Connection} {now : Nat} {peer : UInt32}
    (started : c.startTimers now peer = .ok c') :
    c'.keepAliveTimer = some ⟨now + peer.toNat, peer.toNat⟩ ∧
      c'.peerActiveTimeoutTimer = some ⟨now + c.timeoutMs.toNat, c.timeoutMs.toNat⟩ ∧
      c'.role = c.role ∧ c'.timeoutMs = c.timeoutMs ∧
      c'.keepAliveIntervalMs = c.keepAliveIntervalMs := by
  unfold Connection.startTimers at started
  have fresh : ∀ {period : Nat} {timer : Interval}, Interval.new now period = some timer →
      timer.reset now = ⟨now + period, period⟩ := by
    intro period timer is
    unfold Interval.new at is
    split at is
    · cases is
    · cases is
      rfl
  split at started
  · cases started
  · rename_i keepAlive first
    split at started
    · cases started
    · split at started
      · cases started
      · split at started
        · cases started
        · rename_i timeout last
          simp only [Connection.switchTo] at started
          split at started
          · cases started
            rw [fresh first, fresh last]
            exact ⟨rfl, rfl, rfl, rfl, rfl⟩
          · cases started

theorem beat_starts {peer : UInt32} (setup : SameSetup t u) (sent : u.sent = t.sent)
    (how : stand t.pc = .calling ∧ u.received = t.received ++ [.controlHelloAck peer] ∨
      stand t.pc = .acking peer ∧ u.received = t.received)
    (stays : stand (u.startTimers peer).pc ≠ .gone) : Beat t (u.startTimers peer) := by
  cases started : u.conn.startTimers u.clock peer with
  | error site => exact absurd (by simp [Task.startTimers, started, Task.panic, stand]) stays
  | ok c =>
    obtain ⟨keepAlive, timeout, role, timeoutMs, interval⟩ := startTimers_timers started
    simp only [Task.startTimers, started]
    refine .starts ⟨role.trans setup.role, timeoutMs.trans setup.timeoutMs,
      interval.trans setup.interval, setup.clock⟩ rfl ?_ ?_ sent how
    · rw [← setup.clock]
      exact keepAlive
    · rw [← setup.clock, ← setup.timeoutMs]
      exact timeout

/- The task goes on to its loop, or it is gone. -/
theorem beat_loopTop (still : Still t u) (before : stand t.pc = .loop) (sent : u.sent = t.sent)
    (received : u.received = t.received) (stays : stand u.loopTop.pc ≠ .gone) :
    Beat t u.loopTop := by
  unfold Task.loopTop at stays ⊢
  split
  · exact .quiet ⟨⟨still.role, still.timeoutMs, still.interval, still.clock⟩, still.keepAlive,
      still.timeout⟩ before.symm sent received
  · rename_i other
    rw [if_neg other] at stays
    split at stays <;> exact absurd rfl stays

theorem beat_speaks (still : Still t u) (before : stand t.pc = .door ∨ stand t.pc = .loop)
    (sent : u.sent = t.sent) (received : u.received = t.received) (p : Packet) :
    Beat t (u.send p .loop) := by
  rw [send_eq]
  exact .speaks ⟨⟨still.role, still.timeoutMs, still.interval, still.clock⟩, still.keepAlive,
    still.timeout⟩ before rfl (congrArg (· ++ [p]) sent) received

theorem beat_ping (still : Still t u) (before : stand t.pc = .door ∨ stand t.pc = .loop)
    (sent : u.sent = t.sent) (received : u.received = t.received) (id : UInt32) :
    Beat t (u.pingPeer id) := by
  unfold Task.pingPeer
  refine beat_speaks ⟨⟨?_, ?_, ?_, ?_⟩, ?_, ?_⟩ before ?_ ?_ _
  · exact still.role
  · exact still.timeoutMs
  · exact still.interval
  · exact still.clock
  · exact still.keepAlive
  · exact still.timeout
  · exact sent
  · exact received

/- handle_packet resets the inactivity timer before it looks at the packet. -/
theorem beat_handlePacket (still : Still t u) (before : stand t.pc = .loop)
    (sent : u.sent = t.sent) {p : Packet} (received : u.received = t.received ++ [p])
    (stays : stand (u.handlePacket p).pc ≠ .gone) : Beat t (u.handlePacket p) := by
  have again : timeoutTimer { u with conn := u.conn.resetTimers u.clock } =
      (timeoutTimer t).map fun timer => timer.reset t.clock := by
    rw [← still.timeout, ← still.clock]
    rfl
  have top : ∀ c : Connection, c.role = t.conn.role → c.timeoutMs = t.conn.timeoutMs →
      c.keepAliveIntervalMs = t.conn.keepAliveIntervalMs →
      c.keepAliveTimer = t.conn.keepAliveTimer → c.peerActiveTimeoutTimer =
        (timeoutTimer t).map (fun timer => timer.reset t.clock) →
      stand ({ u with conn := c }.loopTop).pc ≠ .gone → Beat t { u with conn := c }.loopTop := by
    intro c role timeoutMs interval keepAlive timeout stays
    unfold Task.loopTop at stays ⊢
    split
    · exact .hears ⟨role, timeoutMs, interval, still.clock⟩ before rfl keepAlive timeout received
        (.inl sent)
    · rename_i other
      rw [if_neg other] at stays
      split at stays <;> exact absurd rfl stays
  cases p with
  | controlPing id =>
    simp only [Task.handlePacket, send_eq]
    refine .hears ⟨still.role, still.timeoutMs, still.interval, still.clock⟩ before rfl
      still.keepAlive again received (.inr ⟨.controlPong id, ?_⟩)
    rw [sent]
  | controlPong id =>
    obtain ⟨_, _, keepAlive, _, timeout⟩ := pong_same (u.conn.resetTimers u.clock) id u.clock
    obtain ⟨role, timeoutMs, interval⟩ := pong_setup (u.conn.resetTimers u.clock) id u.clock
    exact top _ (role.trans still.role) (timeoutMs.trans still.timeoutMs)
      (interval.trans still.interval) (keepAlive.trans still.keepAlive) (timeout.trans again) stays
  | controlKeepAlive =>
    exact top _ still.role still.timeoutMs still.interval still.keepAlive again stays
  | data bytes =>
    exact .hears ⟨still.role, still.timeoutMs, still.interval, still.clock⟩ before rfl
      still.keepAlive again received (.inl sent)
  | controlClose =>
    simp only [Task.handlePacket, Task.closeByPeer] at stays
    split at stays <;> exact absurd rfl stays
  | controlHello k => exact absurd rfl stays
  | controlHelloAck k => exact absurd rfl stays

theorem gone_closeBySelf (t : Task) (inactive : Bool) :
    stand (t.closeBySelf inactive).pc = .gone := by
  unfold Task.closeBySelf
  split
  · rfl
  · rw [send_eq]
    rfl

theorem still_refl (t : Task) : Still t t := ⟨⟨rfl, rfl, rfl, rfl⟩, rfl, rfl⟩

theorem beat_resume {rest : List UInt8} {next : Resume} (here : t.pc = .sending rest next)
    (still : Still t u) (sent : u.sent = t.sent) (received : u.received = t.received)
    (stays : stand (u.resume next).pc ≠ .gone) : Beat t (u.resume next) := by
  cases next with
  | helloSent =>
    exact .quiet ⟨⟨still.role, still.timeoutMs, still.interval, still.clock⟩, still.keepAlive,
      still.timeout⟩ (by rw [here]; rfl) sent received
  | ackSent peer =>
    exact beat_starts still.toSameSetup sent (.inr ⟨by rw [here]; rfl, received⟩) stays
  | loop => exact beat_loopTop still (by rw [here]; rfl) sent received stays
  | drain | peerClosing | closing => exact absurd rfl stays

theorem beat_step {ch ch' : Channels} {event : TaskEvent} (timeless : event ≠ .pass)
    (step : t.step ch event = some (t', ch')) (stays : stand t'.pc ≠ .gone) : Beat t t' := by
  cases task_move step with
  | saysHello here role =>
    rw [send_eq]
    exact .calls ⟨⟨rfl, rfl, rfl, rfl⟩, rfl, rfl⟩ role (by rw [here]; rfl) rfl rfl rfl
  | awaitsHello here role =>
    exact .listens ⟨⟨rfl, rfl, rfl, rfl⟩, rfl, rfl⟩ role (by rw [here]; rfl) rfl rfl rfl
  | spawns here =>
    exact .quiet ⟨⟨rfl, rfl, rfl, rfl⟩, rfl, rfl⟩ (by rw [here]; rfl) rfl rfl
  | entersRun here => exact beat_ping (still_refl t) (.inl (by rw [here]; rfl)) rfl rfl _
  | @writes _ _ next here =>
    refine .quiet ⟨⟨rfl, rfl, rfl, rfl⟩, rfl, rfl⟩ ?_ rfl rfl
    rw [here]
    cases next <;> rfl
  | resumes here =>
    refine beat_resume here ⟨⟨?_, ?_, ?_, ?_⟩, ?_, ?_⟩ ?_ ?_ stays <;> rfl
  | reads => exact .quiet ⟨⟨rfl, rfl, rfl, rfl⟩, rfl, rfl⟩ rfl rfl rfl
  | acknowledged here hands =>
    rw [hands_eq hands] at stays ⊢
    exact beat_starts ⟨rfl, rfl, rfl, rfl⟩ rfl (.inl ⟨by rw [here]; rfl, rfl⟩) stays
  | greeted here hands =>
    rw [hands_eq hands, send_eq]
    exact .greets ⟨⟨rfl, rfl, rfl, rfl⟩, rfl, rfl⟩ (by rw [here]; rfl) rfl rfl rfl
  | handles here hands =>
    rw [hands_eq hands] at stays ⊢
    refine beat_handlePacket (t := t) ⟨⟨?_, ?_, ?_, ?_⟩, ?_, ?_⟩ (by rw [here]; rfl) ?_ ?_ stays <;>
      rfl
  | keepsAlive here running ready =>
    rw [send_eq]
    exact .beats ⟨rfl, rfl, rfl, rfl⟩ (by rw [here]; rfl) rfl running ready rfl rfl rfl rfl
  | queries here =>
    refine beat_ping ⟨⟨?_, ?_, ?_, ?_⟩, ?_, ?_⟩ (.inr (by rw [here]; rfl)) ?_ ?_ _ <;> rfl
  | takesSend here =>
    refine beat_speaks ⟨⟨?_, ?_, ?_, ?_⟩, ?_, ?_⟩ (.inr (by rw [here]; rfl)) ?_ ?_ _ <;> rfl
  | takesGetStatus here =>
    exact .quiet ⟨⟨rfl, rfl, rfl, rfl⟩, rfl, rfl⟩ (by rw [here]; rfl) rfl rfl
  | delivers here =>
    refine beat_loopTop ⟨⟨?_, ?_, ?_, ?_⟩, ?_, ?_⟩ (by rw [here]; rfl) ?_ ?_ stays <;> rfl
  | replies here => exact beat_loopTop (still_refl t) (by rw [here]; rfl) rfl rfl stays
  | timesOut | takesClose => exact absurd (gone_closeBySelf _ _) stays
  | drained | drainsClose | drainsSend =>
    rw [send_eq] at stays
    exact absurd rfl stays
  | drainsGetStatus here => exact absurd (by rw [here]; rfl) stays
  | closeSkips here other control hands =>
    rw [hands_eq hands] at stays
    exact absurd (by rw [withIo, here]; rfl) stays
  | passes => exact absurd rfl timeless
  | _ => exact absurd (by rfl) stays

end NcdKeepAlive
