import Ncd.Books

/- The inactivity timeout against the arrival of the peer's bytes, in discrete time. The
   timer is reset for whole packets, so a byte may arrive long before it counts. -/
namespace NcdInactivity
open NcdPacket NcdFrame NcdCodec NcdIoState NcdReceiver NcdConnection NcdHandler NcdTaskMoves
  NcdTaskSteps NcdBooks IncrementalDecoding LabelledRuns

def inLoop : Pc → Bool
  | .connected | .spawned | .select | .replying _ | .sending _ .loop | .delivering _ none => true
  | _ => false

def buffers (io : IoState) : List UInt8 × List Frame × List Packet :=
  (io.byteBuffer, io.frameBuffer, io.packetBuffer)

def timeoutTimer (t : Task) : Option Interval := t.conn.peerActiveTimeoutTimer

structure Same (t t' : Task) : Prop where
  timer : timeoutTimer t' = timeoutTimer t
  config : t'.conn.timeoutMs = t.conn.timeoutMs
  buffers : buffers t'.conn.io = buffers t.conn.io
  clock : t'.clock = t.clock

/-- What one event does to the timer and the buffers, as far as run may still take the
    timeout branch afterwards. Bytes read from the socket always show in a buffer. -/
inductive Timing (reads : Bool) (t t' : Task) : Prop where
  | kept (quiet : reads = false) (loop : inLoop t.pc = true) (same : Same t t')
  | passed (quiet : reads = false) (loop : inLoop t.pc = true)
    (same : Same { t with clock := t'.clock } t')
      (later : t.clock ≤ t'.clock)
  | filled (loop : inLoop t.pc = true)
      (same : Same { t with conn := { t.conn with io := t'.conn.io } } t')
      (nonempty : buffers t'.conn.io ≠ ([], [], []))
  | reset (loop : inLoop t.pc = true)
      (timer : timeoutTimer t' = (timeoutTimer t).map fun timer => timer.reset t.clock)
      (config : t'.conn.timeoutMs = t.conn.timeoutMs) (clock : t'.clock = t.clock)
  | started (timer : timeoutTimer t' =
        some ⟨t.clock + t'.conn.timeoutMs.toNat, t'.conn.timeoutMs.toNat⟩)
      (clock : t'.clock = t.clock)
  | left (out : inLoop t'.pc = false)

theorem timing_started {reads : Bool} {t m : Task} (clock : m.clock = t.clock) (peer : UInt32) :
    Timing reads t (m.startTimers peer) := by
  unfold Task.startTimers
  rcases startTimers_cases m.conn m.clock peer with
    ⟨site, failed⟩ | ⟨c, started, _, _, config, timer⟩
  · simp only [failed]
    exact .left rfl
  · simp only [started]
    exact .started (by simpa [timeoutTimer, config, clock] using timer) clock

theorem timing_loopTop {t m : Task} (loop : inLoop t.pc = true) (same : Same t m) :
    Timing false t m.loopTop := by
  unfold Task.loopTop
  split
  · exact .kept rfl loop ⟨same.timer, same.config, same.buffers, same.clock⟩
  · split
    · exact .left rfl
    · exact .left rfl

theorem timing_send {t m : Task} (loop : inLoop t.pc = true) (same : Same t m) (p : Packet)
    (next : Resume) : Timing false t (m.send p next) := by
  rw [send_eq]
  exact .kept rfl loop ⟨same.timer, same.config, same.buffers, same.clock⟩

theorem timing_ping {t m : Task} (loop : inLoop t.pc = true) (same : Same t m) (id : UInt32) :
    Timing false t (m.pingPeer id) :=
  timing_send loop (by exact ⟨same.timer, same.config, same.buffers, same.clock⟩) _ _

theorem timing_resume {t m : Task} {rest : List UInt8} {next : Resume}
    (here : t.pc = .sending rest next) (same : Same t m) : Timing false t (m.resume next) := by
  cases next with
  | ackSent peer => exact timing_started same.clock peer
  | loop => exact timing_loopTop (by rw [here]; rfl) same
  | _ => exact .left rfl

/- handle_packet starts by resetting the timer. -/
theorem timing_handlePacket {reads : Bool} {t m : Task} (loop : inLoop t.pc = true)
    (timer : timeoutTimer m =
    timeoutTimer t) (config : m.conn.timeoutMs = t.conn.timeoutMs) (clock : m.clock = t.clock)
    (p : Packet) : Timing reads t (m.handlePacket p) := by
  have again : timeoutTimer { m with conn := m.conn.resetTimers m.clock } =
      (timeoutTimer t).map fun timer => timer.reset t.clock := by
    rw [← timer, ← clock]
    rfl
  have top : ∀ c : Connection, c.peerActiveTimeoutTimer =
      (timeoutTimer t).map (fun timer => timer.reset t.clock) → c.timeoutMs = t.conn.timeoutMs →
      Timing reads t { m with conn := c }.loopTop := by
    intro c now same
    unfold Task.loopTop
    split
    · exact .reset loop now same clock
    · split
      · exact .left rfl
      · exact .left rfl
  cases p with
  | controlPing id =>
    simp only [Task.handlePacket, send_eq]
    exact .reset loop again config clock
  | controlPong id =>
    refine top _ ?_ ?_
    · exact (pong_same _ id m.clock).2.2.2.2.trans again
    · refine Eq.trans ?_ config
      unfold Connection.pong
      split <;> rfl
  | controlKeepAlive => exact top _ again config
  | data bytes => exact .reset loop again config clock
  | controlClose =>
    simp only [Task.handlePacket, Task.closeByPeer]
    split
    · exact .left rfl
    · exact .left rfl
  | controlHello k => exact .left rfl
  | controlHelloAck k => exact .left rfl

theorem timing_closeBySelf {reads : Bool} {t m : Task} (inactive : Bool) :
    Timing reads t (m.closeBySelf inactive) := by
  unfold Task.closeBySelf
  split
  · exact .left rfl
  · rw [send_eq]
    exact .left rfl

/- A read that completes no packet leaves its bytes in a buffer. -/
theorem readBytes_fills {io io' : IoState} {chunk : List UInt8} (bytes : chunk ≠ [])
    (read : io.readBytes chunk = .ok io') : buffers io' ≠ ([], [], []) := by
  unfold IoState.readBytes at read
  split at read
  · simp at read
  · rename_i rest frames drained
    obtain ⟨fs, parsedFrames, rfl⟩ := drain_ok_iff.mp drained
    split at read
    · simp at read
    · rename_i frames' packets drained'
      obtain ⟨ps, parsedPackets, rfl⟩ := drain_ok_iff.mp drained'
      cases read
      intro empty
      simp only [buffers, Prod.mk.injEq, List.append_eq_nil_iff] at empty
      obtain ⟨rfl, rfl, _, rfl⟩ := empty
      rcases parses_keeps parsedFrames (by simp [bytes]) with found | left
      · rcases parses_keeps parsedPackets (by simp [found]) with found' | left
        · exact found' rfl
        · exact left rfl
      · exact left rfl

def isRead : TaskEvent → Bool
  | .read _ => true
  | _ => false

theorem step_timing {t t' : Task} {ch ch' : Channels} {event : TaskEvent}
    (step : t.step ch event = some (t', ch')) : Timing (isRead event) t t' := by
  cases task_move step with
  | spawns here => exact .kept rfl (by rw [here]; rfl) ⟨rfl, rfl, rfl, rfl⟩
  | entersRun here => exact timing_ping (by rw [here]; rfl) ⟨rfl, rfl, rfl, rfl⟩ _
  | @writes n rest next here =>
    cases next with
    | loop => exact .kept rfl (by rw [here]; rfl) ⟨rfl, rfl, rfl, rfl⟩
    | _ => exact .left rfl
  | resumes here => exact timing_resume here ⟨rfl, rfl, rfl, rfl⟩
  | reads waits empty nonempty read =>
    cases loop : inLoop t.pc with
    | true => exact .filled loop ⟨rfl, rfl, rfl, rfl⟩ (readBytes_fills nonempty read)
    | false => exact .left loop
  | acknowledged here hands =>
    rw [hands_eq hands]
    exact timing_started (by exact rfl) _
  | handles here hands =>
    rw [hands_eq hands]
    exact timing_handlePacket (by rw [here]; rfl) (by exact rfl) (by exact rfl) (by exact rfl) _
  | keepsAlive here => exact timing_send (by rw [here]; rfl) (by exact ⟨rfl, rfl, rfl, rfl⟩) _ _
  | queries here => exact timing_ping (by rw [here]; rfl) (by exact ⟨rfl, rfl, rfl, rfl⟩) _
  | timesOut | takesClose => exact timing_closeBySelf _
  | takesSend here => exact timing_send (by rw [here]; rfl) (by exact ⟨rfl, rfl, rfl, rfl⟩) _ _
  | takesGetStatus here => exact .kept rfl (by rw [here]; rfl) ⟨rfl, rfl, rfl, rfl⟩
  | delivers here | replies here => exact timing_loopTop (by rw [here]; rfl) ⟨rfl, rfl, rfl, rfl⟩
  | drainsGetStatus here => exact .left (by rw [here]; rfl)
  | closeSkips here other control hands =>
    rw [hands_eq hands]
    exact .left (by rw [withIo, here]; rfl)
  | passes =>
    cases loop : inLoop t.pc with
    | true => exact .passed rfl loop ⟨rfl, rfl, rfl, rfl⟩ (Nat.le_succ _)
    | false => exact .left loop
  | greeted | saysHello | drained | drainsClose | drainsSend =>
    rw [send_eq]
    exact .left rfl
  | _ => exact .left rfl

/-- What there was to see when run took the timeout branch. -/
structure Declaration where
  clock : Nat
  timeoutMs : Nat
  lastArrival : Option Nat
  deriving DecidableEq, Repr

/-- An endpoint and its socket: bytes that have arrived and are not read yet. lastArrival and
    declared only record when the last byte came and when the branch was taken. -/
structure Timed where
  endpoint : Endpoint
  socket : List UInt8 := []
  lastArrival : Option Nat := none
  declared : Option Declaration := none
  deriving DecidableEq, Repr

inductive TimedEvent where
  | arrive (bytes : List UInt8)
  | endpoint (event : EndpointEvent)
  deriving DecidableEq, Repr

/-- Reads return the bytes of the socket in order; the end of the stream comes last. -/
def Timed.step (s : Timed) : TimedEvent → Option Timed
  | .arrive bytes =>
    if bytes = [] then none
    else some { s with socket := s.socket ++ bytes
                       lastArrival := some s.endpoint.task.clock }
  | .endpoint (.task (.read chunk)) =>
    if chunk <+: s.socket ∧ (chunk = [] → s.socket = []) then
      (s.endpoint.step (.task (.read chunk))).map fun e =>
        { s with endpoint := e, socket := s.socket.drop chunk.length }
    else none
  | .endpoint (.task .activeTimeoutTick) =>
    (s.endpoint.step (.task .activeTimeoutTick)).map fun e =>
      { s with
        endpoint := e
        declared := some { clock := s.endpoint.task.clock, lastArrival := s.lastArrival
                           timeoutMs := s.endpoint.task.conn.timeoutMs.toNat } }
  | .endpoint event => (s.endpoint.step event).map fun e => { s with endpoint := e }

/-- No byte arrived in the timeout_ms before the branch was taken. -/
def Justified (s : Timed) : Prop :=
  ∀ d, s.declared = some d → ∀ a, d.lastArrival = some a → a + d.timeoutMs ≤ d.clock

/-- Bytes that arrived are still in the socket or in a buffer of the connection. -/
def Waiting (s : Timed) : Prop :=
  s.socket ≠ [] ∨ buffers s.endpoint.task.conn.io ≠ ([], [], [])

instance (s : Timed) : Decidable (Waiting s) := inferInstanceAs (Decidable (_ ∨ _))

/-- The branch is taken while a byte that came in the last timeout_ms waits to be handled
    as part of a packet. -/
def TakenTooEarly (s : Timed) (event : TimedEvent) : Prop :=
  event = .endpoint (.task .activeTimeoutTick) ∧ Waiting s ∧
    ∃ a ∈ s.lastArrival, s.endpoint.task.clock < a + s.endpoint.task.conn.timeoutMs.toNat

/-- The timer runs from a moment at or after the last byte, unless bytes are waiting. -/
structure TimerCovers (s : Timed) : Prop where
  past : ∀ a, s.lastArrival = some a → a ≤ s.endpoint.task.clock
  covers : inLoop s.endpoint.task.pc = true → ∃ since,
    timeoutTimer s.endpoint.task = some ⟨since + s.endpoint.task.conn.timeoutMs.toNat,
      s.endpoint.task.conn.timeoutMs.toNat⟩ ∧
    (¬ Waiting s → ∀ a, s.lastArrival = some a → a ≤ since)

theorem covers_timing {s : Timed} (known : TimerCovers s) {t' : Task} {e' : Endpoint}
    {reads : Bool} (timing : Timing reads s.endpoint.task t') (task : e'.task = t')
    {socket : List UInt8} {declared : Option Declaration}
    (unread : reads = false → socket = s.socket)
    (clock : s.endpoint.task.clock ≤ t'.clock) :
    TimerCovers { s with endpoint := e', socket := socket, declared := declared } where
  past a last := by
    rw [task]
    exact (known.past a last).trans clock
  covers := by
    subst task
    intro loop'
    cases timing with
    | kept quiet loop same =>
      obtain ⟨since, timer, covered⟩ := known.covers loop
      refine ⟨since, by rw [same.timer, timer, same.config], fun none => covered ?_⟩
      simpa only [Waiting, unread quiet, same.buffers] using none
    | passed quiet loop same later =>
      obtain ⟨since, timer, covered⟩ := known.covers loop
      refine ⟨since, same.timer.trans (by rw [same.config]; exact timer), fun none => covered ?_⟩
      simpa only [Waiting, unread quiet, same.buffers] using none
    | filled loop same nonempty =>
      obtain ⟨since, timer, covered⟩ := known.covers loop
      refine ⟨since, same.timer.trans (by rw [same.config]; exact timer), fun none => ?_⟩
      exact absurd (.inr nonempty) none
    | reset loop timer config clock =>
      obtain ⟨since, before, _⟩ := known.covers loop
      refine ⟨s.endpoint.task.clock, ?_, fun _ => known.past⟩
      rw [timer, before, config]
      rfl
    | started timer clock => exact ⟨s.endpoint.task.clock, timer, fun _ => known.past⟩
    | left out => exact absurd loop' (by simp [out])

/- A step of the endpoint that is no read: the socket stays as it is. -/
theorem covers_step {s : Timed} (known : TimerCovers s) {event : EndpointEvent} {e' : Endpoint}
    (noRead : ∀ chunk, event ≠ .task (.read chunk)) (step : s.endpoint.step event = some e')
    (declared : Option Declaration) :
    TimerCovers { s with endpoint := e', declared := declared } := by
  by_cases mine : ∃ te, event = .task te
  · obtain ⟨te, rfl⟩ := mine
    obtain ⟨t', ch', moved, task, _⟩ := task_parts step
    exact covers_timing known (step_timing moved) task (fun _ => rfl) (step_clock moved)
  · have same := call_task (fun te is => mine ⟨te, is⟩) step
    refine ⟨fun a last => ?_, fun loop => ?_⟩
    · simp only [same]
      exact known.past a last
    · simp only [Waiting, same] at loop ⊢
      exact known.covers loop

theorem step_covers {s s' : Timed} {event : TimedEvent} (known : TimerCovers s)
    (step : s.step event = some s') : TimerCovers s' := by
  cases event with
  | arrive bytes =>
    simp only [Timed.step] at step
    split at step
    · simp at step
    · rename_i nonempty
      cases step
      refine ⟨fun a last => ?_, fun loop => ?_⟩
      · rw [← Option.some.inj last]
      · obtain ⟨since, timer, _⟩ := known.covers loop
        refine ⟨since, timer, fun none => absurd (.inl ?_) none⟩
        simp [nonempty]
  | endpoint event =>
    unfold Timed.step at step
    split at step
    · rename_i is
      cases is
    · rename_i chunk is
      cases is
      split at step
      · obtain ⟨e', moved, rfl⟩ := Option.map_eq_some_iff.mp step
        obtain ⟨t', ch', moved, task, _⟩ := task_parts moved
        exact covers_timing known (step_timing moved) task (fun quiet => by simp [isRead] at quiet)
          (step_clock moved)
      · simp at step
    · rename_i is
      cases is
      obtain ⟨e', moved, rfl⟩ := Option.map_eq_some_iff.mp step
      exact covers_step known (by simp) moved _
    · rename_i noRead _ is
      cases is
      obtain ⟨e', moved, rfl⟩ := Option.map_eq_some_iff.mp step
      exact covers_step known (fun chunk is => noRead chunk (by rw [is])) moved _

structure TimedOpened (s : Timed) : Prop where
  opened : Opened s.endpoint
  past : ∀ a, s.lastArrival = some a → a ≤ s.endpoint.task.clock
  declared : s.declared = none

/- What taking the branch records. -/
theorem timeout_records {s s' : Timed}
    (step : s.step (.endpoint (.task .activeTimeoutTick)) = some s') :
    s'.declared = some { clock := s.endpoint.task.clock, lastArrival := s.lastArrival
                         timeoutMs := s.endpoint.task.conn.timeoutMs.toNat } ∧
      ∃ timer, s.endpoint.task.pc = .select ∧ timeoutTimer s.endpoint.task = some timer ∧
        timer.deadline ≤ s.endpoint.task.clock := by
  simp only [Timed.step, Option.map_eq_some_iff] at step
  obtain ⟨e', moved, rfl⟩ := step
  refine ⟨rfl, ?_⟩
  obtain ⟨t', ch', moved, _⟩ := task_parts moved
  cases task_move moved with
  | timesOut here running ready => exact ⟨_, here, running, ready⟩
  | _ => contradiction

theorem step_justified {s s' : Timed} {event : TimedEvent} (known : TimerCovers s)
    (good : Justified s) (late : ¬ TakenTooEarly s event) (step : s.step event = some s') :
    Justified s' := by
  by_cases branch : event = .endpoint (.task .activeTimeoutTick)
  · subst branch
    obtain ⟨declared, timer, here, running, due⟩ := timeout_records step
    intro d is a last
    rw [declared, Option.some.injEq] at is
    subst is
    by_cases waiting : Waiting s
    · by_contra early
      exact late ⟨rfl, waiting, a, last, Nat.lt_of_not_le early⟩
    · obtain ⟨since, started, covered⟩ := known.covers (by rw [here]; rfl)
      rw [running, Option.some.injEq] at started
      have before := covered waiting a last
      simp only [started] at due
      exact (Nat.add_le_add_right before _).trans due
  · have same : s'.declared = s.declared := by
      cases event with
      | arrive bytes =>
        simp only [Timed.step] at step
        split at step <;> cases step
        rfl
      | endpoint event =>
        unfold Timed.step at step
        split at step
        · rename_i is
          cases is
        · split at step
          · obtain ⟨e', _, rfl⟩ := Option.map_eq_some_iff.mp step
            rfl
          · simp at step
        · rename_i is
          exact absurd is branch
        · obtain ⟨e', _, rfl⟩ := Option.map_eq_some_iff.mp step
          rfl
    intro d is
    exact good d (same ▸ is)

/-- run declares the peer inactive only after timeout_ms without a byte, in every run in
    which no fresher byte is still waiting when the branch is taken; where one is, the
    declaration is wrong. -/
theorem timeout_means_silence {s₀ : Timed} (opened : TimedOpened s₀) :
    (∀ s, Reaches Timed.step (fun s event => ¬ TakenTooEarly s event) s₀ s → Justified s) ∧
    ∀ s s' event, Reaches Timed.step Any s₀ s → TakenTooEarly s event →
      s.step event = some s' → ¬ Justified s' := by
  constructor
  · intro s run
    refine (run.keeps_under (K := TimerCovers) (I := Justified)
      (fun known _ step => step_covers known step)
      (fun known good late step => step_justified known good late step) ⟨opened.past, ?_⟩ ?_).2
    · intro loop
      simp [opened.opened.start, inLoop] at loop
    · intro d is
      rw [opened.declared] at is
      cases is
  · rintro s s' event _ ⟨rfl, _, a, last, fresh⟩ step good
    have now := good _ (timeout_records step).1 a last
    exact absurd now (Nat.not_le_of_lt fresh)

def hasty : Timed :=
  { endpoint := Endpoint.new { ip := [127, 0, 0, 1], port := 9000 } 2 5000 1 .host 4 }

theorem hasty_opened : TimedOpened hasty :=
  ⟨new_opened _ _ _ _ _ _, by simp [hasty], rfl⟩

theorem hasty_timeout_means_silence :
    (∀ s, Reaches Timed.step (fun s event => ¬ TakenTooEarly s event) hasty s → Justified s) ∧
    ∀ s s' event, Reaches Timed.step Any hasty s → TakenTooEarly s event →
      s.step event = some s' → ¬ Justified s' :=
  timeout_means_silence hasty_opened

/-- After the handshake the first byte of a frame arrives and is read at 1 ms; at 2 ms the
    peer counts as inactive. -/
def slowFrame : List TimedEvent :=
  [.arrive [0x4E, 0x43, 0x44, 0x01, 0x00, 0x04, 0x00, 0x01, 0x00, 0x00, 0x00, 0x01]] ++
  [.begin, .read [0x4E, 0x43, 0x44, 0x01, 0x00, 0x04, 0x00, 0x01, 0x00, 0x00, 0x00, 0x01],
    .wrote 12, .spawn, .enterRun 0, .wrote 12, .pass, .keepAliveTick, .wrote 8,
    .queryActiveTick 1, .wrote 12].map (fun event => .endpoint (.task event)) ++
  [.arrive [0x4E]] ++
  [.read [0x4E], .pass, .keepAliveTick, .wrote 8, .queryActiveTick 2, .wrote 12,
    .activeTimeoutTick].map (fun event => .endpoint (.task event))

theorem arriving_peer_declared_inactive :
    ¬ ∀ s₀ s : Timed, TimedOpened s₀ → Reaches Timed.step Any s₀ s → Justified s := by
  intro claim
  have good := claim hasty ((exec Timed.step hasty slowFrame).getD hasty) hasty_opened
    (reaches_of_exec slowFrame (by decide +kernel))
  have declared : ((exec Timed.step hasty slowFrame).getD hasty).declared =
      some ⟨2, 2, some 1⟩ := by decide +kernel
  exact absurd (good _ declared 1 rfl) (by decide)

end NcdInactivity
