import Ncd.HealthyPair

/- Keep-alive against inactivity: two endpoints with clocks, each sending at the interval
   that the other has announced, each giving up after its own timeout. -/
namespace NcdStayUp
open NcdPacket NcdIoState NcdConnection NcdHandler NcdTaskMoves NcdTaskSteps NcdBooks NcdPanicFree
  NcdTransfer NcdPair NcdGracefulClose NcdWireGrammar NcdInactivity NcdKeepAlive NcdHealthyPair
  LabelledRuns

structure Config where
  peerAddr : SocketAddr
  timeoutMs : UInt32
  closeTimeoutMs : UInt32
  keepAliveIntervalMs : UInt32
  bufferSize : Nat

def Config.endpoint (c : Config) (role : ConnRole) : Endpoint :=
  Endpoint.new c.peerAddr c.timeoutMs c.closeTimeoutMs c.keepAliveIntervalMs role c.bufferSize

/-- The peer's keep-alives come often enough for the timeout, whatever is d late. -/
def Config.Tolerates (c : Config) (d : Nat) : Prop :=
  c.keepAliveIntervalMs.toNat + 2 * d < c.timeoutMs.toNat

instance (c : Config) (d : Nat) : Decidable (c.Tolerates d) :=
  inferInstanceAs (Decidable (_ < _))

/-- Two endpoints, and when each packet was given to send_packet. -/
structure TimedPair where
  pair : Pair
  sentAtX : List Nat := []
  sentAtY : List Nat := []
  deriving DecidableEq, Repr

def TimedPair.new (device host : Config) (roomX roomY : Nat) : TimedPair :=
  { pair := ⟨device.endpoint .device, host.endpoint .host, roomX, roomY⟩ }

def TimedPair.task (p : TimedPair) (s : Side) : Task := (p.pair.get s).task

def TimedPair.sentAt (p : TimedPair) : Side → List Nat
  | .x => p.sentAtX
  | .y => p.sentAtY

def stamps (t t' : Task) : List Nat := (t'.sent.drop t.sent.length).map fun _ => t.clock

def TimedPair.step (p : TimedPair) (event : PairEvent) : Option TimedPair :=
  (p.pair.step event).map fun q =>
    { pair := q
      sentAtX := p.sentAtX ++ stamps p.pair.x.task q.x.task
      sentAtY := p.sentAtY ++ stamps p.pair.y.task q.y.task }

/-- How many packets a task is done with. A device is done with HelloAck when it enters
    run. -/
def handled (t : Task) : Nat :=
  if t.conn.role = .device ∧ stand t.pc = .door then t.received.length - 1 else t.received.length

/-- No packet has been under way, and no keep-alive timer ready, for d. -/
def InTime (d : Nat) (p : TimedPair) (s : Side) : Prop :=
  (∀ sent ∈ (p.sentAt s).drop (handled (p.task s.other)), (p.task s).clock < sent + d) ∧
    ∀ timer ∈ (p.task s).conn.keepAliveTimer, (p.task s).clock < timer.deadline + d

/-- Time passes only while everything is in time. -/
def Prompt (d : Nat) (p : TimedPair) (event : PairEvent) : Prop :=
  Healthy p.pair event ∧ (event = .pass → InTime d p .x ∧ InTime d p .y)

instance (d : Nat) (p : TimedPair) (s : Side) : Decidable (InTime d p s) :=
  inferInstanceAs (Decidable (_ ∧ _))

instance (d : Nat) (p : TimedPair) (event : PairEvent) : Decidable (Prompt d p event) :=
  inferInstanceAs (Decidable (_ ∧ _))

/-- What announces its next packet to s: the other side has not entered run, and HelloAck is
    on its way to it; or a packet is on its way, or the next keep-alive comes early enough. -/
def Expects (d : Nat) (p : TimedPair) (s : Side) (deadline : Nat) : Prop :=
  ((p.task s).conn.role = .host ∧ handled (p.task s.other) = 0 ∧
      ∃ a rest, p.sentAt s = a :: rest ∧ a + (p.task s).conn.timeoutMs.toNat ≤ deadline) ∨
    ∃ timer, (p.task s.other).conn.keepAliveTimer = some timer ∧
      ((∃ sent ∈ (p.sentAt s.other).drop (p.task s).received.length, sent + d < deadline) ∨
        timer.deadline + 2 * d < deadline)

def Ticking (d : Nat) (clock : Nat) (period : UInt32) (timer : Interval) : Prop :=
  timer.period = period.toNat ∧ clock ≤ timer.deadline + d ∧ timer.deadline ≤ clock + period.toNat

structure Lively (d : Nat) (p : TimedPair) : Prop where
  untroubled : Untroubled p.pair
  tolerates : ∀ s, (p.task s).conn.keepAliveIntervalMs.toNat + 2 * d <
    (p.task s).conn.timeoutMs.toNat
  clocks : ∀ s, (p.task s.other).clock = (p.task s).clock
  stamped : ∀ s, (p.sentAt s).length = (p.task s).sent.length
  past : ∀ s, ∀ sent ∈ p.sentAt s, sent ≤ (p.task s).clock
  prompt : ∀ s, ∀ sent ∈ (p.sentAt s).drop (handled (p.task s.other)),
    (p.task s).clock ≤ sent + d
  ticking : ∀ s timer, (p.task s).conn.keepAliveTimer = some timer →
    Ticking d (p.task s).clock (p.task s.other).conn.keepAliveIntervalMs timer
  expects : ∀ s timer, timeoutTimer (p.task s) = some timer →
    timer.period = (p.task s).conn.timeoutMs.toNat ∧ Expects d p s timer.deadline

variable {d : Nat} {p p' : TimedPair} {s : Side}

theorem handled_le (t : Task) : handled t ≤ t.received.length := by
  unfold handled
  split
  · exact Nat.sub_le _ _
  · exact Nat.le_refl _

theorem drop_within {α : Type} {xs : List α} {m n : Nat} (le : m ≤ n) {x : α}
    (member : x ∈ xs.drop n) : x ∈ xs.drop m := by
  rw [← Nat.add_sub_cancel' le, ← List.drop_drop] at member
  exact (List.drop_suffix _ _).subset member

/- The invariant keeps the inactivity timer from being ready. -/
theorem lively_waits (lively : Lively d p) {timer : Interval}
    (running : timeoutTimer (p.task s) = some timer) : (p.task s).clock < timer.deadline := by
  have tolerates := lively.tolerates s
  rcases (lively.expects s timer running).2 with ⟨_, none, a, rest, first, bound⟩ |
    ⟨keepAlive, ticks, ⟨sent, member, bound⟩ | bound⟩
  · have member : a ∈ (p.sentAt s).drop (handled (p.task s.other)) := by
      rw [none, first]
      exact List.mem_cons_self
    have := lively.prompt s a member
    omega
  · have here := lively.prompt s.other sent (by
      rw [other_other]
      exact drop_within (handled_le _) member)
    rw [lively.clocks] at here
    omega
  · have ticking := (lively.ticking s.other keepAlive ticks).2.1
    rw [lively.clocks] at ticking
    omega

theorem never_inactive (lively : Lively d p) (s : Side) :
    p.step (.on s (.task .activeTimeoutTick)) = none := by
  by_contra taken
  obtain ⟨q, step⟩ := Option.ne_none_iff_exists'.mp taken
  obtain ⟨pair, moved, _⟩ := Option.map_eq_some_iff.mp step
  obtain ⟨e, _, moved, _⟩ := step_on moved
  obtain ⟨t', ch', ticked, _⟩ := task_parts moved
  cases task_move ticked with
  | timesOut here running ready =>
    exact absurd ready (Nat.not_le_of_lt (lively_waits lively (s := s) running))
  | _ => contradiction

theorem beat_stamps {t t' : Task} (beat : Beat t t') :
    t'.sent.length = t.sent.length + (stamps t t').length ∧
      ∀ sent ∈ stamps t t', sent = t.clock := by
  refine ⟨?_, fun sent member => ?_⟩
  · have grown : t.sent.length ≤ t'.sent.length := by
      cases beat with
      | quiet still same sent received => rw [sent]
      | listens still role before now sent received => rw [sent]
      | calls still role before now sent received => simp [sent]
      | greets still before now sent received => simp [sent]
      | starts setup now keepAlive timeout sent how => rw [sent]
      | speaks still before now sent received => simp [sent]
      | beats setup before now running ready keepAlive timeout sent received => simp [sent]
      | hears setup before now keepAlive timeout received sent =>
        rcases sent with sent | ⟨q, sent⟩ <;> simp [sent]
    simp only [stamps, List.length_map, List.length_drop]
    omega
  · obtain ⟨_, _, is⟩ := List.mem_map.mp member
    exact is.symm

theorem stamps_speaks {t t' : Task} {packet : Packet} (sent : t'.sent = t.sent ++ [packet]) :
    stamps t t' = [t.clock] := by
  simp [stamps, sent]

theorem handled_mono {t t' : Task} (beat : Beat t t')
    (suited : suits t.conn.role (stand t.pc) = true) : handled t ≤ handled t' := by
  have role := (beat_setup beat).role
  have grown : t.received.length ≤ t'.received.length := by
    cases beat with
    | quiet still same sent received => rw [received]
    | listens still role before now sent received => rw [received]
    | calls still role before now sent received => rw [received]
    | greets still before now sent received => simp [received]
    | starts setup now keepAlive timeout sent how =>
      rcases how with ⟨_, received⟩ | ⟨_, received⟩ <;> simp [received]
    | speaks still before now sent received => rw [received]
    | beats setup before now running ready keepAlive timeout sent received => rw [received]
    | hears setup before now keepAlive timeout received sent => simp [received]
  by_cases door : t'.conn.role = .device ∧ stand t'.pc = .door
  · obtain ⟨device, now'⟩ := door
    rw [role] at device
    have after : handled t' = t'.received.length - 1 := if_pos ⟨role.trans device, now'⟩
    rw [after]
    cases beat with
    | quiet still same sent received =>
      rw [handled, if_pos ⟨device, same ▸ now'⟩, received]
    | starts setup now keepAlive timeout sent how =>
      rcases how with ⟨before, received⟩ | ⟨before, _⟩
      · have := handled_le t
        rw [received, List.length_append, List.length_singleton]
        omega
      · rw [before, device] at suited
        cases suited
    | listens still role before now sent received => rw [now] at now'; cases now'
    | calls still role before now sent received => rw [now] at now'; cases now'
    | greets still before now sent received => rw [now] at now'; cases now'
    | speaks still before now sent received => rw [now] at now'; cases now'
    | beats setup before now running ready keepAlive timeout sent received =>
      rw [now] at now'; cases now'
    | hears setup before now keepAlive timeout received sent => rw [now] at now'; cases now'
  · have after : handled t' = t'.received.length := if_neg door
    rw [after]
    exact (handled_le t).trans grown

structure Moves (p p' : TimedPair) (s : Side) : Prop where
  before : Untroubled p.pair
  after : Untroubled p'.pair
  beat : Beat (p.task s) (p'.task s)
  other : p'.task s.other = p.task s.other
  sentAt : p'.sentAt s = p.sentAt s ++ stamps (p.task s) (p'.task s)
  sentAtOther : p'.sentAt s.other = p.sentAt s.other

theorem stamps_self (t : Task) : stamps t t = [] := by simp [stamps]

theorem step_moves {event : EndpointEvent} (lively : Lively d p)
    (prompt : Prompt d p (.on s event)) (step : p.step (.on s event) = some p') :
    Moves p p' s := by
  have timely : event ≠ .task .activeTimeoutTick := by
    rintro rfl
    rw [never_inactive lively s] at step
    cases step
  obtain ⟨q, moved, rfl⟩ := Option.map_eq_some_iff.mp step
  obtain ⟨after, other, beat⟩ := untroubled_step lively.untroubled prompt.1 timely moved
  refine ⟨lively.untroubled, after, beat, congrArg Endpoint.task other, ?_, ?_⟩
  · cases s <;> rfl
  · cases s with
    | x =>
      have same : q.y.task = p.pair.y.task := congrArg Endpoint.task other
      simp [TimedPair.sentAt, Side.other, same, stamps_self]
    | y =>
      have same : q.x.task = p.pair.x.task := congrArg Endpoint.task other
      simp [TimedPair.sentAt, Side.other, same, stamps_self]

/- What is on its way to the other side stays so. -/
theorem sent_more (moves : Moves p p' s) {n sent : Nat} (member : sent ∈ (p.sentAt s).drop n) :
    sent ∈ (p'.sentAt s).drop n := by
  rw [moves.sentAt, List.drop_append]
  exact List.mem_append_left _ member

theorem sent_now (moves : Moves p p' s) {packet : Packet} {n : Nat}
    (sent : (p'.task s).sent = (p.task s).sent ++ [packet]) (le : n ≤ (p.sentAt s).length) :
    (p.task s).clock ∈ (p'.sentAt s).drop n := by
  rw [moves.sentAt, stamps_speaks sent, List.drop_append_of_le_length le]
  exact List.mem_append_right _ List.mem_cons_self

theorem heard_sent (lively : Lively d p) (s : Side) :
    (p.task s.other).received.length ≤ (p.sentAt s).length := by
  have part := (List.prefix_append _ _).trans (received_of lively.untroubled.graced s.other)
  rw [other_other] at part
  rw [lively.stamped]
  exact part.length_le

/- A promise that a keep-alive timer makes is kept by every step that leaves the timer as it
   is, and by its tick, which sends what was promised. -/
theorem promise_kept (lively : Lively d p) (moves : Moves p p' s) {timer : Interval}
    (ticks : (p.task s).conn.keepAliveTimer = some timer) {n deadline : Nat}
    (heard : n ≤ (p.sentAt s).length)
    (promise : (∃ sent ∈ (p.sentAt s).drop n, sent + d < deadline) ∨
      timer.deadline + 2 * d < deadline) :
    ∃ timer', (p'.task s).conn.keepAliveTimer = some timer' ∧
      ((∃ sent ∈ (p'.sentAt s).drop n, sent + d < deadline) ∨
        timer'.deadline + 2 * d < deadline) := by
  have same : (p'.task s).conn.keepAliveTimer = (p.task s).conn.keepAliveTimer →
      ∃ timer', (p'.task s).conn.keepAliveTimer = some timer' ∧
        ((∃ sent ∈ (p'.sentAt s).drop n, sent + d < deadline) ∨
          timer'.deadline + 2 * d < deadline) := by
    intro keepAlive
    refine ⟨timer, keepAlive.trans ticks, promise.imp_left ?_⟩
    rintro ⟨sent, member, bound⟩
    exact ⟨sent, sent_more moves member, bound⟩
  cases moves.beat with
  | quiet still stand sent received => exact same still.keepAlive
  | listens still role before now sent received => exact same still.keepAlive
  | calls still role before now sent received => exact same still.keepAlive
  | greets still before now sent received => exact same still.keepAlive
  | speaks still before now sent received => exact same still.keepAlive
  | hears setup before now keepAlive timeout received sent => exact same keepAlive
  | starts setup now keepAlive timeout sent how =>
    have none : (p.task s).conn.keepAliveTimer = none := by
      refine (lively.untroubled.untimed s ?_).1
      rcases how with ⟨before, _⟩ | ⟨before, _⟩ <;> exact before ▸ rfl
    rw [none] at ticks
    cases ticks
  | beats setup before now running ready keepAlive timeout sent received =>
    rw [ticks, Option.some.injEq] at running
    subst running
    refine ⟨timer.tick, keepAlive, .inl ?_⟩
    rcases promise with ⟨sent', member, bound⟩ | bound
    · exact ⟨sent', sent_more moves member, bound⟩
    · have intime := (lively.ticking s timer ticks).2.1
      exact ⟨(p.task s).clock, sent_now moves sent heard, by omega⟩

/- A device that is not in run enters it, or is still not in run. -/
theorem door_left (lively : Lively d p) (moves : Moves p p' s)
    (device : (p.task s).conn.role = .device) (none : handled (p.task s) = 0) :
    handled (p'.task s) = 0 ∨ (stand (p.task s).pc = .door ∨ stand (p.task s).pc = .loop) ∧
      (p'.task s).conn.keepAliveTimer = (p.task s).conn.keepAliveTimer ∧
      ∃ packet, (p'.task s).sent = (p.task s).sent ++ [packet] := by
  have role := (beat_setup moves.beat).role
  have suited := lively.untroubled.suited s
  have outside : ∀ {t : Task}, stand t.pc ≠ .door → handled t = t.received.length :=
    fun out => if_neg fun is => out is.2
  have inLoop : stand (p.task s).pc ≠ .loop := by
    intro loop
    rw [outside (by rw [loop]; nofun)] at none
    exact loop_received lively.untroubled.graced loop (List.length_eq_zero_iff.mp none)
  cases moves.beat with
  | quiet still same sent received =>
    left
    rw [handled, role, same, received]
    exact none
  | listens still host before now sent received =>
    left
    rw [outside (by rw [now]; nofun), received, ← outside (by rw [before]; nofun)]
    exact none
  | calls still host before now sent received =>
    left
    rw [outside (by rw [now]; nofun), received, ← outside (by rw [before]; nofun)]
    exact none
  | greets still before now sent received =>
    change suits (p.task s).conn.role (stand (p.task s).pc) = true at suited
    rw [device, before] at suited
    cases suited
  | starts setup now keepAlive timeout sent how =>
    rcases how with ⟨before, received⟩ | ⟨before, _⟩
    · left
      rw [handled, if_pos ⟨role.trans device, now⟩, received,
        show (p.task s).received = [] from unmet_received lively.untroubled.graced (.inl before)]
      rfl
    · change suits (p.task s).conn.role (stand (p.task s).pc) = true at suited
      rw [device, before] at suited
      cases suited
  | speaks still before now sent received => exact .inr ⟨before, still.keepAlive, _, sent⟩
  | beats setup before now running ready keepAlive timeout sent received =>
    exact absurd before inLoop
  | hears setup before now keepAlive timeout received sent => exact absurd before inLoop

/-- The other side goes on expecting: what s does keeps the promise or replaces it. -/
theorem expects_other (lively : Lively d p) (moves : Moves p p' s) {deadline : Nat}
    (expects : Expects d p s.other deadline) : Expects d p' s.other deadline := by
  have heard := heard_sent lively s
  simp only [Expects, other_other, moves.other, moves.sentAtOther] at expects ⊢
  rcases expects with ⟨host, none, a, rest, first, bound⟩ | ⟨timer, ticks, promise⟩
  · have device : (p.task s).conn.role = .device := by
      cases s with
      | x => exact lively.untroubled.device
      | y =>
        have x := lively.untroubled.device
        rw [show (p.pair.get .x).task.conn.role = .host from host] at x
        cases x
    rcases door_left lively moves device none with still | ⟨inside, keepAlive, packet, sent⟩
    · exact .inl ⟨host, still, a, rest, first, bound⟩
    · right
      have ready := (ready_timers lively.untroubled.graced (s := s) (stand_running inside)).1
      obtain ⟨timer, ticks⟩ := Option.isSome_iff_exists.mp ready
      refine ⟨timer, keepAlive.trans ticks, .inl ⟨(p.task s).clock, sent_now moves sent heard, ?_⟩⟩
      have tolerates := lively.tolerates s.other
      have late := lively.prompt s.other a (by
        rw [other_other, none, first]
        exact List.mem_cons_self)
      have clocks := lively.clocks s
      omega
  · exact .inr (promise_kept lively moves ticks heard promise)

/- Side s has heard nothing new. -/
theorem expects_still (moves : Moves p p' s) {deadline : Nat}
    (received : (p'.task s).received = (p.task s).received) (expects : Expects d p s deadline) :
    Expects d p' s deadline := by
  have setup := beat_setup moves.beat
  rcases expects with ⟨host, none, a, rest, first, bound⟩ | ⟨timer, ticks, promise⟩
  · left
    rw [setup.role, moves.other, setup.timeoutMs, moves.sentAt, first]
    exact ⟨host, none, a, rest ++ stamps (p.task s) (p'.task s), rfl, bound⟩
  · right
    rw [moves.other, moves.sentAtOther, received]
    exact ⟨timer, ticks, promise⟩

/- A keep-alive timer of the other side runs at the interval of s, so that the next
   keep-alive comes before a timeout that starts now. -/
theorem expects_ticking (lively : Lively d p) (moves : Moves p p' s) {timer : Interval}
    (ticks : (p.task s.other).conn.keepAliveTimer = some timer) :
    Expects d p' s ((p.task s).clock + (p.task s).conn.timeoutMs.toNat) := by
  right
  rw [moves.other]
  refine ⟨timer, ticks, .inr ?_⟩
  have next := (lively.ticking s.other timer ticks).2.2
  rw [other_other, lively.clocks] at next
  have tolerates := lively.tolerates s
  omega

theorem expects_heard (lively : Lively d p) (moves : Moves p p' s) {deadline : Nat}
    (expects : Expects d p s deadline) :
    Expects d p' s ((p.task s).clock + (p.task s).conn.timeoutMs.toNat) := by
  have setup := beat_setup moves.beat
  rcases expects with ⟨host, none, a, rest, first, _⟩ | ⟨timer, ticks, _⟩
  · left
    rw [setup.role, moves.other, setup.timeoutMs, moves.sentAt, first]
    refine ⟨host, none, a, rest ++ stamps (p.task s) (p'.task s), rfl, ?_⟩
    have sent := lively.past s a (first ▸ List.mem_cons_self)
    exact Nat.add_le_add_right sent _
  · exact expects_ticking lively moves ticks

/- The handshake of s is over: the host waits for a device that has not got its HelloAck,
   the device for a host that is in run. -/
theorem expects_started (lively : Lively d p) (moves : Moves p p' s) {peer : UInt32}
    (how : stand (p.task s).pc = .calling ∧
        (p'.task s).received = (p.task s).received ++ [.controlHelloAck peer] ∨
      stand (p.task s).pc = .acking peer ∧ (p'.task s).received = (p.task s).received) :
    Expects d p' s ((p.task s).clock + (p.task s).conn.timeoutMs.toNat) := by
  have setup := beat_setup moves.beat
  have suited : suits (p.task s).conn.role (stand (p.task s).pc) = true :=
    lively.untroubled.suited s
  rcases how with ⟨calling, received⟩ | ⟨acking, _⟩
  · have host : (p'.task s.other).conn.role = .host := by
      rw [moves.other]
      cases s with
      | x => exact lively.untroubled.host
      | y =>
        rw [calling, show (p.task .y).conn.role = .host from lively.untroubled.host] at suited
        cases suited
    have inside := host_first moves.after (s := s) host (by
      rw [show (p'.pair.get s).task.received = _ from received]
      simp)
    have ready := (ready_timers moves.after.graced (s := s.other) (stand_running inside)).1
    obtain ⟨timer, ticks⟩ := Option.isSome_iff_exists.mp ready
    have before : (p.task s.other).conn.keepAliveTimer = some timer := by
      rw [← moves.other]
      exact ticks
    exact expects_ticking lively moves before
  · left
    have host : (p.task s).conn.role = .host := by
      cases role : (p.task s).conn.role with
      | host => rfl
      | device =>
        rw [acking, role] at suited
        cases suited
    have unmet : (p.task s.other).received = [] := by
      refine @acking_alone _ s.other lively.untroubled peer ?_
      rw [other_other]
      exact acking
    have none : handled (p.task s.other) = 0 := by
      have := handled_le (p.task s.other)
      rw [unmet] at this
      exact Nat.le_zero.mp this
    have single : (p.sentAt s).length = 1 := by
      rw [lively.stamped]
      exact lively.untroubled.single s peer acking
    obtain ⟨a, first⟩ := List.length_eq_one_iff.mp single
    rw [setup.role, moves.other, setup.timeoutMs, moves.sentAt, first]
    refine ⟨host, none, a, stamps (p.task s) (p'.task s), rfl, ?_⟩
    have sent := lively.past s a (first ▸ List.mem_cons_self)
    exact Nat.add_le_add_right sent _

theorem expects_self (lively : Lively d p) (moves : Moves p p' s) {timer : Interval}
    (running : timeoutTimer (p'.task s) = some timer) :
    timer.period = (p'.task s).conn.timeoutMs.toNat ∧ Expects d p' s timer.deadline := by
  have setup := beat_setup moves.beat
  have kept : timeoutTimer (p'.task s) = timeoutTimer (p.task s) →
      (p'.task s).received = (p.task s).received →
      timer.period = (p'.task s).conn.timeoutMs.toNat ∧ Expects d p' s timer.deadline := by
    intro same received
    rw [same] at running
    obtain ⟨period, expects⟩ := lively.expects s timer running
    exact ⟨by rw [setup.timeoutMs]; exact period, expects_still moves received expects⟩
  cases moves.beat with
  | quiet still stand sent received => exact kept still.timeout received
  | listens still role before now sent received => exact kept still.timeout received
  | calls still role before now sent received => exact kept still.timeout received
  | speaks still before now sent received => exact kept still.timeout received
  | beats setup before now ticks ready keepAlive timeout sent received =>
    exact kept timeout received
  | greets still before now sent received =>
    rw [still.timeout, show timeoutTimer (p.task s) = none from
      (lively.untroubled.untimed s (before ▸ rfl)).2] at running
    cases running
  | starts setup now keepAlive timeout sent how =>
    rw [timeout, Option.some.injEq] at running
    subst running
    exact ⟨by rw [setup.timeoutMs], expects_started lively moves how⟩
  | hears setup before now keepAlive timeout received sent =>
    rw [timeout, Option.map_eq_some_iff] at running
    obtain ⟨old, ran, rfl⟩ := running
    obtain ⟨period, expects⟩ := lively.expects s old ran
    have again := expects_heard lively moves expects
    rw [setup.timeoutMs]
    refine ⟨period, ?_⟩
    simp only [Interval.reset, period]
    exact again

/- The keep-alive timer of s runs at the interval of the other side. -/
theorem ticking_self (lively : Lively d p) (moves : Moves p p' s) {timer : Interval}
    (running : (p'.task s).conn.keepAliveTimer = some timer) :
    Ticking d (p.task s).clock (p.task s.other).conn.keepAliveIntervalMs timer := by
  have kept : (p'.task s).conn.keepAliveTimer = (p.task s).conn.keepAliveTimer →
      Ticking d (p.task s).clock (p.task s.other).conn.keepAliveIntervalMs timer := by
    intro same
    rw [same] at running
    exact lively.ticking s timer running
  cases moves.beat with
  | quiet still stand sent received => exact kept still.keepAlive
  | listens still role before now sent received => exact kept still.keepAlive
  | calls still role before now sent received => exact kept still.keepAlive
  | greets still before now sent received => exact kept still.keepAlive
  | speaks still before now sent received => exact kept still.keepAlive
  | hears setup before now keepAlive timeout received sent => exact kept keepAlive
  | beats setup before now ticks ready keepAlive timeout sent received =>
    rw [keepAlive, Option.some.injEq] at running
    subst running
    obtain ⟨period, late, _⟩ := lively.ticking s _ ticks
    refine ⟨period, ?_, ?_⟩
    · simp only [Interval.tick]
      omega
    · simp only [Interval.tick]
      omega
  | @starts peer setup now keepAlive timeout sent how =>
    rw [keepAlive, Option.some.injEq] at running
    subst running
    have announced : (p.task s.other).conn.keepAliveIntervalMs = peer := by
      rcases how with ⟨calling, received⟩ | ⟨acking, _⟩
      · have hello := hello_announced lively.untroubled moves.after.graced (s := s) moves.other
          (unmet_received lively.untroubled.graced (.inl calling)) received
        unfold helloOf at hello
        split at hello <;> cases hello
        rfl
      · exact lively.untroubled.acking s peer acking
    rw [announced]
    exact ⟨rfl, by dsimp only; omega, Nat.le_refl _⟩

theorem lively_on (lively : Lively d p) (moves : Moves p p' s) : Lively d p' := by
  have setup := beat_setup moves.beat
  have clocks := lively.clocks s
  obtain ⟨length, now⟩ := beat_stamps moves.beat
  have more : ∀ sent ∈ p'.sentAt s, sent ∈ p.sentAt s ∨ sent = (p.task s).clock := by
    intro sent member
    rw [moves.sentAt, List.mem_append] at member
    exact member.imp_right (now sent)
  refine ⟨moves.after, both_sides (s := s) ?_ ?_, both_sides (s := s) ?_ ?_,
    both_sides (s := s) ?_ ?_, both_sides (s := s) ?_ ?_, both_sides (s := s) ?_ ?_,
    both_sides (s := s) ?_ ?_, both_sides (s := s) ?_ ?_⟩
  · rw [setup.interval, setup.timeoutMs]
    exact lively.tolerates s
  · rw [moves.other]
    exact lively.tolerates s.other
  · rw [moves.other, setup.clock]
    exact clocks
  · rw [other_other, moves.other, setup.clock]
    exact clocks.symm
  · rw [moves.sentAt, List.length_append, lively.stamped, length]
  · rw [moves.sentAtOther, moves.other]
    exact lively.stamped s.other
  · intro sent member
    rw [setup.clock]
    rcases more sent member with old | rfl
    · exact lively.past s sent old
    · exact Nat.le_refl _
  · rw [moves.sentAtOther, moves.other]
    exact lively.past s.other
  · intro sent member
    rw [moves.other, moves.sentAt, List.drop_append, List.mem_append] at member
    rw [setup.clock]
    rcases member with old | new
    · exact lively.prompt s sent old
    · rw [now sent (List.mem_of_mem_drop new)]
      exact Nat.le_add_right _ _
  · intro sent member
    rw [other_other, moves.sentAtOther] at member
    rw [moves.other]
    refine lively.prompt s.other sent ?_
    rw [other_other]
    exact drop_within (handled_mono moves.beat (lively.untroubled.suited s)) member
  · intro timer running
    rw [moves.other, setup.clock]
    exact ticking_self lively moves running
  · intro timer running
    rw [moves.other] at running ⊢
    rw [other_other, setup.interval]
    have ticking := lively.ticking s.other timer running
    rwa [other_other] at ticking
  · exact fun timer running => expects_self lively moves running
  · intro timer running
    rw [moves.other] at running ⊢
    obtain ⟨period, expects⟩ := lively.expects s.other timer running
    exact ⟨period, expects_other lively moves expects⟩

theorem pass_parts (step : p.step .pass = some p') : p.pair.step .pass = some p'.pair ∧
    ∀ s, p'.task s = { p.task s with clock := (p.task s).clock + 1 } ∧
      p'.sentAt s = p.sentAt s := by
  obtain ⟨q, moved, rfl⟩ := Option.map_eq_some_iff.mp step
  refine ⟨moved, fun s => ?_⟩
  cases moved
  cases s <;> refine ⟨rfl, ?_⟩
  · exact (congrArg (p.sentAtX ++ ·) (stamps_self p.pair.x.task)).trans (List.append_nil _)
  · exact (congrArg (p.sentAtY ++ ·) (stamps_self p.pair.y.task)).trans (List.append_nil _)

theorem lively_pass (lively : Lively d p) (prompt : Prompt d p .pass)
    (step : p.step .pass = some p') : Lively d p' := by
  obtain ⟨moved, parts⟩ := pass_parts step
  have intime : ∀ s, InTime d p s := by
    obtain ⟨x, y⟩ := prompt.2 rfl
    intro s
    cases s
    · exact x
    · exact y
  have done : ∀ s, handled (p'.task s) = handled (p.task s) := fun s => by
    rw [(parts s).1]
    rfl
  refine ⟨untroubled_pass lively.untroubled prompt.1 moved, fun s => ?_, fun s => ?_,
    fun s => ?_, fun s sent member => ?_, fun s sent member => ?_, fun s timer running => ?_,
    fun s timer running => ?_⟩
  · rw [(parts s).1]
    exact lively.tolerates s
  · rw [(parts s).1, (parts s.other).1]
    exact congrArg (· + 1) (lively.clocks s)
  · rw [(parts s).1, (parts s).2]
    exact lively.stamped s
  · rw [(parts s).2] at member
    rw [(parts s).1]
    exact Nat.le_succ_of_le (lively.past s sent member)
  · rw [(parts s).2, done] at member
    rw [(parts s).1]
    exact (intime s).1 sent member
  · rw [(parts s).1] at running ⊢
    rw [(parts s.other).1]
    obtain ⟨period, _, soon⟩ := lively.ticking s timer running
    exact ⟨period, (intime s).2 timer running, soon.trans (Nat.add_le_add_right (Nat.le_succ _) _)⟩
  · have before : timeoutTimer (p.task s) = some timer := by
      rw [(parts s).1] at running
      exact running
    obtain ⟨period, expects⟩ := lively.expects s timer before
    have same : Expects d p' s timer.deadline := by
      unfold Expects
      rw [done, (parts s).1, (parts s).2, (parts s.other).1, (parts s.other).2]
      exact expects
    rw [(parts s).1]
    exact ⟨period, same⟩

theorem step_lively {event : PairEvent} (lively : Lively d p) (prompt : Prompt d p event)
    (step : p.step event = some p') : Lively d p' := by
  cases event with
  | pass => exact lively_pass lively prompt step
  | on s event => exact lively_on lively (step_moves lively prompt step)

theorem lively_new {device host : Config} {roomX roomY : Nat} (slackX : device.Tolerates d)
    (slackY : host.Tolerates d) : Lively d (TimedPair.new device host roomX roomY) := by
  have fresh : Fresh (TimedPair.new device host roomX roomY).pair := by
    refine ⟨fun s => ?_, fun s => ?_, fun s => ?_, fun s => ?_⟩
    · cases s <;> exact new_opened _ _ _ _ _ _
    · cases s <;> rfl
    · cases s <;> rfl
    · cases s <;> rfl
  refine ⟨fresh_untroubled fresh rfl rfl fun s => ?_, fun s => ?_, fun s => ?_, fun s => ?_,
    fun s sent member => ?_, fun s sent member => ?_, fun s timer running => ?_,
    fun s timer running => ?_⟩
  · cases s <;> exact ⟨rfl, rfl⟩
  · cases s
    · exact slackX
    · exact slackY
  · cases s <;> rfl
  · cases s <;> rfl
  · cases s <;> cases member
  · have none : (TimedPair.new device host roomX roomY).sentAt s = [] := by cases s <;> rfl
    rw [none, List.drop_nil] at member
    cases member
  · cases s <;> cases running
  · cases s <;> cases running

/-- Neither endpoint ever takes its peer_active_timeout branch, as long as what one of them
    sends is handled within d, and its keep-alive timer as well. -/
theorem idle_pair_stays_up {device host : Config} {roomX roomY : Nat}
    (slackX : device.Tolerates d) (slackY : host.Tolerates d)
    (run : Reaches TimedPair.step (Prompt d) (TimedPair.new device host roomX roomY) p)
    (s : Side) : p.step (.on s (.task .activeTimeoutTick)) = none := by
  refine never_inactive (run.keeps (I := Lively d) ?_ (lively_new slackX slackY)) s
  exact fun lively prompt step => step_lively lively prompt step

def quick : Config := ⟨{ ip := [127, 0, 0, 1], port := 9001 }, 12, 5000, 3, 4⟩
def slow : Config := ⟨{ ip := [127, 0, 0, 1], port := 9000 }, 20, 5000, 7, 4⟩

def intoRun : List PairEvent :=
  [.on .x (.task .begin), .on .x (.task (.wrote 12)), .on .y (.task .begin),
    .on .y (.task (.read [0x4E, 0x43, 0x44, 0x01, 0x00, 0x04, 0x00, 0x01, 0x00, 0x00, 0x00, 0x03])),
    .on .y (.task (.wrote 12)), .on .y (.task .spawn), .on .y (.task (.enterRun 0)),
    .on .y (.task (.wrote 12)),
    .on .x (.task (.read [0x4E, 0x43, 0x44, 0x01, 0x00, 0x04, 0x00, 0x02, 0x00, 0x00, 0x00, 0x07])),
    .on .x (.task .spawn), .on .x (.task (.enterRun 0)), .on .x (.task (.wrote 12))]

def pings : List PairEvent :=
  [.on .x (.task (.read [0x4E, 0x43, 0x44, 0x01, 0x00, 0x04, 0x00, 0x05, 0x00, 0x00, 0x00, 0x00])),
    .on .x (.task (.wrote 12)),
    .on .y (.task (.read [0x4E, 0x43, 0x44, 0x01, 0x00, 0x04, 0x00, 0x05, 0x00, 0x00, 0x00, 0x00])),
    .on .y (.task (.wrote 12)),
    .on .x (.task (.read [0x4E, 0x43, 0x44, 0x01, 0x00, 0x04, 0x00, 0x06, 0x00, 0x00, 0x00, 0x00])),
    .on .y (.task (.read [0x4E, 0x43, 0x44, 0x01, 0x00, 0x04, 0x00, 0x06, 0x00, 0x00, 0x00, 0x00]))]

def keepAlive (s : Side) : List PairEvent :=
  [.on s (.task .keepAliveTick), .on s (.task (.wrote 8)),
    .on s.other (.task (.read [0x4E, 0x43, 0x44, 0x01, 0x00, 0x00, 0x00, 0x04]))]

/-- 14 ms, in which the keep-alives of the host come up to 2 ms late. -/
def idle : List PairEvent :=
  intoRun ++ pings ++ List.replicate 3 .pass ++ keepAlive .y ++ List.replicate 4 .pass ++
    keepAlive .y ++ keepAlive .x ++ List.replicate 2 .pass ++ keepAlive .y ++
    List.replicate 5 .pass ++ keepAlive .y ++ keepAlive .x

def afterIdle : TimedPair :=
  (execIf TimedPair.step (Prompt 2) (TimedPair.new quick slow 64 64) idle).getD
    (TimedPair.new quick slow 64 64)

theorem idle_reached :
    Reaches TimedPair.step (Prompt 2) (TimedPair.new quick slow 64 64) afterIdle :=
  reaches_of_execIf idle (by decide +kernel)

theorem late_keepAlives_stay_up :
    (afterIdle.task .x).clock = 14 ∧
      ∀ s, afterIdle.step (.on s (.task .activeTimeoutTick)) = none :=
  ⟨by decide +kernel, idle_pair_stays_up (by decide) (by decide) idle_reached⟩

end NcdStayUp
