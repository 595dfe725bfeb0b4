import Ncd.System
import Ncd.StayUp

/- Pings and pongs between two endpoints: what ping_timers and latest_rtt say of the packets
   that went to and fro. -/
namespace NcdRoundTrips
open NcdPacket NcdIoState NcdReceiver NcdConnection NcdHandler NcdTaskMoves NcdTaskSteps NcdBooks
  NcdPanicFree NcdPair NcdHealthyPair NcdWireGrammar NcdReception NcdSystem NcdStayUp LabelledRuns

def pingOf : TaskEvent → List UInt32
  | .enterRun id | .queryActiveTick id => [id]
  | _ => []

/-- When ping_peer has run, and when handle_packet has got a pong, with the id of each. -/
structure Trips where
  pinged : List (UInt32 × Nat) := []
  ponged : List (UInt32 × Nat) := []
  deriving DecidableEq, Repr

def Trips.note (trips : Trips) (t : Task) (event : TaskEvent) : Trips :=
  { pinged := trips.pinged ++ (pingOf event).map fun id => (id, t.clock)
    ponged := trips.ponged ++ (pongIds (handledBy t event)).map fun id => (id, t.clock) }

def Trips.unanswered (trips : Trips) : List (UInt32 × Nat) :=
  trips.pinged.drop trips.ponged.length

def Trips.durations (trips : Trips) : List Nat :=
  List.zipWith (fun ping pong => pong.2 - ping.2) trips.pinged trips.ponged

structure Measured where
  pair : Pair
  tripsX : Trips := {}
  tripsY : Trips := {}
  deriving DecidableEq, Repr

def Measured.new (device host : Config) (roomX roomY : Nat) : Measured :=
  { pair := ⟨device.endpoint .device, host.endpoint .host, roomX, roomY⟩ }

def Measured.task (m : Measured) (s : Side) : Task := (m.pair.get s).task

def Measured.trips (m : Measured) : Side → Trips
  | .x => m.tripsX
  | .y => m.tripsY

def Measured.note (m : Measured) (q : Pair) : Side → TaskEvent → Measured
  | .x, event => { m with pair := q, tripsX := m.tripsX.note m.pair.x.task event }
  | .y, event => { m with pair := q, tripsY := m.tripsY.note m.pair.y.task event }

def Measured.step (m : Measured) (event : PairEvent) : Option Measured :=
  (m.pair.step event).map fun q =>
    match event with
    | .on s (.task te) => m.note q s te
    | _ => { m with pair := q }

/-- ping_peer draws no id that is a key of ping_timers. -/
def Unrepeated (m : Measured) : PairEvent → Prop
  | .on s (.task te) => ∀ id ∈ pingOf te, id ∉ (m.task s).conn.pingTimers.map Prod.fst
  | _ => True

instance (m : Measured) : (event : PairEvent) → Decidable (Unrepeated m event)
  -- Not by going through every UInt32.
  | .on s (.task te) => List.decidableBAll
      (fun id => id ∉ (m.task s).conn.pingTimers.map Prod.fst) (pingOf te)
  | .pass | .on _ (.write _) | .on _ .read | .on _ .getStatus | .on _ .close | .on _ .requested
  | .on _ .recv | .on _ .recvStatus | .on _ .check | .on _ .joined | .on _ .cancel
  | .on _ .dropHandler => inferInstanceAs (Decidable True)

/-- From here run may still come back to handle_packet. -/
def heeds : Pc → Bool
  | .start | .awaitHello | .awaitHelloAck | .connected | .spawned | .select | .replying _
  | .delivering _ none | .sending _ .helloSent | .sending _ (.ackSent _) | .sending _ .loop => true
  | _ => false

variable {t m t' : Task}

/-- A piece of the task that receives nothing, sends no ping and touches no timer of one. -/
structure Aside (t t' : Task) : Prop where
  received : t'.received = t.received
  pings : pingIds t'.sent = pingIds t.sent
  timers : t'.conn.pingTimers = t.conn.pingTimers
  rtt : t'.conn.latestRtt = t.conn.latestRtt
  heeds : heeds t'.pc = true → heeds t.pc = true

theorem aside_send {p : Packet} {next : Resume} (quiet : pingIds [p] = [])
    (before : heeds (.sending [] next) = true → heeds t.pc = true) : Aside t (t.send p next) := by
  rw [send_eq]
  have later : heeds (.sending (packetBytes p) next) = true → heeds t.pc = true := by
    intro heeding
    apply before
    cases next <;> exact heeding
  exact ⟨rfl, by simp [quiet], rfl, rfl, later⟩

theorem aside_stops {pc : Pc} (stops : heeds pc = false) : Aside t { t with pc := pc } := by
  refine ⟨rfl, rfl, rfl, rfl, fun heeding => ?_⟩
  rw [stops] at heeding
  cases heeding

theorem aside_loopTop (here : heeds t.pc = true) : Aside t t.loopTop := by
  unfold Task.loopTop
  split
  · exact ⟨rfl, rfl, rfl, rfl, fun _ => here⟩
  · split
    · exact aside_stops rfl
    · exact aside_stops rfl

theorem startTimers_trips {c c' : Connection} {now : Nat} {peer : UInt32}
    (started : c.startTimers now peer = .ok c') :
    c'.pingTimers = c.pingTimers ∧ c'.latestRtt = c.latestRtt := by
  unfold Connection.startTimers at started
  split at started
  · cases started
  · split at started
    · cases started
    · split at started
      · cases started
      · split at started <;> cases started
        exact ⟨rfl, rfl⟩

theorem aside_startTimers (here : heeds t.pc = true) (peer : UInt32) :
    Aside t (t.startTimers peer) := by
  unfold Task.startTimers
  split
  · exact aside_stops rfl
  · rename_i c started
    obtain ⟨timers, rtt⟩ := startTimers_trips started
    exact ⟨rfl, rfl, timers, rtt, fun _ => here⟩

theorem aside_resume {next : Resume} (here : heeds (.sending [] next) = true → heeds t.pc = true) :
    Aside t (t.resume next) := by
  cases next with
  | helloSent => exact ⟨rfl, rfl, rfl, rfl, fun _ => here rfl⟩
  | ackSent peer => exact aside_startTimers (here rfl) peer
  | loop => exact aside_loopTop (here rfl)
  | drain | peerClosing | closing inactive => exact aside_stops rfl

theorem aside_closeByPeer (t : Task) : Aside t t.closeByPeer := by
  unfold Task.closeByPeer
  split
  · exact aside_stops rfl
  · exact aside_stops rfl

theorem aside_closeBySelf (t : Task) (inactive : Bool) : Aside t (t.closeBySelf inactive) := by
  unfold Task.closeBySelf
  split
  · exact aside_stops rfl
  · exact aside_send rfl (by simp [heeds])

theorem aside_finishClose (t : Task) (result : Except ConnectionError Unit) :
    Aside t (t.finishClose result) := by
  rw [finishClose_eq]
  exact ⟨rfl, rfl, rfl, rfl, by simp [heeds]⟩

theorem Aside.after (aside : Aside m t') (received : m.received = t.received)
    (sent : m.sent = t.sent) (timers : m.conn.pingTimers = t.conn.pingTimers)
    (rtt : m.conn.latestRtt = t.conn.latestRtt) (pc : m.pc = t.pc) : Aside t t' :=
  ⟨aside.received.trans received, by rw [aside.pings, sent], aside.timers.trans timers,
    aside.rtt.trans rtt, fun heeding => pc ▸ aside.heeds heeding⟩

def answered (t : Task) (p : Packet) : Connection :=
  match p with
  | .controlPong id => t.conn.pong id t.clock
  | _ => t.conn

/-- What an event of the task is to the pings: asked are the ids of those it sends, handled
    the packets it gives to handle_packet. -/
inductive Trip (t : Task) (asked : List UInt32) (handled : List Packet) (t' : Task) : Prop where
  | aside (unasked : asked = []) (none : handled = []) (same : Aside t t')
  | pings {id : UInt32} (asks : asked = [id]) (none : handled = [])
      (received : t'.received = t.received) (sent : pingIds t'.sent = pingIds t.sent ++ [id])
      (timers : t'.conn.pingTimers =
        (id, t.clock) :: t.conn.pingTimers.filter fun entry => entry.1 ≠ id)
      (rtt : t'.conn.latestRtt = t.conn.latestRtt) (heeding : heeds t.pc = true)
  | handles {p : Packet} (unasked : asked = []) (gives : handled = [p]) (heeding : heeds t.pc = true)
      (same : Aside { t with received := t.received ++ [p], conn := answered t p } t')
  | ignores {p : Packet} (unasked : asked = []) (none : handled = [])
      (other : heeds t'.pc = true → pingIds [p] = [] ∧ pongIds [p] = [])
      (same : Aside { t with received := t.received ++ [p] } t')

theorem pong_reset (c : Connection) (id : UInt32) (now : Nat) :
    ((c.resetTimers now).pong id now).pingTimers = (c.pong id now).pingTimers ∧
      ((c.resetTimers now).pong id now).latestRtt = (c.pong id now).latestRtt := by
  unfold Connection.pong Connection.resetTimers
  dsimp only
  split
  · exact ⟨rfl, rfl⟩
  · exact ⟨rfl, rfl⟩

theorem answered_io (t : Task) (p : Packet) (io : IoState) :
    (answered (withIo t io) p).pingTimers = (answered t p).pingTimers ∧
      (answered (withIo t io) p).latestRtt = (answered t p).latestRtt := by
  cases p with
  | controlPong id =>
    simp only [answered, withIo, Connection.pong]
    split
    · exact ⟨rfl, rfl⟩
    · exact ⟨rfl, rfl⟩
  | _ => exact ⟨rfl, rfl⟩

theorem aside_handlePacket (here : t.pc = .select) (p : Packet) :
    Aside { t with conn := answered t p } (t.handlePacket p) := by
  have heeding : heeds t.pc = true := by
    rw [here]
    rfl
  cases p with
  | controlPing id =>
    have sent : Aside { t with conn := t.conn.resetTimers t.clock }
        (Task.send { t with conn := t.conn.resetTimers t.clock } (.controlPong id) .loop) :=
      aside_send rfl fun _ => heeding
    exact sent.after rfl rfl rfl rfl rfl
  | controlPong id =>
    obtain ⟨timers, rtt⟩ := pong_reset t.conn id t.clock
    have looped : Aside { t with conn := (t.conn.resetTimers t.clock).pong id t.clock }
        (t.handlePacket (.controlPong id)) := aside_loopTop heeding
    exact looped.after rfl rfl timers rtt rfl
  | controlKeepAlive =>
    have looped : Aside { t with conn := t.conn.resetTimers t.clock }
        (t.handlePacket .controlKeepAlive) := aside_loopTop heeding
    exact looped.after rfl rfl rfl rfl rfl
  | controlClose =>
    have closed : Aside { t with conn := t.conn.resetTimers t.clock }
        (t.handlePacket .controlClose) := aside_closeByPeer _
    exact closed.after rfl rfl rfl rfl rfl
  | data bytes => exact ⟨rfl, rfl, rfl, rfl, fun _ => heeding⟩
  | controlHello peer => exact ⟨rfl, rfl, rfl, rfl, fun _ => heeding⟩
  | controlHelloAck peer => exact ⟨rfl, rfl, rfl, rfl, fun _ => heeding⟩

theorem trip_ping (here : heeds t.pc = true) (timer : Option Interval) (id : UInt32) :
    Trip t [id] [] (Task.pingPeer { t with
      conn := { t.conn with peerQueryActiveTimer := timer } } id) := by
  unfold Task.pingPeer
  rw [send_eq]
  exact .pings rfl rfl rfl (by simp [pingIds]) rfl rfl here

theorem hands_asks {event : TaskEvent} {p : Packet} (hands : Hands t event p m) :
    pingOf event = [] := by
  cases hands <;> rfl

theorem breaks_asks {event : TaskEvent} {e : ConnectionError} (breaks : Breaks t event e m) :
    pingOf event = [] := by
  cases breaks <;> rfl

theorem trip_ignores {event : TaskEvent} {p : Packet} (hands : Hands t event p m)
    (away : t.pc ≠ .select)
    (other : heeds t'.pc = true → pingIds [p] = [] ∧ pongIds [p] = []) (same : Aside m t') :
    Trip t (pingOf event) (handledBy t event) t' := by
  rw [hands_eq hands] at same
  exact .ignores (hands_asks hands) (handledBy_away away event) other
    (same.after rfl rfl rfl rfl rfl)

theorem trip_breaks {event : TaskEvent} {e : ConnectionError} (breaks : Breaks t event e m)
    (same : Aside m t') : Trip t (pingOf event) (handledBy t event) t' := by
  have none : handledBy t event = [] := by rw [handledBy, breaks_received breaks]
  rw [breaks_eq breaks] at same
  exact .aside (breaks_asks breaks) none (same.after rfl rfl rfl rfl rfl)

/-- One event of the task sends a ping, looks at a packet, or has no part in the round trips. -/
theorem step_trip {ch ch' : Channels} {event : TaskEvent} (user : UserRequests ch.requests)
    (step : t.step ch event = some (t', ch')) :
    Trip t (pingOf event) (handledBy t event) t' := by
  cases task_move step with
  | saysHello here =>
    exact .aside rfl rfl (aside_send rfl fun _ => by rw [here]; rfl)
  | awaitsHello here | spawns here =>
    exact .aside rfl rfl ⟨rfl, rfl, rfl, rfl, fun _ => by rw [here]; rfl⟩
  | entersRun here => exact trip_ping (by rw [here]; rfl) t.conn.peerQueryActiveTimer _
  | @writes n rest next here =>
    refine .aside rfl rfl ⟨rfl, rfl, rfl, rfl, ?_⟩
    rw [here]
    cases next <;> exact id
  | @resumes n rest next here =>
    have place : heeds (.sending [] next) = true → heeds t.pc = true := by
      rw [here]
      cases next <;> exact id
    exact .aside rfl rfl ((aside_resume (t := wroteBytes t (rest.take n)) place).after
      rfl rfl rfl rfl rfl)
  | closesStream => exact .aside rfl rfl ((aside_finishClose _ _).after rfl rfl rfl rfl rfl)
  | awaitsClose | deliversLate => exact .aside rfl rfl ⟨rfl, rfl, rfl, rfl, by simp [heeds]⟩
  | losesHello | losesSend | losesShutdown | givesUp | drops | finishes | aborts | undelivered
  | unanswered => exact .aside rfl rfl (aside_stops rfl)
  | shakeEof | runEof => exact .aside rfl rfl (aside_stops rfl)
  | shakeBreaks here breaks | runBreaks here breaks => exact trip_breaks breaks (aside_stops rfl)
  | closeBreaks here breaks => exact trip_breaks breaks (aside_finishClose _ _)
  | @reads chunk _ waits empty nonempty read bare =>
    have none : handledBy t (.read chunk) = [] := by
      simp [handledBy, received, nonempty, read, bare]
    exact .aside rfl none ⟨rfl, rfl, rfl, rfl, id⟩
  | acknowledged here hands =>
    refine trip_ignores hands (by simp [here]) (fun _ => ⟨rfl, rfl⟩) (aside_startTimers ?_ _)
    rw [hands_eq hands, withIo, here]
    rfl
  | greeted here hands =>
    refine trip_ignores hands (by simp [here]) (fun _ => ⟨rfl, rfl⟩) (aside_send rfl fun _ => ?_)
    rw [hands_eq hands, withIo, here]
    rfl
  | misgreeted here hands =>
    have away : t.pc ≠ .select := by rcases here with ⟨is, _⟩ | ⟨is, _⟩ <;> simp [is]
    exact trip_ignores hands away (by simp [Task.fail, heeds]) (aside_stops rfl)
  | @handles _ p u here hands =>
    have gives : handledBy t event = [p] := by
      rw [handledBy, hands_received hands]
      exact if_pos here
    rw [hands_eq hands]
    apply Trip.handles (hands_asks hands) gives
    · rw [here]
      rfl
    · have handled := aside_handlePacket (t := { withIo t u.conn.io with
        received := t.received ++ [p] }) here p
      have answers : ∀ io, (answered (withIo t io) p).pingTimers = (answered t p).pingTimers ∧
          (answered (withIo t io) p).latestRtt = (answered t p).latestRtt := answered_io t p
      obtain ⟨timers, rtt⟩ := answers u.conn.io
      exact handled.after rfl rfl timers rtt rfl
  | closeMeets here hands =>
    exact trip_ignores hands (by simp [here]) (by simp [heeds]) (aside_finishClose _ _)
  | closeGets here hands =>
    exact trip_ignores hands (by simp [here]) (by simp [heeds]) (aside_stops rfl)
  | closeSkips here other control hands =>
    refine trip_ignores hands (by simp [here]) ?_ ⟨rfl, rfl, rfl, rfl, id⟩
    rw [hands_eq hands, withIo, here]
    simp [heeds]
  | keepsAlive here =>
    have looping : heeds t.pc = true := by
      rw [here]
      rfl
    exact .aside rfl rfl (Aside.after (aside_send rfl fun _ => looping) rfl rfl rfl rfl rfl)
  | queries here => exact trip_ping (by rw [here]; rfl) _ _
  | timesOut | takesClose =>
    exact .aside rfl rfl ((aside_closeBySelf _ _).after rfl rfl rfl rfl rfl)
  | takesSend here queue =>
    obtain ⟨bytes, rfl⟩ := user_send user queue
    have looping : heeds t.pc = true := by
      rw [here]
      rfl
    exact .aside rfl rfl (Aside.after (aside_send rfl fun _ => looping) rfl rfl rfl rfl rfl)
  | takesGetStatus here =>
    exact .aside rfl rfl ⟨rfl, rfl, rfl, rfl, fun _ => by rw [here]; rfl⟩
  | drained => exact .aside rfl rfl (aside_send rfl (by simp [heeds]))
  | drainsClose =>
    exact .aside rfl rfl ((aside_send (p := .controlClose) rfl (by simp [heeds])).after
      rfl rfl rfl rfl rfl)
  | drainsSend here queue =>
    obtain ⟨bytes, rfl⟩ := user_send user queue
    exact .aside rfl rfl ((aside_send (p := .data bytes) rfl (by simp [heeds])).after
      rfl rfl rfl rfl rfl)
  | drainsGetStatus | passes => exact .aside rfl rfl ⟨rfl, rfl, rfl, rfl, id⟩
  | delivers here =>
    have looping : heeds t.pc = true := by
      rw [here]
      rfl
    exact .aside rfl rfl (Aside.after (aside_loopTop looping) rfl rfl rfl rfl rfl)
  | replies here =>
    apply Trip.aside rfl rfl (aside_loopTop _)
    rw [here]
    rfl

/-- Of the pings and pongs that have come, handle_packet has got the first ones, and all of
    them as long as run may come back to it. -/
structure Seen (handled : List Packet) (t : Task) : Prop where
  pings : pingIds handled <+: pingIds t.received
  pongs : pongIds handled <+: pongIds t.received
  all : heeds t.pc = true →
    pingIds handled = pingIds t.received ∧ pongIds handled = pongIds t.received

theorem step_seen {asked : List UInt32} {handled more : List Packet} (seen : Seen handled t)
    (trip : Trip t asked more t') : Seen (handled ++ more) t' := by
  cases trip with
  | aside unasked none same =>
    subst none
    rw [List.append_nil]
    refine ⟨?_, ?_, fun heeding => ?_⟩
    · rw [same.received]
      exact seen.pings
    · rw [same.received]
      exact seen.pongs
    · rw [same.received]
      exact seen.all (same.heeds heeding)
  | pings asks none received sent timers rtt heeding =>
    subst none
    rw [List.append_nil]
    refine ⟨?_, ?_, fun _ => ?_⟩
    · rw [received]
      exact seen.pings
    · rw [received]
      exact seen.pongs
    · rw [received]
      exact seen.all heeding
  | @handles p unasked gives heeding same =>
    subst gives
    obtain ⟨pings, pongs⟩ := seen.all heeding
    have both : pingIds (handled ++ [p]) = pingIds t'.received ∧
        pongIds (handled ++ [p]) = pongIds t'.received := by
      rw [same.received, pingIds_append, pongIds_append, pings, pongs, pingIds_append,
        pongIds_append]
      exact ⟨rfl, rfl⟩
    exact ⟨both.1 ▸ List.prefix_rfl, both.2 ▸ List.prefix_rfl, fun _ => both⟩
  | ignores unasked none other same =>
    subst none
    rw [List.append_nil]
    refine ⟨?_, ?_, fun heeding => ?_⟩
    · rw [same.received, pingIds_append]
      exact seen.pings.trans (List.prefix_append _ _)
    · rw [same.received, pongIds_append]
      exact seen.pongs.trans (List.prefix_append _ _)
    · obtain ⟨noPing, noPong⟩ := other heeding
      rw [same.received, pingIds_append, pongIds_append, noPing, noPong, List.append_nil,
        List.append_nil]
      exact seen.all (same.heeds heeding)

/-- ping_timers has the unanswered pings, latest_rtt the time of the last answered one. -/
structure Clocked (trips : Trips) (handled : List Packet) (t : Task) : Prop where
  pings : trips.pinged.map Prod.fst = pingIds t.sent
  pongs : trips.ponged.map Prod.fst = pongIds handled
  fewer : trips.ponged.length ≤ trips.pinged.length
  timers : t.conn.pingTimers = trips.unanswered.reverse
  distinct : (trips.unanswered.map Prod.fst).Nodup
  rtt : t.conn.latestRtt = trips.durations.getLast?

variable {trips : Trips} {handled more : List Packet}

theorem clocked_same (clocked : Clocked trips handled t) (none : pongIds more = [])
    (sent : pingIds t'.sent = pingIds t.sent) (timers : t'.conn.pingTimers = t.conn.pingTimers)
    (rtt : t'.conn.latestRtt = t.conn.latestRtt) : Clocked trips (handled ++ more) t' := by
  refine ⟨?_, ?_, clocked.fewer, ?_, clocked.distinct, ?_⟩
  · rw [sent, clocked.pings]
  · rw [pongIds_append, none, List.append_nil, clocked.pongs]
  · rw [timers, clocked.timers]
  · rw [rtt, clocked.rtt]

theorem durations_pinged {α β γ : Type} (f : α → β → γ) (xs : List α) (ys : List β) (x : α)
    (fewer : ys.length ≤ xs.length) : List.zipWith f (xs ++ [x]) ys = List.zipWith f xs ys := by
  induction xs generalizing ys with
  | nil =>
    cases ys with
    | nil => rfl
    | cons y ys => simp at fewer
  | cons x' xs ih =>
    cases ys with
    | nil => rfl
    | cons y ys =>
      have shorter : ys.length ≤ xs.length := by simpa using fewer
      simp only [List.cons_append, List.zipWith_cons_cons, ih ys shorter]

theorem clocked_ping (clocked : Clocked trips handled t) {id : UInt32}
    (fresh : id ∉ t.conn.pingTimers.map Prod.fst)
    (sent : pingIds t'.sent = pingIds t.sent ++ [id])
    (timers : t'.conn.pingTimers =
      (id, t.clock) :: t.conn.pingTimers.filter fun entry => entry.1 ≠ id)
    (rtt : t'.conn.latestRtt = t.conn.latestRtt) :
    Clocked { trips with pinged := trips.pinged ++ [(id, t.clock)] } handled t' := by
  have waiting : Trips.unanswered { trips with pinged := trips.pinged ++ [(id, t.clock)] } =
      trips.unanswered ++ [(id, t.clock)] := List.drop_append_of_le_length clocked.fewer
  have others : t.conn.pingTimers.filter (fun entry => entry.1 ≠ id) = t.conn.pingTimers := by
    apply List.filter_eq_self.mpr
    intro entry member
    apply decide_eq_true
    intro is
    exact fresh (List.mem_map.mpr ⟨entry, member, is⟩)
  rw [clocked.timers] at fresh
  refine ⟨?_, clocked.pongs, ?_, ?_, ?_, ?_⟩
  · rw [List.map_append, clocked.pings, sent]
    rfl
  · have fewer := clocked.fewer
    simp only [List.length_append]
    omega
  · rw [waiting, timers, others, clocked.timers, List.reverse_append]
    rfl
  · rw [waiting, List.map_append]
    apply List.nodup_append.mpr
    refine ⟨clocked.distinct, by simp, ?_⟩
    intro old member new is same
    apply fresh
    rw [List.map_reverse, List.mem_reverse]
    have here : new = id := by simpa using is
    rw [← here, ← same]
    exact member
  · rw [rtt, clocked.rtt]
    exact congrArg List.getLast? (durations_pinged _ _ _ _ clocked.fewer).symm

theorem answers_first {id : UInt32}
    (answers : trips.ponged.map Prod.fst ++ [id] <+: trips.pinged.map Prod.fst) :
    ∃ front sentTime rest, trips.pinged = front ++ (id, sentTime) :: rest ∧
      front.length = trips.ponged.length := by
  obtain ⟨later, is⟩ := answers
  rw [List.append_assoc, List.singleton_append] at is
  obtain ⟨front, back, split, early, late⟩ := List.map_eq_append_iff.mp is.symm
  obtain ⟨ping, rest, rfl, here, _⟩ := List.map_eq_cons_iff.mp late
  refine ⟨front, ping.2, rest, ?_, ?_⟩
  · rw [split, ← here]
  · have lengths := congrArg List.length early
    simpa using lengths

theorem clocked_pong (clocked : Clocked trips handled t) {id : UInt32}
    (answers : pongIds handled ++ [id] <+: pingIds t.sent)
    (sent : pingIds t'.sent = pingIds t.sent)
    (timers : t'.conn.pingTimers = (t.conn.pong id t.clock).pingTimers)
    (rtt : t'.conn.latestRtt = (t.conn.pong id t.clock).latestRtt) :
    Clocked { trips with ponged := trips.ponged ++ [(id, t.clock)] }
      (handled ++ [.controlPong id]) t' := by
  rw [← clocked.pongs, ← clocked.pings] at answers
  obtain ⟨front, sentTime, rest, split, first⟩ := answers_first answers
  have waiting : trips.unanswered = (id, sentTime) :: rest := by
    rw [Trips.unanswered, split, ← first, List.drop_left]
  have remaining : Trips.unanswered { trips with ponged := trips.ponged ++ [(id, t.clock)] } =
      rest := by
    have step : trips.pinged.drop (trips.ponged.length + 1) = trips.unanswered.drop 1 := by
      rw [Trips.unanswered, List.drop_drop]
    rw [waiting] at step
    simpa [Trips.unanswered] using step
  have distinct := clocked.distinct
  rw [waiting, List.map_cons, List.nodup_cons] at distinct
  obtain ⟨once, distinct⟩ := distinct
  have apart : ∀ entry ∈ rest.reverse, entry.1 ≠ id := by
    intro entry member is
    exact once (List.mem_map.mpr ⟨entry, List.mem_reverse.mp member, is⟩)
  have before : t.conn.pingTimers = rest.reverse ++ [(id, sentTime)] := by
    rw [clocked.timers, waiting, List.reverse_cons]
  have found : t.conn.pingTimers.find? (fun entry => entry.1 = id) = some (id, sentTime) := by
    rw [before, List.find?_append, List.find?_eq_none.mpr]
    · simp
    · intro entry member
      simpa using apart entry member
  have left : t.conn.pingTimers.filter (fun entry => entry.1 ≠ id) = rest.reverse := by
    rw [before, List.filter_append, List.filter_eq_self.mpr]
    · simp
    · intro entry member
      exact decide_eq_true (apart entry member)
  have pong : (t.conn.pong id t.clock).pingTimers = rest.reverse ∧
      (t.conn.pong id t.clock).latestRtt = some (t.clock - sentTime) := by
    simp only [Connection.pong, found]
    exact ⟨left, trivial⟩
  refine ⟨?_, ?_, ?_, ?_, ?_, ?_⟩
  · rw [sent]
    exact clocked.pings
  · rw [List.map_append, clocked.pongs, pongIds_append]
    rfl
  · dsimp only
    rw [split]
    simp only [List.length_append, List.length_cons, List.length_nil]
    omega
  · rw [remaining, timers, pong.1]
  · rw [remaining]
    exact distinct
  · rw [rtt, pong.2]
    simp only [Trips.durations, split]
    rw [List.zipWith_append first]
    simp

theorem step_clocked {event : TaskEvent} (clocked : Clocked trips handled t)
    (fresh : ∀ id ∈ pingOf event, id ∉ t.conn.pingTimers.map Prod.fst)
    (answers : pongIds (handled ++ handledBy t event) <+: pingIds t'.sent)
    (trip : Trip t (pingOf event) (handledBy t event) t') :
    Clocked (trips.note t event) (handled ++ handledBy t event) t' := by
  cases trip with
  | aside unasked none same =>
    have still : trips.note t event = trips := by
      simp [Trips.note, unasked, none, pongIds]
    rw [still, none]
    exact clocked_same clocked rfl same.pings same.timers same.rtt
  | @pings id asks none received sent timers rtt heeding =>
    have noted : trips.note t event = { trips with pinged := trips.pinged ++ [(id, t.clock)] } := by
      simp [Trips.note, asks, none, pongIds]
    rw [noted, none, List.append_nil]
    exact clocked_ping clocked (fresh id (by simp [asks])) sent timers rtt
  | @handles p unasked gives heeding same =>
    have sent : pingIds t'.sent = pingIds t.sent := same.pings
    rw [gives] at answers ⊢
    cases p with
    | controlPong id =>
      have noted : trips.note t event =
          { trips with ponged := trips.ponged ++ [(id, t.clock)] } := by
        simp [Trips.note, unasked, gives, pongIds]
      rw [pongIds_append, sent] at answers
      rw [noted]
      exact clocked_pong clocked answers sent same.timers same.rtt
    | _ =>
      have still : trips.note t event = trips := by
        simp [Trips.note, unasked, gives, pongIds]
      rw [still]
      exact clocked_same clocked rfl sent same.timers same.rtt
  | ignores unasked none other same =>
    have still : trips.note t event = trips := by
      simp [Trips.note, unasked, none, pongIds]
    rw [still, none]
    exact clocked_same clocked rfl same.pings same.timers same.rtt

theorem pingIds_prefix {ps qs : List Packet} (part : ps <+: qs) : pingIds ps <+: pingIds qs := by
  obtain ⟨later, rfl⟩ := part
  rw [pingIds_append]
  exact List.prefix_append _ _

theorem pongIds_prefix {ps qs : List Packet} (part : ps <+: qs) : pongIds ps <+: pongIds qs := by
  obtain ⟨later, rfl⟩ := part
  rw [pongIds_append]
  exact List.prefix_append _ _

theorem hearing_received {peer : Task} (hearing : Hearing t peer)
    (spoken : ∃ hello handled, Grammatical hello handled peer) : t.received <+: peer.sent := by
  have within := hearing.reads.trans (spoken_written spoken).1
  have part : t.received ++ t.conn.io.packetBuffer <+: peer.sent := by
    rw [agrees_within hearing.heard.agrees within]
    exact packetsWithin_prefix _ _
  exact (List.prefix_append _ _).trans part

structure Kept (trips : Trips) (t : Task) (hello : Packet) (handled : List Packet) : Prop where
  good : Grammatical hello handled t
  seen : Seen handled t
  clocked : Clocked trips handled t

theorem pongs_answer {x y : Task} {handledX handledY : List Packet} {helloY : Packet}
    (here : Hearing x y) (there : Hearing y x) (seenX : Seen handledX x) (seenY : Seen handledY y)
    (goodY : Grammatical helloY handledY y) : pongIds handledX <+: pingIds x.sent := by
  obtain ⟨stage, rest, saidY, fit⟩ := goodY
  calc pongIds handledX
    _ <+: pongIds x.received := seenX.pongs
    _ <+: pongIds y.sent := pongIds_prefix (hearing_received here there.spoken)
    _ = pingIds handledY := saidY.pongs
    _ <+: pingIds y.received := seenY.pings
    _ <+: pingIds x.sent := pingIds_prefix (hearing_received there here.spoken)

structure Tracked (m : Measured) : Prop where
  books : ∀ s, Books (m.pair.get s)
  line : ∀ s, Hearing (m.task s) (m.task s.other)
  kept : ∀ s, ∃ hello handled, Kept (m.trips s) (m.task s) hello handled

variable {m m' : Measured} {s : Side}

@[simp] theorem note_pair (m : Measured) (q : Pair) (s : Side) (event : TaskEvent) :
    (m.note q s event).pair = q := by
  cases s <;> rfl

@[simp] theorem note_trips (m : Measured) (q : Pair) (s : Side) (event : TaskEvent) :
    (m.note q s event).trips s = (m.trips s).note (m.task s) event := by
  cases s <;> rfl

@[simp] theorem note_trips_other (m : Measured) (q : Pair) (s : Side) (event : TaskEvent) :
    (m.note q s event).trips s.other = m.trips s.other := by
  cases s <;> rfl

theorem tracked_moved {e : Endpoint} (tracked : Tracked m) (pair : m'.pair = m.pair.set s e)
    (trips : m'.trips s.other = m.trips s.other) (books : Books e)
    (line : Line e.task (m.task s.other))
    (kept : ∃ hello handled, Kept (m'.trips s) e.task hello handled) : Tracked m' := by
  have here : m'.pair.get s = e := by rw [pair, get_set]
  have there : m'.pair.get s.other = m.pair.get s.other := by rw [pair, get_set_other]
  refine ⟨both_sides (s := s) ?_ ?_, both_sides (s := s) ?_ ?_, both_sides (s := s) ?_ ?_⟩
  · rw [here]
    exact books
  · rw [there]
    exact tracked.books s.other
  · rw [Measured.task, Measured.task, here, there]
    exact line.1
  · rw [Measured.task, Measured.task, other_other, here, there]
    exact line.2
  · rw [Measured.task, here]
    exact kept
  · rw [Measured.task, there, trips]
    exact tracked.kept s.other

theorem tracked_task {event : TaskEvent} {e : Endpoint} (tracked : Tracked m)
    (unrepeated : Unrepeated m (.on s (.task event))) (allowed : m.pair.allows s (.task event))
    (moved : (m.pair.get s).step (.task event) = some e) :
    Tracked (m.note (m.pair.set s e) s event) := by
  have books := tracked.books s
  have user := user_requests books
  have follows : Follows (m.task s) (m.task s.other) event := by
    cases event with
    | read chunk => exact allowed.1
    | _ => trivial
  have line : Line (m.task s) (m.task s.other) := by
    have back := tracked.line s.other
    rw [other_other] at back
    exact ⟨tracked.line s, back⟩
  have line' : Line e.task (m.task s.other) := line_task line user follows moved
  obtain ⟨t', ch', step, task, _⟩ := task_parts moved
  obtain ⟨hello, handled, kept⟩ := tracked.kept s
  obtain ⟨helloY, handledY, keptY⟩ := tracked.kept s.other
  have trip : Trip (m.task s) (pingOf event) (handledBy (m.task s) event) e.task := by
    rw [task]
    exact step_trip user step
  have seen := step_seen kept.seen trip
  have good : Grammatical hello (handled ++ handledBy (m.task s) event) e.task := by
    rw [task]
    exact step_grammatical kept.good user step
  have answers := pongs_answer line'.1 line'.2 seen keptY.seen keptY.good
  have clocked := step_clocked kept.clocked unrepeated answers trip
  apply tracked_moved tracked (note_pair _ _ _ _) (note_trips_other _ _ _ _)
  · exact step_books books moved
  · exact line'
  · rw [note_trips]
    exact ⟨hello, _, good, seen, clocked⟩

theorem tracked_pass (tracked : Tracked m) {q : Pair} (step : m.pair.step .pass = some q) :
    Tracked { m with pair := q } := by
  cases step
  refine ⟨fun s => ?_, fun s => ?_, fun s => ?_⟩
  · have books := tracked.books s
    cases s <;> exact ⟨books.requests, books.written, books.asked, books.packets, books.onlyData,
      books.finished, books.failures, books.closes⟩
  · obtain ⟨heard, ⟨hello, handled, good⟩, reads⟩ := tracked.line s
    have later : ∀ t : Task, Heard t → Heard { t with clock := t.clock + 1 } :=
      fun t heard => ⟨heard.agrees, heard.order, heard.whole⟩
    have still := grammatical_same (u := { m.task s with clock := (m.task s).clock + 1 }) good
      ⟨rfl, rfl, rfl, rfl⟩ rfl rfl
    cases s <;> exact ⟨later _ heard, ⟨hello, handled, still⟩, reads⟩
  · obtain ⟨hello, handled, good, seen, clocked⟩ := tracked.kept s
    have still := grammatical_same (u := { m.task s with clock := (m.task s).clock + 1 }) good
      ⟨rfl, rfl, rfl, rfl⟩ rfl rfl
    have later : Clocked (m.trips s) handled { m.task s with clock := (m.task s).clock + 1 } :=
      ⟨clocked.pings, clocked.pongs, clocked.fewer, clocked.timers, clocked.distinct, clocked.rtt⟩
    cases s <;> exact ⟨hello, handled, still, ⟨seen.pings, seen.pongs, seen.all⟩, later⟩

theorem step_tracked {event : PairEvent} (tracked : Tracked m) (unrepeated : Unrepeated m event)
    (step : m.step event = some m') : Tracked m' := by
  obtain ⟨q, moved, is⟩ := Option.map_eq_some_iff.mp step
  cases event with
  | pass =>
    subst is
    exact tracked_pass tracked moved
  | on s event =>
    obtain ⟨e, allowed, took, rfl⟩ := step_on moved
    by_cases mine : ∃ te, event = .task te
    · obtain ⟨te, rfl⟩ := mine
      subst is
      exact tracked_task tracked unrepeated allowed took
    · have call : ∀ te, event ≠ .task te := fun te is => mine ⟨te, is⟩
      have same : e.task = m.task s := call_task call took
      have still : { m with pair := m.pair.set s e } = m' := by
        cases event with
        | task te => exact absurd rfl (call te)
        | _ => exact is
      subst still
      refine tracked_moved (s := s) (e := e) tracked rfl ?_ (step_books (tracked.books s) took) ?_ ?_
      · cases s <;> rfl
      · have back := tracked.line s.other
        rw [other_other] at back
        rw [same]
        exact ⟨tracked.line s, back⟩
      · obtain ⟨hello, handled, kept⟩ := tracked.kept s
        rw [same]
        cases s <;> exact ⟨hello, handled, kept⟩

theorem new_tracked (device host : Config) (roomX roomY : Nat) :
    Tracked (Measured.new device host roomX roomY) := by
  have start : ∀ (c : Config) (role : ConnRole), ∃ hello handled,
      Kept {} (c.endpoint role).task hello handled := by
    intro c role
    refine ⟨_, _, (run_orderly (.refl _)).2, ⟨?_, ?_, ?_⟩, ⟨?_, ?_, ?_, ?_, ?_, ?_⟩⟩ <;>
      simp [Config.endpoint, Endpoint.new, pingIds, pongIds, Trips.unanswered, Trips.durations]
  refine ⟨fun s => ?_, fun s => ?_, fun s => ?_⟩
  · cases s <;> exact opened_books (new_opened _ _ _ _ _ _)
  · cases s <;> exact new_hearing
  · cases s
    · exact start device .device
    · exact start host .host

/-- Pongs come for the pings in their order. ping_timers has the pings that wait for theirs,
    with the times they were sent at, and latest_rtt is the time that the last answered one
    took, whatever else goes on between the endpoints and in whatever way they end. -/
theorem round_trips_measured {device host : Config} {roomX roomY : Nat}
    (run : Reaches Measured.step Unrepeated (Measured.new device host roomX roomY) m) (s : Side) :
    (m.trips s).pinged.map Prod.fst = pingIds (m.task s).sent ∧
      (m.trips s).ponged.map Prod.fst <+: (m.trips s).pinged.map Prod.fst ∧
      (∀ entry, entry ∈ (m.task s).conn.pingTimers ↔ entry ∈ (m.trips s).unanswered) ∧
      (m.task s).conn.latestRtt = (m.trips s).durations.getLast? := by
  have tracked := run.keeps (fun tracked ok step => step_tracked tracked ok step)
    (new_tracked device host roomX roomY)
  obtain ⟨hello, handled, good, seen, clocked⟩ := tracked.kept s
  obtain ⟨helloY, handledY, keptY⟩ := tracked.kept s.other
  have back := tracked.line s.other
  rw [other_other] at back
  refine ⟨clocked.pings, ?_, fun entry => ?_, clocked.rtt⟩
  · rw [clocked.pings, clocked.pongs]
    exact pongs_answer (tracked.line s) back seen keptY.seen keptY.good
  · rw [clocked.timers, List.mem_reverse]

/-- The host looks at the device's ping after 2 ms, the device at the pong after 3. -/
def latePong : List PairEvent :=
  intoRun ++ List.replicate 2 .pass ++
    [.on .y (.task (.read [0x4E, 0x43, 0x44, 0x01, 0x00, 0x04, 0x00, 0x05, 0, 0, 0, 0])),
      .on .y (.task (.wrote 12)), .pass,
      .on .x (.task (.read [0x4E, 0x43, 0x44, 0x01, 0x00, 0x04, 0x00, 0x05, 0, 0, 0, 0])),
      .on .x (.task (.wrote 12)),
      .on .x (.task (.read [0x4E, 0x43, 0x44, 0x01, 0x00, 0x04, 0x00, 0x06, 0, 0, 0, 0]))]

def afterPong : Measured :=
  (execIf Measured.step Unrepeated (Measured.new quick slow 64 64) latePong).getD
    (Measured.new quick slow 64 64)

theorem pong_measured : (afterPong.task .x).conn.latestRtt = some 3 ∧
    (afterPong.task .y).conn.latestRtt = none := by
  have reached : Reaches Measured.step Unrepeated (Measured.new quick slow 64 64) afterPong :=
    reaches_of_execIf latePong (by decide +kernel)
  rw [(round_trips_measured reached .x).2.2.2, (round_trips_measured reached .y).2.2.2]
  decide +kernel

end NcdRoundTrips
