import Ncd.Receiver

/- The task of one connection: handshake, the select! loop of run, handle_packet and
   both branches of close_inner. Every await is a point (Pc) at which the task rests; a
   TaskEvent is what lets it go on: the stream, a timer, a channel or the scheduler. -/
namespace NcdConnection
open NcdPacket NcdFrame NcdCodec NcdIoState NcdReceiver

inductive ConnRole where
  | host
  | device
  deriving DecidableEq, Repr

inductive ConnState where
  | connecting
  | connected
  | closed
  deriving DecidableEq, Repr

inductive ConnectionError where
  | io
  | protocolError (e : Error)
  | peerInactiveTimeout
  | unexpectedEOF
  | closeTimeout
  | peerClosed
  deriving DecidableEq, Repr

inductive ConnectionCreateError where
  | handshakeError (message : String)
  | packetTransferError (e : ConnectionError)
  deriving DecidableEq, Repr

structure SocketAddr where
  ip : List UInt8
  port : UInt16
  deriving DecidableEq, Repr

structure ConnStatus where
  state : ConnState
  latestRtt : Option Nat
  peerAddr : SocketAddr
  role : ConnRole
  deriving DecidableEq, Repr

inductive Request where
  | close
  | send (packet : Packet)
  | getStatus
  deriving DecidableEq, Repr

/-- tokio's Interval; times are milliseconds. -/
structure Interval where
  deadline : Nat
  period : Nat
  deriving DecidableEq, Repr

/-- time::interval panics on a zero period; the first tick is due at once. -/
def Interval.new (now period : Nat) : Option Interval :=
  if period = 0 then none else some { deadline := now, period := period }

def Interval.reset (timer : Interval) (now : Nat) : Interval :=
  { timer with deadline := now + timer.period }

def Interval.ready (timer : Interval) (now : Nat) : Prop := timer.deadline ≤ now

instance (timer : Interval) (now : Nat) : Decidable (timer.ready now) :=
  inferInstanceAs (Decidable (timer.deadline ≤ now))

/-- A tick that comes late does not move the following ones. -/
def Interval.tick (timer : Interval) : Interval :=
  { timer with deadline := timer.deadline + timer.period }

structure Connection where
  io : IoState := {}
  peerQueryActiveTimer : Option Interval := none
  peerActiveTimeoutTimer : Option Interval := none
  keepAliveTimer : Option Interval := none
  pingTimers : List (UInt32 × Nat) := []
  latestRtt : Option Nat := none
  timeoutMs : UInt32
  /-- (timeout_ms as f32 / keep_alive_factor) as u32 -/
  keepAliveIntervalMs : UInt32
  closeTimeoutMs : UInt32
  state : ConnState := .connecting
  peerAddr : SocketAddr
  role : ConnRole
  deriving DecidableEq, Repr

inductive PanicSite where
  | helloAfterHandshake
  | closeNotConnected
  | runEndNotClosed
  | switchToConnecting
  | timersMissing
  | packetChannelClosed
  | statusChannelClosed
  | sendAssertion
  | zeroInterval
  | addOverflow
  deriving DecidableEq, Repr

/-- Where the task goes on once send_packet has written its last byte. closing and the
    two marks below carry whether close_inner was called by the inactivity branch. -/
inductive Resume where
  | helloSent
  | ackSent (peerKeepAliveInterval : UInt32)
  | loop
  | drain
  | peerClosing
  | closing (inactive : Bool)
  deriving DecidableEq, Repr

inductive Pc where
  | start
  | awaitHelloAck
  | awaitHello
  | connected
  | spawned
  | select
  | sending (rest : List UInt8) (next : Resume)
  | delivering (data : List UInt8) (back : Option (Bool × Nat))
  | replying (status : ConnStatus)
  | draining
  | shuttingDown (inactive : Option Bool)
  | awaitClose (inactive : Bool) (deadline : Nat)
  | failed (e : ConnectionCreateError)
  | returned (result : Except ConnectionError Unit)
  | dropped (result : Except ConnectionError Unit)
  | finished (result : Except ConnectionError Unit)
  | panicked (site : PanicSite)
  | aborted
  deriving DecidableEq, Repr

/-- sent, received, taken and put only record what has happened: packets given to
    send_packet, packets recv_packet returned, requests taken from request_rx, messages
    put into the packet channel. No step looks at them. -/
structure Task where
  conn : Connection
  pc : Pc := .start
  clock : Nat := 0
  sent : List Packet := []
  received : List Packet := []
  taken : List Request := []
  put : List (List UInt8) := []
  deriving DecidableEq, Repr

/-- The three mpsc channels between the task and its handler. -/
structure Channels where
  capacity : Nat
  requests : List Request := []
  packets : List Packet := []
  statuses : List ConnStatus := []
  handlerAlive : Bool := true
  deriving DecidableEq, Repr

def Connection.status (c : Connection) : ConnStatus :=
  { state := c.state, latestRtt := c.latestRtt, peerAddr := c.peerAddr, role := c.role }

def Connection.switchTo (c : Connection) : ConnState → Except PanicSite Connection
  | .connecting => .error .switchToConnecting
  | .connected =>
    if c.keepAliveTimer.isSome ∧ c.peerQueryActiveTimer.isSome ∧
        c.peerActiveTimeoutTimer.isSome then .ok { c with state := .connected }
    else .error .timersMissing
  | .closed =>
    .ok { c with keepAliveTimer := none, peerQueryActiveTimer := none,
                 peerActiveTimeoutTimer := none, state := .closed }

def Task.panic (t : Task) (site : PanicSite) : Task := { t with pc := .panicked site }

def Task.send (t : Task) (packet : Packet) (next : Resume) : Task :=
  match sendBuffer packet with
  | none => t.panic .sendAssertion
  | some buf => { t with pc := .sending buf next, sent := t.sent ++ [packet] }

def Connection.startTimers (c : Connection) (now : Nat) (peerKeepAliveInterval : UInt32) :
    Except PanicSite Connection :=
  match Interval.new now peerKeepAliveInterval.toNat with
  | none => .error .zeroInterval
  | some keepAlive =>
    if 2 ^ 32 ≤ c.keepAliveIntervalMs.toNat + c.timeoutMs.toNat then .error .addOverflow
    else
      match Interval.new now ((c.keepAliveIntervalMs.toNat + c.timeoutMs.toNat) / 2) with
      | none => .error .zeroInterval
      | some query =>
        match Interval.new now c.timeoutMs.toNat with
        | none => .error .zeroInterval
        | some timeout =>
          { c with keepAliveTimer := some (keepAlive.reset now)
                   peerQueryActiveTimer := some (query.reset now)
                   peerActiveTimeoutTimer := some (timeout.reset now) }.switchTo .connected

def Task.startTimers (t : Task) (peerKeepAliveInterval : UInt32) : Task :=
  match t.conn.startTimers t.clock peerKeepAliveInterval with
  | .error site => t.panic site
  | .ok conn => { t with conn := conn, pc := .connected }

/-- The condition of run's while loop, and the assertion after the loop. -/
def Task.loopTop (t : Task) : Task :=
  if t.conn.state = .connected then { t with pc := .select }
  else if t.conn.state = .closed then { t with pc := .returned (.ok ()) }
  else t.panic .runEndNotClosed

def Task.resume (t : Task) : Resume → Task
  | .helloSent => { t with pc := .awaitHelloAck }
  | .ackSent peer => t.startTimers peer
  | .loop => t.loopTop
  | .drain => { t with pc := .draining }
  | .peerClosing => { t with pc := .shuttingDown none }
  | .closing inactive => { t with pc := .shuttingDown (some inactive) }

/-- close_inner(true): go to the drain loop. -/
def Task.closeByPeer (t : Task) : Task :=
  if t.conn.state ≠ .connected then t.panic .closeNotConnected
  else { t with pc := .draining }

/-- close_inner(false): announce the close. -/
def Task.closeBySelf (t : Task) (inactive : Bool) : Task :=
  if t.conn.state ≠ .connected then t.panic .closeNotConnected
  else t.send .controlClose (.closing inactive)

def Task.finishClose (t : Task) (result : Except ConnectionError Unit) : Task :=
  match t.conn.switchTo .closed with
  | .error site => t.panic site
  | .ok conn => { t with conn := conn, pc := .returned result }

def selfCloseResult (inactive : Bool) : Except ConnectionError Unit :=
  if inactive then .error .peerInactiveTimeout else .ok ()

def Task.pingPeer (t : Task) (id : UInt32) : Task :=
  { t with conn := { t.conn with pingTimers :=
      (id, t.clock) :: t.conn.pingTimers.filter fun entry => entry.1 ≠ id } }.send
    (.controlPing id) .loop

def Connection.resetTimers (c : Connection) (now : Nat) : Connection :=
  { c with peerActiveTimeoutTimer := c.peerActiveTimeoutTimer.map fun timer => timer.reset now
           peerQueryActiveTimer := c.peerQueryActiveTimer.map fun timer => timer.reset now }

def Connection.pong (c : Connection) (id : UInt32) (now : Nat) : Connection :=
  match c.pingTimers.find? fun entry => entry.1 = id with
  | some (_, sentTime) =>
    { c with pingTimers := c.pingTimers.filter fun entry => entry.1 ≠ id
             latestRtt := some (now - sentTime) }
  | none => c

def Task.handlePacket (t : Task) (packet : Packet) : Task :=
  let t := { t with conn := t.conn.resetTimers t.clock }
  match packet with
  | .controlPing id => t.send (.controlPong id) .loop
  | .controlPong id => { t with conn := t.conn.pong id t.clock }.loopTop
  | .controlKeepAlive => t.loopTop
  | .controlClose => t.closeByPeer
  | .data bytes => { t with pc := .delivering bytes none }
  | .controlHello _ => t.panic .helloAfterHandshake
  | .controlHelloAck _ => t.panic .helloAfterHandshake

def Task.fail (t : Task) (e : ConnectionCreateError) : Task := { t with pc := .failed e }

def wrongHello : ConnectionCreateError :=
  .handshakeError "Expected ControlHello packet, received different packet"

/-- recv_packet returned Ok(Some(packet)) to whoever awaits it. -/
def Task.gotPacket (t : Task) (packet : Packet) : Option Task :=
  let t := { t with received := t.received ++ [packet] }
  match t.pc with
  | .awaitHelloAck =>
    match packet with
    | .controlHelloAck peer => some (t.startTimers peer)
    | _ => some (t.fail wrongHello)
  | .awaitHello =>
    match packet with
    | .controlHello peer =>
      some (t.send (.controlHelloAck t.conn.keepAliveIntervalMs) (.ackSent peer))
    | _ => some (t.fail wrongHello)
  | .select => some (t.handlePacket packet)
  | .awaitClose inactive deadline =>
    match packet with
    | .controlClose => some (t.finishClose (selfCloseResult inactive))
    | .data bytes => some { t with pc := .delivering bytes (some (inactive, deadline)) }
    | _ => some t
  | _ => none

def Task.gotEof (t : Task) : Option Task :=
  match t.pc with
  | .awaitHelloAck => some (t.fail (.packetTransferError .unexpectedEOF))
  | .awaitHello => some (t.fail (.packetTransferError .unexpectedEOF))
  | .select => some { t with pc := .returned (.error .unexpectedEOF) }
  | .awaitClose _ _ => some { t with pc := .returned (.error .unexpectedEOF) }
  | _ => none

/-- recv_packet returned Err(e); the wait loop of close_inner takes it for the end. -/
def Task.gotError (t : Task) (e : ConnectionError) : Option Task :=
  match t.pc with
  | .awaitHelloAck => some (t.fail (.packetTransferError e))
  | .awaitHello => some (t.fail (.packetTransferError e))
  | .select => some { t with pc := .returned (.error e) }
  | .awaitClose inactive _ => some (t.finishClose (selfCloseResult inactive))
  | _ => none

def Task.popPacket (t : Task) : Option Task :=
  match t.conn.io.packetBuffer with
  | packet :: rest =>
    { t with conn := { t.conn with io := { t.conn.io with packetBuffer := rest } } }.gotPacket
      packet
  | [] => none

def Pc.receiving : Pc → Bool
  | .awaitHelloAck | .awaitHello | .select | .awaitClose _ _ => true
  | _ => false

/-- read_buf completes inside recv_packet: end of stream, or bytes to decode. -/
def Task.read (t : Task) (chunk : List UInt8) : Option Task :=
  if t.pc.receiving = false ∨ t.conn.io.packetBuffer ≠ [] then none
  else if chunk = [] then t.gotEof
  else
    match t.conn.io.readBytes chunk with
    | .error e =>
      { t with conn := { t.conn with io := { t.conn.io with stream := { t.conn.io.stream with
          consumed := t.conn.io.stream.consumed ++ chunk } } } }.gotError (.protocolError e)
    | .ok io =>
      let t := { t with conn := { t.conn with io := io } }
      if io.packetBuffer = [] then some t else t.popPacket

def Task.wrote (t : Task) (n : Nat) : Option Task :=
  match t.pc with
  | .sending rest next =>
    if n = 0 ∨ rest.length < n then none
    else
      let t := { t with conn := { t.conn with io := { t.conn.io with stream := { t.conn.io.stream with
        written := t.conn.io.stream.written ++ rest.take n } } } }
      if rest.drop n = [] then some (t.resume next)
      else some { t with pc := .sending (rest.drop n) next }
  | _ => none

def Task.ioError (t : Task) : Option Task :=
  match t.pc with
  | .sending _ .helloSent => some (t.fail (.packetTransferError .io))
  | .sending _ (.ackSent _) => some (t.fail (.packetTransferError .io))
  | .sending _ _ => some { t with pc := .returned (.error .io) }
  | .shuttingDown _ => some { t with pc := .returned (.error .io) }
  | _ => t.gotError .io

def Task.shutdown (t : Task) : Option Task :=
  let t' := { t with conn := { t.conn with io := { t.conn.io with stream := { t.conn.io.stream with
    shutdown := true } } } }
  match t.pc with
  | .shuttingDown none => some (t'.finishClose (.error .peerClosed))
  | .shuttingDown (some inactive) =>
    some { t' with pc := .awaitClose inactive (t.clock + t.conn.closeTimeoutMs.toNat) }
  | _ => none

/-- One of the three timer branches of select!, on the timer that became ready. -/
def Task.keepAliveTick (t : Task) : Option Task :=
  match t.pc, t.conn.keepAliveTimer with
  | .select, some timer =>
    if timer.ready t.clock then
      some ({ t with conn := { t.conn with keepAliveTimer := some timer.tick } }.send
        .controlKeepAlive .loop)
    else none
  | _, _ => none

def Task.queryActiveTick (t : Task) (id : UInt32) : Option Task :=
  match t.pc, t.conn.peerQueryActiveTimer with
  | .select, some timer =>
    if timer.ready t.clock then
      some ({ t with conn := { t.conn with peerQueryActiveTimer := some timer.tick } }.pingPeer id)
    else none
  | _, _ => none

def Task.activeTimeoutTick (t : Task) : Option Task :=
  match t.pc, t.conn.peerActiveTimeoutTimer with
  | .select, some timer =>
    if timer.ready t.clock then
      some ({ t with conn := { t.conn with
        peerActiveTimeoutTimer := some timer.tick } }.closeBySelf true)
    else none
  | _, _ => none

def Task.request (t : Task) (ch : Channels) : Option (Task × Channels) :=
  match t.pc, ch.requests with
  | .select, r :: rest =>
    let t := { t with taken := t.taken ++ [r] }
    let ch := { ch with requests := rest }
    match r with
    | .close => some (t.closeBySelf false, ch)
    | .send packet => some (t.send packet .loop, ch)
    | .getStatus => some ({ t with pc := .replying t.conn.status }, ch)
  | _, _ => none

/-- One round of the drain loop of close_inner(true). -/
def Task.tryRecv (t : Task) (ch : Channels) : Option (Task × Channels) :=
  match t.pc, ch.requests with
  | .draining, [] => some (t.send .controlClose .peerClosing, ch)
  | .draining, r :: rest =>
    let t := { t with taken := t.taken ++ [r] }
    let ch := { ch with requests := rest }
    match r with
    | .send packet => some (t.send packet .drain, ch)
    | .close => some (t.send .controlClose .peerClosing, ch)
    | .getStatus =>
      if ch.handlerAlive ∧ ch.statuses.length < ch.capacity then
        some (t, { ch with statuses := ch.statuses ++ [t.conn.status] })
      else some (t, ch)
  | _, _ => none

def Task.deliver (t : Task) (ch : Channels) : Option (Task × Channels) :=
  match t.pc with
  | .delivering bytes back =>
    if ch.handlerAlive = false then some (t.panic .packetChannelClosed, ch)
    else if ch.packets.length < ch.capacity then
      let t := { t with put := t.put ++ [bytes] }
      let ch := { ch with packets := ch.packets ++ [.data bytes] }
      match back with
      | none => some (t.loopTop, ch)
      | some (inactive, deadline) => some ({ t with pc := .awaitClose inactive deadline }, ch)
    else none
  | _ => none

def Task.reply (t : Task) (ch : Channels) : Option (Task × Channels) :=
  match t.pc with
  | .replying status =>
    if ch.handlerAlive = false then some (t.panic .statusChannelClosed, ch)
    else if ch.statuses.length < ch.capacity then
      some (t.loopTop, { ch with statuses := ch.statuses ++ [status] })
    else none
  | _ => none

/-- time::timeout around the wait loop; it also cancels a send to the packet channel. -/
def Task.closeTimeout (t : Task) : Option Task :=
  match t.pc with
  | .awaitClose _ deadline =>
    if deadline ≤ t.clock then some { t with pc := .returned (.error .closeTimeout) } else none
  | .delivering _ (some (_, deadline)) =>
    if deadline ≤ t.clock then some { t with pc := .returned (.error .closeTimeout) } else none
  | _ => none

def Task.begin (t : Task) : Option Task :=
  match t.pc with
  | .start =>
    match t.conn.role with
    | .device => some (t.send (.controlHello t.conn.keepAliveIntervalMs) .helloSent)
    | .host => some { t with pc := .awaitHello }
  | _ => none

/-- Between the end of run and the moment its JoinHandle sees it: the Connection is
    dropped, then the task is marked finished. -/
def Task.dropConn (t : Task) : Option Task :=
  match t.pc with
  | .returned result => some { t with pc := .dropped result }
  | _ => none

def Task.finish (t : Task) : Option Task :=
  match t.pc with
  | .dropped result => some { t with pc := .finished result }
  | _ => none

def Task.spawn (t : Task) : Option Task :=
  match t.pc with
  | .connected => some { t with pc := .spawned }
  | _ => none

def Task.enterRun (t : Task) (id : UInt32) : Option Task :=
  match t.pc with
  | .spawned => some (t.pingPeer id)
  | _ => none

inductive TaskEvent where
  | begin
  | spawn
  | enterRun (id : UInt32)
  | wrote (n : Nat)
  | shutdown
  | ioError
  | read (chunk : List UInt8)
  | packet
  | keepAliveTick
  | queryActiveTick (id : UInt32)
  | activeTimeoutTick
  | request
  | tryRecv
  | deliver
  | reply
  | closeTimeout
  | dropConn
  | finish
  | abort
  | pass
  deriving DecidableEq, Repr

def Task.step (t : Task) (ch : Channels) : TaskEvent → Option (Task × Channels)
  | .begin => t.begin.map (·, ch)
  | .spawn => t.spawn.map (·, ch)
  | .enterRun id => (t.enterRun id).map (·, ch)
  | .wrote n => (t.wrote n).map (·, ch)
  | .shutdown => t.shutdown.map (·, ch)
  | .ioError => t.ioError.map (·, ch)
  | .read chunk => (t.read chunk).map (·, ch)
  | .packet => if t.pc.receiving then t.popPacket.map (·, ch) else none
  | .keepAliveTick => t.keepAliveTick.map (·, ch)
  | .queryActiveTick id => (t.queryActiveTick id).map (·, ch)
  | .activeTimeoutTick => t.activeTimeoutTick.map (·, ch)
  | .request => t.request ch
  | .tryRecv => t.tryRecv ch
  | .deliver => t.deliver ch
  | .reply => t.reply ch
  | .closeTimeout => t.closeTimeout.map (·, ch)
  | .dropConn => t.dropConn.map (·, ch)
  | .finish => t.finish.map (·, ch)
  | .abort => if ch.handlerAlive then none else some ({ t with pc := .aborted }, ch)
  | .pass => some ({ t with clock := t.clock + 1 }, ch)

end NcdConnection
