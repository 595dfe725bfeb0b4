import Ncd.Connection

/- The step function of the connection task, turned round: for every event the places it can
   happen at, what it looks at there and what it leaves. -/
namespace NcdTaskMoves
open NcdPacket NcdFrame NcdIoState NcdConnection

def tookBytes (t : Task) (chunk : List UInt8) : Task :=
  { t with conn := { t.conn with io := { t.conn.io with stream := { t.conn.io.stream with
      consumed := t.conn.io.stream.consumed ++ chunk } } } }

def wroteBytes (t : Task) (bytes : List UInt8) : Task :=
  { t with conn := { t.conn with io := { t.conn.io with stream := { t.conn.io.stream with
      written := t.conn.io.stream.written ++ bytes } } } }

def shutStream (t : Task) : Task :=
  { t with conn := { t.conn with io := { t.conn.io with stream := { t.conn.io.stream with
      shutdown := true } } } }

def withIo (t : Task) (io : IoState) : Task := { t with conn := { t.conn with io := io } }

/-- recv_packet returns an error other than the end of the stream. -/
inductive Breaks (t : Task) : TaskEvent → ConnectionError → Task → Prop where
  | io : Breaks t .ioError .io t
  | garbled {chunk : List UInt8} {e : Error} (waits : t.pc.receiving = true)
      (empty : t.conn.io.packetBuffer = []) (nonempty : chunk ≠ [])
      (bad : t.conn.io.readBytes chunk = .error e) :
      Breaks t (.read chunk) (.protocolError e) (tookBytes t chunk)

inductive Hands (t : Task) : TaskEvent → Packet → Task → Prop where
  | buffered {p : Packet} {rest : List Packet} (buffer : t.conn.io.packetBuffer = p :: rest) :
      Hands t .packet p
        { withIo t { t.conn.io with packetBuffer := rest } with received := t.received ++ [p] }
  | read {chunk : List UInt8} {io : IoState} {p : Packet} {rest : List Packet}
      (empty : t.conn.io.packetBuffer = []) (nonempty : chunk ≠ [])
      (read : t.conn.io.readBytes chunk = .ok io) (buffer : io.packetBuffer = p :: rest) :
      Hands t (.read chunk) p
        { withIo t { io with packetBuffer := rest } with received := t.received ++ [p] }

/-- Everything that one step of the task can be. -/
inductive TaskMove (t : Task) (ch : Channels) : TaskEvent → Task → Channels → Prop where
  | saysHello (here : t.pc = .start) (role : t.conn.role = .device) :
      TaskMove t ch .begin (t.send (.controlHello t.conn.keepAliveIntervalMs) .helloSent) ch
  | awaitsHello (here : t.pc = .start) (role : t.conn.role = .host) :
      TaskMove t ch .begin { t with pc := .awaitHello } ch
  | spawns (here : t.pc = .connected) : TaskMove t ch .spawn { t with pc := .spawned } ch
  | entersRun {id : UInt32} (here : t.pc = .spawned) :
      TaskMove t ch (.enterRun id) (t.pingPeer id) ch
  | writes {n : Nat} {rest : List UInt8} {next : Resume} (here : t.pc = .sending rest next)
      (positive : 0 < n) (fits : n ≤ rest.length) (more : rest.drop n ≠ []) :
      TaskMove t ch (.wrote n)
        { wroteBytes t (rest.take n) with pc := .sending (rest.drop n) next } ch
  | resumes {n : Nat} {rest : List UInt8} {next : Resume} (here : t.pc = .sending rest next)
      (positive : 0 < n) (fits : n ≤ rest.length) (all : rest.drop n = []) :
      TaskMove t ch (.wrote n) ((wroteBytes t (rest.take n)).resume next) ch
  | closesStream (here : t.pc = .shuttingDown none) :
      TaskMove t ch .shutdown ((shutStream t).finishClose (.error .peerClosed)) ch
  | awaitsClose {inactive : Bool} (here : t.pc = .shuttingDown (some inactive)) :
      TaskMove t ch .shutdown { shutStream t with
        pc := .awaitClose inactive (t.clock + t.conn.closeTimeoutMs.toNat) } ch
  | losesHello {rest : List UInt8} {next : Resume} (here : t.pc = .sending rest next)
      (shaking : next = .helloSent ∨ ∃ peer, next = .ackSent peer) :
      TaskMove t ch .ioError (t.fail (.packetTransferError .io)) ch
  | losesSend {rest : List UInt8} {next : Resume} (here : t.pc = .sending rest next)
      (running : next ≠ .helloSent ∧ ∀ peer, next ≠ .ackSent peer) :
      TaskMove t ch .ioError { t with pc := .returned (.error .io) } ch
  | losesShutdown {inactive : Option Bool} (here : t.pc = .shuttingDown inactive) :
      TaskMove t ch .ioError { t with pc := .returned (.error .io) } ch
  | shakeBreaks {event : TaskEvent} {e : ConnectionError} {u : Task}
      (here : t.pc = .awaitHelloAck ∨ t.pc = .awaitHello) (breaks : Breaks t event e u) :
      TaskMove t ch event (u.fail (.packetTransferError e)) ch
  | runBreaks {event : TaskEvent} {e : ConnectionError} {u : Task} (here : t.pc = .select)
      (breaks : Breaks t event e u) :
      TaskMove t ch event { u with pc := .returned (.error e) } ch
  | closeBreaks {event : TaskEvent} {e : ConnectionError} {u : Task} {inactive : Bool}
      {deadline : Nat} (here : t.pc = .awaitClose inactive deadline) (breaks : Breaks t event e u) :
      TaskMove t ch event (u.finishClose (selfCloseResult inactive)) ch
  | shakeEof (here : t.pc = .awaitHelloAck ∨ t.pc = .awaitHello)
      (empty : t.conn.io.packetBuffer = []) :
      TaskMove t ch (.read []) (t.fail (.packetTransferError .unexpectedEOF)) ch
  | runEof (here : t.pc = .select ∨ ∃ inactive deadline, t.pc = .awaitClose inactive deadline)
      (empty : t.conn.io.packetBuffer = []) :
      TaskMove t ch (.read []) { t with pc := .returned (.error .unexpectedEOF) } ch
  | reads {chunk : List UInt8} {io : IoState} (waits : t.pc.receiving = true)
      (empty : t.conn.io.packetBuffer = []) (nonempty : chunk ≠ [])
      (read : t.conn.io.readBytes chunk = .ok io) (bare : io.packetBuffer = []) :
      TaskMove t ch (.read chunk) (withIo t io) ch
  | acknowledged {event : TaskEvent} {peer : UInt32} {u : Task} (here : t.pc = .awaitHelloAck)
      (hands : Hands t event (.controlHelloAck peer) u) :
      TaskMove t ch event (u.startTimers peer) ch
  | greeted {event : TaskEvent} {peer : UInt32} {u : Task} (here : t.pc = .awaitHello)
      (hands : Hands t event (.controlHello peer) u) :
      TaskMove t ch event
        (u.send (.controlHelloAck u.conn.keepAliveIntervalMs) (.ackSent peer)) ch
  | misgreeted {event : TaskEvent} {p : Packet} {u : Task}
      (here : t.pc = .awaitHelloAck ∧ (∀ peer, p ≠ .controlHelloAck peer) ∨
        t.pc = .awaitHello ∧ ∀ peer, p ≠ .controlHello peer)
      (hands : Hands t event p u) : TaskMove t ch event (u.fail wrongHello) ch
  | handles {event : TaskEvent} {p : Packet} {u : Task} (here : t.pc = .select)
      (hands : Hands t event p u) : TaskMove t ch event (u.handlePacket p) ch
  | closeMeets {event : TaskEvent} {u : Task} {inactive : Bool} {deadline : Nat}
      (here : t.pc = .awaitClose inactive deadline) (hands : Hands t event .controlClose u) :
      TaskMove t ch event (u.finishClose (selfCloseResult inactive)) ch
  | closeGets {event : TaskEvent} {bytes : List UInt8} {u : Task} {inactive : Bool}
      {deadline : Nat} (here : t.pc = .awaitClose inactive deadline)
      (hands : Hands t event (.data bytes) u) :
      TaskMove t ch event { u with pc := .delivering bytes (some (inactive, deadline)) } ch
  | closeSkips {event : TaskEvent} {p : Packet} {u : Task} {inactive : Bool} {deadline : Nat}
      (here : t.pc = .awaitClose inactive deadline) (other : p ≠ .controlClose)
      (control : ∀ bytes, p ≠ .data bytes) (hands : Hands t event p u) : TaskMove t ch event u ch
  | keepsAlive {timer : Interval} (here : t.pc = .select)
      (running : t.conn.keepAliveTimer = some timer) (ready : timer.ready t.clock) :
      TaskMove t ch .keepAliveTick ({ t with conn := { t.conn with
        keepAliveTimer := some timer.tick } }.send .controlKeepAlive .loop) ch
  | queries {id : UInt32} {timer : Interval} (here : t.pc = .select)
      (running : t.conn.peerQueryActiveTimer = some timer) (ready : timer.ready t.clock) :
      TaskMove t ch (.queryActiveTick id) ({ t with conn := { t.conn with
        peerQueryActiveTimer := some timer.tick } }.pingPeer id) ch
  | timesOut {timer : Interval} (here : t.pc = .select)
      (running : t.conn.peerActiveTimeoutTimer = some timer) (ready : timer.ready t.clock) :
      TaskMove t ch .activeTimeoutTick ({ t with conn := { t.conn with
        peerActiveTimeoutTimer := some timer.tick } }.closeBySelf true) ch
  | takesClose {rest : List Request} (here : t.pc = .select)
      (queue : ch.requests = .close :: rest) :
      TaskMove t ch .request ({ t with taken := t.taken ++ [Request.close] }.closeBySelf false)
        { ch with requests := rest }
  | takesSend {p : Packet} {rest : List Request} (here : t.pc = .select)
      (queue : ch.requests = .send p :: rest) :
      TaskMove t ch .request ({ t with taken := t.taken ++ [Request.send p] }.send p .loop)
        { ch with requests := rest }
  | takesGetStatus {rest : List Request} (here : t.pc = .select)
      (queue : ch.requests = .getStatus :: rest) :
      TaskMove t ch .request
        { t with taken := t.taken ++ [.getStatus], pc := .replying t.conn.status }
        { ch with requests := rest }
  | drained (here : t.pc = .draining) (queue : ch.requests = []) :
      TaskMove t ch .tryRecv (t.send .controlClose .peerClosing) ch
  | drainsClose {rest : List Request} (here : t.pc = .draining)
      (queue : ch.requests = .close :: rest) :
      TaskMove t ch .tryRecv
        ({ t with taken := t.taken ++ [Request.close] }.send .controlClose .peerClosing)
        { ch with requests := rest }
  | drainsSend {p : Packet} {rest : List Request} (here : t.pc = .draining)
      (queue : ch.requests = .send p :: rest) :
      TaskMove t ch .tryRecv ({ t with taken := t.taken ++ [Request.send p] }.send p .drain)
        { ch with requests := rest }
  | drainsGetStatus {rest : List Request} {statuses : List ConnStatus} (here : t.pc = .draining)
      (queue : ch.requests = .getStatus :: rest) :
      TaskMove t ch .tryRecv { t with taken := t.taken ++ [.getStatus] }
        { ch with requests := rest, statuses := statuses }
  | undelivered {bytes : List UInt8} {back : Option (Bool × Nat)}
      (here : t.pc = .delivering bytes back) (dead : ch.handlerAlive = false) :
      TaskMove t ch .deliver (t.panic .packetChannelClosed) ch
  | delivers {bytes : List UInt8} (here : t.pc = .delivering bytes none)
      (alive : ch.handlerAlive = true) (room : ch.packets.length < ch.capacity) :
      TaskMove t ch .deliver { t with put := t.put ++ [bytes] }.loopTop
        { ch with packets := ch.packets ++ [.data bytes] }
  | deliversLate {bytes : List UInt8} {inactive : Bool} {deadline : Nat}
      (here : t.pc = .delivering bytes (some (inactive, deadline)))
      (alive : ch.handlerAlive = true) (room : ch.packets.length < ch.capacity) :
      TaskMove t ch .deliver
        { t with put := t.put ++ [bytes], pc := .awaitClose inactive deadline }
        { ch with packets := ch.packets ++ [.data bytes] }
  | unanswered {status : ConnStatus} (here : t.pc = .replying status)
      (dead : ch.handlerAlive = false) :
      TaskMove t ch .reply (t.panic .statusChannelClosed) ch
  | replies {status : ConnStatus} (here : t.pc = .replying status)
      (alive : ch.handlerAlive = true) (room : ch.statuses.length < ch.capacity) :
      TaskMove t ch .reply t.loopTop { ch with statuses := ch.statuses ++ [status] }
  | givesUp {inactive : Bool} {deadline : Nat}
      (here : t.pc = .awaitClose inactive deadline ∨
        ∃ bytes, t.pc = .delivering bytes (some (inactive, deadline)))
      (due : deadline ≤ t.clock) :
      TaskMove t ch .closeTimeout { t with pc := .returned (.error .closeTimeout) } ch
  | drops {result : Except ConnectionError Unit} (here : t.pc = .returned result) :
      TaskMove t ch .dropConn { t with pc := .dropped result } ch
  | finishes {result : Except ConnectionError Unit} (here : t.pc = .dropped result) :
      TaskMove t ch .finish { t with pc := .finished result } ch
  | aborts (dead : ch.handlerAlive = false) : TaskMove t ch .abort { t with pc := .aborted } ch
  | passes : TaskMove t ch .pass { t with clock := t.clock + 1 } ch

variable {t t' : Task} {ch ch' : Channels} {event : TaskEvent}

theorem only_task {o : Option Task} (step : o.map (·, ch) = some (t', ch')) :
    o = some t' ∧ ch' = ch := by
  simp only [Option.map_eq_some_iff, Prod.mk.injEq] at step
  obtain ⟨_, found, rfl, rfl⟩ := step
  exact ⟨found, rfl⟩

theorem begin_move (begun : t.begin = some t') : TaskMove t ch .begin t' ch := by
  unfold Task.begin at begun
  split at begun
  · rename_i here
    split at begun <;> cases begun
    · rename_i role
      exact .saysHello here role
    · rename_i role
      exact .awaitsHello here role
  · cases begun

theorem wrote_move {n : Nat} (wrote : t.wrote n = some t') : TaskMove t ch (.wrote n) t' ch := by
  unfold Task.wrote at wrote
  split at wrote
  · rename_i rest next here
    split at wrote
    · cases wrote
    · rename_i fits
      have some : 0 < n := by omega
      split at wrote <;> cases wrote
      · rename_i all
        exact .resumes here some (by omega) all
      · rename_i more
        exact .writes here some (by omega) more
  · cases wrote

theorem shutdown_move (down : t.shutdown = some t') : TaskMove t ch .shutdown t' ch := by
  unfold Task.shutdown at down
  dsimp only at down
  split at down <;> cases down
  · rename_i here
    exact .closesStream here
  · rename_i inactive here
    exact .awaitsClose here

theorem gotError_move {e : ConnectionError} {u : Task} (breaks : Breaks t event e u)
    (same : u.pc = t.pc) (got : u.gotError e = some t') : TaskMove t ch event t' ch := by
  unfold Task.gotError at got
  split at got <;> cases got
  · rename_i here
    exact .shakeBreaks (.inl (same ▸ here)) breaks
  · rename_i here
    exact .shakeBreaks (.inr (same ▸ here)) breaks
  · rename_i here
    exact .runBreaks (same ▸ here) breaks
  · rename_i inactive deadline here
    exact .closeBreaks (same ▸ here) breaks

theorem ioError_move (failed : t.ioError = some t') : TaskMove t ch .ioError t' ch := by
  unfold Task.ioError at failed
  split at failed
  · rename_i rest here
    cases failed
    exact .losesHello here (.inl rfl)
  · rename_i rest peer here
    cases failed
    exact .losesHello here (.inr ⟨peer, rfl⟩)
  · rename_i rest next hello ack here
    cases failed
    exact .losesSend here ⟨hello, ack⟩
  · rename_i inactive here
    cases failed
    exact .losesShutdown here
  · exact gotError_move .io rfl failed

theorem gotEof_move (empty : t.conn.io.packetBuffer = []) (got : t.gotEof = some t') :
    TaskMove t ch (.read []) t' ch := by
  unfold Task.gotEof at got
  split at got <;> cases got
  · rename_i here
    exact .shakeEof (.inl here) empty
  · rename_i here
    exact .shakeEof (.inr here) empty
  · rename_i here
    exact .runEof (.inl here) empty
  · rename_i inactive deadline here
    exact .runEof (.inr ⟨inactive, deadline, here⟩) empty

theorem gotPacket_move {p : Packet} {v : Task} (same : v.pc = t.pc)
    (hands : Hands t event p { v with received := v.received ++ [p] })
    (got : v.gotPacket p = some t') : TaskMove t ch event t' ch := by
  unfold Task.gotPacket at got
  dsimp only at got
  split at got <;> rename_i here <;> rw [same] at here
  · split at got <;> cases got
    · exact .acknowledged here hands
    · rename_i other
      exact .misgreeted (.inl ⟨here, other⟩) hands
  · split at got <;> cases got
    · exact .greeted here hands
    · rename_i other
      exact .misgreeted (.inr ⟨here, other⟩) hands
  · cases got
    exact .handles here hands
  · split at got <;> cases got
    · exact .closeMeets here hands
    · exact .closeGets here hands
    · rename_i other control
      exact .closeSkips here other control hands
  · cases got

theorem packet_move (got : t.popPacket = some t') : TaskMove t ch .packet t' ch := by
  unfold Task.popPacket at got
  split at got
  · rename_i p rest buffer
    exact gotPacket_move (v := withIo t { t.conn.io with packetBuffer := rest }) rfl
      (.buffered buffer) got
  · cases got

theorem read_move {chunk : List UInt8} (read : t.read chunk = some t') :
    TaskMove t ch (.read chunk) t' ch := by
  unfold Task.read at read
  split at read
  · cases read
  · rename_i polled
    simp only [not_or, Bool.not_eq_false, not_not] at polled
    obtain ⟨waits, empty⟩ := polled
    split at read
    · rename_i eof
      subst eof
      exact gotEof_move empty read
    · rename_i some
      split at read
      · rename_i e bad
        exact gotError_move (.garbled waits empty some bad) rfl read
      · rename_i io bytes
        dsimp only at read
        split at read
        · rename_i none
          cases read
          exact .reads waits empty some bytes none
        · unfold Task.popPacket at read
          dsimp only at read
          split at read
          · rename_i p rest buffer
            exact gotPacket_move (v := withIo t { io with packetBuffer := rest }) rfl
              (.read empty some bytes buffer) read
          · cases read

theorem keepAliveTick_move (ticked : t.keepAliveTick = some t') :
    TaskMove t ch .keepAliveTick t' ch := by
  unfold Task.keepAliveTick at ticked
  split at ticked
  · rename_i timer here running
    split at ticked <;> cases ticked
    rename_i ready
    exact .keepsAlive here running ready
  · cases ticked

theorem queryActiveTick_move {id : UInt32} (ticked : t.queryActiveTick id = some t') :
    TaskMove t ch (.queryActiveTick id) t' ch := by
  unfold Task.queryActiveTick at ticked
  split at ticked
  · rename_i timer here running
    split at ticked <;> cases ticked
    rename_i ready
    exact .queries here running ready
  · cases ticked

theorem activeTimeoutTick_move (ticked : t.activeTimeoutTick = some t') :
    TaskMove t ch .activeTimeoutTick t' ch := by
  unfold Task.activeTimeoutTick at ticked
  split at ticked
  · rename_i timer here running
    split at ticked <;> cases ticked
    rename_i ready
    exact .timesOut here running ready
  · cases ticked

theorem request_move (asked : t.request ch = some (t', ch')) :
    TaskMove t ch .request t' ch' := by
  unfold Task.request at asked
  split at asked
  · rename_i r rest here queue
    cases r with
    | close =>
      cases asked
      exact .takesClose here queue
    | send p =>
      cases asked
      exact .takesSend here queue
    | getStatus =>
      cases asked
      exact .takesGetStatus here queue
  · cases asked

theorem tryRecv_move (tried : t.tryRecv ch = some (t', ch')) :
    TaskMove t ch .tryRecv t' ch' := by
  unfold Task.tryRecv at tried
  split at tried
  · rename_i here queue
    cases tried
    exact .drained here queue
  · rename_i r rest here queue
    cases r with
    | close =>
      cases tried
      exact .drainsClose here queue
    | send p =>
      cases tried
      exact .drainsSend here queue
    | getStatus =>
      dsimp only at tried
      split at tried <;> cases tried
      · exact .drainsGetStatus here queue
      · exact .drainsGetStatus here queue
  · cases tried

theorem deliver_move (delivered : t.deliver ch = some (t', ch')) :
    TaskMove t ch .deliver t' ch' := by
  unfold Task.deliver at delivered
  split at delivered
  · rename_i bytes back here
    split at delivered
    · rename_i dead
      cases delivered
      exact .undelivered here dead
    · rename_i present
      have alive : ch.handlerAlive = true := by simpa using present
      split at delivered
      · rename_i room
        cases back with
        | none =>
          cases delivered
          exact .delivers here alive room
        | some waiting =>
          cases delivered
          exact .deliversLate here alive room
      · cases delivered
  · cases delivered

theorem reply_move (replied : t.reply ch = some (t', ch')) : TaskMove t ch .reply t' ch' := by
  unfold Task.reply at replied
  split at replied
  · rename_i status here
    split at replied
    · rename_i dead
      cases replied
      exact .unanswered here dead
    · rename_i present
      have alive : ch.handlerAlive = true := by simpa using present
      split at replied <;> cases replied
      rename_i room
      exact .replies here alive room
  · cases replied

theorem closeTimeout_move (late : t.closeTimeout = some t') :
    TaskMove t ch .closeTimeout t' ch := by
  unfold Task.closeTimeout at late
  split at late
  · rename_i here
    split at late <;> cases late
    rename_i due
    exact .givesUp (.inl here) due
  · rename_i bytes inactive deadline here
    split at late <;> cases late
    rename_i due
    exact .givesUp (.inr ⟨bytes, here⟩) due
  · cases late

theorem task_move (step : t.step ch event = some (t', ch')) : TaskMove t ch event t' ch' := by
  have only : ∀ {o : Option Task}, (∀ {u}, o = some u → TaskMove t ch event u ch) →
      o.map (·, ch) = some (t', ch') → TaskMove t ch event t' ch' := by
    intro o moves mapped
    obtain ⟨found, rfl⟩ := only_task mapped
    exact moves found
  cases event with
  | begin => exact only begin_move step
  | spawn =>
    refine only (fun {u} spawned => ?_) step
    unfold NcdConnection.Task.spawn at spawned
    split at spawned <;> cases spawned
    rename_i here
    exact .spawns here
  | enterRun id =>
    refine only (fun {u} entered => ?_) step
    unfold Task.enterRun at entered
    split at entered <;> cases entered
    rename_i here
    exact .entersRun here
  | wrote n => exact only wrote_move step
  | shutdown => exact only shutdown_move step
  | ioError => exact only ioError_move step
  | read chunk => exact only read_move step
  | packet =>
    simp only [Task.step] at step
    split at step
    · exact only packet_move step
    · cases step
  | keepAliveTick => exact only keepAliveTick_move step
  | queryActiveTick id => exact only queryActiveTick_move step
  | activeTimeoutTick => exact only activeTimeoutTick_move step
  | request => exact request_move step
  | tryRecv => exact tryRecv_move step
  | deliver => exact deliver_move step
  | reply => exact reply_move step
  | closeTimeout => exact only closeTimeout_move step
  | dropConn =>
    refine only (fun {u} dropped => ?_) step
    unfold Task.dropConn at dropped
    split at dropped <;> cases dropped
    rename_i here
    exact .drops here
  | finish =>
    refine only (fun {u} finished => ?_) step
    unfold Task.finish at finished
    split at finished <;> cases finished
    rename_i here
    exact .finishes here
  | abort =>
    simp only [Task.step] at step
    split at step <;> cases step
    rename_i present
    exact .aborts (by simpa using present)
  | pass =>
    cases step
    exact .passes

theorem breaks_eq {e : ConnectionError} {u : Task} (breaks : Breaks t event e u) :
    u = withIo t u.conn.io := by
  cases breaks <;> rfl

theorem breaks_sent {e : ConnectionError} {u : Task} (breaks : Breaks t event e u) :
    u.sent = t.sent := by
  cases breaks <;> rfl

theorem breaks_taken {e : ConnectionError} {u : Task} (breaks : Breaks t event e u) :
    u.taken = t.taken := by
  cases breaks <;> rfl

theorem hands_eq {p : Packet} {u : Task} (hands : Hands t event p u) :
    u = { withIo t u.conn.io with received := t.received ++ [p] } := by
  cases hands <;> rfl

theorem hands_sent {p : Packet} {u : Task} (hands : Hands t event p u) : u.sent = t.sent := by
  cases hands <;> rfl

theorem hands_taken {p : Packet} {u : Task} (hands : Hands t event p u) :
    u.taken = t.taken := by
  cases hands <;> rfl

theorem read_polled {chunk : List UInt8} (step : t.step ch (.read chunk) = some (t', ch')) :
    t.pc.receiving = true ∧ t.conn.io.packetBuffer = [] := by
  have read := (only_task step).1
  unfold Task.read at read
  split at read
  · cases read
  · rename_i polled
    rwa [not_or, not_not, Bool.not_eq_false] at polled

/-- The events that a place of the task admits. -/
def admits : Pc → TaskEvent → Bool
  | _, .abort | _, .pass => true
  | .start, .begin | .connected, .spawn | .spawned, .enterRun _ => true
  | .sending _ _, .wrote _ | .sending _ _, .ioError => true
  | .shuttingDown _, .shutdown | .shuttingDown _, .ioError => true
  | .awaitHelloAck, .read _ | .awaitHelloAck, .packet | .awaitHelloAck, .ioError => true
  | .awaitHello, .read _ | .awaitHello, .packet | .awaitHello, .ioError => true
  | .select, .read _ | .select, .packet | .select, .ioError => true
  | .select, .keepAliveTick | .select, .queryActiveTick _ | .select, .activeTimeoutTick => true
  | .select, .request | .draining, .tryRecv | .delivering _ _, .deliver => true
  | .awaitClose _ _, .read _ | .awaitClose _ _, .packet | .awaitClose _ _, .ioError => true
  | .awaitClose _ _, .closeTimeout | .delivering _ (some _), .closeTimeout => true
  | .replying _, .reply | .returned _, .dropConn | .dropped _, .finish => true
  | _, _ => false

theorem breaks_place {e : ConnectionError} {u : Task} (breaks : Breaks t event e u)
    (waits : t.pc.receiving = true) : admits t.pc event = true := by
  cases here : t.pc <;> rw [here] at waits <;> cases waits <;> cases breaks <;> rfl

theorem hands_place {p : Packet} {u : Task} (hands : Hands t event p u)
    (waits : t.pc.receiving = true) : admits t.pc event = true := by
  cases here : t.pc <;> rw [here] at waits <;> cases waits <;> cases hands <;> rfl

theorem takes_place (move : TaskMove t ch event t' ch') : admits t.pc event = true := by
  cases move with
  | shakeBreaks here breaks =>
    exact breaks_place breaks (by rcases here with is | is <;> rw [is] <;> rfl)
  | runBreaks here breaks | closeBreaks here breaks =>
    exact breaks_place breaks (by rw [here]; rfl)
  | shakeEof here empty => rcases here with is | is <;> rw [is] <;> rfl
  | runEof here empty => rcases here with is | ⟨_, _, is⟩ <;> rw [is] <;> rfl
  | reads waits => cases here : t.pc <;> rw [here] at waits <;> cases waits <;> rfl
  | acknowledged here hands | greeted here hands | handles here hands | closeMeets here hands
  | closeGets here hands => exact hands_place hands (by rw [here]; rfl)
  | misgreeted here hands =>
    exact hands_place hands (by rcases here with ⟨is, _⟩ | ⟨is, _⟩ <;> rw [is] <;> rfl)
  | closeSkips here other control hands => exact hands_place hands (by rw [here]; rfl)
  | givesUp here => rcases here with is | ⟨_, is⟩ <;> rw [is] <;> rfl
  | aborts | passes => cases t.pc <;> rfl
  | saysHello here | awaitsHello here | spawns here | entersRun here | writes here | resumes here
  | closesStream here | awaitsClose here | losesHello here | losesSend here | losesShutdown here
  | keepsAlive here | queries here | timesOut here | takesClose here | takesSend here
  | takesGetStatus here | drained here | drainsClose here | drainsSend here | drainsGetStatus here
  | undelivered here | delivers here | deliversLate here | unanswered here | replies here
  | drops here | finishes here => rw [here]; rfl

end NcdTaskMoves
