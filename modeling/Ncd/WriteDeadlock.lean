import Ncd.Pair

/- Two run loops that write to each other. write_all is awaited inside an arm of select!,
   so a loop that writes does not read; when that can block both, and when it cannot. -/
namespace NcdWriteDeadlock
open NcdPacket NcdFrame NcdIoState NcdConnection NcdHandler NcdTaskMoves NcdTaskSteps NcdBooks
  NcdHandlerCalls NcdPair LabelledRuns

def unwritten : Pc → Option (List UInt8)
  | .sending rest _ => some rest
  | _ => none

def runs : Pc → Bool
  | .spawned | .select | .replying _ | .draining | .shuttingDown _ | .awaitClose _ _
  | .delivering _ _ => true
  | .sending _ .helloSent | .sending _ (.ackSent _) => false
  | .sending _ _ => true
  | _ => false

def Inside (p : Pair) (s : Side) : Prop := (unwritten (p.get s).task.pc).isSome

/-- Side s is in send_packet and the rest of its packet has room in the channel. -/
def RestFits (p : Pair) (s : Side) : Prop :=
  ∀ rest ∈ unwritten (p.get s).task.pc, rest.length ≤ p.free s

instance (p : Pair) (s : Side) : Decidable (Inside p s) := inferInstanceAs (Decidable (_ = true))

instance (p : Pair) (s : Side) : Decidable (RestFits p s) := by
  unfold RestFits
  cases unwritten (p.get s).task.pc with
  | none => exact .isTrue (by simp)
  | some rest => exact decidable_of_iff (rest.length ≤ p.free s) (by simp)

/-- A send_packet begins while the other side is inside one, and neither rest fits. -/
def StartsStuck (p : Pair) (event : PairEvent) : Prop :=
  ¬ (Inside p .x ∧ Inside p .y) ∧ ∃ q ∈ p.step event,
    (Inside q .x ∧ Inside q .y) ∧ ¬ (RestFits q .x ∨ RestFits q .y)

/-- The users only write, read and give up a call. -/
def WritesAndReads : PairEvent → Prop
  | .on _ .getStatus | .on _ .close | .on _ .dropHandler => False
  | _ => True

instance (event : PairEvent) : Decidable (WritesAndReads event) := by
  unfold WritesAndReads
  split <;> infer_instance

/-- Both run loops wait in write_all, and both channels are full. -/
def Wedged (p : Pair) : Prop := ∀ s, Inside p s ∧ p.free s = 0

def MovesBytes : EndpointEvent → Prop
  | .task (.wrote n) => 0 < n
  | .task (.read chunk) => chunk ≠ []
  | _ => False

/-- The points of run from which it still takes what is in the request channel. -/
def takesRequests : Pc → Bool
  | .spawned | .select | .draining | .delivering _ none => true
  | _ => false

/-- Bytes of a packet that is being sent, or a request that waits to be sent. -/
def HasToSend (e : Endpoint) : Prop :=
  (unwritten e.task.pc).isSome ∨ e.channels.requests ≠ [] ∧ takesRequests e.task.pc = true

def pcWork : Pc → Nat
  | .delivering _ _ => 3
  | .spawned | .draining | .shuttingDown _ => 1
  | _ => 0

def callWork : HandlerPc → Nat
  | .requesting _ => 2
  | .idle => 1
  | _ => 0

/-- What an endpoint can do before its run loop has to wait for its stream, in steps. -/
def backlog (e : Endpoint) : Nat :=
  4 * e.task.conn.io.packetBuffer.length + 2 * e.channels.packets.length +
    e.channels.requests.length + pcWork e.task.pc + callWork e.handler.pc

/-- As long as both loops run and one of them has something to send, a step is enabled
    that moves bytes, or one that leaves less to do before bytes can move. -/
def Live (p : Pair) : Prop :=
  (∀ s, runs (p.get s).task.pc = true) → ∀ s, HasToSend (p.get s) →
    ∃ t event q, p.step (.on t event) = some q ∧ (MovesBytes event ∨
      backlog (q.get t) < backlog (p.get t) ∧ q.get t.other = p.get t.other)

def userAt (e : Endpoint) : HandlerPc → Prop
  | .idle | .reading | .requesting (.write _) => True
  | .checking false | .panicked _ => connGone e.task.pc = true
  | _ => False

structure Writer (e : Endpoint) : Prop where
  handed : e.handler.taskHandle ≠ .uninitialized
  user : userAt e e.handler.pc
  alive : e.channels.handlerAlive = true
  capacity : 0 < e.channels.capacity
  onlyData : ∀ p ∈ e.channels.packets, ∃ bytes, p = .data bytes
  requests : .getStatus ∉ e.channels.requests
  place : ∀ status, e.task.pc ≠ .replying status
  rest : ∀ rest next, e.task.pc = .sending rest next → rest ≠ []

theorem userAt_task {e : Endpoint} {t' : Task} {ch' : Channels} {event : TaskEvent}
    {pc : HandlerPc} (user : userAt e pc) (step : e.task.step e.channels event = some (t', ch'))
    {e' : Endpoint} (task : e'.task = t') : userAt e' pc := by
  subst task
  cases pc with
  | panicked site => exact step_connGone (t := e.task) user step
  | checking forStatus =>
    cases forStatus with
    | true => exact user
    | false => exact step_connGone (t := e.task) user step
  | requesting call => cases call <;> exact user
  | _ => exact user

/- Every event of the task keeps it a writer's task. -/
theorem writer_task {e : Endpoint} (writer : Writer e) {t' : Task} {ch' : Channels}
    {event : TaskEvent} (step : e.task.step e.channels event = some (t', ch')) :
    Writer { e with task := t', channels := ch' } := by
  have user : userAt { e with task := t', channels := ch' } e.handler.pc :=
    userAt_task writer.user step rfl
  have place : t'.pc = e.task.pc ∨ settled t'.pc = true →
      (∀ status, t'.pc ≠ .replying status) ∧
        ∀ rest next, t'.pc = .sending rest next → rest ≠ [] := by
    intro lands
    rcases lands with same | elsewhere
    · rw [same]
      exact ⟨writer.place, writer.rest⟩
    · refine ⟨fun status is => by simp [is, settled] at elsewhere, ?_⟩
      rintro rest next is rfl
      simp [is, settled] at elsewhere
  cases step_moves step with
  | steady same =>
    obtain ⟨noReply, nonempty⟩ := place same.2.2.1
    exact ⟨writer.handed, user, writer.alive, writer.capacity, writer.onlyData,
      writer.requests, noReply, nonempty⟩
  | asks here queue => exact absurd (by rw [queue]; simp) writer.requests
  | takes queue same =>
    obtain ⟨noReply, nonempty⟩ := place same.2.2.1
    have kept := writer.requests
    rw [queue] at kept
    exact ⟨writer.handed, user, writer.alive, writer.capacity, writer.onlyData,
      fun member => kept (List.mem_cons_of_mem _ member), noReply, nonempty⟩
  | puts delivering same =>
    obtain ⟨noReply, nonempty⟩ := place same.2.2.1
    refine ⟨writer.handed, user, writer.alive, writer.capacity, ?_, writer.requests,
      noReply, nonempty⟩
    intro p member
    rcases List.mem_append.mp member with old | new
    · exact writer.onlyData p old
    · exact ⟨_, List.mem_singleton.mp new⟩
  | reads read same =>
    obtain ⟨noReply, nonempty⟩ := place same.2.2.1
    exact ⟨writer.handed, user, writer.alive, writer.capacity, writer.onlyData,
      writer.requests, noReply, nonempty⟩
  | aborts dead => exact absurd dead (by simp [writer.alive])

theorem writer_pc {e : Endpoint} (writer : Writer e) {pc : HandlerPc} (user : userAt e pc) :
    Writer { e with handler := { e.handler with pc := pc } } :=
  ⟨writer.handed, user, writer.alive, writer.capacity, writer.onlyData, writer.requests,
    writer.place, writer.rest⟩

theorem writer_returns {e : Endpoint} (writer : Writer e) (r : CallResult) :
    Writer (e.returns r) :=
  ⟨writer.handed, trivial, writer.alive, writer.capacity, writer.onlyData, writer.requests,
    writer.place, writer.rest⟩

theorem writer_join {e : Endpoint} (writer : Writer e) (result : Except ConnectionError Unit) :
    Writer (e.join result) :=
  ⟨by simp [join_cached], writer.user, writer.alive, writer.capacity, by simp [Endpoint.join],
    writer.requests, writer.place, writer.rest⟩

theorem writer_write {e : Endpoint} (writer : Writer e) (bytes : List UInt8) :
    Writer (e.write bytes) := by
  unfold Endpoint.write Endpoint.ask
  have checked := checkTaskState_checked e
  generalize e.checkTaskState = verdict at checked
  cases checked with
  | panics site failed =>
    refine writer_pc writer ?_
    rcases failed with unknown | ⟨why, panicked⟩ | aborted
    · exact absurd unknown writer.handed
    · simp [userAt, panicked, connGone]
    · simp [userAt, aborted, connGone]
  | running handle unfinished => exact writer_pc writer trivial
  | joins handle done => exact writer_returns (writer_join writer _) _
  | cached handle => exact writer_returns writer _

theorem writer_requested {e e' : Endpoint} (writer : Writer e) (step : e.requested = some e') :
    Writer e' := by
  have user := writer.user
  unfold Endpoint.requested at step
  split at step
  · rename_i call here
    cases call with
    | write bytes =>
      split at step
      · cases step
        exact writer_returns writer _
      · split at step
        · cases step
          refine ⟨writer.handed, trivial, writer.alive, writer.capacity, writer.onlyData, ?_,
            writer.place, writer.rest⟩
          simpa [Endpoint.returns, Asking.request] using writer.requests
        · simp at step
    | getStatus => simp [here, userAt] at user
    | close => simp [here, userAt] at user
  · simp at step

theorem writer_recv {e e' : Endpoint} (writer : Writer e) (step : e.recv = some e') :
    Writer e' := by
  unfold Endpoint.recv at step
  split at step
  · rename_i packet rest here queue
    obtain ⟨bytes, rfl⟩ := writer.onlyData packet (by simp [queue])
    cases step
    refine ⟨writer.handed, trivial, writer.alive, writer.capacity, ?_, writer.requests,
      writer.place, writer.rest⟩
    intro p member
    exact writer.onlyData p (by rw [queue]; exact .tail _ member)
  · split at step
    · rename_i gone
      cases step
      exact writer_pc writer gone
    · simp at step
  · simp at step

theorem writer_check {e e' : Endpoint} (writer : Writer e) (step : e.check = some e') :
    Writer e' := by
  have user := writer.user
  unfold Endpoint.check at step
  split at step
  · rename_i forStatus here
    have checked := checkTaskState_checked e
    generalize e.checkTaskState = verdict at checked step
    cases forStatus with
    | true => simp [here, userAt] at user
    | false =>
      simp only [here, userAt] at user
      cases checked with
      | panics site failed =>
        cases step
        exact writer_pc writer user
      | running handle unfinished =>
        cases step
        exact writer_pc writer user
      | joins handle done =>
        cases step
        exact writer_returns (writer_join writer _) _
      | cached handle =>
        cases step
        exact writer_returns writer _
  · simp at step

theorem step_writer {e e' : Endpoint} {event : EndpointEvent} (writer : Writer e)
    {s : Side} (users : WritesAndReads (.on s event)) (step : e.step event = some e') :
    Writer e' := by
  have user := writer.user
  cases event with
  | task event =>
    obtain ⟨t', ch', moved, task, channels, pc, handler⟩ := task_parts step
    have after := writer_task writer moved
    rw [← task, ← channels] at after
    rcases handler with same | ⟨_, spawned⟩
    · rw [← same] at after
      exact after
    · refine ⟨by simp [spawned], ?_, after.alive, after.capacity, after.onlyData,
        after.requests, after.place, after.rest⟩
      rw [pc]
      exact after.user
  | write bytes =>
    simp only [Endpoint.step] at step
    split at step
    · cases step
      exact writer_write writer bytes
    · simp at step
  | read =>
    simp only [Endpoint.step] at step
    split at step
    · cases step
      exact writer_pc writer trivial
    · simp at step
  | getStatus => exact users.elim
  | close => exact users.elim
  | dropHandler => exact users.elim
  | requested => exact writer_requested writer step
  | recv => exact writer_recv writer step
  | check => exact writer_check writer step
  | recvStatus =>
    cases here : e.handler.pc with
    | awaitingStatus => simp [here, userAt] at user
    | _ => simp [Endpoint.step, Endpoint.recvStatus, here] at step
  | joined =>
    cases here : e.handler.pc with
    | joining => simp [here, userAt] at user
    | _ => simp [Endpoint.step, Endpoint.joined, here] at step
  | cancel =>
    simp only [Endpoint.step] at step
    unfold Endpoint.cancel at step
    split at step
    · simp at step
    all_goals cases step <;> exact writer_pc writer trivial

/-- Two connected endpoints, at any point at which not both of them are in send_packet. -/
structure Begins (p : Pair) : Prop where
  writer : ∀ s, Writer (p.get s)
  apart : ¬ (Inside p .x ∧ Inside p .y)
  room : ∀ s, 0 < p.room s
  linked : ∀ s, p.consumed s.other <+: p.written s

structure Flows (p : Pair) : Prop where
  writer : ∀ s, Writer (p.get s)
  room : ∀ s, 0 < p.room s
  linked : ∀ s, p.consumed s.other <+: p.written s

def Fits (p : Pair) : Prop := Inside p .x → Inside p .y → RestFits p .x ∨ RestFits p .y

theorem resume_unwritten (t : Task) (next : Resume) : unwritten (t.resume next).pc = none := by
  cases next with
  | loop =>
    simp only [Task.resume, Task.loopTop]
    split
    · rfl
    · split <;> rfl
  | ackSent peer =>
    simp only [Task.resume, Task.startTimers]
    split <;> rfl
  | _ => rfl

/- One more write_all step of a loop that stays inside send_packet. -/
theorem sending_step {t t' : Task} {ch ch' : Channels} {event : TaskEvent} {rest rest' : List UInt8}
    (before : unwritten t.pc = some rest) (after : unwritten t'.pc = some rest')
    (step : t.step ch event = some (t', ch')) :
    t'.conn.io.stream.consumed = t.conn.io.stream.consumed ∧
      t'.conn.io.stream.written.length + rest'.length =
        t.conn.io.stream.written.length + rest.length := by
  cases here : t.pc with
  | sending left next =>
    simp only [unwritten, here, Option.some.injEq] at before
    subst before
    have move := task_move step
    have place := takes_place move
    rw [here] at place
    cases event with
    | wrote n =>
      cases move with
      | writes at_ positive fits =>
        rw [here] at at_
        cases at_
        simp only [unwritten, Option.some.injEq] at after
        subst after
        simp only [wroteBytes, List.length_append, List.length_take, List.length_drop, true_and]
        omega
      | resumes => simp [resume_unwritten] at after
      | _ => contradiction
    | pass =>
      cases step
      simp only [unwritten, here, Option.some.injEq] at after
      simp [after]
    | ioError =>
      cases move with
      | losesHello | losesSend | losesShutdown => simp [unwritten, Task.fail] at after
      | shakeBreaks at_ | runBreaks at_ | closeBreaks at_ => simp [here] at at_
      | _ => contradiction
    | abort =>
      cases move with
      | aborts => simp [unwritten] at after
      | _ => contradiction
    | _ => cases place
  | _ => simp [unwritten, here] at before

theorem pcWork_le (pc : Pc) : pcWork pc ≤ 3 := by
  unfold pcWork
  split <;> omega

theorem loopTop_task (t : Task) :
    t.loopTop.conn = t.conn ∧ pcWork t.loopTop.pc = 0 := by
  unfold Task.loopTop
  split
  · exact ⟨rfl, rfl⟩
  · split <;> exact ⟨rfl, rfl⟩

theorem handlePacket_io (t : Task) (p : Packet) : (t.handlePacket p).conn.io = t.conn.io := by
  cases p with
  | controlPing id => simp [Task.handlePacket]
  | controlPong id => simp [Task.handlePacket, loopTop_task]
  | controlKeepAlive => simp [Task.handlePacket, loopTop_task]
  | controlClose =>
    simp only [Task.handlePacket, Task.closeByPeer]
    split <;> rfl
  | _ => rfl

theorem gotPacket_works {t : Task} (waits : t.pc = .select ∨ ∃ b d, t.pc = .awaitClose b d)
    (p : Packet) : ∃ t', t.gotPacket p = some t' ∧ t'.conn.io = t.conn.io := by
  rcases waits with here | ⟨b, d, here⟩
  · exact ⟨_, by simp [Task.gotPacket, here]; rfl, by rw [handlePacket_io]⟩
  · simp only [Task.gotPacket, here]
    split <;> exact ⟨_, rfl, rfl⟩

def Works (e : Endpoint) : Prop :=
  ∃ event e', (∀ (p : Pair) s, p.allows s event) ∧ e.step event = some e' ∧ backlog e' < backlog e

theorem works_packet {e : Endpoint} {p : Packet} {rest : List Packet}
    (waits : e.task.pc = .select ∨ ∃ b d, e.task.pc = .awaitClose b d)
    (buffered : e.task.conn.io.packetBuffer = p :: rest) : Works e := by
  obtain ⟨t', got, io⟩ := gotPacket_works (t := { e.task with conn := { e.task.conn with
    io := { e.task.conn.io with packetBuffer := rest } } }) waits p
  have receiving : e.task.pc.receiving = true := by
    rcases waits with here | ⟨b, d, here⟩ <;> simp [here, Pc.receiving]
  have idle : pcWork e.task.pc = 0 := by
    rcases waits with here | ⟨b, d, here⟩ <;> simp [here, pcWork]
  have bound := pcWork_le t'.pc
  refine ⟨.task .packet, { e with task := t' }, fun _ _ => trivial, ?_, ?_⟩
  · simp [Endpoint.step, Task.step, receiving, Task.popPacket, buffered, got]
  · simp only [backlog, io, buffered, List.length_cons, idle]
    omega

theorem works_request {e : Endpoint} {r : Request} {rest : List Request}
    (here : e.task.pc = .select) (queue : e.channels.requests = r :: rest) : Works e := by
  obtain ⟨t', taken, io, bound⟩ : ∃ t', e.task.request e.channels =
      some (t', { e.channels with requests := rest }) ∧ t'.conn.io = e.task.conn.io ∧
        pcWork t'.pc = 0 := by
    simp only [Task.request, here, queue]
    cases r with
    | close =>
      simp only [Task.closeBySelf]
      split
      · exact ⟨_, rfl, rfl, rfl⟩
      · rw [send_eq]
        exact ⟨_, rfl, rfl, rfl⟩
    | send p =>
      dsimp only
      rw [send_eq]
      exact ⟨_, rfl, rfl, rfl⟩
    | getStatus => exact ⟨_, rfl, rfl, rfl⟩
  refine ⟨.task .request, { e with task := t', channels := { e.channels with requests := rest } },
    fun _ _ => trivial, ?_, ?_⟩
  · simp [Endpoint.step, Task.step, taken]
  · simp only [backlog, io, bound, queue, List.length_cons]
    omega

theorem works_drain {e : Endpoint} (here : e.task.pc = .draining)
    (noStatus : .getStatus ∉ e.channels.requests) : Works e := by
  cases queue : e.channels.requests with
  | nil =>
    exact ⟨.task .tryRecv, _, fun _ _ => trivial,
      by simp [Endpoint.step, Task.step, Task.tryRecv, here, queue]; rfl,
      by simp [backlog, here, pcWork, queue]⟩
  | cons r rest =>
    cases r with
    | getStatus => simp [queue] at noStatus
    | close =>
      exact ⟨.task .tryRecv, _, fun _ _ => trivial,
        by simp [Endpoint.step, Task.step, Task.tryRecv, here, queue]; rfl,
        by simp only [backlog, here, pcWork, queue, List.length_cons]; omega⟩
    | send p =>
      exact ⟨.task .tryRecv, _, fun _ _ => trivial,
        by simp [Endpoint.step, Task.step, Task.tryRecv, here, queue]; rfl,
        by simp only [backlog, here, pcWork, queue, List.length_cons]; omega⟩

/- The user of a full packet channel reads, or gives up a write to read. -/
theorem works_user {e : Endpoint} (writer : Writer e) (running : connGone e.task.pc = false)
    (full : e.channels.packets ≠ []) : Works e := by
  have user := writer.user
  cases at_ : e.handler.pc with
  | idle =>
    refine ⟨.read, e.read, fun _ _ => trivial, ?_, ?_⟩
    · simp [Endpoint.step, Endpoint.callable, writer.handed, at_]
    · simp [backlog, Endpoint.read, at_, callWork]
  | reading =>
    obtain ⟨p, rest, queue⟩ := List.exists_cons_of_ne_nil full
    obtain ⟨bytes, rfl⟩ := writer.onlyData p (by simp [queue])
    exact ⟨.recv, _, fun _ _ => trivial, by simp [Endpoint.step, Endpoint.recv, at_, queue]; rfl,
      by simp [backlog, at_, queue, Endpoint.returns, callWork]; omega⟩
  | requesting call =>
    cases call with
    | write bytes =>
      exact ⟨.cancel, _, fun _ _ => trivial, by simp [Endpoint.step, Endpoint.cancel, at_]; rfl,
        by simp [backlog, at_, callWork]⟩
    | getStatus => simp [at_, userAt] at user
    | close => simp [at_, userAt] at user
  | checking forStatus => cases forStatus <;> simp [at_, userAt, running] at user
  | panicked site => simp [at_, userAt, running] at user
  | awaitingStatus => simp [at_, userAt] at user
  | joining => simp [at_, userAt] at user
  | gone => simp [at_, userAt] at user

theorem works_deliver {e : Endpoint} (writer : Writer e) {bytes : List UInt8}
    {back : Option (Bool × Nat)} (here : e.task.pc = .delivering bytes back) : Works e := by
  by_cases room : e.channels.packets.length < e.channels.capacity
  · obtain ⟨t', put, io, bound⟩ : ∃ t', e.task.deliver e.channels =
        some (t', { e.channels with packets := e.channels.packets ++ [.data bytes] }) ∧
          t'.conn.io = e.task.conn.io ∧ pcWork t'.pc = 0 := by
      simp only [Task.deliver, here, writer.alive, room, Bool.true_eq_false, if_true, if_false]
      cases back with
      | none => exact ⟨_, rfl, by simp [loopTop_task], (loopTop_task _).2⟩
      | some wait => exact ⟨_, rfl, rfl, rfl⟩
    refine ⟨.task .deliver, { e with
      task := t', channels := { e.channels with packets := e.channels.packets ++ [.data bytes] } },
      fun _ _ => trivial, ?_, ?_⟩
    · simp [Endpoint.step, Task.step, put]
    · have busy : pcWork e.task.pc = 3 := by simp [here, pcWork]
      simp only [backlog, io, bound, busy, List.length_append, List.length_singleton]
      omega
  · refine works_user writer (by simp [here, connGone]) ?_
    intro empty
    have capacity := writer.capacity
    simp [empty] at room
    omega

theorem works_shutdown {e : Endpoint} {inactive : Option Bool}
    (here : e.task.pc = .shuttingDown inactive) : Works e := by
  cases inactive with
  | none =>
    exact ⟨.task .shutdown, _, fun _ _ => trivial,
      by simp [Endpoint.step, Task.step, Task.shutdown, here]; rfl,
      by simp [backlog, here, pcWork]⟩
  | some inactive =>
    exact ⟨.task .shutdown, _, fun _ _ => trivial,
      by simp [Endpoint.step, Task.step, Task.shutdown, here]; rfl,
      by simp [backlog, here, pcWork]⟩

/-- A run loop outside send_packet has something to do, or waits for its stream. -/
theorem loop_works {e : Endpoint} (writer : Writer e) (running : runs e.task.pc = true)
    (outside : unwritten e.task.pc = none) :
    Works e ∨
      ((e.task.pc = .select ∧ e.channels.requests = [] ∨ ∃ b d, e.task.pc = .awaitClose b d) ∧
      e.task.conn.io.packetBuffer = []) := by
  cases here : e.task.pc with
  | spawned =>
    exact .inl ⟨.task (.enterRun 0), _, fun _ _ => trivial,
      by simp [Endpoint.step, Task.step, Task.enterRun, Task.pingPeer, here]; rfl,
      by simp [backlog, here, pcWork]⟩
  | select =>
    cases buffered : e.task.conn.io.packetBuffer with
    | cons p rest => exact .inl (works_packet (.inl here) buffered)
    | nil =>
      cases queue : e.channels.requests with
      | cons r rest => exact .inl (works_request here queue)
      | nil => exact .inr ⟨.inl ⟨rfl, rfl⟩, rfl⟩
  | awaitClose b d =>
    cases buffered : e.task.conn.io.packetBuffer with
    | cons p rest => exact .inl (works_packet (.inr ⟨b, d, here⟩) buffered)
    | nil => exact .inr ⟨.inr ⟨b, d, rfl⟩, rfl⟩
  | draining => exact .inl (works_drain here writer.requests)
  | delivering bytes back => exact .inl (works_deliver writer here)
  | replying status => exact absurd here (writer.place status)
  | sending rest next => simp [here, unwritten] at outside
  | shuttingDown inactive => exact .inl (works_shutdown here)
  | _ => simp [here, runs] at running

theorem step_task (e : Endpoint) (event : TaskEvent) {t' : Task} {ch' : Channels}
    (kept : event ≠ .abort) (step : e.task.step e.channels event = some (t', ch')) :
    ∃ e', e.step (.task event) = some e' ∧ e'.task = t' := by
  simp [Endpoint.step, kept, step]

theorem free_write {p : Pair} {s : Side} {rest : List UInt8} (more : rest ≠ [])
    (inside : unwritten (p.get s).task.pc = some rest) (room : 0 < p.free s) :
    ∃ q, p.step (.on s (.task (.wrote 1))) = some q := by
  cases here : (p.get s).task.pc with
  | sending left next =>
    simp only [unwritten, here, Option.some.injEq] at inside
    subst inside
    have long : 0 < left.length := List.length_pos_iff.mpr more
    have fits : ¬ (1 = 0 ∨ left.length < 1) := by omega
    obtain ⟨t', wrote⟩ : ∃ t', (p.get s).task.wrote 1 = some t' := by
      simp only [Task.wrote, here, if_neg fits]
      split <;> exact ⟨_, rfl⟩
    obtain ⟨e', step, _⟩ := step_task (p.get s) (.wrote 1) (by simp)
      (show _ = some (t', _) by simp [Task.step, wrote]; rfl)
    have allowed : p.allows s (.task (.wrote 1)) := room
    exact ⟨p.set s e', by simp [Pair.step, allowed, step]⟩
  | _ => simp [unwritten, here] at inside

/- A loop that waits for its stream reads what lies in the channel. -/
theorem waiting_read {e : Endpoint}
    (waits : e.task.pc = .select ∨ ∃ b d, e.task.pc = .awaitClose b d)
    (buffered : e.task.conn.io.packetBuffer = []) {chunk : List UInt8} (bytes : chunk ≠ []) :
    ∃ e', e.step (.task (.read chunk)) = some e' := by
  have receiving : e.task.pc.receiving = true := by
    rcases waits with here | ⟨b, d, here⟩ <;> simp [here, Pc.receiving]
  obtain ⟨t', read⟩ : ∃ t', e.task.read chunk = some t' := by
    have enabled : ¬ (e.task.pc.receiving = false ∨ e.task.conn.io.packetBuffer ≠ []) := by
      simp [receiving, buffered]
    simp only [Task.read, if_neg enabled, if_neg bytes]
    split
    · rcases waits with here | ⟨b, d, here⟩ <;> simp only [Task.gotError, here] <;> exact ⟨_, rfl⟩
    · rename_i io decoded
      split
      · exact ⟨_, rfl⟩
      · rename_i nonempty
        obtain ⟨p, rest, queue⟩ := List.exists_cons_of_ne_nil nonempty
        obtain ⟨t', got, _⟩ := gotPacket_works (t := { e.task with conn := { e.task.conn with
          io := { io with packetBuffer := rest } } }) waits p
        simp only [Task.popPacket, queue]
        exact ⟨t', got⟩
  obtain ⟨e', step, _⟩ := step_task e (.read chunk) (by simp)
    (show _ = some (t', _) by simp [Task.step, read]; rfl)
  exact ⟨e', step⟩

theorem works_step {p : Pair} {s : Side} (works : Works (p.get s)) :
    ∃ t event q, p.step (.on t event) = some q ∧ (MovesBytes event ∨
      backlog (q.get t) < backlog (p.get t) ∧ q.get t.other = p.get t.other) := by
  obtain ⟨event, e', allowed, step, less⟩ := works
  exact ⟨s, event, p.set s e', by simp [Pair.step, allowed p s, step],
    .inr ⟨by simpa using less, by simp⟩⟩

theorem outside_none {p : Pair} {s : Side} (outside : ¬ Inside p s) :
    unwritten (p.get s).task.pc = none := by
  simpa [Inside] using outside

theorem flows_live {p : Pair} (flows : Flows p) (fits : Fits p) : Live p := by
  intro running s has
  by_cases inside : Inside p s
  · obtain ⟨rest, sending⟩ := Option.isSome_iff_exists.mp inside
    have writing : ∀ {t : Side} {left : List UInt8}, unwritten (p.get t).task.pc = some left →
        left ≠ [] := by
      intro t left at_
      cases here : (p.get t).task.pc with
      | sending left' next =>
        simp only [unwritten, here, Option.some.injEq] at at_
        exact at_ ▸ (flows.writer t).rest left' next here
      | _ => simp [unwritten, here] at at_
    by_cases room : 0 < p.free s
    · obtain ⟨q, step⟩ := free_write (writing sending) sending room
      exact ⟨s, _, q, step, .inl Nat.one_pos⟩
    · by_cases both : Inside p s.other
      · obtain ⟨left, sending'⟩ := Option.isSome_iff_exists.mp both
        have stuck : ¬ RestFits p s := by
          intro fits
          have short := fits rest sending
          have long := List.length_pos_iff.mpr (writing sending)
          omega
        have enough : RestFits p s.other := by
          cases s with
          | x => exact (fits inside both).resolve_left stuck
          | y => exact (fits both inside).resolve_right stuck
        have short := enough left sending'
        have long := List.length_pos_iff.mpr (writing sending')
        obtain ⟨q, step⟩ := free_write (writing sending') sending' (by omega)
        exact ⟨s.other, _, q, step, .inl Nat.one_pos⟩
      · rcases loop_works (flows.writer s.other) (running s.other) (outside_none both) with
          works | ⟨waits, buffered⟩
        · exact works_step works
        · -- the channel is full, so there is something to read
          obtain ⟨chunk, linked⟩ := flows.linked s
          have bytes : chunk ≠ [] := by
            rintro rfl
            have room' := flows.room s
            rw [List.append_nil] at linked
            simp only [Pair.free, linked] at room
            omega
          obtain ⟨e', step⟩ := waiting_read (waits.imp (fun w => w.1) id) buffered bytes
          have allowed : p.allows s.other (.task (.read chunk)) := by
            refine ⟨?_, fun empty => absurd empty bytes⟩
            rw [other_other, linked]
          exact ⟨s.other, .task (.read chunk), p.set s.other e',
            by simp [Pair.step, allowed, step], .inl bytes⟩
  · rcases loop_works (flows.writer s) (running s) (outside_none inside) with
      works | ⟨waits, buffered⟩
    · exact works_step works
    · exfalso
      rcases has with sending | ⟨queue, takes⟩
      · exact inside sending
      · rcases waits with ⟨_, empty⟩ | ⟨b, d, here⟩
        · exact queue empty
        · simp [here, takesRequests] at takes

theorem flows_free {p : Pair} (flows : Flows p) (fits : Fits p) : ¬ Wedged p := by
  intro wedged
  have nothing : ∀ s, ¬ RestFits p s := by
    intro s fits
    obtain ⟨inside, full⟩ := wedged s
    obtain ⟨rest, sending⟩ := Option.isSome_iff_exists.mp inside
    have short := fits rest sending
    cases here : (p.get s).task.pc with
    | sending left next =>
      simp only [unwritten, here, Option.some.injEq] at sending
      have long := List.length_pos_iff.mpr ((flows.writer s).rest left next here)
      rw [sending] at long
      omega
    | _ => simp [unwritten, here] at sending
  exact (fits (wedged .x).1 (wedged .y).1).elim (nothing .x) (nothing .y)

theorem rest_of {p : Pair} {s : Side} {e : Endpoint} {event : EndpointEvent}
    (linked : p.consumed s.other <+: p.written s) (step : (p.get s).step event = some e)
    {rest rest' : List UInt8} (before : unwritten (p.get s).task.pc = some rest)
    (after : unwritten e.task.pc = some rest') :
    (p.set s e).consumed s = p.consumed s ∧
    (rest.length ≤ p.free s → rest'.length ≤ (p.set s e).free s) := by
  have short := linked.length_le
  have grown := (step_stream step).1.length_le
  have same : e.task.conn.io.stream.consumed = (p.get s).task.conn.io.stream.consumed ∧
      e.task.conn.io.stream.written.length + rest'.length =
        (p.get s).task.conn.io.stream.written.length + rest.length := by
    by_cases mine : ∃ te, event = .task te
    · obtain ⟨te, rfl⟩ := mine
      obtain ⟨t', ch', moved, task, _⟩ := task_parts step
      rw [← task] at moved
      exact sending_step before after moved
    · have task := call_task (fun te is => mine ⟨te, is⟩) step
      rw [task, before, Option.some.injEq] at after
      exact ⟨by rw [task], by rw [task, after]⟩
  simp only [Pair.free, Pair.written, Pair.consumed, get_set, get_set_other, room_set] at short ⊢
  refine ⟨same.1, fun fits => ?_⟩
  omega

theorem flows_on {p q : Pair} {s : Side} {event : EndpointEvent} (flows : Flows p)
    (users : WritesAndReads (.on s event)) (step : p.step (.on s event) = some q) : Flows q := by
  obtain ⟨e, allowed, moved, rfl⟩ := step_on step
  obtain ⟨wrote, read⟩ := step_stream moved
  refine ⟨both_sides (s := s) ?_ ?_, fun t => by rw [room_set]; exact flows.room t,
    both_sides (s := s) ?_ ?_⟩
  · rw [get_set]
    exact step_writer (flows.writer s) users moved
  · rw [get_set_other]
    exact flows.writer s.other
  · have linked := flows.linked s
    simp only [Pair.consumed, Pair.written, get_set, get_set_other] at linked ⊢
    exact linked.trans wrote
  · have linked := flows.linked s.other
    simp only [Pair.consumed, Pair.written, get_set, get_set_other, other_other] at linked ⊢
    rcases read with same | ⟨chunk, rfl, more⟩
    · rw [same]
      exact linked
    · rw [more]
      exact allowed.1

/- While both loops stay inside send_packet, writes keep what fits fitting, and nothing is
   read; a loop that begins a send does not begin stuck. -/
theorem fits_on {p q : Pair} {s : Side} {event : EndpointEvent} (flows : Flows p) (fits : Fits p)
    (fine : ¬ StartsStuck p (.on s event)) (step : p.step (.on s event) = some q) : Fits q := by
  obtain ⟨e, allowed, moved, rfl⟩ := step_on step
  intro inX inY
  by_cases both : Inside p .x ∧ Inside p .y
  · have before : Inside p s := by
      cases s with
      | x => exact both.1
      | y => exact both.2
    have after : Inside (p.set s e) s := by
      cases s with
      | x => exact inX
      | y => exact inY
    obtain ⟨rest, before⟩ := Option.isSome_iff_exists.mp before
    obtain ⟨rest', after⟩ := Option.isSome_iff_exists.mp after
    rw [get_set] at after
    obtain ⟨unread, less⟩ := rest_of (flows.linked s) moved before after
    have kept : ∀ t, RestFits p t → RestFits (p.set s e) t := by
      refine both_sides (s := s) ?_ ?_
      · intro enough left sending
        rw [get_set, after] at sending
        cases sending
        exact less (enough rest before)
      · intro enough left sending
        rw [get_set_other] at sending
        have same : (p.set s e).free s.other = p.free s.other := by
          simp only [Pair.free, other_other, unread, room_set, Pair.written, get_set_other]
        rw [same]
        exact enough left sending
    exact (fits both.1 both.2).imp (kept .x) (kept .y)
  · by_contra stuck
    exact fine ⟨both, _, step, ⟨inX, inY⟩, stuck⟩

theorem step_flows {p q : Pair} {event : PairEvent} (flows : Flows p)
    (users : WritesAndReads event) (step : p.step event = some q) : Flows q := by
  cases event with
  | on s event => exact flows_on flows users step
  | pass =>
    cases step
    refine ⟨fun s => ?_, fun s => ?_, fun s => ?_⟩
    · have writer := flows.writer s
      cases s <;>
        exact ⟨writer.handed, writer.user, writer.alive, writer.capacity, writer.onlyData,
          writer.requests, writer.place, writer.rest⟩
    · have room := flows.room s
      cases s <;> exact room
    · have linked := flows.linked s
      cases s <;> exact linked

theorem step_fits {p q : Pair} {event : PairEvent} (flows : Flows p) (fits : Fits p)
    (fine : ¬ StartsStuck p event) (step : p.step event = some q) : Fits q := by
  cases event with
  | on s event => exact fits_on flows fits fine step
  | pass =>
    cases step
    exact fits

theorem begins_flows {p : Pair} (begins : Begins p) : Flows p :=
  ⟨begins.writer, begins.room, begins.linked⟩

theorem begins_fits {p : Pair} (begins : Begins p) : Fits p :=
  fun inX inY => absurd ⟨inX, inY⟩ begins.apart

theorem fill {p : Pair} {s : Side} (linked : p.consumed s.other <+: p.written s)
    (inside : Inside p s) (long : ¬ RestFits p s) :
    ∃ q, Reaches Pair.step (fun _ event => WritesAndReads event) p q ∧ Inside q s ∧ q.free s = 0 ∧
      q.get s.other = p.get s.other ∧ q.consumed s = p.consumed s ∧
      q.free s.other = p.free s.other := by
  obtain ⟨rest, sending⟩ := Option.isSome_iff_exists.mp inside
  have short : p.free s < rest.length := by
    by_contra fits
    refine long fun left is => ?_
    rw [sending] at is
    cases is
    omega
  by_cases full : p.free s = 0
  · exact ⟨p, .refl p, inside, full, rfl, rfl, rfl⟩
  · cases here : (p.get s).task.pc with
    | sending left next =>
      simp only [unwritten, here, Option.some.injEq] at sending
      subst sending
      have length := linked.length_le
      obtain ⟨n, room⟩ : ∃ n, p.free s = n := ⟨_, rfl⟩
      rw [room] at short full
      have fits : ¬ (n = 0 ∨ left.length < n) := by omega
      have more : left.drop n ≠ [] := by
        intro none
        have nothing := congrArg List.length none
        simp only [List.length_drop, List.length_nil] at nothing
        omega
      obtain ⟨t', wrote, pc, stream⟩ : ∃ t', (p.get s).task.wrote n = some t' ∧
          (unwritten t'.pc).isSome ∧ t'.conn.io.stream = { (p.get s).task.conn.io.stream with
            written := (p.get s).task.conn.io.stream.written ++ left.take n } := by
        simp only [Task.wrote, here, if_neg fits, if_neg more]
        exact ⟨_, rfl, rfl, rfl⟩
      obtain ⟨e', step, task⟩ := step_task (p.get s) (.wrote n) (by simp)
        (show _ = some (t', _) by simp [Task.step, wrote]; rfl)
      have allowed : p.allows s (.task (.wrote n)) := room.ge
      refine ⟨p.set s e', .single (e := .on s (.task (.wrote n))) trivial
        (by simp [Pair.step, allowed, step]), ?_, ?_, by simp, ?_, ?_⟩
      · simpa [Inside, task] using pc
      · simp only [Pair.free, Pair.written, Pair.consumed] at room length
        simp only [Pair.free, Pair.written, Pair.consumed, get_set, get_set_other, room_set, task,
          stream, List.length_append, List.length_take]
        omega
      · simp [Pair.consumed, task, stream]
      · simp [Pair.free, Pair.written, Pair.consumed, task, stream]
    | _ => simp [unwritten, here] at sending

/-- A stuck start leaves only full channels ahead. -/
theorem stuck_wedges {q : Pair} (linked : ∀ s, q.consumed s.other <+: q.written s)
    (inside : Inside q .x ∧ Inside q .y) (stuck : ¬ (RestFits q .x ∨ RestFits q .y)) :
    ∃ w, Reaches Pair.step (fun _ event => WritesAndReads event) q w ∧ Wedged w := by
  obtain ⟨stuckX, stuckY⟩ := not_or.mp stuck
  obtain ⟨m, first, inX, fullX, sameY, readX, freeY⟩ := fill (linked .x) inside.1 stuckX
  have here : m.get .y = q.get .y := sameY
  have room : m.free .y = q.free .y := freeY
  have inY : Inside m .y := by simpa [Inside, here] using inside.2
  have longY : ¬ RestFits m .y := by simpa [RestFits, here, room] using stuckY
  have linkedY : m.consumed Side.y.other <+: m.written .y := by
    have known := linked .y
    have same : m.consumed .x = q.consumed .x := readX
    simpa [Pair.written, here, Side.other, same] using known
  obtain ⟨w, second, inY', fullY, sameX, _, freeX⟩ := fill linkedY inY longY
  have there : w.get .x = m.get .x := sameX
  have left : w.free .x = m.free .x := freeX
  refine ⟨w, first.trans second, fun s => ?_⟩
  cases s with
  | x => exact ⟨by simpa [Inside, there] using inX, left.trans fullX⟩
  | y => exact ⟨inY', fullY⟩

/-- In every run in which no send_packet begins stuck, the loops never wedge, and one with
    something to send never finds all ways blocked. One that begins stuck can wedge both. -/
theorem writes_go_on {p₀ : Pair} (begins : Begins p₀) :
    (∀ p, Reaches Pair.step (fun p event => WritesAndReads event ∧ ¬ StartsStuck p event) p₀ p →
      ¬ Wedged p ∧ Live p) ∧
    ∀ p q event, Reaches Pair.step (fun _ event => WritesAndReads event) p₀ p →
      WritesAndReads event → StartsStuck p event → p.step event = some q →
      ∃ w, Reaches Pair.step (fun _ event => WritesAndReads event) q w ∧ Wedged w := by
  constructor
  · intro p run
    obtain ⟨flows, fits⟩ := run.keeps_under
      (fun flows allowed step => step_flows flows allowed.1 step)
      (fun flows fits allowed step => step_fits flows fits allowed.2 step)
      (begins_flows begins) (begins_fits begins)
    exact ⟨flows_free flows fits, flows_live flows fits⟩
  · intro p q event run users stuck step
    have flows := run.keeps (fun flows users step => step_flows flows users step)
      (begins_flows begins)
    obtain ⟨_, q', step', inside, long⟩ := stuck
    rw [Option.mem_def, step, Option.some.injEq] at step'
    subst step'
    exact stuck_wedges (step_flows flows users step).linked inside long

def narrow : Pair :=
  (exec Pair.step ⟨aDevice, aHost, 12, 12⟩ bothHandshakes).getD ⟨aDevice, aHost, 12, 12⟩

theorem spawned_writer {e : Endpoint} (spawned : e.task.pc = .spawned)
    (idle : e.handler.pc = .idle) (handed : e.handler.taskHandle ≠ .uninitialized)
    (alive : e.channels.handlerAlive = true) (capacity : 0 < e.channels.capacity)
    (empty : e.channels.packets = [] ∧ e.channels.requests = []) : Writer e where
  handed := handed
  user := by simp [idle, userAt]
  alive := alive
  capacity := capacity
  onlyData := by simp [empty.1]
  requests := by simp [empty.2]
  place := by simp [spawned]
  rest := by simp [spawned]

theorem narrow_begins : Begins narrow where
  writer s := by
    cases s <;> exact spawned_writer (by decide +kernel) (by decide +kernel) (by decide +kernel)
      (by decide +kernel) (by decide +kernel) (by decide +kernel)
  apart := by decide +kernel
  room s := by cases s <;> decide +kernel
  linked s := by cases s <;> decide +kernel

/-- Each side pings, and then takes the message of its user from the request channel. -/
def bothWrite : List PairEvent :=
  [.on .x (.task (.enterRun 0)), .on .x (.task (.wrote 12)), .on .y (.task (.enterRun 0)),
    .on .y (.task (.wrote 12)), .on .x (.write [1]), .on .x .requested, .on .x (.task .request),
    .on .y (.write [2]), .on .y .requested, .on .y (.task .request)]

theorem narrow_writes_go_on :
    (∀ p, Reaches Pair.step (fun p event => WritesAndReads event ∧ ¬ StartsStuck p event) narrow p →
      ¬ Wedged p ∧ Live p) ∧
    ∀ p q event, Reaches Pair.step (fun _ event => WritesAndReads event) narrow p →
      WritesAndReads event → StartsStuck p event → p.step event = some q →
      ∃ w, Reaches Pair.step (fun _ event => WritesAndReads event) q w ∧ Wedged w :=
  writes_go_on narrow_begins

/-- Both pings fill the channels, and both loops send before they read. -/
theorem both_writes_wedge :
    ¬ ∀ p₀ p : Pair, Begins p₀ → Reaches Pair.step (fun _ event => WritesAndReads event) p₀ p →
      ¬ Wedged p := by
  intro claim
  refine claim narrow
    ((execIf Pair.step (fun _ event => WritesAndReads event) narrow bothWrite).getD
    narrow) narrow_begins ?_ ?_
  · exact reaches_of_execIf bothWrite (by decide +kernel)
  · intro s
    cases s <;> decide +kernel

end NcdWriteDeadlock
