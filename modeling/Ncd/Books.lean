import Ncd.TaskSteps

/- What an endpoint keeps account of: every request goes from the handler to the task,
   every message from the task to a call, and nothing is counted twice. -/
namespace NcdBooks
open NcdPacket NcdFrame NcdIoState NcdConnection NcdHandler NcdTaskMoves NcdTaskSteps LabelledRuns

def readMessages : List CallResult → List (List UInt8)
  | [] => []
  | .read (.ok bytes) :: results => bytes :: readMessages results
  | _ :: results => readMessages results

def writtenMessages : List CallResult → List (List UInt8)
  | [] => []
  | .write bytes (.ok ()) :: results => bytes :: writtenMessages results
  | _ :: results => writtenMessages results

def sends : List Request → List (List UInt8)
  | [] => []
  | .send (.data bytes) :: requests => bytes :: sends requests
  | _ :: requests => sends requests

def failure : CallResult → Option ConnectionClosed
  | .write _ (.error closed) => some closed
  | .read (.error closed) => some closed
  | .getStatus (.error closed) => some closed
  | _ => none

@[simp] theorem messages_append (ps qs : List Packet) :
    messages (ps ++ qs) = messages ps ++ messages qs := by
  induction ps with
  | nil => rfl
  | cons p ps ih => cases p <;> simp [messages, ih]

@[simp] theorem readMessages_append (rs qs : List CallResult) :
    readMessages (rs ++ qs) = readMessages rs ++ readMessages qs := by
  induction rs with
  | nil => rfl
  | cons r rs ih =>
    cases r with
    | read r => cases r <;> simp [readMessages, ih]
    | _ => simp [readMessages, ih]

@[simp] theorem writtenMessages_append (rs qs : List CallResult) :
    writtenMessages (rs ++ qs) = writtenMessages rs ++ writtenMessages qs := by
  induction rs with
  | nil => rfl
  | cons r rs ih =>
    cases r with
    | write bytes r => cases r <;> simp [writtenMessages, ih]
    | _ => simp [writtenMessages, ih]

@[simp] theorem sends_append (rs qs : List Request) :
    sends (rs ++ qs) = sends rs ++ sends qs := by
  induction rs with
  | nil => rfl
  | cons r rs ih =>
    cases r with
    | send p => cases p <;> simp [sends, ih]
    | _ => simp [sends, ih]

/-- The messages that joining the task has taken out of the packet channel. -/
def drained : TaskState → List (List UInt8)
  | .finished closed => closed.messages
  | _ => []

structure Books (e : Endpoint) : Prop where
  requests : e.handler.accepted = e.task.taken ++ e.channels.requests
  written : writtenMessages e.handler.results = sends e.handler.accepted
  asked : ∀ r ∈ e.handler.accepted, ∃ call : Asking, r = call.request
  packets : e.task.put =
    readMessages e.handler.results ++ drained e.handler.taskHandle ++ messages e.channels.packets
  onlyData : ∀ p ∈ e.channels.packets, ∃ bytes, p = .data bytes
  finished : ∀ closed, e.handler.taskHandle = .finished closed → e.channels.packets = [] ∧
    ∃ result, e.task.pc = .finished result ∧ closed = closedWith result closed.messages
  failures : ∀ r ∈ e.handler.results, ∀ closed, failure r = some closed →
    closed = channelClosed ∨ e.handler.taskHandle = .finished closed
  closes : ∀ rest, .close (.ok (.ok rest)) ∈ e.handler.results →
    ∃ closed, e.handler.taskHandle = .finished closed ∧ closed.messages = rest

structure Opened (e : Endpoint) : Prop where
  start : e.task.pc = .start
  handler : e.handler = {}
  alive : e.channels.handlerAlive = true
  requests : e.channels.requests = []
  packets : e.channels.packets = []
  taken : e.task.taken = []
  put : e.task.put = []

theorem new_opened (peerAddr : SocketAddr)
    (timeoutMs closeTimeoutMs keepAliveIntervalMs : UInt32) (role : ConnRole) (bufferSize : Nat) :
    Opened (Endpoint.new peerAddr timeoutMs closeTimeoutMs keepAliveIntervalMs role bufferSize) :=
  ⟨rfl, rfl, rfl, rfl, rfl, rfl, rfl⟩

/-- A host with the default configuration, and the way it gets into its loop: a
    ControlHello of 2500 ms, its ControlHelloAck and its first ping. -/
def aHost : Endpoint :=
  Endpoint.new { ip := [127, 0, 0, 1], port := 9000 } 5000 5000 2500 .host 4

def hostHandshake : List EndpointEvent :=
  [.task .begin,
    .task (.read [0x4E, 0x43, 0x44, 0x01, 0x00, 0x04, 0x00, 0x01, 0x00, 0x00, 0x09, 0xC4]),
    .task (.wrote 12), .task .spawn, .task (.enterRun 0), .task (.wrote 12)]

theorem aHost_opened : Opened aHost := new_opened _ _ _ _ _ _

theorem books_pc {e : Endpoint} (books : Books e) (pc : HandlerPc) :
    Books { e with handler := { e.handler with pc := pc } } :=
  ⟨books.requests, books.written, books.asked, books.packets, books.onlyData, books.finished,
    books.failures, books.closes⟩

theorem books_dropHandler {e : Endpoint} (books : Books e) : Books e.dropHandler :=
  ⟨books.requests, books.written, books.asked, books.packets, books.onlyData, books.finished,
    books.failures, books.closes⟩

theorem books_returns {e : Endpoint} (books : Books e) {r : CallResult}
    (read : readMessages [r] = []) (write : writtenMessages [r] = [])
    (failed : ∀ closed, failure r = some closed →
      closed = channelClosed ∨ e.handler.taskHandle = .finished closed)
    (closed : ∀ rest, r = .close (.ok (.ok rest)) →
      ∃ closed, e.handler.taskHandle = .finished closed ∧ closed.messages = rest) :
    Books (e.returns r) where
  requests := books.requests
  written := by simpa [Endpoint.returns, write] using books.written
  asked := books.asked
  packets := by simpa [Endpoint.returns, read] using books.packets
  onlyData := books.onlyData
  finished := books.finished
  failures := by
    intro q member c is
    rcases List.mem_append.mp member with old | new
    · exact books.failures q old c is
    · rw [List.mem_singleton.mp new] at is
      exact failed c is
  closes := by
    intro rest member
    rcases List.mem_append.mp member with old | new
    · exact books.closes rest old
    · exact closed rest (List.mem_singleton.mp new).symm

theorem books_join {e : Endpoint} (books : Books e) {result : Except ConnectionError Unit}
    (running : e.handler.taskHandle = .running) (done : e.task.pc = .finished result) :
    Books (e.join result) where
  requests := books.requests
  written := books.written
  asked := books.asked
  packets := by
    have counted := books.packets
    cases result <;>
      simpa [running, drained, Endpoint.join, closedWith, ConnectionClosed.messages, messages]
        using counted
  onlyData := by simp [Endpoint.join]
  finished := by
    intro closed is
    simp only [Endpoint.join, TaskState.finished.injEq] at is
    subst is
    exact ⟨rfl, result, done, by cases result <;> rfl⟩
  failures := by
    intro r member closed is
    refine (books.failures r member closed is).imp id ?_
    intro before
    rw [running] at before
    cases before
  closes := by
    intro rest member
    obtain ⟨closed, before, _⟩ := books.closes rest member
    rw [running] at before
    cases before

inductive Checked (e : Endpoint) : Except HandlerPanic (Endpoint × Option ConnectionClosed) → Prop
  where
  | panics (site : HandlerPanic) (failed : e.handler.taskHandle = .uninitialized ∨
      (∃ why, e.task.pc = .panicked why) ∨ e.task.pc = .aborted) : Checked e (.error site)
  | running (handle : e.handler.taskHandle = .running)
      (unfinished : ∀ result, e.task.pc ≠ .finished result) : Checked e (.ok (e, none))
  | joins {result : Except ConnectionError Unit} (handle : e.handler.taskHandle = .running)
      (done : e.task.pc = .finished result) :
      Checked e (.ok (e.join result, some (closedWith result (messages e.channels.packets))))
  | cached {closed : ConnectionClosed} (handle : e.handler.taskHandle = .finished closed) :
      Checked e (.ok (e, some closed))

theorem checkTaskState_checked (e : Endpoint) : Checked e e.checkTaskState := by
  unfold Endpoint.checkTaskState
  cases handle : e.handler.taskHandle with
  | uninitialized => exact .panics _ (.inl handle)
  | finished closed => exact .cached handle
  | running =>
    cases here : e.task.pc with
    | finished result => exact .joins handle here
    | panicked site => exact .panics _ (.inr (.inl ⟨site, here⟩))
    | aborted => exact .panics _ (.inr (.inr here))
    | _ => exact .running handle (by simp [here])

theorem join_cached (e : Endpoint) (result : Except ConnectionError Unit) :
    (e.join result).handler.taskHandle =
      .finished (closedWith result (messages e.channels.packets)) := rfl

theorem refused_eq (e : Endpoint) (closed : ConnectionClosed) (call : Asking) :
    (call = .close ∧ e.refused closed call = e.closeReturns (closeResult closed)) ∨
    ∃ r, failure r = some closed ∧ e.refused closed call = e.returns r := by
  cases call with
  | write bytes => exact .inr ⟨_, rfl, rfl⟩
  | getStatus => exact .inr ⟨_, rfl, rfl⟩
  | close => exact .inl ⟨rfl, rfl⟩

theorem failure_quiet {r : CallResult} {closed : ConnectionClosed}
    (failed : failure r = some closed) : readMessages [r] = [] ∧ writtenMessages [r] = [] ∧
      ∀ rest, r ≠ .close (.ok (.ok rest)) := by
  cases r with
  | write bytes r => cases r <;> simp_all [failure, readMessages, writtenMessages]
  | read r => cases r <;> simp_all [failure, readMessages, writtenMessages]
  | getStatus r => simp [readMessages, writtenMessages]
  | close r => simp [failure] at failed

theorem books_failed {e : Endpoint} (books : Books e) {r : CallResult} {closed : ConnectionClosed}
    (failed : failure r = some closed)
    (known : closed = channelClosed ∨ e.handler.taskHandle = .finished closed) :
    Books (e.returns r) := by
  obtain ⟨read, write, other⟩ := failure_quiet failed
  refine books_returns books read write ?_ fun rest is => absurd is (other rest)
  intro c is
  rw [failed, Option.some.injEq] at is
  exact is ▸ known

theorem closeResult_ok {closed : ConnectionClosed} {rest : List (List UInt8)}
    (is : closeResult closed = .ok (.ok rest)) : closed.messages = rest := by
  cases closed with
  | unknown text => simp [closeResult] at is
  | normal messages => simpa [closeResult, ConnectionClosed.messages] using is
  | error messages e => simpa [closeResult, ConnectionClosed.messages] using is

theorem closeResult_shape (closed : ConnectionClosed) :
    (∃ rest, closeResult closed = .ok (.ok rest)) ∨ ∃ c, closeResult closed = .error c := by
  cases closed with
  | normal rest => exact .inl ⟨rest, rfl⟩
  | error rest e => exact .inl ⟨rest, rfl⟩
  | unknown text => exact .inr ⟨_, rfl⟩

theorem books_closeReturns {e : Endpoint} (books : Books e)
    {r : Except ConnectionClosed (Except ConnectionError (List (List UInt8)))}
    (closed : ∀ rest, r = .ok (.ok rest) →
      ∃ closed, e.handler.taskHandle = .finished closed ∧ closed.messages = rest) :
    Books (e.closeReturns r) := by
  refine books_dropHandler (books_returns books (by rfl) (by rfl) (by simp [failure]) ?_)
  intro rest is
  exact closed rest (by simpa using is)

theorem books_cached {e : Endpoint} (books : Books e) {closed : ConnectionClosed}
    (handle : e.handler.taskHandle = .finished closed) :
    Books (e.closeReturns (closeResult closed)) :=
  books_closeReturns books fun _ is => ⟨closed, handle, closeResult_ok is⟩

theorem books_refused {e : Endpoint} (books : Books e) {closed : ConnectionClosed}
    (handle : e.handler.taskHandle = .finished closed) (call : Asking) :
    Books (e.refused closed call) := by
  rcases refused_eq e closed call with ⟨_, same⟩ | ⟨r, failed, same⟩
  · rw [same]
    exact books_cached books handle
  · rw [same]
    exact books_failed books failed (.inr handle)

theorem books_ask {e : Endpoint} (books : Books e) (call : Asking) : Books (e.ask call) := by
  unfold Endpoint.ask
  have checked := checkTaskState_checked e
  generalize e.checkTaskState = verdict at checked
  cases checked with
  | panics site failed => exact books_pc books _
  | running handle unfinished => exact books_pc books _
  | joins handle done => exact books_refused (books_join books handle done) (join_cached e _) call
  | cached handle => exact books_refused books handle call

theorem books_push {e : Endpoint} (books : Books e) (call : Asking) (pc : HandlerPc)
    (open_ : ∀ bytes, call ≠ .write bytes) :
    Books { e with
      channels := { e.channels with requests := e.channels.requests ++ [call.request] }
      handler := { e.handler with
        accepted := e.handler.accepted ++ [call.request], pc := pc } } where
  requests := by simp [books.requests]
  written := by
    have none : sends [call.request] = [] := by
      cases call with
      | write bytes => exact absurd rfl (open_ bytes)
      | _ => rfl
    simpa [none] using books.written
  asked := by
    intro r member
    rcases List.mem_append.mp member with old | new
    · exact books.asked r old
    · exact ⟨call, List.mem_singleton.mp new⟩
  packets := books.packets
  onlyData := books.onlyData
  finished := books.finished
  failures := books.failures
  closes := books.closes

theorem books_written {e : Endpoint} (books : Books e) (bytes : List UInt8) :
    Books ({ e with
      channels := { e.channels with
        requests := e.channels.requests ++ [(Asking.write bytes).request] }
      handler := { e.handler with
        accepted := e.handler.accepted ++ [(Asking.write bytes).request] } }.returns
        (.write bytes (.ok ()))) where
  requests := by simp [Endpoint.returns, books.requests]
  written := by simp [Endpoint.returns, writtenMessages, Asking.request, sends, books.written]
  asked := by
    intro r member
    rcases List.mem_append.mp member with old | new
    · exact books.asked r old
    · exact ⟨.write bytes, List.mem_singleton.mp new⟩
  packets := by simpa [Endpoint.returns, readMessages] using books.packets
  onlyData := books.onlyData
  finished := books.finished
  failures := by
    intro q member c is
    rcases List.mem_append.mp member with old | new
    · exact books.failures q old c is
    · simp [List.mem_singleton.mp new, failure] at is
  closes := by
    intro rest member
    rcases List.mem_append.mp member with old | new
    · exact books.closes rest old
    · cases List.mem_singleton.mp new

theorem books_requested {e e' : Endpoint} (books : Books e) (step : e.requested = some e') :
    Books e' := by
  unfold Endpoint.requested at step
  split at step
  · rename_i call here
    split at step
    · cases call with
      | write bytes =>
        cases step
        exact books_failed books (r := .write bytes (.error channelClosed)) rfl (.inl rfl)
      | getStatus =>
        cases step
        exact books_failed books (r := .getStatus (.error channelClosed)) rfl (.inl rfl)
      | close =>
        cases step
        exact books_closeReturns books (by simp)
    · split at step
      · cases call with
        | write bytes =>
          cases step
          exact books_written books bytes
        | getStatus =>
          cases step
          exact books_push books .getStatus _ (by simp)
        | close =>
          cases step
          exact books_push books .close _ (by simp)
      · simp at step
  · simp at step

theorem books_recv {e e' : Endpoint} (books : Books e) (step : e.recv = some e') : Books e' := by
  unfold Endpoint.recv at step
  split at step
  · rename_i packet rest here queue
    obtain ⟨bytes, rfl⟩ := books.onlyData packet (by simp [queue])
    cases step
    have running : drained e.handler.taskHandle = [] := by
      cases handle : e.handler.taskHandle with
      | finished closed => simp [(books.finished closed handle).1] at queue
      | _ => rfl
    exact {
      requests := books.requests
      written := by simpa [Endpoint.returns, writtenMessages] using books.written
      asked := books.asked
      packets := by
        have counted := books.packets
        simpa [Endpoint.returns, running, queue, messages, readMessages] using counted
      onlyData := fun p member => books.onlyData p (by rw [queue]; exact .tail _ member)
      finished := by
        intro closed handle
        simp [(books.finished closed handle).1] at queue
      failures := by
        intro q member c is
        rcases List.mem_append.mp member with old | new
        · exact books.failures q old c is
        · simp [List.mem_singleton.mp new, failure] at is
      closes := by
        intro rest member
        rcases List.mem_append.mp member with old | new
        · exact books.closes rest old
        · cases List.mem_singleton.mp new }
  · split at step
    · cases step
      exact books_pc books _
    · simp at step
  · simp at step

theorem books_recvStatus {e e' : Endpoint} (books : Books e) (step : e.recvStatus = some e') :
    Books e' := by
  unfold Endpoint.recvStatus at step
  split at step
  · rename_i status rest here queue
    cases step
    have taken : Books { e with channels := { e.channels with statuses := rest } } :=
      ⟨books.requests, books.written, books.asked, books.packets, books.onlyData,
        books.finished, books.failures, books.closes⟩
    exact books_returns taken rfl rfl (by simp [failure]) (by simp)
  · split at step
    · cases step
      exact books_pc books _
    · simp at step
  · simp at step

theorem books_check {e e' : Endpoint} (books : Books e) (step : e.check = some e') :
    Books e' := by
  have failing : ∀ {e : Endpoint} {closed : ConnectionClosed} (forStatus : Bool), Books e →
      e.handler.taskHandle = .finished closed →
      Books (if forStatus then e.returns (.getStatus (.error closed))
        else e.returns (.read (.error closed))) := by
    intro e closed forStatus books handle
    cases forStatus with
    | true => exact books_failed (r := .getStatus (.error closed)) books rfl (.inr handle)
    | false => exact books_failed (r := .read (.error closed)) books rfl (.inr handle)
  unfold Endpoint.check at step
  split at step
  · rename_i forStatus here
    have checked := checkTaskState_checked e
    generalize e.checkTaskState = verdict at checked step
    cases checked with
    | panics site failed =>
      cases step
      exact books_pc books _
    | running handle unfinished =>
      cases step
      exact books_pc books _
    | joins handle done =>
      have joined := failing forStatus (books_join books handle done) (join_cached e _)
      cases forStatus <;> cases step <;> exact joined
    | cached handle =>
      have known := failing forStatus books handle
      cases forStatus <;> cases step <;> exact known
  · simp at step

theorem books_joined {e e' : Endpoint} (books : Books e) (step : e.joined = some e') :
    Books e' := by
  unfold Endpoint.joined at step
  split at step
  · split at step
    · cases step
      exact books_pc books _
    · rename_i closed handle
      cases step
      exact books_cached books handle
    · rename_i handle
      split at step
      · rename_i result done
        cases step
        exact books_cached (books_join books handle done) (join_cached e _)
      · cases step
        exact books_pc books _
      · cases step
        exact books_pc books _
      · simp at step
  · simp at step

/- The task's side of the accounts. -/
theorem books_task {e : Endpoint} (books : Books e) {t' : Task} {ch' : Channels}
    {event : TaskEvent} (kept : event = .abort → e.handler.taskHandle = .running)
    (step : e.task.step e.channels event = some (t', ch')) :
    Books { e with task := t', channels := ch' } := by
  have finished : ∀ closed, e.handler.taskHandle = .finished closed →
      ∃ result, t'.pc = .finished result ∧ closed = closedWith result closed.messages := by
    intro closed handle
    obtain ⟨_, result, here, shape⟩ := books.finished closed handle
    refine ⟨result, step_finished here ?_ step, shape⟩
    intro abort
    rw [kept abort] at handle
    cases handle
  cases step_moves step with
  | steady same =>
    obtain ⟨taken, put, _⟩ := same
    exact {
      requests := by simpa [taken] using books.requests
      written := books.written
      asked := books.asked
      packets := by simpa [put] using books.packets
      onlyData := books.onlyData
      finished := fun closed handle => ⟨(books.finished closed handle).1, finished closed handle⟩
      failures := books.failures
      closes := books.closes }
  | reads read same =>
    obtain ⟨taken, put, _⟩ := same
    exact {
      requests := by simpa [taken, tookBytes] using books.requests
      written := books.written
      asked := books.asked
      packets := by simpa [put, tookBytes] using books.packets
      onlyData := books.onlyData
      finished := fun closed handle => ⟨(books.finished closed handle).1, finished closed handle⟩
      failures := books.failures
      closes := books.closes }
  | asks here queue =>
    exact {
      requests := by simpa [queue] using books.requests
      written := books.written
      asked := books.asked
      packets := books.packets
      onlyData := books.onlyData
      finished := fun closed handle => ⟨(books.finished closed handle).1, finished closed handle⟩
      failures := books.failures
      closes := books.closes }
  | takes queue same =>
    obtain ⟨taken, put, _⟩ := same
    exact {
      requests := by simpa [taken, queue] using books.requests
      written := books.written
      asked := books.asked
      packets := by simpa [put] using books.packets
      onlyData := books.onlyData
      finished := fun closed handle => ⟨(books.finished closed handle).1, finished closed handle⟩
      failures := books.failures
      closes := books.closes }
  | puts delivering same =>
    obtain ⟨taken, put, _⟩ := same
    exact {
      requests := by simpa [taken] using books.requests
      written := books.written
      asked := books.asked
      packets := by simp [put, books.packets, messages]
      onlyData := by
        intro p member
        rcases List.mem_append.mp member with old | new
        · exact books.onlyData p old
        · exact ⟨_, List.mem_singleton.mp new⟩
      finished := by
        intro closed handle
        obtain ⟨_, result, here, _⟩ := books.finished closed handle
        rw [delivering] at here
        cases here
      failures := books.failures
      closes := books.closes }

  | aborts dead =>
    exact {
      requests := books.requests
      written := books.written
      asked := books.asked
      packets := books.packets
      onlyData := books.onlyData
      finished := fun closed handle => ⟨(books.finished closed handle).1, finished closed handle⟩
      failures := books.failures
      closes := books.closes }

theorem books_spawned {e : Endpoint} (books : Books e) (early : e.task.pc = .connected) {t' : Task}
    (same : Steady e.task t') :
    Books { e with task := t', handler := { e.handler with taskHandle := .running } } := by
  have unknown : ∀ closed, e.handler.taskHandle ≠ .finished closed := by
    intro closed handle
    obtain ⟨_, result, here, _⟩ := books.finished closed handle
    rw [early] at here
    cases here
  have empty : drained e.handler.taskHandle = [] := by
    cases handle : e.handler.taskHandle with
    | finished closed => exact absurd handle (unknown closed)
    | _ => rfl
  exact {
    requests := by simpa [same.1] using books.requests
    written := books.written
    asked := books.asked
    packets := by simpa [same.2.1, drained, empty] using books.packets
    onlyData := books.onlyData
    finished := by simp
    failures := fun r member closed is =>
      (books.failures r member closed is).imp id fun handle => absurd handle (unknown closed)
    closes := by
      intro rest member
      obtain ⟨closed, handle, _⟩ := books.closes rest member
      exact absurd handle (unknown closed) }

theorem refused_task (e : Endpoint) (closed : ConnectionClosed) (call : Asking) :
    (e.refused closed call).task = e.task := by
  cases call <;> rfl

theorem ask_task (e : Endpoint) (call : Asking) : (e.ask call).task = e.task := by
  unfold Endpoint.ask
  have checked := checkTaskState_checked e
  generalize e.checkTaskState = verdict at checked
  cases checked with
  | panics site failed => rfl
  | running handle unfinished => rfl
  | joins handle done => exact refused_task _ _ call
  | cached handle => exact refused_task e _ call

theorem check_task {e e' : Endpoint} (step : e.check = some e') : e'.task = e.task := by
  unfold Endpoint.check at step
  split at step
  · rename_i forStatus here
    have checked := checkTaskState_checked e
    generalize e.checkTaskState = verdict at checked step
    cases checked with
    | panics site failed =>
      cases step
      rfl
    | running handle unfinished =>
      cases step
      rfl
    | joins handle done => cases forStatus <;> cases step <;> rfl
    | cached handle => cases forStatus <;> cases step <;> rfl
  · simp at step

theorem call_task {e e' : Endpoint} {event : EndpointEvent} (mine : ∀ te, event ≠ .task te)
    (step : e.step event = some e') : e'.task = e.task := by
  have guarded : ∀ {made : Endpoint}, made.task = e.task →
      (if e.callable = true then some made else none) = some e' → e'.task = e.task := by
    intro made same step
    split at step
    · cases step
      exact same
    · simp at step
  cases event with
  | task event => exact absurd rfl (mine event)
  | write bytes => exact guarded (ask_task e _) step
  | getStatus => exact guarded (ask_task e _) step
  | close => exact guarded (ask_task e _) step
  | read =>
    have same : e.read.task = e.task := rfl
    exact guarded same step
  | requested =>
    simp only [Endpoint.step] at step
    unfold Endpoint.requested at step
    split at step
    · rename_i call here
      split at step
      · cases call <;> cases step <;> rfl
      · split at step
        · cases call <;> cases step <;> rfl
        · simp at step
    · simp at step
  | recv =>
    simp only [Endpoint.step] at step
    unfold Endpoint.recv at step
    split at step
    · split at step <;> cases step <;> rfl
    · split at step <;> cases step
      rfl
    · simp at step
  | recvStatus =>
    simp only [Endpoint.step] at step
    unfold Endpoint.recvStatus at step
    split at step
    · cases step
      rfl
    · split at step <;> cases step
      rfl
    · simp at step
  | check => exact check_task step
  | joined =>
    simp only [Endpoint.step] at step
    unfold Endpoint.joined at step
    split at step
    · split at step
      · cases step
        rfl
      · cases step
        rfl
      · split at step <;> cases step <;> rfl
    · simp at step
  | cancel =>
    simp only [Endpoint.step] at step
    unfold Endpoint.cancel at step
    split at step <;> cases step <;> rfl
  | dropHandler =>
    simp only [Endpoint.step] at step
    split at step
    · simp at step
    · simp at step
    · split at step <;> cases step
      rfl

theorem task_parts {e e' : Endpoint} {event : TaskEvent} (step : e.step (.task event) = some e') :
    ∃ t' ch', e.task.step e.channels event = some (t', ch') ∧ e'.task = t' ∧ e'.channels = ch' ∧
      e'.handler.pc = e.handler.pc ∧ (e'.handler = e.handler ∨
        event = .spawn ∧ e'.handler = { e.handler with taskHandle := .running }) := by
  simp only [Endpoint.step] at step
  split at step
  · simp at step
  · simp only [Option.map_eq_some_iff, Prod.exists] at step
    obtain ⟨t', ch', step, rfl⟩ := step
    refine ⟨t', ch', step, rfl, rfl, ?_, ?_⟩
    · split <;> rfl
    · by_cases spawn : event = .spawn
      · exact .inr ⟨spawn, by simp [spawn]⟩
      · exact .inl (by simp [spawn])

theorem step_books {e e' : Endpoint} {event : EndpointEvent} (books : Books e)
    (step : e.step event = some e') : Books e' := by
  have guarded : ∀ {made : Endpoint}, Books made →
      (if e.callable = true then some made else none) = some e' → Books e' := by
    intro made good step
    split at step
    · cases step
      exact good
    · simp at step
  cases event with
  | task event =>
    simp only [Endpoint.step] at step
    split at step
    · simp at step
    · rename_i kept
      simp only [Option.map_eq_some_iff, Prod.exists] at step
      obtain ⟨t', ch', step, rfl⟩ := step
      by_cases spawn : event = .spawn
      · subst spawn
        cases task_move step with
        | spawns here =>
          exact books_spawned books here ⟨rfl, rfl, .inr rfl, Nat.le_refl _, List.prefix_rfl, rfl⟩
        | _ => contradiction
      · simp only [if_neg spawn]
        refine books_task books ?_ step
        intro abort
        by_contra other
        exact kept ⟨abort, other⟩
  | write bytes => exact guarded (books_ask books _) step
  | getStatus => exact guarded (books_ask books _) step
  | close => exact guarded (books_ask books _) step
  | read => exact guarded (books_pc books .reading) step
  | requested => exact books_requested books step
  | recv => exact books_recv books step
  | recvStatus => exact books_recvStatus books step
  | check => exact books_check books step
  | joined => exact books_joined books step
  | cancel =>
    simp only [Endpoint.step] at step
    unfold Endpoint.cancel at step
    split at step <;> cases step <;> exact books_pc books _
  | dropHandler =>
    simp only [Endpoint.step] at step
    split at step
    · simp at step
    · simp at step
    · split at step
      · cases step
        exact books_dropHandler books
      · simp at step

theorem opened_books {e : Endpoint} (opened : Opened e) : Books e where
  requests := by simp [opened.handler, opened.taken, opened.requests]
  written := by simp [opened.handler, writtenMessages, sends]
  asked := by simp [opened.handler]
  packets := by simp [opened.handler, opened.packets, opened.put, readMessages, drained, messages]
  onlyData := by simp [opened.packets]
  finished := by simp [opened.handler]
  failures := by simp [opened.handler]
  closes := by simp [opened.handler]

/-- In every state of an endpoint the accounts balance. -/
theorem run_books {e e' : Endpoint} {ok : Endpoint → EndpointEvent → Prop} (opened : Opened e)
    (run : Reaches Endpoint.step ok e e') : Books e' :=
  run.keeps (fun books _ step => step_books books step) (opened_books opened)

end NcdBooks
