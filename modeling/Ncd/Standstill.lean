import Ncd.Forwarding
import Ncd.PanicFree

/- The loop of a bridge awaits its calls. A write waits for the task to take a request, a close
   for it to end as well; the task in turn waits for the loop to read. When the two wait for
   each other, and that a loop whose reading is paused can get there. -/
namespace NcdStandstill
open NcdPacket NcdFrame NcdIoState NcdConnection NcdHandler NcdTaskMoves NcdTaskSteps NcdBooks
  NcdPanicFree NcdTurns NcdDaemon NcdBridges NcdForwarding LabelledRuns

/-- The call has not returned: it waits for a place for its request or, for close, for the end
    of the task. -/
def underway (call : Asking) : HandlerPc → Bool
  | .requesting other => other = call
  | .joining => call = .close
  | _ => false

/-- The task waits for a place in the packet channel, the call for the task: a write for a
    place in the request channel, a close in any case for the end of the task. -/
structure Wedged (call : Asking) (e : Endpoint) : Prop where
  waits : underway call e.handler.pc = true
  placed : call = .close ∨ e.channels.capacity ≤ e.channels.requests.length
  delivering : ∃ data, e.task.pc = .delivering data none
  unread : e.channels.capacity ≤ e.channels.packets.length
  alive : e.channels.handlerAlive = true

section Endpoint
variable {e e' : Endpoint} {call : Asking}

theorem delivering_passes {t t' : Task} {ch ch' : Channels} {event : TaskEvent} {data : List UInt8}
    (here : t.pc = .delivering data none) (full : ch.capacity ≤ ch.packets.length)
    (alive : ch.handlerAlive = true) (step : t.step ch event = some (t', ch')) :
    t' = { t with clock := t.clock + 1 } ∧ ch' = ch := by
  have place := takes_place (task_move step)
  rw [here] at place
  cases event with
  | pass =>
    cases step
    exact ⟨rfl, rfl⟩
  | abort => simp [Task.step, alive] at step
  | deliver => simp [Task.step, Task.deliver, here, alive, Nat.not_lt.mpr full] at step
  | _ => cases place

structure Still (e e' : Endpoint) : Prop where
  handler : e'.handler = e.handler
  channels : e'.channels = e.channels
  task : ∃ now, e'.task = { e.task with clock := now }

theorem Still.wedged (still : Still e e') (wedged : Wedged call e) : Wedged call e' := by
  obtain ⟨now, task⟩ := still.task
  obtain ⟨waits, placed, ⟨data, here⟩, unread, alive⟩ := wedged
  refine ⟨?_, ?_, ⟨data, ?_⟩, ?_, ?_⟩
  · rwa [still.handler]
  · rwa [still.channels]
  · rw [task, ← here]
  · rwa [still.channels]
  · rwa [still.channels]

theorem Still.trans {e'' : Endpoint} (first : Still e e') (second : Still e' e'') :
    Still e e'' := by
  obtain ⟨now, task⟩ := first.task
  obtain ⟨later, task'⟩ := second.task
  exact ⟨second.handler.trans first.handler, second.channels.trans first.channels, later,
    by rw [task', task]⟩

theorem wedged_task {event : TaskEvent} (wedged : Wedged call e)
    (step : e.step (.task event) = some e') : Still e e' := by
  obtain ⟨waits, placed, ⟨data, here⟩, unread, alive⟩ := wedged
  obtain ⟨-, made⟩ := Option.ite_none_left_eq_some.mp step
  obtain ⟨⟨task, channels⟩, moved, rfl⟩ := Option.map_eq_some_iff.mp made
  obtain ⟨rfl, rfl⟩ := delivering_passes here unread alive moved
  have unspawned : event ≠ .spawn := by
    rintro rfl
    have place := takes_place (task_move moved)
    rw [here] at place
    cases place
  exact ⟨by simp [unspawned], rfl, _, rfl⟩

theorem task_handler {event : TaskEvent} (step : e.step (.task event) = some e') :
    e'.handler.pc = e.handler.pc ∧ (e'.handler.taskHandle = e.handler.taskHandle ∨
      event = .spawn ∧ e'.handler.taskHandle = .running) := by
  obtain ⟨-, made⟩ := Option.ite_none_left_eq_some.mp step
  obtain ⟨_, -, rfl⟩ := Option.map_eq_some_iff.mp made
  by_cases spawns : event = .spawn
  · simp [spawns]
  · simp [spawns]

theorem wedged_requested (wedged : Wedged call e) (step : e.step .requested = some e') :
    Wedged call e' ∧ returned e e' = none ∧ e'.handler.taskHandle = e.handler.taskHandle ∧
      e.channels.requests.length < e.channels.capacity := by
  obtain ⟨waits, placed, ⟨data, here⟩, unread, alive⟩ := wedged
  simp only [Endpoint.step] at step
  unfold Endpoint.requested at step
  split at step
  · rename_i other asking
    rw [asking] at waits
    obtain rfl : other = call := by simpa [underway] using waits
    have present : connGone e.task.pc = false := by rw [here]; rfl
    rw [present] at step
    simp only [Bool.false_eq_true, if_false] at step
    split at step
    · rename_i room
      have closes : other = .close := placed.resolve_right (by omega)
      subst closes
      cases step
      exact ⟨⟨rfl, .inl rfl, ⟨data, here⟩, unread, alive⟩, by simp [returned], rfl, room⟩
    · cases step
  · cases step

theorem wedged_joins (wedged : Wedged call e) (running : e.handler.taskHandle = .running) :
    e.step .joined = none := by
  obtain ⟨-, -, ⟨data, here⟩, -, -⟩ := wedged
  simp only [Endpoint.step, Endpoint.joined, running, here]
  split <;> rfl

end Endpoint

/-- The task can go on, without the handler, until its Connection is dropped. -/
inductive Ends : Task → Channels → Prop where
  | gone {t : Task} {ch : Channels} (gone : connGone t.pc = true) : Ends t ch
  | next {t t' : Task} {ch ch' : Channels} (event : TaskEvent) (kept : event ≠ .abort)
      (step : t.step ch event = some (t', ch')) (rest : Ends t' ch') : Ends t ch

section Ends
variable {t t' : Task} {ch : Channels}

theorem ends_returned {result : Except ConnectionError Unit} (here : t.pc = .returned result) :
    Ends t ch := by
  have step : t.step ch .dropConn = some ({ t with pc := .dropped result }, ch) := by
    simp [Task.step, Task.dropConn, here]
  exact .next .dropConn (by simp) step (.gone rfl)

theorem ends_ioError (failed : t.ioError = some t') : Ends t ch := by
  have step : t.step ch .ioError = some (t', ch) := by simp [Task.step, failed]
  refine .next .ioError (by simp) step ?_
  cases task_move step with
  | losesHello | shakeBreaks => exact .gone rfl
  | losesSend | losesShutdown | runBreaks => exact ends_returned rfl
  | closeBreaks =>
    rw [finishClose_eq]
    exact ends_returned rfl
  | _ => contradiction

theorem ends_sending {rest : List UInt8} {next : Resume} (here : t.pc = .sending rest next) :
    Ends t ch := by
  have failed : ∃ t', t.ioError = some t' := by
    cases next <;> simp [Task.ioError, here]
  obtain ⟨t', failed⟩ := failed
  exact ends_ioError failed

theorem ends_send (p : Packet) (next : Resume) : Ends (t.send p next) ch := by
  rw [send_eq]
  exact ends_sending rfl

theorem ends_loopTop : Ends t.loopTop ch := by
  unfold Task.loopTop
  split
  · have failed : { t with pc := .select }.ioError =
        some { t with pc := .returned (.error .io) } := by
      simp [Task.ioError, Task.gotError]
    exact ends_ioError failed
  · split
    · exact ends_returned rfl
    · exact .gone rfl

theorem ends_spawned (here : t.pc = .spawned) : Ends t ch := by
  have step : t.step ch (.enterRun 0) = some (t.pingPeer 0, ch) := by
    simp [Task.step, Task.enterRun, here]
  exact .next (.enterRun 0) (by simp) step (ends_send _ _)

theorem ends_timeout {data : List UInt8} {inactive : Bool} {deadline : Nat}
    (here : t.pc = .delivering data (some (inactive, deadline))) : Ends t ch := by
  induction wait : deadline - t.clock generalizing t with
  | zero =>
    have due : deadline ≤ t.clock := by omega
    have step : t.step ch .closeTimeout =
        some ({ t with pc := .returned (.error .closeTimeout) }, ch) := by
      simp [Task.step, Task.closeTimeout, here, due]
    exact .next .closeTimeout (by simp) step (ends_returned rfl)
  | succ n ih =>
    have step : t.step ch .pass = some ({ t with clock := t.clock + 1 }, ch) := rfl
    refine .next .pass (by simp) step (ih here ?_)
    dsimp only
    omega

theorem ends_deliver {data : List UInt8} (here : t.pc = .delivering data none)
    (free : ch.handlerAlive = true → ch.packets.length < ch.capacity) : Ends t ch := by
  by_cases alive : ch.handlerAlive = false
  · have step : t.step ch .deliver = some (t.panic .packetChannelClosed, ch) := by
      simp [Task.step, Task.deliver, here, alive]
    exact .next .deliver (by simp) step (.gone rfl)
  · have room := free (by simpa using alive)
    have step : t.step ch .deliver = some ({ t with put := t.put ++ [data] }.loopTop,
        { ch with packets := ch.packets ++ [.data data] }) := by
      simp [Task.step, Task.deliver, here, alive, room]
    exact .next .deliver (by simp) step ends_loopTop

theorem ends_draining (here : t.pc = .draining) (unasked : .getStatus ∉ ch.requests) :
    Ends t ch := by
  cases queue : ch.requests with
  | nil =>
    have step : t.step ch .tryRecv = some (t.send .controlClose .peerClosing, ch) := by
      simp [Task.step, Task.tryRecv, here, queue]
    exact .next .tryRecv (by simp) step (ends_send _ _)
  | cons r rest =>
    cases r with
    | getStatus => simp [queue] at unasked
    | close =>
      have step : t.step ch .tryRecv = some ({ t with taken := t.taken ++ [Request.close] }.send
          .controlClose .peerClosing, { ch with requests := rest }) := by
        simp [Task.step, Task.tryRecv, here, queue]
      exact .next .tryRecv (by simp) step (ends_send _ _)
    | send packet =>
      have step : t.step ch .tryRecv =
          some ({ t with taken := t.taken ++ [Request.send packet] }.send packet .drain,
            { ch with requests := rest }) := by
        simp [Task.step, Task.tryRecv, here, queue]
      exact .next .tryRecv (by simp) step (ends_send _ _)

/-- Only a task that delivers into a full channel, or answers get_status, may have to wait for
    the handler. -/
theorem task_ends (unasked : .getStatus ∉ ch.requests)
    (silent : ∀ status, t.pc ≠ .replying status)
    (free : ∀ data, t.pc = .delivering data none → ch.handlerAlive = true →
      ch.packets.length < ch.capacity) : Ends t ch := by
  cases here : t.pc with
  | start =>
    cases role : t.conn.role with
    | device =>
      have step : t.step ch .begin =
          some (t.send (.controlHello t.conn.keepAliveIntervalMs) .helloSent, ch) := by
        simp [Task.step, Task.begin, here, role]
      exact .next .begin (by simp) step (ends_send _ _)
    | host =>
      have step : t.step ch .begin = some ({ t with pc := .awaitHello }, ch) := by
        simp [Task.step, Task.begin, here, role]
      have failed : { t with pc := .awaitHello }.ioError =
          some ({ t with pc := .awaitHello }.fail (.packetTransferError .io)) := rfl
      exact .next .begin (by simp) step (ends_ioError failed)
  | awaitHelloAck | awaitHello =>
    have failed : t.ioError = some (t.fail (.packetTransferError .io)) := by
      simp [Task.ioError, Task.gotError, here]
    exact ends_ioError failed
  | connected =>
    have step : t.step ch .spawn = some ({ t with pc := .spawned }, ch) := by
      simp [Task.step, NcdConnection.Task.spawn, here]
    exact .next .spawn (by simp) step (ends_spawned rfl)
  | spawned => exact ends_spawned here
  | select =>
    have failed : t.ioError = some { t with pc := .returned (.error .io) } := by
      simp [Task.ioError, Task.gotError, here]
    exact ends_ioError failed
  | sending rest next => exact ends_sending here
  | delivering data back =>
    cases back with
    | none => exact ends_deliver here (free data here)
    | some back => exact ends_timeout here
  | replying status => exact absurd here (silent status)
  | draining => exact ends_draining here unasked
  | shuttingDown inactive =>
    have failed : t.ioError = some { t with pc := .returned (.error .io) } := by
      simp [Task.ioError, here]
    exact ends_ioError failed
  | awaitClose inactive deadline =>
    have failed : t.ioError = some (t.finishClose (selfCloseResult inactive)) := by
      simp [Task.ioError, Task.gotError, here]
    exact ends_ioError failed
  | returned result => exact ends_returned here
  | failed | dropped | finished | panicked | aborted => exact .gone (by rw [here]; rfl)

end Ends

section Calls
variable {e e' : Endpoint}

structure Quiet (e e' : Endpoint) : Prop where
  task : e'.task = e.task
  requests : e'.channels.requests = e.channels.requests
  handle : e'.handler.taskHandle = .running → e.handler.taskHandle = .running
  still : ∀ call, underway call e'.handler.pc = false

theorem quiet_refused {closed : ConnectionClosed} (e : Endpoint) (call : Asking) :
    Quiet e (e.refused closed call) := by
  cases call <;> exact ⟨rfl, rfl, id, fun _ => rfl⟩

theorem quiet_join {r : Endpoint} {result : Except ConnectionError Unit}
    (quiet : Quiet (e.join result) r) (kept : r.handler.taskHandle ≠ .running) : Quiet e r :=
  ⟨quiet.task, quiet.requests, fun running => absurd running kept, quiet.still⟩

theorem ask_quiet (e : Endpoint) (call : Asking) : Quiet e (e.ask call) ∨
    e.handler.taskHandle = .running ∧
      e.ask call = { e with handler := { e.handler with pc := .requesting call } } := by
  unfold Endpoint.ask
  have checked := checkTaskState_checked e
  generalize e.checkTaskState = verdict at checked
  cases checked with
  | panics site failed => exact .inl ⟨rfl, rfl, id, fun _ => rfl⟩
  | running handle unfinished => exact .inr ⟨handle, rfl⟩
  | @joins result handle done =>
    refine .inl (quiet_join (quiet_refused (e.join result) call) ?_)
    cases call <;> exact nofun
  | cached handle => exact .inl (quiet_refused e call)

theorem quiet_recv (step : e.step .recv = some e') : Quiet e e' := by
  simp only [Endpoint.step] at step
  unfold Endpoint.recv at step
  split at step
  · split at step <;> cases step <;> exact ⟨rfl, rfl, id, fun _ => rfl⟩
  · split at step <;> cases step
    exact ⟨rfl, rfl, id, fun _ => rfl⟩
  · cases step

theorem quiet_check (step : e.step .check = some e') : Quiet e e' := by
  simp only [Endpoint.step] at step
  unfold Endpoint.check at step
  split at step
  · rename_i forStatus here
    have checked := checkTaskState_checked e
    generalize e.checkTaskState = verdict at checked step
    cases checked with
    | panics site failed | running handle unfinished =>
      cases step
      exact ⟨rfl, rfl, id, fun _ => rfl⟩
    | joins handle done =>
      cases forStatus <;> cases step <;> exact ⟨rfl, rfl, fun _ => handle, fun _ => rfl⟩
    | cached handle =>
      cases forStatus <;> cases step <;> exact ⟨rfl, rfl, id, fun _ => rfl⟩
  · cases step

theorem quiet_joined (step : e.step .joined = some e') : Quiet e e' := by
  simp only [Endpoint.step] at step
  unfold Endpoint.joined at step
  split at step
  · split at step
    · cases step
      exact ⟨rfl, rfl, id, fun _ => rfl⟩
    · cases step
      exact ⟨rfl, rfl, id, fun _ => rfl⟩
    · split at step <;> cases step
      · exact ⟨rfl, rfl, (fun running => by cases running), fun _ => rfl⟩
      · exact ⟨rfl, rfl, id, fun _ => rfl⟩
      · exact ⟨rfl, rfl, id, fun _ => rfl⟩
  · cases step

inductive Placed (call : Asking) (e e' : Endpoint) : Prop where
  | returns (task : e'.task = e.task) (handle : e'.handler.taskHandle = e.handler.taskHandle)
      (still : ∀ call, underway call e'.handler.pc = false)
      (requests : e'.channels.requests = e.channels.requests ∨
        e'.channels.requests = e.channels.requests ++ [call.request])
  | joins (closes : call = .close) (room : e.channels.requests.length < e.channels.capacity)
      (same : e' = { e with
        channels := { e.channels with requests := e.channels.requests ++ [.close] }
        handler := { e.handler with
          accepted := e.handler.accepted ++ [.close], pc := .joining } })

theorem requested_placed (step : e.step .requested = some e') :
    ∃ call, e.handler.pc = .requesting call ∧ Placed call e e' := by
  simp only [Endpoint.step] at step
  unfold Endpoint.requested at step
  split at step
  · rename_i call here
    refine ⟨call, here, ?_⟩
    split at step
    · cases call <;> cases step <;> exact .returns rfl rfl (fun _ => rfl) (.inl rfl)
    · split at step
      · rename_i room
        cases call with
        | close =>
          cases step
          exact .joins rfl room rfl
        | write | getStatus =>
          cases step
          exact .returns rfl rfl (fun _ => rfl) (.inr rfl)
      · cases step
  · cases step

theorem quiet_dropRead (idle : ∀ call, underway call e.handler.pc = false) :
    Quiet e (dropRead e) := by
  cases here : e.handler.pc with
  | requesting call => simp [here, underway] at idle
  | reading | awaitingStatus =>
    simp only [dropRead, Endpoint.step, Endpoint.cancel, here, Option.getD_some]
    exact ⟨rfl, rfl, id, fun _ => rfl⟩
  | idle | checking | joining | gone | panicked =>
    simp only [dropRead, Endpoint.step, Endpoint.cancel, here, Option.getD_none]
    exact ⟨rfl, rfl, id, idle⟩

theorem callable_quiet {e : Endpoint} (callable : e.callable = true) : Quiet e e :=
  ⟨rfl, rfl, id, by simp [callable_idle callable, underway]⟩

end Calls

section Bridge
variable {b d : ConnectionRun} {event : RunEvent} {call : Asking}

structure Stuck (call : Asking) (b : ConnectionRun) : Prop where
  wedged : Wedged call b.conn
  running : b.conn.handler.taskHandle = .running
  place : b.pc = .writing ∨ b.pc = .closing

/-- With the request channel full too, only the clock moves. -/
theorem stuck_step (stuck : Stuck call b) (step : b.step event = some d) :
    Stuck call d ∧ d.pc = b.pc ∧ d.forwarded = b.forwarded ∧
      (b.conn.channels.capacity ≤ b.conn.channels.requests.length → Still b.conn d.conn) := by
  obtain ⟨wedged, running, place⟩ := stuck
  have elsewhere : ∀ {pc : RunPc} {P : Prop}, b.pc = pc → pc ≠ .writing → pc ≠ .closing → P := by
    rintro pc P rfl writing closing
    exact absurd place (by simp [writing, closing])
  cases run_move step with
  | @task x conn moved =>
    have still := wedged_task wedged moved
    exact ⟨⟨still.wedged wedged, by rw [still.handler]; exact running, place⟩, rfl, rfl,
      fun _ => still⟩
  | calls made moved =>
    cases made with
    | read here | recv here | check here | write here | commanded here | close here =>
      exact elsewhere here (by simp) (by simp)
    | requested here =>
      obtain ⟨kept, none, handle, room⟩ := wedged_requested wedged moved
      unfold ConnectionRun.called
      rw [none]
      exact ⟨⟨kept, by rw [handle]; exact running, place⟩, rfl, rfl, fun full => by omega⟩
    | joined here =>
      rw [wedged_joins wedged running] at moved
      cases moved
  | starts here | toggles here | orphaned here => exact elsewhere here (by simp) (by simp)
  | mainLoopEnds => exact ⟨⟨wedged, running, place⟩, rfl, rfl, fun _ => ⟨rfl, rfl, _, rfl⟩⟩

theorem stuck_run (stuck : Stuck call b) (run : Reaches ConnectionRun.step Any b d) :
    Stuck call d ∧ d.pc = b.pc ∧ d.forwarded = b.forwarded ∧
      (b.conn.channels.capacity ≤ b.conn.channels.requests.length → Still b.conn d.conn) := by
  refine run.keeps (I := fun d => Stuck call d ∧ d.pc = b.pc ∧ d.forwarded = b.forwarded ∧
    (b.conn.channels.capacity ≤ b.conn.channels.requests.length → Still b.conn d.conn)) ?_
    ⟨stuck, rfl, rfl, fun _ => ⟨rfl, rfl, _, rfl⟩⟩
  rintro s event t ⟨before, pc, forwarded, still⟩ - step
  obtain ⟨after, pc', forwarded', next⟩ := stuck_step before step
  refine ⟨after, pc'.trans pc, forwarded'.trans forwarded, fun full => ?_⟩
  have same := (still full).channels
  exact (still full).trans (next (by rw [same]; exact full))

def awaitedAt : Asking → RunPc
  | .close => .closing
  | _ => .writing

/-- What the loop of connection_run never asks of its connection, and where it waits. -/
structure Asked (b : ConnectionRun) : Prop where
  place : ∀ call, underway call b.conn.handler.pc = true → b.pc = awaitedAt call ∧
    call ≠ .getStatus ∧ b.conn.handler.taskHandle = .running
  unasked : .getStatus ∉ b.conn.channels.requests
  silent : ∀ status, b.conn.task.pc ≠ .replying status
  past : b.conn.handler.taskHandle = .running → phase b.conn.task.pc ≠ .handshake

theorem called_pc (b : ConnectionRun) (conn : Endpoint) : (b.called conn).conn = conn ∧
    (returned b.conn conn = none → (b.called conn).pc = b.pc) := by
  unfold ConnectionRun.called
  split <;> refine ⟨?_, ?_⟩
  all_goals first
    | rfl
    | (intro none; simp_all)

theorem asked_moved (asked : Asked b) (quiet : Quiet b.conn d.conn) : Asked d where
  place call waits := by simp [quiet.still call] at waits
  unasked := by
    rw [quiet.requests]
    exact asked.unasked
  silent := by
    rw [quiet.task]
    exact asked.silent
  past running := by
    rw [quiet.task]
    exact asked.past (quiet.handle running)

theorem asked_quiet {conn : Endpoint} (asked : Asked b) (quiet : Quiet b.conn conn) :
    Asked (b.called conn) :=
  asked_moved asked (by rw [(called_pc b conn).1]; exact quiet)

theorem asked_task {x : TaskEvent} {conn : Endpoint} (asked : Asked b)
    (moved : b.conn.step (.task x) = some conn) : Asked { b with conn := conn } := by
  obtain ⟨pc, handle⟩ := task_handler moved
  obtain ⟨-, made⟩ := Option.ite_none_left_eq_some.mp moved
  obtain ⟨⟨t, ch⟩, step, rfl⟩ := Option.map_eq_some_iff.mp made
  have settles : ∀ {u : Task}, Steady u t → (∀ status, u.pc ≠ .replying status) →
      ∀ status, t.pc ≠ .replying status := by
    rintro u ⟨-, -, pc, -⟩ before status here
    rcases pc with same | settled
    · exact before status (same ▸ here)
    · simp [here, NcdTaskSteps.settled] at settled
  constructor
  · intro call waits
    obtain ⟨place, other, running⟩ := asked.place call (pc ▸ waits)
    refine ⟨place, other, ?_⟩
    rcases handle with same | ⟨-, running⟩
    · exact same.trans running
    · exact running
  · dsimp only
    cases step_moves step with
    | steady | puts | reads | aborts => exact asked.unasked
    | asks here queue | takes queue same =>
      intro member
      apply asked.unasked
      rw [queue]
      exact List.mem_cons_of_mem _ member
  · dsimp only
    cases step_moves step with
    | steady same => exact settles same asked.silent
    | asks here queue =>
      refine absurd ?_ asked.unasked
      rw [queue]
      exact List.mem_cons_self
    | takes queue same => exact settles same asked.silent
    | puts delivering same => exact settles same asked.silent
    | reads read same => exact settles same asked.silent
    | aborts dead => simp
  · intro running
    by_cases spawns : x = .spawn
    · subst spawns
      cases task_move step with
      | spawns => simp [phase]
      | _ => contradiction
    · rcases handle with same | ⟨is, -⟩
      · exact step_past (asked.past (same.symm.trans running)) step
      · exact absurd is spawns

theorem asked_ask {call : Asking} (asked : Asked b) (other : call ≠ .getStatus)
    (place : b.pc = awaitedAt call) : Asked (b.called (b.conn.ask call)) := by
  rcases ask_quiet b.conn call with quiet | ⟨running, asks⟩
  · exact asked_quiet asked quiet
  · obtain ⟨same, stays⟩ := called_pc b (b.conn.ask call)
    have none : returned b.conn (b.conn.ask call) = none := by simp [returned, asks]
    constructor
    · intro another waits
      rw [same] at waits ⊢
      rw [asks] at waits
      obtain rfl : call = another := by simpa [underway] using waits
      exact ⟨(stays none).trans place, other, by rw [asks]; exact running⟩
    · rw [same, asks]
      exact asked.unasked
    · rw [same, asks]
      exact asked.silent
    · rw [same, asks]
      exact asked.past

theorem asked_requested {conn : Endpoint} (asked : Asked b)
    (moved : b.conn.step .requested = some conn) : Asked (b.called conn) := by
  obtain ⟨same, stays⟩ := called_pc b conn
  obtain ⟨call, here, placed⟩ := requested_placed moved
  obtain ⟨place, other, running⟩ := asked.place call (by simp [here, underway])
  have unasked : .getStatus ∉ b.conn.channels.requests ++ [call.request] := by
    rw [List.mem_append, List.mem_singleton]
    rintro (old | new)
    · exact asked.unasked old
    · cases call with
      | getStatus => exact other rfl
      | write | close => cases new
  cases placed with
  | returns task handle still requests =>
    constructor
    · intro call waits
      rw [same] at waits
      simp [still call] at waits
    · rw [same]
      rcases requests with kept | added
      · rw [kept]
        exact asked.unasked
      · rw [added]
        exact unasked
    · rw [same, task]
      exact asked.silent
    · rw [same, task, handle]
      exact asked.past
  | joins closes room joining =>
    subst closes joining
    constructor
    · intro another waits
      rw [same] at waits ⊢
      obtain rfl : another = .close := by simpa [underway] using waits
      exact ⟨(stays (by simp [returned])).trans place, other, running⟩
    · rw [same]
      exact unasked
    · rw [same]
      exact asked.silent
    · rw [same]
      exact asked.past

theorem asked_called {c : ConnectionRun} {what : EndpointEvent} {conn : Endpoint} (asked : Asked b)
    (made : RunCall b event c what) (moved : c.conn.step what = some conn) :
    Asked (c.called conn) := by
  have idle : b.pc = .select → Quiet b.conn (dropRead b.conn) := by
    intro here
    refine quiet_dropRead fun call => Bool.eq_false_iff.mpr fun waits => ?_
    have place := (asked.place call waits).1
    cases call <;> simp [here, awaitedAt] at place
  cases made with
  | read here =>
    obtain ⟨-, made⟩ := Option.ite_none_right_eq_some.mp moved
    cases made
    exact asked_quiet asked ⟨rfl, rfl, id, fun _ => rfl⟩
  | recv => exact asked_quiet asked (quiet_recv moved)
  | check => exact asked_quiet asked (quiet_check moved)
  | joined => exact asked_quiet asked (quiet_joined moved)
  | requested => exact asked_requested asked moved
  | write here =>
    obtain ⟨-, made⟩ := Option.ite_none_right_eq_some.mp moved
    cases made
    exact asked_ask (asked_moved asked (idle here)) (by simp) rfl
  | commanded here =>
    obtain ⟨-, made⟩ := Option.ite_none_right_eq_some.mp moved
    cases made
    exact asked_ask (asked_moved asked (idle here)) (by simp) rfl
  | close here =>
    obtain ⟨callable, made⟩ := Option.ite_none_right_eq_some.mp moved
    cases made
    have closing : Asked { b with pc := .closing } := asked_moved asked (callable_quiet callable)
    exact asked_ask closing (by simp) rfl

theorem asked_step (asked : Asked b) (step : b.step event = some d) : Asked d := by
  cases run_move step with
  | task moved => exact asked_task asked moved
  | calls made moved => exact asked_called asked made moved
  | starts here callable => exact asked_moved asked (callable_quiet callable)
  | toggles here callable | orphaned here callable =>
    have idle : ∀ call, underway call b.conn.handler.pc = false := by
      refine fun call => Bool.eq_false_iff.mpr fun waits => ?_
      have place := (asked.place call waits).1
      cases call <;> simp [here, awaitedAt] at place
    exact asked_moved asked (quiet_dropRead idle)
  | mainLoopEnds => exact ⟨asked.place, asked.unasked, asked.silent, asked.past⟩

theorem asked_run (asked : Asked b) (run : Reaches ConnectionRun.step Any b d) : Asked d :=
  run.keeps (fun asked _ step => asked_step asked step) asked

theorem ends_lifts {t : Task} {ch : Channels} (ends : Ends t ch) (task : b.conn.task = t)
    (channels : b.conn.channels = ch) :
    ∃ d, Reaches ConnectionRun.step Any b d ∧ d.conn.handler.pc = b.conn.handler.pc ∧
      connGone d.conn.task.pc = true := by
  induction ends generalizing b with
  | gone gone => exact ⟨b, .refl b, rfl, task ▸ gone⟩
  | @next t t' ch ch' event kept step rest ih =>
    subst task channels
    have moved : ∃ handler : Handler, handler.pc = b.conn.handler.pc ∧
        b.conn.step (.task event) = some { task := t', channels := ch', handler := handler } := by
      refine ⟨if event = .spawn then { b.conn.handler with taskHandle := .running }
        else b.conn.handler, ?_, by simp [Endpoint.step, kept, step]⟩
      split <;> rfl
    obtain ⟨handler, pc, moved⟩ := moved
    have first : b.step (.task event) =
        some { b with conn := { task := t', channels := ch', handler := handler } } := by
      simp [ConnectionRun.step, moved]
    obtain ⟨d, run, same, gone⟩ :=
      @ih { b with conn := { task := t', channels := ch', handler := handler } } rfl rfl
    exact ⟨d, (Reaches.single trivial first).trans run, same.trans pc, gone⟩

theorem requested_next (asked : Asked b) (here : b.conn.handler.pc = .requesting call)
    (free : connGone b.conn.task.pc = true ∨
      call ≠ .close ∧ b.conn.channels.requests.length < b.conn.channels.capacity) :
    ∃ d, b.step .requested = some d ∧ underway call d.conn.handler.pc = false := by
  obtain ⟨place, -, -⟩ := asked.place call (by simp [here, underway])
  have fires : ∃ e, b.conn.step .requested = some e ∧ underway call e.handler.pc = false := by
    simp only [Endpoint.step, Endpoint.requested, here]
    split
    · cases call <;> exact ⟨_, rfl, rfl⟩
    · rename_i present
      obtain ⟨other, room⟩ := free.resolve_left present
      rw [if_pos room]
      cases call with
      | close => exact absurd rfl other
      | write | getStatus => exact ⟨_, rfl, rfl⟩
  obtain ⟨e, fires, done⟩ := fires
  have awaited : b.pc = .writing ∨ b.pc = .closing := by
    rw [place]
    cases call <;> simp [awaitedAt]
  refine ⟨b.called e, by simp [ConnectionRun.step, awaited, fires], ?_⟩
  rw [(called_pc b e).1]
  exact done

theorem joined_next (asked : Asked b) (here : b.conn.handler.pc = .joining)
    (gone : connGone b.conn.task.pc = true) : ∃ d, Reaches ConnectionRun.step Any b d ∧
      underway .close d.conn.handler.pc = false := by
  obtain ⟨place, -, running⟩ := asked.place .close (by simp [here, underway])
  have past := asked.past running
  -- The panics and the abort of the task panic the call; both are an end of it.
  have ended : ∀ {b : ConnectionRun}, b.pc = .closing → b.conn.handler.pc = .joining →
      b.conn.handler.taskHandle = .running →
      ((∃ result, b.conn.task.pc = .finished result) ∨ (∃ site, b.conn.task.pc = .panicked site) ∨
        b.conn.task.pc = .aborted) →
      ∃ d, b.step .joined = some d ∧ underway .close d.conn.handler.pc = false := by
    intro b place here running done
    have fires : ∃ e, b.conn.step .joined = some e ∧ underway .close e.handler.pc = false := by
      simp only [Endpoint.step, Endpoint.joined, here, running]
      rcases done with ⟨result, is⟩ | ⟨site, is⟩ | is <;> rw [is] <;> exact ⟨_, rfl, rfl⟩
    obtain ⟨e, fires, done⟩ := fires
    refine ⟨b.called e, by simp [ConnectionRun.step, place, fires], ?_⟩
    rw [(called_pc b e).1]
    exact done
  cases at_pc : b.conn.task.pc with
  | finished result =>
    obtain ⟨d, step, done⟩ := ended place here running (.inl ⟨result, at_pc⟩)
    exact ⟨d, .single trivial step, done⟩
  | panicked site =>
    obtain ⟨d, step, done⟩ := ended place here running (.inr (.inl ⟨site, at_pc⟩))
    exact ⟨d, .single trivial step, done⟩
  | aborted =>
    obtain ⟨d, step, done⟩ := ended place here running (.inr (.inr at_pc))
    exact ⟨d, .single trivial step, done⟩
  | dropped result =>
    let e : Endpoint := { b.conn with task := { b.conn.task with pc := .finished result } }
    have first : b.step (.task .finish) = some { b with conn := e } := by
      simp [e, ConnectionRun.step, Endpoint.step, Task.step, Task.finish, at_pc]
    obtain ⟨d, step, done⟩ := ended (b := { b with conn := e }) place here running
      (.inl ⟨result, rfl⟩)
    exact ⟨d, (Reaches.single trivial first).snoc trivial step, done⟩
  | failed e => simp [at_pc, phase] at past
  | _ => simp [at_pc, connGone] at gone

/-- A call of connection_run never completes if, and only if, the loop and the task wait for
    each other. -/
theorem never_returns_iff {peerAddr : SocketAddr}
    {timeoutMs closeTimeoutMs keepAliveIntervalMs : UInt32} {role : ConnRole} {bufferSize : Nat}
    (run : Reaches ConnectionRun.step Any
      { conn := Endpoint.new peerAddr timeoutMs closeTimeoutMs keepAliveIntervalMs role
          bufferSize } b) {call : Asking}
    (waits : underway call b.conn.handler.pc = true) :
    (∀ d, Reaches ConnectionRun.step Any b d → underway call d.conn.handler.pc = true) ↔
      Wedged call b.conn := by
  have asked : Asked b := by
    refine asked_run ⟨?_, ?_, ?_, ?_⟩ run <;> simp [Endpoint.new, underway]
  have completes : ∀ {d : ConnectionRun}, Reaches ConnectionRun.step Any b d →
      underway call d.conn.handler.pc = false →
      ¬ ∀ d, Reaches ConnectionRun.step Any b d → underway call d.conn.handler.pc = true := by
    intro d later done never
    simp [never d later] at done
  constructor
  · intro never
    by_contra unwedged
    by_cases free : (∃ other, b.conn.handler.pc = .requesting other) ∧ call ≠ .close ∧
        b.conn.channels.requests.length < b.conn.channels.capacity
    · obtain ⟨⟨other, here⟩, room⟩ := free
      rw [here] at waits
      obtain rfl : other = call := by simpa [underway] using waits
      obtain ⟨d, step, done⟩ := requested_next asked here (.inr room)
      exact completes (.single trivial step) done never
    · have placed : call = .close ∨
          b.conn.channels.capacity ≤ b.conn.channels.requests.length := by
        by_contra other
        rw [not_or, Nat.not_le] at other
        cases here : b.conn.handler.pc with
        | requesting asking => exact free ⟨⟨asking, here⟩, other⟩
        | joining => exact other.1 (by simpa [here, underway] using waits)
        | _ => simp [here, underway] at waits
      have ends : Ends b.conn.task b.conn.channels := by
        refine task_ends asked.unasked asked.silent fun data here alive => ?_
        by_contra packed
        exact unwedged ⟨waits, placed, ⟨data, here⟩, Nat.le_of_not_lt packed, alive⟩
      obtain ⟨d, later, same, gone⟩ := ends_lifts ends rfl rfl
      have asked' := asked_run asked later
      cases here : b.conn.handler.pc with
      | requesting other =>
        rw [here] at waits same
        obtain rfl : other = call := by simpa [underway] using waits
        obtain ⟨d', step, done⟩ := requested_next asked' same (.inl gone)
        exact completes (later.snoc trivial step) done never
      | joining =>
        rw [here] at waits same
        obtain rfl : call = .close := by simpa [underway] using waits
        obtain ⟨d', last, done⟩ := joined_next asked' same gone
        exact completes (later.trans last) done never
      | _ => simp [here, underway] at waits
  · intro wedged d later
    obtain ⟨place, -, running⟩ := asked.place call waits
    have awaited : b.pc = .writing ∨ b.pc = .closing := by
      rw [place]
      cases call <;> simp [awaitedAt]
    exact (stuck_run ⟨wedged, running, awaited⟩ later).1.wedged.waits

end Bridge

/-- A device with room for one request and one packet, up to the PauseRead of its main loop. -/
def aDevice : ConnectionRun :=
  { conn := Endpoint.new { ip := [127, 0, 0, 1], port := 9000 } 5000 5000 2500 .device 1 }

def pausing : List RunEvent :=
  [.task .begin, .task (.wrote 12),
    .task (.read [0x4E, 0x43, 0x44, 0x01, 0x00, 0x04, 0x00, 0x02, 0x00, 0x00, 0x09, 0xC4]),
    .task .spawn, .task (.enterRun 0), .task (.wrote 12), .start, .command (some .pauseRead)]

def pausedDevice : ConnectionRun := (exec ConnectionRun.step aDevice pausing).getD aDevice

/-- Two messages of the peer, and two writes of the device. -/
def stopping : List RunEvent :=
  [.task (.read [0x4E, 0x43, 0x44, 0x01, 0x00, 0x01, 0x00, 0x07, 0xAA]), .task .deliver,
    .task (.read [0x4E, 0x43, 0x44, 0x01, 0x00, 0x01, 0x00, 0x07, 0xBB]),
    .command (some (.data [0x01])), .requested, .command (some (.data [0x02]))]

def stoppedDevice : ConnectionRun := (exec ConnectionRun.step pausedDevice stopping).getD aDevice

theorem stoppedDevice_never_returns : Wedged (.write [0x02]) stoppedDevice.conn ∧
    ∀ d, Reaches ConnectionRun.step Any stoppedDevice d →
      underway (.write [0x02]) d.conn.handler.pc = true := by
  have run : exec ConnectionRun.step aDevice (pausing ++ stopping) = some stoppedDevice := by
    decide +kernel
  have waits : underway (.write [0x02]) stoppedDevice.conn.handler.pc = true := by decide +kernel
  have wedged : Wedged (.write [0x02]) stoppedDevice.conn :=
    ⟨waits, by decide +kernel, ⟨[0xBB], by decide +kernel⟩, by decide +kernel, by decide +kernel⟩
  exact ⟨wedged, (never_returns_iff (reaches_of_exec _ run) waits).mpr wedged⟩

section Filling
variable {e : Endpoint} {b : ConnectionRun}

def aMessage : List UInt8 := [0x4E, 0x43, 0x44, 0x01, 0x00, 0x01, 0x00, 0x07, 0xAA]

/-- No call is running, and the task waits in its select! with nothing half read. -/
structure Resting (e : Endpoint) : Prop where
  idle : e.handler.pc = .idle
  running : e.handler.taskHandle = .running
  selecting : e.task.pc = .select
  connected : e.task.conn.state = .connected
  bytes : e.task.conn.io.byteBuffer = []
  frames : e.task.conn.io.frameBuffer = []
  packets : e.task.conn.io.packetBuffer = []
  alive : e.channels.handlerAlive = true

theorem reads_message {io : IoState} (bytes : io.byteBuffer = []) (frames : io.frameBuffer = [])
    (packets : io.packetBuffer = []) : io.readBytes aMessage = .ok { io with
      stream := { io.stream with consumed := io.stream.consumed ++ aMessage }
      packetBuffer := [.data [0xAA]] } := by
  have decoded : frameDecoder.drain aMessage [] = .ok ([], [⟨.end_, 7, [0xAA]⟩]) := by
    decide +kernel
  have assembled : packetDecoder.drain [⟨.end_, 7, [0xAA]⟩] [] = .ok ([], [.data [0xAA]]) := by
    decide +kernel
  simp [IoState.readBytes, bytes, frames, packets, decoded, assembled]

theorem message_read (resting : Resting e) : ∃ t,
    e.step (.task (.read aMessage)) = some { e with task := t } ∧
      t.pc = .delivering [0xAA] none ∧ t.conn.state = .connected ∧
      t.conn.io.byteBuffer = [] ∧ t.conn.io.frameBuffer = [] ∧ t.conn.io.packetBuffer = [] := by
  have reads := reads_message resting.bytes resting.frames resting.packets
  have long : aMessage ≠ [] := by decide
  let conn : Connection := { e.task.conn with io := { e.task.conn.io with
    stream := { e.task.conn.io.stream with
      consumed := e.task.conn.io.stream.consumed ++ aMessage } } }
  have read : e.task.read aMessage = some { e.task with
      conn := conn.resetTimers e.task.clock
      received := e.task.received ++ [.data [0xAA]]
      pc := .delivering [0xAA] none } := by
    simp [conn, Task.read, Pc.receiving, resting.packets, long, reads, Task.popPacket,
      Task.gotPacket, resting.selecting, Task.handlePacket]
  refine ⟨{ e.task with
      conn := conn.resetTimers e.task.clock
      received := e.task.received ++ [.data [0xAA]]
      pc := .delivering [0xAA] none }, ?_, rfl, ?_, ?_, ?_, ?_⟩
  · simp only [Endpoint.step, reduceCtorEq, false_and, if_false, Task.step, read, Option.map_some]
  · exact resting.connected
  · exact resting.bytes
  · exact resting.frames
  · exact resting.packets

theorem message_put (resting : Resting e) (room : e.channels.packets.length < e.channels.capacity) :
    ∃ e', Reaches Endpoint.step
        (fun _ event => event = .task (.read aMessage) ∨ event = .task .deliver) e e' ∧
      Resting e' ∧
      e'.channels = { e.channels with packets := e.channels.packets ++ [.data [0xAA]] } := by
  obtain ⟨t, read, delivering, connected, bytes, frames, packets⟩ := message_read resting
  have put : { e with task := t }.step (.task .deliver) = some { e with
      task := { t with put := t.put ++ [[0xAA]], pc := .select }
      channels := { e.channels with packets := e.channels.packets ++ [.data [0xAA]] } } := by
    simp [Endpoint.step, Task.step, Task.deliver, delivering, resting.alive, room,
      Task.loopTop, connected]
  exact ⟨_, (Reaches.single (.inl rfl) read).snoc (.inr rfl) put,
    ⟨resting.idle, resting.running, rfl, connected, bytes, frames, packets, resting.alive⟩, rfl⟩

/-- The peer sends a message, which the task delivers, or the device writes, and its write gets
    a place. -/
def traffic : RunEvent → Bool
  | .task (.read chunk) => chunk = aMessage
  | .task .deliver | .command (some (.data _)) | .requested => true
  | _ => false

/-- The main loop has told connection_run to stop reading, and there is traffic only. -/
def Paused (b : ConnectionRun) (event : RunEvent) : Prop :=
  b.readPaused = true ∧ traffic event = true

theorem task_lifts {e : Endpoint} (paused : b.readPaused = true)
    (run : Reaches Endpoint.step
      (fun _ event => event = .task (.read aMessage) ∨ event = .task .deliver) b.conn e) :
    Reaches ConnectionRun.step Paused b { b with conn := e } := by
  have lifts : ∀ {t u : Endpoint} {x : TaskEvent}, t.step (.task x) = some u →
      ConnectionRun.step { b with conn := t } (.task x) = some { b with conn := u } := by
    intro t u x last
    simp only [ConnectionRun.step, last, Option.map_some]
  induction run with
  | refl => exact .refl b
  | snoc before allowed last ih =>
    rcases allowed with rfl | rfl
    · exact ih.snoc ⟨paused, by simp [traffic]⟩ (lifts last)
    · exact ih.snoc ⟨paused, rfl⟩ (lifts last)

/-- The loop does not read, and the peer goes on sending. -/
theorem packets_fill (select : b.pc = .select) (paused : b.readPaused = true)
    (resting : Resting b.conn)
    (fits : b.conn.channels.packets.length ≤ b.conn.channels.capacity) :
    ∃ d, Reaches ConnectionRun.step Paused b d ∧ d.pc = .select ∧ d.readPaused = true ∧
      Resting d.conn ∧
      d.conn.channels.packets.length = d.conn.channels.capacity ∧
      d.conn.channels.requests = b.conn.channels.requests ∧
      d.conn.channels.capacity = b.conn.channels.capacity := by
  induction left : b.conn.channels.capacity - b.conn.channels.packets.length generalizing b with
  | zero => exact ⟨b, .refl b, select, paused, resting, by omega, rfl, rfl⟩
  | succ n ih =>
    obtain ⟨e, run, rests, channels⟩ := message_put resting (by omega)
    have first := task_lifts paused run
    have fits' : e.channels.packets.length ≤ e.channels.capacity := by
      simp [channels]
      omega
    obtain ⟨d, later, place, paused', rests', full, requests, capacity⟩ :=
      @ih { b with conn := e } select paused rests fits' (by simp [channels]; omega)
    refine ⟨d, first.trans later, place, paused', rests', full, ?_, ?_⟩
    · rw [requests, channels]
    · rw [capacity, channels]

/-- The packet channel is full, and the task has one more message for it. -/
structure Holding (e : Endpoint) : Prop where
  idle : e.handler.pc = .idle
  running : e.handler.taskHandle = .running
  delivering : ∃ data, e.task.pc = .delivering data none
  unread : e.channels.capacity ≤ e.channels.packets.length
  alive : e.channels.handlerAlive = true

theorem write_waits (holding : Holding e) (bytes : List UInt8) :
    (dropRead e).step (.write bytes) =
      some { e with handler := { e.handler with pc := .requesting (.write bytes) } } := by
  obtain ⟨idle, running, ⟨data, delivering⟩, unread, alive⟩ := holding
  have kept : dropRead e = e := by simp [dropRead, Endpoint.step, Endpoint.cancel, idle]
  simp [kept, Endpoint.step, Endpoint.callable, idle, running, Endpoint.write, Endpoint.ask,
    Endpoint.checkTaskState, delivering]

theorem write_starts (select : b.pc = .select) (holding : Holding b.conn) (bytes : List UInt8) :
    b.step (.command (some (.data bytes))) = some { b with
      conn := { b.conn with handler := { b.conn.handler with pc := .requesting (.write bytes) } }
      pc := .writing } := by
  have waits := write_waits holding bytes
  have kept : (dropRead b.conn).handler.results = b.conn.handler.results := by
    simp [dropRead, Endpoint.step, Endpoint.cancel, holding.idle]
  simp [ConnectionRun.step, ConnectionRun.command, select, waits, ConnectionRun.called, returned,
    kept]

theorem write_taken (select : b.pc = .select) (paused : b.readPaused = true)
    (holding : Holding b.conn)
    (room : b.conn.channels.requests.length < b.conn.channels.capacity) :
    ∃ d, Reaches ConnectionRun.step Paused b d ∧ d.pc = .select ∧ d.readPaused = true ∧
      Holding d.conn ∧
      d.conn.channels.requests.length = b.conn.channels.requests.length + 1 ∧
      d.conn.channels.capacity = b.conn.channels.capacity := by
  have first := write_starts select holding [0x01]
  obtain ⟨idle, running, ⟨data, delivering⟩, unread, alive⟩ := holding
  let waiting : ConnectionRun := { b with
    conn := { b.conn with handler := { b.conn.handler with pc := .requesting (.write [0x01]) } }
    pc := .writing }
  have second : waiting.step .requested = some { b with
      conn := { b.conn with
        channels := { b.conn.channels with
          requests := b.conn.channels.requests ++ [.send (.data [0x01])] }
        handler := { b.conn.handler with
          pc := .idle
          accepted := b.conn.handler.accepted ++ [.send (.data [0x01])]
          results := b.conn.handler.results ++ [.write [0x01] (.ok ())] } }
      pc := .select } := by
    simp [waiting, ConnectionRun.step, Endpoint.step, Endpoint.requested, delivering, connGone,
      room, ConnectionRun.called, returned, Endpoint.returns, Asking.request]
  have still : Paused waiting .requested := ⟨paused, rfl⟩
  have writes : Paused b (.command (some (.data [0x01]))) := ⟨paused, rfl⟩
  have run : Reaches ConnectionRun.step Paused b _ := (Reaches.single writes first).snoc still second
  exact ⟨_, run, rfl, paused, ⟨rfl, running, ⟨data, delivering⟩, unread, alive⟩, by simp, rfl⟩

theorem requests_fill (select : b.pc = .select) (paused : b.readPaused = true)
    (holding : Holding b.conn)
    (fits : b.conn.channels.requests.length ≤ b.conn.channels.capacity) :
    ∃ d, Reaches ConnectionRun.step Paused b d ∧ d.pc = .writing ∧
      d.conn.channels.capacity ≤ d.conn.channels.requests.length ∧ Stuck (.write [0x01]) d := by
  induction left : b.conn.channels.capacity - b.conn.channels.requests.length generalizing b with
  | zero =>
    have full : b.conn.channels.capacity ≤ b.conn.channels.requests.length := by omega
    have writes : Paused b (.command (some (.data [0x01]))) := ⟨paused, rfl⟩
    have wedged : Wedged (.write [0x01]) { b.conn with
        handler := { b.conn.handler with pc := .requesting (.write [0x01]) } } :=
      ⟨by simp [underway], .inr full, holding.delivering, holding.unread, holding.alive⟩
    exact ⟨_, .single writes (write_starts select holding [0x01]), rfl, full, wedged,
      holding.running, .inl rfl⟩
  | succ n ih =>
    obtain ⟨m, run, select', paused', holding', more, capacity⟩ :=
      write_taken select paused holding (by omega)
    obtain ⟨d, later, stops⟩ := ih select' paused' holding' (by omega) (by omega)
    exact ⟨d, run.trans later, stops⟩

/-- From wherever a paused loop rests, whatever the size of the channels, messages of the peer
    and writes of the device can stop it for good: the commands that come then, ResumeRead and
    Close among them, are never taken, and no timer of the task runs. -/
theorem paused_loop_stops {b : ConnectionRun} (select : b.pc = .select)
    (paused : b.readPaused = true) (resting : Resting b.conn)
    (packets : b.conn.channels.packets.length ≤ b.conn.channels.capacity)
    (requests : b.conn.channels.requests.length ≤ b.conn.channels.capacity) :
    ∃ d, Reaches ConnectionRun.step Paused b d ∧ ∀ d', Reaches ConnectionRun.step Any d d' →
      d'.pc = .writing ∧ d'.forwarded = d.forwarded ∧ d'.conn.handler = d.conn.handler ∧
        d'.conn.channels = d.conn.channels ∧
        ∃ now, d'.conn.task = { d.conn.task with clock := now } := by
  obtain ⟨m, run, select', paused', resting', full, same, capacity⟩ :=
    packets_fill select paused resting packets
  obtain ⟨t, read, delivering, -⟩ := message_read resting'
  have next : m.step (.task (.read aMessage)) =
      some { m with conn := { m.conn with task := t } } := by
    simp only [ConnectionRun.step, read, Option.map_some]
  have holding : Holding { m.conn with task := t } :=
    ⟨resting'.idle, resting'.running, ⟨_, delivering⟩, Nat.le_of_eq full.symm, resting'.alive⟩
  have fits : m.conn.channels.requests.length ≤ m.conn.channels.capacity := by
    rw [same, capacity]
    exact requests
  obtain ⟨d, later, writing, filled, stuck⟩ :=
    @requests_fill { m with conn := { m.conn with task := t } } select' paused' holding fits
  refine ⟨d, (run.snoc ⟨paused', by simp [traffic]⟩ next).trans later, fun d' last => ?_⟩
  obtain ⟨-, pc, forwarded, still⟩ := stuck_run stuck last
  exact ⟨pc.trans writing, forwarded, (still filled).handler, (still filled).channels,
    (still filled).task⟩

theorem pausedDevice_stops : exec ConnectionRun.step aDevice pausing = some pausedDevice ∧
    ∃ d, Reaches ConnectionRun.step Paused pausedDevice d ∧
      ∀ d', Reaches ConnectionRun.step Any d d' →
        d'.pc = .writing ∧ d'.forwarded = d.forwarded ∧ d'.conn.handler = d.conn.handler ∧
          d'.conn.channels = d.conn.channels ∧
          ∃ now, d'.conn.task = { d.conn.task with clock := now } := by
  have resting : Resting pausedDevice.conn := by
    constructor <;> decide +kernel
  exact ⟨by decide +kernel, paused_loop_stops (by decide +kernel) (by decide +kernel) resting
    (by decide +kernel) (by decide +kernel)⟩

end Filling

end NcdStandstill
