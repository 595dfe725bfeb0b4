import Ncd.Forwarding
import Ncd.Pipeline
import Ncd.WireGrammar

/- One connection_run and the messages it is given: between the command channel and the
   ControlClose of its connection nothing is lost and nothing overtakes. -/
namespace NcdLinkOrder
open NcdPacket NcdIoState NcdConnection NcdHandler NcdTaskMoves NcdTaskSteps NcdBooks NcdPanicFree
  NcdHandlerCalls NcdDaemon NcdBridges NcdForwarding NcdWireGrammar NcdPipeline LabelledRuns

def drains : Pc → Bool
  | .draining | .sending _ .drain => true
  | _ => false

def HandlesClose (t : Task) (event : TaskEvent) : Prop :=
  t.pc = .select ∧ received t event = some .controlClose

instance (t : Task) (event : TaskEvent) : Decidable (HandlesClose t event) :=
  inferInstanceAs (Decidable (_ ∧ _))

/-- A piece of the task that announces no close and starts no drain loop. -/
def StaysOpen (t u : Task) : Prop :=
  drains u.pc = false ∧ (.controlClose ∈ u.sent → .controlClose ∈ t.sent)

variable {t t' u : Task}

theorem open_send (sent : u.sent = t.sent) {p : Packet} {next : Resume} (close : p ≠ .controlClose)
    (drain : next ≠ .drain) : StaysOpen t (u.send p next) := by
  rw [send_eq]
  constructor
  · cases next with
    | drain => exact absurd rfl drain
    | _ => rfl
  · intro member
    rw [List.mem_append, List.mem_singleton, sent] at member
    exact member.resolve_right fun is => close is.symm

theorem open_loopTop (sent : u.sent = t.sent) : StaysOpen t u.loopTop := by
  unfold Task.loopTop
  split
  · exact ⟨rfl, fun member => sent ▸ member⟩
  · split <;> exact ⟨rfl, fun member => sent ▸ member⟩

theorem open_startTimers (sent : u.sent = t.sent) (peer : UInt32) :
    StaysOpen t (u.startTimers peer) := by
  unfold Task.startTimers
  split <;> exact ⟨rfl, fun member => sent ▸ member⟩

theorem open_resume (sent : u.sent = t.sent) {next : Resume} (drain : next ≠ .drain) :
    StaysOpen t (u.resume next) := by
  cases next with
  | drain => exact absurd rfl drain
  | loop => exact open_loopTop sent
  | ackSent peer => exact open_startTimers sent peer
  | _ => exact ⟨rfl, fun member => sent ▸ member⟩

theorem open_handlePacket (sent : u.sent = t.sent) {p : Packet} (close : p ≠ .controlClose) :
    StaysOpen t (u.handlePacket p) := by
  cases p with
  | controlClose => exact absurd rfl close
  | controlPing id => exact open_send (p := .controlPong id) sent (by simp) (by simp)
  | controlPong id => exact open_loopTop sent
  | controlKeepAlive => exact open_loopTop sent
  | _ => exact ⟨rfl, fun member => sent ▸ member⟩

/-- ControlClose goes out only once the handler has asked for it. -/
def Asked (t t' : Task) : Prop :=
  drains t'.pc = false ∧ (.controlClose ∈ t'.sent → .controlClose ∈ t.sent ∨ .close ∈ t'.taken)

theorem asked_of (stays : StaysOpen t t') : Asked t t' :=
  ⟨stays.1, fun member => .inl (stays.2 member)⟩

theorem asked_closeBySelf (asked : .close ∈ u.taken) (inactive : Bool) :
    Asked t (u.closeBySelf inactive) := by
  unfold Task.closeBySelf
  split
  · exact ⟨rfl, fun _ => .inr asked⟩
  · rw [send_eq]
    exact ⟨rfl, fun _ => .inr asked⟩

/-- Whoever gives ControlClose to send_packet was asked to by the handler: the inactivity
    timeout and the close of the peer are left out. -/
theorem step_asked {ch ch' : Channels} {event : TaskEvent} (undrained : drains t.pc = false)
    (user : UserRequests ch.requests) (timely : event ≠ .activeTimeoutTick)
    (open_ : ¬ HandlesClose t event) (step : t.step ch event = some (t', ch')) :
    Asked t t' := by
  have stays : StaysOpen t t' → Asked t t' := asked_of
  cases task_move step with
  | timesOut => exact absurd rfl timely
  | drained here | drainsClose here | drainsSend here | drainsGetStatus here =>
    rw [here] at undrained
    cases undrained
  | takesClose =>
    apply asked_closeBySelf
    exact List.mem_append.mpr (.inr (List.mem_singleton.mpr rfl))
  | takesSend here queue =>
    obtain ⟨bytes, rfl⟩ := user_send user queue
    refine stays (open_send ?_ (by simp) (by simp))
    rfl
  | saysHello | keepsAlive =>
    refine stays (open_send ?_ (by simp) (by simp))
    rfl
  | greeted here hands => exact stays (open_send (hands_sent hands) (by simp) (by simp))
  | entersRun | queries =>
    unfold Task.pingPeer
    refine stays (open_send ?_ (by simp) (by simp))
    rfl
  | @writes n rest next here =>
    refine stays ⟨?_, id⟩
    rw [here] at undrained
    cases next with
    | drain => cases undrained
    | _ => rfl
  | @resumes n rest next here =>
    refine stays (open_resume ?_ ?_)
    · rfl
    · rintro rfl
      rw [here] at undrained
      cases undrained
  | reads | passes => exact stays ⟨undrained, id⟩
  | acknowledged here hands => exact stays (open_startTimers (hands_sent hands) _)
  | @handles _ p u here hands =>
    have other : p ≠ .controlClose := by
      rintro rfl
      exact open_ ⟨here, hands_received hands⟩
    exact stays (open_handlePacket (hands_sent hands) other)
  | delivers | replies =>
    refine stays (open_loopTop ?_)
    rfl
  | closeSkips here other control hands =>
    refine stays ⟨?_, fun member => hands_sent hands ▸ member⟩
    rw [hands_eq hands, withIo, here]
    rfl
  | misgreeted here hands | closeMeets here hands | closeGets here hands =>
    exact stays ⟨rfl, fun member => hands_sent hands ▸ member⟩
  | shakeBreaks here breaks | runBreaks here breaks | closeBreaks here breaks =>
    exact stays ⟨rfl, fun member => breaks_sent breaks ▸ member⟩
  | _ => exact stays ⟨rfl, id⟩

theorem gone_sent {ch ch' : Channels} {event : TaskEvent} (gone : connGone t.pc = true)
    (step : t.step ch event = some (t', ch')) : t'.sent = t.sent := by
  rcases gone_moves gone step with rfl | ⟨-, rfl⟩ | ⟨result, -, rfl⟩ <;> rfl

def inFlight : HandlerPc → List (List UInt8)
  | .requesting (.write bytes) => [bytes]
  | _ => []

def dataOf : List WriteCommand → List (List UInt8)
  | [] => []
  | .data bytes :: commands => bytes :: dataOf commands
  | _ :: commands => dataOf commands

@[simp] theorem dataOf_append (cs ds : List WriteCommand) :
    dataOf (cs ++ ds) = dataOf cs ++ dataOf ds := by
  induction cs with
  | nil => rfl
  | cons c cs ih => cases c <;> simp [dataOf, ih]

/-- A call in the loop, asked to write some messages: the Connection is gone, or what the
    handler has accepted and holds has grown by them and the call does not fail. -/
structure Fate (e e' : Endpoint) (asked : List (List UInt8)) : Prop where
  account : connGone e.task.pc = true ∨
    (sends e'.handler.accepted ++ inFlight e'.handler.pc =
      sends e.handler.accepted ++ inFlight e.handler.pc ++ asked ∧
      ∀ r, returned e e' = some r → goesOn r = .looping)
  still : asked = [] → inFlight e.handler.pc = [] → inFlight e'.handler.pc = []
  unasked : .close ∉ e.handler.accepted → .close ∉ e'.handler.accepted

variable {e e' : Endpoint} {handed : List (List UInt8)}

theorem returned_none (results : e'.handler.results = e.handler.results) {r : CallResult} :
    returned e e' ≠ some r := by
  simp [returned, results]

theorem returned_last {q r : CallResult} (results : e'.handler.results = e.handler.results ++ [q])
    (found : returned e e' = some r) : r = q := by
  simpa [returned, results, eq_comm] using found

theorem fate_read (step : e.step .read = some e') : Fate e e' [] := by
  simp only [Endpoint.step] at step
  split at step <;> cases step
  rename_i callable
  refine ⟨.inr ⟨?_, fun r found => absurd found (returned_none rfl)⟩, fun _ _ => rfl, id⟩
  rw [callable_idle callable]
  simp [Endpoint.read, inFlight]

theorem fate_recv (step : e.step .recv = some e') : Fate e e' [] := by
  simp only [Endpoint.step] at step
  unfold Endpoint.recv at step
  split at step
  · rename_i here queue
    split at step
    · cases step
      refine ⟨.inr ⟨by simp [here, Endpoint.returns, inFlight], fun r found => ?_⟩,
        fun _ _ => rfl, id⟩
      rw [returned_last rfl found]
      rfl
    · cases step
      exact ⟨.inr ⟨by simp [here, Endpoint.panic, inFlight], fun r found =>
        absurd found (returned_none rfl)⟩, fun _ _ => rfl, id⟩
  · rename_i here queue
    split at step <;> cases step
    exact ⟨.inr ⟨by simp [here, inFlight], fun r found => absurd found (returned_none rfl)⟩,
      fun _ _ => rfl, id⟩
  · cases step

theorem fate_check (bridged : Bridged e handed .looping) (step : e.step .check = some e') :
    Fate e e' [] := by
  simp only [Endpoint.step] at step
  unfold Endpoint.check at step
  split at step
  · rename_i forStatus here
    have own : forStatus = false := by
      have stand := bridged.stands
      rw [here] at stand
      cases forStatus with
      | false => rfl
      | true => cases stand
    subst own
    have gone := (bridged.checks here).2
    have checked := checkTaskState_checked e
    generalize e.checkTaskState = verdict at checked step
    cases checked with
    | panics site failed =>
      cases step
      exact ⟨.inl gone, fun _ _ => rfl, id⟩
    | running handle unfinished =>
      cases step
      exact ⟨.inl gone, fun _ _ => rfl, id⟩
    | joins handle done =>
      cases step
      exact ⟨.inl gone, fun _ _ => rfl, id⟩
    | cached handle =>
      cases step
      exact ⟨.inl gone, fun _ _ => rfl, id⟩
  · cases step

theorem fate_write {bytes : List UInt8} (books : Books e)
    (step : e.step (.write bytes) = some e') : Fate e e' [bytes] := by
  simp only [Endpoint.step] at step
  split at step
  · rename_i callable
    have idle := callable_idle callable
    simp only [Endpoint.callable, ne_eq, decide_not, Bool.and_eq_true, Bool.not_eq_true',
      decide_eq_false_iff_not, decide_eq_true_eq] at callable
    simp only [Endpoint.write, Endpoint.ask] at step
    have checked := checkTaskState_checked e
    generalize e.checkTaskState = verdict at checked step
    cases checked with
    | panics site failed =>
      cases step
      refine ⟨.inl ?_, by simp, id⟩
      rcases failed with none | ⟨why, panicked⟩ | aborted
      · exact absurd none callable.1
      · rw [panicked]
        rfl
      · rw [aborted]
        rfl
    | running handle unfinished =>
      cases step
      exact ⟨.inr ⟨by simp [idle, inFlight], fun r found => absurd found (returned_none rfl)⟩,
        by simp, id⟩
    | joins handle done =>
      cases step
      refine ⟨.inl ?_, by simp, id⟩
      rw [done]
      rfl
    | cached handle =>
      cases step
      obtain ⟨_, result, done, _⟩ := books.finished _ handle
      refine ⟨.inl ?_, by simp, id⟩
      rw [done]
      rfl
  · cases step

theorem fate_requested (bridged : Bridged e handed .looping)
    (step : e.step .requested = some e') : Fate e e' [] := by
  have stand := bridged.stands
  simp only [Endpoint.step] at step
  unfold Endpoint.requested at step
  split at step
  · rename_i call here
    rw [here] at stand
    cases call with
    | getStatus => cases stand
    | close => cases stand
    | write bytes =>
      dsimp only at step
      split at step
      · rename_i gone
        cases step
        exact ⟨.inl gone, fun _ _ => rfl, id⟩
      · split at step <;> cases step
        refine ⟨.inr ⟨?_, fun r found => ?_⟩, fun _ _ => rfl, ?_⟩
        · simp [here, Endpoint.returns, inFlight, Asking.request, sends]
        · rw [returned_last rfl found]
          rfl
        · simp [Endpoint.returns, Asking.request]
  · cases step

/-- A call of close, or the end of one: it accepts no message. -/
structure Closing (e e' : Endpoint) : Prop where
  sends : sends e'.handler.accepted = sends e.handler.accepted
  inFlight : inFlight e.handler.pc = [] ∧ inFlight e'.handler.pc = []
  accepted : e'.handler.accepted = e.handler.accepted ∧ NcdTurns.shut e.handler.pc = true ∧
      NcdTurns.shut e'.handler.pc = true ∨
    NcdTurns.shut e.handler.pc = false ∧ (e'.handler.accepted = e.handler.accepted ∨
      e'.handler.accepted = e.handler.accepted ++ [.close] ∧ NcdTurns.shut e'.handler.pc = true)
  returned : ∀ r, returned e e' = some r → goesOn r = .ended

theorem closing_close (step : e.step .close = some e') : Closing e e' := by
  simp only [Endpoint.step] at step
  split at step
  · rename_i callable
    have idle := callable_idle callable
    have before : NcdTurns.shut e.handler.pc = false := by rw [idle]; rfl
    simp only [Endpoint.close, Endpoint.ask] at step
    have checked := checkTaskState_checked e
    generalize e.checkTaskState = verdict at checked step
    cases checked with
    | panics site failed =>
      cases step
      exact ⟨rfl, ⟨by rw [idle]; rfl, rfl⟩, .inr ⟨before, .inl rfl⟩, fun r found =>
        absurd found (returned_none rfl)⟩
    | running handle unfinished =>
      cases step
      exact ⟨rfl, ⟨by rw [idle]; rfl, rfl⟩, .inr ⟨before, .inl rfl⟩, fun r found =>
        absurd found (returned_none rfl)⟩
    | joins handle done =>
      cases step
      exact ⟨rfl, ⟨by rw [idle]; rfl, rfl⟩, .inr ⟨before, .inl rfl⟩, fun r found => by
        rw [returned_last rfl found]; rfl⟩
    | cached handle =>
      cases step
      exact ⟨rfl, ⟨by rw [idle]; rfl, rfl⟩, .inr ⟨before, .inl rfl⟩, fun r found => by
        rw [returned_last rfl found]; rfl⟩
  · cases step

theorem closing_requested (bridged : Bridged e handed .leaving)
    (step : e.step .requested = some e') : Closing e e' := by
  have stand := bridged.stands
  simp only [Endpoint.step] at step
  unfold Endpoint.requested at step
  split at step
  · rename_i call here
    rw [here] at stand
    cases call with
    | getStatus => cases stand
    | write bytes => cases stand
    | close =>
      have before : NcdTurns.shut e.handler.pc = false := by rw [here]; rfl
      dsimp only at step
      split at step
      · cases step
        exact ⟨rfl, ⟨by rw [here]; rfl, rfl⟩, .inr ⟨before, .inl rfl⟩, fun r found => by
          rw [returned_last rfl found]; rfl⟩
      · split at step <;> cases step
        refine ⟨?_, ⟨by rw [here]; rfl, rfl⟩, .inr ⟨before, .inr ⟨rfl, rfl⟩⟩, fun r found =>
          absurd found (returned_none rfl)⟩
        simp [Asking.request, sends]
  · cases step

theorem closing_joined (step : e.step .joined = some e') : Closing e e' := by
  simp only [Endpoint.step] at step
  unfold Endpoint.joined at step
  split at step
  · rename_i here
    have before : NcdTurns.shut e.handler.pc = true := by rw [here]; rfl
    have none : inFlight e.handler.pc = [] := by rw [here]; rfl
    split at step
    · cases step
      exact ⟨rfl, ⟨none, rfl⟩, .inl ⟨rfl, before, rfl⟩, fun r found =>
        absurd found (returned_none rfl)⟩
    · cases step
      exact ⟨rfl, ⟨none, rfl⟩, .inl ⟨rfl, before, rfl⟩, fun r found => by
        rw [returned_last rfl found]; rfl⟩
    · split at step
      · cases step
        exact ⟨rfl, ⟨none, rfl⟩, .inl ⟨rfl, before, rfl⟩, fun r found => by
          rw [returned_last rfl found]; rfl⟩
      · cases step
        exact ⟨rfl, ⟨none, rfl⟩, .inl ⟨rfl, before, rfl⟩, fun r found =>
          absurd found (returned_none rfl)⟩
      · cases step
        exact ⟨rfl, ⟨none, rfl⟩, .inl ⟨rfl, before, rfl⟩, fun r found =>
          absurd found (returned_none rfl)⟩
      · cases step
  · cases step

def Lost (conn : Endpoint) : Prop :=
  connGone conn.task.pc = true ∧ .controlClose ∉ conn.task.sent

/-- A connection_run with the commands that wait for it. held: the main loop still has its
    write_tx; later are the messages the main loop will then give to it; whole are all
    messages meant for it. -/
structure Carrying (run : ConnectionRun) (commands : List WriteCommand) (held : Prop)
    (later whole : List (List UInt8)) : Prop where
  bridges : RunBridged run
  wire : ∃ hello handled, Grammatical hello handled run.conn.task
  undrained : drains run.conn.task.pc = false
  asked : .controlClose ∈ run.conn.task.sent → .close ∈ run.conn.task.taken
  unasked : runPlace run.pc = .looping → .close ∉ run.conn.handler.accepted
  last : .close ∈ run.conn.handler.accepted →
    (∃ front, run.conn.handler.accepted = front ++ [.close] ∧ .close ∉ front) ∧
      NcdTurns.shut run.conn.handler.pc = true
  selecting : run.pc = .select → inFlight run.conn.handler.pc = []
  closing : .close ∈ commands →
    ¬ held ∧ ∃ front, commands = front ++ [.close] ∧ .close ∉ front
  unheld : ¬ held → later = []
  carried : Lost run.conn ∨
    (sends run.conn.handler.accepted ++ inFlight run.conn.handler.pc ++ dataOf commands ++ later =
        whole ∧
      (runPlace run.pc ≠ .looping → commands = [] ∧ ¬ held))

variable {run run' : ConnectionRun} {commands rest : List WriteCommand} {held : Prop}
  {later whole : List (List UInt8)}

theorem last_taken {α : Type} {front taken requests : List α} {x : α}
    (same : front ++ [x] = taken ++ requests) (member : x ∈ taken) (fresh : x ∉ front) :
    requests = [] := by
  rcases List.eq_nil_or_concat requests with none | ⟨early, y, rfl⟩
  · exact none
  · rw [List.concat_eq_append, ← List.append_assoc] at same
    have split := (List.append_inj' same rfl).1
    exact absurd (split ▸ List.mem_append_left _ member) fresh

/- ControlClose was sent: the handler's close was the last request, and the loop had taken
   every command before it. -/
theorem carrying_closed (carrying : Carrying run commands held later whole)
    (closed : .controlClose ∈ run.conn.task.sent) : messages run.conn.task.sent = whole := by
  obtain ⟨_, _, _, _, said, _⟩ := carrying.wire
  have books := carrying.bridges.bridged.books
  have taken := carrying.asked closed
  have accepted : .close ∈ run.conn.handler.accepted := by
    rw [books.requests]
    exact List.mem_append_left _ taken
  obtain ⟨⟨front, shape, fresh⟩, shut⟩ := carrying.last accepted
  have all : run.conn.handler.accepted = run.conn.task.taken := by
    have requests := books.requests
    rw [last_taken (shape.symm.trans requests) taken fresh, List.append_nil] at requests
    exact requests
  have still : inFlight run.conn.handler.pc = [] := by
    cases here : run.conn.handler.pc with
    | requesting call => rw [here] at shut; cases shut
    | _ => rfl
  have past : runPlace run.pc ≠ .looping := fun looping => carrying.unasked looping accepted
  rcases carrying.carried with lost | ⟨account, through⟩
  · exact absurd closed lost.2
  · obtain ⟨empty, gone⟩ := through past
    rw [said.data, ← all, ← account, still, empty, carrying.unheld gone]
    simp [dataOf]

theorem taken_grows {ch ch' : Channels} {event : TaskEvent}
    (step : t.step ch event = some (t', ch')) : t.taken <+: t'.taken := by
  cases step_moves step with
  | steady same => rw [same.1]
  | asks here queue => exact List.prefix_append _ _
  | takes queue same =>
    rw [same.1]
    exact List.prefix_append _ _
  | puts delivering same => rw [same.1]
  | reads read same =>
    rw [same.1]
    exact List.prefix_rfl
  | aborts dead => exact List.prefix_rfl

/- The task of the connection goes on, under neither an inactivity timeout nor a close of
   the peer. -/
theorem carrying_task (carrying : Carrying run commands held later whole) {event : TaskEvent}
    (timely : event ≠ .activeTimeoutTick) (open_ : ¬ HandlesClose run.conn.task event)
    (step : run.conn.step (.task event) = some e') :
    Carrying { run with conn := e' } commands held later whole := by
  have books := carrying.bridges.bridged.books
  obtain ⟨t', ch', moved, task, channels, pc, handler⟩ := task_parts step
  have user : UserRequests run.conn.channels.requests := by
    intro r member
    refine books.asked r ?_
    rw [books.requests]
    exact List.mem_append_right _ member
  obtain ⟨hello, handled, good⟩ := carrying.wire
  obtain ⟨undrained, asked⟩ := step_asked carrying.undrained user timely open_ moved
  have accepted : e'.handler.accepted = run.conn.handler.accepted := by
    rcases handler with is | ⟨_, is⟩ <;> rw [is]
  rw [← task] at moved undrained asked
  refine ⟨⟨carrying.bridges.mainLoop, bridged_task carrying.bridges.bridged step⟩,
    ⟨hello, _, step_grammatical good user moved⟩, undrained, ?_, ?_, ?_, ?_, carrying.closing,
    carrying.unheld, ?_⟩
  · intro closed
    rcases asked closed with before | now
    · exact (taken_grows moved).subset (carrying.asked before)
    · exact now
  · dsimp only
    rw [accepted]
    exact carrying.unasked
  · dsimp only
    rw [accepted, pc]
    exact carrying.last
  · dsimp only
    rw [pc]
    exact carrying.selecting
  · dsimp only
    rw [accepted, pc]
    refine carrying.carried.imp_left fun lost => ?_
    exact ⟨step_connGone lost.1 moved, by rw [gone_sent lost.1 moved]; exact lost.2⟩

/- A call leaves the task alone. -/
theorem carrying_moves (carrying : Carrying run commands held later whole)
    (bridges : RunBridged run') (task : run'.conn.task = run.conn.task)
    (unasked : runPlace run'.pc = .looping → .close ∉ run'.conn.handler.accepted)
    (last : .close ∈ run'.conn.handler.accepted →
      (∃ front, run'.conn.handler.accepted = front ++ [.close] ∧ .close ∉ front) ∧
        NcdTurns.shut run'.conn.handler.pc = true)
    (selecting : run'.pc = .select → inFlight run'.conn.handler.pc = [])
    (closing : .close ∈ rest → ¬ held ∧ ∃ front, rest = front ++ [.close] ∧ .close ∉ front)
    (carried : Lost run.conn ∨
      (sends run'.conn.handler.accepted ++ inFlight run'.conn.handler.pc ++ dataOf rest ++ later =
          whole ∧
        (runPlace run'.pc ≠ .looping → rest = [] ∧ ¬ held))) :
    Carrying run' rest held later whole := by
  refine ⟨bridges, ?_, ?_, ?_, unasked, last, selecting, closing, carrying.unheld, ?_⟩
  · rw [task]
    exact carrying.wire
  · rw [task]
    exact carrying.undrained
  · rw [task]
    exact carrying.asked
  · refine carried.imp_left fun lost => ?_
    rw [Lost, task]
    exact lost

/- In the loop no ControlClose has been sent. -/
theorem looping_lost (carrying : Carrying run commands held later whole)
    (looping : runPlace run.pc = .looping) (gone : connGone run.conn.task.pc = true) :
    Lost run.conn := by
  refine ⟨gone, fun closed => carrying.unasked looping ?_⟩
  rw [carrying.bridges.bridged.books.requests]
  exact List.mem_append_left _ (carrying.asked closed)

theorem called_conn (b : ConnectionRun) (conn : Endpoint) : (b.called conn).conn = conn := by
  unfold ConnectionRun.called
  split <;> rfl

def pcAfter : Place → RunPc
  | .looping => .select
  | .leaving => .leaving
  | .ended => .ended

theorem called_pc {b : ConnectionRun} (there : b.mainLoop = true) {r : CallResult}
    (found : returned b.conn e' = some r) (asked : ∀ q, r ≠ .getStatus q) :
    (b.called e').pc = pcAfter (goesOn r) := by
  unfold ConnectionRun.called
  rw [found]
  cases r with
  | getStatus q => exact absurd rfl (asked q)
  | read q => cases q <;> simp [there, goesOn, pcAfter]
  | write bytes q => cases q <;> rfl
  | close q =>
    cases q with
    | error c => rfl
    | ok q => cases q <;> rfl

theorem waits_pc {b : ConnectionRun} (none : returned b.conn e' = none) :
    (b.called e').pc = b.pc := by
  unfold ConnectionRun.called
  rw [none]

/- A call inside the loop. -/
theorem carrying_fate (asked : List (List UInt8)) {event : EndpointEvent}
    (carrying : Carrying run commands held later whole) (looping : runPlace run.pc = .looping)
    (call : ∀ te, event ≠ .task te) (step : run.conn.step event = some e')
    (outcome : Outcome run.conn run.forwarded (runPlace run.pc) e')
    (fate : Fate run.conn e' asked) (quiet : run.pc = .select → asked = []) (data : dataOf commands = asked ++ dataOf rest)
    (closing : .close ∈ rest → ¬ held ∧ ∃ front, rest = front ++ [.close] ∧ .close ∉ front) :
    Carrying (run.called e') rest held later whole := by
  have there := carrying.bridges.mainLoop
  have task : e'.task = run.conn.task := call_task call step
  have unasked := fate.unasked (carrying.unasked looping)
  refine carrying_moves carrying (run_called there outcome) ?_ ?_ ?_ ?_ closing ?_
  · rw [called_conn, task]
  · rw [called_conn]
    exact fun _ => unasked
  · rw [called_conn]
    exact fun closed => absurd closed unasked
  · rw [called_conn]
    intro here
    cases outcome with
    | rests none bridged =>
      rw [waits_pc none] at here
      exact fate.still (quiet here) (carrying.selecting here)
    | gives some status idle bridged =>
      rw [called_pc there some status] at here
      rw [idle fun ended => by rw [ended] at here; cases here]
      rfl
  · rw [called_conn]
    rcases fate.account with gone | ⟨account, fine⟩
    · exact .inl (looping_lost carrying looping gone)
    · refine carrying.carried.imp_right ?_
      rintro ⟨whole', _⟩
      constructor
      · rw [account, ← whole', data]
        simp
      · intro past
        cases outcome with
        | rests none bridged =>
          rw [waits_pc none] at past
          exact absurd looping past
        | gives some status idle bridged =>
          rw [called_pc there some status, fine _ some] at past
          exact absurd rfl past

/- close, after the loop. -/
theorem carrying_close {event : EndpointEvent} (carrying : Carrying run commands held later whole)
    (leaving : runPlace run.pc = .leaving) (call : ∀ te, event ≠ .task te)
    (step : run.conn.step event = some e')
    (outcome : Outcome run.conn run.forwarded (runPlace run.pc) e')
    (closing : Closing run.conn e') : Carrying (run.called e') commands held later whole := by
  have there := carrying.bridges.mainLoop
  have place : (run.called e').pc = run.pc ∨ (run.called e').pc = .ended := by
    cases outcome with
    | rests none bridged => exact .inl (waits_pc none)
    | gives some status idle bridged =>
      rw [called_pc there some status, closing.returned _ some]
      exact .inr rfl
  refine carrying_moves carrying (run_called there outcome) ?_ ?_ ?_ ?_ carrying.closing ?_
  · rw [called_conn, call_task call step]
  · intro looping
    rcases place with is | is
    · rw [is, leaving] at looping
      cases looping
    · rw [is] at looping
      cases looping
  · rw [called_conn]
    rcases closing.accepted with ⟨same, _, shut⟩ | ⟨before, same | ⟨more, shut⟩⟩
    · rw [same]
      exact fun closed => ⟨(carrying.last closed).1, shut⟩
    · rw [same]
      intro closed
      have shut := (carrying.last closed).2
      rw [before] at shut
      cases shut
    · intro _
      refine ⟨⟨_, more, fun closed => ?_⟩, shut⟩
      have shut := (carrying.last closed).2
      rw [before] at shut
      cases shut
  · intro here
    rcases place with is | is
    · rw [is] at here
      rw [here] at leaving
      cases leaving
    · rw [is] at here
      cases here
  · rw [called_conn, closing.sends, closing.inFlight.2]
    have account := carrying.carried
    rw [closing.inFlight.1] at account
    refine account.imp_right ?_
    rintro ⟨whole', through⟩
    exact ⟨whole', fun _ => through (by rw [leaving]; simp)⟩

theorem dropRead_same (conn : Endpoint) : (dropRead conn).task = conn.task ∧
    (dropRead conn).handler.accepted = conn.handler.accepted ∧
    (inFlight conn.handler.pc = [] → inFlight (dropRead conn).handler.pc = []) ∧
    (NcdTurns.shut conn.handler.pc = true → NcdTurns.shut (dropRead conn).handler.pc = true) := by
  rcases dropRead_cases conn with same | ⟨_, before, idle⟩
  · rw [same]
    exact ⟨rfl, rfl, id, id⟩
  · rw [idle]
    exact ⟨rfl, rfl, fun _ => rfl, fun is => by simp [before] at is⟩

/- The read future is dropped, and the loop may go on to another part of its body. -/
theorem carrying_dropRead (carrying : Carrying run commands held later whole)
    (here : run.pc = .select) (pc : RunPc) (looping : runPlace pc = .looping) :
    Carrying { run with conn := dropRead run.conn, pc := pc } commands held later whole := by
  obtain ⟨task, accepted, still, shut⟩ := dropRead_same run.conn
  have bridged := carrying.bridges.bridged
  have place : runPlace run.pc = .looping := by rw [here]; rfl
  rw [place] at bridged
  have none := still (carrying.selecting here)
  refine carrying_moves carrying ⟨carrying.bridges.mainLoop, ?_⟩ task ?_ ?_ ?_ carrying.closing ?_
  · dsimp only
    rw [looping]
    exact bridged_dropRead bridged
  · dsimp only
    rw [accepted]
    exact fun _ => carrying.unasked place
  · dsimp only
    rw [accepted]
    exact fun closed => absurd closed (carrying.unasked place)
  · exact fun _ => none
  · dsimp only
    rw [accepted, none, ← carrying.selecting here]
    refine carrying.carried.imp_right ?_
    rintro ⟨whole', _⟩
    exact ⟨whole', fun past => absurd looping past⟩

/- The loop is left with no command waiting and no sender. -/
theorem carrying_leaves (carrying : Carrying run commands held later whole)
    (here : run.pc = .select) (idle : run.conn.handler.pc = .idle) (none : dataOf commands = [])
    (gone : ¬ held) (pc : RunPc) (leaving : runPlace pc = .leaving) :
    Carrying { run with pc := pc } [] held later whole := by
  have bridged := carrying.bridges.bridged
  have place : runPlace run.pc = .looping := by rw [here]; rfl
  rw [place] at bridged
  refine carrying_moves carrying ⟨carrying.bridges.mainLoop, ?_⟩ rfl ?_ carrying.last ?_ (by simp)
    ?_
  · dsimp only
    rw [leaving]
    exact bridged_leaves bridged idle
  · intro looping
    rw [leaving] at looping
    cases looping
  · exact fun _ => carrying.selecting here
  · refine carrying.carried.imp_right ?_
    rintro ⟨whole', _⟩
    rw [none] at whole'
    exact ⟨whole', fun _ => ⟨rfl, gone⟩⟩

/- The closing of a queue whose first command was not a close. -/
theorem closing_rest {c : WriteCommand} (other : c ≠ .close)
    (closing : .close ∈ c :: rest →
      ¬ held ∧ ∃ front, c :: rest = front ++ [.close] ∧ .close ∉ front) :
    .close ∈ rest → ¬ held ∧ ∃ front, rest = front ++ [.close] ∧ .close ∉ front := by
  intro member
  obtain ⟨gone, front, shape, fresh⟩ := closing (List.mem_cons_of_mem _ member)
  refine ⟨gone, ?_⟩
  cases front with
  | nil =>
    cases shape
    exact absurd rfl other
  | cons first front =>
    obtain ⟨rfl, rfl⟩ := List.cons.inj shape
    exact ⟨front, rfl, fun member => fresh (List.mem_cons_of_mem _ member)⟩

/- The first of the commands is done: it carried no message. -/
theorem carrying_skips {c : WriteCommand}
    (carrying : Carrying run (c :: rest) held later whole) (looping : runPlace run.pc = .looping)
    (none : dataOf [c] = []) (other : c ≠ .close) (readPaused : Bool) :
    Carrying { run with readPaused := readPaused } rest held later whole := by
  have bridged := carrying.bridges.bridged
  refine carrying_moves carrying ⟨carrying.bridges.mainLoop, bridged⟩ rfl carrying.unasked
    carrying.last carrying.selecting ?_ ?_
  · exact closing_rest other carrying.closing
  · refine carrying.carried.imp_right ?_
    rintro ⟨whole', _⟩
    refine ⟨?_, fun past => absurd looping past⟩
    have split : dataOf (c :: rest) = dataOf rest := by
      rw [← List.singleton_append, dataOf_append, none, List.nil_append]
    rw [split] at whole'
    exact whole'

/-- Nothing but the handler makes the connection announce its close. -/
def Unforced (t : Task) : RunEvent → Prop
  | .task event => event ≠ .activeTimeoutTick ∧ ¬ HandlesClose t event
  | _ => True

def taken : RunEvent → List (List UInt8)
  | .command (some (.data data)) => [data]
  | _ => []

theorem run_made {c : ConnectionRun} {event : RunEvent} {call : EndpointEvent}
    (bridges : RunBridged run) (made : RunCall run event c call)
    (moved : c.conn.step call = some e') :
    (runPlace c.pc = .looping ∧ (c.pc = .select → taken event = []) ∧
        Fate c.conn e' (taken event)) ∨
      runPlace c.pc = .leaving ∧ taken event = [] ∧ Closing c.conn e' := by
  have bridged := bridges.bridged
  cases made with
  | read here reading => exact .inl ⟨by rw [here]; rfl, fun _ => rfl, fate_read moved⟩
  | recv here => exact .inl ⟨by rw [here]; rfl, fun _ => rfl, fate_recv moved⟩
  | check here =>
    rw [here] at bridged
    exact .inl ⟨by rw [here]; rfl, fun _ => rfl, fate_check bridged moved⟩
  | write here =>
    rw [here] at bridged
    exact .inl ⟨rfl, nofun, fate_write (bridged_dropRead bridged).books moved⟩
  | commanded here => exact .inr ⟨rfl, rfl, closing_close moved⟩
  | requested here =>
    rcases here with here | here
    · rw [here] at bridged
      exact .inl ⟨by rw [here]; rfl, fun _ => rfl, fate_requested bridged moved⟩
    · rw [here] at bridged
      exact .inr ⟨by rw [here]; rfl, rfl, closing_requested bridged moved⟩
  | close here => exact .inr ⟨rfl, rfl, closing_close moved⟩
  | joined here => exact .inr ⟨by rw [here]; rfl, rfl, closing_joined moved⟩

/- A close waits behind every other command. -/
theorem closing_last (closing : .close ∈ WriteCommand.close :: rest →
      ¬ held ∧ ∃ front, WriteCommand.close :: rest = front ++ [.close] ∧ .close ∉ front) :
    rest = [] ∧ ¬ held := by
  obtain ⟨gone, front, shape, fresh⟩ := closing List.mem_cons_self
  cases front with
  | nil =>
    cases shape
    exact ⟨rfl, gone⟩
  | cons first front =>
    obtain ⟨rfl, _⟩ := List.cons.inj shape
    exact absurd List.mem_cons_self fresh

theorem remaining_command [Decidable held] {command : WriteCommand}
    (left : remaining commands held (.command (some command)) = some rest) :
    commands = command :: rest := by
  simp only [remaining] at left
  split at left <;> cases left
  rename_i head
  cases commands with
  | nil => cases head
  | cons first rest =>
    cases head
    rfl

/- A call on the ConnHandler: a message or the close it carries is the first command waiting. -/
theorem carrying_called [Decidable held] {c : ConnectionRun} {event : RunEvent}
    {call : EndpointEvent} (carrying : Carrying run commands held later whole)
    (left : remaining commands held event = some rest) (made : RunCall run event c call)
    (moved : c.conn.step call = some e') : Carrying (c.called e') rest held later whole := by
  have outcome := (run_outcome carrying.bridges made moved).2
  have mine := (run_call made).1
  have goes := run_made carrying.bridges made moved
  have stays : ∀ {c : ConnectionRun}, Carrying c rest held later whole →
      Outcome c.conn c.forwarded (runPlace c.pc) e' → c.conn.step call = some e' →
      (runPlace c.pc = .looping ∧ (c.pc = .select → ([] : List (List UInt8)) = []) ∧
          Fate c.conn e' []) ∨
        runPlace c.pc = .leaving ∧ ([] : List (List UInt8)) = [] ∧ Closing c.conn e' →
      Carrying (c.called e') rest held later whole := by
    intro c carrying outcome moved goes
    rcases goes with ⟨looping, quiet, fate⟩ | ⟨leaving, -, closing⟩
    · exact carrying_fate [] carrying looping mine moved outcome fate quiet rfl carrying.closing
    · exact carrying_close carrying leaving mine moved outcome closing
  cases made with
  | write here =>
    have queue := remaining_command left
    subst queue
    obtain ⟨looping, quiet, fate⟩ | ⟨leaving, -⟩ := goes
    · have writing := carrying_dropRead carrying here .writing rfl
      exact carrying_fate _ writing looping mine moved outcome fate quiet rfl
        (closing_rest (by simp) carrying.closing)
    · cases leaving
  | commanded here =>
    have queue := remaining_command left
    subst queue
    obtain ⟨rfl, gone⟩ := closing_last carrying.closing
    have idle := callable_idle (Option.ite_none_right_eq_some.mp moved).1
    have dropped := carrying_dropRead carrying here .select rfl
    exact stays (carrying_leaves dropped rfl idle rfl gone .closing rfl) outcome moved goes
  | close here =>
    cases left
    have bridged := carrying.bridges.bridged
    rw [here] at bridged
    have closing : Carrying { run with pc := .closing } commands held later whole := by
      refine carrying_moves carrying ⟨carrying.bridges.mainLoop, bridged⟩ rfl (by simp [runPlace])
        carrying.last (by simp) carrying.closing ?_
      refine carrying.carried.imp_right ?_
      rintro ⟨whole', through⟩
      exact ⟨whole', fun _ => through (by rw [here]; simp [runPlace])⟩
    exact stays closing outcome moved goes
  | read here reading | recv here | check here | requested here | joined here =>
    cases left
    exact stays carrying outcome moved goes

theorem carrying_step [Decidable held] {event : RunEvent}
    (carrying : Carrying run commands held later whole) (unforced : Unforced run.conn.task event)
    (left : remaining commands held event = some rest) (step : run.step event = some run') :
    Carrying run' rest held later whole := by
  cases run_move step with
  | task moved =>
    cases left
    exact carrying_task carrying unforced.1 unforced.2 moved
  | calls made moved => exact carrying_called carrying left made moved
  | starts here callable => cases left
  | toggles here callable which =>
    have queue := remaining_command left
    subst queue
    have dropped := carrying_dropRead carrying here .select rfl
    rw [← here] at dropped
    rcases which with ⟨rfl, rfl⟩ | ⟨rfl, rfl⟩
    · exact carrying_skips dropped (by rw [here]; rfl) rfl (by simp) true
    · exact carrying_skips dropped (by rw [here]; rfl) rfl (by simp) false
  | orphaned here callable =>
    simp only [remaining] at left
    split at left <;> cases left
    rename_i none
    have dropped := carrying_dropRead carrying here .select rfl
    exact carrying_leaves dropped rfl (callable_idle callable) (by rw [none.1]; rfl)
      (by simpa using none.2) .leaving rfl
  | mainLoopEnds => cases left

/- What the main loop does to a connection_run. -/

theorem carrying_next {more : List (List UInt8)}
    (carrying : Carrying run commands held later whole) (sender : held) {c : WriteCommand}
    (other : c ≠ .close) (moves : later = dataOf [c] ++ more) :
    Carrying run (commands ++ [c]) held more whole := by
  have open_ : .close ∉ commands := fun member => (carrying.closing member).1 sender
  refine ⟨carrying.bridges, carrying.wire, carrying.undrained, carrying.asked, carrying.unasked,
    carrying.last, carrying.selecting, ?_, fun gone => absurd sender gone, ?_⟩
  · intro member
    rw [List.mem_append, List.mem_singleton] at member
    rcases member with old | new
    · exact absurd old open_
    · exact absurd new.symm other
  · refine carrying.carried.imp_right ?_
    rintro ⟨whole', through⟩
    constructor
    · rw [← whole', moves]
      simp
    · intro past
      exact absurd sender (through past).2

theorem carrying_told (carrying : Carrying run commands held [] whole) (sender : held)
    {held' : Prop} (gone : ¬ held') : Carrying run (commands ++ [.close]) held' [] whole := by
  have open_ : .close ∉ commands := fun member => (carrying.closing member).1 sender
  refine ⟨carrying.bridges, carrying.wire, carrying.undrained, carrying.asked, carrying.unasked,
    carrying.last, carrying.selecting, fun _ => ⟨gone, commands, rfl, open_⟩, fun _ => rfl, ?_⟩
  refine carrying.carried.imp_right ?_
  rintro ⟨whole', through⟩
  refine ⟨by simpa [dataOf] using whole', fun past => absurd sender (through past).2⟩

theorem carrying_let_go (carrying : Carrying run commands held [] whole) {held' : Prop}
    (gone : ¬ held') : Carrying run commands held' [] whole := by
  refine ⟨carrying.bridges, carrying.wire, carrying.undrained, carrying.asked, carrying.unasked,
    carrying.last, carrying.selecting, fun member => ⟨gone, (carrying.closing member).2⟩,
    fun _ => rfl, ?_⟩
  refine carrying.carried.imp_right ?_
  rintro ⟨whole', through⟩
  exact ⟨whole', fun past => ⟨(through past).1, gone⟩⟩

theorem carrying_written (carrying : Carrying run commands held later whole) (sender : held)
    (bytes : List UInt8) : Carrying run commands held (later ++ [bytes]) (whole ++ [bytes]) := by
  refine ⟨carrying.bridges, carrying.wire, carrying.undrained, carrying.asked, carrying.unasked,
    carrying.last, carrying.selecting, carrying.closing, fun gone => absurd sender gone, ?_⟩
  refine carrying.carried.imp_right ?_
  rintro ⟨whole', through⟩
  exact ⟨by rw [← whole']; simp, through⟩

end NcdLinkOrder
