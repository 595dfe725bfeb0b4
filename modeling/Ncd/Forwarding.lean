import Ncd.Bridges

/- What the two bridge loops forward. Whatever the order of calls, the messages that the
   calls hand to the loop are those the task has put into the packet channel: the list in
   an error of read is empty, and the list in an error of write comes again from close. -/
namespace NcdForwarding
open NcdConnection NcdHandler NcdBooks NcdTurns NcdHandlerCalls NcdDaemon NcdBridges LabelledRuns

/-- The part of its life a bridge is in: before the break, after it, after close. -/
inductive Place where
  | looping
  | leaving
  | ended
  deriving DecidableEq, Repr

def handedOut : CallResult → List (List UInt8)
  | .read (.ok data) => [data]
  | .read (.error closed) => closed.messages
  | .close (.ok (.ok remaining)) => remaining
  | _ => []

def goesOn : CallResult → Place
  | .read (.ok _) | .write _ (.ok ()) | .getStatus (.ok _) => .looping
  | .read (.error _) | .write _ (.error _) | .getStatus (.error _) => .leaving
  | .close _ => .ended

def stands : Place → HandlerPc → Bool
  | .looping, .idle | .looping, .reading | .looping, .checking false
  | .looping, .requesting (.write _) | .looping, .panicked _
  | .leaving, .idle | .leaving, .requesting .close | .leaving, .joining | .leaving, .panicked _
  | .ended, _ => true
  | _, _ => false

def closedMessages : List CallResult → List (List UInt8)
  | [] => []
  | .close (.ok (.ok remaining)) :: results => remaining ++ closedMessages results
  | _ :: results => closedMessages results

@[simp] theorem closedMessages_append (rs qs : List CallResult) :
    closedMessages (rs ++ qs) = closedMessages rs ++ closedMessages qs := by
  induction rs with
  | nil => rfl
  | cons r rs ih =>
    cases r with
    | close q =>
      cases q with
      | error closed => simpa [closedMessages] using ih
      | ok q => cases q <;> simp [closedMessages, ih]
    | _ => simpa [closedMessages] using ih

theorem closedMessages_none {rs : List CallResult} (none : ∀ rest, .close (.ok (.ok rest)) ∉ rs) :
    closedMessages rs = [] := by
  induction rs with
  | nil => rfl
  | cons r rs ih =>
    have rest : closedMessages rs = [] :=
      ih fun remaining member => none remaining (List.mem_cons_of_mem _ member)
    cases r with
    | close q =>
      cases q with
      | error closed => exact rest
      | ok q =>
        cases q with
        | error e => exact rest
        | ok remaining => exact absurd List.mem_cons_self (none remaining)
    | _ => exact rest

structure Bridged (conn : Endpoint) (handed : List (List UInt8)) (place : Place) : Prop where
  books : Books conn
  stands : stands place conn.handler.pc = true
  checks : conn.handler.pc = .checking false →
    conn.channels.packets = [] ∧ connGone conn.task.pc = true
  handed : handed = readMessages conn.handler.results ++ closedMessages conn.handler.results
  unclosed : place ≠ .ended → ∀ q, .close q ∉ conn.handler.results
  whole : ∀ rest, .close (.ok (.ok rest)) ∈ conn.handler.results →
    closedMessages conn.handler.results = rest
  running : place = .looping → ∀ c, conn.handler.taskHandle ≠ .finished c
  ended : place = .ended → (∃ rest, .close (.ok (.ok rest)) ∈ conn.handler.results) ∨
    ∃ c, .close (.error c) ∈ conn.handler.results

variable {conn conn' : Endpoint} {handed : List (List UInt8)} {place : Place}

theorem handed_put (bridged : Bridged conn handed place) : handed <+: conn.task.put := by
  by_cases closed : ∃ rest, .close (.ok (.ok rest)) ∈ conn.handler.results
  · obtain ⟨rest, member⟩ := closed
    obtain ⟨c, handle, is⟩ := bridged.books.closes rest member
    rw [bridged.handed, bridged.whole rest member, bridged.books.packets, handle, drained, is]
    exact List.prefix_append _ _
  · have none : closedMessages conn.handler.results = [] :=
      closedMessages_none fun rest member => closed ⟨rest, member⟩
    rw [bridged.handed, none, List.append_nil, bridged.books.packets, List.append_assoc]
    exact List.prefix_append _ _

theorem handed_all (bridged : Bridged conn handed place) {rest : List (List UInt8)}
    (closed : .close (.ok (.ok rest)) ∈ conn.handler.results) : handed = conn.task.put := by
  obtain ⟨c, handle, is⟩ := bridged.books.closes rest closed
  have empty := (bridged.books.finished c handle).1
  rw [bridged.handed, bridged.whole rest closed, bridged.books.packets, handle, drained, is, empty,
    messages, List.append_nil]

/-- How a call on the ConnHandler goes on: it rests, or it returns and hands out messages. -/
inductive Outcome (conn : Endpoint) (handed : List (List UInt8)) (place : Place)
    (conn' : Endpoint) : Prop where
  | rests (none : returned conn conn' = none) (bridged : Bridged conn' handed place)
  | gives {r : CallResult} (some : returned conn conn' = some r)
      (asked : ∀ q, r ≠ .getStatus q) (idle : goesOn r ≠ .ended → conn'.handler.pc = .idle)
      (bridged : Bridged conn' (handed ++ handedOut r) (goesOn r))

theorem outcome_rests (bridged : Bridged conn handed place) (books : Books conn')
    (results : conn'.handler.results = conn.handler.results)
    (handle : conn'.handler.taskHandle = conn.handler.taskHandle)
    (stand : stands place conn'.handler.pc = true)
    (checks : conn'.handler.pc = .checking false →
      conn'.channels.packets = [] ∧ connGone conn'.task.pc = true) :
    Outcome conn handed place conn' := by
  refine .rests (by simp [returned, results]) ⟨books, stand, checks, ?_, ?_, ?_, ?_, ?_⟩
  · rw [results, bridged.handed]
  · rw [results]
    exact bridged.unclosed
  · rw [results]
    exact bridged.whole
  · rw [handle]
    exact bridged.running
  · rw [results]
    exact bridged.ended

theorem readMessages_single {r : CallResult} (close : ∀ q, r ≠ .close q)
    (empty : ∀ c, r = .read (.error c) → c.messages = []) :
    readMessages [r] = handedOut r ∧ closedMessages [r] = [] := by
  cases r with
  | read q =>
    cases q with
    | ok data => exact ⟨rfl, rfl⟩
    | error c => exact ⟨(empty c rfl).symm, rfl⟩
  | close q => exact absurd rfl (close q)
  | write bytes q => exact ⟨rfl, rfl⟩
  | getStatus q => exact ⟨rfl, rfl⟩

/- A call that is not close returns. -/
theorem outcome_gives {r : CallResult} (bridged : Bridged conn handed place) (books : Books conn')
    (open_ : place ≠ .ended) (results : conn'.handler.results = conn.handler.results ++ [r])
    (close : ∀ q, r ≠ .close q) (asked : ∀ q, r ≠ .getStatus q)
    (empty : ∀ c, r = .read (.error c) → c.messages = []) (idle : conn'.handler.pc = .idle)
    (running : goesOn r = .looping → ∀ c, conn'.handler.taskHandle ≠ .finished c) :
    Outcome conn handed place conn' := by
  obtain ⟨read, closed⟩ := readMessages_single close empty
  have none := closedMessages_none (fun rest => bridged.unclosed open_ (.ok (.ok rest)))
  have unclosed : ∀ q, .close q ∉ conn'.handler.results := by
    intro q member
    rw [results, List.mem_append, List.mem_singleton] at member
    rcases member with old | new
    · exact bridged.unclosed open_ q old
    · exact close q new.symm
  have ended : goesOn r ≠ .ended := by
    cases r with
    | close q => exact absurd rfl (close q)
    | read q => cases q <;> simp [goesOn]
    | write bytes q => cases q <;> simp [goesOn]
    | getStatus q => cases q <;> simp [goesOn]
  refine .gives (r := r) (by simp [returned, results]) asked (fun _ => idle)
    ⟨books, ?_, ?_, ?_, ?_, ?_, running, fun is => absurd is ended⟩
  · rw [idle]
    cases goesOn r <;> rfl
  · rw [idle]
    intro checking
    cases checking
  · rw [results, readMessages_append, closedMessages_append, none, read, closed, bridged.handed,
      none, List.append_nil, List.append_nil, List.append_nil]
  · exact fun _ => unclosed
  · exact fun rest member => absurd member (unclosed _)

theorem outcome_closes {q : Except ConnectionClosed (Except ConnectionError (List (List UInt8)))}
    (bridged : Bridged conn handed place) (books : Books conn') (open_ : place ≠ .ended)
    (results : conn'.handler.results = conn.handler.results ++ [.close q])
    (shape : (∃ rest, q = .ok (.ok rest)) ∨ ∃ c, q = .error c)
    (gone : conn'.handler.pc = .gone) : Outcome conn handed place conn' := by
  have none := closedMessages_none (fun rest => bridged.unclosed open_ (.ok (.ok rest)))
  have out : closedMessages conn'.handler.results = handedOut (.close q) := by
    rw [results, closedMessages_append, none, List.nil_append]
    cases q with
    | error c => rfl
    | ok q => cases q <;> simp [closedMessages, handedOut]
  have last : .close q ∈ conn'.handler.results := by simp [results]
  refine .gives (r := .close q) (by simp [returned, results]) (by simp)
    (fun open_ => absurd rfl open_) ⟨books, rfl, ?_, ?_, ?_, ?_, ?_, ?_⟩
  · rw [gone]
    intro checking
    cases checking
  · rw [out, bridged.handed, none, results, readMessages_append]
    simp [readMessages]
  · exact fun ended => absurd rfl ended
  · intro rest member
    rw [results, List.mem_append, List.mem_singleton] at member
    rcases member with old | new
    · exact absurd old (bridged.unclosed open_ _)
    · rw [out, ← CallResult.close.inj new, handedOut]
  · intro looping
    cases looping
  · intro _
    rcases shape with ⟨rest, rfl⟩ | ⟨c, rfl⟩
    · exact .inl ⟨rest, last⟩
    · exact .inr ⟨c, last⟩

theorem callable_idle (callable : conn.callable = true) : conn.handler.pc = .idle := by
  simp only [Endpoint.callable, Bool.and_eq_true, decide_eq_true_eq] at callable
  exact callable.2

theorem outcome_read (bridged : Bridged conn handed .looping)
    (step : conn.step .read = some conn') :
    Outcome conn handed .looping conn' := by
  have books := step_books bridged.books step
  simp only [Endpoint.step] at step
  split at step
  · cases step
    exact outcome_rests bridged books rfl rfl rfl (by simp [Endpoint.read])
  · cases step

/- recv hands out what was first in the channel, or the channel is empty for good. -/
theorem outcome_recv (bridged : Bridged conn handed .looping)
    (step : conn.step .recv = some conn') :
    Outcome conn handed .looping conn' := by
  have books := step_books bridged.books step
  simp only [Endpoint.step] at step
  unfold Endpoint.recv at step
  split at step
  · split at step
    · cases step
      exact outcome_gives bridged books (by simp) rfl (by simp) (by simp) (by simp) rfl
        fun _ => bridged.running rfl
    · cases step
      exact outcome_rests bridged books rfl rfl rfl (by simp [Endpoint.panic])
  · rename_i here queue
    split at step
    · rename_i gone
      cases step
      exact outcome_rests bridged books rfl rfl rfl fun _ => ⟨queue, gone⟩
    · cases step
  · cases step

theorem closedWith_messages (result : Except ConnectionError Unit) (rest : List (List UInt8)) :
    (closedWith result rest).messages = rest := by
  cases result <;> rfl

/- The error of a read: check_task_state has drained an empty channel. -/
theorem outcome_check (bridged : Bridged conn handed .looping)
    (step : conn.step .check = some conn') : Outcome conn handed .looping conn' := by
  have books := step_books bridged.books step
  simp only [Endpoint.step] at step
  unfold Endpoint.check at step
  split at step
  · rename_i forStatus here
    have own : forStatus = false := by
      have stand := bridged.stands
      rw [here] at stand
      cases forStatus with
      | false => rfl
      | true => cases stand
    subst own
    obtain ⟨empty, _⟩ := bridged.checks here
    have checked := checkTaskState_checked conn
    generalize conn.checkTaskState = verdict at checked step
    cases checked with
    | panics site failed =>
      cases step
      exact outcome_rests bridged books rfl rfl rfl (by simp [Endpoint.panic])
    | running handle unfinished =>
      cases step
      exact outcome_rests bridged books rfl rfl rfl (by simp [Endpoint.panic])
    | cached handle => exact absurd handle (bridged.running rfl _)
    | joins handle done =>
      cases step
      refine outcome_gives bridged books (by simp) rfl (by simp) (by simp) ?_ rfl (by simp [goesOn])
      intro c is
      simp only [CallResult.read.injEq, Except.error.injEq] at is
      rw [← is, closedWith_messages, empty, messages]
  · cases step

theorem outcome_write (bridged : Bridged conn handed .looping) {bytes : List UInt8}
    (step : conn.step (.write bytes) = some conn') : Outcome conn handed .looping conn' := by
  have books := step_books bridged.books step
  simp only [Endpoint.step] at step
  split at step
  · simp only [Endpoint.write, Endpoint.ask] at step
    have checked := checkTaskState_checked conn
    generalize conn.checkTaskState = verdict at checked step
    cases checked with
    | panics site failed =>
      cases step
      exact outcome_rests bridged books rfl rfl rfl (by simp [Endpoint.panic])
    | running handle unfinished =>
      cases step
      exact outcome_rests bridged books rfl rfl rfl (by simp)
    | cached handle => exact absurd handle (bridged.running rfl _)
    | joins handle done =>
      cases step
      exact outcome_gives bridged books (by simp) rfl (by simp) (by simp) (by simp) rfl
        (by simp [goesOn])
  · cases step

theorem outcome_close (bridged : Bridged conn handed .leaving)
    (step : conn.step .close = some conn') : Outcome conn handed .leaving conn' := by
  have books := step_books bridged.books step
  simp only [Endpoint.step] at step
  split at step
  · simp only [Endpoint.close, Endpoint.ask] at step
    have checked := checkTaskState_checked conn
    generalize conn.checkTaskState = verdict at checked step
    cases checked with
    | panics site failed =>
      cases step
      exact outcome_rests bridged books rfl rfl rfl (by simp [Endpoint.panic])
    | running handle unfinished =>
      cases step
      exact outcome_rests bridged books rfl rfl rfl (by simp)
    | cached handle =>
      cases step
      exact outcome_closes bridged books (by simp) rfl (closeResult_shape _) rfl
    | joins handle done =>
      cases step
      exact outcome_closes bridged books (by simp) rfl (closeResult_shape _) rfl
  · cases step

/- The request of a write in the loop, or of close after it. -/
theorem outcome_requested (bridged : Bridged conn handed place) (open_ : place ≠ .ended)
    (step : conn.step .requested = some conn') : Outcome conn handed place conn' := by
  have books := step_books bridged.books step
  have stand := bridged.stands
  simp only [Endpoint.step] at step
  unfold Endpoint.requested at step
  split at step
  · rename_i call here
    rw [here] at stand
    cases place with
    | ended => exact absurd rfl open_
    | looping =>
      cases call with
      | getStatus => cases stand
      | close => cases stand
      | write bytes =>
        dsimp only at step
        split at step
        · cases step
          exact outcome_gives bridged books open_ rfl (by simp) (by simp) (by simp) rfl
            (by simp [goesOn])
        · split at step <;> cases step
          exact outcome_gives bridged books open_ rfl (by simp) (by simp) (by simp) rfl
            fun _ => bridged.running rfl
    | leaving =>
      cases call with
      | getStatus => cases stand
      | write bytes => cases stand
      | close =>
        dsimp only at step
        split at step
        · cases step
          exact outcome_closes bridged books open_ rfl (.inr ⟨_, rfl⟩) rfl
        · split at step <;> cases step
          exact outcome_rests bridged books rfl rfl rfl (by simp)
  · cases step

theorem outcome_joined (bridged : Bridged conn handed .leaving)
    (step : conn.step .joined = some conn') : Outcome conn handed .leaving conn' := by
  have books := step_books bridged.books step
  simp only [Endpoint.step] at step
  unfold Endpoint.joined at step
  split at step
  · split at step
    · cases step
      exact outcome_rests bridged books rfl rfl rfl (by simp [Endpoint.panic])
    · cases step
      exact outcome_closes bridged books (by simp) rfl (closeResult_shape _) rfl
    · split at step
      · cases step
        exact outcome_closes bridged books (by simp) rfl (closeResult_shape _) rfl
      · cases step
        exact outcome_rests bridged books rfl rfl rfl (by simp [Endpoint.panic])
      · cases step
        exact outcome_rests bridged books rfl rfl rfl (by simp [Endpoint.panic])
      · cases step
  · cases step

/-- Dropping a read changes nothing, or it ends a call that was under way. -/
theorem dropRead_cases (conn : Endpoint) : dropRead conn = conn ∨
    conn.step .cancel = some (dropRead conn) ∧ shut conn.handler.pc = false ∧
      dropRead conn = { conn with handler := { conn.handler with pc := .idle } } := by
  unfold dropRead
  cases step : conn.step .cancel with
  | none => exact .inl rfl
  | some conn' =>
    refine .inr ⟨rfl, ?_⟩
    simp only [Endpoint.step] at step
    unfold Endpoint.cancel at step
    split at step
    · cases step
    · rename_i here
      cases step
      exact ⟨by rw [here]; rfl, rfl⟩
    · rename_i here
      cases step
      exact ⟨by rw [here]; rfl, rfl⟩
    · rename_i here
      cases step
      exact ⟨by rw [here]; rfl, rfl⟩
    · cases step

theorem bridged_dropRead (bridged : Bridged conn handed .looping) :
    Bridged (dropRead conn) handed .looping := by
  rcases dropRead_cases conn with same | ⟨step, _, idle⟩
  · rw [same]
    exact bridged
  · have books := step_books bridged.books step
    rw [idle] at books ⊢
    exact ⟨books, rfl, by simp, bridged.handed, bridged.unclosed, bridged.whole, bridged.running,
      by simp⟩

/- The task goes on under a call: nothing is handed out. -/
theorem bridged_task (bridged : Bridged conn handed place) {event : TaskEvent}
    (step : conn.step (.task event) = some conn') : Bridged conn' handed place := by
  have books := step_books bridged.books step
  obtain ⟨t', ch', moved, task, channels, pc, handler⟩ := task_parts step
  obtain ⟨_, packets⟩ := task_channels moved
  have same : conn'.handler.results = conn.handler.results ∧
      ∀ c, conn'.handler.taskHandle = .finished c → conn.handler.taskHandle = .finished c := by
    rcases handler with is | ⟨_, is⟩ <;> rw [is] <;> simp
  refine ⟨books, by rw [pc]; exact bridged.stands, ?_, ?_, ?_, ?_, ?_, ?_⟩
  · rw [pc]
    intro checking
    obtain ⟨empty, gone⟩ := bridged.checks checking
    exact ⟨by rw [channels, packets gone, empty], task ▸ step_connGone gone moved⟩
  · rw [same.1, bridged.handed]
  · rw [same.1]
    exact bridged.unclosed
  · rw [same.1]
    exact bridged.whole
  · exact fun looping c is => bridged.running looping c (same.2 c is)
  · rw [same.1]
    exact bridged.ended

theorem bridged_leaves (bridged : Bridged conn handed .looping) (idle : conn.handler.pc = .idle) :
    Bridged conn handed .leaving :=
  ⟨bridged.books, by rw [idle]; rfl, bridged.checks, bridged.handed,
    fun _ => bridged.unclosed (by simp), bridged.whole, by simp, by simp⟩

def runPlace : RunPc → Place
  | .opening | .select | .writing => .looping
  | .leaving | .closing => .leaving
  | .ended => .ended

/-- connection_run: everything handed out is sent to the main loop at once. -/
structure RunBridged (b : ConnectionRun) : Prop where
  mainLoop : b.mainLoop = true
  bridged : Bridged b.conn b.forwarded (runPlace b.pc)

theorem run_called {b : ConnectionRun} (there : b.mainLoop = true)
    (outcome : Outcome b.conn b.forwarded (runPlace b.pc) conn') : RunBridged (b.called conn') := by
  have dataTx : ∀ msgs, b.dataTx msgs = { b with forwarded := b.forwarded ++ msgs } := by
    intro msgs
    simp only [ConnectionRun.dataTx, there, if_true]
  unfold ConnectionRun.called
  cases outcome with
  | rests none bridged =>
    rw [none]
    exact ⟨there, bridged⟩
  | @gives r some asked idle bridged =>
    rw [some]
    cases r with
    | getStatus q => exact absurd rfl (asked q)
    | read q =>
      cases q with
      | ok data =>
        simp only [dataTx, there, if_true]
        exact ⟨rfl, bridged⟩
      | error closed =>
        simp only [dataTx]
        exact ⟨there, bridged⟩
    | write bytes q =>
      have same : b.forwarded ++ handedOut (.write bytes q) = b.forwarded := List.append_nil _
      rw [same] at bridged
      cases q with
      | ok done => exact ⟨there, bridged⟩
      | error closed => exact ⟨there, bridged⟩
    | close q =>
      cases q with
      | error closed =>
        have same : b.forwarded ++ handedOut (.close (.error closed)) = b.forwarded :=
          List.append_nil _
        rw [same] at bridged
        exact ⟨there, bridged⟩
      | ok q =>
        cases q with
        | error e =>
          have same : b.forwarded ++ handedOut (.close (.ok (.error e))) = b.forwarded :=
            List.append_nil _
          rw [same] at bridged
          exact ⟨there, bridged⟩
        | ok remaining =>
          simp only [dataTx]
          exact ⟨there, bridged⟩

theorem run_outcome {b c : ConnectionRun} {event : RunEvent} {call : EndpointEvent}
    (ok : RunBridged b) (made : RunCall b event c call) (moved : c.conn.step call = some conn') :
    c.mainLoop = true ∧ Outcome c.conn c.forwarded (runPlace c.pc) conn' := by
  obtain ⟨there, bridged⟩ := ok
  refine ⟨by cases made <;> exact there, ?_⟩
  cases made with
  | read here reading =>
    rw [here] at bridged ⊢
    exact outcome_read bridged moved
  | recv here =>
    rw [here] at bridged ⊢
    exact outcome_recv bridged moved
  | check here =>
    rw [here] at bridged ⊢
    exact outcome_check bridged moved
  | write here =>
    rw [here] at bridged
    exact outcome_write (bridged_dropRead bridged) moved
  | commanded here =>
    rw [here] at bridged
    have idle : (dropRead b.conn).handler.pc = .idle :=
      callable_idle (Option.ite_none_right_eq_some.mp moved).1
    exact outcome_close (bridged_leaves (bridged_dropRead bridged) idle) moved
  | requested here =>
    apply outcome_requested bridged _ moved
    rcases here with here | here <;> simp [here, runPlace]
  | close here =>
    rw [here] at bridged
    exact outcome_close bridged moved
  | joined here =>
    rw [here] at bridged ⊢
    exact outcome_joined bridged moved

theorem step_run {b b' : ConnectionRun} {event : RunEvent} (ok : RunBridged b)
    (stays : event ≠ .mainLoopEnds) (step : b.step event = some b') : RunBridged b' := by
  have ⟨there, bridged⟩ := ok
  cases run_move step with
  | task moved => exact ⟨there, bridged_task bridged moved⟩
  | calls made moved =>
    obtain ⟨loop, outcome⟩ := run_outcome ok made moved
    exact run_called loop outcome
  | starts here callable =>
    rw [here] at bridged
    exact ⟨there, bridged⟩
  | toggles here callable which =>
    rw [here] at bridged
    exact ⟨there, by rw [here]; exact bridged_dropRead bridged⟩
  | orphaned here callable =>
    rw [here] at bridged
    exact ⟨there, bridged_leaves (bridged_dropRead bridged) (callable_idle callable)⟩
  | mainLoopEnds => exact absurd rfl stays

def handlePlace : HandlePc → Place
  | .opening | .loopTop | .select | .writing | .toAdapter _ .loop => .looping
  | .leaving | .closing | .toAdapter _ .leave => .leaving
  | .ended | .toAdapter _ .ends => .ended

def waiting : HandlePc → List (List UInt8)
  | .toAdapter left _ => left
  | _ => []

def betweenCalls : HandlePc → Bool
  | .loopTop | .toAdapter _ .loop | .toAdapter _ .leave => true
  | _ => false

/-- handle_connection: what is handed out and not yet forwarded waits for adapter.write. -/
structure HandleBridged (b : HandleConnection) : Prop where
  bridged : Bridged b.conn (b.forwarded ++ waiting b.pc) (handlePlace b.pc)
  idle : betweenCalls b.pc = true → b.conn.handler.pc = .idle

theorem handle_write {b : HandleConnection} (next : After) {msgs : List (List UInt8)}
    (bridged : Bridged b.conn (b.forwarded ++ msgs) (handlePlace next.pc))
    (idle : handlePlace next.pc ≠ .ended → b.conn.handler.pc = .idle) :
    HandleBridged (b.write msgs next) := by
  unfold HandleConnection.write
  split
  · rename_i nothing
    subst nothing
    cases next with
    | loop => exact ⟨bridged, fun _ => idle (by simp [After.pc, handlePlace])⟩
    | leave => exact ⟨bridged, fun _ => idle (by simp [After.pc, handlePlace])⟩
    | ends => exact ⟨bridged, nofun⟩
  · cases next with
    | loop => exact ⟨bridged, fun _ => idle (by simp [After.pc, handlePlace])⟩
    | leave => exact ⟨bridged, fun _ => idle (by simp [After.pc, handlePlace])⟩
    | ends => exact ⟨bridged, nofun⟩

theorem handle_called {b : HandleConnection} (calling : waiting b.pc = [])
    (busy : betweenCalls b.pc = false)
    (outcome : Outcome b.conn b.forwarded (handlePlace b.pc) conn') :
    HandleBridged (b.called conn') := by
  unfold HandleConnection.called
  cases outcome with
  | rests none bridged =>
    rw [none]
    exact ⟨by rw [calling, List.append_nil]; exact bridged, fun is => absurd is (by simp [busy])⟩
  | @gives r some asked idle bridged =>
    rw [some]
    cases r with
    | getStatus q => exact absurd rfl (asked q)
    | read q =>
      cases q with
      | ok data => exact handle_write .loop bridged idle
      | error closed => exact handle_write .leave bridged idle
    | write bytes q =>
      cases q with
      | ok done => exact ⟨bridged, fun _ => idle (by simp [goesOn])⟩
      | error closed => exact ⟨bridged, nofun⟩
    | close q =>
      cases q with
      | error closed => exact ⟨bridged, nofun⟩
      | ok q =>
        cases q with
        | error e => exact ⟨bridged, nofun⟩
        | ok remaining => exact handle_write .ends bridged idle

theorem handle_outcome {b c : HandleConnection} {event : HandleEvent} {call : EndpointEvent}
    (ok : HandleBridged b) (made : HandleCall b event c call)
    (moved : c.conn.step call = some conn') :
    (waiting c.pc = [] ∧ betweenCalls c.pc = false) ∧
      Outcome c.conn c.forwarded (handlePlace c.pc) conn' := by
  have bridged := ok.bridged
  cases made with
  | read here =>
    rw [here] at bridged ⊢
    simp only [waiting, List.append_nil] at bridged
    exact ⟨⟨rfl, rfl⟩, outcome_read bridged moved⟩
  | recv here =>
    rw [here] at bridged ⊢
    simp only [waiting, List.append_nil] at bridged
    exact ⟨⟨rfl, rfl⟩, outcome_recv bridged moved⟩
  | check here =>
    rw [here] at bridged ⊢
    simp only [waiting, List.append_nil] at bridged
    exact ⟨⟨rfl, rfl⟩, outcome_check bridged moved⟩
  | write here =>
    rw [here] at bridged
    simp only [waiting, List.append_nil] at bridged
    exact ⟨⟨rfl, rfl⟩, outcome_write (bridged_dropRead bridged) moved⟩
  | requested here =>
    have calling : waiting b.pc = [] := by rcases here with is | is <;> rw [is] <;> rfl
    have busy : betweenCalls b.pc = false := by rcases here with is | is <;> rw [is] <;> rfl
    rw [calling, List.append_nil] at bridged
    refine ⟨⟨calling, busy⟩, outcome_requested bridged ?_ moved⟩
    rcases here with here | here <;> simp [here, handlePlace]
  | close here =>
    rw [here] at bridged
    simp only [waiting, List.append_nil] at bridged
    exact ⟨⟨rfl, rfl⟩, outcome_close bridged moved⟩
  | joined here =>
    rw [here] at bridged ⊢
    simp only [waiting, List.append_nil] at bridged
    exact ⟨⟨rfl, rfl⟩, outcome_joined bridged moved⟩

theorem handle_adapterWrote {b : HandleConnection} {data : List UInt8} {left : List (List UInt8)}
    {next : After} (ok : HandleBridged b) (here : b.pc = .toAdapter (data :: left) next) :
    HandleBridged ({ b with forwarded := b.forwarded ++ [data] }.write left next) := by
  obtain ⟨bridged, idle⟩ := ok
  rw [here] at bridged idle
  simp only [waiting] at bridged
  have order : b.forwarded ++ data :: left = b.forwarded ++ [data] ++ left := by simp
  rw [order] at bridged
  cases next with
  | loop => exact handle_write .loop bridged fun _ => idle rfl
  | leave => exact handle_write .leave bridged fun _ => idle rfl
  | ends => exact handle_write .ends bridged fun open_ => absurd rfl open_

theorem step_handle {b b' : HandleConnection} {event : HandleEvent} (ok : HandleBridged b)
    (works : event ≠ .adapterFails) (step : b.step event = some b') : HandleBridged b' := by
  have ⟨bridged, idle⟩ := ok
  cases handle_move step with
  | task moved =>
    obtain ⟨_, _, _, _, _, pc, _⟩ := task_parts moved
    exact ⟨bridged_task bridged moved, fun is => pc.trans (idle is)⟩
  | calls made moved =>
    obtain ⟨⟨calling, busy⟩, outcome⟩ := handle_outcome ok made moved
    exact handle_called calling busy outcome
  | starts here callable =>
    rw [here] at bridged
    exact ⟨bridged, fun _ => callable_idle callable⟩
  | @exitStatus exited here =>
    rw [here] at bridged idle
    cases exited with
    | false => exact ⟨bridged, nofun⟩
    | true => exact ⟨bridged_leaves bridged (idle rfl), nofun⟩
  | closed here callable =>
    rw [here] at bridged
    simp only [waiting, List.append_nil] at bridged
    refine ⟨?_, nofun⟩
    simp only [waiting, List.append_nil]
    exact bridged_leaves (bridged_dropRead bridged) (callable_idle callable)
  | adapterWrote here => exact handle_adapterWrote ok here
  | adapterFails here => exact absurd rfl works

theorem bridged_new (peerAddr : SocketAddr) (timeoutMs closeTimeoutMs keepAliveIntervalMs : UInt32)
    (role : ConnRole) (bufferSize : Nat) :
    Bridged (Endpoint.new peerAddr timeoutMs closeTimeoutMs keepAliveIntervalMs role bufferSize) []
      .looping :=
  ⟨opened_books (new_opened _ _ _ _ _ _), rfl, by simp [Endpoint.new], rfl,
    by simp [Endpoint.new], by simp [Endpoint.new], by simp [Endpoint.new], by simp⟩

def closeFailed : CallResult → Bool
  | .close (.error _) => true
  | _ => false

def ClosesFine (conn : Endpoint) : Prop := ∀ r ∈ conn.handler.results, closeFailed r = false

instance (conn : Endpoint) : Decidable (ClosesFine conn) :=
  inferInstanceAs (Decidable (∀ r ∈ _, _))

theorem handed_at_end (bridged : Bridged conn handed .ended) (fine : ClosesFine conn) :
    handed = conn.task.put := by
  rcases bridged.ended rfl with ⟨rest, closed⟩ | ⟨c, failed⟩
  · exact handed_all bridged closed
  · exact absurd (fine _ failed) (by simp [closeFailed])

/-- Both loops: what has been forwarded is always the beginning of what the task put into
    the packet channel, and all of it once the loop and its close are done. A call that
    panics never lets the loop come to its end. -/
theorem bridges_forward_once (peerAddr : SocketAddr)
    (timeoutMs closeTimeoutMs keepAliveIntervalMs : UInt32) (role : ConnRole) (bufferSize : Nat) :
    (∀ b : ConnectionRun, Reaches ConnectionRun.step (fun _ event => event ≠ .mainLoopEnds)
      { conn := Endpoint.new peerAddr timeoutMs closeTimeoutMs keepAliveIntervalMs role
          bufferSize } b →
      b.forwarded <+: b.conn.task.put ∧
        (b.pc = .ended → ClosesFine b.conn → b.forwarded = b.conn.task.put)) ∧
    ∀ b : HandleConnection, Reaches HandleConnection.step (fun _ event => event ≠ .adapterFails)
      { conn := Endpoint.new peerAddr timeoutMs closeTimeoutMs keepAliveIntervalMs role
          bufferSize } b →
      b.forwarded <+: b.conn.task.put ∧
        (b.pc = .ended → ClosesFine b.conn → b.forwarded = b.conn.task.put) := by
  have new := bridged_new peerAddr timeoutMs closeTimeoutMs keepAliveIntervalMs role bufferSize
  constructor
  · intro b run
    obtain ⟨_, bridged⟩ := run.keeps (I := RunBridged)
      (fun ok stays step => step_run ok stays step) ⟨rfl, new⟩
    refine ⟨handed_put bridged, ?_⟩
    intro ended fine
    rw [ended] at bridged
    exact handed_at_end bridged fine
  · intro b run
    obtain ⟨bridged, _⟩ := run.keeps (I := HandleBridged)
      (fun ok works step => step_handle ok works step) ⟨new, nofun⟩
    refine ⟨(List.prefix_append _ _).trans (handed_put bridged), ?_⟩
    intro ended fine
    rw [ended] at bridged
    simp only [waiting, List.append_nil] at bridged
    exact handed_at_end bridged fine

/-- The peer sends AA, which a read returns, then BB and its ControlClose; the task ends with
    BB in the packet channel, and the next write reports it. -/
def leftover : List TaskEvent :=
  [.read [0x4E, 0x43, 0x44, 0x01, 0x00, 0x01, 0x00, 0x07, 0xBB,
      0x4E, 0x43, 0x44, 0x01, 0x00, 0x00, 0x00, 0x03],
    .deliver, .packet, .tryRecv, .wrote 8, .shutdown, .dropConn, .finish]

def handshakes : List TaskEvent :=
  [.begin, .read [0x4E, 0x43, 0x44, 0x01, 0x00, 0x04, 0x00, 0x01, 0x00, 0x00, 0x09, 0xC4],
    .wrote 12, .spawn, .enterRun 0, .wrote 12,
    .read [0x4E, 0x43, 0x44, 0x01, 0x00, 0x01, 0x00, 0x07, 0xAA], .deliver]

def runOut : List RunEvent :=
  handshakes.map .task ++ [.start, .read, .recv] ++ leftover.map .task ++
    [.command (some (.data [0x01])), .close]

def handleOut : List HandleEvent :=
  handshakes.map .task ++ [.start, .exitStatus false, .read, .recv, .adapterWrote,
    .exitStatus false] ++ leftover.map .task ++ [.adapterData (some [0x01]), .close, .adapterWrote]

def afterRun : ConnectionRun := (exec ConnectionRun.step { conn := aHost } runOut).getD
  { conn := aHost }

def afterHandle : HandleConnection := (exec HandleConnection.step { conn := aHost } handleOut).getD
  { conn := aHost }

theorem leftover_forwarded_once :
    afterRun.forwarded = afterRun.conn.task.put ∧
      afterHandle.forwarded = afterHandle.conn.task.put := by
  obtain ⟨run, handle⟩ :=
    bridges_forward_once { ip := [127, 0, 0, 1], port := 9000 } 5000 5000 2500 .host 4
  constructor
  · refine (run afterRun (reaches_of_execIf runOut (by decide +kernel))).2 ?_ ?_
    · decide +kernel
    · decide +kernel
  · refine (handle afterHandle (reaches_of_execIf handleOut (by decide +kernel))).2 ?_ ?_
    · decide +kernel
    · decide +kernel

end NcdForwarding
