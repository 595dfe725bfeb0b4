import Ncd.Books

/- The message list that close returns against the messages nobody has read yet, for
   every exit of close and every way the task can end around it. -/
namespace NcdCloseResult
open NcdPacket NcdFrame NcdIoState NcdConnection NcdHandler NcdTaskMoves NcdTaskSteps NcdBooks
  LabelledRuns

/-- The messages that came with the first error of a call that carried any. -/
def reported : List CallResult → List (List UInt8)
  | [] => []
  | r :: results =>
    match failure r with
    | some (.normal messages) => messages
    | some (.error messages _) => messages
    | _ => reported results

def unread (e : Endpoint) : List (List UInt8) :=
  e.task.put.drop (readMessages e.handler.results ++ reported e.handler.results).length

def closeMessages : Except ConnectionClosed (Except ConnectionError (List (List UInt8))) →
    List (List UInt8)
  | .ok (.ok messages) => messages
  | _ => []

/-- close sends its request after the Connection is gone, with messages in the channel. -/
def LosesRace (e : Endpoint) (event : EndpointEvent) : Prop :=
  event = .requested ∧ e.handler.pc = .requesting .close ∧ connGone e.task.pc = true ∧
    e.channels.packets ≠ []

structure Calls (e : Endpoint) : Prop where
  known : e.handler.pc ≠ .gone → ∀ closed, e.handler.taskHandle = .finished closed →
    ∃ r ∈ e.handler.results, failure r = some closed
  asking : ∀ call, e.handler.pc = .requesting call → e.handler.taskHandle = .running

theorem calls_pc {e : Endpoint} (calls : Calls e) {pc : HandlerPc}
    (before : e.handler.pc ≠ .gone) (after : ∀ call, pc ≠ .requesting call) :
    Calls { e with handler := { e.handler with pc := pc } } where
  known _ := calls.known before
  asking call is := absurd is (after call)

theorem calls_gone {e : Endpoint} : Calls e.dropHandler where
  known still := absurd rfl still
  asking call is := by simp [Endpoint.dropHandler] at is

/- The result may be the first to report how the task ended. -/
theorem calls_returns {e : Endpoint} {r : CallResult}
    (known : ∀ closed, e.handler.taskHandle = .finished closed →
      (∃ q ∈ e.handler.results, failure q = some closed) ∨ failure r = some closed) :
    Calls (e.returns r) where
  known _ closed handle := by
    rcases known closed handle with ⟨q, member, failed⟩ | failed
    · exact ⟨q, List.mem_append.mpr (.inl member), failed⟩
    · exact ⟨r, List.mem_append.mpr (.inr (List.mem_singleton.mpr rfl)), failed⟩
  asking call is := by simp [Endpoint.returns] at is

theorem calls_refused {e : Endpoint} {closed : ConnectionClosed}
    (handle : e.handler.taskHandle = .finished closed) (call : Asking) :
    Calls (e.refused closed call) := by
  rcases refused_eq e closed call with ⟨_, same⟩ | ⟨r, failed, same⟩
  · rw [same]
    exact calls_gone
  · rw [same]
    refine calls_returns ?_
    intro other is
    rw [handle, TaskState.finished.injEq] at is
    exact .inr (is ▸ failed)

theorem calls_ask {e : Endpoint} (calls : Calls e) (before : e.handler.pc ≠ .gone)
    (call : Asking) : Calls (e.ask call) := by
  unfold Endpoint.ask
  have checked := checkTaskState_checked e
  generalize e.checkTaskState = verdict at checked
  cases checked with
  | panics site failed => exact calls_pc calls before (by simp)
  | running handle unfinished =>
    exact ⟨fun _ => calls.known before, fun _ _ => handle⟩
  | joins handle done => exact calls_refused (join_cached e _) call
  | cached handle => exact calls_refused handle call

theorem calls_requested {e e' : Endpoint} (calls : Calls e) (step : e.requested = some e') :
    Calls e' := by
  unfold Endpoint.requested at step
  split at step
  · rename_i call here
    have handle := calls.asking call here
    have unknown : ∀ closed, e.handler.taskHandle ≠ .finished closed := by simp [handle]
    split at step
    · cases call with
      | write bytes =>
        cases step
        exact calls_returns fun closed is => absurd is (unknown closed)
      | getStatus =>
        cases step
        exact calls_returns fun closed is => absurd is (unknown closed)
      | close =>
        cases step
        exact calls_gone
    · split at step
      · cases call with
        | write bytes =>
          cases step
          exact calls_returns fun closed is => absurd is (unknown closed)
        | getStatus =>
          cases step
          exact ⟨fun _ closed is => absurd is (unknown closed), by simp⟩
        | close =>
          cases step
          exact ⟨fun _ closed is => absurd is (unknown closed), by simp⟩
      · simp at step
  · simp at step

theorem calls_recv {e e' : Endpoint} (calls : Calls e)
    (step : e.recv = some e' ∨ e.recvStatus = some e') : Calls e' := by
  rcases step with step | step
  · unfold Endpoint.recv at step
    split at step
    · rename_i packet rest here queue
      have before : e.handler.pc ≠ .gone := by simp [here]
      split at step
      · cases step
        exact calls_returns fun closed handle => .inl (calls.known before closed handle)
      · cases step
        exact ⟨fun _ => calls.known before, by simp [Endpoint.panic]⟩
    · rename_i here queue
      split at step
      · cases step
        exact calls_pc calls (by simp [here]) (by simp)
      · simp at step
    · simp at step
  · unfold Endpoint.recvStatus at step
    split at step
    · rename_i status rest here queue
      cases step
      have before : e.handler.pc ≠ .gone := by simp [here]
      exact calls_returns fun closed handle => .inl (calls.known before closed handle)
    · rename_i here queue
      split at step
      · cases step
        exact calls_pc calls (by simp [here]) (by simp)
      · simp at step
    · simp at step

theorem calls_check {e e' : Endpoint} (calls : Calls e) (step : e.check = some e') :
    Calls e' := by
  have failing : ∀ {e : Endpoint} {closed : ConnectionClosed} (forStatus : Bool),
      e.handler.taskHandle = .finished closed →
      Calls (if forStatus then e.returns (.getStatus (.error closed))
        else e.returns (.read (.error closed))) := by
    intro e closed forStatus handle
    have same : ∀ other, e.handler.taskHandle = .finished other → some closed = some other := by
      intro other is
      rw [handle, TaskState.finished.injEq] at is
      rw [is]
    cases forStatus with
    | true => exact calls_returns fun other is => .inr (same other is)
    | false => exact calls_returns fun other is => .inr (same other is)
  unfold Endpoint.check at step
  split at step
  · rename_i forStatus here
    have before : e.handler.pc ≠ .gone := by simp [here]
    have checked := checkTaskState_checked e
    generalize e.checkTaskState = verdict at checked step
    cases checked with
    | panics site failed =>
      cases step
      exact calls_pc calls before (by simp)
    | running handle unfinished =>
      cases step
      exact calls_pc calls before (by simp)
    | joins handle done =>
      rename_i result
      have joined := failing forStatus (join_cached e result)
      cases forStatus <;> cases step <;> exact joined
    | cached handle =>
      have known := failing forStatus handle
      cases forStatus <;> cases step <;> exact known
  · simp at step

theorem calls_joined {e e' : Endpoint} (calls : Calls e) (step : e.joined = some e') :
    Calls e' := by
  unfold Endpoint.joined at step
  split at step
  · rename_i here
    have before : e.handler.pc ≠ .gone := by simp [here]
    split at step
    · cases step
      exact calls_pc calls before (by simp)
    · cases step
      exact calls_gone
    · split at step
      · cases step
        exact calls_gone
      · cases step
        exact calls_pc calls before (by simp)
      · cases step
        exact calls_pc calls before (by simp)
      · simp at step
  · simp at step

theorem step_calls {e e' : Endpoint} {event : EndpointEvent} (calls : Calls e)
    (step : e.step event = some e') : Calls e' := by
  have guarded : ∀ {made : Endpoint}, (e.handler.pc ≠ .gone → Calls made) →
      (if e.callable = true then some made else none) = some e' → Calls e' := by
    intro made good step
    split at step
    · rename_i callable
      cases step
      refine good ?_
      intro gone
      simp [Endpoint.callable, gone] at callable
    · simp at step
  cases event with
  | task event =>
    simp only [Endpoint.step] at step
    split at step
    · simp at step
    · simp only [Option.map_eq_some_iff, Prod.exists] at step
      obtain ⟨t', ch', _, rfl⟩ := step
      by_cases spawn : event = .spawn
      · simp only [if_pos spawn]
        exact ⟨by simp, by simp⟩
      · simp only [if_neg spawn]
        exact ⟨calls.known, calls.asking⟩
  | write bytes => exact guarded (calls_ask calls · _) step
  | getStatus => exact guarded (calls_ask calls · _) step
  | close => exact guarded (calls_ask calls · _) step
  | read => exact guarded (fun before => calls_pc calls before (by simp)) step
  | requested => exact calls_requested calls step
  | recv => exact calls_recv calls (.inl step)
  | recvStatus => exact calls_recv calls (.inr step)
  | check => exact calls_check calls step
  | joined => exact calls_joined calls step
  | cancel =>
    simp only [Endpoint.step] at step
    unfold Endpoint.cancel at step
    split at step
    · simp at step
    · rename_i call _ here
      cases step
      exact calls_pc calls (by simp [here]) (by simp)
    · rename_i here
      cases step
      exact calls_pc calls (by simp [here]) (by simp)
    · rename_i here
      cases step
      exact calls_pc calls (by simp [here]) (by simp)
    · simp at step
  | dropHandler =>
    simp only [Endpoint.step] at step
    split at step
    · simp at step
    · simp at step
    · split at step
      · cases step
        exact calls_gone
      · simp at step

theorem run_calls {e e' : Endpoint} {ok : Endpoint → EndpointEvent → Prop} (opened : Opened e)
    (run : Reaches Endpoint.step ok e e') : Calls e' :=
  run.keeps (fun calls _ step => step_calls calls step)
    ⟨by simp [opened.handler], by simp [opened.handler]⟩

theorem reported_eq {results : List CallResult} {closed : ConnectionClosed}
    (only : ∀ r ∈ results, ∀ other, failure r = some other →
      other = channelClosed ∨ other = closed)
    (carries : ∀ text, closed ≠ .unknown text) (failing : ∃ r ∈ results, failure r = some closed) :
    reported results = closed.messages := by
  induction results with
  | nil => simp at failing
  | cons r results ih =>
    have rest : (∀ text, failure r ≠ some (.unknown text)) ∨ reported (r :: results) =
        reported results := by
      cases failed : failure r with
      | none => simp
      | some other => cases other <;> simp [reported, failed]
    have later := fun q member => only q (List.mem_cons_of_mem r member)
    cases failed : failure r with
    | none =>
      have tail : ∃ q ∈ results, failure q = some closed := by
        obtain ⟨q, member, is⟩ := failing
        rcases List.mem_cons.mp member with rfl | member
        · rw [failed] at is
          cases is
        · exact ⟨q, member, is⟩
      simpa [reported, failed] using ih later tail
    | some other =>
      rcases only r List.mem_cons_self other failed with rfl | rfl
      · have tail : ∃ q ∈ results, failure q = some closed := by
          obtain ⟨q, member, is⟩ := failing
          rcases List.mem_cons.mp member with rfl | member
          · rw [failed, Option.some.injEq] at is
            exact absurd is.symm (carries _)
          · exact ⟨q, member, is⟩
        simpa [reported, failed, channelClosed] using ih later tail
      · cases other with
        | unknown text => exact absurd rfl (carries text)
        | normal messages => simp [reported, failed, ConnectionClosed.messages]
        | error messages e => simp [reported, failed, ConnectionClosed.messages]

theorem reported_none {results : List CallResult}
    (only : ∀ r ∈ results, ∀ other, failure r = some other → other = channelClosed) :
    reported results = [] := by
  induction results with
  | nil => rfl
  | cons r results ih =>
    have tail := ih fun q member => only q (List.mem_cons_of_mem r member)
    cases failed : failure r with
    | none => simpa [reported, failed] using tail
    | some other =>
      have is := only r List.mem_cons_self other failed
      subst is
      simpa [reported, failed, channelClosed] using tail

/-- While the handler is alive, what joining drained is what its calls have reported. -/
theorem reported_drained {e : Endpoint} (books : Books e) (calls : Calls e)
    (alive : e.handler.pc ≠ .gone) :
    reported e.handler.results = drained e.handler.taskHandle := by
  cases handle : e.handler.taskHandle with
  | finished closed =>
    obtain ⟨_, result, _, shape⟩ := books.finished closed handle
    refine reported_eq ?_ ?_ (calls.known alive closed handle)
    · intro r member other failed
      refine (books.failures r member other failed).imp id fun is => ?_
      rw [handle, TaskState.finished.injEq] at is
      exact is.symm
    · intro text is
      rw [is] at shape
      cases result <;> simp [closedWith] at shape
  | _ =>
    refine reported_none ?_
    intro r member other failed
    rcases books.failures r member other failed with is | is
    · exact is
    · rw [handle] at is
      cases is

theorem unread_eq {e : Endpoint} (books : Books e) (calls : Calls e)
    (alive : e.handler.pc ≠ .gone) : unread e = messages e.channels.packets := by
  unfold unread
  rw [books.packets, reported_drained books calls alive, List.drop_left]

inductive Exit (e : Endpoint) (event : EndpointEvent) :
    Except ConnectionClosed (Except ConnectionError (List (List UInt8))) → Prop where
  | known {closed : ConnectionClosed} (handle : e.handler.taskHandle = .finished closed) :
      Exit e event (closeResult closed)
  | joined (ended : Except ConnectionError Unit) (handle : e.handler.taskHandle = .running)
      (done : e.task.pc = .finished ended) :
      Exit e event (closeResult (closedWith ended (messages e.channels.packets)))
  | refused (sending : event = .requested) (request : e.handler.pc = .requesting .close)
      (gone : connGone e.task.pc = true) : Exit e event (.error channelClosed)

theorem refused_exit {e : Endpoint} {closed : ConnectionClosed} {call : Asking}
    {before : List CallResult} (same : e.handler.results = before)
    {r : Except ConnectionClosed (Except ConnectionError (List (List UInt8)))}
    (result : (e.refused closed call).handler.results = before ++ [.close r]) :
    r = closeResult closed := by
  rcases refused_eq e closed call with ⟨_, is⟩ | ⟨q, failed, is⟩
  · rw [is] at result
    simpa [Endpoint.closeReturns, Endpoint.returns, Endpoint.dropHandler, same, eq_comm]
      using result
  · rw [is] at result
    have last : q = .close r := by simpa [Endpoint.returns, same] using result
    rw [last] at failed
    cases failed

theorem ask_exit {e : Endpoint} {call : Asking} {event : EndpointEvent}
    {r : Except ConnectionClosed (Except ConnectionError (List (List UInt8)))}
    (result : (e.ask call).handler.results = e.handler.results ++ [.close r]) :
    Exit e event r := by
  unfold Endpoint.ask at result
  have checked := checkTaskState_checked e
  generalize e.checkTaskState = verdict at checked result
  cases checked with
  | panics site failed => simp [Endpoint.panic] at result
  | running handle unfinished => simp at result
  | joins handle done =>
    rw [refused_exit (e := e.join _) rfl result]
    exact .joined _ handle done
  | cached handle =>
    rw [refused_exit rfl result]
    exact .known handle

theorem requested_exit {e e' : Endpoint} (step : e.requested = some e')
    {r : Except ConnectionClosed (Except ConnectionError (List (List UInt8)))}
    (result : e'.handler.results = e.handler.results ++ [.close r]) :
    e.handler.pc = .requesting .close ∧ connGone e.task.pc = true ∧ r = .error channelClosed := by
  unfold Endpoint.requested at step
  split at step
  · rename_i call here
    split at step
    · rename_i gone
      cases call with
      | write bytes =>
        cases step
        simp [Endpoint.returns] at result
      | getStatus =>
        cases step
        simp [Endpoint.returns] at result
      | close =>
        cases step
        refine ⟨here, gone, ?_⟩
        simpa [Endpoint.closeReturns, Endpoint.returns, Endpoint.dropHandler, eq_comm]
          using result
    · split at step
      · cases call <;> cases step <;> simp [Endpoint.returns] at result
      · simp at step
  · simp at step

theorem joined_exit {e e' : Endpoint} (step : e.joined = some e')
    {r : Except ConnectionClosed (Except ConnectionError (List (List UInt8)))}
    (result : e'.handler.results = e.handler.results ++ [.close r]) {event : EndpointEvent} :
    Exit e event r := by
  unfold Endpoint.joined at step
  split at step
  · split at step
    · cases step
      simp [Endpoint.panic] at result
    · rename_i closed handle
      cases step
      have is : closeResult closed = r := by
        simpa [Endpoint.closeReturns, Endpoint.returns, Endpoint.dropHandler] using result
      exact is ▸ .known handle
    · rename_i handle
      split at step
      · rename_i task done
        cases step
        have is : closeResult (closedWith task (messages e.channels.packets)) = r := by
          simpa [Endpoint.closeReturns, Endpoint.returns, Endpoint.dropHandler, Endpoint.join]
            using result
        exact is ▸ .joined _ handle done
      · cases step
        simp [Endpoint.panic] at result
      · cases step
        simp [Endpoint.panic] at result
      · simp at step
  · simp at step

theorem check_exit {e e' : Endpoint} (step : e.check = some e')
    {r : Except ConnectionClosed (Except ConnectionError (List (List UInt8)))} :
    e'.handler.results ≠ e.handler.results ++ [.close r] := by
  intro result
  unfold Endpoint.check at step
  split at step
  · rename_i forStatus here
    have checked := checkTaskState_checked e
    generalize e.checkTaskState = verdict at checked step
    cases checked with
    | panics site failed =>
      cases step
      simp [Endpoint.panic] at result
    | running handle unfinished =>
      cases step
      simp [Endpoint.panic] at result
    | joins handle done =>
      cases forStatus <;> cases step <;> simp [Endpoint.returns, Endpoint.join] at result
    | cached handle =>
      cases forStatus <;> cases step <;> simp [Endpoint.returns] at result
  · simp at step

theorem close_exit {e e' : Endpoint} {event : EndpointEvent} (step : e.step event = some e')
    {r : Except ConnectionClosed (Except ConnectionError (List (List UInt8)))}
    (result : e'.handler.results = e.handler.results ++ [.close r]) :
    e.handler.pc ≠ .gone ∧ Exit e event r := by
  have guarded : ∀ {call : Asking},
      (if e.callable = true then some (e.ask call) else none) = some e' →
      e.handler.pc ≠ .gone ∧ Exit e event r := by
    intro call step
    split at step
    · rename_i callable
      cases step
      refine ⟨?_, ask_exit result⟩
      intro gone
      simp [Endpoint.callable, gone] at callable
    · simp at step
  cases event with
  | task event =>
    simp only [Endpoint.step] at step
    split at step
    · simp at step
    · simp only [Option.map_eq_some_iff, Prod.exists] at step
      obtain ⟨t', ch', _, rfl⟩ := step
      by_cases spawn : event = .spawn <;> simp [spawn] at result
  | write bytes => exact guarded step
  | getStatus => exact guarded step
  | close => exact guarded step
  | read =>
    simp only [Endpoint.step] at step
    split at step
    · cases step
      simp [Endpoint.read] at result
    · simp at step
  | requested =>
    obtain ⟨request, gone, rfl⟩ := requested_exit step result
    exact ⟨by simp [request], .refused rfl request gone⟩
  | recv =>
    simp only [Endpoint.step] at step
    unfold Endpoint.recv at step
    split at step
    · split at step <;> cases step <;> simp [Endpoint.returns, Endpoint.panic] at result
    · split at step <;> cases step
      simp at result
    · simp at step
  | recvStatus =>
    simp only [Endpoint.step] at step
    unfold Endpoint.recvStatus at step
    split at step
    · cases step
      simp [Endpoint.returns] at result
    · split at step <;> cases step
      simp at result
    · simp at step
  | check => exact absurd result (check_exit step)
  | joined =>
    refine ⟨?_, joined_exit step result⟩
    intro gone
    simp [Endpoint.step, Endpoint.joined, gone] at step
  | cancel =>
    simp only [Endpoint.step] at step
    unfold Endpoint.cancel at step
    split at step <;> cases step <;> simp at result
  | dropHandler =>
    simp only [Endpoint.step] at step
    split at step
    · simp at step
    · simp at step
    · split at step <;> cases step
      simp [Endpoint.dropHandler] at result

theorem messages_nil {ps : List Packet} (onlyData : ∀ p ∈ ps, ∃ bytes, p = .data bytes) :
    messages ps = [] ↔ ps = [] := by
  cases ps with
  | nil => simp [messages]
  | cons p ps =>
    obtain ⟨bytes, rfl⟩ := onlyData p List.mem_cons_self
    simp [messages]

theorem closeMessages_closed (closed : ConnectionClosed) :
    closeMessages (closeResult closed) = closed.messages := by
  cases closed <;> rfl

/-- Whatever the task does around it, close returns what earlier errors have reported and
    then exactly the unread messages, unless its request comes too late. -/
theorem close_returns_unread {e₀ e e' : Endpoint} {event : EndpointEvent}
    {r : Except ConnectionClosed (Except ConnectionError (List (List UInt8)))}
    (opened : Opened e₀) (run : Reaches Endpoint.step Any e₀ e) (step : e.step event = some e')
    (result : e'.handler.results = e.handler.results ++ [.close r]) :
    closeMessages r = reported e.handler.results ++ unread e ↔ ¬ LosesRace e event := by
  have books := run_books opened run
  have calls := run_calls opened run
  obtain ⟨alive, exit⟩ := close_exit step result
  rw [reported_drained books calls alive, unread_eq books calls alive]
  cases exit with
  | known handle =>
    have empty := (books.finished _ handle).1
    have wins : ¬ LosesRace e event := fun race => race.2.2.2 empty
    simp [handle, empty, drained, messages, closeMessages_closed, wins]
  | joined ended handle done =>
    have wins : ¬ LosesRace e event := by
      rintro ⟨rfl, _, _, _⟩
      have late := (requested_exit step result).2.2
      cases ended <;> simp [closedWith, closeResult] at late
    have whole : (closedWith ended (messages e.channels.packets)).messages =
        messages e.channels.packets := by
      cases ended <;> rfl
    simp [handle, drained, closeMessages_closed, wins, whole]
  | refused sending request gone =>
    have handle := calls.asking _ request
    have race : LosesRace e event ↔ e.channels.packets ≠ [] :=
      ⟨fun race => race.2.2.2, fun kept => ⟨sending, request, gone, kept⟩⟩
    rw [race, not_not, handle, ← messages_nil books.onlyData]
    simp only [closeMessages, drained, List.nil_append]
    exact eq_comm

/-- Data and ControlClose arrive; the user calls close while the task ends. -/
def lateClose : List EndpointEvent :=
  hostHandshake ++
    [.task (.read [0x4E, 0x43, 0x44, 0x01, 0x00, 0x01, 0x00, 0x07, 0xAA]), .task .deliver,
      .task (.read [0x4E, 0x43, 0x44, 0x01, 0x00, 0x00, 0x00, 0x03]), .close, .task .tryRecv,
      .task (.wrote 8), .task .shutdown, .task .dropConn]

def finishedTask : List EndpointEvent :=
  hostHandshake ++
    [.task (.read [0x4E, 0x43, 0x44, 0x01, 0x00, 0x01, 0x00, 0x07, 0xAA]), .task .deliver,
      .task (.read [0x4E, 0x43, 0x44, 0x01, 0x00, 0x00, 0x00, 0x03]), .task .tryRecv,
      .task (.wrote 8), .task .shutdown, .task .dropConn, .task .finish]

def after (events : List EndpointEvent) : Endpoint :=
  (exec Endpoint.step aHost events).getD aHost

theorem close_after_finish :
    closeMessages (.ok (.ok [[0xAA]])) = reported (after finishedTask).handler.results ++
      unread (after finishedTask) ↔ ¬ LosesRace (after finishedTask) .close :=
  have closes : (after finishedTask).step .close = some (after finishedTask).close := by
    decide +kernel
  close_returns_unread aHost_opened (reaches_of_exec finishedTask (by decide +kernel)) closes
    (by decide +kernel)

/-- The close of lateClose returns an error, and the message 0xAA is gone with the handler. -/
theorem close_loses_unread :
    ¬ ∀ (e₀ e e' : Endpoint) (event : EndpointEvent)
      (r : Except ConnectionClosed (Except ConnectionError (List (List UInt8)))),
      Opened e₀ → Reaches Endpoint.step Any e₀ e → e.step event = some e' →
      e'.handler.results = e.handler.results ++ [.close r] →
      closeMessages r = reported e.handler.results ++ unread e := by
  intro claim
  have lost := claim aHost (after lateClose)
    (((after lateClose).step .requested).getD aHost) .requested (.error channelClosed)
    aHost_opened (reaches_of_exec lateClose (by decide +kernel)) (by decide +kernel)
    (by decide +kernel)
  revert lost
  decide +kernel

end NcdCloseResult
