import Ncd.Books

/- What one event on the handler can be: it moves a call on, puts a request into the
   channel, or ends a call. -/
namespace NcdTurns
open NcdPacket NcdConnection NcdHandler NcdTaskMoves NcdTaskSteps NcdBooks

/-- Where the handler never asks for anything again. -/
def shut : HandlerPc → Bool
  | .joining | .gone | .panicked _ => true
  | _ => false

def leaving : HandlerPc → Bool
  | .requesting .close | .joining | .gone => true
  | _ => false

inductive Turn (e : Endpoint) (event : EndpointEvent) (e' : Endpoint) : Prop where
  | rests (accepted : e'.handler.accepted = e.handler.accepted)
      (results : e'.handler.results = e.handler.results)
      (alive : e'.channels.handlerAlive = e.channels.handlerAlive ∨ event = .dropHandler)
      (handle : e'.handler.taskHandle = e.handler.taskHandle)
      (stays : shut e.handler.pc = true → shut e'.handler.pc = true)
      (leaves : leaving e'.handler.pc = true →
        leaving e.handler.pc = true ∨ event = .close ∨ event = .dropHandler)
      (checks : e'.handler.pc = .checking false →
        e'.channels.packets = [] ∧ connGone e.task.pc = true)
  | accepts {call : Asking} (here : e.handler.pc = .requesting call)
      (accepted : e'.handler.accepted = e.handler.accepted ++ [call.request])
      (results : e'.handler.results = e.handler.results ∨
        ∃ bytes, e'.handler.results = e.handler.results ++ [.write bytes (.ok ())])
      (alive : e'.channels.handlerAlive = e.channels.handlerAlive)
      (handle : e'.handler.taskHandle = e.handler.taskHandle)
      (goes : call = .close ∧ e'.handler.pc = .joining ∨
        call ≠ .close ∧ (e'.handler.pc = .idle ∨ e'.handler.pc = .awaitingStatus))
  | returns {r : CallResult} (before : shut e.handler.pc = false)
      (accepted : e'.handler.accepted = e.handler.accepted)
      (results : e'.handler.results = e.handler.results ++ [r])
      (alive : e'.channels.handlerAlive = e.channels.handlerAlive)
      (pc : e'.handler.pc = .idle) (open_ : ∀ q, r ≠ .close q)
      (read : ∀ c, r = .read (.error c) → e'.handler.taskHandle = .finished c)
      (learns : ∀ c, e'.handler.taskHandle = .finished c → e.handler.taskHandle = .finished c ∨
        failure r = some c ∧ ((∀ q, r ≠ .read q) ∨
          e.handler.pc = .checking false ∧ c.messages = messages e.channels.packets))
  | closes {r : Except ConnectionClosed (Except ConnectionError (List (List UInt8)))}
      (accepted : e'.handler.accepted = e.handler.accepted)
      (results : e'.handler.results = e.handler.results ++ [.close r])
      (pc : e'.handler.pc = .gone) (comes : event = .close ∨ leaving e.handler.pc = true)
      (ends : (∃ c, e'.handler.taskHandle = .finished c ∧ r = closeResult c) ∨
        e.handler.pc = .requesting .close ∧ connGone e.task.pc = true)

/- A call learns that the task is finished. -/
theorem turn_refused {e j : Endpoint} {event : EndpointEvent} {closed : ConnectionClosed}
    {call : Asking} (before : shut e.handler.pc = false)
    (same : j.handler.accepted = e.handler.accepted ∧ j.handler.results = e.handler.results ∧
      j.channels.handlerAlive = e.channels.handlerAlive)
    (handle : j.handler.taskHandle = .finished closed) (close : call = .close → event = .close) :
    Turn e event (j.refused closed call) := by
  have learns : ∀ {r : CallResult}, failure r = some closed → (∀ q, r ≠ .read q) →
      ∀ c, j.handler.taskHandle = .finished c → e.handler.taskHandle = .finished c ∨
        failure r = some c ∧ ((∀ q, r ≠ .read q) ∨
          e.handler.pc = .checking false ∧ c.messages = messages e.channels.packets) := by
    intro r failed other c is
    rw [handle, TaskState.finished.injEq] at is
    exact .inr ⟨is ▸ failed, .inl other⟩
  cases call with
  | write bytes =>
    exact .returns before same.1 (by rw [← same.2.1]; rfl) same.2.2 rfl (by simp) (by simp)
      (learns rfl (by simp))
  | getStatus =>
    exact .returns before same.1 (by rw [← same.2.1]; rfl) same.2.2 rfl (by simp) (by simp)
      (learns rfl (by simp))
  | close =>
    exact .closes same.1 (by rw [← same.2.1]; rfl) rfl (.inl (close rfl))
      (.inl ⟨closed, handle, rfl⟩)

theorem turn_ask {e : Endpoint} {event : EndpointEvent} {call : Asking}
    (idle : e.handler.pc = .idle) (close : call = .close → event = .close) :
    Turn e event (e.ask call) := by
  have before : shut e.handler.pc = false := by simp [idle, shut]
  unfold Endpoint.ask
  have checked := checkTaskState_checked e
  generalize e.checkTaskState = verdict at checked
  cases checked with
  | panics site failed =>
    exact .rests rfl rfl (.inl rfl) rfl (fun _ => rfl) (by simp [Endpoint.panic, leaving])
      (by simp [Endpoint.panic])
  | running handle unfinished =>
    refine .rests rfl rfl (.inl rfl) rfl (by simp [before]) ?_ (by simp)
    intro leaves
    cases call with
    | close => exact .inr (.inl (close rfl))
    | _ => simp [leaving] at leaves
  | joins handle done => exact turn_refused before ⟨rfl, rfl, rfl⟩ (join_cached e _) close
  | cached handle => exact turn_refused before ⟨rfl, rfl, rfl⟩ handle close

theorem turn_requested {e e' : Endpoint} {event : EndpointEvent} (step : e.requested = some e') :
    Turn e event e' := by
  unfold Endpoint.requested at step
  split at step
  · rename_i call here
    have before : shut e.handler.pc = false := by simp [here, shut]
    split at step
    · rename_i gone
      cases call with
      | write bytes =>
        cases step
        exact .returns before rfl rfl rfl rfl (by simp) (by simp) (fun c is => .inl is)
      | getStatus =>
        cases step
        exact .returns before rfl rfl rfl rfl (by simp) (by simp) (fun c is => .inl is)
      | close =>
        cases step
        exact .closes rfl rfl rfl (.inr (by simp [here, leaving])) (.inr ⟨here, gone⟩)
    · split at step
      · cases call with
        | write bytes =>
          cases step
          exact .accepts here rfl (.inr ⟨bytes, rfl⟩) rfl rfl
            (.inr ⟨by simp, .inl rfl⟩)
        | getStatus =>
          cases step
          exact .accepts here rfl (.inl rfl) rfl rfl (.inr ⟨by simp, .inr rfl⟩)
        | close =>
          cases step
          exact .accepts here rfl (.inl rfl) rfl rfl (.inl ⟨rfl, rfl⟩)
      · simp at step
  · simp at step

theorem turn_recv {e e' : Endpoint} {event : EndpointEvent} (step : e.recv = some e') :
    Turn e event e' := by
  unfold Endpoint.recv at step
  split at step
  · rename_i packet rest here queue
    have before : shut e.handler.pc = false := by simp [here, shut]
    split at step
    · cases step
      exact .returns before rfl rfl rfl rfl (by simp) (by simp) (fun c is => .inl is)
    · cases step
      exact .rests rfl rfl (.inl rfl) rfl (fun _ => rfl) (by simp [Endpoint.panic, leaving])
        (by simp [Endpoint.panic])
  · rename_i here queue
    split at step
    · rename_i gone
      cases step
      exact .rests rfl rfl (.inl rfl) rfl (by simp [here, shut]) (by simp [leaving])
        (fun _ => ⟨queue, gone⟩)
    · simp at step
  · simp at step

theorem turn_recvStatus {e e' : Endpoint} {event : EndpointEvent} (step : e.recvStatus = some e') :
    Turn e event e' := by
  unfold Endpoint.recvStatus at step
  split at step
  · rename_i status rest here queue
    cases step
    exact .returns (by simp [here, shut]) rfl rfl rfl rfl (by simp) (by simp) (fun c is => .inl is)
  · rename_i here queue
    split at step
    · cases step
      exact .rests rfl rfl (.inl rfl) rfl (by simp [here, shut]) (by simp [leaving]) (by simp)
    · simp at step
  · simp at step

theorem turn_check {e e' : Endpoint} {event : EndpointEvent} (step : e.check = some e') :
    Turn e event e' := by
  unfold Endpoint.check at step
  split at step
  · rename_i forStatus here
    have before : shut e.handler.pc = false := by simp [here, shut]
    have checked := checkTaskState_checked e
    generalize e.checkTaskState = verdict at checked step
    cases checked with
    | panics site failed =>
      cases step
      exact .rests rfl rfl (.inl rfl) rfl (fun _ => rfl) (by simp [Endpoint.panic, leaving])
        (by simp [Endpoint.panic])
    | running handle unfinished =>
      cases step
      exact .rests rfl rfl (.inl rfl) rfl (fun _ => rfl) (by simp [Endpoint.panic, leaving])
        (by simp [Endpoint.panic])
    | joins handle done =>
      rename_i result
      have whole : (closedWith result (messages e.channels.packets)).messages =
          messages e.channels.packets := by
        cases result <;> rfl
      cases forStatus with
      | true =>
        cases step
        refine .returns before rfl rfl rfl rfl (by simp) (by simp) ?_
        intro c is
        simp only [Endpoint.returns, Endpoint.join, TaskState.finished.injEq] at is
        exact .inr ⟨is ▸ rfl, .inl (by simp)⟩
      | false =>
        cases step
        refine .returns before rfl rfl rfl rfl (by simp) ?_ ?_
        · intro c is
          simp only [CallResult.read.injEq, Except.error.injEq] at is
          exact is ▸ join_cached e _
        · intro c is
          simp only [Endpoint.returns, Endpoint.join, TaskState.finished.injEq] at is
          subst is
          exact .inr ⟨rfl, .inr ⟨here, whole⟩⟩
    | cached handle =>
      cases forStatus with
      | true =>
        cases step
        exact .returns before rfl rfl rfl rfl (by simp) (by simp) (fun c is => .inl is)
      | false =>
        cases step
        refine .returns before rfl rfl rfl rfl (by simp) ?_ (fun c is => .inl is)
        intro c is
        simp only [CallResult.read.injEq, Except.error.injEq] at is
        exact is ▸ handle
  · simp at step

theorem turn_joined {e e' : Endpoint} {event : EndpointEvent} (step : e.joined = some e') :
    Turn e event e' := by
  have panics : ∀ site, Turn e event (e.panic site) := fun site =>
    .rests rfl rfl (.inl rfl) rfl (fun _ => rfl) (by simp [Endpoint.panic, leaving])
      (by simp [Endpoint.panic])
  unfold Endpoint.joined at step
  split at step
  · rename_i here
    have comes : leaving e.handler.pc = true := by simp [here, leaving]
    split at step
    · cases step
      exact panics _
    · rename_i closed handle
      cases step
      exact .closes rfl rfl rfl (.inr comes) (.inl ⟨closed, handle, rfl⟩)
    · split at step
      · cases step
        exact .closes rfl rfl rfl (.inr comes) (.inl ⟨_, join_cached e _, rfl⟩)
      · cases step
        exact panics _
      · cases step
        exact panics _
      · simp at step
  · simp at step

theorem step_turn {e e' : Endpoint} {event : EndpointEvent} (mine : ∀ te, event ≠ .task te)
    (step : e.step event = some e') : Turn e event e' := by
  have callable_idle : e.callable = true → e.handler.pc = .idle := by
    intro callable
    simp only [Endpoint.callable, Bool.and_eq_true, decide_eq_true_eq] at callable
    exact callable.2
  have guarded : ∀ {made : Endpoint}, (e.handler.pc = .idle → Turn e event made) →
      (if e.callable = true then some made else none) = some e' → Turn e event e' := by
    intro made turn step
    split at step
    · rename_i callable
      cases step
      exact turn (callable_idle callable)
    · simp at step
  cases event with
  | task te => exact absurd rfl (mine te)
  | write bytes => exact guarded (fun idle => turn_ask idle (by simp)) step
  | getStatus => exact guarded (fun idle => turn_ask idle (by simp)) step
  | close => exact guarded (fun idle => turn_ask idle (by simp)) step
  | read =>
    have turn : e.handler.pc = .idle → Turn e .read e.read := fun idle =>
      .rests rfl rfl (.inl rfl) rfl (by simp [idle, shut]) (by simp [Endpoint.read, leaving])
        (by simp [Endpoint.read])
    exact guarded turn step
  | requested => exact turn_requested step
  | recv => exact turn_recv step
  | recvStatus => exact turn_recvStatus step
  | check => exact turn_check step
  | joined => exact turn_joined step
  | cancel =>
    simp only [Endpoint.step] at step
    unfold Endpoint.cancel at step
    split at step
    · simp at step
    · rename_i here
      cases step
      exact .rests rfl rfl (.inl rfl) rfl (by simp [here, shut]) (by simp [leaving]) (by simp)
    · rename_i here
      cases step
      exact .rests rfl rfl (.inl rfl) rfl (by simp [here, shut]) (by simp [leaving]) (by simp)
    · rename_i here
      cases step
      exact .rests rfl rfl (.inl rfl) rfl (by simp [here, shut]) (by simp [leaving]) (by simp)
    · simp at step
  | dropHandler =>
    simp only [Endpoint.step] at step
    split at step
    · simp at step
    · simp at step
    · split at step <;> cases step
      exact .rests rfl rfl (.inr rfl) rfl (fun _ => rfl) (fun _ => .inr (.inr rfl))
        (by simp [Endpoint.dropHandler])

/- The channels under an event of the task: the handler's end stays, and nothing is put
   into the packet channel once the Connection is gone. -/
theorem task_channels {t t' : Task} {ch ch' : Channels} {event : TaskEvent}
    (step : t.step ch event = some (t', ch')) :
    ch'.handlerAlive = ch.handlerAlive ∧ (connGone t.pc = true → ch'.packets = ch.packets) := by
  cases step_moves step with
  | puts delivering same =>
    refine ⟨rfl, fun gone => ?_⟩
    simp [delivering, connGone] at gone
  | _ => exact ⟨rfl, fun _ => rfl⟩

end NcdTurns
