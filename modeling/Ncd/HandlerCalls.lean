import Ncd.Books

/- When a call on the handler panics: only when check_task_state runs between the drop of
   the Connection and the moment the task counts as finished. -/
namespace NcdHandlerCalls
open NcdPacket NcdFrame NcdIoState NcdConnection NcdHandler NcdTaskMoves NcdTaskSteps NcdBooks
  LabelledRuns

def isPanicked : HandlerPc → Bool
  | .panicked _ => true
  | _ => false

def Panicked (e : Endpoint) : Prop := isPanicked e.handler.pc = true

instance (e : Endpoint) : Decidable (Panicked e) := inferInstanceAs (Decidable (_ = true))

/-- read or get_status has seen its channel closed and asks for the state of the task; the
    Connection is dropped, and the task is not finished yet. -/
def InGap (e : Endpoint) (event : EndpointEvent) : Prop :=
  event = .check ∧ (∃ forStatus, e.handler.pc = .checking forStatus) ∧
    e.handler.taskHandle = .running ∧ connGone e.task.pc = true ∧
    ∀ result, e.task.pc ≠ .finished result

theorem step_connGone {t t' : Task} {ch ch' : Channels} {event : TaskEvent}
    (gone : connGone t.pc = true) (step : t.step ch event = some (t', ch')) :
    connGone t'.pc = true := by
  rcases gone_moves gone step with rfl | ⟨-, rfl⟩ | ⟨result, -, rfl⟩
  · exact gone
  · rfl
  · rfl

structure Uses (e : Endpoint) : Prop where
  idle : e.handler.taskHandle = .uninitialized → e.handler.pc = .idle
  gone : e.channels.handlerAlive = false → e.handler.pc = .gone
  aborted : e.task.pc = .aborted → e.handler.pc = .gone
  checking : ∀ forStatus, e.handler.pc = .checking forStatus → connGone e.task.pc = true

/- A step of the handler: the task stays where it is. -/
theorem uses_call {e e' : Endpoint} (uses : Uses e) (before : e.handler.pc ≠ .gone)
    (task : e'.task = e.task) (handed : e'.handler.taskHandle ≠ .uninitialized)
    (alive : e'.channels.handlerAlive = e.channels.handlerAlive ∨ e'.handler.pc = .gone)
    (checking : ∀ forStatus, e'.handler.pc = .checking forStatus → connGone e.task.pc = true) :
    Uses e' where
  idle none := absurd none handed
  gone dead := by
    rcases alive with same | gone
    · exact absurd (uses.gone (same ▸ dead)) before
    · exact gone
  aborted is := absurd (uses.aborted (task ▸ is)) before
  checking forStatus is := task ▸ checking forStatus is

/-- What a step of the handler may be: it rests on a call, it panics for one of two
    reasons, or its call returns. -/
structure Called (e e' : Endpoint) : Prop where
  task : e'.task = e.task
  handed : e.handler.taskHandle ≠ .uninitialized → e'.handler.taskHandle ≠ .uninitialized
  alive : e'.channels.handlerAlive = e.channels.handlerAlive ∨ e'.handler.pc = .gone
  checking : ∀ forStatus, e'.handler.pc = .checking forStatus → connGone e.task.pc = true

theorem called_refused (e : Endpoint) (closed : ConnectionClosed) (call : Asking) :
    Called e (e.refused closed call) ∧ ¬ Panicked (e.refused closed call) := by
  cases call <;>
    exact ⟨⟨rfl, id, by simp [Endpoint.refused, Endpoint.returns, Endpoint.closeReturns,
      Endpoint.dropHandler], by simp [Endpoint.refused, Endpoint.returns, Endpoint.closeReturns,
      Endpoint.dropHandler]⟩, by simp [Panicked, isPanicked, Endpoint.refused, Endpoint.returns,
      Endpoint.closeReturns, Endpoint.dropHandler]⟩

/- The task did not panic, so check_task_state does not. -/
theorem checks_fine {e : Endpoint} (uses : Uses e) (before : e.handler.pc ≠ .gone)
    (handed : e.handler.taskHandle ≠ .uninitialized)
    (returned : ∀ site, e.task.pc ≠ .panicked site) {site : HandlerPanic} :
    ¬ Checked e (.error site) := by
  intro checked
  cases checked with
  | panics _ failed =>
    rcases failed with none | ⟨why, panicked⟩ | aborted
    · exact handed none
    · exact returned why panicked
    · exact before (uses.aborted aborted)

theorem called_ask {e : Endpoint} (uses : Uses e) (callable : e.callable = true)
    (returned : ∀ site, e.task.pc ≠ .panicked site) (call : Asking) :
    Called e (e.ask call) ∧ ¬ Panicked (e.ask call) := by
  simp only [Endpoint.callable, ne_eq, decide_not, Bool.and_eq_true, Bool.not_eq_true',
    decide_eq_false_iff_not, decide_eq_true_eq] at callable
  unfold Endpoint.ask
  have checked := checkTaskState_checked e
  generalize e.checkTaskState = verdict at checked
  cases verdict with
  | error site =>
    exact absurd checked (checks_fine uses (by simp [callable.2]) callable.1 returned)
  | ok found =>
    cases checked with
    | running handle unfinished =>
      exact ⟨⟨rfl, id, .inl rfl, by simp⟩, by simp [Panicked, isPanicked]⟩
    | joins handle done =>
      obtain ⟨called, fine⟩ := called_refused (e.join _) _ call
      exact ⟨⟨called.task, fun _ => called.handed (by simp [join_cached]), called.alive,
        called.checking⟩, fine⟩
    | cached handle => exact called_refused e _ call

theorem called_requested {e e' : Endpoint} (step : e.requested = some e') :
    Called e e' ∧ ¬ Panicked e' := by
  unfold Endpoint.requested at step
  split at step
  · rename_i call here
    split at step
    · cases call <;> cases step <;>
        exact ⟨⟨rfl, id, by simp [Endpoint.returns, Endpoint.closeReturns, Endpoint.dropHandler],
          by simp [Endpoint.returns, Endpoint.closeReturns, Endpoint.dropHandler]⟩,
          by simp [Panicked, isPanicked, Endpoint.returns, Endpoint.closeReturns,
            Endpoint.dropHandler]⟩
    · split at step
      · cases call <;> cases step <;>
          exact ⟨⟨rfl, id, .inl rfl, by simp [Endpoint.returns]⟩,
            by simp [Panicked, isPanicked, Endpoint.returns]⟩
      · simp at step
  · simp at step

theorem called_recv {e e' : Endpoint} (books : Books e) (step : e.recv = some e') :
    Called e e' ∧ ¬ Panicked e' := by
  unfold Endpoint.recv at step
  split at step
  · rename_i packet rest here queue
    obtain ⟨bytes, rfl⟩ := books.onlyData packet (by simp [queue])
    cases step
    exact ⟨⟨rfl, id, .inl rfl, by simp [Endpoint.returns]⟩,
      by simp [Panicked, isPanicked, Endpoint.returns]⟩
  · split at step
    · rename_i gone
      cases step
      exact ⟨⟨rfl, id, .inl rfl, fun _ _ => gone⟩, by simp [Panicked, isPanicked]⟩
    · simp at step
  · simp at step

theorem called_recvStatus {e e' : Endpoint} (step : e.recvStatus = some e') :
    Called e e' ∧ ¬ Panicked e' := by
  unfold Endpoint.recvStatus at step
  split at step
  · cases step
    exact ⟨⟨rfl, id, .inl rfl, by simp [Endpoint.returns]⟩,
      by simp [Panicked, isPanicked, Endpoint.returns]⟩
  · split at step
    · rename_i gone
      cases step
      exact ⟨⟨rfl, id, .inl rfl, fun _ _ => gone⟩, by simp [Panicked, isPanicked]⟩
    · simp at step
  · simp at step

theorem called_joined {e e' : Endpoint} (uses : Uses e)
    (returned : ∀ site, e.task.pc ≠ .panicked site) (step : e.joined = some e') :
    Called e e' ∧ ¬ Panicked e' := by
  unfold Endpoint.joined at step
  split at step
  · rename_i here
    split at step
    · rename_i none
      simp [uses.idle none] at here
    · cases step
      exact ⟨⟨rfl, id, .inr rfl, by simp [Endpoint.closeReturns, Endpoint.dropHandler]⟩,
        by simp [Panicked, isPanicked, Endpoint.closeReturns, Endpoint.dropHandler]⟩
    · split at step
      · cases step
        exact ⟨⟨rfl, by simp [Endpoint.closeReturns, Endpoint.dropHandler, Endpoint.returns,
          Endpoint.join], .inr rfl, by simp [Endpoint.closeReturns, Endpoint.dropHandler]⟩,
          by simp [Panicked, isPanicked, Endpoint.closeReturns, Endpoint.dropHandler]⟩
      · rename_i why panicked
        exact absurd panicked (returned why)
      · rename_i aborted
        simp [uses.aborted aborted] at here
      · simp at step
  · simp at step

/-- The one expect that a call can reach. -/
theorem called_check {e e' : Endpoint} (uses : Uses e)
    (returned : ∀ site, e.task.pc ≠ .panicked site) (step : e.check = some e') :
    Called e e' ∧ (Panicked e' ↔ InGap e .check) := by
  unfold Endpoint.check at step
  split at step
  · rename_i forStatus here
    have before : e.handler.pc ≠ .gone := by simp [here]
    have handed : e.handler.taskHandle ≠ .uninitialized := by
      intro none
      simp [uses.idle none] at here
    have gone := uses.checking forStatus here
    have checked := checkTaskState_checked e
    generalize e.checkTaskState = verdict at checked step
    cases verdict with
    | error site => exact absurd checked (checks_fine uses before handed returned)
    | ok found =>
      cases checked with
      | running handle unfinished =>
        cases step
        refine ⟨⟨rfl, id, .inl rfl, by simp [Endpoint.panic]⟩, ?_⟩
        exact ⟨fun _ => ⟨rfl, ⟨forStatus, here⟩, handle, gone, unfinished⟩, fun _ => rfl⟩
      | joins handle done =>
        have no : ¬ InGap e .check := fun gap => gap.2.2.2.2 _ done
        cases forStatus <;> cases step <;>
          exact ⟨⟨rfl, by simp [Endpoint.returns, Endpoint.join], .inl rfl,
            by simp [Endpoint.returns]⟩, by simp [Panicked, isPanicked, Endpoint.returns, no]⟩
      | cached handle =>
        have no : ¬ InGap e .check := by
          intro gap
          have both := handle.symm.trans gap.2.2.1
          cases both
        cases forStatus <;> cases step <;>
          exact ⟨⟨rfl, id, .inl rfl, by simp [Endpoint.returns]⟩,
            by simp [Panicked, isPanicked, Endpoint.returns, no]⟩
  · simp at step

theorem step_called {e e' : Endpoint} {event : EndpointEvent} (books : Books e) (uses : Uses e)
    (returned : ∀ site, e.task.pc ≠ .panicked site) (mine : ∀ te, event ≠ .task te)
    (step : e.step event = some e') :
    e.handler.pc ≠ .gone ∧ e.handler.taskHandle ≠ .uninitialized ∧ Called e e' ∧
      (Panicked e' ↔ InGap e event) := by
  have quiet : ∀ {ev : EndpointEvent}, ev ≠ .check → Called e e' ∧ ¬ Panicked e' →
      Called e e' ∧ (Panicked e' ↔ InGap e ev) := fun other ⟨called, calm⟩ =>
    ⟨called, fun panicked => absurd panicked calm, fun gap => absurd gap.1 other⟩
  have busy : ∀ {pc : HandlerPc}, e.handler.pc = pc → pc ≠ .idle → pc ≠ .gone →
      e.handler.pc ≠ .gone ∧ e.handler.taskHandle ≠ .uninitialized := by
    intro pc here notIdle notGone
    exact ⟨here ▸ notGone, fun none => notIdle (here.symm.trans (uses.idle none))⟩
  have guarded : ∀ {made : Endpoint}, (if e.callable = true then some made else none) = some e' →
      (e.callable = true → Called e made ∧ ¬ Panicked made) →
      e.handler.pc ≠ .gone ∧ e.handler.taskHandle ≠ .uninitialized ∧
        Called e e' ∧ ¬ Panicked e' := by
    intro made step good
    split at step
    · rename_i callable
      have both := callable
      simp only [Endpoint.callable, ne_eq, decide_not, Bool.and_eq_true, Bool.not_eq_true',
        decide_eq_false_iff_not, decide_eq_true_eq] at both
      cases step
      exact ⟨by simp [both.2], both.1, good callable⟩
    · simp at step
  cases event with
  | task event => exact absurd rfl (mine event)
  | write bytes =>
    obtain ⟨alive, handed, rest⟩ := guarded step fun callable => called_ask uses callable returned _
    exact ⟨alive, handed, quiet (by simp) rest⟩
  | getStatus =>
    obtain ⟨alive, handed, rest⟩ := guarded step fun callable => called_ask uses callable returned _
    exact ⟨alive, handed, quiet (by simp) rest⟩
  | close =>
    obtain ⟨alive, handed, rest⟩ := guarded step fun callable => called_ask uses callable returned _
    exact ⟨alive, handed, quiet (by simp) rest⟩
  | read =>
    obtain ⟨alive, handed, rest⟩ := guarded step fun _ =>
      ⟨⟨rfl, id, .inl rfl, by simp [Endpoint.read]⟩, by simp [Panicked, isPanicked, Endpoint.read]⟩
    exact ⟨alive, handed, quiet (by simp) rest⟩
  | requested =>
    cases here : e.handler.pc with
    | requesting call =>
      obtain ⟨alive, handed⟩ := busy here (by simp) (by simp)
      exact ⟨here ▸ alive, handed, quiet (by simp) (called_requested step)⟩
    | _ => simp [Endpoint.step, Endpoint.requested, here] at step
  | recv =>
    cases here : e.handler.pc with
    | reading =>
      obtain ⟨alive, handed⟩ := busy here (by simp) (by simp)
      exact ⟨here ▸ alive, handed, quiet (by simp) (called_recv books step)⟩
    | _ => simp [Endpoint.step, Endpoint.recv, here] at step
  | recvStatus =>
    cases here : e.handler.pc with
    | awaitingStatus =>
      obtain ⟨alive, handed⟩ := busy here (by simp) (by simp)
      exact ⟨here ▸ alive, handed, quiet (by simp) (called_recvStatus step)⟩
    | _ => simp [Endpoint.step, Endpoint.recvStatus, here] at step
  | check =>
    cases here : e.handler.pc with
    | checking forStatus =>
      obtain ⟨alive, handed⟩ := busy here (by simp) (by simp)
      exact ⟨here ▸ alive, handed, called_check uses returned step⟩
    | _ => simp [Endpoint.step, Endpoint.check, here] at step
  | joined =>
    cases here : e.handler.pc with
    | joining =>
      obtain ⟨alive, handed⟩ := busy here (by simp) (by simp)
      exact ⟨here ▸ alive, handed, quiet (by simp) (called_joined uses returned step)⟩
    | _ => simp [Endpoint.step, Endpoint.joined, here] at step
  | cancel =>
    have rested : ∀ {pc : HandlerPc}, e.handler.pc = pc → pc ≠ .idle → pc ≠ .gone →
        { e with handler := { e.handler with pc := .idle } } = e' →
        e.handler.pc ≠ .gone ∧ e.handler.taskHandle ≠ .uninitialized ∧ Called e e' ∧
          (Panicked e' ↔ InGap e .cancel) := by
      intro pc here notIdle notGone is
      subst is
      obtain ⟨alive, handed⟩ := busy here notIdle notGone
      exact ⟨alive, handed, quiet (by simp)
        ⟨⟨rfl, id, .inl rfl, by simp⟩, by simp [Panicked, isPanicked]⟩⟩
    simp only [Endpoint.step] at step
    unfold Endpoint.cancel at step
    split at step
    · simp at step
    · rename_i here
      exact rested here (by simp) (by simp) (Option.some.inj step)
    · rename_i here
      exact rested here (by simp) (by simp) (Option.some.inj step)
    · rename_i here
      exact rested here (by simp) (by simp) (Option.some.inj step)
    · simp at step
  | dropHandler =>
    simp only [Endpoint.step] at step
    split at step
    · simp at step
    · simp at step
    · rename_i notChecking notGone
      split at step
      · rename_i handed
        cases step
        refine ⟨notGone, handed, quiet (by simp) ⟨⟨rfl, id, .inr rfl, ?_⟩, ?_⟩⟩
        · simp [Endpoint.dropHandler]
        · simp [Panicked, isPanicked, Endpoint.dropHandler]
      · simp at step

theorem uses_task {e : Endpoint} (uses : Uses e) {t' : Task} {ch' : Channels} {event : TaskEvent}
    (step : e.task.step e.channels event = some (t', ch')) :
    Uses { e with task := t', channels := ch' } := by
  have checking : ∀ forStatus, e.handler.pc = .checking forStatus → connGone t'.pc = true :=
    fun forStatus here => step_connGone (uses.checking forStatus here) step
  have aborted : t'.pc = e.task.pc ∨ settled t'.pc = true → t'.pc = .aborted →
      e.handler.pc = .gone := by
    intro place now
    rcases place with same | elsewhere
    · exact uses.aborted (same ▸ now)
    · simp [now, settled] at elsewhere
  cases step_moves step with
  | steady same => exact ⟨uses.idle, uses.gone, aborted same.2.2.1, checking⟩
  | asks here queue => exact ⟨uses.idle, uses.gone, nofun, checking⟩
  | takes queue same => exact ⟨uses.idle, uses.gone, aborted same.2.2.1, checking⟩
  | puts delivering same => exact ⟨uses.idle, uses.gone, aborted same.2.2.1, checking⟩
  | reads read same => exact ⟨uses.idle, uses.gone, aborted same.2.2.1, checking⟩
  | aborts dead => exact ⟨uses.idle, uses.gone, fun _ => uses.gone dead, checking⟩

def taskPanicked : Pc → Bool
  | .panicked _ => true
  | _ => false

def TaskReturns (e : Endpoint) (_ : EndpointEvent) : Prop := taskPanicked e.task.pc = false

instance (e : Endpoint) (event : EndpointEvent) : Decidable (TaskReturns e event) :=
  inferInstanceAs (Decidable (_ = false))

theorem task_returned {e : Endpoint} {event : EndpointEvent} (returns : TaskReturns e event)
    (site : PanicSite) : e.task.pc ≠ .panicked site := by
  intro panicked
  simp [TaskReturns, taskPanicked, panicked] at returns

theorem step_uses {e e' : Endpoint} {event : EndpointEvent} (books : Books e) (uses : Uses e)
    (returns : TaskReturns e event) (step : e.step event = some e') : Uses e' := by
  by_cases mine : ∃ te, event = .task te
  · obtain ⟨te, rfl⟩ := mine
    obtain ⟨t', ch', moved, rfl, rfl, pc, handler⟩ := task_parts step
    have after := uses_task uses moved
    rcases handler with same | ⟨_, spawned⟩
    · rw [← same] at after
      exact after
    · exact ⟨by simp [spawned], fun dead => pc ▸ after.gone dead,
        fun is => pc ▸ after.aborted is, fun b here => after.checking b (pc ▸ here)⟩
  · obtain ⟨alive, handed, called, _⟩ :=
      step_called books uses (task_returned returns) (fun te is => mine ⟨te, is⟩) step
    exact uses_call uses alive called.task (called.handed handed) called.alive called.checking

theorem opened_uses {e : Endpoint} (opened : Opened e) : Uses e :=
  ⟨by simp [opened.handler], by simp [opened.alive], by simp [opened.start],
    by simp [opened.handler]⟩

theorem step_panics {e e' : Endpoint} {event : EndpointEvent} (books : Books e) (uses : Uses e)
    (returns : TaskReturns e event) (fine : ¬ Panicked e) (step : e.step event = some e') :
    Panicked e' ↔ InGap e event := by
  by_cases mine : ∃ te, event = .task te
  · obtain ⟨te, rfl⟩ := mine
    obtain ⟨_, _, _, _, _, pc, _⟩ := task_parts step
    have same : Panicked e' ↔ Panicked e := by simp only [Panicked, pc]
    rw [same]
    exact ⟨fun panicked => absurd panicked fine, fun gap => nomatch gap.1⟩
  · exact (step_called books uses (task_returned returns) (fun te is => mine ⟨te, is⟩) step).2.2.2

/-- No call panics in a run that never asks for the state of the task while the Connection
    is dropped and the task does not yet count as finished; asking then always panics. -/
theorem calls_panic_only_in_gap {e₀ : Endpoint} (opened : Opened e₀) :
    (∀ e, Reaches Endpoint.step (fun e event => TaskReturns e event ∧ ¬ InGap e event) e₀ e →
      ¬ Panicked e) ∧
    ∀ e e' event, Reaches Endpoint.step TaskReturns e₀ e → TaskReturns e event →
      InGap e event → e.step event = some e' → Panicked e' := by
  constructor
  · intro e run
    have start : ¬ Panicked e₀ := by simp [Panicked, isPanicked, opened.handler]
    refine (run.keeps_under (K := fun e => Books e ∧ Uses e) (I := fun e => ¬ Panicked e)
      ?_ ?_ ⟨opened_books opened, opened_uses opened⟩ start).2
    · exact fun known allowed step =>
        ⟨step_books known.1 step, step_uses known.1 known.2 allowed.1 step⟩
    · exact fun known fine allowed step panicked =>
        allowed.2 ((step_panics known.1 known.2 allowed.1 fine step).mp panicked)
  · intro e e' event run returns gap step
    have known := run.keeps_under (fun books _ step => step_books books step)
      (fun books uses returns step => step_uses books uses returns step)
      (opened_books opened) (opened_uses opened)
    obtain ⟨forStatus, here⟩ := gap.2.1
    exact (step_panics known.1 known.2 returns (by simp [Panicked, isPanicked, here]) step).mpr gap

/-- The peer closes while the user waits in read; the read notices before the task is
    marked finished. -/
def earlyRead : List EndpointEvent :=
  hostHandshake ++
    [.read, .task (.read [0x4E, 0x43, 0x44, 0x01, 0x00, 0x00, 0x00, 0x03]), .task .tryRecv,
      .task (.wrote 8), .task .shutdown, .task .dropConn, .recv]

def reading (events : List EndpointEvent) : Endpoint :=
  (execIf Endpoint.step TaskReturns aHost events).getD aHost

theorem host_calls_panic_only_in_gap :
    (∀ e, Reaches Endpoint.step (fun e event => TaskReturns e event ∧ ¬ InGap e event) aHost e →
      ¬ Panicked e) ∧
    ∀ e e' event, Reaches Endpoint.step TaskReturns aHost e → TaskReturns e event →
      InGap e event → e.step event = some e' → Panicked e' :=
  calls_panic_only_in_gap aHost_opened

/-- Every call would be safe but for earlyRead and the check after it: the task itself has
    not panicked. -/
theorem read_panics_in_gap :
    ¬ ∀ e₀ e : Endpoint, Opened e₀ → Reaches Endpoint.step TaskReturns e₀ e → ¬ Panicked e := by
  intro claim
  refine claim aHost (reading (earlyRead ++ [.check])) aHost_opened ?_ ?_
  · exact reaches_of_execIf (earlyRead ++ [.check]) (by decide +kernel)
  · decide +kernel

end NcdHandlerCalls
