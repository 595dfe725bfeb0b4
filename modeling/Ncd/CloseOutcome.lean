import Ncd.CloseResult

/- Whether what close returns tells how the connection task has ended. -/
namespace NcdCloseOutcome
open NcdPacket NcdFrame NcdIoState NcdConnection NcdHandler NcdTaskMoves NcdTaskSteps NcdBooks
  NcdCloseResult LabelledRuns

/-- Ok comes with a task that has ended with Ok(()), and Err with the error of one that has
    failed. -/
structure Tells (task : Task) (r : Except ConnectionError (List (List UInt8))) : Prop where
  normally : (∃ messages, r = .ok messages) ↔ task.pc = .finished (.ok ())
  failed : ∀ e, r = .error e ↔ task.pc = .finished (.error e)

/-- Every Ok of close is an Ok with messages, whatever the task has ended with. -/
theorem closeResult_messages {closed : ConnectionClosed}
    {r : Except ConnectionError (List (List UInt8))} (ok : closeResult closed = .ok r) :
    ∃ messages, r = .ok messages := by
  rcases closeResult_shape closed with ⟨messages, is⟩ | ⟨unknown, is⟩
  · rw [is] at ok
    cases ok
    exact ⟨messages, rfl⟩
  · rw [is] at ok
    cases ok

theorem exit_ok {e : Endpoint} {event : EndpointEvent} (books : Books e)
    {r : Except ConnectionClosed (Except ConnectionError (List (List UInt8)))}
    (exit : Exit e event r) {given : Except ConnectionError (List (List UInt8))}
    (ok : r = .ok given) :
    (∃ ended, e.task.pc = .finished ended) ∧ ∃ messages, given = .ok messages := by
  cases exit with
  | known handle =>
    obtain ⟨_, ended, done, _⟩ := books.finished _ handle
    exact ⟨⟨ended, done⟩, closeResult_messages ok⟩
  | joined ended _ done => exact ⟨⟨ended, done⟩, closeResult_messages ok⟩
  | refused _ _ _ => cases ok

theorem tells_iff {task : Task} {ended : Except ConnectionError Unit}
    (done : task.pc = .finished ended) (messages : List (List UInt8)) :
    Tells task (.ok messages) ↔ ∀ e, task.pc ≠ .finished (.error e) := by
  constructor
  · intro tells e failed
    cases (tells.failed e).mpr failed
  · intro fine
    cases ended with
    | ok _ => exact ⟨⟨fun _ => done, fun _ => ⟨messages, rfl⟩⟩, fun e => ⟨nofun, fun failed =>
        absurd failed (fine e)⟩⟩
    | error e => exact absurd done (fine e)

/-- close tells a clean end from a failed one, except that it reports no failure. -/
theorem close_tells_iff {e₀ e e' : Endpoint} {event : EndpointEvent}
    {r : Except ConnectionError (List (List UInt8))} (opened : Opened e₀)
    (run : Reaches Endpoint.step Any e₀ e) (step : e.step event = some e')
    (result : e'.handler.results = e.handler.results ++ [.close (.ok r)]) :
    Tells e.task r ↔ ∀ error, e.task.pc ≠ .finished (.error error) := by
  have books := run_books opened run
  obtain ⟨_, exit⟩ := close_exit step result
  obtain ⟨⟨ended, done⟩, messages, rfl⟩ := exit_ok books exit rfl
  exact tells_iff done messages

theorem close_tells_after_finish : Tells (after finishedTask).task (.ok [[0xAA]]) ↔
    ∀ error, (after finishedTask).task.pc ≠ .finished (.error error) :=
  have closes : (after finishedTask).step .close = some (after finishedTask).close := by
    decide +kernel
  close_tells_iff aHost_opened (reaches_of_exec finishedTask (by decide +kernel)) closes
    (by decide +kernel)

def endedByEof : List EndpointEvent :=
  hostHandshake ++ [.task (.read []), .task .dropConn, .task .finish]

/-- close after the EOF returns Ok(Ok([])). -/
theorem eof_not_told :
    ¬ ∀ (e₀ e e' : Endpoint) (event : EndpointEvent)
      (r : Except ConnectionError (List (List UInt8))), Opened e₀ →
      Reaches Endpoint.step Any e₀ e → e.step event = some e' →
      e'.handler.results = e.handler.results ++ [.close (.ok r)] → Tells e.task r := by
  intro claim
  have tells := claim aHost (after endedByEof) (after endedByEof).close .close (.ok [])
    aHost_opened (reaches_of_exec endedByEof (by decide +kernel)) (by decide +kernel)
    (by decide +kernel)
  have failed : (after endedByEof).task.pc = .finished (.error .unexpectedEOF) := by
    decide +kernel
  cases (tells.failed .unexpectedEOF).mpr failed

end NcdCloseOutcome
