import Ncd.LinkOrder
import Ncd.AdapterOutput

/- What the two loops give to their connections, whatever becomes of the connection: the
   requests it accepts carry the messages that came in, from the first, without a gap. -/
namespace NcdFeeding
open NcdConnection NcdHandler NcdBooks NcdTurns NcdHandlerCalls NcdDaemon NcdBridges NcdForwarding
  NcdLinkOrder NcdAdapter NcdAdapterOutput LabelledRuns

/-- given: the messages that were to be written. Once the Connection is gone, no more of them
    are accepted. -/
def Fed (e : Endpoint) (given : List (List UInt8)) : Prop :=
  sends e.handler.accepted ++ inFlight e.handler.pc = given ∨
    connGone e.task.pc = true ∧ sends e.handler.accepted <+: given

variable {e e' : Endpoint} {given asked handed : List (List UInt8)}

theorem fed_accepted (fed : Fed e given) : sends e.handler.accepted <+: given := by
  rcases fed with all | ⟨_, part⟩
  · exact ⟨_, all⟩
  · exact part

theorem fed_task {event : TaskEvent} (fed : Fed e given)
    (step : e.step (.task event) = some e') : Fed e' given := by
  obtain ⟨t', ch', moved, task, _, pc, handler⟩ := task_parts step
  have accepted : e'.handler.accepted = e.handler.accepted := by
    rcases handler with is | ⟨_, is⟩ <;> rw [is]
  rw [Fed, accepted, pc]
  refine fed.imp_right fun ⟨gone, part⟩ => ⟨?_, part⟩
  rw [task]
  exact step_connGone gone moved

theorem ask_accepted (e : Endpoint) (call : Asking) :
    (e.ask call).handler.accepted = e.handler.accepted := by
  unfold Endpoint.ask
  have checked := checkTaskState_checked e
  generalize e.checkTaskState = verdict at checked
  cases checked with
  | panics site failed => rfl
  | running handle unfinished => rfl
  | joins handle done => cases call <;> rfl
  | cached handle => cases call <;> rfl

theorem gone_accepted {event : EndpointEvent} (gone : connGone e.task.pc = true)
    (step : e.step event = some e') : e'.handler.accepted = e.handler.accepted := by
  have asking : ∀ {call : Asking}, (if e.callable = true then some (e.ask call) else none) =
      some e' → e'.handler.accepted = e.handler.accepted := by
    intro call step
    split at step <;> cases step
    exact ask_accepted e call
  cases event with
  | task te =>
    obtain ⟨_, _, _, _, _, _, handler⟩ := task_parts step
    rcases handler with is | ⟨_, is⟩ <;> rw [is]
  | write bytes => exact asking step
  | getStatus => exact asking step
  | close => exact asking step
  | read =>
    simp only [Endpoint.step] at step
    split at step <;> cases step
    rfl
  | requested =>
    simp only [Endpoint.step] at step
    unfold Endpoint.requested at step
    split at step
    · rename_i call here
      rw [if_pos gone] at step
      cases call <;> cases step <;> rfl
    · cases step
  | recv =>
    simp only [Endpoint.step] at step
    unfold Endpoint.recv at step
    split at step
    · split at step <;> cases step <;> rfl
    · split at step <;> cases step <;> rfl
    · cases step
  | recvStatus =>
    simp only [Endpoint.step] at step
    unfold Endpoint.recvStatus at step
    split at step
    · cases step
      rfl
    · split at step <;> cases step <;> rfl
    · cases step
  | check =>
    simp only [Endpoint.step] at step
    unfold Endpoint.check at step
    split at step
    · have checked := checkTaskState_checked e
      generalize e.checkTaskState = verdict at checked step
      cases checked with
      | panics site failed =>
        cases step
        rfl
      | running handle unfinished =>
        cases step
        rfl
      | joins handle done =>
        dsimp only at step
        split at step <;> cases step <;> rfl
      | cached handle =>
        dsimp only at step
        split at step <;> cases step <;> rfl
    · cases step
  | joined =>
    simp only [Endpoint.step] at step
    unfold Endpoint.joined at step
    split at step
    · split at step
      · cases step
        rfl
      · cases step
        rfl
      · split at step <;> cases step <;> rfl
    · cases step
  | cancel =>
    simp only [Endpoint.step] at step
    unfold Endpoint.cancel at step
    split at step <;> cases step <;> rfl
  | dropHandler =>
    simp only [Endpoint.step] at step
    split at step
    · cases step
    · cases step
    · split at step <;> cases step
      rfl

/- A call inside the loop. -/
theorem fed_fate {event : EndpointEvent} (fed : Fed e given) (call : ∀ te, event ≠ .task te)
    (step : e.step event = some e') (fate : Fate e e' asked) : Fed e' (given ++ asked) := by
  have task := call_task call step
  have frozen : connGone e.task.pc = true → Fed e' (given ++ asked) := by
    intro gone
    refine .inr ⟨by rw [task]; exact gone, ?_⟩
    rw [gone_accepted gone step]
    exact (fed_accepted fed).trans (List.prefix_append _ _)
  rcases fate.account with gone | ⟨account, _⟩
  · exact frozen gone
  · rcases fed with all | ⟨gone, _⟩
    · exact .inl (by rw [account, all])
    · exact frozen gone

/- close, after the loop. -/
theorem fed_closing {event : EndpointEvent} (fed : Fed e given) (call : ∀ te, event ≠ .task te)
    (step : e.step event = some e') (closing : Closing e e') : Fed e' given := by
  rw [Fed, call_task call step, closing.sends, closing.inFlight.2]
  rw [Fed, closing.inFlight.1] at fed
  exact fed

theorem fed_dropRead (fed : Fed e given) (none : inFlight e.handler.pc = []) :
    Fed (dropRead e) given := by
  obtain ⟨task, accepted, still, _⟩ := dropRead_same e
  rw [Fed, none] at fed
  rw [Fed, task, accepted, still none]
  exact fed

structure RunFed (b : ConnectionRun) (given : List (List UInt8)) : Prop where
  bridges : RunBridged b
  selecting : b.pc = .select → inFlight b.conn.handler.pc = []
  fed : Fed b.conn given

section Run

variable {b b' : ConnectionRun}

theorem run_called_fed {c : ConnectionRun} {event : RunEvent} {call : EndpointEvent}
    (run : RunFed b given) (made : RunCall b event c call) (moved : c.conn.step call = some e') :
    RunFed (c.called e') (given ++ taken event) := by
  obtain ⟨there, outcome⟩ := run_outcome run.bridges made moved
  have mine := (run_call made).1
  have made' := run_made run.bridges made moved
  have fed : Fed c.conn given ∧ (c.pc = .select → inFlight c.conn.handler.pc = []) := by
    cases made with
    | write here | commanded here => exact ⟨fed_dropRead run.fed (run.selecting here), nofun⟩
    | close here => exact ⟨run.fed, nofun⟩
    | _ => exact ⟨run.fed, run.selecting⟩
  refine ⟨run_called there outcome, ?_, ?_⟩
  · rw [NcdLinkOrder.called_conn]
    intro here
    rcases made' with ⟨-, quiet, fate⟩ | ⟨-, -, closing⟩
    · cases outcome with
      | rests none bridged =>
        rw [waits_pc none] at here
        exact fate.still (quiet here) (fed.2 here)
      | gives some status idle bridged =>
        rw [called_pc there some status] at here
        rw [idle fun ended => by rw [ended] at here; cases here]
        rfl
    · exact closing.inFlight.2
  · rw [NcdLinkOrder.called_conn]
    rcases made' with ⟨-, -, fate⟩ | ⟨-, none, closing⟩
    · exact fed_fate fed.1 mine moved fate
    · rw [none, List.append_nil]
      exact fed_closing fed.1 mine moved closing

theorem step_runFed {event : RunEvent} (run : RunFed b given) (stays : event ≠ .mainLoopEnds)
    (step : b.step event = some b') : RunFed b' (given ++ taken event) := by
  have bridges := step_run run.bridges stays step
  cases run_move step with
  | task moved =>
    obtain ⟨_, _, _, _, _, pc, _⟩ := task_parts moved
    refine ⟨bridges, ?_, by simpa [taken] using fed_task run.fed moved⟩
    dsimp only
    rw [pc]
    exact run.selecting
  | calls made moved => exact run_called_fed run made moved
  | starts here callable =>
    exact ⟨bridges, fun _ => by rw [callable_idle callable]; rfl, by simpa [taken] using run.fed⟩
  | toggles here callable which =>
    have fed := fed_dropRead run.fed (run.selecting here)
    refine ⟨bridges, fun _ => by rw [callable_idle callable]; rfl, ?_⟩
    rcases which with ⟨rfl, -⟩ | ⟨rfl, -⟩ <;> simpa [taken] using fed
  | orphaned here callable =>
    have fed := fed_dropRead run.fed (run.selecting here)
    exact ⟨bridges, nofun, by simpa [taken] using fed⟩
  | mainLoopEnds => exact absurd rfl stays

end Run

section Handle

variable {b b' : HandleConnection}

def chunkRead : HandleEvent → List (List UInt8)
  | .adapterData (some bytes) => [bytes]
  | _ => []

theorem write_select {msgs : List (List UInt8)} {next : After} :
    (b.write msgs next).pc ≠ .select := by
  unfold HandleConnection.write
  split
  · cases next <;> simp [After.pc]
  · simp

theorem called_select (here : (b.called e').pc = .select) : b.pc = .select := by
  unfold HandleConnection.called at here
  split at here
  · exact here
  · exact absurd here write_select
  · exact absurd here write_select
  · cases here
  · cases here
  · exact absurd here write_select
  · cases here
  · exact here

structure HandleFed (b : HandleConnection) (given : List (List UInt8)) : Prop where
  selecting : b.pc = .select → inFlight b.conn.handler.pc = []
  fed : Fed b.conn given

/- A call of handle_connection, as one of connection_run. -/
theorem handle_called_fed {c : HandleConnection} {event : HandleEvent} {call : EndpointEvent}
    (ok : HandleBridged b) (handle : HandleFed b given) (made : HandleCall b event c call)
    (moved : c.conn.step call = some e') : HandleFed (c.called e') (given ++ chunkRead event) := by
  have mine := (handle_call made).1
  have bridged := ok.bridged
  have called : ∀ {c : HandleConnection} {asked : List (List UInt8)}, HandleFed c given →
      c.conn.step call = some e' → (c.pc = .select → asked = []) →
      Fate c.conn e' asked → HandleFed (c.called e') (given ++ asked) := by
    intro c asked handle moved quiet fate
    constructor
    · rw [NcdAdapterOutput.called_conn]
      intro here
      have before := called_select here
      exact fate.still (quiet before) (handle.selecting before)
    · rw [NcdAdapterOutput.called_conn]
      exact fed_fate handle.fed mine moved fate
  have closed : ∀ {c : HandleConnection}, HandleFed c given → c.conn.step call = some e' →
      Closing c.conn e' → HandleFed (c.called e') (given ++ []) := by
    intro c handle moved closing
    rw [List.append_nil]
    constructor
    · rw [NcdAdapterOutput.called_conn]
      exact fun _ => closing.inFlight.2
    · rw [NcdAdapterOutput.called_conn]
      exact fed_closing handle.fed mine moved closing
  cases made with
  | read here => exact called handle moved (fun _ => rfl) (fate_read moved)
  | recv here => exact called handle moved (fun _ => rfl) (fate_recv moved)
  | check here =>
    rw [here] at bridged
    exact called handle moved (fun _ => rfl) (fate_check bridged moved)
  | write here =>
    rw [here] at bridged
    simp only [waiting, List.append_nil] at bridged
    have fed := fed_dropRead handle.fed (handle.selecting here)
    exact called ⟨(fun here => by cases here), fed⟩ moved (fun here => by cases here)
      (fate_write (bridged_dropRead bridged).books moved)
  | requested here =>
    rcases here with here | here
    · rw [here] at bridged
      exact called handle moved (fun _ => rfl) (fate_requested bridged moved)
    · rw [here] at bridged
      exact closed handle moved (closing_requested bridged moved)
  | close here => exact closed ⟨(fun here => by cases here), handle.fed⟩ moved (closing_close moved)
  | joined here => exact closed handle moved (closing_joined moved)

theorem step_handleFed {event : HandleEvent} (ok : HandleBridged b) (handle : HandleFed b given)
    (step : b.step event = some b') : HandleFed b' (given ++ chunkRead event) := by
  cases handle_move step with
  | task moved =>
    obtain ⟨_, _, _, _, _, pc, _⟩ := task_parts moved
    refine ⟨?_, by simpa [chunkRead] using fed_task handle.fed moved⟩
    dsimp only
    rw [pc]
    exact handle.selecting
  | calls made moved => exact handle_called_fed ok handle made moved
  | starts here callable => exact ⟨nofun, by simpa [chunkRead] using handle.fed⟩
  | exitStatus here =>
    refine ⟨fun _ => ?_, by simpa [chunkRead] using handle.fed⟩
    dsimp only
    rw [ok.idle (by rw [here]; rfl)]
    rfl
  | closed here callable =>
    have fed := fed_dropRead handle.fed (handle.selecting here)
    exact ⟨nofun, by simpa [chunkRead] using fed⟩
  | adapterWrote here =>
    refine ⟨fun here => absurd here write_select, ?_⟩
    rw [NcdAdapterOutput.write_conn]
    simpa [chunkRead] using handle.fed
  | @adapterFails left next here =>
    refine ⟨?_, by simpa [chunkRead] using handle.fed⟩
    dsimp only
    split <;> nofun

def withForwarded (b : HandleConnection) (handed : List (List UInt8)) : HandleConnection :=
  { b with forwarded := handed }

theorem write_withForwarded (msgs : List (List UInt8)) (next : After) :
    (withForwarded b handed).write msgs next = withForwarded (b.write msgs next) handed := by
  unfold HandleConnection.write withForwarded
  split <;> rfl

theorem called_withForwarded (b : HandleConnection) (handed : List (List UInt8)) (e' : Endpoint) :
    (withForwarded b handed).called e' = withForwarded (b.called e') handed := by
  have same : returned (withForwarded b handed).conn e' = returned b.conn e' := rfl
  unfold HandleConnection.called
  rw [same]
  cases returned b.conn e' with
  | none => rfl
  | some r =>
    cases r with
    | read q => cases q <;> exact @write_withForwarded handed { b with conn := e' } _ _
    | write bytes q => cases q <;> rfl
    | getStatus q => rfl
    | close q =>
      cases q with
      | error closed => rfl
      | ok q =>
        cases q with
        | error e => rfl
        | ok remaining => exact @write_withForwarded handed { b with conn := e' } _ _

theorem write_forwarded (msgs : List (List UInt8)) (next : After) :
    (b.write msgs next).forwarded = b.forwarded := by
  unfold HandleConnection.write
  split <;> rfl

theorem called_forwarded (b : HandleConnection) (e' : Endpoint) :
    (b.called e').forwarded = b.forwarded := by
  unfold HandleConnection.called
  split <;> first | rfl | exact write_forwarded _ _

def wroteOut (b : HandleConnection) : HandleEvent → List (List UInt8)
  | .adapterWrote =>
    match b.pc with
    | .toAdapter (data :: _) _ => [data]
    | _ => []
  | _ => []

theorem call_frame {c : HandleConnection} {event : HandleEvent} {call : EndpointEvent}
    (made : HandleCall b event c call) :
    HandleCall (withForwarded b handed) event (withForwarded c handed) call ∧
      wroteOut b event = [] := by
  cases made with
  | read here => exact ⟨.read here, rfl⟩
  | recv here => exact ⟨.recv here, rfl⟩
  | check here => exact ⟨.check here, rfl⟩
  | write here => exact ⟨.write here, rfl⟩
  | requested here => exact ⟨.requested here, rfl⟩
  | close here => exact ⟨.close here, rfl⟩
  | joined here => exact ⟨.joined here, rfl⟩

theorem step_frame {event : HandleEvent} (step : b.step event = some b') :
    b'.forwarded = b.forwarded ++ wroteOut b event ∧
      (withForwarded b handed).step event =
        some (withForwarded b' (handed ++ wroteOut b event)) := by
  cases handle_move step with
  | task moved =>
    simp only [wroteOut, List.append_nil]
    exact ⟨trivial, move_handle (b := withForwarded b handed) (.task moved)⟩
  | @calls _ c _ conn made moved =>
    obtain ⟨framed, none⟩ := @call_frame handed b c event _ made
    rw [none, List.append_nil, List.append_nil, called_forwarded]
    refine ⟨(handle_call made).2.2, ?_⟩
    rw [← called_withForwarded]
    exact move_handle (.calls framed moved)
  | starts here callable =>
    simp only [wroteOut, List.append_nil]
    exact ⟨trivial, move_handle (b := withForwarded b handed) (.starts here callable)⟩
  | exitStatus here =>
    simp only [wroteOut, List.append_nil]
    exact ⟨trivial, move_handle (b := withForwarded b handed) (.exitStatus here)⟩
  | closed here callable =>
    simp only [wroteOut, List.append_nil]
    exact ⟨trivial, move_handle (b := withForwarded b handed) (.closed here callable)⟩
  | @adapterWrote data left next here =>
    have out : wroteOut b .adapterWrote = [data] := by simp [wroteOut, here]
    rw [out, write_forwarded]
    refine ⟨rfl, ?_⟩
    rw [← write_withForwarded]
    exact move_handle (b := withForwarded b handed) (.adapterWrote here)
  | adapterFails here =>
    simp only [wroteOut, List.append_nil]
    exact ⟨trivial, move_handle (b := withForwarded b handed) (.adapterFails here)⟩

end Handle

section Served

variable {fails : Bool} {b b' : HandleConnection}

/-- What the adapter has got of what handle_connection has taken from its connection: all of
    it, unless a write to the adapter may have failed. -/
def Got (fails : Bool) (forwarded handed : List (List UInt8)) : Prop :=
  if fails then forwarded.Sublist handed else forwarded = handed

theorem got_sublist {forwarded handed : List (List UInt8)} (got : Got fails forwarded handed) :
    forwarded.Sublist handed := by
  cases fails with
  | true => exact got
  | false => exact got ▸ List.Sublist.refl _

theorem got_append {forwarded handed : List (List UInt8)} (got : Got fails forwarded handed)
    (out : List (List UInt8)) : Got fails (forwarded ++ out) (handed ++ out) := by
  cases fails with
  | true => exact List.Sublist.append_right got out
  | false => exact congrArg (· ++ out) got

def Served (fails : Bool) (b : HandleConnection) : Prop :=
  ∃ handed, Got fails b.forwarded handed ∧ HandleBridged (withForwarded b handed)

theorem served_fails (ok : HandleBridged (withForwarded b handed))
    (step : b.step .adapterFails = some b') :
    ∃ left, HandleBridged (withForwarded b' (handed ++ left)) ∧ b'.forwarded = b.forwarded := by
  obtain ⟨bridged, idle⟩ := ok
  cases handle_move step with
  | calls made moved => cases made
  | @adapterFails left next here =>
    simp only [withForwarded, here] at bridged idle
    simp only [waiting] at bridged
    refine ⟨left, ⟨?_, ?_⟩, rfl⟩
    · cases next with
      | loop =>
        have leaves := bridged_leaves bridged (idle rfl)
        simpa [withForwarded, waiting, handlePlace] using leaves
      | leave => simpa [withForwarded, waiting, handlePlace] using bridged
      | ends => simpa [withForwarded, waiting, handlePlace] using bridged
    · intro between
      cases next <;> simp [withForwarded, betweenCalls] at between

theorem step_served {event : HandleEvent} (served : Served fails b)
    (works : fails = false → event ≠ .adapterFails) (step : b.step event = some b') :
    Served fails b' := by
  obtain ⟨handed, got, ok⟩ := served
  by_cases failing : event = .adapterFails
  · cases fails with
    | false => exact absurd failing (works rfl)
    | true =>
      subst failing
      obtain ⟨left, after, same⟩ := served_fails ok step
      refine ⟨_, ?_, after⟩
      rw [same]
      exact List.Sublist.trans got (List.sublist_append_left _ _)
  · obtain ⟨out, moved⟩ := @step_frame handed b b' event step
    exact ⟨_, out ▸ got_append got _, step_handle ok failing moved⟩

end Served

structure HostFed (fails : Bool) (h : Host) : Prop where
  served : Served fails h.bridge
  fed : ∃ given, given.flatten = h.passed ∧ HandleFed h.bridge given
  conserved : Conserved h

theorem step_hostFed {fails : Bool} {h h' : Host} {event : HostEvent} (host : HostFed fails h)
    (works : fails = false → event ≠ .bridge .adapterFails) (step : h.step event = some h') :
    HostFed fails h' := by
  have conserved := step_conserved host.conserved step
  obtain ⟨given, all, handle⟩ := host.fed
  obtain ⟨handed, got, ok⟩ := host.served
  have moves : ∀ {b : HandleEvent}, h.bridge.step b = some h'.bridge →
      HandleFed h'.bridge (given ++ chunkRead b) := by
    intro b moved
    obtain ⟨_, framed⟩ := @step_frame handed _ _ _ moved
    have after := step_handleFed ok ⟨handle.selecting, handle.fed⟩ framed
    exact ⟨after.selecting, after.fed⟩
  rcases step_cases step with ⟨a, rfl, moved, bridge, passed⟩ |
    ⟨data, rfl, received, moved, passed⟩ | ⟨b, which, moved, adapter, passed⟩
  · refine ⟨bridge ▸ host.served, ⟨given, ?_, bridge ▸ handle⟩, conserved⟩
    rw [passed, all]
  · refine ⟨step_served host.served (by simp) moved, ⟨_, ?_, moves moved⟩, conserved⟩
    rw [passed, List.flatten_append, all]
    cases data <;> simp [chunkRead]
  · have quiet : chunkRead b = [] := by
      rcases which with ⟨_, looks⟩ | ⟨exited, _, is, _⟩
      · cases b with
        | adapterData data => cases looks
        | _ => rfl
      · rw [is]
        rfl
    have after := moves moved
    rw [quiet, List.append_nil] at after
    refine ⟨step_served host.served ?_ moved, ⟨given, by rw [passed, all], after⟩, conserved⟩
    intro fine is
    rcases which with ⟨same, _⟩ | ⟨exited, _, other, _⟩
    · exact works fine (by rw [same, is])
    · rw [is] at other
      cases other

end NcdFeeding
