import Ncd.Daemon
import Ncd.HandlerCalls
import Ncd.Turns

/- The two loops that join a connection to its local side: connection_run of the daemon,
   between a ConnHandler and the main loop, and handle_connection of the host, between a
   ConnHandler and an adapter process. -/
namespace NcdBridges
open NcdConnection NcdHandler NcdBooks NcdTurns NcdHandlerCalls NcdDaemon LabelledRuns

def returned (before after : Endpoint) : Option CallResult :=
  after.handler.results[before.handler.results.length]?

/-- The branch of select! that was not taken drops its read. -/
def dropRead (conn : Endpoint) : Endpoint := (conn.step .cancel).getD conn

inductive RunPc where
  | opening
  | select
  | writing
  | leaving
  | closing
  | ended
  deriving DecidableEq, Repr

/-- mainLoop says whether the receiver of data_tx still exists; forwarded is what has
    been sent to it. -/
structure ConnectionRun where
  conn : Endpoint
  pc : RunPc := .opening
  readPaused : Bool := false
  mainLoop : Bool := true
  forwarded : List (List UInt8) := []
  deriving DecidableEq, Repr

def ConnectionRun.dataTx (b : ConnectionRun) (msgs : List (List UInt8)) : ConnectionRun :=
  if b.mainLoop then { b with forwarded := b.forwarded ++ msgs } else b

/-- A call on the ConnHandler has gone on to conn; when it returns, so does the loop. -/
def ConnectionRun.called (b : ConnectionRun) (conn : Endpoint) : ConnectionRun :=
  match returned b.conn conn with
  | none => { b with conn := conn }
  | some (.read (.ok data)) =>
    { b.dataTx [data] with conn := conn, pc := if b.mainLoop then .select else .leaving }
  | some (.read (.error closed)) => { b.dataTx closed.messages with conn := conn, pc := .leaving }
  | some (.write _ (.ok ())) => { b with conn := conn, pc := .select }
  | some (.write _ (.error _)) => { b with conn := conn, pc := .leaving }
  | some (.close (.ok (.ok remaining))) => { b.dataTx remaining with conn := conn, pc := .ended }
  | some (.close _) => { b with conn := conn, pc := .ended }
  | some (.getStatus _) => { b with conn := conn }

inductive RunEvent where
  | task (event : TaskEvent)
  | start
  | read
  | recv
  | check
  | command (cmd : Option WriteCommand)
  | requested
  | close
  | joined
  | mainLoopEnds
  deriving DecidableEq, Repr

def ConnectionRun.command (b : ConnectionRun) (cmd : Option WriteCommand) : Option ConnectionRun :=
  let b := { b with conn := dropRead b.conn }
  if b.pc = .select then
    match cmd with
    | some (.data data) => (b.conn.step (.write data)).map { b with pc := .writing }.called
    | some .pauseRead => if b.conn.callable then some { b with readPaused := true } else none
    | some .resumeRead => if b.conn.callable then some { b with readPaused := false } else none
    | some .close => (b.conn.step .close).map { b with pc := .closing }.called
    | none => if b.conn.callable then some { b with pc := .leaving } else none
  else none

def ConnectionRun.step (b : ConnectionRun) : RunEvent → Option ConnectionRun
  | .task event => (b.conn.step (.task event)).map fun conn => { b with conn := conn }
  | .start =>
    if b.pc = .opening ∧ b.conn.callable then some { b with pc := .select } else none
  | .read =>
    if b.pc = .select ∧ b.readPaused = false then (b.conn.step .read).map b.called else none
  | .recv => if b.pc = .select then (b.conn.step .recv).map b.called else none
  | .check => if b.pc = .select then (b.conn.step .check).map b.called else none
  | .command cmd => b.command cmd
  | .requested =>
    if b.pc = .writing ∨ b.pc = .closing then (b.conn.step .requested).map b.called else none
  | .close =>
    if b.pc = .leaving then (b.conn.step .close).map { b with pc := .closing }.called else none
  | .joined => if b.pc = .closing then (b.conn.step .joined).map b.called else none
  | .mainLoopEnds => some { b with mainLoop := false }

inductive After where
  | loop
  | leave
  | ends
  deriving DecidableEq, Repr

inductive HandlePc where
  | opening
  | loopTop
  | select
  | writing
  | toAdapter (left : List (List UInt8)) (next : After)
  | leaving
  | closing
  | ended
  deriving DecidableEq, Repr

/-- forwarded is what adapter.write has written to the adapter. -/
structure HandleConnection where
  conn : Endpoint
  pc : HandlePc := .opening
  forwarded : List (List UInt8) := []
  deriving DecidableEq, Repr

def After.pc : After → HandlePc
  | .loop => .loopTop
  | .leave => .leaving
  | .ends => .ended

def HandleConnection.write (b : HandleConnection) (msgs : List (List UInt8)) (next : After) :
    HandleConnection :=
  if msgs = [] then { b with pc := next.pc } else { b with pc := .toAdapter msgs next }

def HandleConnection.called (b : HandleConnection) (conn : Endpoint) : HandleConnection :=
  match returned b.conn conn with
  | none => { b with conn := conn }
  | some (.read (.ok data)) => { b with conn := conn }.write [data] .loop
  | some (.read (.error closed)) => { b with conn := conn }.write closed.messages .leave
  | some (.write _ (.ok ())) => { b with conn := conn, pc := .loopTop }
  | some (.write _ (.error _)) => { b with conn := conn, pc := .leaving }
  | some (.close (.ok (.ok remaining))) => { b with conn := conn }.write remaining .ends
  | some (.close _) => { b with conn := conn, pc := .ended }
  | some (.getStatus _) => { b with conn := conn }

inductive HandleEvent where
  | task (event : TaskEvent)
  | start
  | exitStatus (exited : Bool)
  | read
  | recv
  | check
  | adapterData (data : Option (List UInt8))
  | requested
  | adapterWrote
  | adapterFails
  | close
  | joined
  deriving DecidableEq, Repr

def HandleConnection.adapterData (b : HandleConnection) (data : Option (List UInt8)) :
    Option HandleConnection :=
  let b := { b with conn := dropRead b.conn }
  if b.pc = .select then
    match data with
    | some bytes => (b.conn.step (.write bytes)).map { b with pc := .writing }.called
    | none => if b.conn.callable then some { b with pc := .leaving } else none
  else none

def HandleConnection.adapterWrote (b : HandleConnection) : Option HandleConnection :=
  match b.pc with
  | .toAdapter (data :: left) next =>
    some ({ b with forwarded := b.forwarded ++ [data] }.write left next)
  | _ => none

/-- A failed write ends the list it belongs to; after it there is no more loop. -/
def HandleConnection.adapterFails (b : HandleConnection) : Option HandleConnection :=
  match b.pc with
  | .toAdapter _ .ends => some { b with pc := .ended }
  | .toAdapter _ _ => some { b with pc := .leaving }
  | _ => none

def HandleConnection.step (b : HandleConnection) : HandleEvent → Option HandleConnection
  | .task event => (b.conn.step (.task event)).map fun conn => { b with conn := conn }
  | .start =>
    if b.pc = .opening ∧ b.conn.callable then some { b with pc := .loopTop } else none
  | .exitStatus exited =>
    if b.pc = .loopTop then some { b with pc := if exited then .leaving else .select } else none
  | .read => if b.pc = .select then (b.conn.step .read).map b.called else none
  | .recv => if b.pc = .select then (b.conn.step .recv).map b.called else none
  | .check => if b.pc = .select then (b.conn.step .check).map b.called else none
  | .adapterData data => b.adapterData data
  | .requested =>
    if b.pc = .writing ∨ b.pc = .closing then (b.conn.step .requested).map b.called else none
  | .adapterWrote => b.adapterWrote
  | .adapterFails => b.adapterFails
  | .close =>
    if b.pc = .leaving then (b.conn.step .close).map { b with pc := .closing }.called else none
  | .joined => if b.pc = .closing then (b.conn.step .joined).map b.called else none

/-- The call on the ConnHandler that an event of connection_run makes or goes on with, and the
    loop around it. -/
inductive RunCall (b : ConnectionRun) : RunEvent → ConnectionRun → EndpointEvent → Prop where
  | read (here : b.pc = .select) (reading : b.readPaused = false) : RunCall b .read b .read
  | recv (here : b.pc = .select) : RunCall b .recv b .recv
  | check (here : b.pc = .select) : RunCall b .check b .check
  | write {data : List UInt8} (here : b.pc = .select) :
      RunCall b (.command (some (.data data)))
        { b with conn := dropRead b.conn, pc := .writing } (.write data)
  | commanded (here : b.pc = .select) :
      RunCall b (.command (some .close)) { b with conn := dropRead b.conn, pc := .closing } .close
  | requested (here : b.pc = .writing ∨ b.pc = .closing) : RunCall b .requested b .requested
  | close (here : b.pc = .leaving) : RunCall b .close { b with pc := .closing } .close
  | joined (here : b.pc = .closing) : RunCall b .joined b .joined

/-- Everything that one step of connection_run can be. -/
inductive RunMove (b : ConnectionRun) : RunEvent → ConnectionRun → Prop where
  | task {event : TaskEvent} {conn : Endpoint} (moved : b.conn.step (.task event) = some conn) :
      RunMove b (.task event) { b with conn := conn }
  | calls {event : RunEvent} {c : ConnectionRun} {call : EndpointEvent} {conn : Endpoint}
      (made : RunCall b event c call) (moved : c.conn.step call = some conn) :
      RunMove b event (c.called conn)
  | starts (here : b.pc = .opening) (callable : b.conn.callable = true) :
      RunMove b .start { b with pc := .select }
  | toggles {command : WriteCommand} {paused : Bool} (here : b.pc = .select)
      (callable : (dropRead b.conn).callable = true)
      (which : command = .pauseRead ∧ paused = true ∨ command = .resumeRead ∧ paused = false) :
      RunMove b (.command (some command)) { b with conn := dropRead b.conn, readPaused := paused }
  | orphaned (here : b.pc = .select) (callable : (dropRead b.conn).callable = true) :
      RunMove b (.command none) { b with conn := dropRead b.conn, pc := .leaving }
  | mainLoopEnds : RunMove b .mainLoopEnds { b with mainLoop := false }

inductive HandleCall (b : HandleConnection) :
    HandleEvent → HandleConnection → EndpointEvent → Prop where
  | read (here : b.pc = .select) : HandleCall b .read b .read
  | recv (here : b.pc = .select) : HandleCall b .recv b .recv
  | check (here : b.pc = .select) : HandleCall b .check b .check
  | write {bytes : List UInt8} (here : b.pc = .select) :
      HandleCall b (.adapterData (some bytes))
        { b with conn := dropRead b.conn, pc := .writing } (.write bytes)
  | requested (here : b.pc = .writing ∨ b.pc = .closing) : HandleCall b .requested b .requested
  | close (here : b.pc = .leaving) : HandleCall b .close { b with pc := .closing } .close
  | joined (here : b.pc = .closing) : HandleCall b .joined b .joined

inductive HandleMove (b : HandleConnection) : HandleEvent → HandleConnection → Prop where
  | task {event : TaskEvent} {conn : Endpoint} (moved : b.conn.step (.task event) = some conn) :
      HandleMove b (.task event) { b with conn := conn }
  | calls {event : HandleEvent} {c : HandleConnection} {call : EndpointEvent} {conn : Endpoint}
      (made : HandleCall b event c call) (moved : c.conn.step call = some conn) :
      HandleMove b event (c.called conn)
  | starts (here : b.pc = .opening) (callable : b.conn.callable = true) :
      HandleMove b .start { b with pc := .loopTop }
  | exitStatus {exited : Bool} (here : b.pc = .loopTop) :
      HandleMove b (.exitStatus exited) { b with pc := if exited then .leaving else .select }
  | closed (here : b.pc = .select) (callable : (dropRead b.conn).callable = true) :
      HandleMove b (.adapterData none) { b with conn := dropRead b.conn, pc := .leaving }
  | adapterWrote {data : List UInt8} {left : List (List UInt8)} {next : After}
      (here : b.pc = .toAdapter (data :: left) next) :
      HandleMove b .adapterWrote ({ b with forwarded := b.forwarded ++ [data] }.write left next)
  | adapterFails {left : List (List UInt8)} {next : After} (here : b.pc = .toAdapter left next) :
      HandleMove b .adapterFails { b with pc := if next = .ends then .ended else .leaving }

section Moves

theorem run_call {b c : ConnectionRun} {event : RunEvent} {call : EndpointEvent}
    (made : RunCall b event c call) : (∀ te, call ≠ .task te) ∧
      (c.conn = b.conn ∨ c.conn = dropRead b.conn) ∧ c.mainLoop = b.mainLoop ∧
      c.forwarded = b.forwarded := by
  cases made with
  | write here | commanded here => exact ⟨by simp, .inr rfl, rfl, rfl⟩
  | _ => exact ⟨by simp, .inl rfl, rfl, rfl⟩

theorem run_calls {b b' c : ConnectionRun} {event : RunEvent} {call : EndpointEvent}
    (made : RunCall b event c call) (step : (c.conn.step call).map c.called = some b') :
    RunMove b event b' := by
  obtain ⟨conn, moved, rfl⟩ := Option.map_eq_some_iff.mp step
  exact .calls made moved

theorem command_move {b b' : ConnectionRun} {cmd : Option WriteCommand}
    (step : b.command cmd = some b') : RunMove b (.command cmd) b' := by
  unfold ConnectionRun.command at step
  dsimp only at step
  split at step
  · rename_i here
    cases cmd with
    | none =>
      dsimp only at step
      split at step <;> cases step
      rename_i callable
      exact .orphaned here callable
    | some command =>
      cases command with
      | data data => exact run_calls (.write here) step
      | close => exact run_calls (.commanded here) step
      | pauseRead =>
        dsimp only at step
        split at step <;> cases step
        rename_i callable
        exact .toggles here callable (.inl ⟨rfl, rfl⟩)
      | resumeRead =>
        dsimp only at step
        split at step <;> cases step
        rename_i callable
        exact .toggles here callable (.inr ⟨rfl, rfl⟩)
  · cases step

theorem run_move {b b' : ConnectionRun} {event : RunEvent} (step : b.step event = some b') :
    RunMove b event b' := by
  cases event with
  | task event =>
    obtain ⟨conn, moved, rfl⟩ := Option.map_eq_some_iff.mp step
    exact .task moved
  | start =>
    obtain ⟨⟨here, callable⟩, made⟩ := Option.ite_none_right_eq_some.mp step
    cases made
    exact .starts here callable
  | read =>
    obtain ⟨⟨here, reading⟩, made⟩ := Option.ite_none_right_eq_some.mp step
    exact run_calls (.read here reading) made
  | recv =>
    obtain ⟨here, made⟩ := Option.ite_none_right_eq_some.mp step
    exact run_calls (.recv here) made
  | check =>
    obtain ⟨here, made⟩ := Option.ite_none_right_eq_some.mp step
    exact run_calls (.check here) made
  | command cmd => exact command_move step
  | requested =>
    obtain ⟨here, made⟩ := Option.ite_none_right_eq_some.mp step
    exact run_calls (.requested here) made
  | close =>
    obtain ⟨here, made⟩ := Option.ite_none_right_eq_some.mp step
    exact run_calls (.close here) made
  | joined =>
    obtain ⟨here, made⟩ := Option.ite_none_right_eq_some.mp step
    exact run_calls (.joined here) made
  | mainLoopEnds =>
    cases step
    exact .mainLoopEnds

theorem handle_call {b c : HandleConnection} {event : HandleEvent} {call : EndpointEvent}
    (made : HandleCall b event c call) : (∀ te, call ≠ .task te) ∧
      (c.conn = b.conn ∨ c.conn = dropRead b.conn) ∧ c.forwarded = b.forwarded := by
  cases made with
  | write here => exact ⟨by simp, .inr rfl, rfl⟩
  | _ => exact ⟨by simp, .inl rfl, rfl⟩

theorem handle_calls {b b' c : HandleConnection} {event : HandleEvent} {call : EndpointEvent}
    (made : HandleCall b event c call) (step : (c.conn.step call).map c.called = some b') :
    HandleMove b event b' := by
  obtain ⟨conn, moved, rfl⟩ := Option.map_eq_some_iff.mp step
  exact .calls made moved

theorem handle_move {b b' : HandleConnection} {event : HandleEvent}
    (step : b.step event = some b') : HandleMove b event b' := by
  cases event with
  | task event =>
    obtain ⟨conn, moved, rfl⟩ := Option.map_eq_some_iff.mp step
    exact .task moved
  | start =>
    obtain ⟨⟨here, callable⟩, made⟩ := Option.ite_none_right_eq_some.mp step
    cases made
    exact .starts here callable
  | exitStatus exited =>
    obtain ⟨here, made⟩ := Option.ite_none_right_eq_some.mp step
    cases made
    exact .exitStatus here
  | read =>
    obtain ⟨here, made⟩ := Option.ite_none_right_eq_some.mp step
    exact handle_calls (.read here) made
  | recv =>
    obtain ⟨here, made⟩ := Option.ite_none_right_eq_some.mp step
    exact handle_calls (.recv here) made
  | check =>
    obtain ⟨here, made⟩ := Option.ite_none_right_eq_some.mp step
    exact handle_calls (.check here) made
  | adapterData data =>
    simp only [HandleConnection.step] at step
    unfold HandleConnection.adapterData at step
    obtain ⟨here, made⟩ := Option.ite_none_right_eq_some.mp step
    cases data with
    | none =>
      obtain ⟨callable, made⟩ := Option.ite_none_right_eq_some.mp made
      cases made
      exact .closed here callable
    | some bytes => exact handle_calls (.write here) made
  | requested =>
    obtain ⟨here, made⟩ := Option.ite_none_right_eq_some.mp step
    exact handle_calls (.requested here) made
  | adapterWrote =>
    simp only [HandleConnection.step] at step
    unfold HandleConnection.adapterWrote at step
    split at step <;> cases step
    rename_i here
    exact .adapterWrote here
  | adapterFails =>
    simp only [HandleConnection.step] at step
    unfold HandleConnection.adapterFails at step
    split at step <;> cases step
    · rename_i here
      exact .adapterFails here
    · rename_i left next other here
      have move := HandleMove.adapterFails here
      rwa [if_neg other] at move
  | close =>
    obtain ⟨here, made⟩ := Option.ite_none_right_eq_some.mp step
    exact handle_calls (.close here) made
  | joined =>
    obtain ⟨here, made⟩ := Option.ite_none_right_eq_some.mp step
    exact handle_calls (.joined here) made

theorem handle_makes {b c : HandleConnection} {event : HandleEvent} {call : EndpointEvent}
    (made : HandleCall b event c call) : b.step event = (c.conn.step call).map c.called := by
  cases made with
  | read here | recv here | check here | joined here =>
    simp [HandleConnection.step, here]
  | write here => simp [HandleConnection.step, HandleConnection.adapterData, here]
  | requested here => simp [HandleConnection.step, here]
  | close here => simp [HandleConnection.step, here]

theorem move_handle {b b' : HandleConnection} {event : HandleEvent}
    (move : HandleMove b event b') : b.step event = some b' := by
  cases move with
  | task moved => simp [HandleConnection.step, moved]
  | calls made moved => rw [handle_makes made, moved, Option.map_some]
  | starts here callable => simp [HandleConnection.step, here, callable]
  | exitStatus here => simp [HandleConnection.step, here]
  | closed here callable =>
    simp [HandleConnection.step, HandleConnection.adapterData, here, callable]
  | adapterWrote here => simp [HandleConnection.step, HandleConnection.adapterWrote, here]
  | @adapterFails left next here =>
    cases next <;> simp [HandleConnection.step, HandleConnection.adapterFails, here]

end Moves

end NcdBridges
