import Ncd.Adapter
import Ncd.Forwarding

/- handle_connection beside its adapter: whether what the adapter wrote to its stdout has
   been given to libncd_runtime::write when the connection is closed. -/
namespace NcdAdapterOutput
open NcdConnection NcdHandler NcdBooks NcdTurns NcdBridges NcdForwarding NcdAdapter LabelledRuns

/-- passed is what libncd_runtime::write has been given. -/
structure Host where
  adapter : Adapter := {}
  bridge : HandleConnection
  passed : List UInt8 := []
  deriving DecidableEq, Repr

inductive HostEvent where
  | adapter (event : AdapterEvent)
  | exitStatus (exited : Bool)
  | adapterData
  | bridge (event : HandleEvent)
  deriving DecidableEq, Repr

def looks : HandleEvent → Bool
  | .exitStatus _ | .adapterData _ => true
  | _ => false

/-- try_exit_status: try_wait may fail on a process that has exited, and never invents one. -/
def Host.exitStatus (s : Host) (exited : Bool) : Option Host :=
  if exited ∧ s.adapter.exited = false then none
  else (s.bridge.step (.exitStatus exited)).map fun bridge => { s with bridge := bridge }

def Host.adapterData (s : Host) : Option Host :=
  s.adapter.recv.bind fun (data, adapter) =>
    (s.bridge.step (.adapterData data)).map fun bridge =>
      { adapter := adapter, bridge := bridge, passed := s.passed ++ data.getD [] }

def Host.step (s : Host) : HostEvent → Option Host
  | .adapter event => (s.adapter.step event).map fun adapter => { s with adapter := adapter }
  | .exitStatus exited => s.exitStatus exited
  | .adapterData => s.adapterData
  | .bridge event =>
    if looks event then none
    else (s.bridge.step event).map fun bridge => { s with bridge := bridge }

def StaysUp (s : Host) : Prop := ∀ r ∈ s.bridge.conn.handler.results, goesOn r ≠ .leaving

instance (s : Host) : Decidable (StaysUp s) := inferInstanceAs (Decidable (∀ r ∈ _, _))

def closes : HandlePc → Bool
  | .closing | .toAdapter _ .ends | .ended => true
  | _ => false

/-- The ways out of the loop that do not wait for the end of stdout are taken only when the
    adapter's stdout is finished and nothing of it is on its way. -/
def Waits (s : Host) : HostEvent → Prop
  | .exitStatus true => Flushed s.adapter
  | .bridge .adapterFails => handlePlace s.bridge.pc = .looping → Flushed s.adapter
  | .adapter event => ReadsToEnd s.adapter event
  | _ => True

instance (s : Host) (event : HostEvent) : Decidable (Waits s event) := by
  unfold Waits
  split <;> infer_instance

def InLoop (b : HandleConnection) : Prop :=
  handlePlace b.pc = .looping ∧ leaving b.conn.handler.pc = false

variable {conn conn' : Endpoint} {b b' : HandleConnection} {s s' : Host}

theorem dropRead_quiet (conn : Endpoint) :
    (dropRead conn).handler.results = conn.handler.results ∧
      (leaving conn.handler.pc = false → leaving (dropRead conn).handler.pc = false) := by
  rcases dropRead_cases conn with same | ⟨_, _, idle⟩
  · rw [same]
    exact ⟨rfl, id⟩
  · rw [idle]
    exact ⟨rfl, fun _ => rfl⟩

theorem called_inLoop {event : EndpointEvent} (inLoop : InLoop b)
    (mine : ∀ te, event ≠ .task te) (open_ : event ≠ .close ∧ event ≠ .dropHandler)
    (step : b.conn.step event = some conn') :
    InLoop (b.called conn') ∨ ∃ r ∈ conn'.handler.results, goesOn r = .leaving := by
  obtain ⟨here, quiet⟩ := inLoop
  have rests : conn'.handler.results = b.conn.handler.results →
      leaving conn'.handler.pc = false → InLoop (b.called conn') := by
    intro same still
    have none : returned b.conn conn' = none := by simp [returned, same]
    unfold HandleConnection.called
    rw [none]
    exact ⟨here, still⟩
  cases step_turn mine step with
  | rests accepted results alive handle stays leaves checks =>
    refine .inl (rests results ?_)
    cases still : leaving conn'.handler.pc with
    | false => rfl
    | true =>
      rcases leaves still with before | close | dropped
      · simp [quiet] at before
      · exact absurd close open_.1
      · exact absurd dropped open_.2
  | @accepts call asked accepted results alive handle goes =>
    have still : leaving conn'.handler.pc = false := by
      rcases goes with ⟨rfl, _⟩ | ⟨_, pc | pc⟩
      · simp [asked, leaving] at quiet
      · rw [pc]
        rfl
      · rw [pc]
        rfl
    rcases results with same | ⟨bytes, wrote⟩
    · exact .inl (rests same still)
    · have some : returned b.conn conn' = some (.write bytes (.ok ())) := by
        simp [returned, wrote]
      unfold HandleConnection.called
      rw [some]
      exact .inl ⟨rfl, still⟩
  | @returns r before accepted results alive pc open_ read learns =>
    have some : returned b.conn conn' = some r := by simp [returned, results]
    have member : r ∈ conn'.handler.results := by simp [results]
    have still : leaving conn'.handler.pc = false := by
      rw [pc]
      rfl
    unfold HandleConnection.called
    rw [some]
    cases r with
    | read q =>
      cases q with
      | ok data => exact .inl ⟨rfl, still⟩
      | error closed => exact .inr ⟨_, member, rfl⟩
    | write bytes q =>
      cases q with
      | ok done => exact .inl ⟨rfl, still⟩
      | error closed => exact .inr ⟨_, member, rfl⟩
    | getStatus q => exact .inl ⟨here, still⟩
    | close q => exact absurd rfl (open_ q)
  | closes accepted results pc comes ends =>
    rcases comes with close | before
    · exact absurd close open_.1
    · simp [quiet] at before

theorem results_grow {event : EndpointEvent} (step : conn.step event = some conn') :
    conn.handler.results <+: conn'.handler.results := by
  by_cases mine : ∃ te, event = .task te
  · obtain ⟨te, rfl⟩ := mine
    obtain ⟨_, _, _, _, _, _, handler⟩ := task_parts step
    rcases handler with is | ⟨_, is⟩ <;> rw [is]
  · cases step_turn (fun te is => mine ⟨te, is⟩) step with
    | rests accepted results => rw [results]
    | accepts here accepted results =>
      rcases results with same | ⟨bytes, wrote⟩
      · rw [same]
      · rw [wrote]
        exact List.prefix_append _ _
    | returns before accepted results =>
      rw [results]
      exact List.prefix_append _ _
    | closes accepted results =>
      rw [results]
      exact List.prefix_append _ _

theorem write_conn (b : HandleConnection) (msgs : List (List UInt8)) (next : After) :
    (b.write msgs next).conn = b.conn := by
  unfold HandleConnection.write
  split <;> rfl

theorem called_conn (b : HandleConnection) (conn' : Endpoint) : (b.called conn').conn = conn' := by
  unfold HandleConnection.called
  split <;> simp [write_conn]

theorem bridge_grows {event : HandleEvent} (step : b.step event = some b') :
    b.conn.handler.results <+: b'.conn.handler.results := by
  cases handle_move step with
  | task moved => exact results_grow moved
  | @calls _ c _ conn made moved =>
    have grows := results_grow moved
    rw [called_conn]
    rcases (handle_call made).2.1 with same | dropped
    · rw [← same]
      exact grows
    · rw [dropped, (dropRead_quiet b.conn).1] at grows
      exact grows
  | starts | exitStatus | adapterFails => exact List.prefix_rfl
  | closed => rw [(dropRead_quiet b.conn).1]
  | adapterWrote => rw [write_conn]

theorem bridge_inLoop {event : HandleEvent} (inLoop : InLoop b)
    (stays : event ≠ .exitStatus true ∧ event ≠ .adapterData none ∧ event ≠ .adapterFails)
    (step : b.step event = some b') :
    InLoop b' ∨ ∃ r ∈ b'.conn.handler.results, goesOn r = .leaving := by
  have ⟨here, quiet⟩ := inLoop
  cases handle_move step with
  | task moved =>
    obtain ⟨_, _, _, _, _, pc, _⟩ := task_parts moved
    exact .inl ⟨here, pc ▸ quiet⟩
  | calls made moved =>
    have mine := (handle_call made).1
    rw [called_conn]
    cases made with
    | read | recv | check | requested =>
      exact called_inLoop inLoop mine ⟨nofun, nofun⟩ moved
    | write =>
      exact called_inLoop ⟨rfl, (dropRead_quiet b.conn).2 quiet⟩ mine ⟨nofun, nofun⟩ moved
    | close out | joined out =>
      rw [out] at here
      cases here
  | starts => exact .inl ⟨rfl, quiet⟩
  | @exitStatus exited =>
    cases exited with
    | true => exact absurd rfl stays.1
    | false => exact .inl ⟨rfl, quiet⟩
  | closed => exact absurd rfl stays.2.1
  | @adapterWrote data left next writes =>
    rw [writes] at here
    cases next with
    | loop =>
      refine .inl ⟨?_, by rw [write_conn]; exact quiet⟩
      unfold HandleConnection.write
      split <;> rfl
    | leave => cases here
    | ends => cases here
  | adapterFails => exact absurd rfl stays.2.2

def Conserved (s : Host) : Prop := s.passed ++ s.adapter.onItsWay = s.adapter.wrote

structure Kept (s : Host) : Prop where
  conserved : Conserved s
  drained : Drained s.adapter
  fate : InLoop s.bridge ∨ Flushed s.adapter ∨ ¬ StaysUp s

theorem down_grows (down : ¬ StaysUp s)
    (grows : s.bridge.conn.handler.results <+: s'.bridge.conn.handler.results) :
    ¬ StaysUp s' :=
  fun up => down fun r member => up r (grows.subset member)

theorem down_of (failed : ∃ r ∈ s.bridge.conn.handler.results, goesOn r = .leaving) :
    ¬ StaysUp s := by
  obtain ⟨r, member, fails⟩ := failed
  exact fun up => up r member fails

theorem fate_bridge {event : HandleEvent} (kept : Kept s)
    (flushed : Flushed s.adapter → Flushed s'.adapter)
    (stays : event ≠ .exitStatus true ∧ event ≠ .adapterData none ∧ event ≠ .adapterFails)
    (step : s.bridge.step event = some s'.bridge) :
    InLoop s'.bridge ∨ Flushed s'.adapter ∨ ¬ StaysUp s' := by
  rcases kept.fate with inLoop | done | down
  · rcases bridge_inLoop inLoop stays step with inside | failed
    · exact .inl inside
    · exact .inr (.inr (down_of failed))
  · exact .inr (.inl (flushed done))
  · exact .inr (.inr (down_grows down (bridge_grows step)))

theorem step_cases {event : HostEvent} (step : s.step event = some s') :
    (∃ a, event = .adapter a ∧ s.adapter.step a = some s'.adapter ∧ s'.bridge = s.bridge ∧
      s'.passed = s.passed) ∨
    (∃ data, event = .adapterData ∧ s.adapter.recv = some (data, s'.adapter) ∧
      s.bridge.step (.adapterData data) = some s'.bridge ∧
      s'.passed = s.passed ++ data.getD []) ∨
    ∃ b, (event = .bridge b ∧ looks b = false ∨
        ∃ exited, event = .exitStatus exited ∧ b = .exitStatus exited ∧
          (exited = true → s.adapter.exited = true)) ∧
      s.bridge.step b = some s'.bridge ∧ s'.adapter = s.adapter ∧ s'.passed = s.passed := by
  cases event with
  | adapter a =>
    simp only [Host.step, Option.map_eq_some_iff] at step
    obtain ⟨adapter, moved, rfl⟩ := step
    exact .inl ⟨a, rfl, moved, rfl, rfl⟩
  | exitStatus exited =>
    simp only [Host.step] at step
    unfold Host.exitStatus at step
    split at step
    · cases step
    · rename_i seen
      simp only [Option.map_eq_some_iff] at step
      obtain ⟨bridge, moved, rfl⟩ := step
      refine .inr (.inr ⟨_, .inr ⟨exited, rfl, rfl, fun is => ?_⟩, moved, rfl, rfl⟩)
      simpa [is] using seen
  | adapterData =>
    simp only [Host.step, Host.adapterData, Option.bind_eq_some_iff, Option.map_eq_some_iff,
      Prod.exists] at step
    obtain ⟨data, adapter, received, bridge, moved, rfl⟩ := step
    exact .inr (.inl ⟨data, rfl, received, moved, rfl⟩)
  | bridge b =>
    simp only [Host.step] at step
    split at step
    · cases step
    · rename_i quiet
      simp only [Option.map_eq_some_iff] at step
      obtain ⟨bridge, moved, rfl⟩ := step
      exact .inr (.inr ⟨b, .inl ⟨rfl, by simpa using quiet⟩, moved, rfl, rfl⟩)

theorem step_conserved {event : HostEvent} (conserved : Conserved s)
    (step : s.step event = some s') : Conserved s' := by
  unfold Conserved at conserved ⊢
  rcases step_cases step with ⟨a, _, moved, _, passed⟩ | ⟨data, _, received, _, passed⟩ |
    ⟨b, _, _, adapter, passed⟩
  · rw [passed]
    exact NcdAdapter.step_conserves conserved moved
  · obtain ⟨way, wrote, _⟩ := recv_keeps received
    rw [passed, wrote, List.append_assoc, way, conserved]
  · rw [passed, adapter, conserved]

theorem step_kept {event : HostEvent} (kept : Kept s) (waits : Waits s event)
    (step : s.step event = some s') : Kept s' := by
  have conserved := step_conserved kept.conserved step
  rcases step_cases step with ⟨a, rfl, moved, bridge, _⟩ | ⟨data, rfl, received, moved, _⟩ |
    ⟨b, which, moved, adapter, _⟩
  · refine ⟨conserved, step_drained kept.drained waits moved, ?_⟩
    rcases kept.fate with inLoop | flushed | down
    · exact .inl (bridge ▸ inLoop)
    · exact .inr (.inl (step_flushed kept.conserved flushed moved))
    · exact .inr (.inr (down_grows down (by rw [bridge])))
  · refine ⟨conserved, recv_drained kept.drained received, ?_⟩
    cases data with
    | none => exact .inr (.inl (recv_none kept.drained received))
    | some bytes =>
      exact fate_bridge kept (fun flushed => recv_flushed flushed received) (by simp) moved
  · refine ⟨conserved, adapter ▸ kept.drained, ?_⟩
    rcases which with ⟨rfl, quiet⟩ | ⟨exited, rfl, rfl, _⟩
    · by_cases fails : b = .adapterFails
      · subst fails
        rcases kept.fate with inLoop | flushed | down
        · exact .inr (.inl (adapter ▸ waits inLoop.1))
        · exact .inr (.inl (adapter ▸ flushed))
        · exact .inr (.inr (down_grows down (bridge_grows moved)))
      · refine fate_bridge kept (fun flushed => adapter ▸ flushed) ⟨?_, ?_, fails⟩ moved <;>
          intro same <;> simp [same, looks] at quiet
    · cases exited with
      | true => exact .inr (.inl (adapter ▸ waits))
      | false => exact fate_bridge kept (fun flushed => adapter ▸ flushed) (by simp) moved

def Host.new (peerAddr : SocketAddr) (timeoutMs closeTimeoutMs keepAliveIntervalMs : UInt32)
    (role : ConnRole) (bufferSize : Nat) : Host :=
  { bridge :=
      { conn := Endpoint.new peerAddr timeoutMs closeTimeoutMs keepAliveIntervalMs role
          bufferSize } }

theorem new_kept (peerAddr : SocketAddr)
    (timeoutMs closeTimeoutMs keepAliveIntervalMs : UInt32) (role : ConnRole) (bufferSize : Nat) :
    Kept (Host.new peerAddr timeoutMs closeTimeoutMs keepAliveIntervalMs role bufferSize) :=
  ⟨rfl, fun ended => Reader.noConfusion ended, .inl ⟨rfl, rfl⟩⟩

theorem kept_closed (kept : Kept s) (up : StaysUp s) (closed : closes s.bridge.pc) :
    s.adapter.stdoutOpen = false ∧ s.passed = s.adapter.wrote := by
  rcases kept.fate with inLoop | flushed | down
  · have here := inLoop.1
    cases at_pc : s.bridge.pc with
    | toAdapter left next => cases next <;> simp [at_pc, closes, handlePlace] at closed here
    | _ => simp [at_pc, closes, handlePlace] at closed here
  · have all := kept.conserved
    rw [Conserved, flushed.2, List.append_nil] at all
    exact ⟨flushed.1, all⟩
  · exact absurd up down

/-- Leaving the loop with output on its way loses it. -/
theorem leaves_output {event : HostEvent} (conserved : Conserved s)
    (finished : s.adapter.stdoutOpen = false)
    (out : event = .exitStatus true ∨ event = .bridge .adapterFails) (early : ¬ Waits s event)
    (step : s.step event = some s') :
    handlePlace s'.bridge.pc = .leaving ∧ s'.passed ≠ s'.adapter.wrote := by
  have after := step_conserved conserved step
  have lost : ∀ {a : Adapter}, a = s.adapter → ¬ Flushed a → s'.adapter = a →
      s'.passed ≠ s'.adapter.wrote := by
    rintro a rfl unflushed same all
    rw [Conserved, all, same] at after
    exact unflushed ⟨finished, by simpa using after⟩
  rcases step_cases step with ⟨a, rfl, _⟩ | ⟨data, rfl, _⟩ | ⟨b, which, moved, adapter, _⟩
  · simp at out
  · simp at out
  · rcases which with ⟨rfl, _⟩ | ⟨exited, rfl, rfl, _⟩
    · obtain rfl : b = .adapterFails := by simpa using out
      simp only [Waits, not_forall] at early
      obtain ⟨looping, unflushed⟩ := early
      refine ⟨?_, lost rfl unflushed adapter⟩
      generalize s'.bridge = after at moved ⊢
      cases handle_move moved with
      | calls made => cases made
      | @adapterFails left next here =>
        rw [here] at looping
        cases next with
        | loop => rfl
        | leave => rfl
        | ends => cases looping
    · obtain rfl : exited = true := by simpa using out
      refine ⟨?_, lost rfl early adapter⟩
      generalize s'.bridge = after at moved ⊢
      cases handle_move moved with
      | calls made => cases made
      | exitStatus here => rfl

/-- In every run whose loop ends only on a finished and flushed adapter, all that the
    adapter wrote has been passed on, in order, when the connection is closed. An exit
    check or a failed adapter.write before that leaves the loop without some of it. -/
theorem adapter_output_kept (peerAddr : SocketAddr)
    (timeoutMs closeTimeoutMs keepAliveIntervalMs : UInt32) (role : ConnRole) (bufferSize : Nat) :
    (∀ s, Reaches Host.step Waits (Host.new peerAddr timeoutMs closeTimeoutMs keepAliveIntervalMs
        role bufferSize) s →
      StaysUp s → closes s.bridge.pc → s.adapter.stdoutOpen = false ∧
        s.passed = s.adapter.wrote) ∧
    ∀ s s' event, Reaches Host.step Any (Host.new peerAddr timeoutMs closeTimeoutMs
        keepAliveIntervalMs role bufferSize) s →
      s.adapter.stdoutOpen = false →
      event = .exitStatus true ∨ event = .bridge .adapterFails → ¬ Waits s event →
      s.step event = some s' →
      handlePlace s'.bridge.pc = .leaving ∧ s'.passed ≠ s'.adapter.wrote := by
  have new := new_kept peerAddr timeoutMs closeTimeoutMs keepAliveIntervalMs role bufferSize
  constructor
  · intro s run up closed
    exact kept_closed (run.keeps step_kept new) up closed
  · intro s s' event run finished out early step
    have conserved : Conserved s :=
      run.keeps (fun conserved _ step => step_conserved conserved step) new.conserved
    exact leaves_output conserved finished out early step

def opened : List HostEvent :=
  (handshakes.take 4).map (fun event => .bridge (.task event)) ++ [.bridge .start]

/-- The adapter writes one byte and exits; the byte goes all the way before the next look. -/
def quietExit : List HostEvent :=
  opened ++ [.exitStatus false, .adapter (.write [0x41]), .adapter .exit, .adapter (.read 1),
    .adapter .send, .adapterData, .bridge .requested, .exitStatus true, .bridge .close]

def aBridge : Host := Host.new { ip := [127, 0, 0, 1], port := 9000 } 5000 5000 2500 .host 4

theorem adapter_output_kept_quiet :
    ((exec Host.step aBridge quietExit).getD aBridge).passed =
      ((exec Host.step aBridge quietExit).getD aBridge).adapter.wrote := by
  have run : Reaches Host.step Waits aBridge ((exec Host.step aBridge quietExit).getD aBridge) :=
    reaches_of_execIf quietExit (by decide +kernel)
  exact ((adapter_output_kept { ip := [127, 0, 0, 1], port := 9000 } 5000 5000 2500 .host 4).1 _
    run (by decide +kernel) (by decide +kernel)).2

/-- The byte is still in the pipe when handle_connection looks. -/
def hastyExit : List HostEvent :=
  opened ++ [.adapter (.write [0x41]), .adapter .exit, .exitStatus true, .bridge .close]

theorem adapter_output_lost :
    ¬ ∀ (peerAddr : SocketAddr) (timeoutMs closeTimeoutMs keepAliveIntervalMs : UInt32)
      (role : ConnRole) (bufferSize : Nat) (s : Host),
      Reaches Host.step Any (Host.new peerAddr timeoutMs closeTimeoutMs keepAliveIntervalMs role
        bufferSize) s →
      StaysUp s → s.adapter.exited → closes s.bridge.pc → s.passed = s.adapter.wrote := by
  intro claim
  have run : Reaches Host.step Any aBridge ((exec Host.step aBridge hastyExit).getD aBridge) :=
    reaches_of_exec hastyExit (by decide +kernel)
  have kept := claim { ip := [127, 0, 0, 1], port := 9000 } 5000 5000 2500 .host 4 _ run
    (by decide +kernel) (by decide +kernel) (by decide +kernel)
  exact absurd kept (by decide +kernel)

end NcdAdapterOutput
