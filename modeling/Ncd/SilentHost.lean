import Ncd.Fleet
import Ncd.Handshake

/- A host that accepts the TCP connection of a device and then says nothing. Device::open
   awaits its ControlHelloAck without a deadline, and the main loop awaits Device::open. -/
namespace NcdSilentHost
open NcdDriver NcdDaemon NcdFlowControl NcdSessions NcdFleet LabelledRuns
open NcdPacket NcdConnection NcdHandler NcdTaskMoves NcdTaskSteps NcdBooks NcdPanicFree NcdHandshake
open NcdIsolation (kbufRead)

/-- The daemon, and the connection that Device::open has made last. -/
structure Daemon where
  fleet : Fleet
  opening : Endpoint

inductive DaemonEvent where
  | fleet (event : FleetEvent)
  | opening (event : TaskEvent)
  deriving DecidableEq, Repr

def result : Pc → Option Bool
  | .connected => some true
  | .failed _ => some false
  | _ => none

/-- Device::open returns what handshake has returned. -/
def Daemon.step (d : Daemon) : DaemonEvent → Option Daemon
  | .fleet event =>
    match event with
    | .connect success =>
      if result d.opening.task.pc = some success then
        (d.fleet.step (.connect success)).map fun fleet => { d with fleet := fleet }
      else none
    | event => (d.fleet.step event).map fun fleet => { d with fleet := fleet }
  | .opening event =>
    if phase d.opening.task.pc = .handshake then
      (d.opening.step (.task event)).map fun opening => { d with opening := opening }
    else none

/-- A byte, an end of stream or an error comes from the host. -/
def speaks : DaemonEvent → Bool
  | .opening (.read _) | .opening .ioError => true
  | _ => false

def Silent (_ : Daemon) (event : DaemonEvent) : Prop := speaks event = false

instance (d : Daemon) (event : DaemonEvent) : Decidable (Silent d event) :=
  inferInstanceAs (Decidable (_ = _))

structure Unheard (e : Endpoint) : Prop where
  awaits : e.task.pc = .start ∨ (∃ rest, e.task.pc = .sending rest .helloSent) ∨
    e.task.pc = .awaitHelloAck
  nothing : e.task.conn.io.packetBuffer = []
  device : e.task.conn.role = .device
  alive : e.channels.handlerAlive = true

theorem unheard_result {e : Endpoint} (unheard : Unheard e) : result e.task.pc = none := by
  rcases unheard.awaits with here | ⟨rest, here⟩ | here <;> rw [here] <;> rfl

theorem new_unheard (peerAddr : SocketAddr)
    (timeoutMs closeTimeoutMs keepAliveIntervalMs : UInt32) (bufferSize : Nat) :
    Unheard (Endpoint.new peerAddr timeoutMs closeTimeoutMs keepAliveIntervalMs .device
      bufferSize) :=
  ⟨.inl rfl, rfl, rfl, rfl⟩

theorem task_unheard {e : Endpoint} {t : Task} {ch : Channels} {event : TaskEvent}
    (unheard : Unheard e) (silent : ∀ chunk, event ≠ .read chunk) (sound : event ≠ .ioError)
    (step : e.task.step e.channels event = some (t, ch)) :
    Unheard { e with task := t, channels := ch } := by
  have place := takes_place (task_move step)
  have early : event = .begin ∨ (∃ n, event = .wrote n) ∨ event = .packet ∨ event = .abort ∨
      event = .pass := by
    rcases unheard.awaits with here | ⟨rest, here⟩ | here <;> rw [here] at place
    · cases event with
      | begin => exact .inl rfl
      | abort => simp
      | pass => simp
      | _ => cases place
    · cases event with
      | wrote n => exact .inr (.inl ⟨n, rfl⟩)
      | ioError => exact absurd rfl sound
      | abort => simp
      | pass => simp
      | _ => cases place
    · cases event with
      | read chunk => exact absurd rfl (silent chunk)
      | packet => simp
      | ioError => exact absurd rfl sound
      | abort => simp
      | pass => simp
      | _ => cases place
  have sent : ∀ {rest next}, e.task.pc = .sending rest next → next = .helloSent := by
    intro rest next here
    rcases unheard.awaits with other | ⟨rest', same⟩ | other
    · simp [here] at other
    · exact (Pc.sending.inj (here.symm.trans same)).2
    · simp [here] at other
  have move := task_move step
  rcases early with rfl | ⟨n, rfl⟩ | rfl | rfl | rfl
  · cases move with
    | saysHello =>
      rw [send_eq]
      exact ⟨.inr (.inl ⟨_, rfl⟩), unheard.nothing, unheard.device, unheard.alive⟩
    | awaitsHello here role => simp [unheard.device] at role
    | _ => contradiction
  · cases move with
    | writes here =>
      exact ⟨.inr (.inl ⟨_, by rw [sent here]⟩), unheard.nothing, unheard.device, unheard.alive⟩
    | resumes here =>
      rw [sent here]
      exact ⟨.inr (.inr rfl), unheard.nothing, unheard.device, unheard.alive⟩
    | _ => contradiction
  · have nothing : e.task.popPacket = none := by simp [Task.popPacket, unheard.nothing]
    simp [Task.step, nothing] at step
  · simp [Task.step, unheard.alive] at step
  · cases step
    exact ⟨unheard.awaits, unheard.nothing, unheard.device, unheard.alive⟩

theorem opening_unheard {e e' : Endpoint} {event : TaskEvent} (unheard : Unheard e)
    (silent : ∀ chunk, event ≠ .read chunk) (sound : event ≠ .ioError)
    (step : e.step (.task event) = some e') : Unheard e' := by
  obtain ⟨_, moved⟩ := Option.ite_none_left_eq_some.mp step
  obtain ⟨⟨t, ch⟩, next, rfl⟩ := Option.map_eq_some_iff.mp moved
  have after := task_unheard unheard silent sound next
  exact ⟨after.awaits, after.nothing, after.device, after.alive⟩

/-- The bytes of a device that its reads have returned or can still return. -/
def due (c : Cell) : List TaggedByte :=
  c.returned.map Prod.snd ++ (kbufRead c.reader ++ contents c.dev)

structure Unserved (c c' : Cell) : Prop where
  minor : c'.minor = c.minor
  writeTx : c'.writeTx = c.writeTx
  bytes : (due c').Sublist (due c)
  answer : c'.connStatus ≠ .waiting → c'.connStatus = c.connStatus
  opened : c'.user = .opened → c.user = .opened ∨ c.connStatus = .success

theorem unserved_refl (c : Cell) : Unserved c c :=
  ⟨rfl, rfl, List.Sublist.refl _, fun _ => rfl, .inl⟩

theorem Unserved.trans {c c' c'' : Cell} (first : Unserved c c') (second : Unserved c' c'') :
    Unserved c c'' where
  minor := second.minor.trans first.minor
  writeTx := second.writeTx.trans first.writeTx
  bytes := second.bytes.trans first.bytes
  answer := fun there => by
    have same := second.answer there
    exact same.trans (first.answer (same ▸ there))
  opened := fun opened => by
    rcases second.opened opened with before | success
    · exact first.opened before
    · exact .inr ((first.answer (by simp [success])).symm.trans success)

theorem reader_due {s : Sessions} {flow : Flow TaggedByte} {event : FlowEvent TaggedByte}
    (own : ofDriver (.flow event) = true) (step : s.flow.step event = some flow) :
    flow.minor = s.flow.minor ∧
      (s.copied event ++ (kbufRead flow.reader ++ contents flow.dev)).Sublist
        (kbufRead s.flow.reader ++ contents s.flow.dev) := by
  cases event with
  | read count | sendResume | signal | resume =>
    simp only [Flow.step] at step
    split at step <;> cases step
    rename_i here
    exact ⟨rfl, by simp [Sessions.copied, kbufRead, here]⟩
  | wake =>
    simp only [Flow.step] at step
    split at step
    · rename_i count here
      obtain ⟨_, is⟩ := Option.ite_none_left_eq_some.mp step
      cases is
      exact ⟨rfl, by simp [Sessions.copied, kbufRead, here]⟩
    · cases step
  | lock memory =>
    simp only [Flow.step, Flow.lock] at step
    split at step
    · rename_i count here
      split at step
      · cases step
        exact ⟨rfl, by simp [Sessions.copied, kbufRead, here]⟩
      · split at step
        · cases step
          exact ⟨rfl, by simp [Sessions.copied, kbufRead, here]⟩
        · cases step
          exact ⟨rfl, by simp [Sessions.copied, kbufRead, here, ncdReadLocked_contents]⟩
    · cases step
  | copy delivered =>
    simp only [Flow.step] at step
    split at step
    · rename_i kbuf resume here
      cases step
      refine ⟨rfl, ?_⟩
      have empty : kbufRead (if (kbuf.isEmpty || delivered) && resume then ReaderPc.resuming
          else .idle) = ([] : List TaggedByte) := by split <;> rfl
      have held : kbufRead s.flow.reader = kbuf := by rw [here]; rfl
      dsimp only
      rw [empty, held]
      cases delivered <;> simp [Sessions.copied, here]
    · cases step
  | kfifo | tcp | flush | data | full => cases own

theorem driver_unserved {c : Cell} {event : SessionEvent} {after : Sessions}
    (own : ofDriver event = true) (step : (c.under .select [] []).step event = some after) :
    Unserved c (.of after) := by
  have cleared (d : NcdDevice TaggedByte) : contents (ncdClearBuffers d) = [] := rfl
  cases session_move step with
  | opens | released =>
    exact ⟨rfl, rfl, by simp [due, Cell.of, Cell.under, cleared], by simp [Cell.of],
      by simp [Cell.of]⟩
  | asks | unsent | refused | closes | unclosed =>
    exact ⟨rfl, rfl, List.Sublist.refl _, fun _ => rfl, by simp [Cell.of]⟩
  | succeeds here status =>
    exact ⟨rfl, rfl, List.Sublist.refl _, fun _ => rfl, fun _ => .inr status⟩
  | interrupted =>
    exact ⟨rfl, rfl, List.Sublist.refl _, by simp [Cell.of], by simp [Cell.of]⟩
  | writes => exact ⟨rfl, rfl, List.Sublist.refl _, fun _ => rfl, .inl⟩
  | flows permitted next =>
    obtain ⟨minor, bytes⟩ := reader_due own next
    rw [reader_silent _ own, NcdPipeline.command_none]
    refine ⟨minor, rfl, ?_, fun _ => rfl, .inl⟩
    simp only [due, Cell.of, List.map_append, List.map_map, List.append_assoc]
    exact (List.Sublist.refl _).append (by simpa [Function.comp_def, Cell.under] using bytes)
  | takesOpen | connects | misses | replies | takesData | takesClose | takesTcp | acts => cases own

/-- The main loop is still in Device::open, and what is sent to it only piles up. -/
structure Held (session : Nat) (f f' : Fleet) : Prop where
  opening : f'.daemon = .opening session
  queue : f.queue <+: f'.queue
  tcp : f.tcp <+: f'.tcp
  cells : ∀ minor, Unserved (f.cells minor) (f'.cells minor)

theorem Held.trans {session : Nat} {f f' f'' : Fleet} (first : Held session f f')
    (second : Held session f' f'') : Held session f f'' :=
  ⟨second.opening, first.queue.trans second.queue, first.tcp.trans second.tcp,
    fun minor => (first.cells minor).trans (second.cells minor)⟩

theorem driver_held {session minor : Nat} {f f' : Fleet} {event : SessionEvent}
    (opening : f.daemon = .opening session) (step : f.driver minor event = some f') :
    Held session f f' := by
  obtain ⟨both, moved⟩ := Option.ite_none_right_eq_some.mp step
  rw [Bool.and_eq_true] at both
  obtain ⟨after, next, rfl⟩ := Option.map_eq_some_iff.mp moved
  refine ⟨opening, List.prefix_append _ _, List.prefix_refl _, fun m => ?_⟩
  by_cases same : m = minor
  · subst same
    simpa [Fleet.setCell] using driver_unserved both.2 next
  · simpa [Fleet.setCell, same] using unserved_refl _

theorem actor_held {session minor index : Nat} {f f' : Fleet} {event : ActorEvent}
    (opening : f.daemon = .opening session) (step : f.actor minor index event = some f') :
    Held session f f' := by
  unfold Fleet.actor at step
  dsimp only at step
  split at step
  · obtain ⟨actor, _, rfl⟩ := Option.map_eq_some_iff.mp step
    refine ⟨opening, List.prefix_refl _, List.prefix_append _ _, fun m => ?_⟩
    by_cases same : m = minor
    · subst same
      simp only [Fleet.setCell, Function.update_self]
      exact ⟨rfl, rfl, List.Sublist.refl _, fun _ => rfl, .inl⟩
    · simpa [Fleet.setCell, same] using unserved_refl _
  · cases step

/-- Only a connect takes the main loop out of Device::open. -/
theorem fleet_held {session : Nat} {f f' : Fleet} {event : FleetEvent}
    (opening : f.daemon = .opening session) (other : ∀ success, event ≠ .connect success)
    (step : f.step event = some f') : Held session f f' := by
  cases event with
  | driver minor event => exact driver_held opening step
  | actor minor index event => exact actor_held opening step
  | connect success => exact absurd rfl (other success)
  | kernel =>
    have step := (Option.ite_none_left_eq_some.mp step).2
    simp [Fleet.kernel, opening] at step
  | tcp =>
    have step := (Option.ite_none_left_eq_some.mp step).2
    simp [Fleet.takeTcp, opening] at step
  | connRes => simp [Fleet.step, Fleet.connRes, opening] at step
  | flush => simp [Fleet.step, Fleet.flush, opening] at step
  | data memory => simp [Fleet.step, Fleet.data, opening] at step
  | full => simp [Fleet.step, Fleet.full, opening] at step

theorem step_held {session : Nat} {d d' : Daemon} {event : DaemonEvent}
    (unheard : Unheard d.opening) (opening : d.fleet.daemon = .opening session)
    (silent : Silent d event) (step : d.step event = some d') :
    Unheard d'.opening ∧ Held session d.fleet d'.fleet := by
  cases event with
  | fleet event =>
    have other (success : Bool) : event ≠ .connect success := by
      rintro rfl
      simp [Daemon.step, unheard_result unheard] at step
    have moved : (d.fleet.step event).map (fun fleet => { d with fleet := fleet }) = some d' := by
      cases event with
      | connect success => exact absurd rfl (other success)
      | _ => exact step
    obtain ⟨f', next, rfl⟩ := Option.map_eq_some_iff.mp moved
    exact ⟨unheard, fleet_held opening other next⟩
  | opening event =>
    obtain ⟨_, moved⟩ := Option.ite_none_right_eq_some.mp step
    obtain ⟨e', next, rfl⟩ := Option.map_eq_some_iff.mp moved
    refine ⟨opening_unheard unheard ?_ ?_ next, opening, List.prefix_refl _, List.prefix_refl _,
      fun _ => unserved_refl _⟩
    · rintro chunk rfl
      cases silent
    · rintro rfl
      cases silent

/-- As long as the host of one device says nothing, however long that is, the daemon serves no
    device: it takes no message and no data, no device gets a byte that its driver did not
    have, and no other open succeeds. -/
theorem silent_host_stops_all {d d' : Daemon} {session : Nat} {peerAddr : SocketAddr}
    {timeoutMs closeTimeoutMs keepAliveIntervalMs : UInt32} {bufferSize : Nat}
    (opening : d.fleet.daemon = .opening session)
    (made : d.opening = Endpoint.new peerAddr timeoutMs closeTimeoutMs keepAliveIntervalMs
      .device bufferSize)
    (run : Reaches Daemon.step Silent d d') :
    d'.fleet.daemon = .opening session ∧ d.fleet.queue <+: d'.fleet.queue ∧
      d.fleet.tcp <+: d'.fleet.tcp ∧
      ∀ minor, Unserved (d.fleet.cells minor) (d'.fleet.cells minor) := by
  have start : Unheard d.opening ∧ Held session d.fleet d.fleet :=
    ⟨made ▸ new_unheard _ _ _ _ _, opening, List.prefix_refl _, List.prefix_refl _,
      fun _ => unserved_refl _⟩
  have held := run.keeps (I := fun x => Unheard x.opening ∧ Held session d.fleet x.fleet)
    (fun before silent step => by
      obtain ⟨unheard, now⟩ := step_held before.1 before.2.opening silent step
      exact ⟨unheard, before.2.trans now⟩) start
  exact ⟨held.2.opening, held.2.queue, held.2.tcp, held.2.cells⟩

def openingFirst : Fleet :=
  (exec Fleet.step (started 2) [.driver 0 .ncdOpen, .driver 0 (.sendOpenReq true), .kernel]).getD
    (started 2)

def atFirstHost : Daemon :=
  { fleet := openingFirst
    opening := Endpoint.new ⟨[192, 168, 1, 100], 8080⟩ 5000 5000 2500 .device 16 }

/-- The hello goes out, the clock runs, and device 1 is opened. -/
def secondWaits : List DaemonEvent :=
  [.opening .begin, .opening (.wrote 12), .opening .pass, .fleet (.driver 1 .ncdOpen),
    .fleet (.driver 1 (.sendOpenReq true)), .opening .pass]

theorem second_device_waits :
    ∃ d, execIf Daemon.step Silent atFirstHost secondWaits = some d ∧
      (d.fleet.cells 1).user = .connecting ∧ (d.fleet.cells 1).minor = {} := by
  refine ⟨_, rfl, rfl, ?_⟩
  have opening : atFirstHost.fleet.daemon = .opening 1 := rfl
  have stopped := silent_host_stops_all opening rfl
    (reaches_of_execIf secondWaits (rfl : execIf Daemon.step Silent atFirstHost secondWaits = _))
  exact (stopped.2.2.2 1).minor

end NcdSilentHost
