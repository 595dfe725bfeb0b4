import Ncd.Fleet
import Ncd.QueueOrder

/- The main loop inside the system: what it does for a device while the driver, the readers
   and the other devices go on is a run of the main loop of that device alone. -/
namespace NcdLoopRefinement
open NcdDriver NcdDaemon NcdFlowControl NcdSessions NcdMainLoop Chunks LabelledRuns Simulations
open NcdPipeline (command_none)
open NcdQueueOrder (Conserved conserved_run windowSize)
open NcdFleet (Fleet FleetEvent started started_ranged ofDriver reader_silent fleet_simulates
  Permitted view_select)

def values (bytes : List TaggedByte) : List UInt8 := bytes.map (·.value)

/-- The daemon's view of the device, without the sessions that its bytes come from. -/
def bare (minor : Minor TaggedByte) : Minor UInt8 :=
  { paused := minor.paused
    inflight := minor.inflight
    readPaused := minor.readPaused
    pending := minor.pending.map values }

/-- The main loop numbers the connections of a device itself. -/
def numbered (actors : List Actor) : List Actor :=
  actors.mapIdx fun index actor => { actor with session := index }

/-- Where the main loop stands, and what it knows of the device there. The OPEN_REQ arm counts
    as taken when Device::open returns; a chunk on its way is still the first of the queue. -/
def StandsAt (daemon : DaemonPc TaggedByte) (minor : Minor UInt8) (m : MainLoop) : Prop :=
  match daemon with
  | .select | .answering _ => m.pc = .select ∧ m.minor = minor
  | .opening _ => m.pc = .select ∧ minor = {}
  | .flushing arm => m.pc = .flushing arm ∧ m.minor = minor
  | .sending chunk arm | .notifying chunk arm =>
    m.pc = .flushing arm ∧ m.minor.nextChunk = some (values chunk, minor)

structure SameActors (s : Sessions) (m : MainLoop) : Prop where
  writeTx : m.writeTx = s.writeTx
  actors : m.actors = numbered s.actors

structure Serves (s : Sessions) (m : MainLoop) : Prop extends SameActors s m where
  stands : StandsAt s.flow.daemon (bare s.flow.minor) m

section Pieces

theorem bare_queueShards (queue : List (List TaggedByte)) (data : List TaggedByte) :
    (queueShards queue data).map values = queueShards (queue.map values) (values data) := by
  rw [queueShards, queueShards, List.map_append]
  exact congrArg (queue.map values ++ ·) (chunks_map shardSize TaggedByte.value data)

theorem bare_nextChunk (minor : Minor TaggedByte) : (bare minor).nextChunk =
    minor.nextChunk.map fun next => (values next.1, bare next.2) := by
  unfold Minor.nextChunk bare
  dsimp only
  split
  · rfl
  · cases minor.pending with
    | nil => rfl
    | cons chunk rest =>
      simp only [List.map_cons]
      split <;> rfl

theorem bare_sent (minor : Minor TaggedByte) (chunk : List TaggedByte) :
    bare (minor.sent chunk) = (bare minor).sent (values chunk) := by
  simp [bare, Minor.sent, values]

theorem bare_sync (minor : Minor TaggedByte) (kfifoPaused accepts : Bool) :
    (bare minor).syncDeviceReading kfifoPaused accepts =
      (bare (minor.syncDeviceReading kfifoPaused accepts).1,
        (minor.syncDeviceReading kfifoPaused accepts).2) := by
  have empty : (minor.pending.map values).isEmpty = minor.pending.isEmpty := by
    cases minor.pending <;> rfl
  unfold Minor.syncDeviceReading bare
  dsimp only
  rw [empty]
  split
  · rfl
  · split <;> rfl

theorem numbered_get (actors : List Actor) (index : Nat) : (numbered actors)[index]? =
    actors[index]?.map fun actor => { actor with session := index } := by
  rw [numbered, List.getElem?_mapIdx]

theorem numbered_length (actors : List Actor) : (numbered actors).length = actors.length :=
  List.length_mapIdx

theorem numbered_snoc (actors : List Actor) (actor : Actor) :
    numbered (actors ++ [actor]) =
      numbered actors ++ [{ actor with session := actors.length }] := by
  rw [numbered, List.mapIdx_concat]
  rfl

theorem numbered_set (actors : List Actor) (index : Nat) (actor : Actor) :
    numbered (actors.set index actor) =
      (numbered actors).set index { actor with session := index } := by
  apply List.ext_getElem?
  intro i
  rw [numbered_get, List.getElem?_set, List.getElem?_set, numbered_length, numbered_get]
  by_cases same : index = i
  · subst same
    by_cases inside : index < actors.length
    · simp [inside]
    · simp [inside]
  · simp [same]

theorem numbered_modify (actors : List Actor) (index : Nat) (command : WriteCommand) :
    numbered (actors.modify index fun actor =>
        { actor with commands := actor.commands ++ [command] }) =
      (numbered actors).modify index fun actor =>
        { actor with commands := actor.commands ++ [command] } := by
  apply List.ext_getElem?
  intro i
  rw [numbered_get, List.getElem?_modify, List.getElem?_modify, numbered_get]
  cases actors[i]? with
  | none => rfl
  | some actor =>
    by_cases same : index = i
    · simp [same]
    · simp [same]

/-- A round of connection_run does not look at the number of its connection. -/
theorem step_numbered (actor : Actor) (number : Nat) (sender : Bool) (event : ActorEvent) :
    Actor.step { actor with session := number } sender event =
      (actor.step sender event).map fun after => { after with session := number } := by
  obtain ⟨session, phase, readPaused, commands⟩ := actor
  cases event with
  | forward data => cases phase <;> cases readPaused <;> rfl
  | command written =>
    cases commands with
    | nil => cases phase <;> rfl
    | cons command rest => cases phase <;> cases command <;> rfl
  | orphaned => cases phase <;> cases commands <;> cases sender <;> rfl
  | fails => cases phase <;> cases readPaused <;> rfl
  | closed => cases phase <;> rfl

end Pieces

variable {s s' : Sessions} {m : MainLoop}

theorem same_accepts (same : SameActors s m) : m.accepts = s.accepts := by
  unfold MainLoop.accepts MainLoop.behind Sessions.accepts
  rw [same.writeTx, same.actors]
  cases s.writeTx with
  | none => rfl
  | some index =>
    simp only [Option.bind_some, numbered_get]
    cases s.actors[index]? <;> rfl

theorem same_command (same : SameActors s m) (command : Option WriteCommand) :
    SameActors { s with actors := (s.command command).actors } (m.command command) := by
  rw [← command_keeps]
  unfold MainLoop.command Sessions.command
  rw [same.writeTx]
  cases s.writeTx with
  | none => exact same
  | some index =>
    cases command with
    | none => exact same
    | some command =>
      refine ⟨rfl, ?_⟩
      dsimp only
      rw [same.actors, numbered_modify]

theorem same_sync (same : SameActors s m) {minor : Minor TaggedByte} (known : m.minor = bare minor)
    (kfifoPaused : Bool) :
    SameActors
        { s with actors := (s.command (minor.syncDeviceReading kfifoPaused s.accepts).2).actors }
        (m.sync kfifoPaused) ∧
      (m.sync kfifoPaused).pc = .select ∧
      (m.sync kfifoPaused).minor = bare (minor.syncDeviceReading kfifoPaused s.accepts).1 := by
  have synced := bare_sync minor kfifoPaused s.accepts
  rw [← known, ← same_accepts same] at synced
  unfold MainLoop.sync
  dsimp only
  rw [synced, same_accepts same]
  have given := same_command same (minor.syncDeviceReading kfifoPaused s.accepts).2
  exact ⟨⟨given.writeTx, given.actors⟩, rfl, rfl⟩

def Matched (s' : Sessions) (m : MainLoop) : Prop :=
  Serves s' m ∨ ∃ event m', Any m event ∧ m.step event = some m' ∧ Serves s' m'

theorem matched_aside (serves : Serves s m) (writeTx : s'.writeTx = s.writeTx)
    (actors : s'.actors = s.actors) (daemon : s'.flow.daemon = s.flow.daemon)
    (minor : s'.flow.minor = s.flow.minor) : Matched s' m := by
  refine .inl ⟨⟨serves.writeTx.trans writeTx.symm, ?_⟩, ?_⟩
  · rw [actors]
    exact serves.actors
  · rw [daemon, minor]
    exact serves.stands

theorem stands_at {daemon : DaemonPc TaggedByte} (serves : Serves s m)
    (here : s.flow.daemon = daemon) : StandsAt daemon (bare s.flow.minor) m :=
  here ▸ serves.stands

theorem kfifo_matched {accepts : Bool} {flow : Flow TaggedByte} (serves : Serves s m)
    (permitted : accepts = s.accepts) (moved : s.flow.kfifo accepts = some flow)
    (returned : List (Nat × TaggedByte)) :
    Matched { s with
      flow := flow
      actors := (s.command (s.flow.command (.kfifo accepts))).actors
      returned := returned } m := by
  subst permitted
  unfold Flow.kfifo at moved
  split at moved
  · rename_i rest here queue
    obtain ⟨pc, known⟩ := stands_at serves here
    have given : s.flow.command (.kfifo s.accepts) =
        (Minor.syncDeviceReading { s.flow.minor with paused := true } true s.accepts).2 := by
      simp only [Flow.command, here, queue]
    cases moved
    rw [given]
    have paused : { m.minor with paused := true } = bare { s.flow.minor with paused := true } := by
      rw [known]
      rfl
    have same : SameActors s { m with minor := { m.minor with paused := true } } :=
      ⟨serves.writeTx, serves.actors⟩
    obtain ⟨same, rest', minor⟩ := same_sync same paused true
    refine .inr ⟨.full, _, trivial, ?_, ⟨⟨same.writeTx, same.actors⟩, ?_⟩⟩
    · simp only [MainLoop.step, pc]
    · rw [here]
      exact ⟨rest', minor⟩
  · rename_i rest here queue
    obtain ⟨pc, known⟩ := stands_at serves here
    have given : s.flow.command (.kfifo s.accepts) = none := by
      simp only [Flow.command, here, queue]
    cases moved
    rw [given, command_none]
    refine .inr ⟨.available, { m with
      minor := { m.minor with paused := false, inflight := 0 }, pc := .flushing .available },
      trivial, ?_, ⟨⟨serves.writeTx, serves.actors⟩, rfl, ?_⟩⟩
    · simp only [MainLoop.step, pc]
    · rw [known]
      rfl
  · cases moved

theorem flush_matched {accepts : Bool} {flow : Flow TaggedByte} (serves : Serves s m)
    (permitted : accepts = s.accepts) (moved : s.flow.flush accepts = some flow)
    (returned : List (Nat × TaggedByte)) :
    Matched { s with
      flow := flow
      actors := (s.command (s.flow.command (.flush accepts))).actors
      returned := returned } m := by
  subst permitted
  unfold Flow.flush at moved
  split at moved
  · rename_i arm here
    obtain ⟨pc, known⟩ := stands_at serves here
    have next := bare_nextChunk s.flow.minor
    rw [← known] at next
    split at moved
    · rename_i chunk minor popped
      have given : s.flow.command (.flush s.accepts) = none := by
        simp only [Flow.command, here, popped]
      cases moved
      rw [given, command_none]
      rw [popped] at next
      exact .inl ⟨⟨serves.writeTx, serves.actors⟩, pc, next⟩
    · rename_i done
      have given : s.flow.command (.flush s.accepts) =
          (s.flow.minor.syncDeviceReading (s.flow.kfifoPaused arm) s.accepts).2 := by
        simp only [Flow.command, here, done]
      have paused : m.kfifoPaused arm = s.flow.kfifoPaused arm := by
        cases arm with
        | available => rfl
        | tcp => exact congrArg Minor.paused known
      cases moved
      rw [given]
      rw [done] at next
      obtain ⟨same, rest, minor⟩ := same_sync serves.toSameActors known (s.flow.kfifoPaused arm)
      refine .inr ⟨.settle, _, trivial, ?_, ⟨⟨same.writeTx, same.actors⟩, rest, minor⟩⟩
      simp only [MainLoop.step, pc, MainLoop.settle, next, paused, Option.map_none]
  · cases moved

theorem sent_matched {chunk : List TaggedByte} {arm : Arm} (serves : Serves s m)
    (here : s.flow.daemon = .sending chunk arm ∨ s.flow.daemon = .notifying chunk arm)
    (writeTx : s'.writeTx = s.writeTx) (actors : s'.actors = s.actors)
    (daemon : s'.flow.daemon = .flushing arm)
    (minor : s'.flow.minor = s.flow.minor.sent chunk) : Matched s' m := by
  have stands : m.pc = .flushing arm ∧
      m.minor.nextChunk = some (values chunk, bare s.flow.minor) := by
    rcases here with here | here
    · exact stands_at serves here
    · exact stands_at serves here
  obtain ⟨pc, next⟩ := stands
  refine .inr ⟨.send true, { m with
    minor := (bare s.flow.minor).sent (values chunk), sent := m.sent ++ [values chunk] },
    trivial, ?_, ⟨⟨serves.writeTx.trans writeTx.symm, ?_⟩, ?_⟩⟩
  · simp only [MainLoop.step, pc, MainLoop.send, next, if_true]
  · rw [actors]
    exact serves.actors
  · rw [daemon, minor, bare_sent]
    exact ⟨pc, rfl⟩

theorem reader_matched {event : FlowEvent TaggedByte} {flow : Flow TaggedByte}
    (serves : Serves s m) (own : ofDriver (.flow event) = true)
    (moved : s.flow.step event = some flow) (returned : List (Nat × TaggedByte)) :
    Matched { s with
      flow := flow
      actors := (s.command (s.flow.command event)).actors
      returned := returned } m := by
  rw [reader_silent s.flow own, command_none]
  cases NcdFlowControl.step_change moved with
  | reads | finds | fails | takes | asks | wakes | interrupts | copies | resumes =>
    exact matched_aside serves rfl rfl rfl rfl
  | pauses | resets | queues | pops | settles | enters | passes | notifies => cases own

theorem flow_matched {event : FlowEvent TaggedByte} {flow : Flow TaggedByte}
    (serves : Serves s m) (permitted : s.permits event = true)
    (moved : s.flow.step event = some flow) (returned : List (Nat × TaggedByte)) :
    Matched { s with
      flow := flow
      actors := (s.command (s.flow.command event)).actors
      returned := returned } m := by
  cases event with
  | kfifo accepts => exact kfifo_matched serves (of_decide_eq_true permitted) moved returned
  | flush accepts => exact flush_matched serves (of_decide_eq_true permitted) moved returned
  | tcp data => cases permitted
  | data memory =>
    have silent : s.flow.command (.data memory) = none := rfl
    rw [silent, command_none]
    cases NcdFlowControl.step_change moved with
    | enters here =>
      have stands := stands_at serves here
      exact .inl ⟨⟨serves.writeTx, serves.actors⟩, stands⟩
    | passes here => exact sent_matched serves (.inl here) rfl rfl rfl rfl
  | full =>
    have silent : s.flow.command .full = none := rfl
    rw [silent, command_none]
    cases NcdFlowControl.step_change moved with
    | notifies here => exact sent_matched serves (.inr here) rfl rfl rfl rfl
  | read | lock | sendResume | wake | signal | copy | resume =>
    exact reader_matched serves rfl moved returned

theorem connects_matched {session : Nat} (serves : Serves s m)
    (here : s.flow.daemon = .opening session) :
    Matched { s with
      actors := s.actors ++ [{ session := session }]
      writeTx := some s.actors.length
      flow := { s.flow with daemon := .answering true } } m := by
  obtain ⟨pc, cleared⟩ := stands_at serves here
  have length := congrArg List.length serves.actors
  rw [numbered_length] at length
  refine .inr ⟨.openReq true, m.openReq true, trivial, ?_, ⟨⟨?_, ?_⟩, pc, cleared.symm⟩⟩
  · simp only [MainLoop.step, pc]
  · exact congrArg some length
  · rw [numbered_snoc, ← serves.actors, ← length]
    rfl

/-- An attempt to open that fails has still taken the OPEN_REQ. -/
theorem misses_matched {session : Nat} (serves : Serves s m)
    (here : s.flow.daemon = .opening session) :
    Matched { s with flow := { s.flow with daemon := .answering false } } m := by
  obtain ⟨pc, cleared⟩ := stands_at serves here
  refine .inr ⟨.openReq false, m.openReq false, trivial, ?_,
    ⟨⟨serves.writeTx, serves.actors⟩, pc, cleared.symm⟩⟩
  simp only [MainLoop.step, pc]

theorem acts_matched {index : Nat} {event : ActorEvent} {actor after : Actor}
    (serves : Serves s m) (there : s.actors[index]? = some actor)
    (round : actor.step (s.writeTx = some index) event = some after) :
    Matched { s with
      actors := s.actors.set index after
      tcp := s.tcp ++ forwarded actor.session event } m := by
  have numbers := numbered_get s.actors index
  rw [← serves.actors, there] at numbers
  have moved : m.actorStep index event =
      some { m with actors := m.actors.set index { after with session := index } } := by
    unfold MainLoop.actorStep
    rw [numbers]
    dsimp only [Option.map_some]
    rw [serves.writeTx, step_numbered, round]
    rfl
  refine .inr ⟨.actor index event,
    { m with actors := m.actors.set index { after with session := index } }, trivial, ?_,
    ⟨⟨serves.writeTx, ?_⟩, serves.stands⟩⟩
  · rw [← moved]
    unfold MainLoop.step
    cases m.pc <;> rfl
  · rw [serves.actors, numbered_set]

theorem takesData_matched {bytes : List UInt8} {rest : List DriverMsg} (serves : Serves s m)
    (here : s.flow.daemon = .select) :
    Matched { s with
      actors := (s.command (some (.data bytes))).actors
      flow := { s.flow with queue := rest } } m := by
  obtain ⟨pc, known⟩ := stands_at serves here
  have same := same_command serves.toSameActors (some (.data bytes))
  have kept := MainLoop.command_keeps m (some (.data bytes))
  refine .inr ⟨.data bytes, m.command (some (.data bytes)), trivial, ?_,
    ⟨⟨same.writeTx, same.actors⟩, ?_⟩⟩
  · simp only [MainLoop.step, pc]
  · rw [kept]
    dsimp only
    rw [here]
    exact ⟨pc, known⟩

theorem takesClose_matched {rest : List DriverMsg} (serves : Serves s m)
    (here : s.flow.daemon = .select) :
    Matched { s with
      actors := (s.command (some .close)).actors
      writeTx := none
      flow := { s.flow with queue := rest, minor := s.flow.minor.cleared } } m := by
  obtain ⟨pc, known⟩ := stands_at serves here
  have same := same_command serves.toSameActors (some .close)
  have kept := MainLoop.command_keeps m (some .close)
  refine .inr ⟨.closeReq, m.closeReq, trivial, ?_, ⟨⟨rfl, same.actors⟩, ?_⟩⟩
  · simp only [MainLoop.step, pc]
  · rw [MainLoop.closeReq, kept]
    dsimp only
    rw [here]
    exact ⟨pc, rfl⟩

theorem takesTcp_matched {data : List TaggedByte} {rest : List (List TaggedByte)}
    {flow : Flow TaggedByte} (serves : Serves s m) (moved : s.flow.step (.tcp data) = some flow) :
    Matched { s with flow := flow, tcp := rest } m := by
  cases NcdFlowControl.step_change moved with
  | queues here =>
    obtain ⟨pc, known⟩ := stands_at serves here
    refine .inr ⟨.tcp (values data), { m with
        minor := { m.minor with pending := queueShards m.minor.pending (values data) }
        received := m.received ++ values data
        pc := .flushing .tcp },
      trivial, ?_, ⟨⟨serves.writeTx, serves.actors⟩, rfl, ?_⟩⟩
    · simp only [MainLoop.step, pc]
    · rw [known]
      simp only [bare, bare_queueShards]

theorem step_matched {event : SessionEvent} (serves : Serves s m)
    (step : s.step event = some s') : Matched s' m := by
  cases session_move step with
  | opens | asks | unsent | succeeds | refused | interrupted | writes | closes | unclosed
  | released => exact matched_aside serves rfl rfl rfl rfl
  | flows permitted moved => exact flow_matched serves permitted moved _
  | takesOpen here =>
    obtain ⟨pc, known⟩ := stands_at serves here
    exact .inl ⟨⟨serves.writeTx, serves.actors⟩, pc, rfl⟩
  | connects here => exact connects_matched serves here
  | misses here => exact misses_matched serves here
  | replies here =>
    have stands := stands_at serves here
    exact .inl ⟨⟨serves.writeTx, serves.actors⟩, stands⟩
  | takesData here => exact takesData_matched serves here
  | takesClose here => exact takesClose_matched serves here
  | takesTcp tcp moved => exact takesTcp_matched serves moved
  | acts there round => exact acts_matched serves there round

theorem created_serves : Serves NcdSessions.created NcdMainLoop.created :=
  ⟨⟨rfl, rfl⟩, rfl, rfl⟩

theorem sessions_simulate : Simulation Sessions.step Any MainLoop.step Any Serves where
  moves serves _ step := step_matched serves step

/-- What the device in the system has is at most what the main loop alone has. -/
theorem serves_less (serves : Serves s m) :
    (∀ chunk ∈ s.flow.minor.pending, values chunk ∈ m.minor.pending) ∧
      s.flow.minor.inflight ≤ m.minor.inflight := by
  have queued {chunk : List TaggedByte} (member : chunk ∈ s.flow.minor.pending) :
      values chunk ∈ (bare s.flow.minor).pending := List.mem_map_of_mem member
  have less : (∀ chunk ∈ (bare s.flow.minor).pending, chunk ∈ m.minor.pending) ∧
      (bare s.flow.minor).inflight ≤ m.minor.inflight := by
    have stands := serves.stands
    cases here : s.flow.daemon with
    | select | answering | flushing =>
      rw [here] at stands
      rw [stands.2]
      exact ⟨fun _ member => member, Nat.le_refl _⟩
    | opening =>
      rw [here] at stands
      rw [stands.2]
      exact ⟨nofun, Nat.zero_le _⟩
    | sending chunk arm | notifying chunk arm =>
      rw [here] at stands
      obtain ⟨_, _, queue, rest⟩ := nextChunk_some stands.2
      rw [queue, rest]
      exact ⟨fun _ member => List.mem_cons_of_mem _ member, Nat.le_refl _⟩
  exact ⟨fun chunk member => less.1 _ (queued member), less.2⟩

structure Bounded (minor : Minor TaggedByte) : Prop where
  chunks : ∀ chunk ∈ minor.pending, chunk ≠ [] ∧ chunk.length ≤ shardSize
  budget : minor.inflight ≤ windowSize

theorem serves_bounded (serves : Serves s m) (kept : Conserved m) : Bounded s.flow.minor := by
  obtain ⟨queued, budget⟩ := serves_less serves
  constructor
  · intro chunk member
    obtain ⟨filled, short⟩ := kept.chunks _ (List.mem_append_right _ (queued chunk member))
    rw [values, List.length_map] at short
    exact ⟨fun empty => filled (empty ▸ rfl), short⟩
  · exact Nat.le_trans budget kept.budget

theorem sessions_served (run : Reaches Sessions.step Any NcdSessions.created s) :
    ∃ m, Reaches MainLoop.step Any NcdMainLoop.created m ∧ Serves s m :=
  sessions_simulate.reaches run created_serves

/-- The main loop of one device, under any sequence of its events, does what the main loop does
    for the device in the system, with the driver and the readers, and among other devices. So
    what holds of all runs of the former holds there: the queue of every device is cut into
    chunks, and inflight fits the fifo of the kernel. -/
theorem main_loop_refined (count minor : Nat) :
    (∀ s, Reaches Sessions.step Any NcdSessions.created s →
      ∃ m, Reaches MainLoop.step Any NcdMainLoop.created m ∧ Serves s m) ∧
    ∀ f, Reaches Fleet.step Any (started count) f →
      (∃ m, Reaches MainLoop.step Any NcdMainLoop.created m ∧ Serves (f.view minor) m) ∧
        Bounded (f.cells minor).minor := by
  refine ⟨fun s run => sessions_served run, fun f run => ?_⟩
  have first : (started count).view minor = NcdSessions.created := view_select rfl minor
  have permitted : Reaches Fleet.step (Permitted minor Any) (started count) f :=
    run.mono fun _ _ _ _ _ _ => trivial
  obtain ⟨_, seen, _, rfl⟩ :=
    (fleet_simulates minor Any).reaches permitted ⟨started_ranged count, first⟩
  obtain ⟨m, alone, serves⟩ := sessions_served seen
  exact ⟨⟨m, alone, serves⟩, serves_bounded serves (conserved_run alone)⟩

/-- A chunk of device 1 is on its way to the kernel, while device 0 waits for its own. -/
def firstChunk : List FleetEvent :=
  [.driver 0 .ncdOpen, .driver 0 (.sendOpenReq true), .driver 1 .ncdOpen,
    .driver 1 (.sendOpenReq true), .kernel, .connect true, .connRes, .kernel, .connect true,
    .connRes, .actor 1 0 (.forward [0x62]), .actor 0 0 (.forward [0x61]), .tcp, .flush]

def midSend : Fleet := (exec Fleet.step (started 2) firstChunk).getD (started 2)

theorem first_chunk_served : midSend.daemon = .sending [⟨1, 0x62⟩] .tcp ∧
    ∃ m, Reaches MainLoop.step Any NcdMainLoop.created m ∧ Serves (midSend.view 1) m := by
  have runs : (exec Fleet.step (started 2) firstChunk).isSome = true := by decide +kernel
  obtain ⟨f, reached⟩ := Option.isSome_iff_exists.mp runs
  have same : midSend = f := by rw [midSend, reached, Option.getD_some]
  have refined := (main_loop_refined 2 1).2 f (reaches_of_exec _ reached)
  exact ⟨by decide +kernel, same ▸ refined.1⟩

end NcdLoopRefinement
