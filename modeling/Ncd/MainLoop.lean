import Ncd.Sessions

/- The main loop of ncdd for one device, under any sequence of its events: what the kernel
   asks for, TCP data of any length, every send to the kernel succeeding or failing, and
   the rounds of the actors in between. -/
namespace NcdMainLoop
open NcdDaemon NcdFlowControl NcdSessions LabelledRuns

inductive LoopPc where
  | select
  | flushing (arm : Arm)
  deriving DecidableEq, Repr

/-- received and sent only record, since the last OPEN_REQ or CLOSE_REQ, the TCP data and
    the chunks that went to the kernel. -/
structure MainLoop where
  minor : Minor UInt8 := {}
  pc : LoopPc := .select
  writeTx : Option Nat := none
  actors : List Actor := []
  received : List UInt8 := []
  sent : List (List UInt8) := []
  deriving DecidableEq, Repr

/-- send: a round of flush_device that gets to send_data_to_kernel. settle: the loop of
    flush_device ends by itself. -/
inductive LoopEvent where
  | openReq (connected : Bool)
  | data (bytes : List UInt8)
  | closeReq
  | full
  | available
  | tcp (data : List UInt8)
  | send (succeeds : Bool)
  | settle
  | actor (index : Nat) (event : ActorEvent)
  deriving DecidableEq, Repr

def MainLoop.behind (s : MainLoop) : Option Actor := s.writeTx.bind (s.actors[·]?)

def MainLoop.accepts (s : MainLoop) : Bool :=
  match s.behind with
  | some actor => actor.phase ≠ .finished
  | none => false

def MainLoop.command (s : MainLoop) (command : Option WriteCommand) : MainLoop :=
  match s.writeTx, command with
  | some index, some command =>
    { s with
      actors := s.actors.modify index fun actor =>
        { actor with commands := actor.commands ++ [command] } }
  | _, _ => s

def MainLoop.sync (s : MainLoop) (kfifoPaused : Bool) : MainLoop :=
  let synced := s.minor.syncDeviceReading kfifoPaused s.accepts
  { s.command synced.2 with minor := synced.1, pc := .select }

def MainLoop.kfifoPaused (s : MainLoop) : Arm → Bool
  | .available => false
  | .tcp => s.minor.paused

def MainLoop.cleared (s : MainLoop) : MainLoop :=
  { s with minor := s.minor.cleared, received := [], sent := [] }

/-- The OPEN_REQ arm; connected says what Device::open has returned. -/
def MainLoop.openReq (s : MainLoop) (connected : Bool) : MainLoop :=
  let s := s.cleared
  if connected then
    { s with
      actors := s.actors ++ [{ session := s.actors.length }]
      writeTx := some s.actors.length }
  else s

def MainLoop.closeReq (s : MainLoop) : MainLoop :=
  { (s.command (some .close)).cleared with writeTx := none }

/-- A round of flush_device: pop_front, then the send. A chunk that was not sent goes back
    to the front, and the loop ends. -/
def MainLoop.send (s : MainLoop) (arm : Arm) (succeeds : Bool) : Option MainLoop :=
  match s.minor.nextChunk with
  | none => none
  | some (chunk, minor) =>
    if succeeds then some { s with minor := minor.sent chunk, sent := s.sent ++ [chunk] }
    else
      let s := { s with minor := { minor with pending := chunk :: minor.pending } }
      some (s.sync (s.kfifoPaused arm))

def MainLoop.settle (s : MainLoop) (arm : Arm) : Option MainLoop :=
  match s.minor.nextChunk with
  | none => some (s.sync (s.kfifoPaused arm))
  | some _ => none

def MainLoop.actorStep (s : MainLoop) (index : Nat) (event : ActorEvent) : Option MainLoop :=
  match s.actors[index]? with
  | some actor =>
    (actor.step (s.writeTx = some index) event).map fun after =>
      { s with actors := s.actors.set index after }
  | none => none

def MainLoop.step (s : MainLoop) (event : LoopEvent) : Option MainLoop :=
  match s.pc, event with
  | _, .actor index event => s.actorStep index event
  | .select, .openReq connected => some (s.openReq connected)
  | .select, .data bytes => some (s.command (some (.data bytes)))
  | .select, .closeReq => some s.closeReq
  | .select, .full => some ({ s with minor := { s.minor with paused := true } }.sync true)
  | .select, .available =>
    some { s with
      minor := { s.minor with paused := false, inflight := 0 }, pc := .flushing .available }
  | .select, .tcp data =>
    some { s with
      minor := { s.minor with pending := queueShards s.minor.pending data }
      received := s.received ++ data
      pc := .flushing .tcp }
  | .flushing arm, .send succeeds => s.send arm succeeds
  | .flushing arm, .settle => s.settle arm
  | _, _ => none

def created : MainLoop := {}

def LoopEvent.resets : LoopEvent → Bool
  | .openReq _ => true
  | .closeReq => true
  | _ => false

def LoopEvent.restarts : LoopEvent → Bool
  | .available => true
  | event => event.resets

inductive Change (s : MainLoop) : LoopEvent → MainLoop → Prop where
  | acts {index : Nat} {event : ActorEvent} {actor after : Actor}
      (there : s.actors[index]? = some actor)
      (round : actor.step (s.writeTx = some index) event = some after) :
      Change s (.actor index event) { s with actors := s.actors.set index after }
  | opens {connected : Bool} (here : s.pc = .select) :
      Change s (.openReq connected) (s.openReq connected)
  | writes {bytes : List UInt8} (here : s.pc = .select) :
      Change s (.data bytes) (s.command (some (.data bytes)))
  | closes (here : s.pc = .select) : Change s .closeReq s.closeReq
  | pauses (here : s.pc = .select) :
      Change s .full ({ s with minor := { s.minor with paused := true } }.sync true)
  | resumes (here : s.pc = .select) :
      Change s .available { s with
        minor := { s.minor with paused := false, inflight := 0 }, pc := .flushing .available }
  | queues {data : List UInt8} (here : s.pc = .select) :
      Change s (.tcp data) { s with
        minor := { s.minor with pending := queueShards s.minor.pending data }
        received := s.received ++ data
        pc := .flushing .tcp }
  | sends {arm : Arm} {chunk : List UInt8} {rest : List (List UInt8)}
      (here : s.pc = .flushing arm) (running : s.minor.paused = false)
      (budget : s.minor.inflight ≤ fifoHighWatermark) (queue : s.minor.pending = chunk :: rest) :
      Change s (.send true) { s with
        minor := { s.minor with
          pending := rest, inflight := s.minor.inflight + chunk.length }
        sent := s.sent ++ [chunk] }
  | fails {arm : Arm} (here : s.pc = .flushing arm) (running : s.minor.paused = false) :
      Change s (.send false) (s.sync (s.kfifoPaused arm))
  | settles {arm : Arm} (here : s.pc = .flushing arm) (done : s.minor.nextChunk = none) :
      Change s .settle (s.sync (s.kfifoPaused arm))

theorem actor_change {s s' : MainLoop} {index : Nat} {event : ActorEvent}
    (step : s.actorStep index event = some s') : Change s (.actor index event) s' := by
  unfold MainLoop.actorStep at step
  split at step
  · rename_i actor there
    rw [Option.map_eq_some_iff] at step
    obtain ⟨after, round, rfl⟩ := step
    exact .acts there round
  · cases step

theorem send_change {s s' : MainLoop} {arm : Arm} {succeeds : Bool} (here : s.pc = .flushing arm)
    (step : s.send arm succeeds = some s') : Change s (.send succeeds) s' := by
  unfold MainLoop.send at step
  split at step
  · cases step
  · rename_i chunk minor next
    obtain ⟨running, budget, queue, same⟩ := nextChunk_some next
    cases succeeds with
    | true =>
      cases step
      rw [same]
      exact .sends here running budget queue
    | false =>
      have back : { minor with pending := chunk :: minor.pending } = s.minor := by
        rw [same, ← queue]
      cases step
      rw [back]
      exact .fails here running

theorem settle_change {s s' : MainLoop} {arm : Arm} (here : s.pc = .flushing arm)
    (step : s.settle arm = some s') : Change s .settle s' := by
  unfold MainLoop.settle at step
  split at step
  · rename_i done
    cases step
    exact .settles here done
  · cases step

theorem step_change {s s' : MainLoop} {event : LoopEvent} (step : s.step event = some s') :
    Change s event s' := by
  unfold MainLoop.step at step
  split at step
  · exact actor_change step
  · rename_i here
    cases step
    exact .opens here
  · rename_i here
    cases step
    exact .writes here
  · rename_i here
    cases step
    exact .closes here
  · rename_i here
    cases step
    exact .pauses here
  · rename_i here
    cases step
    exact .resumes here
  · rename_i here
    cases step
    exact .queues here
  · rename_i here
    exact send_change here step
  · rename_i here
    exact settle_change here step
  · cases step

theorem MainLoop.command_keeps (s : MainLoop) (command : Option WriteCommand) :
    s.command command = { s with actors := (s.command command).actors } := by
  unfold MainLoop.command
  split <;> rfl

end NcdMainLoop
