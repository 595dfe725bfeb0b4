import Ncd.Daemon
import Ncd.LabelledRuns

/- One open session of a device: the DATA handler of the driver, a reader in ncd_read, the
   main loop of the daemon, and the KFIFO_* messages on their way between them. Every
   critical section, every send and every message consumed is a step of its own. -/
namespace NcdFlowControl
open NcdDriver NcdDaemon Chunks LabelledRuns

variable {α : Type}

/-- NCD_MSG_* of the driver to the daemon. session is not sent: it only says which ncd_open
    an OPEN_REQ comes from. -/
inductive DriverMsg where
  | openReq (session : Nat)
  | data (bytes : List UInt8)
  | closeReq
  | full
  | available
  deriving DecidableEq, Repr

/-- Where ncd_read rests. resumeLocked: it has found the kfifo empty and holds fifo_lock
    while it sends. copying: it has left the lock and copies to the user. -/
inductive ReaderPc (α : Type) where
  | idle
  | entering (count : Nat)
  | resumeLocked (count : Nat)
  | waiting (count : Nat)
  | copying (kbuf : List α) (shouldResume : Bool)
  | resuming
  deriving DecidableEq, Repr

inductive Arm where
  | available
  | tcp
  deriving DecidableEq, Repr

/-- Where the main loop rests. opening: in Device::open. answering: before the CONN_RES.
    sending: in sendmsg, before the DATA handler gets the lock. notifying: the handler has
    left the lock and still has KFIFO_FULL to send. -/
inductive DaemonPc (α : Type) where
  | select
  | opening (session : Nat)
  | answering (success : Bool)
  | flushing (arm : Arm)
  | sending (chunk : List α) (arm : Arm)
  | notifying (chunk : List α) (arm : Arm)
  deriving DecidableEq, Repr

/-- dropped only records whether ncd_queue_pending_locked has ever returned false. -/
structure Flow (α : Type) where
  dev : NcdDevice α := {}
  reader : ReaderPc α := .idle
  minor : Minor α := {}
  daemon : DaemonPc α := .select
  queue : List DriverMsg := []
  dropped : Bool := false
  deriving DecidableEq, Repr

/-- memory: kmalloc succeeds. accepts: the device takes the command of
    sync_device_reading. delivered: copy_to_user succeeds. -/
inductive FlowEvent (α : Type) where
  | read (count : Nat)
  | lock (memory : Bool)
  | sendResume
  | wake
  | signal
  | copy (delivered : Bool)
  | resume
  | kfifo (accepts : Bool)
  | tcp (data : List α)
  | flush (accepts : Bool)
  | data (memory : Bool)
  | full
  deriving DecidableEq, Repr

/-- ncd_read gets fifo_lock. -/
def Flow.lock (s : Flow α) (memory : Bool) : Option (Flow α) :=
  match s.reader with
  | .entering count =>
    if s.dev.dataFifo = [] then some { s with reader := .resumeLocked count }
    else if memory = false then some { s with reader := .idle }
    else
      let read := ncdReadLocked s.dev count
      some { s with dev := read.1, reader := .copying read.2.1 read.2.2 }
  | _ => none

def Flow.kfifo (s : Flow α) (accepts : Bool) : Option (Flow α) :=
  match s.daemon, s.queue with
  | .select, .full :: rest =>
    let minor := { s.minor with paused := true }
    some { s with queue := rest, minor := (minor.syncDeviceReading true accepts).1 }
  | .select, .available :: rest =>
    some { s with
      queue := rest
      minor := { s.minor with paused := false, inflight := 0 }
      daemon := .flushing .available }
  | _, _ => none

def Flow.kfifoPaused (s : Flow α) : Arm → Bool
  | .available => false
  | .tcp => s.minor.paused

/-- The loop of flush_device, and after it the sync_device_reading of the arm. -/
def Flow.flush (s : Flow α) (accepts : Bool) : Option (Flow α) :=
  match s.daemon with
  | .flushing arm =>
    match s.minor.nextChunk with
    | some (chunk, minor) => some { s with minor := minor, daemon := .sending chunk arm }
    | none =>
      let synced := s.minor.syncDeviceReading (s.kfifoPaused arm) accepts
      some { s with minor := synced.1, daemon := .select }
  | _ => none

/-- The command that the kfifo or the flush of the same arguments gives to the device. -/
def Flow.command (s : Flow α) : FlowEvent α → Option WriteCommand
  | .kfifo accepts =>
    match s.daemon, s.queue with
    | .select, .full :: _ => ({ s.minor with paused := true }.syncDeviceReading true accepts).2
    | _, _ => none
  | .flush accepts =>
    match s.daemon, s.minor.nextChunk with
    | .flushing arm, none => (s.minor.syncDeviceReading (s.kfifoPaused arm) accepts).2
    | _, _ => none
  | _ => none

def lockFree : ReaderPc α → Bool
  | .resumeLocked _ => false
  | _ => true

def Flow.data (s : Flow α) (memory : Bool) : Option (Flow α) :=
  match s.daemon with
  | .sending chunk arm =>
    if lockFree s.reader then
      let received := recvData s.dev chunk memory
      let s := { s with dev := received.1, dropped := s.dropped || received.2.dropped }
      if received.2.shouldPause then some { s with daemon := .notifying chunk arm }
      else some { s with minor := s.minor.sent chunk, daemon := .flushing arm }
    else none
  | _ => none

def Flow.step (s : Flow α) : FlowEvent α → Option (Flow α)
  | .read count =>
    match s.reader with
    | .idle => some { s with reader := .entering count }
    | _ => none
  | .lock memory => s.lock memory
  | .sendResume =>
    match s.reader with
    | .resumeLocked count =>
      some { s with queue := s.queue ++ [.available], reader := .waiting count }
    | _ => none
  | .wake =>
    match s.reader with
    | .waiting count =>
      if s.dev.dataFifo = [] then none else some { s with reader := .entering count }
    | _ => none
  | .signal =>
    match s.reader with
    | .waiting _ => some { s with reader := .idle }
    | _ => none
  | .copy delivered =>
    match s.reader with
    | .copying kbuf shouldResume =>
      some { s with
        reader := if (kbuf.isEmpty || delivered) && shouldResume then .resuming else .idle }
    | _ => none
  | .resume =>
    match s.reader with
    | .resuming => some { s with queue := s.queue ++ [.available], reader := .idle }
    | _ => none
  | .kfifo accepts => s.kfifo accepts
  | .tcp data =>
    match s.daemon with
    | .select =>
      some { s with
        minor := { s.minor with pending := queueShards s.minor.pending data }
        daemon := .flushing .tcp }
    | _ => none
  | .flush accepts => s.flush accepts
  | .data memory => s.data memory
  | .full =>
    match s.daemon with
    | .notifying chunk arm =>
      some { s with
        queue := s.queue ++ [.full]
        minor := s.minor.sent chunk
        daemon := .flushing arm }
    | _ => none

def SameFlow (minor minor' : Minor α) : Prop :=
  minor'.paused = minor.paused ∧ minor'.inflight = minor.inflight ∧ minor'.pending = minor.pending

/-- Everything that one step can be. -/
inductive Change (s : Flow α) : FlowEvent α → Flow α → Prop where
  | reads {count : Nat} (here : s.reader = .idle) :
      Change s (.read count) { s with reader := .entering count }
  | finds {count : Nat} {memory : Bool} (here : s.reader = .entering count)
      (empty : s.dev.dataFifo = []) :
      Change s (.lock memory) { s with reader := .resumeLocked count }
  | fails {count : Nat} {memory : Bool} (here : s.reader = .entering count) :
      Change s (.lock memory) { s with reader := .idle }
  | takes {count : Nat} {memory : Bool} (here : s.reader = .entering count) :
      Change s (.lock memory) { s with
        dev := (ncdReadLocked s.dev count).1
        reader := .copying (ncdReadLocked s.dev count).2.1 (ncdReadLocked s.dev count).2.2 }
  | asks {count : Nat} (here : s.reader = .resumeLocked count) :
      Change s .sendResume { s with queue := s.queue ++ [.available], reader := .waiting count }
  | wakes {count : Nat} (here : s.reader = .waiting count) :
      Change s .wake { s with reader := .entering count }
  | interrupts {count : Nat} (here : s.reader = .waiting count) :
      Change s .signal { s with reader := .idle }
  | copies {kbuf : List α} {shouldResume delivered : Bool} {reader : ReaderPc α}
      (here : s.reader = .copying kbuf shouldResume)
      (goes : reader = .idle ∨ shouldResume = true ∧ reader = .resuming) :
      Change s (.copy delivered) { s with reader := reader }
  | resumes (here : s.reader = .resuming) :
      Change s .resume { s with queue := s.queue ++ [.available], reader := .idle }
  | pauses {rest : List DriverMsg} {minor : Minor α} {accepts : Bool} (here : s.daemon = .select)
      (queue : s.queue = .full :: rest) (same : SameFlow { s.minor with paused := true } minor) :
      Change s (.kfifo accepts) { s with queue := rest, minor := minor }
  | resets {rest : List DriverMsg} {accepts : Bool} (here : s.daemon = .select)
      (queue : s.queue = .available :: rest) :
      Change s (.kfifo accepts) { s with
        queue := rest
        minor := { s.minor with paused := false, inflight := 0 }
        daemon := .flushing .available }
  | queues {data : List α} (here : s.daemon = .select) :
      Change s (.tcp data) { s with
        minor := { s.minor with pending := queueShards s.minor.pending data }
        daemon := .flushing .tcp }
  | pops {chunk : List α} {rest : List (List α)} {arm : Arm} {accepts : Bool}
      (here : s.daemon = .flushing arm) (running : s.minor.paused = false)
      (budget : s.minor.inflight ≤ NcdDaemon.fifoHighWatermark)
      (queue : s.minor.pending = chunk :: rest) :
      Change s (.flush accepts) { s with
        minor := { s.minor with pending := rest }, daemon := .sending chunk arm }
  | settles {arm : Arm} {minor : Minor α} {accepts : Bool} (here : s.daemon = .flushing arm)
      (done : s.minor.nextChunk = none) (same : SameFlow s.minor minor) :
      Change s (.flush accepts) { s with minor := minor, daemon := .select }
  | enters {chunk : List α} {arm : Arm} {memory : Bool} {after : NcdDevice α × DataFlags}
      (here : s.daemon = .sending chunk arm) (free : lockFree s.reader = true)
      (received : after = recvData s.dev chunk memory) :
      Change s (.data memory) { s with
        dev := after.1, dropped := s.dropped || after.2.dropped, daemon := .notifying chunk arm }
  | passes {chunk : List α} {arm : Arm} {memory : Bool} {after : NcdDevice α × DataFlags}
      (here : s.daemon = .sending chunk arm) (free : lockFree s.reader = true)
      (received : after = recvData s.dev chunk memory) :
      Change s (.data memory) { s with
        dev := after.1, dropped := s.dropped || after.2.dropped, minor := s.minor.sent chunk
        daemon := .flushing arm }
  | notifies {chunk : List α} {arm : Arm} (here : s.daemon = .notifying chunk arm) :
      Change s .full { s with
        queue := s.queue ++ [.full], minor := s.minor.sent chunk, daemon := .flushing arm }

theorem lock_change {s s' : Flow α} {memory : Bool} (step : s.lock memory = some s') :
    Change s (.lock memory) s' := by
  unfold Flow.lock at step
  split at step
  · rename_i count here
    split at step
    · rename_i empty
      cases step
      exact .finds here empty
    · split at step
      · cases step
        exact .fails here
      · cases step
        exact .takes here
  · cases step

theorem kfifo_change {s s' : Flow α} {accepts : Bool} (step : s.kfifo accepts = some s') :
    Change s (.kfifo accepts) s' := by
  unfold Flow.kfifo at step
  split at step
  · rename_i rest here queue
    cases step
    exact .pauses here queue (sync_keeps _ _ _)
  · rename_i rest here queue
    cases step
    exact .resets here queue
  · cases step

theorem flush_change {s s' : Flow α} {accepts : Bool} (step : s.flush accepts = some s') :
    Change s (.flush accepts) s' := by
  unfold Flow.flush at step
  split at step
  · rename_i arm here
    split at step
    · rename_i chunk minor next
      obtain ⟨running, budget, queue, same⟩ := nextChunk_some next
      cases step
      rw [same]
      exact .pops here running budget queue
    · rename_i done
      cases step
      exact .settles here done (sync_keeps _ _ _)
  · cases step

theorem data_change {s s' : Flow α} {memory : Bool} (step : s.data memory = some s') :
    Change s (.data memory) s' := by
  unfold Flow.data at step
  split at step
  · rename_i chunk arm here
    split at step
    · rename_i free
      dsimp only at step
      split at step
      · cases step
        exact .enters here free rfl
      · cases step
        exact .passes here free rfl
    · cases step
  · cases step

theorem step_change {s s' : Flow α} {event : FlowEvent α} (step : s.step event = some s') :
    Change s event s' := by
  cases event with
  | lock memory => exact lock_change step
  | kfifo accepts => exact kfifo_change step
  | flush accepts => exact flush_change step
  | data memory => exact data_change step
  | read count =>
    simp only [Flow.step] at step
    split at step <;> cases step
    rename_i here
    exact .reads here
  | sendResume =>
    simp only [Flow.step] at step
    split at step <;> cases step
    rename_i count here
    exact .asks here
  | wake =>
    simp only [Flow.step] at step
    split at step
    · rename_i count here
      split at step <;> cases step
      exact .wakes here
    · cases step
  | signal =>
    simp only [Flow.step] at step
    split at step <;> cases step
    rename_i count here
    exact .interrupts here
  | copy delivered =>
    simp only [Flow.step] at step
    split at step <;> cases step
    rename_i kbuf shouldResume here
    refine .copies here ?_
    split
    · rename_i both
      exact .inr ⟨(Bool.and_eq_true_iff.mp both).2, rfl⟩
    · exact .inl rfl
  | resume =>
    simp only [Flow.step] at step
    split at step <;> cases step
    rename_i here
    exact .resumes here
  | tcp data =>
    simp only [Flow.step] at step
    split at step <;> cases step
    rename_i here
    exact .queues here
  | full =>
    simp only [Flow.step] at step
    split at step <;> cases step
    rename_i chunk arm here
    exact .notifies here

def inTransit : DaemonPc α → Option (List α)
  | .sending chunk _ => some chunk
  | .notifying chunk _ => some chunk
  | _ => none

def spent (minor : Minor α) (daemon : DaemonPc α) : Nat :=
  minor.inflight +
    match daemon with
    | .notifying chunk _ => chunk.length
    | _ => 0

structure Orderly (s : Flow α) : Prop where
  device : WellFormed s.dev
  shards : ∀ chunk ∈ s.minor.pending, chunk ≠ [] ∧ chunk.length ≤ shardSize
  transit : ∀ chunk ∈ inTransit s.daemon, chunk ≠ [] ∧ chunk.length ≤ shardSize

theorem orderly_received {s : Flow α} {chunk : List α} {arm : Arm} (orderly : Orderly s)
    (here : s.daemon = .sending chunk arm) (memory : Bool) :
    Received s.dev chunk memory (recvData s.dev chunk memory) :=
  recvData_received (orderly.transit chunk (by simp [here, inTransit])).1 memory

theorem step_orderly {s s' : Flow α} {event : FlowEvent α} (orderly : Orderly s)
    (step : s.step event = some s') : Orderly s' := by
  have device := orderly.device
  have shards := orderly.shards
  have transit := orderly.transit
  cases step_change step with
  | takes here => exact ⟨(ncdReadLocked_spec device _).1, shards, transit⟩
  | pauses here queue same => exact ⟨device, same.2.2 ▸ shards, transit⟩
  | resets here queue => exact ⟨device, shards, by simp [inTransit]⟩
  | queues here =>
    refine ⟨device, fun chunk member => ?_, by simp [inTransit]⟩
    exact (queueShards_bounds member).elim (shards chunk) id
  | pops here running budget queue =>
    refine ⟨device, fun chunk member => shards chunk (by rw [queue]; exact .tail _ member), ?_⟩
    simp only [inTransit, Option.mem_def, Option.some.injEq, forall_eq']
    exact shards _ (by simp [queue])
  | settles here done same => exact ⟨device, same.2.2 ▸ shards, by simp [inTransit]⟩
  | enters here free received =>
    subst received
    refine ⟨received_wellFormed device (orderly_received orderly here _), shards, ?_⟩
    simpa [here, inTransit] using transit
  | passes here free received =>
    subst received
    exact ⟨received_wellFormed device (orderly_received orderly here _), shards,
      by simp [inTransit]⟩
  | notifies here => exact ⟨device, shards, by simp [inTransit]⟩
  | _ => exact ⟨device, shards, transit⟩

def opened : Flow α := {}

theorem opened_orderly : Orderly (opened : Flow α) :=
  ⟨wellFormed_clear {}, by simp [opened], by simp [opened, inTransit]⟩

end NcdFlowControl
