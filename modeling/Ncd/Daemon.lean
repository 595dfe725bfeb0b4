import Ncd.Chunks
import Ncd.Driver

/- What the main loop of ncdd keeps for one device, and the pieces of its arms. -/
namespace NcdDaemon
open Chunks

variable {α : Type}

def fifoSize : Nat := 4096
def fifoHighWatermark : Nat := fifoSize * 80 / 100
def fifoLowWatermark : Nat := fifoSize * 20 / 100
def shardSize : Nat := fifoLowWatermark

inductive WriteCommand where
  | data (bytes : List UInt8)
  | pauseRead
  | resumeRead
  | close
  deriving DecidableEq, Repr

/-- paused, inflight, read_paused and pending of one minor. -/
structure Minor (α : Type) where
  paused : Bool := false
  inflight : Nat := 0
  readPaused : Bool := false
  pending : List (List α) := []
  deriving DecidableEq, Repr

def queueShards (queue : List (List α)) (data : List α) : List (List α) :=
  queue ++ chunks shardSize data

/-- One round of the loop of flush_device, up to the send; none: flush_device returns. -/
def Minor.nextChunk (minor : Minor α) : Option (List α × Minor α) :=
  if minor.paused then none
  else
    match minor.pending with
    | [] => none
    | chunk :: rest =>
      if fifoHighWatermark < minor.inflight then none
      else some (chunk, { minor with pending := rest })

def Minor.sent (minor : Minor α) (chunk : List α) : Minor α :=
  { minor with inflight := minor.inflight + chunk.length }

/-- sync_device_reading; accepts says whether the device takes the command. -/
def Minor.syncDeviceReading (minor : Minor α) (kfifoPaused accepts : Bool) :
    Minor α × Option WriteCommand :=
  let shouldPause := kfifoPaused || !minor.pending.isEmpty
  if minor.readPaused = shouldPause then (minor, none)
  else if accepts then
    ({ minor with readPaused := shouldPause },
      some (if shouldPause then .pauseRead else .resumeRead))
  else (minor, none)

def Minor.cleared (_ : Minor α) : Minor α := {}

theorem sync_keeps (minor : Minor α) (kfifoPaused accepts : Bool) :
    (minor.syncDeviceReading kfifoPaused accepts).1.paused = minor.paused ∧
      (minor.syncDeviceReading kfifoPaused accepts).1.inflight = minor.inflight ∧
      (minor.syncDeviceReading kfifoPaused accepts).1.pending = minor.pending := by
  unfold Minor.syncDeviceReading
  dsimp only
  split
  · exact ⟨rfl, rfl, rfl⟩
  · split <;> exact ⟨rfl, rfl, rfl⟩

theorem nextChunk_some {minor after : Minor α} {chunk : List α}
    (next : minor.nextChunk = some (chunk, after)) : minor.paused = false ∧
      minor.inflight ≤ fifoHighWatermark ∧ minor.pending = chunk :: after.pending ∧
      after = { minor with pending := after.pending } := by
  unfold Minor.nextChunk at next
  split at next
  · cases next
  · rename_i running
    split at next
    · cases next
    · rename_i chunk' rest queue
      split at next
      · cases next
      · rename_i budget
        simp only [Option.some.injEq, Prod.mk.injEq] at next
        obtain ⟨rfl, rfl⟩ := next
        exact ⟨by simpa using running, Nat.le_of_not_lt budget, queue, rfl⟩

theorem nextChunk_first {minor : Minor α} {chunk : List α} {rest : List (List α)}
    (running : minor.paused = false) (budget : minor.inflight ≤ fifoHighWatermark)
    (queue : minor.pending = chunk :: rest) :
    minor.nextChunk = some (chunk, { minor with pending := rest }) := by
  unfold Minor.nextChunk
  rw [running, queue]
  simp [Nat.not_lt.mpr budget]

/-- flush_device returns only for one of its three reasons. -/
theorem nextChunk_none {minor : Minor α} (done : minor.nextChunk = none) :
    minor.paused = true ∨ minor.pending = [] ∨ fifoHighWatermark < minor.inflight := by
  unfold Minor.nextChunk at done
  split at done
  · rename_i paused
    exact .inl paused
  · split at done
    · rename_i empty
      exact .inr (.inl empty)
    · split at done
      · rename_i excess
        exact .inr (.inr excess)
      · cases done

theorem queueShards_bounds {queue : List (List α)} {data chunk : List α}
    (member : chunk ∈ queueShards queue data) :
    chunk ∈ queue ∨ chunk ≠ [] ∧ chunk.length ≤ shardSize :=
  (List.mem_append.mp member).imp id (chunks_bounds (by decide))

end NcdDaemon
