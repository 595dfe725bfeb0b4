import Mathlib.Data.List.Basic

/- One device of the kernel driver: its kfifo, the chunks pending behind it, and what the
   critical sections of fifo_lock do with them. α is the type of the bytes. -/
namespace NcdDriver

variable {α : Type}

def fifoSize : Nat := 4096
def fifoHighWatermark : Nat := fifoSize * 80 / 100
def fifoLowWatermark : Nat := fifoSize * 20 / 100
def fifoPendingLimit : Nat := fifoSize * 256

/-- What fifo_lock protects of struct ncd_device. -/
structure NcdDevice (α : Type) where
  dataFifo : List α := []
  pendingChunks : List (List α) := []
  pendingBytes : Nat := 0
  kfifoPaused : Bool := false
  deriving DecidableEq, Repr

def NcdDevice.kfifoAvail (dev : NcdDevice α) : Nat := fifoSize - dev.dataFifo.length

/-- kfifo_in copies what fits and returns how much that was. -/
def NcdDevice.kfifoIn (dev : NcdDevice α) (data : List α) : NcdDevice α × Nat :=
  ({ dev with dataFifo := dev.dataFifo ++ data.take dev.kfifoAvail },
    min data.length dev.kfifoAvail)

/-- memory says whether kmalloc succeeds. -/
def ncdQueuePendingLocked (dev : NcdDevice α) (data : List α) (memory : Bool) :
    NcdDevice α × Bool :=
  if data.length = 0 then (dev, true)
  else if fifoSize < data.length then (dev, false)
  else if fifoPendingLimit - data.length < dev.pendingBytes then (dev, false)
  else if memory = false then (dev, false)
  else
    ({ dev with pendingChunks := dev.pendingChunks ++ [data]
                pendingBytes := dev.pendingBytes + data.length }, true)

def drainLoop : List (List α) → NcdDevice α → Nat → NcdDevice α × Nat
  | [], dev, total => ({ dev with pendingChunks := [] }, total)
  | chunk :: rest, dev, total =>
    if dev.kfifoAvail < chunk.length then ({ dev with pendingChunks := chunk :: rest }, total)
    else
      let copied := dev.kfifoIn chunk
      drainLoop rest { copied.1 with pendingBytes := dev.pendingBytes - chunk.length }
        (total + copied.2)

def ncdDrainPendingLocked (dev : NcdDevice α) : NcdDevice α × Nat :=
  drainLoop dev.pendingChunks dev 0

/-- What ncd_clear_buffers, ncd_open and ncd_release do under the lock. -/
def ncdClearBuffers (_ : NcdDevice α) : NcdDevice α := {}

structure DataFlags where
  wakeReader : Bool := false
  shouldPause : Bool := false
  dropped : Bool := false
  deriving DecidableEq, Repr

/-- The critical section of recv_from_daemon for NCD_MSG_DATA. -/
def recvData (dev : NcdDevice α) (payload : List α) (memory : Bool) : NcdDevice α × DataFlags :=
  if payload.length = 0 then (dev, {})
  else if dev.pendingChunks ≠ [] ∨ dev.kfifoAvail < payload.length then
    let queued := ncdQueuePendingLocked dev payload memory
    ({ queued.1 with kfifoPaused := true },
      { dropped := !queued.2, shouldPause := !dev.kfifoPaused })
  else
    let copied := dev.kfifoIn payload
    let full := decide (fifoHighWatermark ≤ copied.1.dataFifo.length) && !dev.kfifoPaused
    ({ copied.1 with kfifoPaused := dev.kfifoPaused || full },
      { wakeReader := decide (0 < copied.2), shouldPause := full })

/-- The critical section of ncd_read once the kfifo has data and kbuf is allocated: what
    goes to the user, and should_resume. -/
def ncdReadLocked (dev : NcdDevice α) (count : Nat) : NcdDevice α × List α × Bool :=
  let want := min count fifoSize
  let after := (ncdDrainPendingLocked { dev with dataFifo := dev.dataFifo.drop want }).1
  if after.pendingChunks = [] ∧ after.dataFifo.length < fifoLowWatermark then
    ({ after with kfifoPaused := false }, dev.dataFifo.take want, true)
  else (after, dev.dataFifo.take want, false)

def contents (dev : NcdDevice α) : List α := dev.dataFifo ++ dev.pendingChunks.flatten

/-- The fifo has its bound, the counter counts, and no first pending chunk would fit. -/
structure WellFormed (dev : NcdDevice α) : Prop where
  bound : dev.dataFifo.length ≤ fifoSize
  counts : dev.pendingBytes = dev.pendingChunks.flatten.length
  small : ∀ chunk ∈ dev.pendingChunks, chunk.length ≤ fifoSize
  waits : ∀ chunk ∈ dev.pendingChunks.head?, dev.kfifoAvail < chunk.length

theorem wellFormed_clear (dev : NcdDevice α) : WellFormed (ncdClearBuffers dev) :=
  ⟨by simp [ncdClearBuffers], rfl, by simp [ncdClearBuffers], by simp [ncdClearBuffers]⟩

theorem empty_nothing_pending {dev : NcdDevice α} (good : WellFormed dev)
    (empty : dev.dataFifo = []) : dev.pendingChunks = [] := by
  cases pending : dev.pendingChunks with
  | nil => rfl
  | cons chunk rest =>
    have late := good.waits chunk (by simp [pending])
    have fits := good.small chunk (by simp [pending])
    simp [NcdDevice.kfifoAvail, empty] at late
    omega

theorem length_contents {dev : NcdDevice α} (good : WellFormed dev) :
    (contents dev).length = dev.dataFifo.length + dev.pendingBytes := by
  rw [contents, List.length_append, good.counts]

/-- What the DATA handler does with a payload: it fits, it waits, or it is dropped. -/
inductive Received (dev : NcdDevice α) (payload : List α) (memory : Bool) :
    NcdDevice α × DataFlags → Prop where
  | fits {paused : Bool} {flags : DataFlags} (none : dev.pendingChunks = [])
      (room : payload.length ≤ dev.kfifoAvail) (kept : flags.dropped = false) :
      Received dev payload memory
        ({ dev with dataFifo := dev.dataFifo ++ payload, kfifoPaused := paused }, flags)
  | waits {flags : DataFlags} (full : dev.pendingChunks ≠ [] ∨ dev.kfifoAvail < payload.length)
      (small : payload.length ≤ fifoSize)
      (room : dev.pendingBytes ≤ fifoPendingLimit - payload.length) (kept : flags.dropped = false) :
      Received dev payload memory
        ({ dev with pendingChunks := dev.pendingChunks ++ [payload]
                    pendingBytes := dev.pendingBytes + payload.length
                    kfifoPaused := true }, flags)
  | drops {flags : DataFlags} (full : dev.pendingChunks ≠ [] ∨ dev.kfifoAvail < payload.length)
      (why : fifoSize < payload.length ∨ fifoPendingLimit - payload.length < dev.pendingBytes ∨
        memory = false) (gone : flags.dropped = true) :
      Received dev payload memory ({ dev with kfifoPaused := true }, flags)

theorem recvData_received {dev : NcdDevice α} {payload : List α} (nonempty : payload ≠ [])
    (memory : Bool) : Received dev payload memory (recvData dev payload memory) := by
  have long : payload.length ≠ 0 := by simpa using nonempty
  unfold recvData
  rw [if_neg long]
  split
  · rename_i full
    dsimp only
    unfold ncdQueuePendingLocked
    rw [if_neg long]
    by_cases large : fifoSize < payload.length
    · rw [if_pos large]
      exact .drops full (.inl large) rfl
    · rw [if_neg large]
      by_cases excess : fifoPendingLimit - payload.length < dev.pendingBytes
      · rw [if_pos excess]
        exact .drops full (.inr (.inl excess)) rfl
      · rw [if_neg excess]
        cases memory with
        | false => exact .drops full (.inr (.inr rfl)) rfl
        | true => exact .waits full (Nat.le_of_not_lt large) (Nat.le_of_not_lt excess) rfl
  · rename_i free
    rw [not_or, not_not, Nat.not_lt] at free
    simp only [NcdDevice.kfifoIn, List.take_of_length_le free.2]
    exact .fits free.1 free.2 rfl

theorem received_wellFormed {dev : NcdDevice α} {payload : List α} {memory : Bool}
    {after : NcdDevice α × DataFlags} (good : WellFormed dev)
    (received : Received dev payload memory after) : WellFormed after.1 := by
  cases received with
  | fits none room kept =>
    refine ⟨?_, good.counts, good.small, by simp [none]⟩
    have bound := good.bound
    simp only [NcdDevice.kfifoAvail, List.length_append] at room ⊢
    omega
  | waits full small room kept =>
    refine ⟨good.bound, ?_, ?_, ?_⟩
    · simp [good.counts]
    · intro chunk member
      rcases List.mem_append.mp member with old | new
      · exact good.small chunk old
      · exact List.mem_singleton.mp new ▸ small
    · intro chunk first
      cases pending : dev.pendingChunks with
      | nil =>
        have late := full.resolve_left (by simp [pending])
        simp [pending] at first
        exact first ▸ late
      | cons head rest =>
        simp [pending] at first
        exact good.waits chunk (by simp [pending, first])
  | drops full why gone => exact ⟨good.bound, good.counts, good.small, good.waits⟩

theorem received_contents {dev : NcdDevice α} {payload : List α} {memory : Bool}
    {after : NcdDevice α × DataFlags} (received : Received dev payload memory after) :
    contents after.1 = contents dev ++ if after.2.dropped then [] else payload := by
  cases received with
  | fits none room kept => simp [contents, none, kept]
  | waits full small room kept => simp [contents, kept]
  | drops full why gone => simp [contents, gone]

theorem recvData_contents (dev : NcdDevice α) (payload : List α) (memory : Bool) :
    contents (recvData dev payload memory).1 =
      contents dev ++ if (recvData dev payload memory).2.dropped then [] else payload := by
  by_cases empty : payload = []
  · simp [recvData, empty]
  · exact received_contents (recvData_received empty memory)

/-- Draining moves bytes without losing or reordering them, in any state. -/
theorem drainLoop_contents (chunks : List (List α)) (dev : NcdDevice α) (total : Nat) :
    contents (drainLoop chunks dev total).1 = dev.dataFifo ++ chunks.flatten := by
  induction chunks generalizing dev total with
  | nil => simp [drainLoop, contents]
  | cons chunk rest ih =>
    unfold drainLoop
    split
    · rfl
    · rename_i room
      have fits : chunk.length ≤ dev.kfifoAvail := Nat.le_of_not_lt room
      simp only [NcdDevice.kfifoIn, List.take_of_length_le fits, ih, List.flatten_cons,
        List.append_assoc]

theorem ncdReadLocked_contents (dev : NcdDevice α) (count : Nat) :
    (ncdReadLocked dev count).2.1 ++ contents (ncdReadLocked dev count).1 = contents dev := by
  have moved := drainLoop_contents dev.pendingChunks
    { dev with dataFifo := dev.dataFifo.drop (min count fifoSize) } 0
  have order : dev.dataFifo.take (min count fifoSize) ++
      (dev.dataFifo.drop (min count fifoSize) ++ dev.pendingChunks.flatten) = contents dev := by
    rw [← List.append_assoc, List.take_append_drop, contents]
  unfold ncdReadLocked ncdDrainPendingLocked
  dsimp only
  split
  · exact (congrArg _ moved).trans order
  · exact (congrArg _ moved).trans order

/- The loop stops at the first chunk that does not fit. -/
theorem drainLoop_wellFormed (chunks : List (List α)) (dev : NcdDevice α) (total : Nat)
    (bound : dev.dataFifo.length ≤ fifoSize) (counts : dev.pendingBytes = chunks.flatten.length)
    (small : ∀ chunk ∈ chunks, chunk.length ≤ fifoSize) :
    WellFormed (drainLoop chunks dev total).1 := by
  induction chunks generalizing dev total with
  | nil => exact ⟨bound, counts, by simp [drainLoop], by simp [drainLoop]⟩
  | cons chunk rest ih =>
    unfold drainLoop
    split
    · rename_i late
      refine ⟨bound, counts, small, ?_⟩
      intro first is
      simp only [List.head?_cons, Option.mem_def, Option.some.injEq] at is
      exact is ▸ late
    · rename_i room
      have fits : chunk.length ≤ dev.kfifoAvail := Nat.le_of_not_lt room
      simp only [NcdDevice.kfifoIn, List.take_of_length_le fits]
      apply ih
      · simp only [NcdDevice.kfifoAvail] at fits
        simp only [List.length_append]
        omega
      · simp only [counts, List.flatten_cons, List.length_append]
        omega
      · exact fun c member => small c (by simp [member])

theorem drainLoop_paused (chunks : List (List α)) (dev : NcdDevice α) (total : Nat) :
    (drainLoop chunks dev total).1.kfifoPaused = dev.kfifoPaused := by
  induction chunks generalizing dev total with
  | nil => rfl
  | cons chunk rest ih =>
    unfold drainLoop
    split
    · rfl
    · exact ih _ _

theorem drainLoop_suffix (chunks : List (List α)) (dev : NcdDevice α) (total : Nat) :
    (drainLoop chunks dev total).1.pendingChunks <:+ chunks := by
  induction chunks generalizing dev total with
  | nil => exact List.nil_suffix
  | cons chunk rest ih =>
    unfold drainLoop
    split
    · exact List.suffix_refl _
    · exact (ih _ _).trans (List.suffix_cons chunk rest)

theorem ncdReadLocked_suffix (dev : NcdDevice α) (count : Nat) :
    (ncdReadLocked dev count).1.pendingChunks <:+ dev.pendingChunks := by
  unfold ncdReadLocked ncdDrainPendingLocked
  dsimp only
  split <;> exact drainLoop_suffix _ _ _

/-- A read keeps the buffers in order; without should_resume it leaves some behind. -/
theorem ncdReadLocked_spec {dev : NcdDevice α} (good : WellFormed dev) (count : Nat) :
    WellFormed (ncdReadLocked dev count).1 ∧
      ((ncdReadLocked dev count).2.2 = true →
        (contents (ncdReadLocked dev count).1).length < fifoLowWatermark) := by
  have bound : (dev.dataFifo.drop (min count fifoSize)).length ≤ fifoSize := by
    have bound := good.bound
    rw [List.length_drop]
    omega
  have after := drainLoop_wellFormed dev.pendingChunks
    { dev with dataFifo := dev.dataFifo.drop (min count fifoSize) } 0 bound good.counts good.small
  unfold ncdReadLocked ncdDrainPendingLocked
  dsimp only
  split
  · rename_i low
    refine ⟨⟨after.bound, after.counts, after.small, after.waits⟩, fun _ => ?_⟩
    simpa [contents, low.1] using low.2
  · exact ⟨after, by simp⟩

end NcdDriver
