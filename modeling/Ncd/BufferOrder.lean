import Ncd.Driver
import Ncd.LabelledRuns

/- The two buffers of a device between two resets: what DATA messages put in comes out of
   ncd_read in order, and kfifo_paused follows the amount held. -/
namespace NcdBuffers
open NcdDriver LabelledRuns

variable {α : Type}

/-- taken and accepted are the history since the reset: the bytes that reads have taken
    out, and the payloads that were not dropped. -/
structure Buffers (α : Type) where
  dev : NcdDevice α
  taken : List α := []
  accepted : List (List α) := []
  deriving DecidableEq, Repr

inductive BufferEvent (α : Type) where
  | data (payload : List α)
  | read (count : Nat)
  deriving DecidableEq, Repr

def Buffers.data (s : Buffers α) (payload : List α) : Buffers α :=
  let received := recvData s.dev payload true
  { s with
    dev := received.1
    accepted := if received.2.dropped then s.accepted else s.accepted ++ [payload] }

def Buffers.read (s : Buffers α) (count : Nat) : Buffers α :=
  let read := ncdReadLocked s.dev count
  { s with dev := read.1, taken := s.taken ++ read.2.1 }

/-- A read of an empty kfifo waits. kmalloc succeeds in both. -/
def Buffers.step (s : Buffers α) : BufferEvent α → Option (Buffers α)
  | .data payload => some (s.data payload)
  | .read count => if s.dev.dataFifo = [] then none else some (s.read count)

/-- What the daemon may send: no payload is longer than the kfifo. -/
def Fits (_ : Buffers α) : BufferEvent α → Prop
  | .data payload => payload.length ≤ fifoSize
  | .read _ => True

instance (s : Buffers α) (event : BufferEvent α) : Decidable (Fits s event) := by
  cases event <;> simp only [Fits] <;> infer_instance

def reset (dev : NcdDevice α) : Buffers α := { dev := ncdClearBuffers dev }

/-- kfifo_paused is set while the device holds much, and cleared once the kfifo is empty. -/
structure Paced (dev : NcdDevice α) : Prop where
  limit : dev.pendingBytes ≤ fifoPendingLimit
  backlog : dev.pendingChunks ≠ [] → dev.kfifoPaused = true
  high : fifoHighWatermark ≤ dev.dataFifo.length → dev.kfifoPaused = true
  empty : dev.dataFifo = [] → dev.kfifoPaused = false

theorem watermarks : fifoHighWatermark = 3276 ∧ fifoLowWatermark = 819 ∧ fifoSize = 4096 ∧
    fifoPendingLimit = 1048576 :=
  ⟨rfl, rfl, rfl, rfl⟩

theorem paced_clear (dev : NcdDevice α) : Paced (ncdClearBuffers dev) := by
  constructor
  · exact Nat.zero_le _
  · intro nonempty
    exact absurd rfl nonempty
  · intro high
    simp [ncdClearBuffers, watermarks.1] at high
  · intro _
    rfl

theorem recvData_paused {dev : NcdDevice α} {payload : List α} (nonempty : payload ≠ [])
    (memory : Bool) :
    (recvData dev payload memory).1.kfifoPaused = true ↔
      dev.kfifoPaused = true ∨ dev.pendingChunks ≠ [] ∨ dev.kfifoAvail < payload.length ∨
        fifoHighWatermark ≤ (dev.dataFifo ++ payload).length := by
  have long : payload.length ≠ 0 := by simpa using nonempty
  unfold recvData
  rw [if_neg long]
  split
  · rename_i full
    constructor
    · intro _
      rcases full with waiting | short
      · exact .inr (.inl waiting)
      · exact .inr (.inr (.inl short))
    · intro _
      rfl
  · rename_i free
    rw [not_or, not_not, Nat.not_lt] at free
    simp only [NcdDevice.kfifoIn, List.take_of_length_le free.2]
    by_cases already : dev.kfifoPaused = true
    · simp [already]
    · simp [already, free.1, free.2]

theorem recvData_paced {dev : NcdDevice α} {payload : List α} (good : WellFormed dev)
    (paced : Paced dev) (nonempty : payload ≠ []) (fits : payload.length ≤ fifoSize) :
    Paced (recvData dev payload true).1 := by
  have received : Received dev payload true (recvData dev payload true) :=
    recvData_received nonempty true
  have paused := @recvData_paused α dev payload nonempty true
  have nothing : dev.dataFifo = [] →
      ¬(dev.pendingChunks ≠ [] ∨ dev.kfifoAvail < payload.length) := by
    intro empty full
    rcases full with waiting | short
    · exact waiting (empty_nothing_pending good empty)
    · simp only [NcdDevice.kfifoAvail, empty, List.length_nil] at short
      omega
  cases result : recvData dev payload true with
  | mk after flags =>
    rw [result] at received paused
    cases received with
    | fits none room kept =>
      constructor
      · exact paced.limit
      · intro nonempty
        exact absurd none nonempty
      · intro high
        exact paused.mpr (.inr (.inr (.inr high)))
      · intro empty
        exact absurd (List.append_eq_nil_iff.mp empty).2 nonempty
    | waits full small room kept =>
      have limit := watermarks
      constructor
      · dsimp only
        omega
      · intro _
        rfl
      · intro _
        rfl
      · intro empty
        exact absurd full (nothing empty)
    | drops full why gone =>
      constructor
      · exact paced.limit
      · intro _
        rfl
      · intro _
        rfl
      · intro empty
        exact absurd full (nothing empty)

theorem ncdReadLocked_direct {dev : NcdDevice α} (none : dev.pendingChunks = []) (count : Nat) :
    (ncdReadLocked dev count).1.dataFifo = dev.dataFifo.drop (min count fifoSize) := by
  unfold ncdReadLocked ncdDrainPendingLocked
  simp only [none, drainLoop]
  split <;> rfl

theorem ncdReadLocked_paused (dev : NcdDevice α) (count : Nat) :
    (ncdReadLocked dev count).1.kfifoPaused = true ↔
      dev.kfifoPaused = true ∧ ¬((ncdReadLocked dev count).1.pendingChunks = [] ∧
        (ncdReadLocked dev count).1.dataFifo.length < fifoLowWatermark) := by
  have same := drainLoop_paused dev.pendingChunks
    { dev with dataFifo := dev.dataFifo.drop (min count fifoSize) } 0
  unfold ncdReadLocked ncdDrainPendingLocked
  dsimp only at same ⊢
  split
  · rename_i low
    simp [low.1, low.2]
  · rename_i much
    simp only [same, much, not_false_eq_true, and_true]

theorem ncdReadLocked_paced {dev : NcdDevice α} (good : WellFormed dev) (paced : Paced dev)
    (count : Nat) : Paced (ncdReadLocked dev count).1 := by
  have after := (ncdReadLocked_spec good count).1
  have paused := ncdReadLocked_paused dev count
  have suffix := ncdReadLocked_suffix dev count
  have sizes := watermarks
  constructor
  · obtain ⟨front, split⟩ := suffix
    have before := good.counts
    have limit := paced.limit
    rw [← split, List.flatten_append, List.length_append] at before
    rw [after.counts]
    omega
  · intro waiting
    have nonempty : dev.pendingChunks ≠ [] := by
      intro none
      rw [none] at suffix
      exact waiting (List.suffix_nil.mp suffix)
    exact paused.mpr ⟨paced.backlog nonempty, fun low => waiting low.1⟩
  · intro high
    have much : ¬((ncdReadLocked dev count).1.pendingChunks = [] ∧
        (ncdReadLocked dev count).1.dataFifo.length < fifoLowWatermark) := by
      intro low
      omega
    by_cases none : dev.pendingChunks = []
    · rw [ncdReadLocked_direct none, List.length_drop] at high
      exact paused.mpr ⟨paced.high (by omega), much⟩
    · exact paused.mpr ⟨paced.backlog none, much⟩
  · intro empty
    have none := empty_nothing_pending after empty
    rw [← Bool.not_eq_true]
    intro stays
    apply (paused.mp stays).2
    exact ⟨none, by rw [empty, List.length_nil]; omega⟩

structure Ordered (s : Buffers α) : Prop where
  device : WellFormed s.dev
  paced : Paced s.dev
  order : s.taken ++ contents s.dev = s.accepted.flatten

theorem data_ordered {s : Buffers α} {payload : List α} (ordered : Ordered s)
    (fits : payload.length ≤ fifoSize) : Ordered (s.data payload) := by
  have order := ordered.order
  by_cases none : payload = []
  · subst none
    refine ⟨ordered.device, ordered.paced, ?_⟩
    have nothing : recvData s.dev [] true = (s.dev, {}) := rfl
    simpa [Buffers.data, nothing] using order
  · have received : Received s.dev payload true (recvData s.dev payload true) :=
      recvData_received none true
    constructor
    · exact received_wellFormed ordered.device received
    · exact recvData_paced ordered.device ordered.paced none fits
    · have kept := received_contents received
      cases dropped : (recvData s.dev payload true).2.dropped with
      | false =>
        simp only [dropped, Bool.false_eq_true, if_false] at kept
        simp only [Buffers.data, dropped, Bool.false_eq_true, if_false, List.flatten_append,
          List.flatten_singleton, kept]
        rw [← order, List.append_assoc]
      | true =>
        simp only [dropped, if_true, List.append_nil] at kept
        simpa only [Buffers.data, dropped, if_true, kept] using order

theorem read_ordered {s : Buffers α} (ordered : Ordered s) (count : Nat) :
    Ordered (s.read count) := by
  constructor
  · exact (ncdReadLocked_spec ordered.device count).1
  · exact ncdReadLocked_paced ordered.device ordered.paced count
  · have whole := ordered.order
    rw [← ncdReadLocked_contents s.dev count, ← List.append_assoc] at whole
    exact whole

theorem step_ordered {s s' : Buffers α} {event : BufferEvent α} (ordered : Ordered s)
    (allowed : Fits s event) (step : s.step event = some s') : Ordered s' := by
  cases event with
  | data payload =>
    cases step
    exact data_ordered ordered allowed
  | read count =>
    simp only [Buffers.step] at step
    split at step <;> cases step
    exact read_ordered ordered count

theorem reset_ordered (dev : NcdDevice α) : Ordered (reset dev) :=
  ⟨wellFormed_clear dev, paced_clear dev, rfl⟩

/-- Order, accounting, no stranded bytes and the hysteresis, at every moment. -/
theorem buffers_stay_ordered {dev : NcdDevice α} {s : Buffers α}
    (run : Reaches Buffers.step Fits (reset dev) s) :
    s.taken ++ s.dev.dataFifo ++ s.dev.pendingChunks.flatten = s.accepted.flatten ∧
      (s.dev.pendingBytes = s.dev.pendingChunks.flatten.length ∧
        s.dev.pendingBytes ≤ fifoPendingLimit) ∧
      ((∀ chunk ∈ s.dev.pendingChunks.head?, s.dev.kfifoAvail < chunk.length) ∧
        (s.dev.pendingChunks ≠ [] → s.dev.dataFifo ≠ [])) ∧
      ((fifoHighWatermark ≤ s.dev.dataFifo.length ∨ s.dev.pendingChunks ≠ [] →
          s.dev.kfifoPaused = true) ∧
        (s.dev.dataFifo = [] → s.dev.kfifoPaused = false)) := by
  have ordered := run.keeps (I := Ordered) step_ordered (reset_ordered dev)
  have device := ordered.device
  have paced := ordered.paced
  refine ⟨?_, ⟨device.counts, paced.limit⟩, ⟨device.waits, ?_⟩, ⟨?_, paced.empty⟩⟩
  · rw [List.append_assoc]
    exact ordered.order
  · intro waiting empty
    exact waiting (empty_nothing_pending device empty)
  · intro much
    rcases much with high | waiting
    · exact paced.high high
    · exact paced.backlog waiting

def twoPayloads : Buffers UInt8 where
  dev := { dataFifo := List.replicate 4000 7
           pendingChunks := [List.replicate 200 9]
           pendingBytes := 200
           kfifoPaused := true }
  accepted := [List.replicate 4000 7, List.replicate 200 9]

theorem second_payload_waits :
    twoPayloads.dev.dataFifo ≠ [] ∧ twoPayloads.dev.kfifoPaused = true := by
  have run : Reaches Buffers.step Fits (reset {}) twoPayloads :=
    reaches_of_execIf [.data (List.replicate 4000 7), .data (List.replicate 200 9)]
      (by decide +kernel)
  obtain ⟨_, _, ⟨_, behind⟩, paused, _⟩ := buffers_stay_ordered run
  have waiting : twoPayloads.dev.pendingChunks ≠ [] := List.cons_ne_nil _ _
  exact ⟨behind waiting, paused (.inr waiting)⟩

end NcdBuffers
