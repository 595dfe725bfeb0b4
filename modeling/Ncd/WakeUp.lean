import Ncd.FlowControl

/- A reader asleep on an empty kfifo, and whether the daemon is still allowed to send: the
   last KFIFO_* message the daemon gets must not be a KFIFO_FULL that came too late. -/
namespace NcdWakeUp
open NcdDriver NcdDaemon NcdFlowControl LabelledRuns

variable {α : Type}

/-- When the reader sleeps on an empty kfifo and nothing is under way, the daemon is neither
    paused nor sitting on chunks. -/
def WakesUp (s : Flow α) : Prop :=
  ∀ count, s.reader = .waiting count → s.dev.dataFifo = [] → s.queue = [] →
    s.daemon = .select → s.minor.paused = false ∧ s.minor.pending = []

def notifying : DaemonPc α → Bool
  | .notifying _ _ => true
  | _ => false

/-- ncd_read finds the kfifo empty while the DATA handler, out of the lock, still has its
    KFIFO_FULL to send. -/
def overtakesFull (s : Flow α) : FlowEvent α → Bool
  | .lock _ => s.dev.dataFifo.isEmpty && notifying s.daemon
  | _ => false

/-- The daemon has its KFIFO_AVAILABLE still to come, or has made use of it. -/
def Answered (s : Flow α) : Prop :=
  (∃ front, s.queue = front ++ [.available]) ∨
    s.queue = [] ∧ s.minor.paused = false ∧ s.minor.inflight = 0 ∧
      (s.daemon = .select → s.minor.pending = [])

structure Waits (s : Flow α) : Prop where
  locked : ∀ count, s.reader = .resumeLocked count → s.dev.dataFifo = [] ∧
    notifying s.daemon = false
  asleep : ∀ count, s.reader = .waiting count → s.dev.dataFifo = [] →
    notifying s.daemon = false ∧ Answered s

theorem waits_wakesUp {s : Flow α} (waits : Waits s) : WakesUp s := by
  intro count here empty none select
  obtain ⟨_, answered⟩ := waits.asleep count here empty
  rcases answered with ⟨front, queue⟩ | ⟨_, paused, _, pending⟩
  · simp [queue] at none
  · exact ⟨paused, pending select⟩

/- The reader neither sleeps nor holds the lock. -/
theorem waits_awake {s : Flow α} (awake : ∀ count, s.reader ≠ .waiting count)
    (free : ∀ count, s.reader ≠ .resumeLocked count) : Waits s :=
  ⟨fun count here => absurd here (free count), fun count here => absurd here (awake count)⟩

/-- A chunk that meets an empty kfifo goes straight into it. -/
theorem received_fills {dev : NcdDevice α} {chunk : List α} {memory : Bool}
    {after : NcdDevice α × DataFlags} (good : WellFormed dev)
    (bounds : chunk ≠ [] ∧ chunk.length ≤ shardSize) (received : Received dev chunk memory after) :
    after.1.dataFifo ≠ [] := by
  intro empty
  have before : dev.dataFifo = [] := by
    cases received with
    | fits none room kept => exact (List.append_eq_nil_iff.mp empty).1
    | waits full small room kept => exact empty
    | drops full why gone => exact empty
  have queued : ¬ (dev.pendingChunks ≠ [] ∨ dev.kfifoAvail < chunk.length) := by
    have none := empty_nothing_pending good before
    have small := bounds.2
    simp only [none, NcdDevice.kfifoAvail, before, List.length_nil]
    simp only [shardSize, NcdDaemon.fifoLowWatermark, NcdDaemon.fifoSize, NcdDriver.fifoSize]
      at small ⊢
    simp
    omega
  cases received with
  | fits none room kept => exact bounds.1 (List.append_eq_nil_iff.mp empty).2
  | waits full small room kept => exact queued full
  | drops full why gone => exact queued full

theorem arrives_waits {s s' : Flow α} {chunk : List α} {arm : Arm} {memory : Bool}
    {after : NcdDevice α × DataFlags} (orderly : Orderly s) (here : s.daemon = .sending chunk arm)
    (free : lockFree s.reader = true) (received : after = recvData s.dev chunk memory)
    (dev : s'.dev = after.1) (reader : s'.reader = s.reader) : Waits s' := by
  subst received
  have filled := received_fills orderly.device
    (orderly.transit chunk (by simp [here, inTransit])) (orderly_received orderly here memory)
  constructor
  · intro count holds
    rw [reader] at holds
    simp [lockFree, holds] at free
  · intro count _ empty
    rw [dev] at empty
    exact absurd empty filled

theorem step_waits {s s' : Flow α} {event : FlowEvent α} (orderly : Orderly s) (waits : Waits s)
    (late : overtakesFull s event = false) (step : s.step event = some s') : Waits s' := by
  have locked := waits.locked
  have asleep := waits.asleep
  cases step_change step with
  | reads here => exact waits_awake (by simp) (by simp)
  | fails here => exact waits_awake (by simp) (by simp)
  | takes here => exact waits_awake (by simp) (by simp)
  | wakes here => exact waits_awake (by simp) (by simp)
  | interrupts here => exact waits_awake (by simp) (by simp)
  | resumes here => exact waits_awake (by simp) (by simp)
  | copies here goes =>
    refine waits_awake ?_ ?_ <;> intro count is <;> rcases goes with same | ⟨_, same⟩ <;>
      rw [same] at is <;> cases is
  | finds here empty =>
    exact ⟨fun _ _ => ⟨empty, by simpa [overtakesFull, empty] using late⟩, by simp⟩
  | asks here =>
    obtain ⟨_, quiet⟩ := locked _ here
    exact ⟨by simp, fun _ _ _ => ⟨quiet, .inl ⟨s.queue, rfl⟩⟩⟩
  | pauses here queue same =>
    refine ⟨locked, fun count reader empty => ?_⟩
    obtain ⟨quiet, answered⟩ := asleep count reader empty
    refine ⟨quiet, .inl ?_⟩
    rcases answered with ⟨front, is⟩ | ⟨none, _⟩
    · rw [queue] at is
      cases front with
      | nil => cases is
      | cons first front => exact ⟨front, (List.cons.inj is).2⟩
    · rw [queue] at none
      cases none
  | resets here queue =>
    refine ⟨fun count reader => ⟨(locked count reader).1, rfl⟩, fun count reader empty => ⟨rfl, ?_⟩⟩
    obtain ⟨_, answered⟩ := asleep count reader empty
    rcases answered with ⟨front, is⟩ | ⟨none, _⟩
    · rw [queue] at is
      cases front with
      | nil => exact .inr ⟨(List.cons.inj is).2, rfl, rfl, by simp⟩
      | cons first front => exact .inl ⟨front, (List.cons.inj is).2⟩
    · rw [queue] at none
      cases none
  | queues here =>
    refine ⟨fun count reader => ⟨(locked count reader).1, rfl⟩, fun count reader empty => ⟨rfl, ?_⟩⟩
    exact (asleep count reader empty).2.imp id fun ⟨bare, paused, inflight, _⟩ =>
      ⟨bare, paused, inflight, by simp⟩
  | pops here running budget queue =>
    refine ⟨fun count reader => ⟨(locked count reader).1, rfl⟩, fun count reader empty => ⟨rfl, ?_⟩⟩
    exact (asleep count reader empty).2.imp id fun ⟨bare, paused, inflight, _⟩ =>
      ⟨bare, paused, inflight, by simp⟩
  | settles here done same =>
    refine ⟨fun count reader => ⟨(locked count reader).1, rfl⟩, fun count reader empty => ⟨rfl, ?_⟩⟩
    refine (asleep count reader empty).2.imp id fun ⟨bare, paused, inflight, _⟩ => ?_
    refine ⟨bare, same.1.trans paused, same.2.1.trans inflight, fun _ => ?_⟩
    -- flush_device has stopped neither for back-pressure nor for its budget
    rcases nextChunk_none done with stopped | empty | excess
    · rw [paused] at stopped
      cases stopped
    · exact same.2.2.trans empty
    · rw [inflight] at excess
      cases excess
  | enters here free received => exact arrives_waits orderly here free received rfl rfl
  | passes here free received => exact arrives_waits orderly here free received rfl rfl
  | notifies here =>
    refine ⟨fun count reader => ⟨(locked count reader).1, rfl⟩, fun count reader empty => ?_⟩
    have quiet := (asleep count reader empty).1
    rw [here] at quiet
    cases quiet

/-- In a session in which no KFIFO_FULL is overtaken by a reader that finds the kfifo empty,
    the daemon is ready to send whenever the reader sleeps and nothing is under way. -/
theorem sleeper_wakes {s : Flow α}
    (run : Reaches Flow.step (fun s event => overtakesFull s event = false) opened s) : WakesUp s :=
  waits_wakesUp (run.keeps_under (fun orderly _ step => step_orderly orderly step)
    (fun orderly waits late step => step_waits orderly waits late step) opened_orderly
    (waits_awake (by simp [opened]) (by simp [opened]))).2

/-- Four shards reach the high watermark, the handler sends its KFIFO_FULL, and then the
    reader empties the kfifo and goes to sleep. -/
def inOrder : List (FlowEvent UInt8) :=
  [.tcp (List.replicate 3276 0), .flush true, .data true, .flush true, .data true, .flush true,
    .data true, .flush true, .data true, .full, .flush true, .read 4096, .lock true, .copy true,
    .resume, .read 1, .lock true, .sendResume, .kfifo true, .kfifo true, .flush true, .kfifo true,
    .flush true]

def resumed : Flow UInt8 :=
  (execIf Flow.step (fun s event => overtakesFull s event = false) opened inOrder).getD opened

theorem resumed_wakes : WakesUp resumed :=
  sleeper_wakes (reaches_of_execIf inOrder (by decide +kernel))

/-- The same, but the reader empties the kfifo and sends twice KFIFO_AVAILABLE before the
    handler sends its KFIFO_FULL. -/
def overtaken : List (FlowEvent UInt8) :=
  [.tcp (List.replicate 3276 0), .flush true, .data true, .flush true, .data true, .flush true,
    .data true, .flush true, .data true, .read 4096, .lock true, .copy true, .resume, .read 1,
    .lock true, .sendResume, .full, .flush true, .kfifo true, .flush true, .kfifo true,
    .flush true, .kfifo true]

theorem full_comes_last : ¬ ∀ s : Flow UInt8, Reaches Flow.step Any opened s → WakesUp s := by
  intro claim
  have ends : (exec Flow.step opened overtaken).map
      (fun s => (s.reader, s.dev.dataFifo, s.queue, s.daemon, s.minor.paused)) =
      some (.waiting 1, [], [], .select, true) := by decide +kernel
  obtain ⟨s, run, same⟩ := Option.map_eq_some_iff.mp ends
  simp only [Prod.mk.injEq] at same
  obtain ⟨reader, empty, queue, daemon, paused⟩ := same
  have wakes := claim s (reaches_of_exec overtaken run) 1 reader empty queue daemon
  rw [paused] at wakes
  exact absurd wakes.1 (by simp)

end NcdWakeUp
