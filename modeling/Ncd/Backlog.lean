import Ncd.FlowControl

/- How much the driver can be asked to hold: every KFIFO_AVAILABLE that the daemon has still
   to take is worth one more budget of inflight bytes. -/
namespace NcdBacklog
open NcdDriver NcdDaemon NcdFlowControl LabelledRuns

variable {α : Type}

/-- ncd_read has decided on a KFIFO_AVAILABLE and not sent it yet. -/
def owes : ReaderPc α → Nat
  | .resumeLocked _ => 1
  | .copying _ true => 1
  | .resuming => 1
  | _ => 0

def outstanding (s : Flow α) : Nat := s.queue.count .available + owes s.reader

def allocates : FlowEvent α → Bool
  | .lock memory => memory
  | .data memory => memory
  | _ => true

/-- kmalloc succeeds, and at most limit KFIFO_AVAILABLE messages are outstanding. -/
def Within (limit : Nat) (s : Flow α) (event : FlowEvent α) : Prop :=
  outstanding s ≤ limit ∧ allocates event = true

instance (limit : Nat) (s : Flow α) (event : FlowEvent α) : Decidable (Within limit s event) :=
  inferInstanceAs (Decidable (_ ∧ _))

def budget : Nat := NcdDaemon.fifoHighWatermark + shardSize

theorem budget_eq : budget = 4095 := rfl

theorem sizes : shardSize = 819 ∧ NcdDaemon.fifoHighWatermark = 3276 ∧
    NcdDriver.fifoSize = 4096 ∧ NcdDriver.fifoLowWatermark = 819 ∧ fifoPendingLimit = 1048576 :=
  ⟨rfl, rfl, rfl, rfl, rfl⟩

/-- The bytes held and the budgets to come never add up to what would be dropped. -/
structure Backed (s : Flow α) : Prop where
  small : ∀ chunk ∈ s.dev.pendingChunks, chunk.length ≤ shardSize
  sending : ∀ chunk ∈ inTransit s.daemon, s.minor.inflight ≤ NcdDaemon.fifoHighWatermark
  inflight : s.minor.inflight ≤ budget
  kept : s.dropped = false
  bound : outstanding s ≤ 255 → (contents s.dev).length + budget * outstanding s ≤
    818 + budget * 255 + spent s.minor s.daemon

theorem backed_spent {s : Flow α} (orderly : Orderly s) (backed : Backed s) :
    spent s.minor s.daemon ≤ budget := by
  have inflight := backed.inflight
  have sending := backed.sending
  have transit := orderly.transit
  unfold spent
  cases here : s.daemon with
  | notifying chunk arm =>
    have low := sending chunk (by simp [here, inTransit])
    have short := (transit chunk (by simp [here, inTransit])).2
    simp only [budget]
    omega
  | _ => simpa using inflight

theorem backed_room {s : Flow α} {chunk : List α} {arm : Arm} (orderly : Orderly s)
    (backed : Backed s) (few : outstanding s ≤ 255) (here : s.daemon = .sending chunk arm) :
    s.dev.pendingBytes ≤ fifoPendingLimit - chunk.length := by
  have device := orderly.device
  have short := (orderly.transit chunk (by simp [here, inTransit])).2
  have low := backed.sending chunk (by simp [here, inTransit])
  have bound := backed.bound few
  obtain ⟨shard, high, size, _, limit⟩ := sizes
  rw [length_contents device, budget_eq] at bound
  have taken : spent s.minor s.daemon = s.minor.inflight := by simp [spent, here]
  cases pending : s.dev.pendingChunks with
  | nil =>
    have none : s.dev.pendingBytes = 0 := by simp [device.counts, pending]
    omega
  | cons first rest =>
    have late := device.waits first (by simp [pending])
    have small := backed.small first (by simp [pending])
    unfold NcdDevice.kfifoAvail at late
    omega

theorem received_small {dev : NcdDevice α} {chunk : List α} {memory : Bool}
    {after : NcdDevice α × DataFlags} (small : ∀ c ∈ dev.pendingChunks, c.length ≤ shardSize)
    (short : chunk.length ≤ shardSize) (received : Received dev chunk memory after) :
    ∀ c ∈ after.1.pendingChunks, c.length ≤ shardSize := by
  cases received with
  | fits none room kept => exact small
  | waits full fits room kept =>
    intro c member
    rcases List.mem_append.mp member with old | new
    · exact small c old
    · exact List.mem_singleton.mp new ▸ short
  | drops full why gone => exact small

theorem received_kept {dev : NcdDevice α} {chunk : List α} {memory : Bool}
    {after : NcdDevice α × DataFlags} (short : chunk.length ≤ shardSize)
    (room : dev.pendingBytes ≤ fifoPendingLimit - chunk.length) (enough : memory = true)
    (received : Received dev chunk memory after) :
    after.2.dropped = false ∧ (contents after.1).length = (contents dev).length + chunk.length := by
  cases received with
  | fits none fits kept => exact ⟨kept, by simp [contents, none]⟩
  | waits full fits room kept => exact ⟨kept, by simp [contents]; omega⟩
  | drops full why gone =>
    rcases why with large | excess | failed
    · simp only [shardSize, NcdDaemon.fifoLowWatermark, NcdDaemon.fifoSize,
        NcdDriver.fifoSize] at short large
      omega
    · omega
    · rw [enough] at failed
      cases failed

/- The reader goes on and owes the daemon as much as before. -/
theorem backed_reader {s : Flow α} (backed : Backed s) {reader : ReaderPc α}
    (same : owes reader = owes s.reader) : Backed { s with reader := reader } := by
  have still : outstanding { s with reader := reader } = outstanding s := by
    simp only [outstanding, same]
  refine ⟨backed.small, backed.sending, backed.inflight, backed.kept, ?_⟩
  rw [still]
  exact backed.bound

theorem step_backed {s s' : Flow α} {event : FlowEvent α} (orderly : Orderly s)
    (backed : Backed s) (allowed : Within 255 s event) (step : s.step event = some s') :
    Backed s' := by
  have small := backed.small
  have sending := backed.sending
  have inflight := backed.inflight
  have kept := backed.kept
  have bound := backed.bound allowed.1
  have most := backed_spent orderly backed
  cases step_change step with
  | reads here => exact backed_reader backed (by rw [here]; rfl)
  | fails here => exact backed_reader backed (by rw [here]; rfl)
  | wakes here => exact backed_reader backed (by rw [here]; rfl)
  | interrupts here => exact backed_reader backed (by rw [here]; rfl)
  | asks here =>
    exact ⟨small, sending, inflight, kept, fun _ => by simpa [outstanding, here, owes] using bound⟩
  | resumes here =>
    exact ⟨small, sending, inflight, kept, fun _ => by simpa [outstanding, here, owes] using bound⟩
  | finds here empty =>
    refine ⟨small, sending, inflight, kept, fun few => ?_⟩
    have none := empty_nothing_pending orderly.device empty
    simp only [contents, empty, none, budget_eq] at few ⊢
    simp
    omega
  | @takes count memory here =>
    obtain ⟨_, low⟩ := ncdReadLocked_spec orderly.device count
    have fewer := congrArg List.length (ncdReadLocked_contents s.dev count)
    rw [List.length_append] at fewer
    refine ⟨fun c member => small c ((ncdReadLocked_suffix s.dev count).subset member), sending,
      inflight, kept, fun few => ?_⟩
    simp only [outstanding, here, owes, budget_eq] at few bound ⊢
    cases resume : (ncdReadLocked s.dev count).2.2 with
    | false =>
      simp only [resume] at few ⊢
      omega
    | true =>
      have short := low resume
      rw [sizes.2.2.2.1] at short
      simp only [resume, Nat.mul_add] at few ⊢
      omega
  | @copies kbuf shouldResume delivered reader here goes =>
    refine ⟨small, sending, inflight, kept, fun _ => ?_⟩
    simp only [outstanding, here, budget_eq, Nat.mul_add] at bound ⊢
    rcases goes with idle | ⟨decided, resuming⟩
    · simp only [idle, owes]
      omega
    · simpa [resuming, decided, owes] using bound
  | pauses here queue same =>
    refine ⟨small, by simp [here, inTransit], by simpa [same.2.1] using inflight, kept,
      fun _ => ?_⟩
    simpa [outstanding, queue, spent, here, same.2.1] using bound
  | resets here queue =>
    refine ⟨small, by simp [inTransit], Nat.zero_le _, kept, fun _ => ?_⟩
    simp only [outstanding, queue, List.count_cons_self, budget_eq, Nat.mul_add] at bound most ⊢
    simp only [spent]
    omega
  | queues here =>
    exact ⟨small, by simp [inTransit], inflight, kept,
      fun _ => by simpa [outstanding, spent, here] using bound⟩
  | pops here running low queue =>
    exact ⟨small, fun _ _ => low, inflight, kept,
      fun _ => by simpa [outstanding, spent, here] using bound⟩
  | settles here done same =>
    refine ⟨small, by simp [inTransit], by simpa [same.2.1] using inflight, kept, fun _ => ?_⟩
    simpa [outstanding, spent, here, same.2.1] using bound
  | @enters chunk arm memory after here free received =>
    subst received
    have transit := orderly.transit chunk (by simp [here, inTransit])
    have received := orderly_received orderly here memory
    obtain ⟨lands, more⟩ := received_kept transit.2 (backed_room orderly backed allowed.1 here)
      allowed.2 received
    refine ⟨received_small small transit.2 received, ?_, inflight, by simp [kept, lands],
      fun _ => ?_⟩
    · simpa [here, inTransit] using sending
    · simp only [outstanding, spent, here, budget_eq, Nat.mul_add] at bound ⊢
      omega
  | @passes chunk arm memory after here free received =>
    subst received
    have transit := orderly.transit chunk (by simp [here, inTransit])
    have received := orderly_received orderly here memory
    obtain ⟨lands, more⟩ := received_kept transit.2 (backed_room orderly backed allowed.1 here)
      allowed.2 received
    refine ⟨received_small small transit.2 received, by simp [inTransit], ?_, by simp [kept, lands],
      fun _ => ?_⟩
    · have low := sending chunk (by simp [here, inTransit])
      simp only [Minor.sent, budget]
      omega
    · simp only [outstanding, spent, here, Minor.sent, budget_eq, Nat.mul_add] at bound ⊢
      omega
  | @notifies chunk arm here =>
    have low := sending chunk (by simp [here, inTransit])
    have short := (orderly.transit chunk (by simp [here, inTransit])).2
    refine ⟨small, by simp [inTransit], ?_, kept, fun _ => ?_⟩
    · simp only [Minor.sent, budget]
      omega
    · simpa [outstanding, spent, here, Minor.sent] using bound

theorem opened_backed : Backed (opened : Flow α) := by
  refine ⟨by simp [opened], by simp [opened, inTransit], Nat.zero_le _, rfl, fun _ => ?_⟩
  have nothing :
      (contents (opened : Flow α).dev).length + budget * outstanding (opened : Flow α) = 0 := by
    simp [opened, outstanding, owes, contents]
  rw [nothing]
  exact Nat.zero_le _

theorem few_never_drop {s : Flow α} (run : Reaches Flow.step (Within 255) opened s) :
    s.dropped = false :=
  (run.keeps_under (fun orderly _ step => step_orderly orderly step)
    (fun orderly backed allowed step => step_backed orderly backed allowed step) opened_orderly
    opened_backed).2.kept

/- From here on the other direction: 256 outstanding KFIFO_AVAILABLE messages, asked for by
   reads of one byte each, are enough for a drop. -/

def zeros (n : Nat) : List UInt8 := List.replicate n 0

def firstRead : List (FlowEvent UInt8) :=
  [.tcp (zeros 819), .flush true, .data true, .flush true, .read 1, .lock true, .copy true,
    .resume, .kfifo true, .flush true]

def asked (n left : Nat) (reader : ReaderPc UInt8) : Flow UInt8 :=
  { dev := { dataFifo := zeros left }, reader := reader, queue := List.replicate n .available }

theorem asked_first : Reaches Flow.step (Within 256) opened (asked 0 818 .idle) :=
  reaches_of_execIf firstRead (by decide +kernel)

theorem asked_within {n left : Nat} {reader : ReaderPc UInt8} {event : FlowEvent UInt8}
    (few : n < 256) (one : owes reader ≤ 1) (allocated : allocates event = true) :
    Within 256 (asked n left reader) event := by
  refine ⟨?_, allocated⟩
  simp only [outstanding, asked, List.count_replicate_self]
  omega

theorem read_one {n : Nat} (low : n < 819) :
    ncdReadLocked { dataFifo := zeros (n + 1) } 1 = ({ dataFifo := zeros n }, [0], true) := by
  have want : min 1 NcdDriver.fifoSize = 1 := rfl
  have below : n < NcdDriver.fifoLowWatermark := sizes.2.2.2.1 ▸ low
  simp [ncdReadLocked, ncdDrainPendingLocked, drainLoop, want, zeros, List.replicate_succ, below]

theorem asked_succ {n left : Nat} (few : n < 256) (low : left < 819) :
    Reaches Flow.step (Within 256) (asked n (left + 1) .idle) (asked (n + 1) left .idle) := by
  have enters : (asked n (left + 1) .idle).step (.read 1) =
      some (asked n (left + 1) (.entering 1)) := rfl
  have decides : (asked n (left + 1) (.entering 1)).step (.lock true) =
      some (asked n left (.copying [0] true)) := by
    have nonempty : zeros (left + 1) ≠ [] := by simp [zeros]
    simp [Flow.step, Flow.lock, asked, nonempty, read_one low]
  have copies : (asked n left (.copying [0] true)).step (.copy true) =
      some (asked n left .resuming) := rfl
  have sends : (asked n left .resuming).step .resume = some (asked (n + 1) left .idle) := by
    simp [Flow.step, asked, List.replicate_succ']
  have entered := Reaches.single (asked_within few (Nat.zero_le _) rfl) enters
  have decided := entered.snoc (asked_within few (Nat.zero_le _) rfl) decides
  exact (decided.snoc (asked_within few (Nat.le_refl _) rfl) copies).snoc
    (asked_within few (Nat.le_refl _) rfl) sends

theorem asked_all {n : Nat} (few : n ≤ 256) :
    Reaches Flow.step (Within 256) opened (asked n (818 - n) .idle) := by
  induction n with
  | zero => exact asked_first
  | succ n ih =>
    have left : 818 - n = 818 - (n + 1) + 1 := by omega
    have before := ih (by omega)
    rw [left] at before
    exact before.trans (asked_succ (by omega) (by omega))

/-- The daemon has some shards to send on the current budget, and so many KFIFO_AVAILABLE
    messages before anything else in its queue; the driver holds a number of bytes. -/
structure Feeding (shards credits held : Nat) (s : Flow UInt8) : Prop where
  reached : Reaches Flow.step (Within 256) opened s
  reader : s.reader = .idle
  daemon : s.daemon = .flushing .tcp
  running : s.minor.paused = false
  affords : s.minor.inflight + shardSize * shards ≤ budget
  pending : s.minor.pending.length = shards
  full : ∀ chunk ∈ s.minor.pending, chunk.length = shardSize
  queue : ∃ tail, s.queue = List.replicate credits .available ++ tail ∧ tail.count .available = 0
  few : credits ≤ 256
  backlog : s.dev.pendingBytes ≤ fifoPendingLimit
  held : (contents s.dev).length = held

theorem quiet_within {credits : Nat} {s : Flow UInt8} {tail : List DriverMsg}
    (event : FlowEvent UInt8) (reader : s.reader = .idle)
    (queue : s.queue = List.replicate credits .available ++ tail)
    (none : tail.count .available = 0) (few : credits ≤ 256) (allocated : allocates event = true) :
    Within 256 s event := by
  refine ⟨?_, allocated⟩
  simp only [outstanding, reader, owes, queue, List.count_append, List.count_replicate_self, none]
  omega

theorem chunk_lands {s : Flow UInt8} {chunk : List UInt8} {credits : Nat} {tail : List DriverMsg}
    (reached : Reaches Flow.step (Within 256) opened s) (reader : s.reader = .idle)
    (here : s.daemon = .sending chunk .tcp)
    (queue : s.queue = List.replicate credits .available ++ tail)
    (none : tail.count .available = 0) (few : credits ≤ 256) :
    ∃ t, Reaches Flow.step (Within 256) opened t ∧ t.reader = .idle ∧ t.daemon = .flushing .tcp ∧
      t.minor = s.minor.sent chunk ∧ t.dev = (recvData s.dev chunk true).1 ∧
      t.dropped = (s.dropped || (recvData s.dev chunk true).2.dropped) ∧
      ∃ tail', t.queue = List.replicate credits .available ++ tail' ∧
        tail'.count .available = 0 := by
  have allowed := quiet_within (.data true) reader queue none few rfl
  have free : lockFree s.reader = true := by rw [reader]; rfl
  cases pause : (recvData s.dev chunk true).2.shouldPause with
  | false =>
    have step : s.step (.data true) = some { s with
        dev := (recvData s.dev chunk true).1
        dropped := s.dropped || (recvData s.dev chunk true).2.dropped
        minor := s.minor.sent chunk, daemon := .flushing .tcp } := by
      simp [Flow.step, Flow.data, here, free, pause]
    exact ⟨_, reached.snoc allowed step, reader, rfl, rfl, rfl, rfl, tail, queue, none⟩
  | true =>
    have step : s.step (.data true) = some { s with
        dev := (recvData s.dev chunk true).1
        dropped := s.dropped || (recvData s.dev chunk true).2.dropped
        daemon := .notifying chunk .tcp } := by
      simp [Flow.step, Flow.data, here, free, pause]
    have later := reached.snoc allowed step
    refine ⟨_, later.snoc (e := .full) (quiet_within _ reader queue none few rfl) rfl, reader, rfl,
      rfl, rfl, rfl, tail ++ [.full], ?_, ?_⟩
    · simp [queue]
    · simp [none]

theorem received_undropped {dev : NcdDevice α} {chunk : List α} {memory : Bool}
    {after : NcdDevice α × DataFlags} (backlog : dev.pendingBytes ≤ fifoPendingLimit)
    (short : chunk.length ≤ fifoPendingLimit) (kept : after.2.dropped = false)
    (received : Received dev chunk memory after) :
    after.1.pendingBytes ≤ fifoPendingLimit ∧
      (contents after.1).length = (contents dev).length + chunk.length := by
  cases received with
  | fits none fits kept => exact ⟨backlog, by simp [contents, none]⟩
  | waits full fits room kept =>
    refine ⟨?_, by simp [contents]; omega⟩
    dsimp only
    omega
  | drops full why gone =>
    rw [kept] at gone
    cases gone

/-- If nothing is ever dropped, one more shard is taken in. -/
theorem feed {shards credits held : Nat} {s : Flow UInt8}
    (never : ∀ t : Flow UInt8, Reaches Flow.step (Within 256) opened t → t.dropped = false)
    (feeding : Feeding (shards + 1) credits held s) :
    ∃ t, Feeding shards credits (held + shardSize) t := by
  obtain ⟨tail, queue, none⟩ := feeding.queue
  have affords := feeding.affords
  rw [Nat.mul_add, Nat.mul_one] at affords
  have low : s.minor.inflight ≤ NcdDaemon.fifoHighWatermark := by
    simp only [budget] at affords
    omega
  obtain ⟨chunk, rest, pending⟩ := List.exists_cons_of_length_eq_add_one feeding.pending
  have size : chunk.length = shardSize := feeding.full chunk (by simp [pending])
  have pops : s.step (.flush true) = some { s with
      minor := { s.minor with pending := rest }, daemon := .sending chunk .tcp } := by
    simp only [Flow.step, Flow.flush, feeding.daemon, nextChunk_first feeding.running low pending]
  have popped := feeding.reached.snoc
    (quiet_within _ feeding.reader queue none feeding.few rfl) pops
  obtain ⟨t, reached, reader, daemon, minor, dev, dropped, after⟩ :=
    chunk_lands popped feeding.reader rfl queue none feeding.few
  have orderly := popped.keeps (fun orderly _ step => step_orderly orderly step) opened_orderly
  have received : Received s.dev chunk true (recvData s.dev chunk true) :=
    orderly_received orderly rfl true
  have kept : (recvData s.dev chunk true).2.dropped = false := by
    have none := dropped.symm.trans (never t reached)
    exact (Bool.or_eq_false_iff.mp none).2
  obtain ⟨backlog, more⟩ := received_undropped feeding.backlog
    (by rw [size, sizes.1, sizes.2.2.2.2]; omega) kept received
  refine ⟨t, reached, reader, daemon, ?_, ?_, ?_, ?_, after, feeding.few, dev ▸ backlog, ?_⟩
  · simp [minor, Minor.sent, feeding.running]
  · simp only [minor, Minor.sent, size]
    omega
  · simpa [minor, Minor.sent, pending] using feeding.pending
  · intro c member
    simp only [minor, Minor.sent] at member
    exact feeding.full c (by simp [pending, member])
  · rw [dev, more, feeding.held, size]

theorem settle {s : Flow α} {arm : Arm} (here : s.daemon = .flushing arm)
    (empty : s.minor.pending = []) :
    ∃ minor, SameFlow s.minor minor ∧
      s.step (.flush true) = some { s with minor := minor, daemon := .select } := by
  have done : s.minor.nextChunk = none := by
    unfold Minor.nextChunk
    rw [empty]
    split <;> rfl
  refine ⟨_, sync_keeps s.minor (s.kfifoPaused arm) true, ?_⟩
  simp only [Flow.step, Flow.flush, here, done]

theorem shards_of_budget : (queueShards [] (zeros budget)).length = 5 ∧
    ∀ chunk ∈ queueShards [] (zeros budget), chunk.length = shardSize := by
  decide +kernel

theorem refill {credits held : Nat} {s : Flow UInt8} (feeding : Feeding 0 (credits + 1) held s) :
    ∃ t, Feeding 5 credits held t := by
  obtain ⟨tail, queue, none⟩ := feeding.queue
  have few := feeding.few
  have empty := List.length_eq_zero_iff.mp feeding.pending
  obtain ⟨first, same, settles⟩ := settle feeding.daemon empty
  have settled := feeding.reached.snoc (quiet_within _ feeding.reader queue none few rfl) settles
  have takes : Flow.step { s with minor := first, daemon := .select } (.kfifo true) = some { s with
      queue := List.replicate credits .available ++ tail
      minor := { first with paused := false, inflight := 0 }
      daemon := .flushing .available } := by
    simp only [Flow.step, Flow.kfifo, queue, List.replicate_succ, List.cons_append]
  have taken := settled.snoc (quiet_within _ feeding.reader queue none few rfl) takes
  obtain ⟨second, same', settles'⟩ := settle (s := { s with
      queue := List.replicate credits .available ++ tail
      minor := { first with paused := false, inflight := 0 }
      daemon := .flushing .available }) rfl (same.2.2.trans empty)
  have allowed : ∀ minor daemon event, allocates event = true → Within 256 { s with
      queue := List.replicate credits .available ++ tail
      minor := minor
      daemon := daemon } event :=
    fun minor daemon event allocated =>
      quiet_within _ feeding.reader rfl none (by omega) allocated
  have settled' := taken.snoc (allowed _ _ (.flush true) rfl) settles'
  have arrived := settled'.snoc (allowed _ _ (.tcp (zeros budget)) rfl) rfl
  have none_left : second.pending = [] := same'.2.2.trans (same.2.2.trans empty)
  refine ⟨_, arrived, feeding.reader, rfl, same'.1, ?_, ?_, ?_, ⟨tail, rfl, none⟩, by omega,
    feeding.backlog, feeding.held⟩
  · simp only [same'.2.1]
    decide
  · simp only [none_left]
    exact shards_of_budget.1
  · simp only [none_left]
    exact shards_of_budget.2

theorem feed_all {shards credits held : Nat} {s : Flow UInt8}
    (never : ∀ t : Flow UInt8, Reaches Flow.step (Within 256) opened t → t.dropped = false)
    (feeding : Feeding shards credits held s) :
    ∃ t, Feeding 0 credits (held + shardSize * shards) t := by
  induction shards generalizing held s with
  | zero => exact ⟨s, feeding⟩
  | succ shards ih =>
    obtain ⟨t, fed⟩ := feed never feeding
    obtain ⟨u, last⟩ := ih fed
    refine ⟨u, ?_⟩
    rwa [Nat.add_assoc, Nat.add_comm shardSize, ← Nat.mul_succ] at last

theorem spend_all {credits held : Nat} {s : Flow UInt8}
    (never : ∀ t : Flow UInt8, Reaches Flow.step (Within 256) opened t → t.dropped = false)
    (feeding : Feeding 0 credits held s) :
    ∃ t, Feeding 0 0 (held + budget * credits) t := by
  induction credits generalizing held s with
  | zero => exact ⟨s, feeding⟩
  | succ credits ih =>
    obtain ⟨t, refilled⟩ := refill feeding
    obtain ⟨u, fed⟩ := feed_all never refilled
    obtain ⟨v, last⟩ := ih fed
    refine ⟨v, ?_⟩
    have five : shardSize * 5 = budget := rfl
    rwa [five, Nat.add_assoc, Nat.add_comm budget, ← Nat.mul_succ] at last

/-- 257 budgets do not fit behind a full kfifo. -/
theorem many_drop :
    ∃ t : Flow UInt8, Reaches Flow.step (Within 256) opened t ∧ t.dropped = true := by
  by_contra all
  have never : ∀ t : Flow UInt8, Reaches Flow.step (Within 256) opened t → t.dropped = false :=
    fun t run => by
      cases dropped : t.dropped with
      | false => rfl
      | true => exact absurd ⟨t, run, dropped⟩ all
  have within := quiet_within (s := asked 256 562 .idle) (.tcp (zeros budget)) rfl
    (List.append_nil _).symm List.count_nil (Nat.le_refl _) rfl
  have start : Feeding 5 256 562 _ := {
    reached := (asked_all (Nat.le_refl _)).snoc within rfl
    reader := rfl
    daemon := rfl
    running := rfl
    affords := by decide
    pending := shards_of_budget.1
    full := shards_of_budget.2
    queue := ⟨[], (List.append_nil _).symm, rfl⟩
    few := Nat.le_refl _
    backlog := Nat.zero_le _
    held := by
      simp only [contents, asked, zeros, List.flatten_nil, List.append_nil, List.length_replicate] }
  obtain ⟨s, first⟩ := feed_all never start
  obtain ⟨t, last⟩ := spend_all never first
  have orderly :=
    last.reached.keeps (fun orderly _ step => step_orderly orderly step) opened_orderly
  have held := last.held
  have bound := orderly.device.bound
  have backlog := last.backlog
  obtain ⟨shard, _, size, _, limit⟩ := sizes
  rw [length_contents orderly.device, shard, budget_eq] at held
  omega

/-- No chunk is ever dropped exactly when at most 255 KFIFO_AVAILABLE messages may be
    outstanding. -/
theorem never_drops_iff (limit : Nat) :
    (∀ s : Flow UInt8, Reaches Flow.step (Within limit) opened s → s.dropped = false) ↔
      limit ≤ 255 := by
  constructor
  · intro never
    by_contra large
    obtain ⟨s, run, dropped⟩ := many_drop
    have enough : 256 ≤ limit := Nat.lt_of_not_le large
    have more : ∀ (t : Flow UInt8) event, Within 256 t event → Within limit t event :=
      fun t event within => ⟨Nat.le_trans within.1 enough, within.2⟩
    rw [never s (run.mono more)] at dropped
    cases dropped
  · intro few s run
    exact few_never_drop (run.mono fun t event within => ⟨Nat.le_trans within.1 few, within.2⟩)

theorem backlog_drops :
    ¬ ∀ s : Flow UInt8, Reaches Flow.step (fun _ event => allocates event = true) opened s →
      s.dropped = false := by
  intro never
  obtain ⟨s, run, dropped⟩ := many_drop
  rw [never s (run.mono fun _ _ within => within.2)] at dropped
  cases dropped

end NcdBacklog
