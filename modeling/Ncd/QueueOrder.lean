import Ncd.MainLoop

/- The queue of the main loop between two resets: no send that fails loses, doubles or
   reorders a chunk, and what goes out before the kernel reports room fits its fifo. -/
namespace NcdQueueOrder
open NcdDaemon NcdFlowControl NcdSessions NcdMainLoop LabelledRuns Chunks

/-- The most that goes out before inflight starts again. -/
def windowSize : Nat := fifoHighWatermark + shardSize

theorem window_fits : windowSize < fifoSize := by decide

structure Conserved (s : MainLoop) : Prop where
  order : s.sent.flatten ++ s.minor.pending.flatten = s.received
  chunks : ∀ chunk ∈ s.sent ++ s.minor.pending, chunk ≠ [] ∧ chunk.length ≤ shardSize
  budget : s.minor.inflight ≤ windowSize

structure Careful (s : MainLoop) : Prop where
  silent : ∀ event s', s.step event = some s' → s.minor.paused = true →
    event.resets = false → s'.sent = s.sent
  window : ∀ s', Reaches MainLoop.step (fun _ event => event.restarts = false) s s' →
    ∃ out, s'.sent = s.sent ++ out ∧ out.flatten.length ≤ windowSize
  flushed : ∀ s', s.step .settle = some s' → s'.minor.pending = [] ∨
    s'.minor.paused = true ∨ fifoHighWatermark < s'.minor.inflight

structure SameQueue (s s' : MainLoop) : Prop where
  paused : s'.minor.paused = s.minor.paused
  inflight : s'.minor.inflight = s.minor.inflight
  pending : s'.minor.pending = s.minor.pending
  received : s'.received = s.received
  sent : s'.sent = s.sent

theorem sync_same (s : MainLoop) (kfifoPaused : Bool) : SameQueue s (s.sync kfifoPaused) := by
  obtain ⟨paused, inflight, pending⟩ := sync_keeps s.minor kfifoPaused s.accepts
  unfold MainLoop.sync
  dsimp only
  rw [MainLoop.command_keeps]
  exact ⟨paused, inflight, pending, rfl, rfl⟩

theorem command_same (s : MainLoop) (command : Option WriteCommand) :
    SameQueue s (s.command command) := by
  rw [MainLoop.command_keeps]
  exact ⟨rfl, rfl, rfl, rfl, rfl⟩

theorem Conserved.same {s s' : MainLoop} (kept : Conserved s) (same : SameQueue s s') :
    Conserved s' := by
  constructor
  · rw [same.sent, same.pending, same.received]
    exact kept.order
  · rw [same.sent, same.pending]
    exact kept.chunks
  · rw [same.inflight]
    exact kept.budget

theorem conserved_empty {s : MainLoop} (sent : s.sent = []) (received : s.received = [])
    (minor : s.minor = {}) : Conserved s := by
  constructor
  · simp [sent, received, minor]
  · simp [sent, minor]
  · simp [minor]

theorem opened_empty (s : MainLoop) (connected : Bool) : Conserved (s.openReq connected) := by
  cases connected with
  | true => exact conserved_empty rfl rfl rfl
  | false => exact conserved_empty rfl rfl rfl

theorem queued_chunks {s : MainLoop} (kept : Conserved s) (data : List UInt8) :
    ∀ chunk ∈ s.sent ++ queueShards s.minor.pending data,
      chunk ≠ [] ∧ chunk.length ≤ shardSize := by
  intro chunk member
  rcases List.mem_append.mp member with out | queued
  · exact kept.chunks chunk (List.mem_append_left _ out)
  · rcases queueShards_bounds queued with before | fresh
    · exact kept.chunks chunk (List.mem_append_right _ before)
    · exact fresh

theorem conserved_step {s s' : MainLoop} {event : LoopEvent} (kept : Conserved s)
    (step : s.step event = some s') : Conserved s' := by
  cases step_change step with
  | acts => exact ⟨kept.order, kept.chunks, kept.budget⟩
  | opens => exact opened_empty s _
  | writes => exact kept.same (command_same s _)
  | closes => exact conserved_empty rfl rfl rfl
  | pauses =>
    have paused : Conserved { s with minor := { s.minor with paused := true } } :=
      ⟨kept.order, kept.chunks, kept.budget⟩
    exact paused.same (sync_same _ true)
  | resumes => exact ⟨kept.order, kept.chunks, Nat.zero_le _⟩
  | @queues data =>
    constructor
    · have whole : (chunks shardSize data).flatten = data := chunks_flatten (by decide) data
      dsimp only
      rw [queueShards, List.flatten_append, whole, ← List.append_assoc, kept.order]
    · exact queued_chunks kept data
    · exact kept.budget
  | @sends arm chunk rest here running budget queue =>
    have moved : (s.sent ++ [chunk]) ++ rest = s.sent ++ s.minor.pending := by
      rw [queue, List.append_assoc]
      rfl
    constructor
    · dsimp only
      rw [← List.flatten_append, moved, List.flatten_append]
      exact kept.order
    · dsimp only
      rw [moved]
      exact kept.chunks
    · have small := (kept.chunks chunk (by simp [queue])).2
      dsimp only [windowSize]
      omega
  | fails => exact kept.same (sync_same s _)
  | settles => exact kept.same (sync_same s _)

theorem conserved_run {s : MainLoop} (run : Reaches MainLoop.step Any created s) :
    Conserved s := by
  apply run.keeps (I := Conserved)
  · intro s event s' kept _ step
    exact conserved_step kept step
  · exact conserved_empty rfl rfl rfl

theorem silent_step {s s' : MainLoop} {event : LoopEvent} (step : s.step event = some s')
    (paused : s.minor.paused = true) (goes_on : event.resets = false) : s'.sent = s.sent := by
  cases step_change step with
  | acts => rfl
  | opens => simp [LoopEvent.resets] at goes_on
  | writes => exact (command_same s _).sent
  | closes => simp [LoopEvent.resets] at goes_on
  | pauses => exact (sync_same _ true).sent
  | resumes => rfl
  | queues => rfl
  | sends here running budget queue =>
    rw [paused] at running
    cases running
  | fails => exact (sync_same s _).sent
  | settles => exact (sync_same s _).sent

def Counts (s s' : MainLoop) : Prop :=
  ∃ out, s'.sent = s.sent ++ out ∧ s'.minor.inflight = s.minor.inflight + out.flatten.length

theorem Counts.same {s t t' : MainLoop} (counts : Counts s t) (same : SameQueue t t') :
    Counts s t' := by
  obtain ⟨out, sent, inflight⟩ := counts
  exact ⟨out, by rw [same.sent, sent], by rw [same.inflight, inflight]⟩

theorem counts_step {s t t' : MainLoop} {event : LoopEvent} (counts : Counts s t)
    (goes_on : event.restarts = false) (step : t.step event = some t') : Counts s t' := by
  cases step_change step with
  | acts => exact counts
  | opens => simp [LoopEvent.restarts, LoopEvent.resets] at goes_on
  | writes => exact counts.same (command_same t _)
  | closes => simp [LoopEvent.restarts, LoopEvent.resets] at goes_on
  | pauses =>
    have paused : Counts s { t with minor := { t.minor with paused := true } } := counts
    exact paused.same (sync_same _ true)
  | resumes => simp [LoopEvent.restarts] at goes_on
  | queues => exact counts
  | @sends arm chunk rest here running budget queue =>
    obtain ⟨out, sent, inflight⟩ := counts
    refine ⟨out ++ [chunk], ?_, ?_⟩
    · dsimp only
      rw [sent, List.append_assoc]
    · simp only [List.flatten_append, List.flatten_singleton, List.length_append]
      omega
  | fails => exact counts.same (sync_same t _)
  | settles => exact counts.same (sync_same t _)

theorem window_run {s s' : MainLoop} (kept : Conserved s)
    (run : Reaches MainLoop.step (fun _ event => event.restarts = false) s s') :
    ∃ out, s'.sent = s.sent ++ out ∧ out.flatten.length ≤ windowSize := by
  have both : Conserved s' ∧ Counts s s' := by
    apply run.keeps_under (K := Conserved) (I := Counts s)
    · intro t event t' kept _ step
      exact conserved_step kept step
    · intro t event t' _ counts goes_on step
      exact counts_step counts goes_on step
    · exact kept
    · exact ⟨[], by simp, by simp⟩
  obtain ⟨out, sent, inflight⟩ := both.2
  have budget := both.1.budget
  exact ⟨out, sent, by omega⟩

theorem flushed_step {s s' : MainLoop} (step : s.step .settle = some s') :
    s'.minor.pending = [] ∨ s'.minor.paused = true ∨ fifoHighWatermark < s'.minor.inflight := by
  cases step_change step with
  | @settles arm here done =>
    have same := sync_same s (s.kfifoPaused arm)
    rw [same.pending, same.paused, same.inflight]
    rcases nextChunk_none done with paused | empty | excess
    · exact Or.inr (Or.inl paused)
    · exact Or.inl empty
    · exact Or.inr (Or.inr excess)

theorem queue_conserved {s : MainLoop} (run : Reaches MainLoop.step Any created s) :
    Conserved s ∧ Careful s ∧ windowSize < fifoSize := by
  have kept := conserved_run run
  constructor
  · exact kept
  constructor
  · constructor
    · intro event s' step paused goes_on
      exact silent_step step paused goes_on
    · intro s' later
      exact window_run kept later
    · intro s' step
      exact flushed_step step
  · exact window_fits

theorem queue_conserved_after_failure :
    ∃ s, s.minor.pending = [[2, 3]] ∧ Conserved s ∧ Careful s ∧ windowSize < fifoSize := by
  have run : exec MainLoop.step created [.openReq true, .tcp [1], .send true, .settle,
      .tcp [2, 3], .send false] = some
      { minor := { inflight := 1, readPaused := true, pending := [[2, 3]] }
        writeTx := some 0
        actors := [{ session := 0, commands := [.pauseRead] }]
        received := [1, 2, 3]
        sent := [[1]] } := by decide +kernel
  exact ⟨_, rfl, queue_conserved (reaches_of_exec _ run)⟩

end NcdQueueOrder
