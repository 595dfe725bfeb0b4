import Ncd.FlowControl

/- One call of ncd_read on a device in any state, with the DATA messages that arrive while
   it runs. A call that is interrupted or gets no memory takes nothing; one whose
   copy_to_user fails has taken the bytes already. -/
namespace NcdReadCall
open NcdDriver NcdFlowControl LabelledRuns

variable {α : Type}

inductive Errno where
  | interrupted
  | noMemory
  | fault
  deriving DecidableEq, Repr

inductive Outcome (α : Type) where
  | returned (bytes : List α)
  | failed (errno : Errno)
  deriving DecidableEq, Repr

/-- The last five fields only record: the bytes that the DATA handler has taken into the
    device, those that kfifo_out has taken out of it, whether the call has cleared
    kfifo_paused, whether it has sent KFIFO_AVAILABLE, and whether its copy_to_user failed. -/
structure ReadCall (α : Type) where
  dev : NcdDevice α
  reader : ReaderPc α
  outcome : Option (Outcome α) := none
  arrived : List α := []
  taken : List α := []
  cleared : Bool := false
  told : Bool := false
  faulted : Bool := false
  deriving DecidableEq, Repr

/-- memory: kmalloc succeeds. delivered: copy_to_user succeeds. -/
inductive ReadEvent (α : Type) where
  | lock (memory : Bool)
  | sendResume
  | wake
  | signal
  | copy (delivered : Bool)
  | resume
  | data (payload : List α) (memory : Bool)
  deriving DecidableEq, Repr

def called (dev : NcdDevice α) (count : Nat) : ReadCall α :=
  { dev := dev, reader := .entering count }

def ReadCall.lock (s : ReadCall α) (memory : Bool) : Option (ReadCall α) :=
  match s.reader with
  | .entering count =>
    if s.dev.dataFifo = [] then some { s with reader := .resumeLocked count }
    else if memory = false then
      some { s with reader := .idle, outcome := some (.failed .noMemory) }
    else
      let read := ncdReadLocked s.dev count
      some { s with
        dev := read.1
        reader := .copying read.2.1 read.2.2
        taken := read.2.1
        cleared := s.dev.kfifoPaused && !read.1.kfifoPaused }
  | _ => none

/-- After the lock: copy_to_user, unless there is nothing to copy. -/
def ReadCall.copy (s : ReadCall α) (delivered : Bool) : Option (ReadCall α) :=
  match s.reader with
  | .copying kbuf shouldResume =>
    if kbuf.isEmpty || delivered then
      if shouldResume then some { s with reader := .resuming }
      else some { s with reader := .idle, outcome := some (.returned kbuf) }
    else some { s with reader := .idle, outcome := some (.failed .fault), faulted := true }
  | _ => none

/-- The DATA handler; it needs fifo_lock. -/
def ReadCall.data (s : ReadCall α) (payload : List α) (memory : Bool) : Option (ReadCall α) :=
  if lockFree s.reader then
    let received := recvData s.dev payload memory
    some { s with
      dev := received.1
      arrived := s.arrived ++ if received.2.dropped then [] else payload }
  else none

def ReadCall.step (s : ReadCall α) : ReadEvent α → Option (ReadCall α)
  | .lock memory => s.lock memory
  | .sendResume =>
    match s.reader with
    | .resumeLocked count => some { s with reader := .waiting count, told := true }
    | _ => none
  | .wake =>
    match s.reader with
    | .waiting count =>
      if s.dev.dataFifo = [] then none else some { s with reader := .entering count }
    | _ => none
  | .signal =>
    match s.reader with
    | .waiting _ => some { s with reader := .idle, outcome := some (.failed .interrupted) }
    | _ => none
  | .copy delivered => s.copy delivered
  | .resume =>
    match s.reader with
    | .resuming =>
      some { s with reader := .idle, told := true, outcome := some (.returned s.taken) }
    | _ => none
  | .data payload memory => s.data payload memory

def Failed (s : ReadCall α) : Prop := ∃ errno, s.outcome = some (.failed errno)

/-- Nothing is gone of what the device held and got, and no pause ended in silence. -/
structure Kept (dev : NcdDevice α) (s : ReadCall α) : Prop where
  buffered : contents s.dev = contents dev ++ s.arrived
  announced : s.cleared = true → s.told = true

inductive Change (s : ReadCall α) : ReadEvent α → ReadCall α → Prop where
  | finds {count : Nat} {memory : Bool} (here : s.reader = .entering count) :
      Change s (.lock memory) { s with reader := .resumeLocked count }
  | lacks {count : Nat} {memory : Bool} (here : s.reader = .entering count) :
      Change s (.lock memory) { s with reader := .idle, outcome := some (.failed .noMemory) }
  | takes {count : Nat} {memory : Bool} (here : s.reader = .entering count) :
      Change s (.lock memory) { s with
        dev := (ncdReadLocked s.dev count).1
        reader := .copying (ncdReadLocked s.dev count).2.1 (ncdReadLocked s.dev count).2.2
        taken := (ncdReadLocked s.dev count).2.1
        cleared := s.dev.kfifoPaused && !(ncdReadLocked s.dev count).1.kfifoPaused }
  | asks {count : Nat} (here : s.reader = .resumeLocked count) :
      Change s .sendResume { s with reader := .waiting count, told := true }
  | wakes {count : Nat} (here : s.reader = .waiting count) :
      Change s .wake { s with reader := .entering count }
  | interrupts {count : Nat} (here : s.reader = .waiting count) :
      Change s .signal { s with reader := .idle, outcome := some (.failed .interrupted) }
  | delivers {kbuf : List α} {delivered : Bool} (here : s.reader = .copying kbuf true) :
      Change s (.copy delivered) { s with reader := .resuming }
  | returns {kbuf : List α} {delivered : Bool} (here : s.reader = .copying kbuf false) :
      Change s (.copy delivered) { s with reader := .idle, outcome := some (.returned kbuf) }
  | faults {kbuf : List α} {shouldResume : Bool} (here : s.reader = .copying kbuf shouldResume)
      (nonempty : kbuf ≠ []) :
      Change s (.copy false) { s with
        reader := .idle, outcome := some (.failed .fault), faulted := true }
  | resumes (here : s.reader = .resuming) :
      Change s .resume { s with
        reader := .idle, told := true, outcome := some (.returned s.taken) }
  | arrives {payload : List α} {memory : Bool} {after : NcdDevice α × DataFlags}
      (received : after = recvData s.dev payload memory) :
      Change s (.data payload memory) { s with
        dev := after.1
        arrived := s.arrived ++ if after.2.dropped then [] else payload }

theorem lock_change {s s' : ReadCall α} {memory : Bool} (step : s.lock memory = some s') :
    Change s (.lock memory) s' := by
  unfold ReadCall.lock at step
  split at step
  · rename_i count here
    split at step
    · cases step
      exact .finds here
    · split at step
      · cases step
        exact .lacks here
      · cases step
        exact .takes here
  · cases step

theorem copy_change {s s' : ReadCall α} {delivered : Bool} (step : s.copy delivered = some s') :
    Change s (.copy delivered) s' := by
  unfold ReadCall.copy at step
  split at step
  · rename_i kbuf shouldResume here
    split at step
    · cases shouldResume with
      | true =>
        cases step
        exact .delivers here
      | false =>
        cases step
        exact .returns here
    · rename_i refused
      cases delivered with
      | true => simp at refused
      | false =>
        cases step
        exact .faults here (by simpa using refused)
  · cases step

theorem step_change {s s' : ReadCall α} {event : ReadEvent α} (step : s.step event = some s') :
    Change s event s' := by
  cases event with
  | lock memory => exact lock_change step
  | sendResume =>
    simp only [ReadCall.step] at step
    split at step
    · rename_i count here
      cases step
      exact .asks here
    · cases step
  | wake =>
    simp only [ReadCall.step] at step
    split at step
    · rename_i count here
      split at step
      · cases step
      · cases step
        exact .wakes here
    · cases step
  | signal =>
    simp only [ReadCall.step] at step
    split at step
    · rename_i count here
      cases step
      exact .interrupts here
    · cases step
  | copy delivered => exact copy_change step
  | resume =>
    simp only [ReadCall.step] at step
    split at step
    · rename_i here
      cases step
      exact .resumes here
    · cases step
  | data payload memory =>
    simp only [ReadCall.step, ReadCall.data] at step
    split at step
    · cases step
      exact .arrives rfl
    · cases step

structure Held (dev : NcdDevice α) (s : ReadCall α) : Prop where
  whole : s.taken ++ contents s.dev = contents dev ++ s.arrived
  before : ∀ count, s.reader = .entering count ∨ s.reader = .resumeLocked count ∨
    s.reader = .waiting count → s.taken = [] ∧ s.cleared = false
  copying : ∀ kbuf shouldResume, s.reader = .copying kbuf shouldResume → s.taken = kbuf
  running : s.reader ≠ .idle → s.outcome = none ∧ s.faulted = false
  failed : Failed s → s.faulted = false → s.taken = [] ∧ s.cleared = false
  faulted : s.faulted = true → Failed s ∧ s.taken ≠ []

theorem held_called (dev : NcdDevice α) (count : Nat) : Held dev (called dev count) := by
  constructor
  · simp [called]
  · intro _ _
    exact ⟨rfl, rfl⟩
  · intro kbuf shouldResume copying
    cases copying
  · intro _
    exact ⟨rfl, rfl⟩
  · intro failed
    obtain ⟨errno, outcome⟩ := failed
    cases outcome
  · intro faulted
    cases faulted

theorem Held.goes_on {dev : NcdDevice α} {s : ReadCall α} {reader : ReaderPc α} {told : Bool}
    (held : Held dev s) (here : s.reader ≠ .idle)
    (before : ∀ count, reader = .entering count ∨ reader = .resumeLocked count ∨
      reader = .waiting count → s.taken = [] ∧ s.cleared = false)
    (copying : ∀ kbuf shouldResume, reader ≠ .copying kbuf shouldResume) :
    Held dev { s with reader := reader, told := told } := by
  obtain ⟨outcome, fault⟩ := held.running here
  constructor
  · exact held.whole
  · exact before
  · intro kbuf shouldResume now
    exact absurd now (copying kbuf shouldResume)
  · intro _
    exact ⟨outcome, fault⟩
  · intro failed
    obtain ⟨errno, now⟩ := failed
    dsimp only at now
    rw [outcome] at now
    cases now
  · intro now
    dsimp only at now
    rw [fault] at now
    cases now

theorem Held.ends {dev : NcdDevice α} {s : ReadCall α} {outcome : Outcome α} {told : Bool}
    (held : Held dev s) (here : s.reader ≠ .idle)
    (failed : ∀ errno, outcome = .failed errno → s.taken = [] ∧ s.cleared = false) :
    Held dev { s with reader := .idle, told := told, outcome := some outcome } := by
  constructor
  · exact held.whole
  · intro count now
    rcases now with now | now | now <;> cases now
  · intro kbuf shouldResume now
    cases now
  · intro now
    exact absurd rfl now
  · intro error _
    obtain ⟨errno, now⟩ := error
    exact failed errno (Option.some.inj now)
  · intro now
    rw [(held.running here).2] at now
    cases now

theorem held_step {dev : NcdDevice α} {s s' : ReadCall α} {event : ReadEvent α}
    (held : Held dev s) (step : s.step event = some s') : Held dev s' := by
  cases step_change step with
  | @finds count memory here =>
    have nothing := held.before count (Or.inl here)
    apply held.goes_on
    · rw [here]
      simp
    · intro _ _
      exact nothing
    · simp
  | @lacks count memory here =>
    have nothing := held.before count (Or.inl here)
    apply held.ends
    · rw [here]
      simp
    · intro _ _
      exact nothing
  | @takes count memory here =>
    have nothing := (held.before count (Or.inl here)).1
    have running := held.running (by rw [here]; simp)
    have whole := held.whole
    rw [nothing, List.nil_append] at whole
    constructor
    · dsimp only
      rw [ncdReadLocked_contents, whole]
    · intro _ now
      rcases now with now | now | now <;> cases now
    · intro kbuf shouldResume now
      cases now
      rfl
    · intro _
      exact running
    · intro failed
      obtain ⟨errno, now⟩ := failed
      dsimp only at now
      rw [running.1] at now
      cases now
    · intro now
      dsimp only at now
      rw [running.2] at now
      cases now
  | @asks count here =>
    have nothing := held.before count (Or.inr (Or.inl here))
    apply held.goes_on
    · rw [here]
      simp
    · intro _ _
      exact nothing
    · simp
  | @wakes count here =>
    have nothing := held.before count (Or.inr (Or.inr here))
    apply held.goes_on
    · rw [here]
      simp
    · intro _ _
      exact nothing
    · simp
  | @interrupts count here =>
    have nothing := held.before count (Or.inr (Or.inr here))
    apply held.ends
    · rw [here]
      simp
    · intro _ _
      exact nothing
  | delivers here =>
    apply held.goes_on
    · rw [here]
      simp
    · intro _ now
      rcases now with now | now | now <;> cases now
    · simp
  | returns here =>
    apply held.ends
    · rw [here]
      simp
    · intro _ now
      cases now
  | @faults kbuf shouldResume here nonempty =>
    have error : Failed ({ s with
        reader := .idle, outcome := some (.failed .fault), faulted := true } : ReadCall α) :=
      ⟨.fault, rfl⟩
    constructor
    · exact held.whole
    · intro _ now
      rcases now with now | now | now <;> cases now
    · intro _ _ now
      cases now
    · intro now
      exact absurd rfl now
    · intro _ now
      cases now
    · intro _
      constructor
      · exact error
      · dsimp only
        rw [held.copying kbuf shouldResume here]
        exact nonempty
  | resumes here =>
    apply held.ends
    · rw [here]
      simp
    · intro _ now
      cases now
  | @arrives payload memory after received =>
    constructor
    · dsimp only
      rw [received, recvData_contents, ← List.append_assoc, held.whole, List.append_assoc]
    · exact held.before
    · exact held.copying
    · exact held.running
    · exact held.failed
    · exact held.faulted

theorem held_run {dev : NcdDevice α} {count : Nat} {s : ReadCall α}
    (run : Reaches ReadCall.step Any (called dev count) s) : Held dev s := by
  apply run.keeps (I := Held dev)
  · intro s event s' held _ step
    exact held_step held step
  · exact held_called dev count

theorem lost_bytes {dev : NcdDevice α} {s : ReadCall α} (held : Held dev s)
    (nonempty : s.taken ≠ []) : contents s.dev ≠ contents dev ++ s.arrived := by
  intro same
  have whole := congrArg List.length held.whole
  rw [← same, List.length_append] at whole
  have positive := List.length_pos_iff.mpr nonempty
  omega

theorem failed_read_keeps {dev : NcdDevice α} {count : Nat} {s : ReadCall α}
    (run : Reaches ReadCall.step Any (called dev count) s) :
    (Failed s → Kept dev s) ↔ s.faulted = false := by
  have held := held_run run
  constructor
  · intro keeps
    cases fault : s.faulted with
    | false => rfl
    | true =>
      obtain ⟨failed, nonempty⟩ := held.faulted fault
      exact absurd (keeps failed).buffered (lost_bytes held nonempty)
  · intro no_fault failed
    obtain ⟨nothing, silent⟩ := held.failed failed no_fault
    constructor
    · have whole := held.whole
      rwa [nothing, List.nil_append] at whole
    · intro cleared
      rw [silent] at cleared
      cases cleared

/-- Interrupted while it waits; a message that came meanwhile is still there. -/
theorem failed_read_keeps_interrupted :
    ∃ s : ReadCall UInt8, s.dev.dataFifo = [7] ∧ ((Failed s → Kept {} s) ↔ s.faulted = false) := by
  have run : exec ReadCall.step (called ({} : NcdDevice UInt8) 10)
      [.lock true, .sendResume, .data [7] true, .signal] = some
      { dev := { dataFifo := [7] }
        reader := .idle
        outcome := some (.failed .interrupted)
        arrived := [7]
        told := true } := by decide +kernel
  exact ⟨_, rfl, failed_read_keeps (reaches_of_exec _ run)⟩

/-- The user buffer is not writable: two bytes are gone, and the pause ended unannounced. -/
theorem failed_read_loses : ¬ ∀ (dev : NcdDevice UInt8) (count : Nat) (s : ReadCall UInt8),
    Reaches ReadCall.step Any (called dev count) s → Failed s → Kept dev s := by
  intro always
  have run : exec ReadCall.step
      (called ({ dataFifo := [1, 2], kfifoPaused := true } : NcdDevice UInt8) 10)
      [.lock true, .copy false] = some
      { dev := {}
        reader := .idle
        outcome := some (.failed .fault)
        taken := [1, 2]
        cleared := true
        faulted := true } := by decide +kernel
  have kept := always _ _ _ (reaches_of_exec _ run) ⟨.fault, rfl⟩
  have told := kept.announced rfl
  cases told

end NcdReadCall
