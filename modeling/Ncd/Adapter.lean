import Mathlib.Data.List.Basic

/- The stdout of an adapter process on its way to handle_connection: the pipe, the reader
   task of Adapter::spawn with its BufReader, and the channel of four chunks. -/
namespace NcdAdapter

def readSize : Nat := 4096
def bufReaderSize : Nat := 8192
def channelSize : Nat := 4

/-- The reader task: at reader.read, at data_tx.send, or past its loop. -/
inductive Reader where
  | reading
  | sending (chunk : List UInt8)
  | ended
  deriving DecidableEq, Repr

/-- data_rx lives as long as handle_connection, so data_tx.send finds its receiver.
    wrote only records what the process has written to its stdout. -/
structure Adapter where
  exited : Bool := false
  stdoutOpen : Bool := true
  pipe : List UInt8 := []
  buffered : List UInt8 := []
  reader : Reader := .reading
  channel : List (List UInt8) := []
  wrote : List UInt8 := []
  deriving DecidableEq, Repr

inductive AdapterEvent where
  | write (bytes : List UInt8)
  | closeStdout
  | exit
  | read (n : Nat)
  | readFails
  | send
  deriving DecidableEq, Repr

/-- reader.read returns: n bytes of the pipe go into an empty BufReader, and what fits into
    buf goes on; Ok(0) is the end of stdout. -/
def Adapter.read (a : Adapter) (n : Nat) : Option Adapter :=
  if a.reader ≠ .reading then none
  else if a.buffered ≠ [] then
    some { a with
      buffered := a.buffered.drop readSize, reader := .sending (a.buffered.take readSize) }
  else if a.pipe ≠ [] then
    if n = 0 ∨ bufReaderSize < n ∨ a.pipe.length < n then none
    else
      some { a with
        pipe := a.pipe.drop n
        buffered := (a.pipe.take n).drop readSize
        reader := .sending ((a.pipe.take n).take readSize) }
  else if a.stdoutOpen then none
  else some { a with reader := .ended }

def Adapter.send (a : Adapter) : Option Adapter :=
  match a.reader with
  | .sending chunk =>
    if a.channel.length < channelSize then
      some { a with reader := .reading, channel := a.channel ++ [chunk] }
    else none
  | _ => none

/-- recv: a chunk, or None once the reader task has dropped data_tx. -/
def Adapter.recv (a : Adapter) : Option (Option (List UInt8) × Adapter) :=
  match a.channel with
  | chunk :: channel => some (some chunk, { a with channel := channel })
  | [] => if a.reader = .ended then some (none, a) else none

/-- An exit closes stdout; what is in the pipe stays there. -/
def Adapter.step (a : Adapter) : AdapterEvent → Option Adapter
  | .write bytes =>
    if a.stdoutOpen then some { a with pipe := a.pipe ++ bytes, wrote := a.wrote ++ bytes }
    else none
  | .closeStdout => some { a with stdoutOpen := false }
  | .exit => some { a with exited := true, stdoutOpen := false }
  | .read n => a.read n
  | .readFails => if a.reader = .reading then some { a with reader := .ended } else none
  | .send => a.send

def Reader.chunk : Reader → List UInt8
  | .sending chunk => chunk
  | _ => []

/-- The bytes between stdout and recv, first to last. -/
def Adapter.onItsWay (a : Adapter) : List UInt8 :=
  a.channel.flatten ++ a.reader.chunk ++ a.buffered ++ a.pipe

def Flushed (a : Adapter) : Prop := a.stdoutOpen = false ∧ a.onItsWay = []

instance (a : Adapter) : Decidable (Flushed a) := inferInstanceAs (Decidable (_ ∧ _))

theorem read_keeps {a a' : Adapter} {n : Nat} (step : a.read n = some a') :
    a'.onItsWay = a.onItsWay ∧ a'.wrote = a.wrote := by
  unfold Adapter.read at step
  split at step
  · cases step
  rename_i reading
  have here : a.reader = .reading := by simpa using reading
  split at step
  · cases step
    simp [Adapter.onItsWay, here, Reader.chunk]
  rename_i empty
  have none : a.buffered = [] := by simpa using empty
  split at step
  · split at step
    · cases step
    · cases step
      simp [Adapter.onItsWay, here, none, Reader.chunk]
  · split at step
    · cases step
    · cases step
      simp [Adapter.onItsWay, here, Reader.chunk]

theorem send_keeps {a a' : Adapter} (step : a.send = some a') :
    a'.onItsWay = a.onItsWay ∧ a'.wrote = a.wrote := by
  unfold Adapter.send at step
  split at step
  · rename_i chunk here
    split at step
    · cases step
      simp [Adapter.onItsWay, here, Reader.chunk]
    · cases step
  · cases step

theorem recv_keeps {a a' : Adapter} {data : Option (List UInt8)}
    (step : a.recv = some (data, a')) :
    data.getD [] ++ a'.onItsWay = a.onItsWay ∧ a'.wrote = a.wrote ∧
      (data = none → a.reader = .ended ∧ a.channel = [] ∧ a' = a) := by
  unfold Adapter.recv at step
  split at step
  · rename_i chunk channel here
    cases step
    simp [Adapter.onItsWay, here]
  · rename_i here
    split at step
    · rename_i ended
      cases step
      exact ⟨rfl, rfl, fun _ => ⟨ended, here, rfl⟩⟩
    · cases step

theorem step_conserves {a a' : Adapter} {event : AdapterEvent} {passed : List UInt8}
    (all : passed ++ a.onItsWay = a.wrote) (step : a.step event = some a') :
    passed ++ a'.onItsWay = a'.wrote := by
  cases event with
  | write bytes =>
    simp only [Adapter.step] at step
    split at step <;> cases step
    simp only [Adapter.onItsWay, ← all, List.append_assoc]
  | closeStdout =>
    cases step
    exact all
  | exit =>
    cases step
    exact all
  | read n =>
    obtain ⟨way, wrote⟩ := read_keeps step
    rw [way, wrote, all]
  | readFails =>
    simp only [Adapter.step] at step
    split at step <;> cases step
    rename_i here
    rw [← all]
    simp [Adapter.onItsWay, here, Reader.chunk]
  | send =>
    obtain ⟨way, wrote⟩ := send_keeps step
    rw [way, wrote, all]

theorem step_closed {a a' : Adapter} {event : AdapterEvent} (closed : a.stdoutOpen = false)
    (step : a.step event = some a') : a'.stdoutOpen = false ∧ a'.wrote = a.wrote := by
  cases event with
  | write bytes => simp [Adapter.step, closed] at step
  | closeStdout | exit =>
    cases step
    exact ⟨rfl, rfl⟩
  | read n =>
    have same : a'.stdoutOpen = a.stdoutOpen := by
      simp only [Adapter.step] at step
      unfold Adapter.read at step
      split at step
      · cases step
      split at step
      · cases step
        rfl
      split at step
      · split at step <;> cases step
        rfl
      · split at step <;> cases step
        rfl
    exact ⟨same.trans closed, (read_keeps step).2⟩
  | readFails =>
    simp only [Adapter.step] at step
    split at step <;> cases step
    exact ⟨closed, rfl⟩
  | send =>
    have same : a'.stdoutOpen = a.stdoutOpen := by
      simp only [Adapter.step] at step
      unfold Adapter.send at step
      split at step
      · split at step <;> cases step
        rfl
      · cases step
    exact ⟨same.trans closed, (send_keeps step).2⟩

theorem step_flushed {a a' : Adapter} {event : AdapterEvent} {passed : List UInt8}
    (all : passed ++ a.onItsWay = a.wrote) (flushed : Flushed a)
    (step : a.step event = some a') : Flushed a' := by
  obtain ⟨closed, same⟩ := step_closed flushed.1 step
  have after := step_conserves all step
  rw [same, ← all, flushed.2] at after
  exact ⟨closed, List.append_cancel_left after⟩

def Drained (a : Adapter) : Prop :=
  a.reader = .ended → a.stdoutOpen = false ∧ a.pipe = [] ∧ a.buffered = []

def ReadsToEnd (a : Adapter) (event : AdapterEvent) : Prop :=
  event = .readFails → a.stdoutOpen = false ∧ a.pipe = [] ∧ a.buffered = []

instance (a : Adapter) (event : AdapterEvent) : Decidable (ReadsToEnd a event) :=
  inferInstanceAs (Decidable (_ → _))

theorem step_drained {a a' : Adapter} {event : AdapterEvent} (drained : Drained a)
    (reads : ReadsToEnd a event) (step : a.step event = some a') : Drained a' := by
  cases event with
  | write bytes =>
    simp only [Adapter.step] at step
    split at step <;> cases step
    rename_i isOpen
    intro ended
    simp [(drained ended).1] at isOpen
  | closeStdout =>
    cases step
    exact fun ended => ⟨rfl, (drained ended).2⟩
  | exit =>
    cases step
    exact fun ended => ⟨rfl, (drained ended).2⟩
  | read n =>
    simp only [Adapter.step] at step
    unfold Adapter.read at step
    split at step
    · cases step
    split at step
    · cases step
      intro ended
      cases ended
    rename_i buffered
    split at step
    · split at step <;> cases step
      intro ended
      cases ended
    rename_i pipe
    split at step <;> cases step
    rename_i closed
    exact fun _ => ⟨by simpa using closed, by simpa using pipe, by simpa using buffered⟩
  | readFails =>
    simp only [Adapter.step] at step
    split at step <;> cases step
    exact fun _ => reads rfl
  | send =>
    simp only [Adapter.step] at step
    unfold Adapter.send at step
    split at step
    · split at step <;> cases step
      intro ended
      cases ended
    · cases step

theorem recv_drained {a a' : Adapter} {data : Option (List UInt8)} (drained : Drained a)
    (step : a.recv = some (data, a')) : Drained a' := by
  unfold Adapter.recv at step
  split at step
  · cases step
    exact drained
  · split at step <;> cases step
    exact drained

theorem recv_flushed {a a' : Adapter} {data : Option (List UInt8)} (flushed : Flushed a)
    (step : a.recv = some (data, a')) : Flushed a' := by
  have way := (recv_keeps step).1
  rw [flushed.2, List.append_eq_nil_iff] at way
  refine ⟨?_, way.2⟩
  unfold Adapter.recv at step
  split at step
  · cases step
    exact flushed.1
  · split at step <;> cases step
    exact flushed.1

/-- None means that everything has been handed out. -/
theorem recv_none {a a' : Adapter} (drained : Drained a) (step : a.recv = some (none, a')) :
    Flushed a' := by
  obtain ⟨ended, channel, rfl⟩ := (recv_keeps step).2.2 rfl
  obtain ⟨closed, pipe, buffered⟩ := drained ended
  exact ⟨closed, by simp [Adapter.onItsWay, channel, ended, Reader.chunk, pipe, buffered]⟩

end NcdAdapter
