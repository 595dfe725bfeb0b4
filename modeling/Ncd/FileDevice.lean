import Mathlib.Data.List.Infix

/- The file device: a read loop and a write loop that share one cursor into the file. Each
   call holds the lock, so an interleaving of the loops is a list of calls. -/
namespace NcdFileDevice

def readSize : Nat := 4096

structure FileAdapter where
  file : List UInt8
  cursor : Nat
  inside : cursor ≤ file.length
  deriving DecidableEq

def FileAdapter.open (content : List UInt8) : FileAdapter :=
  { file := content, cursor := 0, inside := Nat.zero_le _ }

def FileAdapter.next (a : FileAdapter) : List UInt8 := (a.file.drop a.cursor).take readSize

def FileAdapter.read (a : FileAdapter) : FileAdapter :=
  { a with
    cursor := a.cursor + a.next.length
    inside := by
      have within := a.inside
      simp only [next, List.length_take, List.length_drop]
      omega }

def FileAdapter.write (a : FileAdapter) (data : List UInt8) : FileAdapter :=
  { file := a.file.take a.cursor ++ data ++ a.file.drop (a.cursor + data.length)
    cursor := a.cursor + data.length
    inside := by
      have within := a.inside
      simp only [List.length_append, List.length_take, List.length_drop]
      omega }

/-- passed, written and overwritten only record what has been read and written, in the order
    of the calls, what has been written, and what that has replaced in the file. -/
structure Session where
  adapter : FileAdapter
  passed : List UInt8 := []
  written : List UInt8 := []
  overwritten : List UInt8 := []
  deriving DecidableEq

inductive Call where
  | read
  | write (data : List UInt8)
  deriving DecidableEq, Repr

def Session.step (s : Session) : Call → Session
  | .read => { s with adapter := s.adapter.read, passed := s.passed ++ s.adapter.next }
  | .write data =>
    { adapter := s.adapter.write data
      passed := s.passed ++ data
      written := s.written ++ data
      overwritten :=
        s.overwritten ++ (s.adapter.file.drop s.adapter.cursor).take data.length }

def Session.run (s : Session) (calls : List Call) : Session := calls.foldl Session.step s

def Session.open (content : List UInt8) : Session := { adapter := .open content }

def writtenBy (calls : List Call) : List UInt8 :=
  calls.flatMap fun call =>
    match call with
    | .read => []
    | .write data => data

/-- The cursor divides the file into what has been read and written, and the rest of what it
    held at open. -/
structure Divided (initial : List UInt8) (s : Session) : Prop where
  cursor : s.adapter.cursor = s.passed.length
  file : s.adapter.file = s.passed ++ initial.drop s.passed.length
  length : s.adapter.file.length + s.overwritten.length = initial.length + s.written.length
  appended : s.overwritten = [] → s.adapter.file = initial ++ s.written

theorem open_divided (initial : List UInt8) : Divided initial (.open initial) :=
  ⟨rfl, rfl, rfl, fun _ => (List.append_nil initial).symm⟩

theorem divided_ahead {initial : List UInt8} {s : Session} (divided : Divided initial s) :
    s.adapter.file.take s.adapter.cursor = s.passed ∧
      s.adapter.file.drop s.adapter.cursor = initial.drop s.passed.length := by
  rw [divided.cursor, divided.file]
  exact ⟨List.take_left' rfl, List.drop_left' rfl⟩

theorem read_divided {initial : List UInt8} {s : Session} (divided : Divided initial s) :
    Divided initial (s.step .read) := by
  have data : s.adapter.next <+: initial.drop s.passed.length := by
    rw [FileAdapter.next, (divided_ahead divided).2]
    exact List.take_prefix _ _
  refine ⟨?_, ?_, divided.length, divided.appended⟩
  · exact (congrArg (· + _) divided.cursor).trans List.length_append.symm
  · have rest := List.prefix_append_drop data
    calc s.adapter.file
      _ = s.passed ++ initial.drop s.passed.length := divided.file
      _ = s.passed ++ (s.adapter.next ++
            (initial.drop s.passed.length).drop s.adapter.next.length) := congrArg _ rest
      _ = s.passed ++ s.adapter.next ++ initial.drop (s.passed ++ s.adapter.next).length := by
        rw [List.drop_drop, List.append_assoc, List.length_append]

theorem write_file (a : FileAdapter) (data : List UInt8) : (a.write data).file =
    a.file.take a.cursor ++ data ++ a.file.drop (a.cursor + data.length) := rfl

theorem write_at_end {a : FileAdapter} (atEnd : a.cursor = a.file.length) (data : List UInt8) :
    (a.write data).file = a.file ++ data := by
  rw [write_file, atEnd, List.take_length, List.drop_of_length_le (Nat.le_add_right _ _),
    List.append_nil]

theorem write_nothing (a : FileAdapter) : (a.write []).file = a.file := by
  rw [write_file, List.append_nil]
  exact List.take_append_drop _ _

theorem write_divided {initial : List UInt8} {s : Session} (divided : Divided initial s)
    (data : List UInt8) : Divided initial (s.step (.write data)) := by
  have within := s.adapter.inside
  obtain ⟨before, ahead⟩ := divided_ahead divided
  have rest : s.adapter.file.drop (s.adapter.cursor + data.length) =
      initial.drop (s.passed ++ data).length := by
    rw [← List.drop_drop, ahead, List.drop_drop, List.length_append]
  refine ⟨?_, ?_, ?_, ?_⟩
  · exact (congrArg (· + _) divided.cursor).trans List.length_append.symm
  · simp only [Session.step, FileAdapter.write, before, rest]
  · have length := divided.length
    simp only [Session.step, FileAdapter.write, List.length_append, List.length_take,
      List.length_drop]
    omega
  · intro none_
    obtain ⟨earlier, now⟩ := List.append_eq_nil_iff.mp none_
    have file := divided.appended earlier
    rcases List.take_eq_nil_iff.mp now with nothing | reached
    · rw [List.length_eq_zero_iff] at nothing
      subst nothing
      simpa only [Session.step, write_nothing, List.append_nil] using file
    · have atEnd : s.adapter.cursor = s.adapter.file.length :=
        Nat.le_antisymm within (List.drop_eq_nil_iff.mp reached)
      simp only [Session.step, write_at_end atEnd, file, List.append_assoc]

theorem step_divided {initial : List UInt8} {s : Session} (divided : Divided initial s)
    (call : Call) : Divided initial (s.step call) := by
  cases call with
  | read => exact read_divided divided
  | write data => exact write_divided divided data

theorem run_divided {initial : List UInt8} {s : Session} (divided : Divided initial s)
    (calls : List Call) : Divided initial (s.run calls) := by
  induction calls generalizing s with
  | nil => exact divided
  | cons call calls ih => exact ih (step_divided divided call)

theorem divided_appended {initial : List UInt8} {s : Session} (divided : Divided initial s) :
    s.adapter.file = initial ++ s.written ↔ s.overwritten = [] := by
  constructor
  · intro file
    have length := divided.length
    rw [file, List.length_append] at length
    exact List.length_eq_zero_iff.mp (by omega)
  · exact divided.appended

theorem step_passed (s : Session) (call : Call) : s.passed <+: (s.step call).passed := by
  cases call with
  | read => exact List.prefix_append _ _
  | write data => exact List.prefix_append _ _

theorem run_passed (s : Session) (calls : List Call) : s.passed <+: (s.run calls).passed := by
  induction calls generalizing s with
  | nil => exact List.prefix_refl _
  | cons call calls ih => exact (step_passed s call).trans (ih (s.step call))

def AtEnd (s : Session) : Prop := s.adapter.cursor = s.adapter.file.length

theorem step_at_end {s : Session} (atEnd : AtEnd s) (call : Call) :
    AtEnd (s.step call) ∧ (s.step call).adapter.file = s.adapter.file ++ writtenBy [call] ∧
      (s.step call).overwritten = s.overwritten := by
  have nothing : s.adapter.file.drop s.adapter.cursor = [] := by
    rw [show s.adapter.cursor = s.adapter.file.length from atEnd, List.drop_length]
  cases call with
  | read =>
    have end_ : s.adapter.next = [] := by rw [FileAdapter.next, nothing, List.take_nil]
    refine ⟨?_, (List.append_nil _).symm, rfl⟩
    simpa [AtEnd, Session.step, FileAdapter.read, end_] using atEnd
  | write data =>
    have file : (s.adapter.write data).file = s.adapter.file ++ data := write_at_end atEnd data
    refine ⟨?_, ?_, ?_⟩
    · show s.adapter.cursor + data.length = (s.adapter.write data).file.length
      rw [file, List.length_append, show s.adapter.cursor = s.adapter.file.length from atEnd]
    · simpa [writtenBy, Session.step] using file
    · simp [Session.step, nothing]

theorem run_at_end {s : Session} (atEnd : AtEnd s) (calls : List Call) :
    (s.run calls).adapter.file = s.adapter.file ++ writtenBy calls ∧
      (s.run calls).overwritten = s.overwritten := by
  induction calls generalizing s with
  | nil => exact ⟨(List.append_nil _).symm, rfl⟩
  | cons call calls ih =>
    obtain ⟨still, file, kept⟩ := step_at_end atEnd call
    obtain ⟨rest, kept'⟩ := ih still
    refine ⟨?_, kept'.trans kept⟩
    rw [Session.run, List.foldl_cons]
    refine rest.trans ?_
    rw [file, List.append_assoc, writtenBy, writtenBy, writtenBy, ← List.flatMap_append]
    rfl

/-- Every write that has something to write comes at the end of the file. -/
def Appends (s : Session) : List Call → Prop
  | [] => True
  | .read :: calls => Appends (s.step .read) calls
  | .write data :: calls => (data = [] ∨ AtEnd s) ∧ Appends (s.step (.write data)) calls

theorem write_overwrites_nothing (s : Session) (data : List UInt8) :
    (s.adapter.file.drop s.adapter.cursor).take data.length = [] ↔ data = [] ∨ AtEnd s := by
  have within := s.adapter.inside
  rw [List.take_eq_nil_iff, List.length_eq_zero_iff, List.drop_eq_nil_iff]
  exact or_congr_right ⟨fun reached => Nat.le_antisymm within reached, fun atEnd => atEnd.ge⟩

theorem run_overwritten (s : Session) (calls : List Call) :
    (s.run calls).overwritten = [] ↔ s.overwritten = [] ∧ Appends s calls := by
  induction calls generalizing s with
  | nil => simp [Session.run, Appends]
  | cons call calls ih =>
    rw [Session.run, List.foldl_cons, ← Session.run, ih]
    cases call with
    | read => rfl
    | write data =>
      rw [Appends, ← write_overwrites_nothing, Session.step, List.append_eq_nil_iff, and_assoc]

/-- Reads and writes go through the file once, in the order of the calls. Nothing that has been
    read or written is overwritten, and the device appends once the cursor is at the end. -/
theorem writes_at_cursor (initial : List UInt8) (calls : List Call) :
    let s := (Session.open initial).run calls
    s.adapter.cursor = s.passed.length ∧
      s.adapter.file = s.passed ++ initial.drop s.passed.length ∧
      (s.overwritten = [] ↔ Appends (.open initial) calls) ∧
      (s.adapter.file = initial ++ s.written ↔ Appends (.open initial) calls) ∧
      ∀ later, s.passed <+: (s.run later).adapter.file ∧
        (AtEnd s → (s.run later).adapter.file = s.adapter.file ++ writtenBy later ∧
          (s.run later).overwritten = s.overwritten) := by
  intro s
  have divided : Divided initial s := run_divided (open_divided initial) calls
  have untouched : s.overwritten = [] ↔ Appends (.open initial) calls :=
    (run_overwritten _ calls).trans (and_iff_right rfl)
  refine ⟨divided.cursor, divided.file, untouched, (divided_appended divided).trans untouched,
    fun later => ⟨?_, ?_⟩⟩
  · rw [(run_divided divided later).file]
    exact (run_passed s later).trans (List.prefix_append _ _)
  · exact fun atEnd => run_at_end atEnd later

theorem first_write_overwrites : ¬ ∀ (initial : List UInt8) (calls : List Call),
    let s := (Session.open initial).run calls
    s.overwritten = [] ∧ s.adapter.file = initial ++ s.written := by
  intro appends
  have s := appends [0x61] [.write [0x62]]
  revert s
  decide

end NcdFileDevice
