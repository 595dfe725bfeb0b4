import Ncd.HandlerCalls

/- Two endpoints joined by two reliable byte channels: what one has written is what the
   other reads, in order, and no more than the room of the channel lies in between. -/
namespace NcdPair
open NcdPacket NcdFrame NcdIoState NcdConnection NcdHandler NcdTaskMoves NcdTaskSteps NcdBooks
  LabelledRuns

inductive Side where
  | x
  | y
  deriving DecidableEq, Repr

def Side.other : Side → Side
  | .x => .y
  | .y => .x

/-- room s is the capacity of the channel out of s. -/
structure Pair where
  x : Endpoint
  y : Endpoint
  roomX : Nat
  roomY : Nat
  deriving DecidableEq, Repr

def Pair.get (p : Pair) : Side → Endpoint
  | .x => p.x
  | .y => p.y

def Pair.set (p : Pair) : Side → Endpoint → Pair
  | .x, e => { p with x := e }
  | .y, e => { p with y := e }

def Pair.room (p : Pair) : Side → Nat
  | .x => p.roomX
  | .y => p.roomY

def Pair.written (p : Pair) (s : Side) : List UInt8 := (p.get s).task.conn.io.stream.written

def Pair.consumed (p : Pair) (s : Side) : List UInt8 := (p.get s).task.conn.io.stream.consumed

def Pair.free (p : Pair) (s : Side) : Nat :=
  p.room s - ((p.written s).length - (p.consumed s.other).length)

inductive PairEvent where
  | pass
  | on (s : Side) (event : EndpointEvent)
  deriving DecidableEq, Repr

/-- What the byte channels allow: a write fits, a read returns the next bytes, and the end
    of the stream shows after the last byte of a side that has shut down or is gone. -/
def Pair.allows (p : Pair) (s : Side) : EndpointEvent → Prop
  | .task (.wrote n) => n ≤ p.free s
  | .task (.read chunk) => p.consumed s ++ chunk <+: p.written s.other ∧
      (chunk = [] → p.consumed s = p.written s.other ∧
        ((p.get s.other).task.conn.io.stream.shutdown = true ∨
          connGone (p.get s.other).task.pc = true))
  | .task .pass => False
  | _ => True

instance (p : Pair) (s : Side) (event : EndpointEvent) : Decidable (p.allows s event) := by
  unfold Pair.allows
  split <;> infer_instance

def Endpoint.pass (e : Endpoint) : Endpoint :=
  { e with task := { e.task with clock := e.task.clock + 1 } }

def Pair.step (p : Pair) : PairEvent → Option Pair
  | .pass => some { p with x := Endpoint.pass p.x, y := Endpoint.pass p.y }
  | .on s event =>
    if p.allows s event then ((p.get s).step event).map (p.set s) else none

@[simp] theorem other_other (s : Side) : s.other.other = s := by cases s <;> rfl

@[simp] theorem get_set (p : Pair) (s : Side) (e : Endpoint) : (p.set s e).get s = e := by
  cases s <;> rfl

@[simp] theorem get_set_other (p : Pair) (s : Side) (e : Endpoint) :
    (p.set s e).get s.other = p.get s.other := by
  cases s <;> rfl

@[simp] theorem room_set (p : Pair) (s t : Side) (e : Endpoint) :
    (p.set s e).room t = p.room t := by
  cases s <;> cases t <;> rfl

theorem both_sides {P : Side → Prop} {s : Side} (here : P s) (there : P s.other) (t : Side) :
    P t := by
  cases s <;> cases t <;> assumption

theorem step_on {p q : Pair} {s : Side} {event : EndpointEvent}
    (step : p.step (.on s event) = some q) :
    ∃ e, p.allows s event ∧ (p.get s).step event = some e ∧ q = p.set s e := by
  simp only [Pair.step] at step
  split at step
  · rename_i allowed
    obtain ⟨e, moved, rfl⟩ := Option.map_eq_some_iff.mp step
    exact ⟨e, allowed, moved, rfl⟩
  · simp at step

theorem step_stream {e e' : Endpoint} {event : EndpointEvent} (step : e.step event = some e') :
    e.task.conn.io.stream.written <+: e'.task.conn.io.stream.written ∧
      (e'.task.conn.io.stream.consumed = e.task.conn.io.stream.consumed ∨
        ∃ chunk, event = .task (.read chunk) ∧
          e'.task.conn.io.stream.consumed = e.task.conn.io.stream.consumed ++ chunk) := by
  by_cases mine : ∃ te, event = .task te
  · obtain ⟨te, rfl⟩ := mine
    obtain ⟨t', ch', moved, task, _⟩ := task_parts step
    rw [task]
    cases step_moves moved with
    | steady same => exact ⟨same.2.2.2.2.1, .inl same.2.2.2.2.2⟩
    | asks here queue => exact ⟨List.prefix_rfl, .inl rfl⟩
    | takes queue same => exact ⟨same.2.2.2.2.1, .inl same.2.2.2.2.2⟩
    | puts delivering same => exact ⟨same.2.2.2.2.1, .inl same.2.2.2.2.2⟩
    | reads read same => exact ⟨same.2.2.2.2.1, .inr ⟨_, by rw [read], same.2.2.2.2.2⟩⟩
    | aborts dead => exact ⟨List.prefix_rfl, .inl rfl⟩
  · rw [call_task (fun te is => mine ⟨te, is⟩) step]
    exact ⟨List.prefix_rfl, .inl rfl⟩

def aDevice : Endpoint :=
  Endpoint.new { ip := [127, 0, 0, 1], port := 9001 } 5000 5000 2500 .device 4

def bothHandshakes : List PairEvent :=
  [.on .x (.task .begin), .on .x (.task (.wrote 12)), .on .y (.task .begin),
    .on .y (.task (.read [0x4E, 0x43, 0x44, 0x01, 0x00, 0x04, 0x00, 0x01, 0x00, 0x00, 0x09, 0xC4])),
    .on .y (.task (.wrote 12)), .on .y (.task .spawn),
    .on .x (.task (.read [0x4E, 0x43, 0x44, 0x01, 0x00, 0x04, 0x00, 0x02, 0x00, 0x00, 0x09, 0xC4])),
    .on .x (.task .spawn)]

end NcdPair
