import Ncd.Pair
import Ncd.Transfer
import Ncd.Turns

/- Two endpoints from their handshakes to the end of a close by x: where the messages of
   both sides are, and what the reads of y and the close of x return in the end. -/
namespace NcdGracefulClose
open NcdPacket NcdFrame NcdIoState NcdReceiver NcdConnection NcdHandler NcdTaskMoves NcdTaskSteps
  NcdBooks NcdPanicFree NcdHandlerCalls NcdTransfer NcdTurns NcdPair LabelledRuns

/-- Two endpoints right after Connection::new, over empty byte channels. -/
structure Fresh (p : Pair) : Prop where
  opened : ∀ s, Opened (p.get s)
  io : ∀ s, (p.get s).task.conn.io = {}
  sent : ∀ s, (p.get s).task.sent = []
  received : ∀ s, (p.get s).task.received = []

def Connects (p : Pair) (event : PairEvent) : Prop :=
  ∀ q ∈ p.step event, ∀ s, phase (p.get s).task.pc = .handshake → crashed (q.get s).task.pc = false

/-- y never closes, and there is no I/O error, close timeout, inactivity timeout or drop of
    a handler that has not closed. -/
def ordinary : PairEvent → Bool
  | .on _ (.task .ioError) | .on _ (.task .closeTimeout) | .on _ (.task .activeTimeoutTick)
  | .on _ .dropHandler | .on .y .close => false
  | _ => true

def Graceful (p : Pair) (event : PairEvent) : Prop := ordinary event = true ∧ Connects p event

instance (p : Pair) (event : PairEvent) : Decidable (Connects p event) :=
  match after : p.step event with
  | none => .isTrue fun q is => by simp [after] at is
  | some q =>
    decidable_of_iff (∀ s ∈ [Side.x, Side.y], phase (p.get s).task.pc = .handshake →
      crashed (q.get s).task.pc = false) (by
        constructor
        · intro good q' is s
          rw [Option.mem_def, after, Option.some.injEq] at is
          exact is ▸ good s (by cases s <;> simp)
        · exact fun good s _ => good q (by simp [after]) s)

instance (p : Pair) (event : PairEvent) : Decidable (Graceful p event) :=
  inferInstanceAs (Decidable (_ ∧ _))

structure Manners (e : Endpoint) : Prop where
  last : .close ∈ e.handler.accepted →
    (∃ front, e.handler.accepted = front ++ [.close] ∧ .close ∉ front) ∧
      shut e.handler.pc = true
  reads : ∀ c, .read (.error c) ∈ e.handler.results → c ≠ channelClosed
  closes : ∀ r, .close r ∈ e.handler.results → ∃ rest, r = .ok (.ok rest)
  alive : e.channels.handlerAlive = false → ∃ rest, .close (.ok (.ok rest)) ∈ e.handler.results
  checks : e.handler.pc = .checking false → e.channels.packets = [] ∧ connGone e.task.pc = true
  learned : ∀ c, e.handler.taskHandle = .finished c → (∃ q, .close q ∈ e.handler.results) ∨
    c.messages = [] ∨ ∃ r ∈ e.handler.results, failure r = some c ∧ ∀ q, r ≠ .read q

structure Stays (e : Endpoint) : Prop where
  accepted : .close ∉ e.handler.accepted
  pc : leaving e.handler.pc = false
  results : ∀ q, .close q ∉ e.handler.results

theorem closedWith_ne (result : Except ConnectionError Unit) (rest : List (List UInt8)) :
    closedWith result rest ≠ channelClosed := by
  cases result <;> simp [closedWith, channelClosed]

theorem closeResult_closed (result : Except ConnectionError Unit) (rest : List (List UInt8)) :
    closeResult (closedWith result rest) = .ok (.ok rest) := by
  cases result <;> rfl

theorem request_close {call : Asking} (is : Request.close = call.request) : call = .close := by
  cases call <;> simp [Asking.request] at is ⊢

/- What is known of the results stays known when there are more of them. -/
theorem Manners.still_alive {e : Endpoint} (manners : Manners e) {results : List CallResult}
    (more : ∀ r, r ∈ e.handler.results → r ∈ results) (dead : e.channels.handlerAlive = false) :
    ∃ rest, .close (.ok (.ok rest)) ∈ results := by
  obtain ⟨rest, member⟩ := manners.alive dead
  exact ⟨rest, more _ member⟩

theorem Manners.still_learned {e : Endpoint} (manners : Manners e) {results : List CallResult}
    (more : ∀ r, r ∈ e.handler.results → r ∈ results) {c : ConnectionClosed}
    (handle : e.handler.taskHandle = .finished c) : (∃ q, .close q ∈ results) ∨
      c.messages = [] ∨ ∃ r ∈ results, failure r = some c ∧ ∀ q, r ≠ .read q := by
  rcases manners.learned c handle with ⟨q, member⟩ | none | ⟨r, member, known⟩
  · exact .inl ⟨q, more _ member⟩
  · exact .inr (.inl none)
  · exact .inr (.inr ⟨r, more _ member, known⟩)

/- One event on a handler that is not dropped and whose close does not come too late. -/
theorem manners_turn {e e' : Endpoint} {event : EndpointEvent} (manners : Manners e)
    (books : Books e') (task : e'.task = e.task) (turn : Turn e event e')
    (kept : event ≠ .dropHandler)
    (early : e.handler.pc = .requesting .close → connGone e.task.pc = false) : Manners e' := by
  cases turn with
  | rests accepted results alive handle stays leaves checks =>
    refine ⟨?_, ?_, ?_, ?_, ?_, ?_⟩
    · rw [accepted]
      exact fun member => ⟨(manners.last member).1, stays (manners.last member).2⟩
    · rw [results]
      exact manners.reads
    · rw [results]
      exact manners.closes
    · rw [results, alive.resolve_right kept]
      exact manners.alive
    · rw [task]
      exact checks
    · rw [results, handle]
      exact manners.learned
  | accepts here accepted results alive handle goes =>
    have fresh : .close ∉ e.handler.accepted := by
      intro member
      have closed := (manners.last member).2
      simp [here, shut] at closed
    have old : ∀ r, r ∈ e'.handler.results → r ∈ e.handler.results ∨
      ∃ bytes, r = .write bytes (.ok ()) := by
      intro r member
      rcases results with same | ⟨bytes, more⟩
      · exact .inl (same ▸ member)
      · rw [more, List.mem_append, List.mem_singleton] at member
        exact member.imp id fun is => ⟨bytes, is⟩
    have new : ∀ r, r ∈ e.handler.results → r ∈ e'.handler.results := by
      intro r member
      rcases results with same | ⟨bytes, more⟩
      · exact same ▸ member
      · exact more ▸ List.mem_append.mpr (.inl member)
    refine ⟨?_, ?_, ?_, ?_, ?_, ?_⟩
    · rw [accepted, List.mem_append, List.mem_singleton]
      intro member
      have close := request_close (member.resolve_left fresh)
      subst close
      rcases goes with ⟨_, joining⟩ | ⟨other, _⟩
      · exact ⟨⟨_, rfl, fresh⟩, by rw [joining]; rfl⟩
      · exact absurd rfl other
    · intro c member
      rcases old _ member with before | ⟨bytes, is⟩
      · exact manners.reads c before
      · cases is
    · intro r member
      rcases old _ member with before | ⟨bytes, is⟩
      · exact manners.closes r before
      · cases is
    · rw [alive]
      exact manners.still_alive new
    · intro checking
      rcases goes with ⟨_, is⟩ | ⟨_, is | is⟩ <;> rw [is] at checking <;> cases checking
    · rw [handle]
      exact fun c is => manners.still_learned new is
  | returns before accepted results alive pc open_ read learns =>
    have more : ∀ r, r ∈ e.handler.results → r ∈ e'.handler.results := by
      intro r member
      rw [results]
      exact List.mem_append_left _ member
    refine ⟨?_, ?_, ?_, ?_, ?_, ?_⟩
    · rw [accepted]
      intro member
      have closed := (manners.last member).2
      rw [before] at closed
      cases closed
    · rw [results]
      intro c member
      rcases List.mem_append.mp member with old | new
      · exact manners.reads c old
      · obtain ⟨_, result, _, shape⟩ := books.finished c (read c (List.mem_singleton.mp new).symm)
        exact shape ▸ closedWith_ne _ _
    · rw [results]
      intro q member
      rcases List.mem_append.mp member with old | new
      · exact manners.closes q old
      · exact absurd (List.mem_singleton.mp new).symm (open_ q)
    · rw [alive]
      exact manners.still_alive more
    · rw [pc]
      intro checking
      cases checking
    · intro c is
      rcases learns c is with old | ⟨failed, other | ⟨checking, same⟩⟩
      · exact manners.still_learned more old
      · rw [results]
        exact .inr (.inr
          ⟨_, List.mem_append.mpr (.inr (List.mem_singleton.mpr rfl)), failed, other⟩)
      · rw [(manners.checks checking).1] at same
        exact .inr (.inl same)
  | @closes r accepted results pc comes ends =>
    have good : ∃ rest, r = .ok (.ok rest) := by
      rcases ends with ⟨c, handle, is⟩ | ⟨here, gone⟩
      · obtain ⟨_, result, _, shape⟩ := books.finished c handle
        exact ⟨_, by rw [is, shape, closeResult_closed]⟩
      · rw [early here] at gone
        cases gone
    obtain ⟨rest, is⟩ := good
    refine ⟨?_, ?_, ?_, ?_, ?_, ?_⟩
    · rw [accepted, pc]
      exact fun member => ⟨(manners.last member).1, rfl⟩
    · rw [results]
      intro c member
      rcases List.mem_append.mp member with old | new
      · exact manners.reads c old
      · cases List.mem_singleton.mp new
    · rw [results]
      intro q member
      rcases List.mem_append.mp member with old | new
      · exact manners.closes q old
      · cases List.mem_singleton.mp new
        exact ⟨rest, is⟩
    · rw [results]
      exact fun _ => ⟨rest, List.mem_append.mpr (.inr (by simp [is]))⟩
    · rw [pc]
      intro checking
      cases checking
    · rw [results]
      exact fun c _ => .inl ⟨_, List.mem_append.mpr (.inr (List.mem_singleton.mpr rfl))⟩

theorem manners_task {e e' : Endpoint} {event : TaskEvent} (manners : Manners e)
    (step : e.step (.task event) = some e') : Manners e' := by
  obtain ⟨t', ch', moved, task, channels, pc, handler⟩ := task_parts step
  obtain ⟨alive, packets⟩ := task_channels moved
  rw [← channels] at alive packets
  have same : e'.handler.accepted = e.handler.accepted ∧ e'.handler.results = e.handler.results ∧
      ∀ c, e'.handler.taskHandle = .finished c → e.handler.taskHandle = .finished c := by
    rcases handler with is | ⟨_, is⟩ <;> rw [is] <;> simp
  refine ⟨?_, ?_, ?_, ?_, ?_, ?_⟩
  · rw [same.1, pc]
    exact manners.last
  · rw [same.2.1]
    exact manners.reads
  · rw [same.2.1]
    exact manners.closes
  · rw [alive, same.2.1]
    exact manners.alive
  · rw [pc]
    intro checking
    obtain ⟨empty, gone⟩ := manners.checks checking
    exact ⟨(packets gone).trans empty, task ▸ step_connGone gone moved⟩
  · rw [same.2.1]
    exact fun c is => manners.learned c (same.2.2 c is)

theorem stays_turn {e e' : Endpoint} {event : EndpointEvent} (stays : Stays e)
    (turn : Turn e event e') (open_ : event ≠ .close) (kept : event ≠ .dropHandler) : Stays e' := by
  have inside : ∀ {pc : HandlerPc}, e.handler.pc = pc → leaving pc = false :=
    fun here => here ▸ stays.pc
  cases turn with
  | rests accepted results alive handle shuts leaves checks =>
    refine ⟨accepted ▸ stays.accepted, ?_, results ▸ stays.results⟩
    by_contra out
    rcases leaves (by simpa using out) with before | is | is
    · rw [stays.pc] at before
      cases before
    · exact open_ is
    · exact kept is
  | accepts here accepted results alive handle goes =>
    rcases goes with ⟨rfl, _⟩ | ⟨other, is⟩
    · cases inside here
    · refine ⟨?_, by rcases is with is | is <;> rw [is] <;> rfl, ?_⟩
      · rw [accepted, List.mem_append, List.mem_singleton]
        rintro (old | new)
        · exact stays.accepted old
        · exact other (request_close new)
      · intro q member
        rcases results with same | ⟨bytes, more⟩
        · exact stays.results q (same ▸ member)
        · rw [more, List.mem_append, List.mem_singleton] at member
          exact stays.results q (member.resolve_right (by simp))
  | returns before accepted results alive pc other read learns =>
    refine ⟨accepted ▸ stays.accepted, by rw [pc]; rfl, ?_⟩
    intro q member
    rw [results, List.mem_append, List.mem_singleton] at member
    rcases member with old | new
    · exact stays.results q old
    · exact other q new.symm
  | closes accepted results pc comes ends =>
    rcases comes with is | before
    · exact absurd is open_
    · rw [stays.pc] at before
      cases before

theorem stays_task {e e' : Endpoint} {event : TaskEvent} (stays : Stays e)
    (step : e.step (.task event) = some e') : Stays e' := by
  obtain ⟨_, _, _, _, _, pc, handler⟩ := task_parts step
  refine ⟨?_, pc ▸ stays.pc, ?_⟩
  · rcases handler with is | ⟨_, is⟩ <;> rw [is] <;> exact stays.accepted
  · rcases handler with is | ⟨_, is⟩ <;> rw [is] <;> exact stays.results

theorem ends_mem {closed : Bool} {ps : List Packet} (ends : Ends closed ps) :
    .controlClose ∈ ps ↔ closed = true := by
  unfold Ends at ends
  split at ends
  · rename_i is
    obtain ⟨front, rfl, _⟩ := ends
    simp [is]
  · rename_i is
    simpa [is] using ends

theorem whole_of_last {α : Type} {part front : List α} {last : α}
    (before : part <+: front ++ [last])
    (inside : last ∈ part) (fresh : last ∉ front) : part = front ++ [last] := by
  rcases List.prefix_concat_iff.mp before with is | earlier
  · exact is
  · exact absurd (earlier.subset inside) fresh

theorem ends_whole {ps qs : List Packet} (before : ps <+: qs) (inside : .controlClose ∈ ps)
    {closed : Bool} (ends : Ends closed qs) : ps = qs := by
  have is := (ends_mem ends).mp (before.subset inside)
  subst is
  obtain ⟨front, rfl, fresh⟩ := ends
  exact whole_of_last before inside fresh

/-- Two tasks on their way, each of which reads what the other has written. -/
structure Meeting (first : Side → Prop) (p : Pair) : Prop where
  lands : ∀ s, Lands (first s) (p.get s).task
  fine : ∀ s, crashed (p.get s).task.pc = false
  linked : ∀ s, p.consumed s.other <+: p.written s

section Meetings

variable {first : Side → Prop} {p : Pair}

theorem meeting_marks (meeting : Meeting first p) (s : Side) :
    ∃ m, marks (p.get s).task.pc = some m ∧ Holds (first s) (p.get s).task.conn.io
      (p.get s).task.sent (p.get s).task.received (p.get s).task.taken (p.get s).task.put m := by
  have lands := meeting.lands s
  rcases lands with crash | found
  · rw [meeting.fine s] at crash
    cases crash
  · exact found

theorem meeting_flight (meeting : Meeting first p) (s : Side) :
    p.written s.other <+: wire (p.get s.other).task.sent := by
  obtain ⟨m, _, holds⟩ := meeting_marks meeting s.other
  exact ⟨m.unsent, holds.wrote⟩

theorem meeting_received (meeting : Meeting first p) (s : Side) :
    (p.get s).task.received ++ (p.get s).task.conn.io.packetBuffer <+:
      (p.get s.other).task.sent := by
  obtain ⟨m, _, holds⟩ := meeting_marks meeting s
  have linked := meeting.linked s.other
  rw [other_other] at linked
  rw [agrees_within holds.agrees (linked.trans (meeting_flight meeting s))]
  exact packetsWithin_prefix _ _

theorem meeting_arrives (meeting : Meeting first p) {s : Side}
    (closed : .controlClose ∈ (p.get s).task.received) :
    .controlClose ∈ (p.get s.other).task.sent :=
  (meeting_received meeting s).subset (List.mem_append.mpr (.inl closed))

theorem meeting_decodes (meeting : Meeting first p) {s : Side} {chunk : List UInt8}
    (allowed : p.allows s (.task (.read chunk))) :
    ∃ io, (p.get s).task.conn.io.readBytes chunk = .ok io := by
  obtain ⟨m, _, holds⟩ := meeting_marks meeting s
  exact readBytes_ok holds.agrees (allowed.1.trans (meeting_flight meeting s))

theorem meeting_eof {q : Pair} (meeting : Meeting first p) {s : Side}
    (step : p.step (.on s (.task (.read []))) = some q) : False := by
  obtain ⟨e, allowed, moved, _⟩ := step_on step
  obtain ⟨t', ch', read, _⟩ := task_parts moved
  obtain ⟨all, gone⟩ := allowed.2 rfl
  obtain ⟨m, is, holds⟩ := meeting_marks meeting s
  obtain ⟨m', is', holds'⟩ := meeting_marks meeting s.other
  have whole : m'.closeSent = true ∧ m'.unsent = [] := by
    rcases gone with down | gone
    · exact holds'.shutdown down
    · obtain ⟨sent, _, unsent, _⟩ := marks_gone gone is'
      exact ⟨sent, unsent⟩
  have consumed : p.consumed s = wire (p.get s.other).task.sent := by
    have wrote := holds'.wrote
    rw [whole.2, List.append_nil] at wrote
    exact all.trans wrote
  obtain ⟨waits, empty⟩ := read_polled read
  have received := (agrees_all holds.agrees consumed).1
  rw [empty, List.append_nil] at received
  have closed := (ends_mem holds'.closeSent).mpr whole.1
  rw [← received] at closed
  have late := (ends_mem holds.closeReceived).mp closed
  rw [marks_receiving waits is] at late
  cases late

theorem later_no_hello {before buffer sent : List Packet} {p : Packet}
    (part : before ++ buffer <+: sent)
    (head : buffer.head? = some p) (met : before ≠ [])
    (hellos : ∀ q ∈ sent.tail, isHello q = false) :
    isHello p = false := by
  obtain ⟨rest, rfl⟩ := List.head?_eq_some_iff.mp head
  obtain ⟨more, rfl⟩ := part
  cases before with
  | nil => exact absurd rfl met
  | cons first before => exact hellos p (by simp)

theorem meeting_hello (meeting : Meeting first p) {s : Side} {event : TaskEvent}
    (allowed : p.allows s (.task event)) : ¬ HandlesHello (p.get s).task event := by
  rintro ⟨here, hello⟩
  obtain ⟨m, is, holds⟩ := meeting_marks meeting s
  obtain ⟨m', _, holds'⟩ := meeting_marks meeting s.other
  rw [here] at is
  cases is
  have met : (p.get s).task.received ≠ [] := holds.met.mp rfl
  obtain ⟨first, found, is⟩ := (Option.any_eq_true _ _).mp hello
  cases event with
  | packet =>
    rw [later_no_hello (meeting_received meeting s) found met holds'.hellos] at is
    cases is
  | read chunk =>
    obtain ⟨io, read⟩ := meeting_decodes meeting allowed
    have part : (p.get s).task.received ++ io.packetBuffer <+: (p.get s.other).task.sent := by
      have within : io.stream.consumed <+: wire (p.get s.other).task.sent := by
        rw [readBytes_stream read]
        exact allowed.1.trans (meeting_flight meeting s)
      rw [agrees_within (agrees_read holds.agrees read) within]
      exact packetsWithin_prefix _ _
    simp only [received, read] at found
    split at found
    · cases found
    · rw [later_no_hello part found met holds'.hellos] at is
      cases is
  | _ => cases found

end Meetings

structure Graced (p : Pair) : Prop where
  books : ∀ s, Books (p.get s)
  manners : ∀ s, Manners (p.get s)
  lands : ∀ s, Lands (s = .y) (p.get s).task
  phases : ∀ s, phase (p.get s).task.pc = .handshake ∨ InRun (p.get s).task
  fine : ∀ s, crashed (p.get s).task.pc = false
  linked : ∀ s, p.consumed s.other <+: p.written s
  stays : Stays (p.get .y)

theorem Graced.meeting {p : Pair} (graced : Graced p) : Meeting (· = .y) p :=
  ⟨graced.lands, graced.fine, graced.linked⟩

theorem marks_at {p : Pair} (graced : Graced p) (s : Side) : ∃ m, marks (p.get s).task.pc = some m ∧
    Holds (s = .y) (p.get s).task.conn.io (p.get s).task.sent (p.get s).task.received
      (p.get s).task.taken (p.get s).task.put m :=
  meeting_marks graced.meeting s

theorem in_flight {p : Pair} (graced : Graced p) (s : Side) :
    p.written s.other <+: wire (p.get s.other).task.sent :=
  meeting_flight graced.meeting s

theorem received_of {p : Pair} (graced : Graced p) (s : Side) :
    (p.get s).task.received ++ (p.get s).task.conn.io.packetBuffer <+:
      (p.get s.other).task.sent :=
  meeting_received graced.meeting s

theorem close_arrives {p : Pair} (graced : Graced p) {s : Side}
    (closed : .controlClose ∈ (p.get s).task.received) :
    .controlClose ∈ (p.get s.other).task.sent :=
  meeting_arrives graced.meeting closed

/-- y only answers a close. -/
theorem y_answers {p : Pair} (graced : Graced p) (closed : .controlClose ∈ (p.get .y).task.sent) :
    .controlClose ∈ (p.get .y).task.received := by
  obtain ⟨m, is, holds⟩ := marks_at graced .y
  rcases marks_closeSent is ((ends_mem holds.closeSent).mp closed) with asked | received
  · have accepted := (graced.books .y).requests
    refine absurd ?_ graced.stays.accepted
    rw [accepted]
    exact List.mem_append.mpr (.inl (holds.asked asked))
  · exact (ends_mem holds.closeReceived).mpr received

/-- A ControlClose that reaches x answers the one x has sent. -/
theorem x_first {p : Pair} (graced : Graced p)
    (closed : .controlClose ∈ (p.get .x).task.received) :
    .controlClose ∈ (p.get .x).task.sent :=
  close_arrives graced (s := .y) (y_answers graced (close_arrives graced (s := .x) closed))

theorem x_never_drains {p : Pair} (graced : Graced p) : (p.get .x).task.pc ≠ .draining := by
  intro here
  obtain ⟨m, is, holds⟩ := marks_at graced .x
  rw [here] at is
  cases is
  have sent := x_first graced ((ends_mem holds.closeReceived).mpr rfl)
  cases (ends_mem holds.closeSent).mp sent

theorem dead_finished {e : Endpoint} (books : Books e) (manners : Manners e)
    (dead : e.channels.handlerAlive = false) :
    ∃ closed result, e.handler.taskHandle = .finished closed ∧ e.task.pc = .finished result := by
  obtain ⟨rest, member⟩ := manners.alive dead
  obtain ⟨closed, handle, _⟩ := books.closes rest member
  obtain ⟨_, result, here, _⟩ := books.finished closed handle
  exact ⟨closed, result, handle, here⟩

theorem inRun_fine {t : Task} (inRun : InRun t) : crashed t.pc = false := by
  cases here : t.pc with
  | failed e => rcases inRun with ⟨running, _⟩ | excess <;> simp_all [phase]
  | panicked site => exact absurd here (not_panicked inRun site)
  | _ => rfl

theorem task_graced {p q : Pair} {s : Side} {event : TaskEvent} (graced : Graced p)
    (ok : Graceful p (.on s (.task event))) (step : p.step (.on s (.task event)) = some q) :
    Lands (s = .y) (q.get s).task ∧ (phase (q.get s).task.pc = .handshake ∨ InRun (q.get s).task) ∧
      crashed (q.get s).task.pc = false := by
  have connects := ok.2 q step
  obtain ⟨e, allowed, moved, rfl⟩ := step_on step
  obtain ⟨t', ch', taken, task, channels, _, _⟩ := task_parts moved
  rw [get_set, task]
  have notAborted : event ≠ .abort := by
    rintro rfl
    simp only [Endpoint.step] at moved
    split at moved
    · simp at moved
    · rename_i running
      have handle : (p.get s).handler.taskHandle = .running := by simpa using running
      cases task_move taken with
      | aborts dead =>
        obtain ⟨closed, _, finished, _⟩ := dead_finished (graced.books s) (graced.manners s) dead
        rw [handle] at finished
        cases finished
      | _ => contradiction
  have calm_ : calm event = true := by
    have plain := ok.1
    cases event with
    | ioError => cases plain
    | closeTimeout => cases plain
    | activeTimeoutTick => cases plain
    | abort => exact absurd rfl notAborted
    | read chunk =>
      cases chunk with
      | nil => exact (meeting_eof graced.meeting step).elim
      | cons b chunk => rfl
    | _ => rfl
  have ready : phase (p.get s).task.pc = .running → (p.get s).task.conn.state = .connected := by
    intro running
    rcases graced.phases s with early | ⟨_, ready⟩ | excess
    · rw [running] at early
      cases early
    · exact ready.state
    · rw [running] at excess
      cases excess
  have data : ∀ packet, .send packet ∈ (p.get s).channels.requests →
    ∃ bytes, packet = .data bytes := by
    intro packet member
    obtain ⟨call, is⟩ := (graced.books s).asked (.send packet) (by
      rw [(graced.books s).requests]
      exact List.mem_append.mpr (.inr member))
    cases call with
    | write bytes => exact ⟨bytes, by simpa [Asking.request] using is⟩
    | getStatus => cases is
    | close => cases is
  have first : (p.get s).task.pc = .draining → s = .y := by
    intro here
    cases s with
    | x => exact absurd here (x_never_drains graced)
    | y => rfl
  have lands := step_lands ready (graced.lands s) data
    (fun chunk is => meeting_decodes graced.meeting (by exact is ▸ allowed)) first calm_ taken
  rcases graced.phases s with early | inRun
  · have fine' : crashed t'.pc = false := by
      have kept := connects s early
      rw [get_set, task] at kept
      exact kept
    exact ⟨lands, handshake_step early fine' taken, fine'⟩
  · cases alive : (p.get s).channels.handlerAlive with
    | true =>
      have after := (step_outcome inRun alive taken).2 (meeting_hello graced.meeting allowed)
      exact ⟨lands, .inr after, inRun_fine after⟩
    | false =>
      obtain ⟨_, _, _, here⟩ := dead_finished (graced.books s) (graced.manners s) alive
      obtain ⟨_, rfl, _⟩ := finished_passes here notAborted taken
      exact ⟨lands, .inr inRun, graced.fine s⟩

theorem asks_early {p : Pair} (graced : Graced p) (s : Side)
    (here : (p.get s).handler.pc = .requesting .close) : connGone (p.get s).task.pc = false := by
  cases s with
  | y =>
    have inside := graced.stays.pc
    rw [here] at inside
    cases inside
  | x =>
    by_contra gone
    obtain ⟨m, is, holds⟩ := marks_at graced .x
    obtain ⟨sent, _⟩ := marks_gone (by simpa using gone) is
    have asked : m.asked = true := by
      by_contra none
      cases holds.answers sent (by simpa using none)
    have taken : .close ∈ (p.get .x).handler.accepted := by
      rw [(graced.books .x).requests]
      exact List.mem_append.mpr (.inl (holds.asked asked))
    have excess := ((graced.manners .x).last taken).2
    rw [here] at excess
    cases excess

theorem graced_on {p q : Pair} {s : Side} {event : EndpointEvent} (graced : Graced p)
    (ok : Graceful p (.on s event)) (step : p.step (.on s event) = some q) : Graced q := by
  obtain ⟨e, allowed, moved, is⟩ := step_on step
  have there : q.get s.other = p.get s.other := by rw [is, get_set_other]
  have here : q.get s = e := by rw [is, get_set]
  have books := step_books (graced.books s) moved
  have linked : ∀ t, q.consumed t.other <+: q.written t := by
    obtain ⟨wrote, read⟩ := step_stream moved
    refine both_sides (s := s) ?_ ?_
    · have linked := graced.linked s
      simp only [Pair.consumed, Pair.written, here, there] at linked ⊢
      exact linked.trans wrote
    · have linked := graced.linked s.other
      simp only [Pair.consumed, Pair.written, here, there, other_other] at linked ⊢
      rcases read with same | ⟨chunk, rfl, more⟩
      · exact same ▸ linked
      · exact more ▸ allowed.1
  by_cases mine : ∃ te, event = .task te
  · obtain ⟨te, rfl⟩ := mine
    obtain ⟨lands, phases, fine⟩ := task_graced graced ok step
    refine ⟨both_sides (s := s) ?_ ?_, both_sides (s := s) ?_ ?_, both_sides (s := s) lands ?_,
      both_sides (s := s) phases ?_, both_sides (s := s) fine ?_, linked, ?_⟩
    · exact here ▸ books
    · exact there ▸ graced.books _
    · exact here ▸ manners_task (graced.manners s) moved
    · exact there ▸ graced.manners _
    · exact there ▸ graced.lands _
    · exact there ▸ graced.phases _
    · exact there ▸ graced.fine _
    · cases s with
      | x => exact there ▸ graced.stays
      | y => exact here ▸ stays_task graced.stays moved
  · have calls : ∀ te, event ≠ .task te := fun te is => mine ⟨te, is⟩
    have task := call_task calls moved
    have turn := step_turn calls moved
    have kept : event ≠ .dropHandler := by
      rintro rfl
      cases ok.1
    refine ⟨both_sides (s := s) ?_ ?_, both_sides (s := s) ?_ ?_, both_sides (s := s) ?_ ?_,
      both_sides (s := s) ?_ ?_, both_sides (s := s) ?_ ?_, linked, ?_⟩
    · exact here ▸ books
    · exact there ▸ graced.books _
    · exact here ▸ manners_turn (graced.manners s) books task turn kept (asks_early graced s)
    · exact there ▸ graced.manners _
    · rw [here, task]
      exact graced.lands s
    · exact there ▸ graced.lands _
    · rw [here, task]
      exact graced.phases s
    · exact there ▸ graced.phases _
    · rw [here, task]
      exact graced.fine s
    · exact there ▸ graced.fine _
    · cases s with
      | x => exact there ▸ graced.stays
      | y =>
        refine here ▸ stays_turn graced.stays turn ?_ kept
        rintro rfl
        cases ok.1

theorem step_graced {p q : Pair} {event : PairEvent} (graced : Graced p) (ok : Graceful p event)
    (step : p.step event = some q) : Graced q := by
  cases event with
  | on s event => exact graced_on graced ok step
  | pass =>
    cases step
    refine ⟨fun s => ?_, fun s => ?_, fun s => ?_, fun s => ?_, fun s => ?_, fun s => ?_,
      ⟨graced.stays.accepted, graced.stays.pc, graced.stays.results⟩⟩
    · have books := graced.books s
      cases s <;> exact ⟨books.requests, books.written, books.asked, books.packets,
        books.onlyData, books.finished, books.failures, books.closes⟩
    · have manners := graced.manners s
      cases s <;> exact ⟨manners.last, manners.reads, manners.closes, manners.alive,
        manners.checks, manners.learned⟩
    · have lands := graced.lands s
      cases s <;> exact lands
    · have phases := graced.phases s
      cases s <;> exact phases
    · have fine := graced.fine s
      cases s <;> exact fine
    · have linked := graced.linked s
      cases s <;> exact linked

theorem fresh_graced {p : Pair} (fresh : Fresh p) : Graced p where
  books s := opened_books (fresh.opened s)
  manners s := by
    have opened := fresh.opened s
    refine ⟨?_, ?_, ?_, ?_, ?_, ?_⟩ <;> simp [opened.handler, opened.alive]
  lands s := by
    have opened := fresh.opened s
    refine lands_of (m := { greeted := false, met := false }) (by simp [opened.start, marks]) ?_
    rw [fresh.io, fresh.sent, fresh.received, opened.taken, opened.put]
    exact {
      wrote := rfl
      agrees := agrees_empty
      gave := rfl
      carried := rfl
      hellos := by simp
      greeted := by simp
      met := by simp
      asked := by simp
      closeSent := by simp [Ends]
      closeReceived := by simp [Ends]
      answers := by simp
      shutdown := by simp }
  phases s := .inl (by simp [(fresh.opened s).start, phase])
  fine s := by simp [(fresh.opened s).start, crashed]
  linked s := by simp [Pair.consumed, fresh.io]
  stays := by
    have opened := fresh.opened .y
    refine ⟨?_, ?_, ?_⟩ <;> simp [opened.handler, leaving]

theorem received_all {p : Pair} (graced : Graced p) {s : Side}
    (closed : .controlClose ∈ (p.get s).task.received) :
    messages (p.get s).task.received = sends (p.get s.other).task.taken := by
  obtain ⟨m, _, holds⟩ := marks_at graced s.other
  have part : (p.get s).task.received <+: (p.get s.other).task.sent :=
    (List.prefix_append _ _).trans (received_of graced s)
  rw [ends_whole part closed holds.closeSent, holds.carried]

theorem x_sent_all {p : Pair} (graced : Graced p) (closed : .controlClose ∈ (p.get .x).task.sent) :
    sends (p.get .x).task.taken = writtenMessages (p.get .x).handler.results := by
  obtain ⟨m, is, holds⟩ := marks_at graced .x
  have asked : m.asked = true := by
    by_contra none
    cases holds.answers ((ends_mem holds.closeSent).mp closed) (by simpa using none)
  have books := graced.books .x
  have part : (p.get .x).task.taken <+: (p.get .x).handler.accepted := by
    rw [books.requests]
    exact List.prefix_append _ _
  obtain ⟨⟨front, last, fresh⟩, _⟩ := (graced.manners .x).last (part.subset (holds.asked asked))
  rw [last] at part
  rw [books.written, last, whole_of_last part (holds.asked asked) fresh]

theorem finished_received {p : Pair} (graced : Graced p) {s : Side}
    {result : Except ConnectionError Unit} (here : (p.get s).task.pc = .finished result) :
    .controlClose ∈ (p.get s).task.received ∧
      messages (p.get s).task.received = (p.get s).task.put := by
  obtain ⟨m, is, holds⟩ := marks_at graced s
  obtain ⟨_, received, _, inHand⟩ := marks_gone (by simp [here, connGone]) is
  refine ⟨(ends_mem holds.closeReceived).mpr received, ?_⟩
  have gave := holds.gave
  rwa [inHand, List.append_nil] at gave

/-- What the reads and the end of the task have handed out, once the task is joined. -/
theorem joined_put {e : Endpoint} (books : Books e) {closed : ConnectionClosed}
    (handle : e.handler.taskHandle = .finished closed) :
    e.task.put = readMessages e.handler.results ++ closed.messages := by
  rw [books.packets, handle, (books.finished closed handle).1]
  simp [drained, messages]

theorem y_reads_all {p : Pair} (graced : Graced p) {closed : ConnectionClosed}
    (ends : .read (.error closed) ∈ p.y.handler.results) :
    readMessages p.y.handler.results ++ closed.messages = writtenMessages p.x.handler.results ∧
      (closed.messages = [] ∨
        ∃ r ∈ p.y.handler.results, failure r = some closed ∧ ∀ q, r ≠ .read q) := by
  have books : Books p.y := graced.books .y
  have manners : Manners p.y := graced.manners .y
  have handle : p.y.handler.taskHandle = .finished closed :=
    (books.failures _ ends closed rfl).resolve_left (manners.reads closed ends)
  obtain ⟨_, result, here, _⟩ := books.finished closed handle
  obtain ⟨received, put⟩ := finished_received graced (s := .y) here
  constructor
  · rw [← joined_put books handle]
    calc p.y.task.put = messages p.y.task.received := put.symm
      _ = sends p.x.task.taken := received_all graced (s := .y) received
      _ = writtenMessages p.x.handler.results :=
        x_sent_all graced (close_arrives graced (s := .y) received)
  · exact (manners.learned closed handle).resolve_left fun ⟨q, member⟩ =>
      graced.stays.results q member

theorem x_close_all {p : Pair} (graced : Graced p)
    {r : Except ConnectionClosed (Except ConnectionError (List (List UInt8)))}
    (closed : .close r ∈ p.x.handler.results) :
    ∃ rest, r = .ok (.ok rest) ∧
      readMessages p.x.handler.results ++ rest = sends p.y.task.taken := by
  have books : Books p.x := graced.books .x
  obtain ⟨rest, rfl⟩ := (graced.manners .x).closes r closed
  obtain ⟨c, handle, same⟩ := books.closes rest closed
  obtain ⟨_, result, here, _⟩ := books.finished c handle
  obtain ⟨received, put⟩ := finished_received graced (s := .x) here
  refine ⟨rest, rfl, ?_⟩
  calc readMessages p.x.handler.results ++ rest = p.x.task.put := by
        rw [joined_put books handle, same]
    _ = messages p.x.task.received := put.symm
    _ = sends p.y.task.taken := received_all graced (s := .x) received

/-- In a graceful run, what the reads of y return up to an error is, with what an earlier
    error of its write or get_status has carried off, all that x has written before its
    close; and the reads and the close of x return all that the task of y has taken. -/
theorem close_delivers {p₀ p : Pair} (fresh : Fresh p₀) (run : Reaches Pair.step Graceful p₀ p) :
    (∀ closed, .read (.error closed) ∈ p.y.handler.results →
      readMessages p.y.handler.results ++ closed.messages = writtenMessages p.x.handler.results ∧
        (closed.messages = [] ∨
          ∃ r ∈ p.y.handler.results, failure r = some closed ∧ ∀ q, r ≠ .read q)) ∧
    ∀ r, .close r ∈ p.x.handler.results → ∃ rest, r = .ok (.ok rest) ∧
      readMessages p.x.handler.results ++ rest = sends p.y.task.taken := by
  have graced := run.keeps (fun graced ok step => step_graced graced ok step) (fresh_graced fresh)
  exact ⟨fun closed ends => y_reads_all graced ends, fun r closed => x_close_all graced closed⟩

/-- x writes and closes; y writes once more after its task has finished, and then reads. -/
def closeThenWrite : List PairEvent :=
  bothHandshakes ++
    [.on .x (.task (.enterRun 0)), .on .x (.task (.wrote 12)), .on .y (.task (.enterRun 0)),
      .on .y (.task (.wrote 12)), .on .x (.write [1]), .on .x .requested, .on .x (.task .request),
      .on .x (.task (.wrote 9)), .on .x .close, .on .x .requested, .on .x (.task .request),
      .on .x (.task (.wrote 8)), .on .x (.task .shutdown),
      .on .y (.task (.read [0x4E, 0x43, 0x44, 0x01, 0x00, 0x04, 0x00, 0x05, 0x00, 0x00, 0x00, 0x00,
        0x4E, 0x43, 0x44, 0x01, 0x00, 0x01, 0x00, 0x07, 0x01,
        0x4E, 0x43, 0x44, 0x01, 0x00, 0x00, 0x00, 0x03])),
      .on .y (.task (.wrote 12)), .on .y (.task .packet), .on .y (.task .deliver),
      .on .y (.task .packet), .on .y (.task .tryRecv), .on .y (.task (.wrote 8)),
      .on .y (.task .shutdown), .on .y (.task .dropConn), .on .y (.task .finish),
      .on .y (.write [2]), .on .y .read, .on .y .recv, .on .y .check]

def start : Pair := ⟨aDevice, aHost, 64, 64⟩

theorem start_fresh : Fresh start where
  opened s := by cases s <;> exact new_opened _ _ _ _ _ _
  io s := by cases s <;> rfl
  sent s := by cases s <;> rfl
  received s := by cases s <;> rfl

def closed : Pair := (execIf Pair.step Graceful start closeThenWrite).getD start

theorem closed_reached : Reaches Pair.step Graceful start closed :=
  reaches_of_execIf closeThenWrite (by decide +kernel)

theorem closed_delivers :
    (∀ closing, .read (.error closing) ∈ closed.y.handler.results →
      readMessages closed.y.handler.results ++ closing.messages =
          writtenMessages closed.x.handler.results ∧
        (closing.messages = [] ∨
          ∃ r ∈ closed.y.handler.results, failure r = some closing ∧ ∀ q, r ≠ .read q)) ∧
    ∀ r, .close r ∈ closed.x.handler.results → ∃ rest, r = .ok (.ok rest) ∧
      readMessages closed.x.handler.results ++ rest = sends closed.y.task.taken :=
  close_delivers start_fresh closed_reached

/-- The error of the write carries the message 0x01; the reads return nothing but an error. -/
theorem reads_miss_message :
    ¬ ∀ p₀ p : Pair, Fresh p₀ → Reaches Pair.step Graceful p₀ p →
      (∃ closing, .read (.error closing) ∈ p.y.handler.results) →
      readMessages p.y.handler.results = writtenMessages p.x.handler.results := by
  intro claim
  have all := claim start closed start_fresh closed_reached
    ⟨.error [[0x01]] .peerClosed, by decide +kernel⟩
  revert all
  decide +kernel

end NcdGracefulClose
