import Ncd.GracefulClose

/- How two endpoints end that may both close, at any time: they agree that it was a close,
   one of them at least has asked for it, and neither has missed a message of the other. -/
namespace NcdAgreement
open NcdPacket NcdFrame NcdIoState NcdReceiver NcdConnection NcdHandler NcdTaskMoves NcdTaskSteps
  NcdBooks NcdPanicFree NcdHandlerCalls NcdTransfer NcdTurns NcdPair NcdGracefulClose LabelledRuns

/-- No I/O error, no timeout and no abort of a task; no handler is dropped before its close. -/
def orderly : PairEvent → Bool
  | .on _ (.task .ioError) | .on _ (.task .closeTimeout) | .on _ (.task .activeTimeoutTick)
  | .on _ (.task .abort) | .on _ .dropHandler => false
  | _ => true

def Peaceful (p : Pair) (event : PairEvent) : Prop := orderly event = true ∧ Connects p event

instance (p : Pair) (event : PairEvent) : Decidable (Peaceful p event) :=
  inferInstanceAs (Decidable (_ ∧ _))

def asked (pc : Pc) : Bool := (marks pc).any (·.asked)

def closing (pc : Pc) : Bool := (marks pc).any (·.closeSent)

def EndsWith (pc : Pc) (result : Except ConnectionError Unit) : Prop :=
  pc = .returned result ∨ pc = .dropped result ∨ pc = .finished result

theorem dropped_steps {t t' : Task} {ch ch' : Channels} {event : TaskEvent}
    {result : Except ConnectionError Unit} (here : t.pc = .dropped result)
    (kept : event ≠ .abort) (step : t.step ch event = some (t', ch')) :
    t'.pc = .dropped result ∨ t'.pc = .finished result := by
  have gone : connGone t.pc = true := by
    rw [here]
    rfl
  rcases gone_moves gone step with rfl | ⟨is, -⟩ | ⟨r, before, rfl⟩
  · exact .inl here
  · exact absurd is kept
  · rw [here] at before
    cases before
    exact .inr rfl

theorem finishClose_returned (t : Task) (result : Except ConnectionError Unit) :
    (t.finishClose result).pc = .returned result := by
  unfold Task.finishClose
  simp [Connection.switchTo]

theorem asked_step {t t' : Task} {ch ch' : Channels} {event : TaskEvent}
    (was : asked t.pc = true) (fine : calm event = true) (whole : crashed t'.pc = false)
    (decodes : ∀ chunk, event = .read chunk → ∃ io, t.conn.io.readBytes chunk = .ok io)
    (step : t.step ch event = some (t', ch')) : asked t'.pc = true := by
  have away : ∀ {pc : Pc}, t.pc = pc → asked pc = false → False := by
    intro pc here not
    rw [here, not] at was
    cases was
  have sound : ∀ {e u}, Breaks t event e u → False := by
    intro e u breaks
    cases breaks with
    | io => cases fine
    | garbled waits empty some bad =>
      obtain ⟨io, read⟩ := decodes _ rfl
      rw [read] at bad
      cases bad
  cases task_move step with
  | passes => exact was
  | aborts | losesHello | losesSend | losesShutdown | timesOut | givesUp | shakeEof | runEof =>
    cases fine
  | shakeBreaks here breaks | runBreaks here breaks | closeBreaks here breaks =>
    exact (sound breaks).elim
  | reads => exact was
  | @writes n rest next here | @resumes n rest next here =>
    -- of what is sent, only the ControlClose of closeBySelf is sent by one who was asked
    cases next with
    | closing inactive =>
      cases inactive with
      | true => exact (away here rfl).elim
      | false => rfl
    | _ => exact (away here rfl).elim
  | @awaitsClose inactive here | @closeGets _ _ _ inactive _ here =>
    cases inactive with
    | true => exact (away here rfl).elim
    | false => rfl
  | @closeMeets _ _ inactive _ here =>
    cases inactive with
    | true => exact (away here rfl).elim
    | false =>
      rw [finishClose_returned]
      rfl
  | closeSkips here other control hands =>
    cases hands <;> exact was
  | undelivered => cases whole
  | @deliversLate _ inactive _ here =>
    cases inactive with
    | true => exact (away here rfl).elim
    | false => rfl
  | drops here | finishes here =>
    rw [here] at was
    exact was
  | acknowledged here | greeted here | handles here | saysHello here | awaitsHello here
  | spawns here | entersRun here | closesStream here | keepsAlive here | queries here
  | takesClose here | takesSend here | takesGetStatus here | drained here | drainsClose here
  | drainsSend here | drainsGetStatus here | delivers here | unanswered here | replies here =>
    exact (away here rfl).elim
  | misgreeted here =>
    rcases here with ⟨here, _⟩ | ⟨here, _⟩ <;> exact (away here rfl).elim

def Last (e : Endpoint) : Prop :=
  .close ∈ e.handler.accepted →
    (∃ front, e.handler.accepted = front ++ [.close] ∧ .close ∉ front) ∧ shut e.handler.pc = true

theorem last_turn {e e' : Endpoint} {event : EndpointEvent} (last : Last e)
    (turn : Turn e event e') : Last e' := by
  cases turn with
  | rests accepted results alive handle stays leaves checks =>
    rw [Last, accepted]
    exact fun member => ⟨(last member).1, stays (last member).2⟩
  | accepts here accepted results alive handle goes =>
    have fresh : .close ∉ e.handler.accepted := by
      intro member
      have closed := (last member).2
      simp [here, shut] at closed
    rw [Last, accepted, List.mem_append, List.mem_singleton]
    intro member
    have close := request_close (member.resolve_left fresh)
    subst close
    rcases goes with ⟨_, joining⟩ | ⟨other, _⟩
    · exact ⟨⟨_, rfl, fresh⟩, by rw [joining]; rfl⟩
    · exact absurd rfl other
  | returns before accepted results alive pc open_ read learns =>
    rw [Last, accepted]
    intro member
    have closed := (last member).2
    rw [before] at closed
    cases closed
  | closes accepted results pc comes ends =>
    rw [Last, accepted, pc]
    exact fun member => ⟨(last member).1, rfl⟩

theorem last_task {e e' : Endpoint} {event : TaskEvent} (last : Last e)
    (step : e.step (.task event) = some e') : Last e' := by
  obtain ⟨_, _, _, _, _, pc, handler⟩ := task_parts step
  have accepted : e'.handler.accepted = e.handler.accepted := by
    rcases handler with is | ⟨_, is⟩ <;> rw [is]
  rw [Last, accepted, pc]
  exact last

structure Agreeing (p : Pair) : Prop where
  books : ∀ s, Books (p.get s)
  meeting : Meeting (fun _ => True) p
  phases : ∀ s, phase (p.get s).task.pc = .handshake ∨ InRun (p.get s).task
  alive : ∀ s, (p.get s).channels.handlerAlive = false → connGone (p.get s).task.pc = true
  last : ∀ s, Last (p.get s)
  asked : ∀ s, closing (p.get s).task.pc = true → ∃ t, asked (p.get t).task.pc = true

theorem agreeing_calm {p q : Pair} {s : Side} {event : TaskEvent} (agreeing : Agreeing p)
    (ok : Peaceful p (.on s (.task event))) (step : p.step (.on s (.task event)) = some q) :
    calm event = true := by
  have plain := ok.1
  cases event with
  | ioError => cases plain
  | closeTimeout => cases plain
  | activeTimeoutTick => cases plain
  | abort => cases plain
  | read chunk =>
    cases chunk with
    | nil => exact (meeting_eof agreeing.meeting step).elim
    | cons b chunk => rfl
  | _ => rfl

theorem task_agreeing {p q : Pair} {s : Side} {event : TaskEvent} (agreeing : Agreeing p)
    (ok : Peaceful p (.on s (.task event))) (step : p.step (.on s (.task event)) = some q) :
    Lands True (q.get s).task ∧ (phase (q.get s).task.pc = .handshake ∨ InRun (q.get s).task) ∧
      crashed (q.get s).task.pc = false := by
  have calm_ := agreeing_calm agreeing ok step
  have connects := ok.2 q step
  obtain ⟨e, allowed, moved, rfl⟩ := step_on step
  obtain ⟨t', ch', taken, task, channels, _, _⟩ := task_parts moved
  rw [get_set, task]
  have books := agreeing.books s
  have fine := agreeing.meeting.fine s
  have ready : phase (p.get s).task.pc = .running → (p.get s).task.conn.state = .connected := by
    intro running
    rcases agreeing.phases s with early | ⟨_, ready⟩ | excess
    · rw [running] at early
      cases early
    · exact ready.state
    · rw [running] at excess
      cases excess
  have data : ∀ packet, .send packet ∈ (p.get s).channels.requests →
    ∃ bytes, packet = .data bytes := by
    intro packet member
    obtain ⟨call, is⟩ := books.asked (.send packet) (by
      rw [books.requests]
      exact List.mem_append.mpr (.inr member))
    cases call with
    | write bytes => exact ⟨bytes, by simpa [Asking.request] using is⟩
    | getStatus => cases is
    | close => cases is
  have lands := step_lands ready (agreeing.meeting.lands s) data
    (fun chunk is => meeting_decodes agreeing.meeting (by exact is ▸ allowed)) (fun _ => trivial)
    calm_ taken
  have kept : event ≠ .abort := by
    rintro rfl
    cases calm_
  rcases agreeing.phases s with early | inRun
  · have fine' : crashed t'.pc = false := by
      have kept := connects s early
      rw [get_set, task] at kept
      exact kept
    exact ⟨lands, handshake_step early fine' taken, fine'⟩
  · cases alive : (p.get s).channels.handlerAlive with
    | true =>
      have after := (step_outcome inRun alive taken).2 (meeting_hello agreeing.meeting allowed)
      exact ⟨lands, .inr after, inRun_fine after⟩
    | false =>
      -- the close has returned: the Connection is gone, and the task at its end
      have gone := agreeing.alive s alive
      obtain ⟨m, is, _⟩ := meeting_marks agreeing.meeting s
      have ended : phase t'.pc = .ended := by
        cases here : (p.get s).task.pc with
        | dropped result => rcases dropped_steps here kept taken with is | is <;> rw [is] <;> rfl
        | finished result => rw [step_finished here kept taken]; rfl
        | failed e =>
          rw [here] at fine
          cases fine
        | panicked site =>
          rw [here] at fine
          cases fine
        | aborted =>
          rw [here] at is
          cases is
        | _ =>
          rw [here] at gone
          cases gone
      exact ⟨lands, .inr (.inr ended), inRun_fine (.inr ended)⟩

/-- One of the two was asked, as soon as one of them has sent ControlClose. -/
theorem first_asked {p q : Pair} {s : Side} (agreeing : Agreeing p)
    (meeting : Meeting (fun _ => True) q) (there : q.get s.other = p.get s.other)
    (stays : asked (p.get s).task.pc = true → asked (q.get s).task.pc = true) :
    ∀ t, closing (q.get t).task.pc = true → ∃ t, asked (q.get t).task.pc = true := by
  have old : ∀ t, closing (p.get t).task.pc = true → ∃ t, asked (q.get t).task.pc = true := by
    intro t sent
    obtain ⟨u, was⟩ := agreeing.asked t sent
    by_cases same : u = s
    · subst same
      exact ⟨u, stays was⟩
    · have other : u = s.other := by cases u <;> cases s <;> simp_all [Side.other]
      subst other
      exact ⟨_, there ▸ was⟩
  refine both_sides (s := s) ?_ ?_
  · intro sent
    obtain ⟨m, is, holds⟩ := meeting_marks meeting s
    have closed : m.closeSent = true := by simpa [closing, is] using sent
    rcases marks_closeSent is closed with asked_ | received
    · exact ⟨s, by simpa [asked, is] using asked_⟩
    · have arrived := meeting_arrives meeting ((ends_mem holds.closeReceived).mpr received)
      rw [there] at arrived
      obtain ⟨m', is', holds'⟩ := meeting_marks agreeing.meeting s.other
      refine old s.other ?_
      simpa [closing, is'] using (ends_mem holds'.closeSent).mp arrived
  · intro sent
    rw [there] at sent
    exact old s.other sent

theorem agreeing_on {p q : Pair} {s : Side} {event : EndpointEvent} (agreeing : Agreeing p)
    (ok : Peaceful p (.on s event)) (step : p.step (.on s event) = some q) : Agreeing q := by
  obtain ⟨e, allowed, moved, is⟩ := step_on step
  have there : q.get s.other = p.get s.other := by rw [is, get_set_other]
  have here : q.get s = e := by rw [is, get_set]
  have books : ∀ t, Books (q.get t) :=
    both_sides (s := s) (here ▸ step_books (agreeing.books s) moved) (there ▸ agreeing.books _)
  have linked : ∀ t, q.consumed t.other <+: q.written t := by
    obtain ⟨wrote, read⟩ := step_stream moved
    refine both_sides (s := s) ?_ ?_
    · have linked := agreeing.meeting.linked s
      simp only [Pair.consumed, Pair.written, here, there] at linked ⊢
      exact linked.trans wrote
    · have linked := agreeing.meeting.linked s.other
      simp only [Pair.consumed, Pair.written, here, there, other_other] at linked ⊢
      rcases read with same | ⟨chunk, rfl, more⟩
      · exact same ▸ linked
      · exact more ▸ allowed.1
  by_cases mine : ∃ te, event = .task te
  · obtain ⟨te, rfl⟩ := mine
    obtain ⟨lands, phases, fine⟩ := task_agreeing agreeing ok step
    obtain ⟨t', ch', taken, task, channels, _, _⟩ := task_parts moved
    have meeting : Meeting (fun _ => True) q :=
      ⟨both_sides (s := s) lands (there ▸ agreeing.meeting.lands _),
        both_sides (s := s) fine (there ▸ agreeing.meeting.fine _), linked⟩
    have gone : connGone (p.get s).task.pc = true → connGone (q.get s).task.pc = true := by
      intro gone
      rw [here, task]
      exact step_connGone gone taken
    have alive : e.channels.handlerAlive = (p.get s).channels.handlerAlive := by
      rw [channels]
      exact (task_channels taken).1
    have stays : asked (p.get s).task.pc = true → asked (q.get s).task.pc = true := by
      intro was
      rw [here, task] at fine ⊢
      exact asked_step was (agreeing_calm agreeing ok step) fine
        (fun chunk is => meeting_decodes agreeing.meeting (by exact is ▸ allowed)) taken
    refine ⟨books, meeting, both_sides (s := s) phases (there ▸ agreeing.phases _),
      both_sides (s := s) ?_ (there ▸ agreeing.alive _),
      both_sides (s := s) (here ▸ last_task (agreeing.last s) moved) (there ▸ agreeing.last _),
      first_asked agreeing meeting there stays⟩
    intro dead
    rw [here, alive] at dead
    exact gone (agreeing.alive s dead)
  · have calls : ∀ te, event ≠ .task te := fun te is => mine ⟨te, is⟩
    have task : (q.get s).task = (p.get s).task := by rw [here, call_task calls moved]
    have turn := step_turn calls moved
    have kept : event ≠ .dropHandler := by
      rintro rfl
      cases ok.1
    have tasks : ∀ t, (q.get t).task = (p.get t).task :=
      both_sides (s := s) task (by rw [there])
    refine ⟨books, ⟨fun t => ?_, fun t => ?_, linked⟩, fun t => ?_,
      both_sides (s := s) ?_ (there ▸ agreeing.alive _),
      both_sides (s := s) (here ▸ last_turn (agreeing.last s) turn) (there ▸ agreeing.last _),
      fun t => ?_⟩
    · rw [tasks]
      exact agreeing.meeting.lands t
    · rw [tasks]
      exact agreeing.meeting.fine t
    · rw [tasks]
      exact agreeing.phases t
    · intro dead
      rw [here] at dead
      rw [task]
      cases turn with
      | rests _ _ alive _ _ _ _ => exact agreeing.alive s ((alive.resolve_right kept) ▸ dead)
      | accepts _ _ _ alive _ _ => exact agreeing.alive s (alive ▸ dead)
      | returns _ _ _ alive _ _ _ _ => exact agreeing.alive s (alive ▸ dead)
      | closes _ _ _ _ ends =>
        rcases ends with ⟨c, handle, _⟩ | ⟨_, gone⟩
        · obtain ⟨_, result, finished, _⟩ := (books s).finished c (here ▸ handle)
          rw [← task, finished]
          rfl
        · exact gone
    · rw [tasks]
      intro sent
      obtain ⟨u, was⟩ := agreeing.asked t sent
      exact ⟨u, by rw [tasks]; exact was⟩

theorem step_agreeing {p q : Pair} {event : PairEvent} (agreeing : Agreeing p)
    (ok : Peaceful p event) (step : p.step event = some q) : Agreeing q := by
  cases event with
  | on s event => exact agreeing_on agreeing ok step
  | pass =>
    cases step
    refine ⟨fun s => ?_, ⟨fun s => ?_, fun s => ?_, fun s => ?_⟩, fun s => ?_, fun s => ?_,
      fun s => ?_, fun s sent => ?_⟩
    · have books := agreeing.books s
      cases s <;> exact ⟨books.requests, books.written, books.asked, books.packets,
        books.onlyData, books.finished, books.failures, books.closes⟩
    · have lands := agreeing.meeting.lands s
      cases s <;> exact lands
    · have fine := agreeing.meeting.fine s
      cases s <;> exact fine
    · have linked := agreeing.meeting.linked s
      cases s <;> exact linked
    · have phases := agreeing.phases s
      cases s <;> exact phases
    · have alive := agreeing.alive s
      cases s <;> exact alive
    · have last := agreeing.last s
      cases s <;> exact last
    · obtain ⟨t, was⟩ := agreeing.asked s (by cases s <;> exact sent)
      exact ⟨t, by cases t <;> exact was⟩

theorem fresh_agreeing {p : Pair} (fresh : Fresh p) : Agreeing p where
  books s := opened_books (fresh.opened s)
  meeting := by
    refine ⟨fun s => ?_, (fresh_graced fresh).fine, (fresh_graced fresh).linked⟩
    exact ((fresh_graced fresh).lands s).imp id fun ⟨m, is, holds⟩ =>
      ⟨m, is, { holds with answers := fun _ _ => trivial }⟩
  phases := (fresh_graced fresh).phases
  alive s dead := by
    rw [(fresh.opened s).alive] at dead
    cases dead
  last s := by simp [Last, (fresh.opened s).handler]
  asked s sent := by simp [closing, (fresh.opened s).start, marks] at sent

theorem ended_marked {p : Pair} (agreeing : Agreeing p) {s : Side}
    {result : Except ConnectionError Unit} (ends : EndsWith (p.get s).task.pc result) :
    ∃ m, marks (p.get s).task.pc = some m ∧ ended result = some m ∧
      Holds True (p.get s).task.conn.io (p.get s).task.sent (p.get s).task.received
        (p.get s).task.taken (p.get s).task.put m := by
  obtain ⟨m, is, holds⟩ := meeting_marks agreeing.meeting s
  refine ⟨m, is, ?_, holds⟩
  rcases ends with here | here | here <;> rw [here] at is <;> exact is

/-- However two endpoints end that run into no error and no timeout: neither panics, each sees
    its own close or that of its peer, one of them its own, and it has got every message that the
    other's task has taken. All that the closer has written was taken. -/
theorem closes_agree {p₀ p : Pair} (fresh : Fresh p₀) (run : Reaches Pair.step Peaceful p₀ p) :
    (∀ s site, (p.get s).task.pc ≠ .panicked site) ∧
    (∀ s result, EndsWith (p.get s).task.pc result →
      (result = .ok () ∨ result = .error .peerClosed) ∧
        (p.get s).task.put = sends (p.get s.other).task.taken) ∧
    (∀ s result result', EndsWith (p.get s).task.pc result →
      EndsWith (p.get s.other).task.pc result' → result = .ok () ∨ result' = .ok ()) ∧
    ∀ s, EndsWith (p.get s).task.pc (.ok ()) →
      sends (p.get s).task.taken = writtenMessages (p.get s).handler.results := by
  have agreeing := run.keeps (fun agreeing ok step => step_agreeing agreeing ok step)
    (fresh_agreeing fresh)
  refine ⟨fun s site panicked => ?_, fun s result ends => ?_,
    fun s result result' ends ends' => ?_, fun s ends => ?_⟩
  · have fine := agreeing.meeting.fine s
    rw [panicked] at fine
    cases fine
  · obtain ⟨m, _, is, holds⟩ := ended_marked agreeing ends
    obtain ⟨_, received, _, inHand⟩ := ended_marks is
    constructor
    · cases result with
      | ok _ => exact .inl rfl
      | error e => cases e <;> first | exact .inr rfl | cases is
    · obtain ⟨_, _, holds'⟩ := meeting_marks agreeing.meeting s.other
      have part : (p.get s).task.received <+: (p.get s.other).task.sent :=
        (List.prefix_append _ _).trans (meeting_received agreeing.meeting s)
      have all := ends_whole part ((ends_mem holds.closeReceived).mpr received) holds'.closeSent
      have gave := holds.gave
      rw [inHand, List.append_nil, all, holds'.carried] at gave
      exact gave.symm
  · obtain ⟨m, here, is, _⟩ := ended_marked agreeing ends
    obtain ⟨m', here', is', _⟩ := ended_marked agreeing ends'
    have sent : closing (p.get s).task.pc = true := by
      simpa [closing, here] using (ended_marks is).1
    obtain ⟨t, was⟩ := agreeing.asked s sent
    have either : asked (p.get s).task.pc = true ∨ asked (p.get s.other).task.pc = true := by
      cases t <;> cases s <;> first | exact .inl was | exact .inr was
    refine either.imp (fun was => ?_) fun was => ?_
    · cases result with
      | ok _ => rfl
      | error e => cases e <;> cases is; simp [asked, here] at was
    · cases result' with
      | ok _ => rfl
      | error e => cases e <;> cases is'; simp [asked, here'] at was
  · obtain ⟨m, _, is, holds⟩ := ended_marked agreeing ends
    cases is
    have books := agreeing.books s
    have part : (p.get s).task.taken <+: (p.get s).handler.accepted := by
      rw [books.requests]
      exact List.prefix_append _ _
    obtain ⟨⟨front, last, fresh⟩, _⟩ := agreeing.last s (part.subset (holds.asked rfl))
    rw [last] at part
    rw [books.written, last, whole_of_last part (holds.asked rfl) fresh]

/-- Both write one byte and close at once; the two ControlClose cross. -/
def crossing : List PairEvent :=
  bothHandshakes ++
    [.on .x (.task (.enterRun 0)), .on .x (.task (.wrote 12)), .on .y (.task (.enterRun 0)),
      .on .y (.task (.wrote 12)), .on .x (.write [1]), .on .x .requested, .on .x (.task .request),
      .on .x (.task (.wrote 9)), .on .y (.write [2]), .on .y .requested, .on .y (.task .request),
      .on .y (.task (.wrote 9)), .on .x .close, .on .x .requested, .on .x (.task .request),
      .on .x (.task (.wrote 8)), .on .x (.task .shutdown), .on .y .close, .on .y .requested,
      .on .y (.task .request), .on .y (.task (.wrote 8)), .on .y (.task .shutdown),
      .on .y (.task (.read [0x4E, 0x43, 0x44, 0x01, 0x00, 0x04, 0x00, 0x05, 0x00, 0x00, 0x00, 0x00,
        0x4E, 0x43, 0x44, 0x01, 0x00, 0x01, 0x00, 0x07, 0x01,
        0x4E, 0x43, 0x44, 0x01, 0x00, 0x00, 0x00, 0x03])),
      .on .y (.task .packet), .on .y (.task .deliver), .on .y (.task .packet),
      .on .y (.task .dropConn), .on .y (.task .finish),
      .on .x (.task (.read [0x4E, 0x43, 0x44, 0x01, 0x00, 0x04, 0x00, 0x05, 0x00, 0x00, 0x00, 0x00,
        0x4E, 0x43, 0x44, 0x01, 0x00, 0x01, 0x00, 0x07, 0x02,
        0x4E, 0x43, 0x44, 0x01, 0x00, 0x00, 0x00, 0x03])),
      .on .x (.task .packet), .on .x (.task .deliver), .on .x (.task .packet),
      .on .x (.task .dropConn), .on .x (.task .finish)]

def crossed : Pair := (execIf Pair.step Peaceful start crossing).getD start

theorem crossing_closes_agree :
    (∀ s site, (crossed.get s).task.pc ≠ .panicked site) ∧
      crossed.x.task.pc = .finished (.ok ()) ∧ crossed.y.task.pc = .finished (.ok ()) ∧
      crossed.x.task.put = sends crossed.y.task.taken ∧
      sends crossed.y.task.taken = writtenMessages crossed.y.handler.results ∧
      crossed.x.task.put = [[2]] := by
  have run : Reaches Pair.step Peaceful start crossed :=
    reaches_of_execIf crossing (by decide +kernel)
  have x : crossed.x.task.pc = .finished (.ok ()) := by decide +kernel
  have y : crossed.y.task.pc = .finished (.ok ()) := by decide +kernel
  obtain ⟨whole, got, _, wrote⟩ := closes_agree start_fresh run
  exact ⟨whole, x, y, (got .x (.ok ()) (.inr (.inr x))).2, wrote .y (.inr (.inr y)), by decide +kernel⟩

end NcdAgreement
