import Ncd.GracefulClose
import Ncd.KeepAlive
import Ncd.WireGrammar

/- A device and a host that neither close nor fail: what each announces is what the other
   takes over, and the device is in its loop only after the host. -/
namespace NcdHealthyPair
open NcdPacket NcdFrame NcdIoState NcdReceiver NcdConnection NcdHandler NcdTaskMoves NcdTaskSteps
  NcdBooks NcdPanicFree NcdTransfer NcdTurns NcdPair NcdGracefulClose NcdWireGrammar NcdInactivity
  NcdKeepAlive LabelledRuns

/-- Nobody closes, and there is no I/O error. -/
def undisturbed : PairEvent → Bool
  | .on _ (.task .ioError) | .on _ .close | .on _ .dropHandler => false
  | _ => true

def Healthy (p : Pair) (event : PairEvent) : Prop := undisturbed event = true ∧ Connects p event

instance (p : Pair) (event : PairEvent) : Decidable (Healthy p event) :=
  inferInstanceAs (Decidable (_ ∧ _))

def suits : ConnRole → Stand → Bool
  | .host, .calling => false
  | .device, .listening | .device, .acking _ => false
  | _, _ => true

def early : Stand → Bool
  | .start | .calling | .listening | .acking _ => true
  | _ => false

structure Untroubled (p : Pair) : Prop where
  graced : Graced p
  stays : ∀ s, Stays (p.get s)
  spoken : ∀ s, ∃ hello handled, Grammatical hello handled (p.get s).task
  unsent : ∀ s rest next, (p.get s).task.pc = .sending rest next → rest ≠ []
  device : (p.get .x).task.conn.role = .device
  host : (p.get .y).task.conn.role = .host
  suited : ∀ s, suits (p.get s).task.conn.role (stand (p.get s).task.pc) = true
  acking : ∀ s peer, stand (p.get s).task.pc = .acking peer →
    (p.get s.other).task.conn.keepAliveIntervalMs = peer
  single : ∀ s peer, stand (p.get s).task.pc = .acking peer → (p.get s).task.sent.length = 1
  untimed : ∀ s, early (stand (p.get s).task.pc) = true →
    (p.get s).task.conn.keepAliveTimer = none ∧ timeoutTimer (p.get s).task = none

variable {p q : Pair} {s : Side}

/- x would have been asked to close; y would only answer x. -/
theorem never_closed (graced : Graced p) (stays : ∀ s, Stays (p.get s)) (s : Side) :
    .controlClose ∉ (p.get s).task.sent := by
  have x : .controlClose ∉ (p.get .x).task.sent := by
    intro closed
    obtain ⟨m, _, holds⟩ := marks_at graced .x
    have sent := (ends_mem holds.closeSent).mp closed
    have asked : m.asked = true := by
      by_contra none
      cases holds.answers sent (by simpa using none)
    refine (stays .x).accepted ?_
    rw [(graced.books .x).requests]
    exact List.mem_append_left _ (holds.asked asked)
  cases s with
  | x => exact x
  | y => exact fun closed => x (close_arrives graced (s := .y) (y_answers graced closed))

theorem open_stand {pc : Pc} {m : Marks} (is : marks pc = some m) (sent : m.closeSent = false)
    (received : m.closeReceived = false) : stand pc ≠ .gone := by
  unfold marks at is
  split at is
  all_goals first
    | rw [(ended_marks is).1] at sent; cases sent
    | cases is; first | (simp [stand]; done) | (cases sent; done) | cases received
    | cases is

theorem never_gone (graced : Graced p) (stays : ∀ s, Stays (p.get s)) (s : Side) :
    stand (p.get s).task.pc ≠ .gone := by
  obtain ⟨m, is, holds⟩ := marks_at graced s
  refine open_stand is ?_ ?_
  · by_contra sent
    exact never_closed graced stays s ((ends_mem holds.closeSent).mpr (by simpa using sent))
  · by_contra received
    have closed := (ends_mem holds.closeReceived).mpr (by simpa using received)
    exact never_closed graced stays s.other (close_arrives graced closed)

/- The first packet of a side is its hello. -/
theorem first_sent (untroubled : Untroubled p) {packet : Packet} {rest : List Packet}
    (sent : (p.get s).task.sent = packet :: rest) :
    packet = helloOf (p.get s).task.conn.role (p.get s).task.conn.keepAliveIntervalMs := by
  obtain ⟨hello, handled, stage, left, said, _⟩ := untroubled.spoken s
  rcases sentence_of_spoken said.spoken with none | ⟨talk, close, shape, _⟩
  · rw [sent] at none
    cases none
  · rw [said.opening]
    rw [sent, List.cons_append] at shape
    exact (List.cons.inj shape).1

theorem received_written (graced : Graced p) {packet : Packet} {rest : List Packet}
    (sent : (p.get s.other).task.sent = packet :: rest) (got : (p.get s).task.received ≠ []) :
    (packetBytes packet).length ≤ (p.written s.other).length := by
  obtain ⟨m, _, holds⟩ := marks_at graced s
  have linked := graced.linked s.other
  rw [other_other] at linked
  have within := agrees_within holds.agrees (linked.trans (in_flight graced s))
  rw [sent, packetsWithin] at within
  split at within
  · rename_i whole
    exact whole.trans linked.length_le
  · rw [List.append_eq_nil_iff] at within
    exact absurd within.1 got

/- As long as a side writes its hello, the other has received nothing. -/
theorem acking_unheard (graced : Graced p) {packet : Packet} {left : List UInt8} {peer : UInt32}
    (here : (p.get s.other).task.pc = .sending left (.ackSent peer)) (more : left ≠ [])
    (sent : (p.get s.other).task.sent = [packet]) : (p.get s).task.received = [] := by
  by_contra got
  have whole := received_written graced sent got
  obtain ⟨m, is, holds⟩ := marks_at graced s.other
  rw [here] at is
  cases is
  have wrote := congrArg List.length holds.wrote
  rw [sent] at wrote
  simp only [wire, List.map_cons, List.map_nil, List.flatten_cons, List.flatten_nil,
    List.append_nil, List.length_append] at wrote
  have nonempty := List.length_pos_iff.mpr more
  simp only [Pair.written] at whole
  omega

theorem ready_timers (graced : Graced p) (running : phase (p.get s).task.pc = .running) :
    (p.get s).task.conn.keepAliveTimer.isSome ∧ (timeoutTimer (p.get s).task).isSome := by
  rcases graced.phases s with early | ⟨_, ready⟩ | excess
  · rw [running] at early
    cases early
  · exact ⟨ready.keepAlive, ready.timeout⟩
  · rw [running] at excess
    cases excess

theorem stand_running {pc : Pc} (inside : stand pc = .door ∨ stand pc = .loop) :
    phase pc = .running := by
  unfold stand at inside
  split at inside <;> simp_all [phase, nextPhase]

theorem stand_acking {pc : Pc} {peer : UInt32} (here : stand pc = .acking peer) :
    ∃ left, pc = .sending left (.ackSent peer) := by
  unfold stand at here
  split at here <;> cases here
  exact ⟨_, rfl⟩

/- The steps of the pair. -/

theorem rest_kept {t t' : Task} {ch ch' : Channels} {event : TaskEvent}
    (unsent : ∀ rest next, t.pc = .sending rest next → rest ≠ [])
    (step : t.step ch event = some (t', ch')) :
    ∀ rest next, t'.pc = .sending rest next → rest ≠ [] := by
  have of_place : ∀ {u : Task}, u.pc = t.pc ∨ settled u.pc = true →
      ∀ rest next, u.pc = .sending rest next → rest ≠ [] := by
    rintro u (same | settled) rest next here
    · exact unsent rest next (same ▸ here)
    · rintro rfl
      rw [here] at settled
      cases settled
  cases step_moves step with
  | steady same => exact of_place same.2.2.1
  | asks here queue => exact nofun
  | takes queue same => exact of_place same.2.2.1
  | puts delivering same => exact of_place same.2.2.1
  | reads read same => exact of_place same.2.2.1
  | aborts dead => exact nofun

theorem user_requests {e : Endpoint} (books : Books e) : UserRequests e.channels.requests := by
  intro r member
  refine books.asked r ?_
  rw [books.requests]
  exact List.mem_append_right _ member

theorem untroubled_graced {event : EndpointEvent} (untroubled : Untroubled p)
    (healthy : Healthy p (.on s event)) (timely : event ≠ .task .activeTimeoutTick)
    (step : p.step (.on s event) = some q) : Graced q ∧ ∀ t, Stays (q.get t) := by
  obtain ⟨e, allowed, moved, is⟩ := step_on step
  have here : q.get s = e := by rw [is, get_set]
  have there : q.get s.other = p.get s.other := by rw [is, get_set_other]
  have ordinary_ : ordinary (.on s event) = true := by
    have calm := healthy.1
    cases event with
    | task te =>
      cases te with
      | ioError => cases calm
      | activeTimeoutTick => exact absurd rfl timely
      | closeTimeout =>
        obtain ⟨t', ch', taken, _⟩ := task_parts moved
        cases task_move taken with
        | givesUp waits =>
          apply absurd _ (never_gone untroubled.graced untroubled.stays s)
          rcases waits with at' | ⟨_, at'⟩ <;> rw [at'] <;> rfl
        | _ => contradiction
      | _ => rfl
    | close => cases calm
    | dropHandler => cases calm
    | _ => rfl
  refine ⟨graced_on untroubled.graced ⟨ordinary_, healthy.2⟩ step, both_sides (s := s) ?_ ?_⟩
  · rw [here]
    by_cases mine : ∃ te, event = .task te
    · obtain ⟨te, rfl⟩ := mine
      exact stays_task (untroubled.stays s) moved
    · have turn := step_turn (fun te is => mine ⟨te, is⟩) moved
      refine stays_turn (untroubled.stays s) turn ?_ ?_
      · rintro rfl
        cases healthy.1
      · rintro rfl
        cases healthy.1
  · rw [there]
    exact untroubled.stays _

theorem step_beat {event : EndpointEvent} (allowed : p.allows s event) (graced : Graced q)
    (stays : ∀ t, Stays (q.get t)) (step : (p.get s).step event = some (q.get s)) :
    Beat (p.get s).task (q.get s).task := by
  by_cases mine : ∃ te, event = .task te
  · obtain ⟨te, rfl⟩ := mine
    obtain ⟨t', ch', taken, task, _⟩ := task_parts step
    have there := never_gone graced stays s
    rw [task] at there ⊢
    refine beat_step ?_ taken there
    rintro rfl
    exact allowed
  · rw [call_task (fun te is => mine ⟨te, is⟩) step]
    exact .quiet (still_refl _) rfl rfl rfl

theorem beat_setup {t t' : Task} (beat : Beat t t') : SameSetup t t' := by
  cases beat with
  | quiet still same sent received => exact still.toSameSetup
  | listens still role before now sent received => exact still.toSameSetup
  | calls still role before now sent received => exact still.toSameSetup
  | greets still before now sent received => exact still.toSameSetup
  | speaks still before now sent received => exact still.toSameSetup
  | starts setup now keepAlive timeout sent how => exact setup
  | beats setup before now running ready keepAlive timeout sent received => exact setup
  | hears setup before now keepAlive timeout received sent => exact setup

theorem beat_acking {t t' : Task} (beat : Beat t t') {peer : UInt32}
    (acking : stand t'.pc = .acking peer) :
    stand t.pc = .acking peer ∧ t'.sent = t.sent ∨
      stand t.pc = .listening ∧ (∃ packet, t'.sent = t.sent ++ [packet]) ∧
        t'.received = t.received ++ [.controlHello peer] := by
  cases beat with
  | quiet still same sent received => exact .inl ⟨same ▸ acking, sent⟩
  | greets still before now sent received =>
    rw [now, Stand.acking.injEq] at acking
    subst acking
    exact .inr ⟨before, ⟨_, sent⟩, received⟩
  | listens still role before now sent received => rw [now] at acking; cases acking
  | calls still role before now sent received => rw [now] at acking; cases acking
  | starts setup now keepAlive timeout sent how => rw [now] at acking; cases acking
  | speaks still before now sent received => rw [now] at acking; cases acking
  | beats setup before now running ready keepAlive timeout sent received =>
    rw [now] at acking; cases acking
  | hears setup before now keepAlive timeout received sent => rw [now] at acking; cases acking

theorem beat_suited {t t' : Task} (beat : Beat t t')
    (suited : suits t.conn.role (stand t.pc) = true) :
    suits t'.conn.role (stand t'.pc) = true := by
  rw [(beat_setup beat).role]
  cases beat with
  | quiet still same sent received => rwa [same]
  | listens still role before now sent received => rw [now, role]; rfl
  | calls still role before now sent received => rw [now, role]; rfl
  | greets still before now sent received =>
    rw [before] at suited
    rw [now]
    cases role : t.conn.role with
    | host => rfl
    | device =>
      rw [role] at suited
      cases suited
  | starts setup now keepAlive timeout sent how => rw [now]; cases t.conn.role <;> rfl
  | speaks still before now sent received => rw [now]; cases t.conn.role <;> rfl
  | beats setup before now running ready keepAlive timeout sent received =>
    rw [now]; cases t.conn.role <;> rfl
  | hears setup before now keepAlive timeout received sent =>
    rw [now]; cases t.conn.role <;> rfl

theorem beat_untimed {t t' : Task} (beat : Beat t t')
    (untimed : early (stand t.pc) = true → t.conn.keepAliveTimer = none ∧ timeoutTimer t = none)
    (now' : early (stand t'.pc) = true) :
    t'.conn.keepAliveTimer = none ∧ timeoutTimer t' = none := by
  have kept : Still t t' → early (stand t.pc) = true →
      t'.conn.keepAliveTimer = none ∧ timeoutTimer t' = none := by
    intro still before
    rw [still.keepAlive, still.timeout]
    exact untimed before
  cases beat with
  | quiet still same sent received => exact kept still (same ▸ now')
  | listens still role before now sent received => exact kept still (by rw [before]; rfl)
  | calls still role before now sent received => exact kept still (by rw [before]; rfl)
  | greets still before now sent received => exact kept still (by rw [before]; rfl)
  | starts setup now keepAlive timeout sent how => rw [now] at now'; cases now'
  | speaks still before now sent received => rw [now] at now'; cases now'
  | beats setup before now running ready keepAlive timeout sent received =>
    rw [now] at now'; cases now'
  | hears setup before now keepAlive timeout received sent => rw [now] at now'; cases now'

/- Before its hello a side has sent nothing, and before the other's hello it has received
   nothing. -/
theorem silent_sent (graced : Graced p)
    (here : stand (p.get s).task.pc = .start ∨ stand (p.get s).task.pc = .listening) :
    (p.get s).task.sent = [] := by
  obtain ⟨m, is, holds⟩ := marks_at graced s
  by_contra nonempty
  have greeted := holds.greeted.mpr nonempty
  revert greeted
  generalize (p.get s).task.pc = pc at here is
  unfold stand at here
  split at here <;> simp at here <;> cases is <;> simp

theorem unmet_received (graced : Graced p)
    (here : stand (p.get s).task.pc = .calling ∨ stand (p.get s).task.pc = .listening) :
    (p.get s).task.received = [] := by
  obtain ⟨m, is, holds⟩ := marks_at graced s
  by_contra nonempty
  have met := holds.met.mpr nonempty
  revert met
  generalize (p.get s).task.pc = pc at here is
  unfold stand at here
  split at here <;> simp at here <;> cases is <;> simp

theorem loop_received (graced : Graced p) (here : stand (p.get s).task.pc = .loop) :
    (p.get s).task.received ≠ [] := by
  obtain ⟨m, is, holds⟩ := marks_at graced s
  refine holds.met.mp ?_
  generalize (p.get s).task.pc = pc at here is
  unfold stand at here
  split at here <;> simp at here <;> cases is <;> rfl

/- The first packet received is the hello of the other side. -/
theorem hello_announced (untroubled : Untroubled p) (graced : Graced q)
    (there : (q.get s.other).task = (p.get s.other).task) {packet : Packet}
    (none : (p.get s).task.received = [])
    (received : (q.get s).task.received = (p.get s).task.received ++ [packet]) :
    packet = helloOf (p.get s.other).task.conn.role
      (p.get s.other).task.conn.keepAliveIntervalMs := by
  have part := (List.prefix_append _ _).trans (received_of graced s)
  rw [received, none, List.nil_append, there] at part
  obtain ⟨rest, sent⟩ := part
  exact first_sent untroubled sent.symm

theorem greets_announced (untroubled : Untroubled p) (graced : Graced q)
    (there : (q.get s.other).task = (p.get s.other).task) {peer : UInt32}
    (before : stand (p.get s).task.pc = .listening)
    (received : (q.get s).task.received = (p.get s).task.received ++ [.controlHello peer]) :
    (p.get s.other).task.conn.keepAliveIntervalMs = peer := by
  have announced := hello_announced untroubled graced there
    (unmet_received untroubled.graced (.inr before)) received
  unfold helloOf at announced
  split at announced <;> cases announced
  rfl

theorem untroubled_step {event : EndpointEvent} (untroubled : Untroubled p)
    (healthy : Healthy p (.on s event)) (timely : event ≠ .task .activeTimeoutTick)
    (step : p.step (.on s event) = some q) :
    Untroubled q ∧ q.get s.other = p.get s.other ∧ Beat (p.get s).task (q.get s).task := by
  obtain ⟨graced, stays⟩ := untroubled_graced untroubled healthy timely step
  obtain ⟨e, allowed, moved, is⟩ := step_on step
  have here : q.get s = e := by rw [is, get_set]
  have there : q.get s.other = p.get s.other := by rw [is, get_set_other]
  rw [← here] at moved
  have beat := step_beat allowed graced stays moved
  have setup := beat_setup beat
  have roles : ∀ t, (q.get t).task.conn.role = (p.get t).task.conn.role :=
    both_sides (s := s) setup.role (by rw [there])
  have intervals : ∀ t, (q.get t).task.conn.keepAliveIntervalMs =
      (p.get t).task.conn.keepAliveIntervalMs :=
    both_sides (s := s) setup.interval (by rw [there])
  refine ⟨⟨graced, stays, both_sides (s := s) ?_ ?_, both_sides (s := s) ?_ ?_,
    (roles .x).trans untroubled.device, (roles .y).trans untroubled.host,
    both_sides (s := s) ?_ ?_, both_sides (s := s) ?_ ?_, both_sides (s := s) ?_ ?_,
    both_sides (s := s) ?_ ?_⟩, there, beat⟩
  · obtain ⟨hello, handled, good⟩ := untroubled.spoken s
    by_cases mine : ∃ te, event = .task te
    · obtain ⟨te, rfl⟩ := mine
      obtain ⟨t', ch', taken, task, _⟩ := task_parts moved
      rw [← task] at taken
      exact ⟨hello, _, step_grammatical good (user_requests (untroubled.graced.books s)) taken⟩
    · rw [call_task (fun te is => mine ⟨te, is⟩) moved]
      exact ⟨hello, handled, good⟩
  · rw [there]
    exact untroubled.spoken _
  · by_cases mine : ∃ te, event = .task te
    · obtain ⟨te, rfl⟩ := mine
      obtain ⟨t', ch', taken, task, _⟩ := task_parts moved
      rw [← task] at taken
      exact rest_kept (untroubled.unsent s) taken
    · rw [call_task (fun te is => mine ⟨te, is⟩) moved]
      exact untroubled.unsent s
  · rw [there]
    exact untroubled.unsent _
  · exact beat_suited beat (untroubled.suited s)
  · rw [there]
    exact untroubled.suited _
  · intro peer acking
    rw [intervals]
    rcases beat_acking beat acking with ⟨before, _⟩ | ⟨before, _, received⟩
    · exact untroubled.acking s peer before
    · exact greets_announced untroubled graced (by rw [there]) before received
  · intro peer acking
    rw [there] at acking
    rw [intervals]
    exact untroubled.acking s.other peer acking
  · intro peer acking
    rcases beat_acking beat acking with ⟨before, sent⟩ | ⟨before, ⟨packet, sent⟩, _⟩
    · rw [sent]
      exact untroubled.single s peer before
    · rw [sent, silent_sent untroubled.graced (.inr before)]
      rfl
  · rw [there]
    exact untroubled.single _
  · exact beat_untimed beat (untroubled.untimed s)
  · rw [there]
    exact untroubled.untimed _

/- As long as a host writes HelloAck, the device has received nothing. -/
theorem acking_alone (untroubled : Untroubled p) {peer : UInt32}
    (here : stand (p.get s.other).task.pc = .acking peer) : (p.get s).task.received = [] := by
  obtain ⟨left, pc⟩ := stand_acking here
  obtain ⟨packet, sent⟩ := List.length_eq_one_iff.mp (untroubled.single _ _ here)
  exact acking_unheard untroubled.graced pc (untroubled.unsent _ _ _ pc) sent

/- The host is in run before the device gets its HelloAck. -/
theorem host_first (untroubled : Untroubled p) (host : (p.get s.other).task.conn.role = .host)
    (met : (p.get s).task.received ≠ []) :
    stand (p.get s.other).task.pc = .door ∨ stand (p.get s.other).task.pc = .loop := by
  have spoke : (p.get s.other).task.sent ≠ [] := by
    intro none
    have part := (List.prefix_append _ _).trans (received_of untroubled.graced s)
    rw [none, List.prefix_nil] at part
    exact met part
  have suited := untroubled.suited s.other
  rw [host] at suited
  cases here : stand (p.get s.other).task.pc with
  | start => exact absurd (silent_sent untroubled.graced (.inl here)) spoke
  | listening => exact absurd (silent_sent untroubled.graced (.inr here)) spoke
  | calling => rw [here] at suited; cases suited
  | acking peer => exact absurd (acking_alone untroubled here) met
  | door => exact .inl rfl
  | loop => exact .inr rfl
  | gone => exact absurd here (never_gone untroubled.graced untroubled.stays _)

theorem untroubled_pass (untroubled : Untroubled p) (healthy : Healthy p .pass)
    (step : p.step .pass = some q) : Untroubled q := by
  have graced := step_graced untroubled.graced ⟨rfl, healthy.2⟩ step
  cases step
  refine ⟨graced, fun s => ?_, fun s => ?_, fun s => ?_, untroubled.device, untroubled.host,
    fun s => ?_, fun s => ?_, fun s => ?_, fun s => ?_⟩
  · have stays := untroubled.stays s
    cases s <;> exact ⟨stays.accepted, stays.pc, stays.results⟩
  · obtain ⟨hello, handled, good⟩ := untroubled.spoken s
    refine ⟨hello, handled, ?_⟩
    cases s <;> exact grammatical_same good ⟨rfl, rfl, rfl, rfl⟩ rfl rfl
  · have unsent := untroubled.unsent s
    cases s <;> exact unsent
  · have suited := untroubled.suited s
    cases s <;> exact suited
  · have acking := untroubled.acking s
    cases s <;> exact acking
  · have single := untroubled.single s
    cases s <;> exact single
  · have untimed := untroubled.untimed s
    cases s <;> exact untimed

theorem fresh_untroubled (fresh : Fresh p) (device : (p.get .x).task.conn.role = .device)
    (host : (p.get .y).task.conn.role = .host)
    (untimed : ∀ s, (p.get s).task.conn.keepAliveTimer = none ∧
      timeoutTimer (p.get s).task = none) : Untroubled p := by
  have start : ∀ s, stand (p.get s).task.pc = .start := fun s => by
    rw [(fresh.opened s).start]
    rfl
  refine ⟨fresh_graced fresh, fun s => ?_, fun s => ?_, fun s rest next here => ?_, device, host,
    fun s => ?_, fun s peer here => ?_, fun s peer here => ?_, fun s _ => untimed s⟩
  · refine ⟨?_, ?_, ?_⟩ <;> simp [(fresh.opened s).handler, leaving]
  · refine ⟨_, [], .silent, [], ⟨rfl, ?_, ?_, ?_, ?_⟩, ?_⟩
    · rw [fresh.sent]
      rfl
    · rw [fresh.io, fresh.sent]
      rfl
    · rw [fresh.sent, (fresh.opened s).taken]
      rfl
    · rw [fresh.sent]
      rfl
    · rw [(fresh.opened s).start]
      exact ⟨rfl, rfl⟩
  · rw [(fresh.opened s).start] at here
    cases here
  · rw [start]
    cases (p.get s).task.conn.role <;> rfl
  · rw [start] at here
    cases here
  · rw [start] at here
    cases here

end NcdHealthyPair
