import Ncd.LaneOrder
import Ncd.LinkOrder

/- One session of a device, from ncd_write to the wire: the Data of its connection are the
   payloads that ncd_write was given, in order, none missing once ControlClose is sent. -/
namespace NcdWriteOrder
open NcdPacket NcdConnection NcdHandler NcdBooks NcdDaemon NcdDriver NcdFlowControl NcdSessions
  NcdOpenClose NcdBridges NcdForwarding NcdWireGrammar NcdPipeline NcdLaneOrder NcdLinkOrder
  LabelledRuns

/-- What the calls of ncd_write of session k that returned count were given. -/
def payloads (k : Nat) (writes : List (Nat × List UInt8)) : List (List UInt8) :=
  (writes.filter fun write => write.1 = k).map (·.2)

/-- The messages in the queue that the main loop will give to connection i. -/
def due (l : Lane) (i : Nat) : List (List UInt8) :=
  if l.writeTx = some i then dataBefore l.msgs else []

def Runs (k : Nat) (l : Lane) (links : List ConnectionRun) (i : Nat)
    (commands : List WriteCommand) (run : ConnectionRun) : Prop :=
  l.actors[i]? = some (k, commands) ∧ links[i]? = some run

/-- What is written in session k is on its way to the connection of session k. -/
structure Delivering (k : Nat) (l : Lane) (links : List ConnectionRun)
    (whole : List (List UInt8)) : Prop where
  dealing : Dealing k l
  linked : links.length = l.actors.length
  small : ∀ bytes ∈ dataIn l.msgs, dataMessageLen bytes ≤ recvBufSize
  unwritten : k ∉ sessions l → whole = []
  carrying : ∀ {i commands run}, Runs k l links i commands run →
    Carrying run commands (l.writeTx = some i) (due l i) whole

variable {k : Nat} {l l' : Lane} {links : List ConnectionRun} {whole : List (List UInt8)}
  {event : SessionEvent}

theorem due_held {i : Nat} (held : l.writeTx = some i) : due l i = dataBefore l.msgs := if_pos held

theorem due_gone {i : Nat} (gone : l.writeTx ≠ some i) : due l i = [] := if_neg gone

theorem due_same {i : Nat} (writeTx : l'.writeTx = l.writeTx)
    (msgs : dataBefore l'.msgs = dataBefore l.msgs) : due l' i = due l i := by
  rw [due, due, writeTx, msgs]

theorem runs_session {i : Nat} {commands : List WriteCommand} {run : ConnectionRun}
    (runs : Runs k l links i commands run) : (sessions l)[i]? = some k := by
  simp [sessions, runs.1]

/- The main loop does not touch the connections, and their messages stay in the queue. -/
theorem delivering_kept (delivering : Delivering k l links whole) (dealing : Dealing k l')
    (actors : l'.actors = l.actors) (writeTx : l'.writeTx = l.writeTx)
    (msgs : ∀ i, (sessions l)[i]? = some k → l.writeTx = some i →
      dataBefore l'.msgs = dataBefore l.msgs)
    (small : ∀ bytes ∈ dataIn l'.msgs, bytes ∈ dataIn l.msgs) :
    Delivering k l' links whole := by
  refine ⟨dealing, by rw [actors, delivering.linked], ?_, ?_, ?_⟩
  · exact fun bytes member => delivering.small bytes (small bytes member)
  · rw [sessions, actors]
    exact delivering.unwritten
  · intro i commands run runs
    have before : Runs k l links i commands run := by
      rw [Runs, actors] at runs
      exact runs
    have same : due l' i = due l i := by
      by_cases held : l.writeTx = some i
      · exact due_same writeTx (msgs i (runs_session before) held)
      · rw [due_gone held, due_gone (writeTx ▸ held)]
    rw [same, writeTx]
    exact delivering.carrying before

theorem give_actor {c : WriteCommand} {i : Nat} {actor : Nat × List WriteCommand}
    (here : (l.give c).actors[i]? = some actor) :
    (l.writeTx = some i ∧ ∃ commands, l.actors[i]? = some (actor.1, commands) ∧
        actor.2 = commands ++ [c]) ∨
      l.writeTx ≠ some i ∧ l.actors[i]? = some actor := by
  unfold Lane.give at here
  cases held : l.writeTx with
  | none =>
    rw [held] at here
    exact .inr ⟨nofun, here⟩
  | some index =>
    rw [held] at here
    simp only [List.getElem?_modify, Option.map_eq_map, Option.map_eq_some_iff] at here
    obtain ⟨before, found, same⟩ := here
    by_cases is : index = i
    · simp only [is, ↓reduceIte] at same
      subst same
      exact .inl ⟨congrArg some is, before.2, found, rfl⟩
    · simp only [is, ↓reduceIte] at same
      subst same
      exact .inr ⟨fun eq => is (Option.some.inj eq), found⟩

/- The main loop gives a command to the device and takes the message behind it. -/
theorem delivering_gives (delivering : Delivering k l links whole) {c : WriteCommand}
    (other : c ≠ .close) (dealing : Dealing k l') (actors : l'.actors = (l.give c).actors)
    (writeTx : l'.writeTx = l.writeTx)
    (msgs : dataBefore l.msgs = dataOf [c] ++ dataBefore l'.msgs)
    (small : ∀ bytes ∈ dataIn l'.msgs, bytes ∈ dataIn l.msgs) :
    Delivering k l' links whole := by
  have same : sessions l' = sessions l := by
    rw [sessions, actors]
    exact give_sessions l c
  refine ⟨dealing, ?_, ?_, ?_, ?_⟩
  · have length := congrArg List.length same
    rw [sessions, sessions, List.length_map, List.length_map] at length
    rw [length, delivering.linked]
  · exact fun bytes member => delivering.small bytes (small bytes member)
  · rw [same]
    exact delivering.unwritten
  · rintro i commands run ⟨actor, link⟩
    rw [actors] at actor
    rcases give_actor actor with ⟨held, before, found, rfl⟩ | ⟨gone, found⟩
    · have carrying := delivering.carrying ⟨found, link⟩
      rw [due_held held, msgs] at carrying
      rw [writeTx, due_held (writeTx.trans held)]
      exact carrying_next carrying held other rfl
    · have carrying := delivering.carrying ⟨found, link⟩
      rw [due_gone gone] at carrying
      rw [writeTx, due_gone (writeTx ▸ gone)]
      exact carrying

theorem sessions_once (dealing : Dealing k l) : (sessions l).Nodup := by
  have once := dealing.numbered.once
  rw [numbers, List.append_assoc] at once
  exact (List.nodup_append.mp once).1

/- Device::open has succeeded: a connection_run is spawned. -/
theorem delivering_connects (delivering : Delivering k l links whole) {session : Nat}
    (here : l.daemon = .opening session) (fresh : ConnectionRun)
    (ready : session = k → Carrying fresh [] True [] [])
    (dealing : Dealing k { l with
      daemon := .answering true
      writeTx := some l.actors.length
      actors := l.actors ++ [(session, [])] }) :
    Delivering k { l with
      daemon := .answering true
      writeTx := some l.actors.length
      actors := l.actors ++ [(session, [])] } (links ++ [fresh]) whole := by
  refine ⟨dealing, by simp [delivering.linked], delivering.small, ?_, ?_⟩
  · intro absent
    refine delivering.unwritten fun member => absent ?_
    rw [sessions, List.map_append]
    exact List.mem_append_left _ member
  · rintro i commands run ⟨actor, link⟩
    by_cases last : i = l.actors.length
    · subst last
      rw [List.getElem?_concat_length, Option.some.injEq, Prod.mk.injEq] at actor
      rw [← delivering.linked, List.getElem?_concat_length, Option.some.injEq] at link
      obtain ⟨rfl, rfl⟩ := actor
      subst link
      have unborn : session ∉ sessions l := by
        intro member
        have once := delivering.dealing.numbered.once
        rw [numbers, here, List.append_assoc] at once
        exact (List.nodup_append.mp once).2.2 _ member _ List.mem_cons_self rfl
      have early : ¬ session < l.session := fun past =>
        (delivering.dealing.late past).opening here
      have empty := opening_empty (delivering.dealing.early (by omega)) here
      rw [due_held rfl, delivering.unwritten unborn, empty]
      simpa [dataBefore] using ready rfl
    · have inside : i < l.actors.length := by
        have bound := (List.getElem?_eq_some_iff.mp actor).1
        rw [List.length_append, List.length_singleton] at bound
        omega
      rw [List.getElem?_append_left inside] at actor
      rw [List.getElem?_append_left (delivering.linked ▸ inside)] at link
      have before : Runs k l links i commands run := ⟨actor, link⟩
      have none : due l i = [] := by
        by_cases held : l.writeTx = some i
        · rw [due_held held]
          exact dataIn_none ((delivering.dealing.tail i (runs_session before) held).2 _ here)
        · exact due_gone held
      have carrying := delivering.carrying before
      have gone : some l.actors.length ≠ some i := fun eq => last (Option.some.inj eq).symm
      rw [none] at carrying
      rw [due_gone gone]
      exact carrying_let_go carrying gone

/- The CLOSE_REQ arm tells the connection to close and drops its write_tx. -/
theorem delivering_closes (delivering : Delivering k l links whole) {rest : List DriverMsg}
    (first : l.msgs = .closeReq :: rest)
    (dealing : Dealing k { l.give .close with msgs := rest, writeTx := none }) :
    Delivering k { l.give .close with msgs := rest, writeTx := none } links whole := by
  have same := give_sessions l .close
  refine ⟨dealing, ?_, ?_, ?_, ?_⟩
  · have length := congrArg List.length same
    rw [sessions, sessions, List.length_map, List.length_map] at length
    exact delivering.linked.trans length.symm
  · intro bytes member
    exact delivering.small bytes (by rw [first]; exact member)
  · intro absent
    exact delivering.unwritten fun member => absent (same.symm ▸ member)
  · rintro i commands run ⟨actor, link⟩
    have gone : (none : Option Nat) ≠ some i := by simp
    rw [due_gone gone]
    rcases give_actor actor with ⟨held, before, found, rfl⟩ | ⟨away, found⟩
    · have carrying := delivering.carrying ⟨found, link⟩
      rw [due_held held, first] at carrying
      exact carrying_told carrying held gone
    · have carrying := delivering.carrying ⟨found, link⟩
      rw [due_gone away] at carrying
      exact carrying_let_go carrying gone

theorem payloads_written (k : Nat) (writes : List (Nat × List UInt8)) (session : Nat)
    (bytes : List UInt8) : payloads k (writes ++ [(session, bytes)]) =
      if session = k then payloads k writes ++ [bytes] else payloads k writes := by
  by_cases same : session = k <;> simp [payloads, List.filter_append, same]

/- ncd_write puts its message behind everything that waits. In session k the main loop has
   the write_tx of its connection, and no other switch is in the queue. -/
theorem delivering_writes (delivering : Delivering k l links whole) (here : l.user = .opened)
    {bytes : List UInt8} (fits : dataMessageLen bytes ≤ recvBufSize)
    (dealing : Dealing k { l with msgs := l.msgs ++ [.data bytes] }) :
    Delivering k { l with msgs := l.msgs ++ [.data bytes] } links
      (if l.session = k then whole ++ [bytes] else whole) := by
  have opened : l.session ≤ k → SwitchFree l.msgs ∧ Current l :=
    fun now => ((delivering.dealing.early now).opened here).2
  refine ⟨dealing, delivering.linked, ?_, ?_, ?_⟩
  · intro other member
    rw [dataIn_append, List.mem_append] at member
    rcases member with old | new
    · exact delivering.small other old
    · rw [dataIn, dataIn, List.mem_singleton] at new
      rw [new]
      exact fits
  · intro absent
    have other : l.session ≠ k := by
      intro same
      obtain ⟨i, _, found⟩ := (opened (by omega)).2
      exact absent (same ▸ List.mem_of_getElem? found)
    rw [if_neg other]
    exact delivering.unwritten absent
  · rintro i commands run ⟨actor, link⟩
    have before : Runs k l links i commands run := ⟨actor, link⟩
    have carrying := delivering.carrying before
    have known : k ≤ l.session := by
      refine delivering.dealing.numbered.past k ?_
      rw [numbers, List.append_assoc]
      exact List.mem_append_left _ (List.mem_of_getElem? (runs_session before))
    by_cases same : l.session = k
    · obtain ⟨free, j, held, found⟩ := opened (by omega)
      rw [same] at found
      have only : j = i := by
        have inside := (List.getElem?_eq_some_iff.mp found).1
        refine (List.getElem?_inj inside (sessions_once delivering.dealing)).mp ?_
        exact found.trans (runs_session before).symm
      subst only
      rw [due_held held] at carrying
      rw [if_pos same, due, if_pos held, dataBefore_data free]
      exact carrying_written carrying held bytes
    · have gone : l.writeTx ≠ some i := fun held =>
        ((delivering.dealing.late (by omega)).passed i (runs_session before) held).2.1 here
      rw [due_gone gone] at carrying
      rw [if_neg same, due, if_neg gone]
      exact carrying

theorem delivering_lane (delivering : Delivering k l links whole)
    (signal : event = .interruptOpen → k < l.session) (unwritten : ∀ bytes, event ≠ .ncdWrite bytes)
    (unconnected : event ≠ .connect true) (step : l.Step event l') :
    Delivering k l' links whole := by
  have dealing := dealing_step delivering.dealing signal step
  have tail := delivering.dealing.tail
  cases step with
  | writes here => exact absurd rfl (unwritten _)
  | connects here => exact absurd rfl unconnected
  | asks here =>
    refine delivering_kept delivering dealing rfl rfl (fun _ _ _ => ?_) ?_
    · exact dataBefore_switch _ rfl
    · simp [dataIn]
  | closes here =>
    refine delivering_kept delivering dealing rfl rfl (fun _ _ _ => ?_) ?_
    · exact dataBefore_switch _ rfl
    · simp [dataIn]
  | takesOpen here first =>
    refine delivering_kept delivering dealing rfl rfl (fun i at' held => ?_) ?_
    · have settled := (tail i at' held).1
      rw [first] at settled
      rw [first]
      exact dataIn_none settled
    · rw [first]
      exact fun _ => id
  | takesData here first =>
    refine delivering_gives delivering (c := .data ‹_›) (by simp) dealing rfl ?_ ?_ ?_
    · rw [give_keeps]
    · rw [first]
      rfl
    · rw [first]
      exact fun _ => List.mem_cons_of_mem _
  | takesClose here first => exact delivering_closes delivering first dealing
  | pauses =>
    have same := give_keeps l .pauseRead
    refine delivering_gives delivering (c := .pauseRead) (by simp) dealing rfl ?_ ?_ ?_
    · rw [same]
    · rw [same]
      rfl
    · rw [same]
      exact fun _ => id
  | resumes =>
    have same := give_keeps l .resumeRead
    refine delivering_gives delivering (c := .resumeRead) (by simp) dealing rfl ?_ ?_ ?_
    · rw [same]
    · rw [same]
      rfl
    · rw [same]
      exact fun _ => id
  | rests => exact delivering
  | _ => exact delivering_kept delivering dealing rfl rfl (fun _ _ _ => rfl) fun _ => id

theorem delivering_link (delivering : Delivering k l links whole) {i session : Nat}
    {commands rest : List WriteCommand} {run run' : ConnectionRun} {event : RunEvent}
    (actor : l.actors[i]? = some (session, commands)) (link : links[i]? = some run)
    (unforced : session = k → Unforced run.conn.task event)
    (left : remaining commands (l.writeTx = some i) event = some rest)
    (step : run.step event = some run') :
    Delivering k { l with actors := l.actors.set i (session, rest) } (links.set i run') whole := by
  have bound := (List.getElem?_eq_some_iff.mp actor).1
  have bound' := (List.getElem?_eq_some_iff.mp link).1
  have same : (l.actors.set i (session, rest)).map (·.1) = l.actors.map (·.1) := by
    refine List.ext_getElem? fun j => ?_
    rw [List.getElem?_map, List.getElem?_map]
    by_cases is : i = j
    · subst is
      rw [List.getElem?_set_self bound, actor]
      rfl
    · rw [List.getElem?_set_ne is]
  refine ⟨dealing_commands delivering.dealing same, by simp [delivering.linked],
    delivering.small, ?_, ?_⟩
  · rw [sessions, same]
    exact delivering.unwritten
  · rintro j waiting after ⟨actor', link'⟩
    by_cases is : i = j
    · subst is
      rw [List.getElem?_set_self bound, Option.some.injEq, Prod.mk.injEq] at actor'
      rw [List.getElem?_set_self bound', Option.some.injEq] at link'
      obtain ⟨rfl, rfl⟩ := actor'
      subst link'
      exact carrying_step (delivering.carrying ⟨actor, link⟩) (unforced rfl) left step
    · rw [List.getElem?_set_ne is] at actor' link'
      exact delivering.carrying ⟨actor', link'⟩

instance (t : Task) (event : RunEvent) : Decidable (Unforced t event) := by
  unfold Unforced
  split <;> infer_instance

/-- Netlink takes no message longer than the daemon's buffer; no ncd_open up to session k is
    interrupted; the connection of session k neither times out nor is closed by the peer. -/
def Plain (k : Nat) (p : Pipeline) : PipelineEvent → Prop
  | .session event => event = .interruptOpen → k < p.s.session
  | .ncdWrite bytes sent => sent = true → dataMessageLen bytes ≤ recvBufSize
  | .opening event => p.s.flow.daemon = .opening k →
      ∀ conn ∈ p.opening, Unforced conn.task (.task event)
  | .link index event => ∀ actor ∈ p.s.actors[index]?, actor.session = k →
      ∀ run ∈ p.links[index]?, Unforced run.conn.task event

instance (k : Nat) (p : Pipeline) (event : PipelineEvent) : Decidable (Plain k p event) := by
  unfold Plain
  split <;> infer_instance

def Untouched (conn : Endpoint) : Prop := Carrying { conn := conn, pc := .select } [] True [] []

structure Sound (k : Nat) (p : Pipeline) : Prop where
  delivering : Delivering k (lane p.s) p.links (payloads k p.writes)
  opening : p.s.flow.daemon = .opening k → ∀ conn, p.opening = some conn → Untouched conn
  fresh : Untouched p.fresh

variable {p p' : Pipeline}

theorem answer_opening {α : Type} {daemon : DaemonPc α} {session : Nat}
    (here : answer daemon = .opening session) : daemon = .opening session := by
  cases daemon with
  | opening j => exact congrArg _ (Answer.opening.inj here)
  | _ => cases here

theorem untouched_new (peerAddr : SocketAddr)
    (timeoutMs closeTimeoutMs keepAliveIntervalMs : UInt32) (bufferSize : Nat) :
    Untouched (Endpoint.new peerAddr timeoutMs closeTimeoutMs keepAliveIntervalMs .device
      bufferSize) where
  bridges := ⟨rfl, bridged_new _ _ _ _ _ _⟩
  wire := ⟨_, _, (run_orderly (.refl _)).2⟩
  undrained := rfl
  asked := nofun
  unasked := fun _ => nofun
  last := nofun
  selecting := fun _ => rfl
  closing := nofun
  unheld := fun _ => rfl
  carried := .inr ⟨rfl, fun past => absurd rfl past⟩

theorem sound_ncdWrite (sound : Sound k p) {bytes : List UInt8} {sent : Bool}
    (fits : sent = true → dataMessageLen bytes ≤ recvBufSize)
    (step : p.ncdWrite bytes sent = some p') : Sound k p' := by
  unfold Pipeline.ncdWrite at step
  split at step
  · cases step
  · rename_i opened
    rw [not_not] at opened
    split at step
    · cases step
      exact sound
    · rename_i given
      rw [not_or, Bool.not_eq_false] at given
      obtain ⟨s, wrote, rfl⟩ := Option.map_eq_some_iff.mp step
      have moved : (lane p.s).Step (.ncdWrite bytes) (lane s) := lane_step (by simp) wrote
      have dealing := dealing_step sound.delivering.dealing (by simp) moved
      cases session_move (show p.s.step (.ncdWrite bytes) = some s from wrote) with
      | writes =>
        have shown : lane { p.s with
            flow := { p.s.flow with queue := p.s.flow.queue ++ [.data bytes] } } =
            { lane p.s with msgs := (lane p.s).msgs ++ [.data bytes] } := by
          simp [lane, List.filter_cons]
        have delivering := delivering_writes sound.delivering opened (fits given.2)
          (shown ▸ dealing)
        refine ⟨?_, sound.opening, sound.fresh⟩
        rw [shown, payloads_written]
        exact delivering

theorem sound_connect (sound : Sound k p) {success : Bool}
    (step : p.connect success = some p') : Sound k p' := by
  unfold Pipeline.connect at step
  split at step
  · rename_i conn found
    split at step
    · rename_i succeeded
      subst succeeded
      split at step
      · obtain ⟨s, went, rfl⟩ := Option.map_eq_some_iff.mp step
        cases session_move (show p.s.step (.connect true) = some s from went) with
        | @connects session here =>
          have opening : (lane p.s).daemon = .opening session := by simp [lane, here, answer]
          have moved := Lane.Step.connects opening
          have dealing := dealing_step sound.delivering.dealing (by simp) moved
          have delivering := delivering_connects sound.delivering opening
            { conn := conn, pc := .select }
            (fun same => sound.opening (same ▸ here) conn found) dealing
          refine ⟨?_, by simp, sound.fresh⟩
          simpa [lane, answer] using delivering
      · cases step
    · rename_i failed
      rw [Bool.not_eq_true] at failed
      obtain ⟨s, went, rfl⟩ := Option.map_eq_some_iff.mp step
      have moved : (lane p.s).Step (.connect false) (lane s) := lane_step (by simp) went
      refine ⟨delivering_lane sound.delivering (by simp) (by simp) (by simp) moved, ?_, sound.fresh⟩
      intro _ _ none
      cases none
  · cases step

theorem lane_opening {l l' : Lane} (unasked : event ≠ .openReq) (step : l.Step event l')
    (here : l'.daemon = .opening k) : l.daemon = .opening k := by
  cases step with
  | takesOpen idle first => exact absurd rfl unasked
  | connects opening => cases here
  | misses opening => cases here
  | replies answering => cases here
  | takesData idle first => rwa [give_keeps] at here
  | takesClose idle first => rwa [give_keeps] at here
  | pauses => rwa [give_keeps] at here
  | resumes => rwa [give_keeps] at here
  | _ => exact here

theorem sound_lane (sound : Sound k p) {s : Sessions}
    (signal : event = .interruptOpen → k < p.s.session) (actor : ∀ i e, event ≠ .actor i e)
    (unwritten : ∀ bytes, event ≠ .ncdWrite bytes) (unconnected : event ≠ .connect true)
    (unasked : event ≠ .openReq) (step : p.s.step event = some s) :
    Sound k { p with s := s } := by
  have moved := lane_step actor step
  refine ⟨delivering_lane sound.delivering signal unwritten unconnected moved, ?_, sound.fresh⟩
  intro here
  have now : s.flow.daemon = .opening k := here
  have shown : (lane s).daemon = .opening k := by simp [lane, now, answer]
  exact sound.opening (answer_opening (lane_opening unasked moved shown))

theorem sound_openReq (sound : Sound k p) {s : Sessions} (step : p.s.openReq = some s) :
    Sound k { p with s := s, opening := some p.fresh } := by
  have moved : (lane p.s).Step .openReq (lane s) := lane_step (by simp) step
  refine ⟨delivering_lane sound.delivering (by simp) (by simp) (by simp) moved, ?_, sound.fresh⟩
  rintro _ conn ⟨⟩
  exact sound.fresh

/- No message in the queue is too long for the daemon. -/
theorem sound_data (sound : Sound k p) (step : p.data = some p') : Sound k p' := by
  unfold Pipeline.data at step
  split at step
  · rename_i bytes rest here queue
    split at step
    · obtain ⟨s, took, rfl⟩ := Option.map_eq_some_iff.mp step
      exact @sound_lane _ .data _ sound _ (by simp) (by simp) (by simp) (by simp) (by simp) took
    · rename_i long
      refine absurd (sound.delivering.small bytes ?_) long
      simp [lane, queue, List.filter_cons, dataIn]
  · cases step

theorem sound_session (sound : Sound k p) (plain : Plain k p (.session event))
    (step : p.session event = some p') : Sound k p' := by
  cases event with
  | actor i e => cases step
  | ncdWrite bytes => cases step
  | openReq =>
    obtain ⟨s, asked, rfl⟩ := Option.map_eq_some_iff.mp step
    exact sound_openReq sound asked
  | connect success => exact sound_connect sound step
  | data => exact sound_data sound step
  | _ =>
    obtain ⟨s, moved, rfl⟩ := Option.map_eq_some_iff.mp step
    exact sound_lane sound plain (by simp) (by simp) (by simp) (by simp) moved

theorem sound_opening (sound : Sound k p) {event : TaskEvent}
    (plain : Plain k p (.opening event)) (step : p.step (.opening event) = some p') :
    Sound k p' := by
  simp only [Pipeline.step] at step
  split at step
  · rename_i conn found
    obtain ⟨conn', moved, rfl⟩ := Option.map_eq_some_iff.mp step
    refine ⟨sound.delivering, ?_, sound.fresh⟩
    rintro here _ ⟨⟩
    obtain ⟨timely, open_⟩ := plain here conn found
    exact carrying_task (sound.opening here conn found) timely open_ moved
  · cases step

theorem sound_link (sound : Sound k p) {i : Nat} {event : RunEvent}
    (plain : Plain k p (.link i event)) (step : p.link i event = some p') : Sound k p' := by
  unfold Pipeline.link at step
  split at step
  · rename_i actor run here link
    obtain ⟨rest, left, step⟩ := Option.bind_eq_some_iff.mp step
    obtain ⟨after, moved, rfl⟩ := Option.map_eq_some_iff.mp step
    have shown : (lane p.s).actors[i]? = some (actor.session, actor.commands) := by
      simp [lane, here]
    have delivering := delivering_link sound.delivering shown link
      (fun same => plain actor here same run link) left moved
    refine ⟨?_, sound.opening, sound.fresh⟩
    simpa [lane] using delivering
  · cases step

theorem step_sound (sound : Sound k p) {event : PipelineEvent} (plain : Plain k p event)
    (step : p.step event = some p') : Sound k p' := by
  cases event with
  | session event => exact sound_session sound plain step
  | ncdWrite bytes sent => exact sound_ncdWrite sound plain step
  | opening event => exact sound_opening sound plain step
  | link i event => exact sound_link sound plain step

theorem delivering_new (k : Nat) : Delivering k (lane {}) [] [] := by
  refine ⟨⟨⟨by decide, nofun, nofun⟩, nofun, fun _ => ?_, nofun, nofun⟩, rfl, nofun,
    fun _ => rfl, ?_⟩
  · exact ⟨fun _ => ⟨rfl, rfl⟩, nofun, nofun, nofun⟩
  · rintro i commands run ⟨actor, _⟩
    cases actor

/-- At the moment the connection of session k sends its ControlClose, the Data it has sent
    are the payloads of the session's writes. -/
theorem writes_sent_before_close {peerAddr : SocketAddr}
    {timeoutMs closeTimeoutMs keepAliveIntervalMs : UInt32} {bufferSize k : Nat} {p : Pipeline}
    (run : Reaches Pipeline.step (Plain k)
      { fresh := Endpoint.new peerAddr timeoutMs closeTimeoutMs keepAliveIntervalMs .device
          bufferSize } p) {i : Nat} {actor : Actor} {link : ConnectionRun}
    (spawned : p.s.actors[i]? = some actor) (session : actor.session = k)
    (connected : p.links[i]? = some link) (closed : .controlClose ∈ link.conn.task.sent) :
    messages link.conn.task.sent = payloads k p.writes := by
  have sound := run.keeps (I := Sound k) (fun sound plain step => step_sound sound plain step)
    ⟨delivering_new k, nofun, untouched_new _ _ _ _ _⟩
  have shown : (lane p.s).actors[i]? = some (k, actor.commands) := by
    simp [lane, spawned, session]
  exact carrying_closed (sound.delivering.carrying ⟨shown, connected⟩) closed

def aDevice : Pipeline :=
  { fresh := Endpoint.new { ip := [127, 0, 0, 1], port := 9000 } 5000 5000 2500 .device 4 }

/-- The device is opened, written twice and closed at once; the second payload is in the
    channel while the first is on its way. -/
def echo : List PipelineEvent :=
  [.session .ncdOpen, .session (.sendOpenReq true), .session .openReq, .opening .begin,
    .opening (.wrote 12),
    .opening (.read [0x4E, 0x43, 0x44, 0x01, 0x00, 0x04, 0x00, 0x02, 0x00, 0x00, 0x09, 0xC4]),
    .opening .spawn, .session (.connect true), .session .connRes, .session .finishOpen,
    .ncdWrite [0xAA] true, .ncdWrite [0xBB, 0xCC] true, .session (.sendCloseReq true),
    .session .ncdRelease, .session .data, .session .data, .session .closeReq,
    .link 0 (.task (.enterRun 0)), .link 0 (.task (.wrote 12)),
    .link 0 (.command (some (.data [0xAA]))), .link 0 .requested, .link 0 (.task .request),
    .link 0 (.command (some (.data [0xBB, 0xCC]))), .link 0 .requested,
    .link 0 (.task (.wrote 9)), .link 0 (.task .request), .link 0 (.task (.wrote 10)),
    .link 0 (.command (some .close)), .link 0 .requested, .link 0 (.task .request)]

def echoed : Pipeline := (execIf Pipeline.step (Plain 1) aDevice echo).getD aDevice

def echoLink : ConnectionRun := echoed.links[0]?.getD { conn := aDevice.fresh }

theorem echo_sent_before_close :
    messages echoLink.conn.task.sent = payloads 1 echoed.writes ∧
      payloads 1 echoed.writes = [[0xAA], [0xBB, 0xCC]] := by
  have reached : Reaches Pipeline.step (Plain 1) aDevice echoed :=
    reaches_of_execIf echo (by decide +kernel)
  have spawned : (echoed.s.actors[0]?.map fun actor => actor.session) = some 1 := by
    decide +kernel
  obtain ⟨actor, found, session⟩ := Option.map_eq_some_iff.mp spawned
  have connected : echoed.links[0]? = some echoLink := by decide +kernel
  have closed : .controlClose ∈ echoLink.conn.task.sent := by decide +kernel
  exact ⟨writes_sent_before_close reached found session connected closed, by decide +kernel⟩

end NcdWriteOrder
