import Ncd.System

/- From write(2) to the adapter: what the processes write in one session reaches the adapter of
   its host in order, from the first message, however the connection ends. given is a history:
   for every connection the commands that the main loop has ever given to it. -/
namespace NcdDownstream
open NcdConnection NcdHandler NcdBooks NcdDaemon NcdFlowControl NcdSessions NcdOpenClose
  NcdBridges NcdForwarding NcdPipeline NcdLaneOrder NcdLinkOrder NcdWriteOrder NcdAdapterOutput
  NcdFeeding NcdSystem LabelledRuns

inductive Deal where
  | nothing
  | gives (index : Nat) (c : WriteCommand)
  | connects (session : Nat)

def Deal.apply : Deal → List (Nat × List WriteCommand) → List (Nat × List WriteCommand)
  | .nothing, actors => actors
  | .gives index c, actors => actors.modify index fun actor => (actor.1, actor.2 ++ [c])
  | .connects session, actors => actors ++ [(session, [])]

def kept (l : Lane) (given : List (Nat × List WriteCommand)) : Lane := { l with actors := given }

variable {k : Nat} {l l' : Lane} {event : SessionEvent} {given : List (Nat × List WriteCommand)}

theorem give_deal (l : Lane) (c : WriteCommand) :
    ∃ d : Deal, (∀ session, d ≠ .connects session) ∧
      (∀ given, (kept l given).give c = kept l (d.apply given)) ∧
      l.give c = kept l (d.apply l.actors) := by
  cases held : l.writeTx with
  | none =>
    refine ⟨.nothing, nofun, fun given => ?_, ?_⟩
    · simp [Lane.give, kept, held, Deal.apply]
    · simp only [Lane.give, held]
      rfl
  | some index =>
    refine ⟨.gives index c, nofun, fun given => ?_, ?_⟩
    · simp [Lane.give, kept, held, Deal.apply]
    · simp [Lane.give, kept, held, Deal.apply]

theorem step_deal (step : l.Step event l') :
    ∃ d : Deal, (∀ session, d = .connects session → event = .connect true) ∧
      l'.actors = d.apply l.actors ∧
      ∀ given, given.length = l.actors.length →
        (kept l given).Step event (kept l' (d.apply given)) := by
  cases step with
  | connects here =>
    refine ⟨.connects _, fun _ _ => rfl, rfl, fun given length => ?_⟩
    have moved := Lane.Step.connects (l := kept l given) here
    simpa [kept, length, Deal.apply] using moved
  | @takesData bytes rest here first =>
    obtain ⟨d, other, ghost, real⟩ := give_deal l (.data bytes)
    rw [real]
    refine ⟨d, fun session is => absurd is (other session), rfl, fun given _ => ?_⟩
    have moved := Lane.Step.takesData (l := kept l given) here first
    rw [ghost] at moved
    exact moved
  | takesClose here first =>
    obtain ⟨d, other, ghost, real⟩ := give_deal l .close
    rw [real]
    refine ⟨d, fun session is => absurd is (other session), rfl, fun given _ => ?_⟩
    have moved := Lane.Step.takesClose (l := kept l given) here first
    rw [ghost] at moved
    exact moved
  | pauses =>
    obtain ⟨d, other, ghost, real⟩ := give_deal l .pauseRead
    rw [real]
    refine ⟨d, fun session is => absurd is (other session), rfl, fun given _ => ?_⟩
    have moved : (kept l given).Step event ((kept l given).give .pauseRead) := .pauses
    rw [ghost] at moved
    exact moved
  | resumes =>
    obtain ⟨d, other, ghost, real⟩ := give_deal l .resumeRead
    rw [real]
    refine ⟨d, fun session is => absurd is (other session), rfl, fun given _ => ?_⟩
    have moved : (kept l given).Step event ((kept l given).give .resumeRead) := .resumes
    rw [ghost] at moved
    exact moved
  | opens here => exact ⟨.nothing, nofun, rfl, fun given _ => Lane.Step.opens here⟩
  | asks here => exact ⟨.nothing, nofun, rfl, fun given _ => Lane.Step.asks here⟩
  | unsent here => exact ⟨.nothing, nofun, rfl, fun given _ => Lane.Step.unsent here⟩
  | succeeds here status =>
    exact ⟨.nothing, nofun, rfl, fun given _ => Lane.Step.succeeds here status⟩
  | refused here status =>
    exact ⟨.nothing, nofun, rfl, fun given _ => Lane.Step.refused here status⟩
  | interrupted here => exact ⟨.nothing, nofun, rfl, fun given _ => Lane.Step.interrupted here⟩
  | writes here => exact ⟨.nothing, nofun, rfl, fun given _ => Lane.Step.writes here⟩
  | closes here => exact ⟨.nothing, nofun, rfl, fun given _ => Lane.Step.closes here⟩
  | unclosed here => exact ⟨.nothing, nofun, rfl, fun given _ => Lane.Step.unclosed here⟩
  | released here => exact ⟨.nothing, nofun, rfl, fun given _ => Lane.Step.released here⟩
  | takesOpen here first =>
    exact ⟨.nothing, nofun, rfl, fun given _ => Lane.Step.takesOpen here first⟩
  | misses here => exact ⟨.nothing, nofun, rfl, fun given _ => Lane.Step.misses here⟩
  | replies here => exact ⟨.nothing, nofun, rfl, fun given _ => Lane.Step.replies here⟩
  | rests => exact ⟨.nothing, nofun, rfl, fun given _ => Lane.Step.rests⟩

/-- Every connection has accepted the messages of the commands it has taken, and the others
    wait for it. -/
def Feeds (actors given : List (Nat × List WriteCommand)) (links : List ConnectionRun) : Prop :=
  ∀ (i : Nat) actor gave run, actors[i]? = some actor → given[i]? = some gave →
    links[i]? = some run → ∃ taken, RunFed run taken ∧ taken ++ dataOf actor.2 = dataOf gave.2

def idle (conn : Endpoint) : ConnectionRun := { conn := conn, pc := .select }

structure Dealt (k : Nat) (p : Pipeline) (given : List (Nat × List WriteCommand)) : Prop where
  delivering : Delivering k (kept (lane p.s) given) (List.replicate given.length (idle p.fresh))
    (payloads k p.writes)
  same : given.map (·.1) = (lane p.s).actors.map (·.1)
  fresh : Untouched p.fresh
  unused : p.fresh.handler.accepted = [] ∧ connGone p.fresh.task.pc = false
  linked : p.links.length = given.length
  opening : ∀ conn, p.opening = some conn → RunFed (idle conn) []
  feeds : Feeds (lane p.s).actors given p.links

theorem untouched_fed {conn : Endpoint} (untouched : Untouched conn)
    (unused : conn.handler.accepted = []) : RunFed (idle conn) [] := by
  refine ⟨untouched.bridges, untouched.selecting, .inl ?_⟩
  have quiet : inFlight conn.handler.pc = [] := untouched.selecting rfl
  simp [idle, unused, quiet, sends]

theorem apply_length {d : Deal} (unconnected : ∀ session, d ≠ .connects session)
    (actors : List (Nat × List WriteCommand)) : (d.apply actors).length = actors.length := by
  cases d with
  | nothing => rfl
  | gives index c => exact List.length_modify _ _ _
  | connects session => exact absurd rfl (unconnected session)

theorem apply_sessions {d : Deal} (unconnected : ∀ session, d ≠ .connects session)
    (actors : List (Nat × List WriteCommand)) :
    (d.apply actors).map (·.1) = actors.map (·.1) := by
  cases d with
  | nothing => rfl
  | gives index c =>
    refine List.ext_getElem? fun j => ?_
    simp only [Deal.apply, List.getElem?_map, List.getElem?_modify, Functor.map, Option.map_map]
    refine congrArg (Option.map · actors[j]?) (funext fun actor => ?_)
    simp only [Function.comp]
    split <;> rfl
  | connects session => exact absurd rfl (unconnected session)

theorem apply_get {d : Deal} (unconnected : ∀ session, d ≠ .connects session)
    {actors given : List (Nat × List WriteCommand)} {i : Nat} {actor gave : Nat × List WriteCommand}
    (here : (d.apply actors)[i]? = some actor) (there : (d.apply given)[i]? = some gave) :
    ∃ actor' gave' more, actors[i]? = some actor' ∧ given[i]? = some gave' ∧
      actor.2 = actor'.2 ++ more ∧ gave.2 = gave'.2 ++ more := by
  cases d with
  | nothing => exact ⟨actor, gave, [], here, there, by simp, by simp⟩
  | gives index c =>
    simp only [Deal.apply, List.getElem?_modify, Option.map_eq_map,
      Option.map_eq_some_iff] at here there
    obtain ⟨actor', found, is⟩ := here
    obtain ⟨gave', found', is'⟩ := there
    by_cases same : index = i
    · simp only [same, if_true] at is is'
      exact ⟨actor', gave', [c], found, found', by rw [← is], by rw [← is']⟩
    · simp only [same, if_false] at is is'
      exact ⟨actor', gave', [], found, found', by simp [← is], by simp [← is']⟩
  | connects session => exact absurd rfl (unconnected session)

theorem feeds_apply {d : Deal} (unconnected : ∀ session, d ≠ .connects session)
    {actors : List (Nat × List WriteCommand)} {links : List ConnectionRun}
    (feeds : Feeds actors given links) : Feeds (d.apply actors) (d.apply given) links := by
  intro i actor gave run here there link
  obtain ⟨actor', gave', more, found, found', is, is'⟩ := apply_get unconnected here there
  obtain ⟨taken, fed, all⟩ := feeds i actor' gave' run found found' link
  refine ⟨taken, fed, ?_⟩
  rw [is, is', dataOf_append, dataOf_append, ← all, List.append_assoc]

theorem dealt_messages {p : Pipeline} (dealt : Dealt k p given) {i : Nat}
    {gave : Nat × List WriteCommand} (here : given[i]? = some gave) (session : gave.1 = k) :
    dataOf gave.2 <+: payloads k p.writes := by
  have bound := (List.getElem?_eq_some_iff.mp here).1
  have link : (List.replicate given.length (idle p.fresh))[i]? = some (idle p.fresh) := by
    rw [List.getElem?_replicate, if_pos bound]
  have found : (kept (lane p.s) given).actors[i]? = some (k, gave.2) := by
    rw [← session]
    exact here
  have carrying := dealt.delivering.carrying ⟨found, link⟩
  have quiet := carrying.selecting rfl
  rcases carrying.carried with lost | ⟨account, _⟩
  · have gone := lost.1
    rw [show connGone (idle p.fresh).conn.task.pc = false from dealt.unused.2] at gone
    cases gone
  · rw [quiet, show (idle p.fresh).conn.handler.accepted = [] from dealt.unused.1] at account
    exact ⟨_, by simpa [sends] using account⟩

/-- What a connection has accepted comes first among the session's writes. -/
theorem dealt_accepted {p : Pipeline} (dealt : Dealt k p given) {i : Nat} {actor : Actor}
    {run : ConnectionRun} (spawned : p.s.actors[i]? = some actor) (session : actor.session = k)
    (link : p.links[i]? = some run) : sends run.conn.handler.accepted <+: payloads k p.writes := by
  have bound := (List.getElem?_eq_some_iff.mp link).1
  obtain ⟨gave, there⟩ : ∃ gave, given[i]? = some gave :=
    ⟨_, List.getElem?_eq_getElem (dealt.linked ▸ bound)⟩
  have shown : (lane p.s).actors[i]? = some (actor.session, actor.commands) := by
    simp [lane, spawned]
  have owner : gave.1 = k := by
    have same := congrArg (·[i]?) dealt.same
    simp only [List.getElem?_map, there, shown, Option.map_some, Option.some.injEq] at same
    rw [same, session]
  obtain ⟨taken, fed, all⟩ := dealt.feeds i _ gave run shown there link
  have part : taken <+: dataOf gave.2 := ⟨_, all⟩
  exact ((fed_accepted fed.fed).trans part).trans (dealt_messages dealt there owner)

/-- No open is interrupted up to session k, and every message fits the daemon's buffer. -/
def Orderly (k : Nat) (p : Pipeline) : PipelineEvent → Prop
  | .session event => event = .interruptOpen → k < p.s.session
  | .ncdWrite bytes sent => sent = true → dataMessageLen bytes ≤ recvBufSize
  | _ => True

instance (k : Nat) (p : Pipeline) : (event : PipelineEvent) → Decidable (Orderly k p event)
  | .session event => inferInstanceAs (Decidable (event = .interruptOpen → k < p.s.session))
  | .ncdWrite bytes sent =>
    inferInstanceAs (Decidable (sent = true → dataMessageLen bytes ≤ recvBufSize))
  | .opening _ | .link _ _ => inferInstanceAs (Decidable True)

section Steps

variable {p p' : Pipeline}

theorem dealt_lane {s : Sessions} {opening : Option Endpoint} (dealt : Dealt k p given)
    (signal : event = .interruptOpen → k < p.s.session)
    (unwritten : ∀ bytes, event ≠ .ncdWrite bytes) (unconnected : event ≠ .connect true)
    (opens : ∀ conn, opening = some conn → RunFed (idle conn) [])
    (moved : (lane p.s).Step event (lane s)) :
    ∃ given', Dealt k { p with s := s, opening := opening } given' := by
  obtain ⟨d, connects, actors, ghost⟩ := step_deal moved
  have none : ∀ session, d ≠ .connects session := fun session is =>
    unconnected (connects session is)
  have length : given.length = (lane p.s).actors.length := by
    have lengths := congrArg List.length dealt.same
    rwa [List.length_map, List.length_map] at lengths
  refine ⟨d.apply given, ?_, ?_, dealt.fresh, dealt.unused, ?_, opens, ?_⟩
  · rw [apply_length none]
    exact delivering_lane dealt.delivering signal unwritten unconnected (ghost given length)
  · dsimp only
    rw [apply_sessions none, dealt.same, actors, apply_sessions none]
  · rw [apply_length none]
    exact dealt.linked
  · dsimp only
    rw [actors]
    exact feeds_apply none dealt.feeds

theorem dealt_writes (dealt : Dealt k p given) {bytes : List UInt8} {sent : Bool}
    (fits : sent = true → dataMessageLen bytes ≤ recvBufSize)
    (step : p.ncdWrite bytes sent = some p') : ∃ given', Dealt k p' given' := by
  unfold Pipeline.ncdWrite at step
  split at step
  · cases step
  · rename_i opened
    rw [not_not] at opened
    split at step
    · cases step
      exact ⟨given, dealt⟩
    · rename_i present
      rw [not_or, Bool.not_eq_false] at present
      obtain ⟨s, wrote, rfl⟩ := Option.map_eq_some_iff.mp step
      have shown : lane s = { lane p.s with msgs := (lane p.s).msgs ++ [.data bytes] } := by
        cases session_move (show p.s.step (.ncdWrite bytes) = some s from wrote) with
        | writes => simp [lane, List.filter_cons]
      have moved : Lane.Step (kept (lane p.s) given) (.ncdWrite bytes) _ := .writes opened
      have dealing := dealing_step dealt.delivering.dealing (by simp) moved
      have delivering := delivering_writes dealt.delivering opened (fits present.2) dealing
      have same : (lane s).actors = (lane p.s).actors := by rw [shown]
      refine ⟨given, ?_, ?_, dealt.fresh, dealt.unused, dealt.linked, dealt.opening, ?_⟩
      · rw [shown, payloads_written]
        exact delivering
      · rw [same]
        exact dealt.same
      · rw [same]
        exact dealt.feeds

theorem dealt_connects (dealt : Dealt k p given) {success : Bool}
    (step : p.connect success = some p') : ∃ given', Dealt k p' given' := by
  unfold Pipeline.connect at step
  split at step
  · rename_i conn found
    split at step
    · rename_i succeeded
      subst succeeded
      split at step
      · obtain ⟨s, went, rfl⟩ := Option.map_eq_some_iff.mp step
        cases session_move (show p.s.step (.connect true) = some s from went) with
        | @connects session here =>
          have opening : (lane p.s).daemon = .opening session := by simp [lane, here, answer]
          have moved := Lane.Step.connects (l := kept (lane p.s) given) opening
          have dealing := dealing_step dealt.delivering.dealing (by simp) moved
          have delivering := delivering_connects dealt.delivering opening (idle p.fresh)
            (fun _ => dealt.fresh) dealing
          have length : given.length = p.s.actors.length := by
            have lengths := congrArg List.length dealt.same
            simpa [lane] using lengths
          refine ⟨given ++ [(session, [])], ?_, ?_, dealt.fresh, dealt.unused, ?_, by simp, ?_⟩
          · rw [List.length_append, List.length_singleton, List.replicate_succ']
            simpa [lane, answer, kept, length] using delivering
          · have same := dealt.same
            simp only [lane, List.map_map] at same
            simp [lane, same]
          · simp [dealt.linked]
          · intro i actor gave run is is' link
            have linked := dealt.linked
            simp only [lane, List.map_append, List.map_cons, List.map_nil] at is
            rw [List.getElem?_append, List.length_map, ← length] at is
            rw [List.getElem?_append] at is'
            rw [List.getElem?_append, linked] at link
            split at link
            · rename_i inside
              rw [if_pos inside] at is is'
              exact dealt.feeds i actor gave run is is' link
            · rename_i beyond
              rw [if_neg beyond, List.getElem?_singleton] at is is'
              rw [List.getElem?_singleton] at link
              split at link <;> cases link
              rename_i last
              rw [if_pos last, Option.some.injEq] at is is'
              exact ⟨[], dealt.opening conn found, by rw [← is, ← is']; rfl⟩
      · cases step
    · rename_i failed
      rw [Bool.not_eq_true] at failed
      obtain ⟨s, went, rfl⟩ := Option.map_eq_some_iff.mp step
      have moved : (lane p.s).Step (.connect false) (lane s) := lane_step (by simp) went
      exact dealt_lane dealt (by simp) (by simp) (by simp) (by simp) moved
  · cases step

/- No message in the queue is too long for the daemon. -/
theorem dealt_data (dealt : Dealt k p given) (step : p.data = some p') :
    ∃ given', Dealt k p' given' := by
  unfold Pipeline.data at step
  split at step
  · rename_i bytes rest here queue
    split at step
    · obtain ⟨s, took, rfl⟩ := Option.map_eq_some_iff.mp step
      have moved : (lane p.s).Step .data (lane s) := lane_step (by simp) took
      exact dealt_lane dealt (by simp) (by simp) (by simp) dealt.opening moved
    · rename_i long
      refine absurd (dealt.delivering.small bytes ?_) long
      simp [kept, lane, queue, List.filter_cons, dataIn]
  · cases step

theorem dealt_session (dealt : Dealt k p given)
    (orderly : event = .interruptOpen → k < p.s.session)
    (step : p.session event = some p') : ∃ given', Dealt k p' given' := by
  cases event with
  | actor i e => cases step
  | ncdWrite bytes => cases step
  | openReq =>
    obtain ⟨s, asked, rfl⟩ := Option.map_eq_some_iff.mp step
    have moved : (lane p.s).Step .openReq (lane s) := lane_step (by simp) asked
    refine dealt_lane dealt (by simp) (by simp) (by simp) ?_ moved
    rintro conn ⟨⟩
    exact untouched_fed dealt.fresh dealt.unused.1
  | connect success => exact dealt_connects dealt step
  | data => exact dealt_data dealt step
  | _ =>
    obtain ⟨s, took, rfl⟩ := Option.map_eq_some_iff.mp step
    exact dealt_lane dealt orderly (by simp) (by simp) dealt.opening (lane_step (by simp) took)

theorem remaining_taken {commands rest : List WriteCommand} {sender : Bool} {event : RunEvent}
    (left : remaining commands sender event = some rest) :
    dataOf commands = taken event ++ dataOf rest := by
  cases event with
  | command cmd =>
    cases cmd with
    | none =>
      simp only [remaining] at left
      split at left <;> cases left
      rename_i empty
      rw [empty.1]
      rfl
    | some c =>
      simp only [remaining] at left
      split at left <;> cases left
      rename_i head
      cases commands with
      | nil => cases head
      | cons first tail =>
        cases head
        cases c <;> rfl
  | start => cases left
  | mainLoopEnds => cases left
  | _ =>
    cases left
    rfl

/- A connection_run goes on: it takes a command, or it does not. -/
theorem dealt_link (dealt : Dealt k p given) {i : Nat} {event : RunEvent}
    (step : p.link i event = some p') : ∃ given', Dealt k p' given' := by
  unfold Pipeline.link at step
  split at step
  · rename_i actor run here link
    obtain ⟨rest, left, step⟩ := Option.bind_eq_some_iff.mp step
    obtain ⟨after, moved, rfl⟩ := Option.map_eq_some_iff.mp step
    have shown : (lane p.s).actors[i]? = some (actor.session, actor.commands) := by
      simp [lane, here]
    have linkBound := (List.getElem?_eq_some_iff.mp link).1
    have stays : event ≠ .mainLoopEnds := by
      rintro rfl
      cases left
    have actors : ∀ phase, (p.s.actors.set i { actor with commands := rest, phase := phase }).map
        (fun actor => (actor.session, actor.commands)) =
          (lane p.s).actors.set i (actor.session, rest) := by
      intro phase
      rw [List.map_set]
      rfl
    have sessions : ((lane p.s).actors.set i (actor.session, rest)).map (·.1) =
        (lane p.s).actors.map (·.1) := by
      have bound : i < ((lane p.s).actors.map (·.1)).length := by
        rw [List.length_map]
        exact (List.getElem?_eq_some_iff.mp shown).1
      have same : ((lane p.s).actors.map (·.1))[i] = actor.session := by
        rw [List.getElem_map, (List.getElem?_eq_some_iff.mp shown).2]
      rw [List.map_set, ← same]
      exact List.set_getElem_self bound
    refine ⟨given, dealt.delivering, ?_, dealt.fresh, dealt.unused, ?_, dealt.opening, ?_⟩
    · simp only [lane, actors]
      exact dealt.same.trans sessions.symm
    · simpa using dealt.linked
    · simp only [lane, actors]
      intro j other gave run' is is' link'
      rw [List.getElem?_set] at is link'
      split at is
      · rename_i same
        subst same
        split at is
        · cases is
          rw [if_pos rfl, if_pos linkBound, Option.some.injEq] at link'
          obtain ⟨took, fed, all⟩ := dealt.feeds i _ gave run shown is' link
          refine ⟨took ++ taken event, link' ▸ step_runFed fed stays moved, ?_⟩
          rw [← all, remaining_taken left, List.append_assoc]
        · cases is
      · rename_i different
        rw [if_neg different] at link'
        exact dealt.feeds j other gave run' is is' link'
  · cases step

theorem step_dealt {event : PipelineEvent} (dealt : ∃ given, Dealt k p given)
    (orderly : Orderly k p event) (step : p.step event = some p') : ∃ given, Dealt k p' given := by
  obtain ⟨given, dealt⟩ := dealt
  cases event with
  | session event => exact dealt_session dealt orderly step
  | ncdWrite bytes sent => exact dealt_writes dealt orderly step
  | opening event =>
    simp only [Pipeline.step] at step
    split at step
    · rename_i conn found
      obtain ⟨conn', moved, rfl⟩ := Option.map_eq_some_iff.mp step
      refine ⟨given, dealt.delivering, dealt.same, dealt.fresh, dealt.unused, dealt.linked, ?_,
        dealt.feeds⟩
      rintro _ ⟨⟩
      have went : (idle conn).step (.task event) = some (idle conn') := by
        simp [ConnectionRun.step, idle, moved]
      have fed := step_runFed (dealt.opening conn found) (by simp) went
      exact fed
    · cases step
  | link i event => exact dealt_link dealt step

end Steps

theorem new_dealt (k : Nat) (peerAddr : SocketAddr)
    (timeoutMs closeTimeoutMs keepAliveIntervalMs : UInt32) (bufferSize : Nat) :
    Dealt k
      { fresh := Endpoint.new peerAddr timeoutMs closeTimeoutMs keepAliveIntervalMs .device
          bufferSize } [] where
  delivering := delivering_new k
  same := rfl
  fresh := untouched_new _ _ _ _ _
  unused := ⟨rfl, rfl⟩
  linked := rfl
  opening := by simp
  feeds := by simp [Feeds]

def Careful (k : Nat) (s : System) : SystemEvent → Prop
  | .daemon event => Orderly k s.p event
  | _ => True

instance (k : Nat) (s : System) : (event : SystemEvent) → Decidable (Careful k s event)
  | .daemon event => inferInstanceAs (Decidable (Orderly k s.p event))
  | .answering _ | .host _ _ => inferInstanceAs (Decidable True)

section System

variable {s s' : System} {fails : Bool}

theorem answer_p (s : System) (p : Pipeline) (event : PipelineEvent) :
    (s.answer p event).p = p := by
  unfold System.answer
  split <;> rfl

theorem step_p {event : SystemEvent} (step : s.step event = some s') :
    s'.p = s.p ∨ ∃ e, event = .daemon e ∧ s.p.step e = some s'.p := by
  cases event with
  | daemon e =>
    simp only [System.step] at step
    split at step
    · obtain ⟨p', moved, rfl⟩ := Option.map_eq_some_iff.mp step
      exact .inr ⟨e, rfl, by rw [answer_p]; exact moved⟩
    · cases step
  | answering e =>
    simp only [System.step] at step
    split at step
    · split at step
      · obtain ⟨host, _, rfl⟩ := Option.map_eq_some_iff.mp step
        exact .inl rfl
      · cases step
    · cases step
  | host index e =>
    simp only [System.step] at step
    split at step
    · split at step
      · obtain ⟨host, _, rfl⟩ := Option.map_eq_some_iff.mp step
        exact .inl rfl
      · cases step
    · cases step

theorem step_careful {event : SystemEvent} (dealt : ∃ given, Dealt k s.p given)
    (careful : Careful k s event) (step : s.step event = some s') :
    ∃ given, Dealt k s'.p given := by
  rcases step_p step with same | ⟨e, rfl, moved⟩
  · rw [same]
    exact dealt
  · exact step_dealt dealt careful moved

theorem joined_gets (joined : Coupled fails s) (dealt : ∃ given, Dealt k s.p given) {i : Nat}
    {actor : Actor} {host : Host} (spawned : s.p.s.actors[i]? = some actor)
    (session : actor.session = k) (there : s.hosts[i]? = some host) :
    ∃ handed, Got fails host.bridge.forwarded handed ∧ handed <+: payloads k s.p.writes := by
  obtain ⟨given, dealt⟩ := dealt
  have bound := (List.getElem?_eq_some_iff.mp there).1
  obtain ⟨run, link⟩ : ∃ run, s.p.links[i]? = some run :=
    ⟨_, List.getElem?_eq_getElem (joined.paired ▸ bound)⟩
  obtain ⟨here, back⟩ := joined.lines i run host link there
  obtain ⟨handed, got, ok⟩ := (joined.hosts i host there).served
  have put : handed <+: host.bridge.conn.task.put :=
    (List.prefix_append _ _).trans (handed_put ok.bridged)
  have books := (joined.links i run link).bridged.books
  have accepted : sends run.conn.task.taken <+: sends run.conn.handler.accepted :=
    NcdWireGrammar.sends_prefix ⟨_, books.requests.symm⟩
  exact ⟨handed, got, ((put.trans (hearing_put back here.spoken)).trans accepted).trans
    (dealt_accepted dealt spawned session link)⟩

end System

/-- The adapter gets the session's writes, as the messages they were written as: all up to some
    moment as long as no write to it fails, and never one twice, out of its order or of another
    session. -/
theorem writes_reach_adapter (hostAddr deviceAddr : SocketAddr)
    (timeoutMs closeTimeoutMs keepAliveIntervalMs : UInt32) (bufferSize : Nat)
    (hostTimeoutMs hostCloseTimeoutMs hostKeepAliveIntervalMs : UInt32) (hostBufferSize k : Nat) :
    let start := System.new hostAddr deviceAddr timeoutMs closeTimeoutMs keepAliveIntervalMs
      bufferSize hostTimeoutMs hostCloseTimeoutMs hostKeepAliveIntervalMs hostBufferSize
    (∀ s (i : Nat) actor host, Reaches System.step (Careful k) start s →
      s.p.s.actors[i]? = some actor → actor.session = k → s.hosts[i]? = some host →
      host.bridge.forwarded.Sublist (payloads k s.p.writes)) ∧
    ∀ s (i : Nat) actor host,
      Reaches System.step (fun s event => Careful k s event ∧ Works event) start s →
      s.p.s.actors[i]? = some actor → actor.session = k → s.hosts[i]? = some host →
      host.bridge.forwarded <+: payloads k s.p.writes := by
  intro start
  have dealt : ∃ given, Dealt k start.p given := ⟨[], new_dealt k _ _ _ _ _⟩
  constructor
  · intro s i actor host run spawned session there
    obtain ⟨joined, after⟩ := run.keeps_under (K := Coupled true)
      (I := fun s => ∃ given, Dealt k s.p given)
      (fun joined _ step => step_joined joined nofun step)
      (fun _ dealt careful step => step_careful dealt careful step)
      (new_joined true _ _ _ _ _ _ _ _ _ _) dealt
    obtain ⟨handed, got, part⟩ := joined_gets joined after spawned session there
    exact (got_sublist got).trans part.sublist
  · intro s i actor host run spawned session there
    obtain ⟨joined, after⟩ := run.keeps_under (K := Coupled false)
      (I := fun s => ∃ given, Dealt k s.p given)
      (fun joined ok step => step_joined joined (fun _ => ok.2) step)
      (fun _ dealt ok step => step_careful dealt ok.1 step)
      (new_joined false _ _ _ _ _ _ _ _ _ _) dealt
    obtain ⟨handed, got, part⟩ := joined_gets joined after spawned session there
    exact got ▸ part

def aSystem : System :=
  System.new { ip := [127, 0, 0, 1], port := 9000 } { ip := [127, 0, 0, 1], port := 9001 }
    5000 5000 2500 4 5000 5000 2500 4

def connecting : List SystemEvent :=
  [.daemon (.session .ncdOpen), .daemon (.session (.sendOpenReq true)),
    .daemon (.session .openReq), .daemon (.opening .begin), .daemon (.opening (.wrote 12)),
    .answering (.bridge (.task .begin)),
    .answering (.bridge (.task (.read
      [0x4E, 0x43, 0x44, 0x01, 0x00, 0x04, 0x00, 0x01, 0x00, 0x00, 0x09, 0xC4]))),
    .answering (.bridge (.task (.wrote 12))), .answering (.bridge (.task .spawn)),
    .answering (.bridge .start),
    .daemon (.opening (.read
      [0x4E, 0x43, 0x44, 0x01, 0x00, 0x04, 0x00, 0x02, 0x00, 0x00, 0x09, 0xC4])),
    .daemon (.opening .spawn), .daemon (.session (.connect true)), .daemon (.session .connRes),
    .daemon (.session .finishOpen)]

/-- One byte goes all the way down. The host reads it in one piece with the ping before it. -/
def writing : List SystemEvent :=
  [.daemon (.ncdWrite [0xAA] true), .daemon (.session .data),
    .daemon (.link 0 (.task (.enterRun 0))), .daemon (.link 0 (.task (.wrote 12))),
    .daemon (.link 0 (.command (some (.data [0xAA])))), .daemon (.link 0 .requested),
    .daemon (.link 0 (.task .request)), .daemon (.link 0 (.task (.wrote 9))),
    .host 0 (.bridge (.task (.enterRun 0))), .host 0 (.bridge (.task (.wrote 12))),
    .host 0 (.bridge (.task (.read
      [0x4E, 0x43, 0x44, 0x01, 0x00, 0x04, 0x00, 0x05, 0x00, 0x00, 0x00, 0x00, 0x4E, 0x43, 0x44,
        0x01, 0x00, 0x01, 0x00, 0x07, 0xAA]))),
    .host 0 (.bridge (.task (.wrote 12))), .host 0 (.bridge (.task .packet)),
    .host 0 (.bridge (.task .deliver)), .host 0 (.exitStatus false), .host 0 (.bridge .read),
    .host 0 (.bridge .recv), .host 0 (.bridge .adapterWrote)]

def written : System :=
  (execIf System.step (fun s event => Careful 1 s event ∧ Works event) aSystem
    (connecting ++ writing)).getD aSystem

theorem one_write_reaches_adapter :
    ∃ host, written.hosts[0]? = some host ∧ host.bridge.forwarded = [[0xAA]] ∧
      host.bridge.forwarded <+: payloads 1 written.p.writes := by
  have run : Reaches System.step (fun s event => Careful 1 s event ∧ Works event) aSystem
      written := reaches_of_execIf (connecting ++ writing) (by decide +kernel)
  have spawned : (written.p.s.actors[0]?.map fun actor => actor.session) = some 1 := by
    decide +kernel
  have got : (written.hosts[0]?.map fun host => host.bridge.forwarded) = some [[0xAA]] := by
    decide +kernel
  obtain ⟨actor, found, session⟩ := Option.map_eq_some_iff.mp spawned
  obtain ⟨host, there, forwarded⟩ := Option.map_eq_some_iff.mp got
  exact ⟨host, there, forwarded, (writes_reach_adapter _ _ _ _ _ _ _ _ _ _ 1).2 written 0 actor
    host run found session there⟩

end NcdDownstream
