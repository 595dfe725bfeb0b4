import Ncd.Feeding
import Ncd.HealthyPair
import Ncd.Reception
import Ncd.WriteOrder

/- One device from end to end: the processes that open it and the daemon, and for every
   connection that Device::open makes the host at its other end, with handle_connection and an
   adapter. The bytes that one end has written reach the other in order; a stream may break,
   end or time out at any moment. -/
namespace NcdSystem
open NcdFrame NcdIoState NcdReceiver NcdConnection NcdHandler NcdBooks NcdWireGrammar
  NcdHealthyPair NcdReception NcdFlowControl NcdSessions NcdBridges NcdForwarding NcdPipeline
  NcdAdapter NcdAdapterOutput NcdFeeding LabelledRuns

/-- fresh is what accept and Adapter::spawn make on the host; answering is the host's end of
    the connection inside Device::open; hosts[i] is the other end of links[i]. -/
structure System where
  p : Pipeline
  fresh : Host
  answering : Option Host := none
  hosts : List Host := []
  deriving DecidableEq, Repr

inductive SystemEvent where
  | daemon (event : PipelineEvent)
  | answering (event : HostEvent)
  | host (index : Nat) (event : HostEvent)
  deriving DecidableEq, Repr

/-- A read returns what comes next of the bytes the other end has written. -/
def Follows (t other : Task) : TaskEvent → Prop
  | .read chunk => t.conn.io.stream.consumed ++ chunk <+: other.conn.io.stream.written
  | _ => True

instance (t other : Task) (event : TaskEvent) : Decidable (Follows t other event) := by
  unfold Follows
  split <;> infer_instance

def System.carries (s : System) : PipelineEvent → Prop
  | .opening event => ∀ conn ∈ s.p.opening, ∀ host ∈ s.answering,
      Follows conn.task host.bridge.conn.task event
  | .link index (.task event) => ∀ run ∈ s.p.links[index]?, ∀ host ∈ s.hosts[index]?,
      Follows run.conn.task host.bridge.conn.task event
  | _ => True

instance (s : System) : (event : PipelineEvent) → Decidable (s.carries event)
  | .opening event => inferInstanceAs (Decidable (∀ conn ∈ s.p.opening, ∀ host ∈ s.answering,
      Follows conn.task host.bridge.conn.task event))
  | .link index (.task event) => inferInstanceAs (Decidable (∀ run ∈ s.p.links[index]?,
      ∀ host ∈ s.hosts[index]?, Follows run.conn.task host.bridge.conn.task event))
  | .session _ | .ncdWrite _ _ | .link _ .start | .link _ .read | .link _ .recv | .link _ .check
  | .link _ (.command _) | .link _ .requested | .link _ .close | .link _ .joined
  | .link _ .mainLoopEnds => inferInstanceAs (Decidable True)

def hears (host : Host) (conn : Endpoint) : HostEvent → Prop
  | .bridge (.task event) => Follows host.bridge.conn.task conn.task event
  | _ => True

instance (host : Host) (conn : Endpoint) (event : HostEvent) :
    Decidable (hears host conn event) := by
  unfold hears
  split <;> infer_instance

def System.answer (s : System) (p : Pipeline) : PipelineEvent → System
  | .session .openReq => { s with p := p, answering := some s.fresh }
  | .session (.connect success) =>
    { s with p := p, answering := none, hosts := if success then s.hosts ++ s.answering.toList
        else s.hosts }
  | _ => { s with p := p }

def System.step (s : System) : SystemEvent → Option System
  | .daemon event => if s.carries event then (s.p.step event).map (s.answer · event) else none
  | .answering event =>
    match s.p.opening, s.answering with
    | some conn, some host =>
      if hears host conn event then
        (host.step event).map fun host => { s with answering := some host }
      else none
    | _, _ => none
  | .host index event =>
    match s.p.links[index]?, s.hosts[index]? with
    | some run, some host =>
      if hears host run.conn event then
        (host.step event).map fun host => { s with hosts := s.hosts.set index host }
      else none
    | _, _ => none

structure Hearing (t peer : Task) : Prop where
  heard : Heard t
  spoken : ∃ hello handled, Grammatical hello handled t
  reads : t.conn.io.stream.consumed <+: peer.conn.io.stream.written

def Line (x y : Task) : Prop := Hearing x y ∧ Hearing y x

variable {t t' peer peer' x x' y y' : Task}

theorem spoken_written (spoken : ∃ hello handled, Grammatical hello handled t) :
    t.conn.io.stream.written <+: wire t.sent ∧ messages t.sent = sends t.taken := by
  obtain ⟨hello, handled, stage, rest, said, _⟩ := spoken
  exact ⟨⟨rest, said.bytes⟩, said.data⟩

/-- What has come out of a connection is what went into it at the other end. -/
theorem hearing_put (hearing : Hearing t peer)
    (spoken : ∃ hello handled, Grammatical hello handled peer) : t.put <+: sends peer.taken := by
  obtain ⟨written, data⟩ := spoken_written spoken
  rw [← data]
  exact heard_put hearing.heard (hearing.reads.trans written)

theorem line_step {ch ch' : Channels} {event : TaskEvent} (line : Line x y)
    (user : UserRequests ch.requests) (follows : Follows x y event)
    (step : x.step ch event = some (x', ch')) : Line x' y := by
  obtain ⟨hearing, back⟩ := line
  obtain ⟨written, _⟩ := spoken_written back.spoken
  have hears : HearsFrom y.sent x event := by
    rintro chunk rfl
    exact List.IsPrefix.trans follows written
  obtain ⟨hello, handled, good⟩ := hearing.spoken
  have stream : x.conn.io.stream.written <+: x'.conn.io.stream.written ∧
      x'.conn.io.stream.consumed <+: y.conn.io.stream.written := by
    cases NcdTaskSteps.step_moves step with
    | steady same => exact ⟨same.2.2.2.2.1, same.2.2.2.2.2 ▸ hearing.reads⟩
    | asks here queue => exact ⟨List.prefix_rfl, hearing.reads⟩
    | takes queue same => exact ⟨same.2.2.2.2.1, same.2.2.2.2.2 ▸ hearing.reads⟩
    | puts delivering same => exact ⟨same.2.2.2.2.1, same.2.2.2.2.2 ▸ hearing.reads⟩
    | reads read same =>
      subst read
      exact ⟨same.2.2.2.2.1, same.2.2.2.2.2 ▸ follows⟩
    | aborts dead => exact ⟨List.prefix_rfl, hearing.reads⟩
  exact ⟨⟨step_heard hearing.heard hears step, ⟨hello, _, step_grammatical good user step⟩,
    stream.2⟩, back.heard, back.spoken, back.reads.trans stream.1⟩

theorem line_symm (line : Line x y) : Line y x := ⟨line.2, line.1⟩

theorem run_task {b b' : ConnectionRun} {event : RunEvent} (step : b.step event = some b') :
    (∃ te, event = .task te ∧ b.conn.step (.task te) = some b'.conn) ∨
      b'.conn.task = b.conn.task := by
  have dropped := (NcdLinkOrder.dropRead_same b.conn).1
  cases run_move step with
  | task moved => exact .inl ⟨_, rfl, moved⟩
  | calls made moved =>
    obtain ⟨mine, conn, -⟩ := run_call made
    rw [NcdLinkOrder.called_conn, call_task mine moved]
    rcases conn with same | same
    · exact .inr (congrArg _ same)
    · exact .inr (by rw [same, dropped])
  | starts | mainLoopEnds => exact .inr rfl
  | toggles | orphaned => exact .inr dropped

theorem handle_task {b b' : HandleConnection} {event : HandleEvent}
    (step : b.step event = some b') :
    (∃ te, event = .task te ∧ b.conn.step (.task te) = some b'.conn) ∨
      b'.conn.task = b.conn.task := by
  have dropped := (NcdLinkOrder.dropRead_same b.conn).1
  cases handle_move step with
  | task moved => exact .inl ⟨_, rfl, moved⟩
  | calls made moved =>
    obtain ⟨mine, conn, -⟩ := handle_call made
    rw [NcdAdapterOutput.called_conn, call_task mine moved]
    rcases conn with same | same
    · exact .inr (congrArg _ same)
    · exact .inr (by rw [same, dropped])
  | starts | exitStatus | adapterFails => exact .inr rfl
  | closed => exact .inr dropped
  | adapterWrote => exact .inr (by rw [write_conn])

/-- What an event of the pipeline does to the connections of the daemon. -/
inductive Wiring (p : Pipeline) : PipelineEvent → Pipeline → Prop where
  | rests {event : PipelineEvent} {p' : Pipeline} (fresh : p'.fresh = p.fresh)
      (opening : p'.opening = p.opening) (links : p'.links = p.links)
      (quiet : event ≠ .session .openReq) (unconnected : ∀ success, event ≠ .session
        (.connect success)) : Wiring p event p'
  | opens {p' : Pipeline} (fresh : p'.fresh = p.fresh) (opening : p'.opening = some p.fresh)
      (links : p'.links = p.links) : Wiring p (.session .openReq) p'
  | connects {conn : Endpoint} {p' : Pipeline} (found : p.opening = some conn)
      (fresh : p'.fresh = p.fresh) (opening : p'.opening = none)
      (links : p'.links = p.links ++ [{ conn := conn, pc := .select }]) :
      Wiring p (.session (.connect true)) p'
  | misses {p' : Pipeline} (fresh : p'.fresh = p.fresh) (opening : p'.opening = none)
      (links : p'.links = p.links) : Wiring p (.session (.connect false)) p'
  | greets {event : TaskEvent} {conn conn' : Endpoint} {p' : Pipeline}
      (found : p.opening = some conn) (moved : conn.step (.task event) = some conn')
      (fresh : p'.fresh = p.fresh) (opening : p'.opening = some conn')
      (links : p'.links = p.links) : Wiring p (.opening event) p'
  | runs {index : Nat} {event : RunEvent} {run run' : ConnectionRun} {p' : Pipeline}
      (found : p.links[index]? = some run) (moved : run.step event = some run')
      (stays : event ≠ .mainLoopEnds) (fresh : p'.fresh = p.fresh)
      (opening : p'.opening = p.opening) (links : p'.links = p.links.set index run') :
      Wiring p (.link index event) p'

theorem step_wiring {p p' : Pipeline} {event : PipelineEvent} (step : p.step event = some p') :
    Wiring p event p' := by
  cases event with
  | session event =>
    cases event with
    | actor i e => cases step
    | ncdWrite bytes => cases step
    | openReq =>
      obtain ⟨s, _, rfl⟩ := Option.map_eq_some_iff.mp step
      exact .opens rfl rfl rfl
    | connect success =>
      simp only [Pipeline.step, Pipeline.session] at step
      unfold Pipeline.connect at step
      split at step
      · rename_i conn found
        cases success with
        | true =>
          simp only [if_true] at step
          split at step
          · obtain ⟨s, _, rfl⟩ := Option.map_eq_some_iff.mp step
            exact .connects found rfl rfl rfl
          · cases step
        | false =>
          obtain ⟨s, _, rfl⟩ := Option.map_eq_some_iff.mp step
          exact .misses rfl rfl rfl
      · cases step
    | data =>
      simp only [Pipeline.step, Pipeline.session] at step
      unfold Pipeline.data at step
      split at step
      · split at step
        · obtain ⟨s, _, rfl⟩ := Option.map_eq_some_iff.mp step
          exact .rests rfl rfl rfl (by simp) (by simp)
        · cases step
          exact .rests rfl rfl rfl (by simp) (by simp)
      · cases step
    | _ =>
      obtain ⟨s, _, rfl⟩ := Option.map_eq_some_iff.mp step
      exact .rests rfl rfl rfl (by simp) (by simp)
  | ncdWrite bytes sent =>
    simp only [Pipeline.step] at step
    unfold Pipeline.ncdWrite at step
    split at step
    · cases step
    · split at step
      · cases step
        exact .rests rfl rfl rfl (by simp) (by simp)
      · obtain ⟨s, _, rfl⟩ := Option.map_eq_some_iff.mp step
        exact .rests rfl rfl rfl (by simp) (by simp)
  | opening event =>
    simp only [Pipeline.step] at step
    split at step
    · rename_i conn found
      obtain ⟨conn', moved, rfl⟩ := Option.map_eq_some_iff.mp step
      exact .greets found moved rfl rfl rfl
    · cases step
  | link index event =>
    simp only [Pipeline.step] at step
    unfold Pipeline.link at step
    split at step
    · rename_i actor run here link
      obtain ⟨rest, left, step⟩ := Option.bind_eq_some_iff.mp step
      obtain ⟨run', moved, rfl⟩ := Option.map_eq_some_iff.mp step
      refine .runs link moved ?_ rfl rfl rfl
      rintro rfl
      cases left
    · cases step

structure Coupled (fails : Bool) (s : System) : Prop where
  bridged : Bridged s.p.fresh [] .looping
  ready : HostFed fails s.fresh
  line : Line s.p.fresh.task s.fresh.bridge.conn.task
  both : s.p.opening.isSome = s.answering.isSome
  opening : ∀ conn, s.p.opening = some conn → Bridged conn [] .looping
  answering : ∀ host, s.answering = some host → HostFed fails host
  greeting : ∀ conn host, s.p.opening = some conn → s.answering = some host →
    Line conn.task host.bridge.conn.task
  paired : s.hosts.length = s.p.links.length
  links : ∀ (i : Nat) run, s.p.links[i]? = some run → RunBridged run
  hosts : ∀ (i : Nat) host, s.hosts[i]? = some host → HostFed fails host
  lines : ∀ (i : Nat) run host, s.p.links[i]? = some run → s.hosts[i]? = some host →
    Line run.conn.task host.bridge.conn.task

def Works : SystemEvent → Prop
  | .answering event | .host _ event => event ≠ .bridge .adapterFails
  | .daemon _ => True

instance (event : SystemEvent) : Decidable (Works event) := by
  unfold Works
  split <;> infer_instance

section Steps

variable {fails : Bool} {s s' : System}

theorem bridged_user {conn : Endpoint} {handed : List (List UInt8)} {place : Place}
    (bridged : Bridged conn handed place) : UserRequests conn.channels.requests :=
  user_requests bridged.books

theorem hostFed_user {host : Host} (fed : HostFed fails host) :
    UserRequests host.bridge.conn.channels.requests := by
  obtain ⟨handed, _, ok⟩ := fed.served
  exact bridged_user ok.bridged

theorem line_task {e e' : Endpoint} {event : TaskEvent} (line : Line e.task y)
    (user : UserRequests e.channels.requests) (follows : Follows e.task y event)
    (step : e.step (.task event) = some e') : Line e'.task y := by
  obtain ⟨t', ch', moved, task, _⟩ := task_parts step
  rw [task]
  exact line_step line user follows moved

theorem line_run {b b' : ConnectionRun} {event : RunEvent} (line : Line b.conn.task y)
    (bridged : RunBridged b) (follows : ∀ te, event = .task te → Follows b.conn.task y te)
    (step : b.step event = some b') : Line b'.conn.task y := by
  rcases run_task step with ⟨te, is, moved⟩ | same
  · exact line_task line (bridged_user bridged.bridged) (follows te is) moved
  · rw [same]
    exact line

theorem line_host {h h' : Host} {event : HostEvent} {conn : Endpoint}
    (line : Line conn.task h.bridge.conn.task) (fed : HostFed fails h)
    (hears : hears h conn event) (step : h.step event = some h') :
    Line conn.task h'.bridge.conn.task := by
  rcases step_cases step with ⟨a, rfl, _, bridge, _⟩ | ⟨data, rfl, _, moved, _⟩ |
    ⟨b, which, moved, _, _⟩
  · rw [bridge]
    exact line
  · rcases handle_task moved with ⟨te, is, _⟩ | same
    · cases is
    · rw [same]
      exact line
  · rcases handle_task moved with ⟨te, rfl, took⟩ | same
    · rcases which with ⟨rfl, _⟩ | ⟨exited, _, is, _⟩
      · exact line_symm (line_task (line_symm line) (hostFed_user fed) hears took)
      · cases is
    · rw [same]
      exact line

theorem daemon_joined {event : PipelineEvent} {p' : Pipeline} (joined : Coupled fails s)
    (carries : s.carries event) (step : s.p.step event = some p') :
    Coupled fails (s.answer p' event) := by
  cases step_wiring step with
  | rests fresh opening links quiet unconnected =>
    have same : s.answer p' event = { s with p := p' } := by
      unfold System.answer
      split
      · exact absurd rfl quiet
      · exact absurd rfl (unconnected _)
      · rfl
    rw [same]
    refine ⟨?_, joined.ready, ?_, ?_, ?_, joined.answering, ?_, ?_, ?_, joined.hosts, ?_⟩
    · exact fresh ▸ joined.bridged
    · exact fresh ▸ joined.line
    · exact opening ▸ joined.both
    · exact opening ▸ joined.opening
    · exact opening ▸ joined.greeting
    · exact links ▸ joined.paired
    · exact links ▸ joined.links
    · exact links ▸ joined.lines
  | opens fresh opening links =>
    refine ⟨fresh ▸ joined.bridged, joined.ready, fresh ▸ joined.line, ?_, ?_, ?_, ?_,
      links ▸ joined.paired, links ▸ joined.links, joined.hosts, links ▸ joined.lines⟩
    · simp [System.answer, opening]
    · intro conn found
      simp only [System.answer, opening, Option.some.injEq] at found
      exact found ▸ joined.bridged
    · intro host found
      simp only [System.answer, Option.some.injEq] at found
      exact found ▸ joined.ready
    · intro conn host found found'
      simp only [System.answer, opening, Option.some.injEq] at found found'
      exact found ▸ found' ▸ joined.line
  | @connects conn p' found fresh opening links =>
    have present : s.answering.isSome = true := by rw [← joined.both, found]; rfl
    obtain ⟨host, answers⟩ := Option.isSome_iff_exists.mp present
    have hosts : (s.answer p' (.session (.connect true))).hosts = s.hosts ++ [host] := by
      simp [System.answer, answers]
    have length := joined.paired
    refine ⟨fresh ▸ joined.bridged, joined.ready, fresh ▸ joined.line, ?_, ?_, ?_, ?_, ?_, ?_, ?_,
      ?_⟩
    · simp [System.answer, opening]
    · simp [System.answer, opening]
    · simp [System.answer]
    · simp [System.answer]
    · rw [hosts]
      simp [System.answer, links, length]
    · intro i run here
      simp only [System.answer, links, List.getElem?_append] at here
      split at here
      · exact joined.links i run here
      · rw [List.getElem?_singleton] at here
        split at here <;> cases here
        exact ⟨rfl, joined.opening conn found⟩
    · intro i other here
      rw [hosts, List.getElem?_append] at here
      split at here
      · exact joined.hosts i other here
      · rw [List.getElem?_singleton] at here
        split at here <;> cases here
        exact joined.answering host answers
    · intro i run other here there
      rw [hosts, List.getElem?_append, length] at there
      simp only [System.answer, links, List.getElem?_append] at here
      split at here
      · rename_i inside
        rw [if_pos inside] at there
        exact joined.lines i run other here there
      · rename_i beyond
        rw [if_neg beyond, List.getElem?_singleton] at there
        rw [List.getElem?_singleton] at here
        split at here <;> cases here
        rename_i last
        rw [if_pos last, Option.some.injEq] at there
        exact there ▸ joined.greeting conn host found answers
  | misses fresh opening links =>
    refine ⟨fresh ▸ joined.bridged, joined.ready, fresh ▸ joined.line, ?_, ?_, ?_, ?_,
      links ▸ joined.paired, links ▸ joined.links, joined.hosts, links ▸ joined.lines⟩
    · simp [System.answer, opening]
    · simp [System.answer, opening]
    · simp [System.answer]
    · simp [System.answer]
  | @greets event conn conn' p' found moved fresh opening links =>
    have here := joined.opening conn found
    refine ⟨fresh ▸ joined.bridged, joined.ready, fresh ▸ joined.line, ?_, ?_, joined.answering, ?_,
      links ▸ joined.paired, links ▸ joined.links, joined.hosts, links ▸ joined.lines⟩
    · have both := joined.both
      simp only [found, Option.isSome_some] at both
      simp [System.answer, opening, both]
    · intro other is
      simp only [System.answer, opening, Option.some.injEq] at is
      exact is ▸ bridged_task here moved
    · intro other host is answers
      simp only [System.answer, opening, Option.some.injEq] at is
      exact is ▸ line_task (joined.greeting conn host found answers) (bridged_user here)
        (carries conn found host answers) moved
  | @runs index event run run' p' found moved stays fresh opening links =>
    have here := joined.links index run found
    have bound := (List.getElem?_eq_some_iff.mp found).1
    have length := joined.paired
    refine ⟨fresh ▸ joined.bridged, joined.ready, fresh ▸ joined.line, opening ▸ joined.both,
      opening ▸ joined.opening, joined.answering, opening ▸ joined.greeting, ?_, ?_, joined.hosts,
      ?_⟩
    · simp [System.answer, links, length]
    · intro i other is
      simp only [System.answer, links, List.getElem?_set] at is
      split at is
      · rw [Option.some.injEq] at is
        exact is ▸ step_run here stays moved
      · exact joined.links i other is
    · intro i other host is there
      simp only [System.answer, links, List.getElem?_set] at is
      split at is
      · rename_i same
        subst same
        rw [Option.some.injEq] at is
        refine is ▸ line_run (joined.lines index run host found there) here ?_ moved
        rintro te rfl
        exact carries run found host there
      · exact joined.lines i other host is there

theorem step_joined {event : SystemEvent} (joined : Coupled fails s)
    (works : fails = false → Works event) (step : s.step event = some s') : Coupled fails s' := by
  cases event with
  | daemon event =>
    simp only [System.step] at step
    split at step
    · rename_i carries
      obtain ⟨p', moved, rfl⟩ := Option.map_eq_some_iff.mp step
      exact daemon_joined joined carries moved
    · cases step
  | answering event =>
    simp only [System.step] at step
    split at step
    · rename_i conn host found answers
      split at step
      · rename_i hears
        obtain ⟨host', moved, rfl⟩ := Option.map_eq_some_iff.mp step
        have fed := joined.answering host answers
        refine ⟨joined.bridged, joined.ready, joined.line, ?_, joined.opening, ?_, ?_,
          joined.paired, joined.links, joined.hosts, joined.lines⟩
        · simp [found]
        · rintro other ⟨⟩
          exact step_hostFed fed works moved
        · rintro other _ is ⟨⟩
          rw [found, Option.some.injEq] at is
          exact is ▸ line_host (joined.greeting conn host found answers) fed hears moved
      · cases step
    · cases step
  | host index event =>
    simp only [System.step] at step
    split at step
    · rename_i run host found there
      split at step
      · rename_i hears
        obtain ⟨host', moved, rfl⟩ := Option.map_eq_some_iff.mp step
        have fed := joined.hosts index host there
        have bound := (List.getElem?_eq_some_iff.mp there).1
        refine ⟨joined.bridged, joined.ready, joined.line, joined.both, joined.opening,
          joined.answering, joined.greeting, ?_, joined.links, ?_, ?_⟩
        · rw [List.length_set]
          exact joined.paired
        · intro i other is
          simp only [List.getElem?_set] at is
          split at is
          · rw [Option.some.injEq] at is
            exact is ▸ step_hostFed fed works moved
          · exact joined.hosts i other is
        · intro i other _ here is
          simp only [List.getElem?_set] at is
          split at is
          · rename_i same
            subst same
            rw [Option.some.injEq] at is
            rw [found, Option.some.injEq] at here
            exact is ▸ here ▸ line_host (joined.lines index run host found there) fed hears moved
          · exact joined.lines i other _ here is
      · cases step
    · cases step

end Steps

def System.new (hostAddr deviceAddr : SocketAddr)
    (timeoutMs closeTimeoutMs keepAliveIntervalMs : UInt32) (bufferSize : Nat)
    (hostTimeoutMs hostCloseTimeoutMs hostKeepAliveIntervalMs : UInt32) (hostBufferSize : Nat) :
    System where
  p := { fresh := Endpoint.new hostAddr timeoutMs closeTimeoutMs keepAliveIntervalMs .device
           bufferSize }
  fresh := Host.new deviceAddr hostTimeoutMs hostCloseTimeoutMs hostKeepAliveIntervalMs .host
    hostBufferSize

theorem new_hearing {hostAddr deviceAddr : SocketAddr}
    {timeoutMs closeTimeoutMs keepAliveIntervalMs : UInt32} {role : ConnRole} {bufferSize : Nat}
    {hostTimeoutMs hostCloseTimeoutMs hostKeepAliveIntervalMs : UInt32} {hostRole : ConnRole}
    {hostBufferSize : Nat} :
    Hearing (Endpoint.new hostAddr timeoutMs closeTimeoutMs keepAliveIntervalMs role
        bufferSize).task
      (Endpoint.new deviceAddr hostTimeoutMs hostCloseTimeoutMs hostKeepAliveIntervalMs hostRole
        hostBufferSize).task where
  heard := ⟨agrees_empty, List.prefix_rfl, fun _ => rfl⟩
  spoken := ⟨_, _, (run_orderly (.refl _)).2⟩
  reads := List.prefix_rfl

theorem new_hostFed (fails : Bool) (peerAddr : SocketAddr)
    (timeoutMs closeTimeoutMs keepAliveIntervalMs : UInt32) (role : ConnRole) (bufferSize : Nat) :
    HostFed fails (Host.new peerAddr timeoutMs closeTimeoutMs keepAliveIntervalMs role
      bufferSize) := by
  refine ⟨⟨[], ?_, bridged_new _ _ _ _ _ _, nofun⟩, ⟨[], rfl, nofun, .inl rfl⟩, rfl⟩
  cases fails with
  | true => exact List.Sublist.refl _
  | false => rfl

theorem new_joined (fails : Bool) (hostAddr deviceAddr : SocketAddr)
    (timeoutMs closeTimeoutMs keepAliveIntervalMs : UInt32) (bufferSize : Nat)
    (hostTimeoutMs hostCloseTimeoutMs hostKeepAliveIntervalMs : UInt32) (hostBufferSize : Nat) :
    Coupled fails (System.new hostAddr deviceAddr timeoutMs closeTimeoutMs keepAliveIntervalMs
      bufferSize hostTimeoutMs hostCloseTimeoutMs hostKeepAliveIntervalMs hostBufferSize) where
  bridged := bridged_new _ _ _ _ _ _
  ready := new_hostFed fails _ _ _ _ _ _
  line := ⟨new_hearing, new_hearing⟩
  both := rfl
  opening := by simp [System.new]
  answering := by simp [System.new]
  greeting := by simp [System.new]
  paired := rfl
  links := by simp [System.new]
  hosts := by simp [System.new]
  lines := by simp [System.new]

end NcdSystem
