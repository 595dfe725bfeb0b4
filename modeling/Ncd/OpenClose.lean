import Ncd.Sessions

/- How a device is opened and closed, without its data: an abstract dialogue of ncd_open and
   ncd_release with the main loop of the daemon, which the model of the sessions refines. -/
namespace NcdOpenClose
open NcdDriver NcdDaemon NcdFlowControl NcdSessions LabelledRuns

/-- attempts lists what Device::open has returned, for the OPEN_REQ of which ncd_open;
    results lists the calls of ncd_open that returned 0 (true) or -ECONNREFUSED (false). -/
structure History where
  s : Sessions := {}
  attempts : List (Nat × Bool) := []
  results : List (Nat × Bool) := []
  deriving DecidableEq, Repr

def attempted (s : Sessions) : SessionEvent → List (Nat × Bool)
  | .connect success =>
    match s.flow.daemon with
    | .opening session => [(session, success)]
    | _ => []
  | _ => []

def concluded (s : Sessions) : SessionEvent → List (Nat × Bool)
  | .finishOpen => [(s.session, s.connStatus = .success)]
  | _ => []

def History.step (h : History) (event : SessionEvent) : Option History :=
  (h.s.step event).map fun s =>
    { s := s
      attempts := h.attempts ++ attempted h.s event
      results := h.results ++ concluded h.s event }

inductive Request where
  | openReq (session : Nat)
  | closeReq
  deriving DecidableEq, Repr

inductive Answer where
  | idle
  | opening (session : Nat)
  | answering (success : Bool)
  deriving DecidableEq, Repr

def Answer.session : Answer → List Nat
  | .opening session => [session]
  | _ => []

/-- held: write_tx is Some. -/
structure Dialogue where
  user : UserPc
  connStatus : ConnStatus
  session : Nat
  requests : List Request
  daemon : Answer
  held : Bool
  attempts : List (Nat × Bool)
  results : List (Nat × Bool)

def statusOf (success : Bool) : ConnStatus := if success then .success else .failed

inductive Dialogue.Step (d : Dialogue) : SessionEvent → Dialogue → Prop where
  | opens (here : d.user = .closed) :
      Step d .ncdOpen
        { d with user := .requesting, connStatus := .waiting, session := d.session + 1 }
  | asks (here : d.user = .requesting) :
      Step d (.sendOpenReq true)
        { d with user := .connecting, requests := d.requests ++ [.openReq d.session] }
  | unsent (here : d.user = .requesting) :
      Step d (.sendOpenReq false) { d with user := .closed }
  | succeeds (here : d.user = .connecting) (status : d.connStatus = .success) :
      Step d .finishOpen { d with user := .opened, results := d.results ++ [(d.session, true)] }
  | refused (here : d.user = .connecting) (status : d.connStatus = .failed) :
      Step d .finishOpen { d with user := .closed, results := d.results ++ [(d.session, false)] }
  | interrupted (here : d.user = .connecting) :
      Step d .interruptOpen { d with user := .closed, connStatus := .waiting }
  | closes (here : d.user = .opened) :
      Step d (.sendCloseReq true)
        { d with user := .releasing, requests := d.requests ++ [.closeReq] }
  | unclosed (here : d.user = .opened) :
      Step d (.sendCloseReq false) { d with user := .releasing }
  | released (here : d.user = .releasing) :
      Step d .ncdRelease { d with user := .closed, connStatus := .waiting }
  | takesOpen {session : Nat} {rest : List Request} (here : d.daemon = .idle)
      (first : d.requests = .openReq session :: rest) :
      Step d .openReq { d with requests := rest, daemon := .opening session }
  | connects {session : Nat} {success : Bool} (here : d.daemon = .opening session) :
      Step d (.connect success)
        { d with
          daemon := .answering success
          held := d.held || success
          attempts := d.attempts ++ [(session, success)] }
  | replies {success : Bool} (here : d.daemon = .answering success) :
      Step d .connRes { d with daemon := .idle, connStatus := statusOf success }
  | takesClose {rest : List Request} (here : d.daemon = .idle)
      (first : d.requests = .closeReq :: rest) :
      Step d .closeReq { d with requests := rest, held := false }
  | rests {event : SessionEvent} : Step d event d

def request : DriverMsg → Option Request
  | .openReq session => some (.openReq session)
  | .closeReq => some .closeReq
  | _ => none

def answer {α : Type} : DaemonPc α → Answer
  | .opening session => .opening session
  | .answering success => .answering success
  | _ => .idle

/-- What a state of the sessions says about the dialogue. -/
def History.view (h : History) : Dialogue where
  user := h.s.user
  connStatus := h.s.connStatus
  session := h.s.session
  requests := h.s.flow.queue.filterMap request
  daemon := answer h.s.flow.daemon
  held := h.s.writeTx.isSome
  attempts := h.attempts
  results := h.results

/- The steps of a session with data leave the dialogue alone. -/
theorem flow_answer {α : Type} {s s' : Flow α} {event : FlowEvent α}
    (step : s.step event = some s') :
    s'.queue.filterMap request = s.queue.filterMap request ∧
      answer s'.daemon = answer s.daemon := by
  cases step_change step with
  | pauses here queue same =>
    rw [queue]
    exact ⟨rfl, rfl⟩
  | resets here queue =>
    rw [queue, here]
    exact ⟨rfl, rfl⟩
  | asks here => exact ⟨by simp [request], rfl⟩
  | resumes here => exact ⟨by simp [request], rfl⟩
  | notifies here =>
    rw [here]
    exact ⟨by simp [request], rfl⟩
  | queues here =>
    rw [here]
    exact ⟨rfl, rfl⟩
  | pops here running budget queue =>
    rw [here]
    exact ⟨rfl, rfl⟩
  | settles here done same =>
    rw [here]
    exact ⟨rfl, rfl⟩
  | enters here free received =>
    rw [here]
    exact ⟨rfl, rfl⟩
  | passes here free received =>
    rw [here]
    exact ⟨rfl, rfl⟩
  | _ => exact ⟨rfl, rfl⟩

theorem view_rests {h : History} {s : Sessions} {event : SessionEvent}
    (user : s.user = h.s.user) (status : s.connStatus = h.s.connStatus)
    (session : s.session = h.s.session) (writeTx : s.writeTx = h.s.writeTx)
    (queue : s.flow.queue.filterMap request = h.s.flow.queue.filterMap request)
    (daemon : answer s.flow.daemon = answer h.s.flow.daemon) :
    h.view.Step event { h with s := s }.view := by
  have same : { h with s := s }.view = h.view := by
    simp only [History.view, user, status, session, writeTx, queue, daemon]
  rw [same]
  exact .rests

/- One case per move: what it does to the sessions is a step of the dialogue. -/
theorem view_step {h h' : History} {event : SessionEvent} (step : h.step event = some h') :
    h.view.Step event h'.view := by
  obtain ⟨s, moved, rfl⟩ := Option.map_eq_some_iff.mp step
  cases session_move moved with
  | opens here =>
    simpa [History.view, attempted, concluded] using Dialogue.Step.opens (d := h.view) here
  | asks here =>
    simpa [History.view, attempted, concluded, request] using
      Dialogue.Step.asks (d := h.view) here
  | unsent here =>
    simpa [History.view, attempted, concluded] using Dialogue.Step.unsent (d := h.view) here
  | succeeds here status =>
    simpa [History.view, attempted, concluded, status] using
      Dialogue.Step.succeeds (d := h.view) here status
  | refused here status =>
    simpa [History.view, attempted, concluded, status] using
      Dialogue.Step.refused (d := h.view) here status
  | interrupted here =>
    simpa [History.view, attempted, concluded] using Dialogue.Step.interrupted (d := h.view) here
  | writes here =>
    simp only [attempted, concluded, List.append_nil]
    exact view_rests rfl rfl rfl rfl (by simp [request]) rfl
  | closes here idle =>
    simpa [History.view, attempted, concluded, request] using
      Dialogue.Step.closes (d := h.view) here
  | unclosed here idle =>
    simpa [History.view, attempted, concluded] using Dialogue.Step.unclosed (d := h.view) here
  | released here =>
    simpa [History.view, attempted, concluded] using Dialogue.Step.released (d := h.view) here
  | flows permitted went | takesTcp tcp went =>
    obtain ⟨queue, daemon⟩ := flow_answer went
    simp only [attempted, concluded, List.append_nil]
    exact view_rests rfl rfl rfl rfl queue daemon
  | @takesOpen session rest here queue =>
    have idle : h.view.daemon = .idle := by simp [History.view, here, answer]
    have first : h.view.requests = .openReq session :: rest.filterMap request := by
      simp [History.view, queue, request]
    simpa [History.view, attempted, concluded, answer] using Dialogue.Step.takesOpen idle first
  | @connects session here =>
    have opening : h.view.daemon = .opening session := by simp [History.view, here, answer]
    simpa [History.view, attempted, concluded, answer, here] using
      @Dialogue.Step.connects h.view _ true opening
  | @misses session here =>
    have opening : h.view.daemon = .opening session := by simp [History.view, here, answer]
    simpa [History.view, attempted, concluded, answer, here] using
      @Dialogue.Step.connects h.view _ false opening
  | @replies success here =>
    have answering : h.view.daemon = .answering success := by simp [History.view, here, answer]
    simpa [History.view, attempted, concluded, answer, statusOf] using
      Dialogue.Step.replies answering
  | takesData here queue =>
    simp only [attempted, concluded, List.append_nil]
    exact view_rests rfl rfl rfl rfl (by rw [queue]; rfl) rfl
  | @takesClose rest here queue =>
    have idle : h.view.daemon = .idle := by simp [History.view, here, answer]
    have first : h.view.requests = .closeReq :: rest.filterMap request := by
      simp [History.view, queue, request]
    simpa [History.view, attempted, concluded] using Dialogue.Step.takesClose idle first
  | acts there round =>
    simp only [attempted, concluded, List.append_nil]
    exact view_rests rfl rfl rfl rfl rfl rfl

theorem run_view {ok : History → SessionEvent → Prop} {I : Dialogue → Prop}
    (keep : ∀ {h : History} {event d}, I h.view → ok h event → h.view.Step event d → I d)
    {h h' : History} (run : Reaches History.step ok h h') (start : I h.view) : I h'.view := by
  apply run.keeps (I := fun h => I h.view) _ start
  intro h event h' holds allowed step
  exact keep holds allowed (view_step step)

end NcdOpenClose
