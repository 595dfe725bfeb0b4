import Ncd.OpenReplies

/- Whether driver and daemon agree that a device is open, once nothing is under way. Only
   ncd_release sends a CLOSE_REQ, so an ncd_open that gives up must have been refused. -/
namespace NcdOpenState
open NcdDriver NcdDaemon NcdFlowControl NcdSessions NcdOpenClose NcdOpenReplies LabelledRuns

def openCount : UserPc → Nat
  | .closed => 0
  | _ => 1

/-- No message on its way, no process in ncd_open or ncd_release, main loop at its select!. -/
structure Quiescent (s : Sessions) : Prop where
  queue : s.flow.queue = []
  daemon : s.flow.daemon = .select
  user : s.user = .closed ∨ s.user = .opened

/-- Device::open succeeds for a call that waits no longer, or a call whose Device::open has
    succeeded is interrupted. -/
def abandons (h : History) : SessionEvent → Bool
  | .connect true =>
    match h.s.flow.daemon with
    | .opening session =>
      !(session = h.s.session && h.s.user = .connecting && h.s.connStatus = .waiting)
    | _ => false
  | .interruptOpen => (h.s.session, true) ∈ h.attempts
  | _ => false

def allSent : SessionEvent → Bool
  | .sendOpenReq sent => sent
  | .sendCloseReq sent => sent
  | _ => true

/-- No send fails, and no connection is made for an ncd_open that gives up. -/
def Kept (h : History) (event : SessionEvent) : Prop :=
  allSent event = true ∧ abandons h event = false

instance (h : History) (event : SessionEvent) : Decidable (Kept h event) :=
  inferInstanceAs (Decidable (_ ∧ _))

/-- How far the two sides are apart. away: the process is not at the device, or about to
    leave it. asking: its OPEN_REQ is not answered. agreed: it is, and the reply is still to
    be seen. -/
inductive Matched (d : Dialogue) : Prop where
  | away (user : d.user = .closed ∨ d.user = .requesting ∨ d.user = .releasing)
      (status : d.user ≠ .releasing → d.connStatus ≠ .success)
      (closing : d.held = true → .closeReq ∈ d.requests) (silent : d.daemon ≠ .answering true)
  | asking (user : d.user = .connecting) (own : (d.session, true) ∉ d.attempts)
      (status : d.connStatus ≠ .success) (closing : d.held = true → .closeReq ∈ d.requests)
      (silent : d.daemon ≠ .answering true)
      (behind : ∀ front back, d.requests = front ++ .openReq d.session :: back → back = [])
      (taken : d.daemon = .opening d.session → d.requests = [])
  | agreed (user : d.user = .connecting) (own : (d.session, true) ∈ d.attempts)
      (held : d.held = true) (none : d.requests = [])
      (reply : d.daemon = .answering true ∧ d.connStatus = .waiting ∨
        d.daemon = .idle ∧ d.connStatus = .success)
  | opened (user : d.user = .opened) (held : d.held = true) (none : d.requests = [])
      (idle : d.daemon = .idle)

theorem kept_connect {h : History} {session : Nat} (allowed : Kept h (.connect true))
    (here : h.view.daemon = .opening session) :
    session = h.view.session ∧ h.view.user = .connecting ∧ h.view.connStatus = .waiting := by
  have opening : h.s.flow.daemon = .opening session := by
    simp only [History.view] at here
    cases daemon : h.s.flow.daemon with
    | opening k =>
      rw [daemon] at here
      cases here
      rfl
    | _ => simp [daemon, answer] at here
  have keeps := allowed.2
  simp only [abandons, opening, Bool.not_eq_false', Bool.and_eq_true, decide_eq_true_eq] at keeps
  exact ⟨keeps.1.1, keeps.1.2, keeps.2⟩

theorem asks_matched {d : Dialogue} (numbered : Numbered d) (here : d.user = .requesting)
    (status : d.connStatus ≠ .success) (closing : d.held = true → .closeReq ∈ d.requests)
    (silent : d.daemon ≠ .answering true) :
    Matched { d with user := .connecting, requests := d.requests ++ [.openReq d.session] } := by
  have fresh : d.session ∉ asked d := by
    intro member
    exact Nat.lt_irrefl _ (numbered.fresh here _ member)
  apply Matched.asking
  · rfl
  · intro own
    apply fresh
    exact List.mem_append_left _ (List.mem_map_of_mem (f := Prod.fst) own)
  · exact status
  · intro held
    exact List.mem_append_left _ (closing held)
  · exact silent
  · intro front back split
    rcases List.eq_nil_or_concat back with none | ⟨init, final, rfl⟩
    · exact none
    · exfalso
      have early : d.requests = front ++ .openReq d.session :: init := by
        have shape : front ++ Request.openReq d.session :: init.concat final =
            (front ++ .openReq d.session :: init) ++ [final] := by simp
        dsimp only at split
        rw [shape] at split
        exact (List.append_inj' split rfl).1
      apply fresh
      simp [asked, early, Request.session]
  · intro opening
    exfalso
    apply fresh
    dsimp only at opening
    simp [asked, opening, Answer.session]

theorem away_matched {h : History} {d : Dialogue} {event : SessionEvent}
    (numbered : Numbered h.view) (allowed : Kept h event) (step : h.view.Step event d)
    (user : h.view.user = .closed ∨ h.view.user = .requesting ∨ h.view.user = .releasing)
    (status : h.view.user ≠ .releasing → h.view.connStatus ≠ .success)
    (closing : h.view.held = true → .closeReq ∈ h.view.requests)
    (silent : h.view.daemon ≠ .answering true) : Matched d := by
  cases step with
  | opens here => exact .away (.inr (.inl rfl)) (by simp) closing silent
  | asks here => exact asks_matched numbered here (status (by simp [here])) closing silent
  | unsent here => cases allowed.1
  | released here => exact .away (.inl rfl) (by simp) closing silent
  | takesOpen here first =>
    refine .away user status ?_ (by simp)
    intro held
    simpa [first] using closing held
  | @connects session success here =>
    cases success with
    | true =>
      have waits := (kept_connect allowed here).2.1
      simp [waits] at user
    | false => exact .away user status (by simpa using closing) (by simp)
  | @replies success here =>
    cases success with
    | true => exact absurd here silent
    | false => exact .away user (by simp [statusOf]) closing (by simp)
  | takesClose here first => exact .away user status (by simp) silent
  | succeeds here _ => simp [here] at user
  | refused here _ => simp [here] at user
  | interrupted here => simp [here] at user
  | closes here => simp [here] at user
  | unclosed here => simp [here] at user
  | rests => exact .away user status closing silent

theorem asking_matched {h : History} {d : Dialogue} {event : SessionEvent}
    (allowed : Kept h event) (step : h.view.Step event d) (user : h.view.user = .connecting)
    (own : (h.view.session, true) ∉ h.view.attempts) (status : h.view.connStatus ≠ .success)
    (closing : h.view.held = true → .closeReq ∈ h.view.requests)
    (silent : h.view.daemon ≠ .answering true)
    (behind : ∀ front back, h.view.requests = front ++ .openReq h.view.session :: back → back = [])
    (taken : h.view.daemon = .opening h.view.session → h.view.requests = []) : Matched d := by
  cases step with
  | succeeds here success => exact absurd success status
  | refused here failed => exact .away (.inl rfl) (fun _ => status) closing silent
  | interrupted here => exact .away (.inl rfl) (by simp) closing silent
  | @takesOpen session rest here first =>
    apply Matched.asking
    · exact user
    · exact own
    · exact status
    · intro held
      simpa [first] using closing held
    · simp
    · intro front back split
      dsimp only at split
      exact behind (.openReq session :: front) back (by rw [first, split]; rfl)
    · intro opening
      dsimp only at opening
      rw [Answer.opening.injEq] at opening
      subst opening
      exact behind [] rest first
  | @connects session success here =>
    cases success with
    | true =>
      obtain ⟨same, _, waits⟩ := kept_connect allowed here
      subst same
      exact .agreed user (by simp) (by simp) (taken here) (.inl ⟨rfl, waits⟩)
    | false =>
      apply Matched.asking
      · exact user
      · simpa using own
      · exact status
      · simpa using closing
      · simp
      · exact behind
      · intro opening
        cases opening
  | @replies success here =>
    cases success with
    | true => exact absurd here silent
    | false =>
      exact .asking user own (by simp [statusOf]) closing (by simp) behind (by simp)
  | @takesClose rest here first =>
    apply Matched.asking
    · exact user
    · exact own
    · exact status
    · simp
    · exact silent
    · intro front back split
      dsimp only at split
      exact behind (.closeReq :: front) back (by rw [first, split]; rfl)
    · intro opening
      dsimp only at opening
      rw [here] at opening
      cases opening
  | opens here => simp [here] at user
  | asks here => simp [here] at user
  | unsent here => simp [here] at user
  | closes here => simp [here] at user
  | unclosed here => simp [here] at user
  | released here => simp [here] at user
  | rests => exact .asking user own status closing silent behind taken

theorem agreed_matched {h : History} {d : Dialogue} {event : SessionEvent}
    (allowed : Kept h event) (step : h.view.Step event d) (user : h.view.user = .connecting)
    (own : (h.view.session, true) ∈ h.view.attempts) (held : h.view.held = true)
    (none : h.view.requests = [])
    (reply : h.view.daemon = .answering true ∧ h.view.connStatus = .waiting ∨
      h.view.daemon = .idle ∧ h.view.connStatus = .success) : Matched d := by
  cases step with
  | succeeds here success =>
    rcases reply with ⟨_, waits⟩ | ⟨idle, _⟩
    · simp [success] at waits
    · exact .opened rfl held none idle
  | refused here failed => simp [failed] at reply
  | interrupted here =>
    have stays := allowed.2
    simp only [abandons, decide_eq_false_iff_not] at stays
    exact absurd own stays
  | takesOpen here first => simp [none] at first
  | takesClose here first => simp [none] at first
  | connects here => simp [here] at reply
  | @replies success here =>
    rcases reply with ⟨answering, _⟩ | ⟨idle, _⟩
    · rw [here] at answering
      cases answering
      exact .agreed user own held none (.inr ⟨rfl, rfl⟩)
    · simp [here] at idle
  | opens here => simp [here] at user
  | asks here => simp [here] at user
  | unsent here => simp [here] at user
  | closes here => simp [here] at user
  | unclosed here => simp [here] at user
  | released here => simp [here] at user
  | rests => exact .agreed user own held none reply

theorem opened_matched {h : History} {d : Dialogue} {event : SessionEvent}
    (allowed : Kept h event) (step : h.view.Step event d) (user : h.view.user = .opened)
    (held : h.view.held = true) (none : h.view.requests = []) (idle : h.view.daemon = .idle) :
    Matched d := by
  cases step with
  | closes here => exact .away (.inr (.inr rfl)) (by simp) (by simp) (by simp [idle])
  | unclosed here => cases allowed.1
  | takesOpen here first => simp [none] at first
  | takesClose here first => simp [none] at first
  | connects here => simp [here] at idle
  | replies here => simp [here] at idle
  | opens here => simp [here] at user
  | asks here => simp [here] at user
  | unsent here => simp [here] at user
  | succeeds here _ => simp [here] at user
  | refused here _ => simp [here] at user
  | interrupted here => simp [here] at user
  | released here => simp [here] at user
  | rests => exact .opened user held none idle

theorem step_matched {h : History} {d : Dialogue} {event : SessionEvent}
    (numbered : Numbered h.view) (matched : Matched h.view) (allowed : Kept h event)
    (step : h.view.Step event d) : Matched d := by
  cases matched with
  | away user status closing silent =>
    exact away_matched numbered allowed step user status closing silent
  | asking user own status closing silent behind taken =>
    exact asking_matched allowed step user own status closing silent behind taken
  | agreed user own held none reply => exact agreed_matched allowed step user own held none reply
  | opened user held none idle => exact opened_matched allowed step user held none idle

theorem run_matched {h : History} (run : Reaches History.step Kept {} h) :
    Numbered h.view ∧ Matched h.view := by
  apply run_view (I := fun d => Numbered d ∧ Matched d) _ run
  · refine ⟨created_numbered, .away (.inl rfl) ?_ ?_ ?_⟩
    · intro _ success
      cases success
    · intro held
      cases held
    · intro answering
      cases answering
  · intro h event d both allowed step
    exact ⟨step_numbered both.1 step, step_matched both.1 both.2 allowed step⟩

/-- At rest write_tx is Some exactly when the device is open. -/
theorem quiescent_agree {h : History} (run : Reaches History.step Kept {} h)
    (quiet : Quiescent h.s) : h.s.writeTx.isSome ↔ openCount h.s.user = 1 := by
  have nothing : h.view.requests = [] := by simp [History.view, quiet.queue]
  cases (run_matched run).2 with
  | away user status closing silent =>
    have closed : h.s.user = .closed := by
      rcases quiet.user with closed | opened
      · exact closed
      · have here : h.view.user = .opened := opened
        simp [here] at user
    have none : ¬ h.s.writeTx.isSome = true := by
      intro held
      have member := closing held
      rw [nothing] at member
      cases member
    simp [closed, openCount, none]
  | asking user own status closing silent behind taken =>
    have here : h.s.user = .connecting := user
    cases quiet.user with
    | inl closed => simp [here] at closed
    | inr opened => simp [here] at opened
  | agreed user own held none reply =>
    have here : h.s.user = .connecting := user
    cases quiet.user with
    | inl closed => simp [here] at closed
    | inr opened => simp [here] at opened
  | opened user held none idle =>
    have here : h.s.user = .opened := user
    have present : h.s.writeTx.isSome = true := held
    simp [here, openCount, present]

/-- The second session of a device whose first open was refused. -/
theorem opened_second_agree :
    ∃ h, execIf History.step Kept {} refusedThenOpened = some h ∧ Quiescent h.s ∧
      (h.s.writeTx.isSome ↔ openCount h.s.user = 1) := by
  have ends : ((execIf History.step Kept {} refusedThenOpened).map fun h =>
      (h.s.flow.queue, h.s.flow.daemon, h.s.user)) = some ([], .select, .opened) := by
    decide +kernel
  obtain ⟨h, run, same⟩ := Option.map_eq_some_iff.mp ends
  simp only [Prod.mk.injEq] at same
  have quiet : Quiescent h.s := ⟨same.1, same.2.1, .inr same.2.2⟩
  exact ⟨h, run, quiet, quiescent_agree (reaches_of_execIf refusedThenOpened run) quiet⟩

def interruptedThenConnected : List SessionEvent :=
  [.ncdOpen, .sendOpenReq true, .interruptOpen, .openReq, .connect true, .connRes]

/- No send fails, and at rest the daemon holds a connection of a device nobody has open. -/
theorem interrupted_leaves_connection :
    ¬ ∀ h, Reaches History.step (fun _ event => allSent event = true) {} h → Quiescent h.s →
      (h.s.writeTx.isSome ↔ openCount h.s.user = 1) := by
  intro always
  have ends : ((execIf History.step (fun _ event => allSent event = true) {}
      interruptedThenConnected).map fun h =>
      (h.s.flow.queue, h.s.flow.daemon, h.s.user, h.s.writeTx)) =
      some ([], .select, .closed, some 0) := by
    decide +kernel
  obtain ⟨h, run, same⟩ := Option.map_eq_some_iff.mp ends
  simp only [Prod.mk.injEq] at same
  have agree := always h (reaches_of_execIf interruptedThenConnected run)
    ⟨same.1, same.2.1, .inl same.2.2.1⟩
  simp [same.2.2, openCount] at agree

end NcdOpenState
