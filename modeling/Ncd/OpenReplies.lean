import Ncd.OpenClose

/- Whose connection attempt an ncd_open reports. A CONN_RES names the minor only, so the
   reply for an earlier OPEN_REQ is taken by the call that waits when it arrives. -/
namespace NcdOpenReplies
open NcdDriver NcdDaemon NcdFlowControl NcdSessions NcdOpenClose LabelledRuns

/-- Every result of ncd_open is what Device::open returned for its own OPEN_REQ. -/
def Honest (h : History) : Prop := ∀ result ∈ h.results, result ∈ h.attempts

instance (h : History) : Decidable (Honest h) := inferInstanceAs (Decidable (∀ _ ∈ _, _))

/-- A CONN_RES that is not for the call which has reset conn_status and not returned yet. -/
def stale (h : History) : SessionEvent → Bool
  | .connRes =>
    (h.s.user = .requesting || h.s.user = .connecting) &&
      h.attempts.getLast?.map Prod.fst ≠ some h.s.session
  | _ => false

def Own (h : History) (event : SessionEvent) : Prop := stale h event = false

instance (h : History) (event : SessionEvent) : Decidable (Own h event) :=
  inferInstanceAs (Decidable (_ = _))

def Request.session : Request → Option Nat
  | .openReq session => some session
  | .closeReq => none

def asked (d : Dialogue) : List Nat :=
  d.attempts.map Prod.fst ++ (Answer.session d.daemon ++ d.requests.filterMap Request.session)

/-- Each call sends one OPEN_REQ, and they are handled in the order of the calls. -/
structure Numbered (d : Dialogue) : Prop where
  increasing : (asked d).Pairwise (· < ·)
  known : ∀ session ∈ asked d, session ≤ d.session
  fresh : d.user = .requesting → ∀ session ∈ asked d, session < d.session

theorem step_asked {d d' : Dialogue} {event : SessionEvent} (step : d.Step event d') :
    asked d' = asked d ∨ asked d' = asked d ++ [d.session] ∧ d.user = .requesting ∧
      d'.user = .connecting ∧ d'.session = d.session := by
  cases step with
  | asks here =>
    refine .inr ⟨?_, here, rfl, rfl⟩
    simp [asked, Request.session]
  | closes here =>
    left
    simp [asked, Request.session]
  | takesOpen here first =>
    left
    simp [asked, here, first, Request.session, Answer.session]
  | connects here =>
    left
    simp [asked, here, Answer.session]
  | replies here =>
    left
    simp [asked, here, Answer.session]
  | takesClose here first =>
    left
    simp only [asked, first]
    rfl
  | _ => exact .inl rfl

theorem step_numbered {d d' : Dialogue} {event : SessionEvent} (numbered : Numbered d)
    (step : d.Step event d') : Numbered d' := by
  have increasing := numbered.increasing
  have known := numbered.known
  have fresh := numbered.fresh
  rcases step_asked step with same | ⟨more, requesting, connecting, session⟩
  · constructor
    · rw [same]
      exact increasing
    · intro k member
      rw [same] at member
      have old := known k member
      cases step with
      | opens here => exact Nat.le_succ_of_le old
      | _ => exact old
    · intro requesting k member
      rw [same] at member
      cases step with
      | opens here => exact Nat.lt_succ_of_le (known k member)
      | asks here => cases requesting
      | unsent here => cases requesting
      | succeeds here status => cases requesting
      | refused here status => cases requesting
      | interrupted here => cases requesting
      | closes here => cases requesting
      | unclosed here => cases requesting
      | released here => cases requesting
      | _ => exact fresh requesting k member
  · constructor
    · rw [more, List.pairwise_append]
      refine ⟨increasing, List.pairwise_singleton _ _, ?_⟩
      intro k member last is
      rw [List.mem_singleton.mp is]
      exact fresh requesting k member
    · intro k member
      rw [more] at member
      rw [session]
      rcases List.mem_append.mp member with old | new
      · exact known k old
      · exact Nat.le_of_eq (List.mem_singleton.mp new)
    · intro again
      rw [connecting] at again
      cases again

theorem own_is_last {d : Dialogue} {k : Nat} {b b' : Bool} (numbered : Numbered d)
    (last : d.attempts.getLast? = some (k, b)) (own : (d.session, b') ∈ d.attempts) :
    k = d.session := by
  obtain ⟨front, split⟩ := List.getLast?_eq_some_iff.mp last
  have known := numbered.known k (by simp [asked, split])
  have increasing := (List.pairwise_append.mp numbered.increasing).1
  rw [split, List.map_append, List.pairwise_append] at increasing
  rw [split] at own
  rcases List.mem_append.mp own with before | here
  · have less := increasing.2.2 d.session (List.mem_map_of_mem (f := Prod.fst) before) k (by simp)
    omega
  · simp only [List.mem_singleton, Prod.mk.injEq] at here
    exact here.1.symm

/-- What holds while every reply is the own one: conn_status speaks of the own attempt. -/
structure Answered (d : Dialogue) : Prop where
  last : ∀ success, d.daemon = .answering success →
    ∃ session, d.attempts.getLast? = some (session, success)
  requesting : d.user = .requesting → d.connStatus = .waiting
  connecting : d.user = .connecting → d.connStatus ≠ .waiting →
    ∃ success, d.connStatus = statusOf success ∧ (d.session, success) ∈ d.attempts
  honest : ∀ result ∈ d.results, result ∈ d.attempts

theorem statusOf_waits (success : Bool) : statusOf success ≠ .waiting := by
  cases success <;> simp [statusOf]

theorem statusOf_injective {success success' : Bool} (same : statusOf success = statusOf success') :
    success = success' := by
  cases success <;> cases success' <;> simp [statusOf] at same ⊢

/-- A result taken from conn_status is the one of the own attempt. -/
theorem finish_honest {d : Dialogue} (success : Bool) (answered : Answered d)
    (here : d.user = .connecting) (status : d.connStatus = statusOf success) :
    ∀ result ∈ d.results ++ [(d.session, success)], result ∈ d.attempts := by
  intro result member
  rcases List.mem_append.mp member with old | new
  · exact answered.honest result old
  · obtain ⟨success', is, own⟩ := answered.connecting here (status ▸ statusOf_waits success)
    rw [status] at is
    rw [List.mem_singleton.mp new, statusOf_injective is]
    exact own

theorem replies_answered {h : History} {success : Bool} (numbered : Numbered h.view)
    (answered : Answered h.view) (allowed : Own h .connRes)
    (here : h.view.daemon = .answering success) :
    Answered { h.view with daemon := .idle, connStatus := statusOf success } := by
  obtain ⟨session, last⟩ := answered.last success here
  have member : (session, success) ∈ h.view.attempts := List.mem_of_getLast? last
  have own : h.view.user = .requesting ∨ h.view.user = .connecting → session = h.view.session := by
    intro waits
    have named : h.attempts.getLast? = some (session, success) := last
    have either : (h.s.user = .requesting || h.s.user = .connecting) = true := by
      simpa [History.view] using waits
    simpa [Own, stale, either, named, History.view] using allowed
  constructor
  · intro success' answering
    cases answering
  · intro requesting
    have early := numbered.fresh requesting session (by
      rw [asked]
      exact List.mem_append_left _ (List.mem_map_of_mem (f := Prod.fst) member))
    have same := own (.inl requesting)
    omega
  · intro connecting _
    exact ⟨success, rfl, own (.inr connecting) ▸ member⟩
  · exact answered.honest

theorem step_answered {h : History} {d : Dialogue} {event : SessionEvent}
    (numbered : Numbered h.view) (answered : Answered h.view) (allowed : Own h event)
    (step : h.view.Step event d) : Answered d := by
  have last := answered.last
  have requesting := answered.requesting
  have connecting := answered.connecting
  have honest := answered.honest
  cases step with
  | opens here =>
    constructor
    · exact last
    · intro _
      rfl
    · intro other
      cases other
    · exact honest
  | asks here =>
    constructor
    · exact last
    · intro other
      cases other
    · intro _ answering
      exact absurd (requesting here) answering
    · exact honest
  | succeeds here status =>
    have honest' := finish_honest true answered here status
    exact ⟨last, by simp, by simp, honest'⟩
  | refused here status =>
    have honest' := finish_honest false answered here status
    exact ⟨last, by simp, by simp, honest'⟩
  | connects here =>
    constructor
    · intro success' answering
      cases answering
      exact ⟨_, List.getLast?_concat⟩
    · exact requesting
    · intro here' answering
      obtain ⟨success, is, own⟩ := connecting here' answering
      exact ⟨success, is, List.mem_append_left _ own⟩
    · intro result member
      exact List.mem_append_left _ (honest result member)
  | replies here => exact replies_answered numbered answered allowed here
  | takesOpen here first => exact ⟨by simp, requesting, connecting, honest⟩
  | unsent here => exact ⟨last, by simp, by simp, honest⟩
  | interrupted here => exact ⟨last, by simp, by simp, honest⟩
  | closes here => exact ⟨last, by simp, by simp, honest⟩
  | unclosed here => exact ⟨last, by simp, by simp, honest⟩
  | released here => exact ⟨last, by simp, by simp, honest⟩
  | _ => exact ⟨last, requesting, connecting, honest⟩

theorem created_numbered : Numbered (History.view {}) :=
  ⟨by simp [asked, History.view, answer, Answer.session],
    by simp [asked, History.view, answer, Answer.session],
    by simp [History.view]⟩

theorem created_answered : Answered (History.view {}) :=
  ⟨by simp [History.view, answer], by simp [History.view], by simp [History.view],
    by simp [History.view]⟩

theorem run_answered {h : History} (run : Reaches History.step Own {} h) :
    Numbered h.view ∧ Answered h.view := by
  apply run_view (I := fun d => Numbered d ∧ Answered d) _ run
    ⟨created_numbered, created_answered⟩
  intro h event d both allowed step
  exact ⟨step_numbered both.1 step, step_answered both.1 both.2 allowed step⟩

theorem finish_misreports {t : History} {success : Bool} (connecting : t.s.user = .connecting)
    (status : t.s.connStatus = statusOf success)
    (foreign : (t.s.session, success) ∉ t.attempts) :
    ∃ u, t.step .finishOpen = some u ∧ ¬ Honest u := by
  have taken : ∃ s, t.s.step .finishOpen = some s := by
    cases success with
    | true => exact ⟨_, move_session (.succeeds connecting status)⟩
    | false => exact ⟨_, move_session (.refused connecting status)⟩
  obtain ⟨s, finishes⟩ := taken
  refine ⟨_, by simp only [History.step, finishes]; rfl, ?_⟩
  intro honest
  have own := honest (t.s.session, success) (by
    cases success <;> simp [concluded, status, statusOf])
  simp only [attempted, List.append_nil] at own
  exact foreign own

theorem request_connects {s : Sessions} (requesting : s.user = .requesting) :
    ∃ t, s.step (.sendOpenReq true) = some t ∧ t.user = .connecting ∧ t.session = s.session ∧
      t.connStatus = s.connStatus :=
  ⟨_, move_session (.asks requesting), rfl, rfl, rfl⟩

/- The stale reply is taken by the next finishOpen, with or without an OPEN_REQ in between. -/
theorem stale_misreports {h h' : History} {event : SessionEvent} (numbered : Numbered h.view)
    (answered : Answered h.view) (bad : stale h event = true) (step : h.step event = some h') :
    ∃ t, Reaches History.step Any h' t ∧ ¬ Honest t := by
  obtain ⟨s, moved, rfl⟩ := Option.map_eq_some_iff.mp step
  cases session_move moved with
  | @replies success here =>
    simp only [stale, Bool.and_eq_true, Bool.or_eq_true, decide_eq_true_eq] at bad
    obtain ⟨waits, other⟩ := bad
    obtain ⟨session, last⟩ := answered.last success (by simp [History.view, here, answer])
    have foreign : (h.s.session, success) ∉ h.attempts := by
      intro own
      have same : session = h.s.session := own_is_last numbered last own
      apply other
      rw [show h.attempts.getLast? = some (session, success) from last, ← same]
      rfl
    rcases waits with requesting | connecting
    · obtain ⟨s, asks, connecting, session', status⟩ := @request_connects
        { h.s with connStatus := statusOf success, flow := { h.s.flow with daemon := .select } }
        requesting
      obtain ⟨u, last, wrong⟩ := @finish_misreports
        { s := s, attempts := h.attempts, results := h.results } success connecting status
        (session' ▸ foreign)
      refine ⟨u, .snoc (.single (e := .sendOpenReq true) trivial ?_) trivial last, wrong⟩
      have same : (if success = true then ConnStatus.success else .failed) = statusOf success := rfl
      simp only [History.step, same, asks, Option.map_some, attempted, concluded, List.append_nil]
    · obtain ⟨u, last, wrong⟩ := @finish_misreports
        { s := { h.s with
            connStatus := statusOf success, flow := { h.s.flow with daemon := .select } }
          attempts := h.attempts ++ attempted h.s .connRes
          results := h.results ++ concluded h.s .connRes } success connecting rfl
        (by simpa only [attempted, List.append_nil] using foreign)
      exact ⟨u, .single trivial last, wrong⟩
  | _ => simp [stale] at bad

/-- While each CONN_RES finds its own call, every ncd_open reports its own attempt, of which
    there is at most one; after any other CONN_RES a call can report a foreign one. -/
theorem opens_report_own {h : History} (run : Reaches History.step Own {} h) :
    (Honest h ∧ (h.attempts.map Prod.fst).Nodup) ∧
      ∀ event h', stale h event = true → h.step event = some h' →
        ∃ t, Reaches History.step Any h' t ∧ ¬ Honest t := by
  obtain ⟨numbered, answered⟩ := run_answered run
  constructor
  · have increasing := (List.pairwise_append.mp numbered.increasing).1
    exact ⟨answered.honest, increasing.imp Nat.ne_of_lt⟩
  · intro event h' bad step
    exact stale_misreports numbered answered bad step

def refusedThenOpened : List SessionEvent :=
  [.ncdOpen, .sendOpenReq true, .openReq, .connect false, .connRes, .finishOpen,
   .ncdOpen, .sendOpenReq true, .openReq, .connect true, .connRes, .finishOpen]

theorem second_open_reports :
    ∃ h, execIf History.step Own {} refusedThenOpened = some h ∧
      h.results = [(1, false), (2, true)] ∧ Honest h := by
  have ends : (execIf History.step Own {} refusedThenOpened).map History.results =
      some [(1, false), (2, true)] := by decide +kernel
  obtain ⟨h, run, results⟩ := Option.map_eq_some_iff.mp ends
  have own := opens_report_own (reaches_of_execIf refusedThenOpened run)
  exact ⟨h, run, results, own.1.1⟩

/-- An open is interrupted, and the next one waits when the reply of the first arrives. -/
def interruptedThenOpened : List SessionEvent :=
  [.ncdOpen, .sendOpenReq true, .interruptOpen, .ncdOpen, .sendOpenReq true,
   .openReq, .connect true, .connRes, .finishOpen]

/- The second call returns 0 before its OPEN_REQ has been handled at all. -/
theorem late_reply_misreports : ¬ ∀ h, Reaches History.step Any {} h → Honest h := by
  intro always
  have ends : (exec History.step {} interruptedThenOpened).map
      (fun h => (h.results, h.attempts)) = some ([(2, true)], [(1, true)]) := by decide +kernel
  obtain ⟨h, run, same⟩ := Option.map_eq_some_iff.mp ends
  obtain ⟨results, attempts⟩ := Prod.mk.inj same
  have own := always h (reaches_of_exec interruptedThenOpened run) (2, true) (by simp [results])
  rw [attempts] at own
  simp at own

end NcdOpenReplies
