import Ncd.Pipeline

/- In which order one device is opened, written and closed, as the main loop sees it. k is
   one session; no ncd_open was interrupted before it was over. -/
namespace NcdLaneOrder
open NcdDaemon NcdFlowControl NcdSessions NcdOpenClose NcdPipeline

/-- The messages that come before the next OPEN_REQ or CLOSE_REQ. -/
def dataBefore : List DriverMsg → List (List UInt8)
  | .data bytes :: msgs => bytes :: dataBefore msgs
  | _ => []

def dataIn : List DriverMsg → List (List UInt8)
  | [] => []
  | .data bytes :: msgs => bytes :: dataIn msgs
  | _ :: msgs => dataIn msgs

def openReqs : List DriverMsg → List Nat
  | [] => []
  | .openReq session :: msgs => session :: openReqs msgs
  | _ :: msgs => openReqs msgs

def isData : DriverMsg → Bool
  | .data _ => true
  | _ => false

def SwitchFree (msgs : List DriverMsg) : Prop := ∀ m ∈ msgs, isData m = true

def Settled (msgs : List DriverMsg) : Prop := dataIn msgs = dataBefore msgs

@[simp] theorem dataIn_append (ms ns : List DriverMsg) :
    dataIn (ms ++ ns) = dataIn ms ++ dataIn ns := by
  induction ms with
  | nil => rfl
  | cons m ms ih => cases m <;> simp [dataIn, ih]

@[simp] theorem openReqs_append (ms ns : List DriverMsg) :
    openReqs (ms ++ ns) = openReqs ms ++ openReqs ns := by
  induction ms with
  | nil => rfl
  | cons m ms ih => cases m <;> simp [openReqs, ih]

theorem dataBefore_switch (ms : List DriverMsg) {m : DriverMsg} (switch : isData m = false) :
    dataBefore (ms ++ [m]) = dataBefore ms := by
  induction ms with
  | nil =>
    cases m with
    | data bytes => cases switch
    | _ => rfl
  | cons n ms ih => cases n <;> simp [dataBefore, ih]

theorem dataBefore_data {ms : List DriverMsg} (free : SwitchFree ms) (bytes : List UInt8) :
    dataBefore (ms ++ [.data bytes]) = dataBefore ms ++ [bytes] := by
  induction ms with
  | nil => rfl
  | cons m ms ih =>
    have rest : SwitchFree ms := fun n member => free n (List.mem_cons_of_mem _ member)
    cases m with
    | data other => simp [dataBefore, ih rest]
    | _ => cases free _ List.mem_cons_self

theorem switchFree_settled {ms : List DriverMsg} (free : SwitchFree ms) : Settled ms := by
  induction ms with
  | nil => rfl
  | cons m ms ih =>
    have rest : SwitchFree ms := fun n member => free n (List.mem_cons_of_mem _ member)
    cases m with
    | data bytes => exact congrArg (bytes :: ·) (ih rest)
    | _ => cases free _ List.mem_cons_self

theorem switchFree_data {ms : List DriverMsg} (free : SwitchFree ms) (bytes : List UInt8) :
    SwitchFree (ms ++ [.data bytes]) := by
  intro m member
  rw [List.mem_append, List.mem_singleton] at member
  rcases member with old | rfl
  · exact free m old
  · rfl

theorem switchFree_openReqs {ms : List DriverMsg} (free : SwitchFree ms) : openReqs ms = [] := by
  induction ms with
  | nil => rfl
  | cons m ms ih =>
    have rest : SwitchFree ms := fun n member => free n (List.mem_cons_of_mem _ member)
    cases m with
    | data bytes => exact ih rest
    | _ => cases free _ List.mem_cons_self

theorem settled_switch {ms : List DriverMsg} (settled : Settled ms) {m : DriverMsg}
    (switch : isData m = false) : Settled (ms ++ [m]) := by
  have none : dataIn [m] = [] := by
    cases m with
    | data bytes => cases switch
    | _ => rfl
  rw [Settled, dataIn_append, none, List.append_nil, dataBefore_switch ms switch]
  exact settled

theorem dataIn_none {ms : List DriverMsg} (none : dataIn ms = []) : dataBefore ms = [] := by
  cases ms with
  | nil => rfl
  | cons m ms =>
    cases m with
    | data bytes => cases none
    | _ => rfl

theorem settled_none {ms : List DriverMsg} (none : dataIn ms = []) : Settled ms :=
  none.trans (dataIn_none none).symm

def sessions (l : Lane) : List Nat := l.actors.map (·.1)

theorem give_keeps (l : Lane) (c : WriteCommand) :
    l.give c = { l with actors := (l.give c).actors } := by
  unfold Lane.give
  split <;> rfl

@[simp] theorem give_sessions (l : Lane) (c : WriteCommand) : sessions (l.give c) = sessions l := by
  unfold Lane.give
  split
  · refine List.ext_getElem? fun j => ?_
    simp only [sessions, List.getElem?_map, List.getElem?_modify, Functor.map, Option.map_map]
    refine congrArg (Option.map · l.actors[j]?) (funext fun actor => ?_)
    simp only [Function.comp]
    split <;> rfl
  · rfl

def numbers (l : Lane) : List Nat := sessions l ++ l.daemon.session ++ openReqs l.msgs

structure Numbered (l : Lane) : Prop where
  once : (numbers l).Nodup
  past : ∀ j ∈ numbers l, j ≤ l.session
  fresh : l.user = .requesting → l.session ∉ numbers l

/-- The main loop has the write_tx of the connection of the last ncd_open. -/
def Current (l : Lane) : Prop :=
  ∃ i, l.writeTx = some i ∧ (sessions l)[i]? = some l.session

/-- How far an OPEN_REQ has come whose ncd_open waits for the answer. -/
inductive Connecting (l : Lane) : Prop where
  | asked {before : List DriverMsg} (waiting : l.connStatus = .waiting) (idle : l.daemon = .idle)
      (queued : l.msgs = before ++ [.openReq l.session]) (only : openReqs before = [])
  | opening (waiting : l.connStatus = .waiting) (here : l.daemon = .opening l.session)
      (empty : l.msgs = [])
  | answering {success : Bool} (here : l.daemon = .answering success) (empty : l.msgs = [])
      (waiting : l.connStatus = .waiting) (current : success = true → Current l)
  | answered (idle : l.daemon = .idle) (empty : l.msgs = [])
      (current : l.connStatus = .success → Current l)

structure Early (l : Lane) : Prop where
  away : l.user = .closed ∨ l.user = .requesting ∨ l.user = .releasing →
    l.daemon = .idle ∧ openReqs l.msgs = []
  requesting : l.user = .requesting → l.connStatus = .waiting
  connecting : l.user = .connecting → Connecting l
  opened : l.user = .opened → l.daemon = .idle ∧ SwitchFree l.msgs ∧ Current l

/-- What is left of session k once a later ncd_open has begun: if the main loop still has
    the write_tx of its connection, no later ncd_open has succeeded. -/
structure Late (k : Nat) (l : Lane) : Prop where
  asked : k ∉ openReqs l.msgs
  opening : l.daemon ≠ .opening k
  passed : ∀ i, (sessions l)[i]? = some k → l.writeTx = some i →
    l.connStatus ≠ .success ∧ l.user ≠ .opened ∧ l.daemon ≠ .answering true

/-- The messages that wait while the main loop has the write_tx of session k's connection
    are all for it. -/
def Tail (k : Nat) (l : Lane) : Prop :=
  ∀ i, (sessions l)[i]? = some k → l.writeTx = some i →
    Settled l.msgs ∧ ∀ j, l.daemon = .opening j → dataIn l.msgs = []

structure Dealing (k : Nat) (l : Lane) : Prop where
  numbered : Numbered l
  valid : ∀ i, l.writeTx = some i → i < l.actors.length
  early : l.session ≤ k → Early l
  late : k < l.session → Late k l
  tail : Tail k l

variable {k : Nat} {l l' : Lane} {event : SessionEvent}

theorem numbered_kept (numbered : Numbered l) (fewer : (numbers l').Sublist (numbers l))
    (session : l'.session = l.session) (user : l'.user = .requesting → l.user = .requesting) :
    Numbered l' := by
  refine ⟨numbered.once.sublist fewer, fun j member => ?_, fun requesting member => ?_⟩
  · rw [session]
    exact numbered.past j (fewer.subset member)
  · rw [session] at member
    exact numbered.fresh (user requesting) (fewer.subset member)

theorem numbers_give (l : Lane) (c : WriteCommand) : numbers (l.give c) = numbers l := by
  have same := give_sessions l c
  rw [give_keeps] at same ⊢
  simp only [numbers, same]

theorem numbered_step (numbered : Numbered l) (step : l.Step event l') : Numbered l' := by
  cases step with
  | opens here =>
    refine ⟨numbered.once, fun j member => Nat.le_succ_of_le (numbered.past j member), ?_⟩
    exact fun _ member => absurd (numbered.past _ member) (Nat.not_succ_le_self _)
  | asks here =>
    have more : numbers { l with user := .connecting, msgs := l.msgs ++ [.openReq l.session] } =
        numbers l ++ [l.session] := by
      simp [numbers, openReqs, sessions]
    refine ⟨?_, ?_, nofun⟩
    · rw [more]
      refine List.nodup_append.mpr ⟨numbered.once, by simp, ?_⟩
      rintro j member i last rfl
      exact numbered.fresh here (List.mem_singleton.mp last ▸ member)
    · intro j member
      rw [more, List.mem_append, List.mem_singleton] at member
      rcases member with old | rfl
      · exact numbered.past j old
      · exact Nat.le_refl _
  | takesOpen here first =>
    refine numbered_kept numbered ?_ rfl id
    simp [numbers, sessions, here, first, Answer.session, openReqs]
  | connects here =>
    refine numbered_kept numbered ?_ rfl id
    simp [numbers, sessions, here, Answer.session]
  | misses here =>
    refine numbered_kept numbered ?_ rfl id
    simp [numbers, sessions, here, Answer.session]
  | replies here =>
    refine numbered_kept numbered ?_ rfl id
    simp [numbers, sessions, here, Answer.session]
  | takesData here first =>
    have same := numbers_give l (.data ‹_›)
    rw [give_keeps] at same ⊢
    refine numbered_kept numbered ?_ rfl id
    rw [← same]
    simp [numbers, sessions, first, openReqs]
  | takesClose here first =>
    have same := numbers_give l .close
    rw [give_keeps] at same ⊢
    refine numbered_kept numbered ?_ rfl id
    rw [← same]
    simp [numbers, sessions, first, openReqs]
  | writes here =>
    refine numbered_kept numbered ?_ rfl id
    simp [numbers, sessions, openReqs]
  | closes here =>
    refine numbered_kept numbered ?_ rfl nofun
    simp [numbers, sessions, openReqs]
  | pauses =>
    have same := numbers_give l .pauseRead
    rw [give_keeps] at same ⊢
    exact numbered_kept numbered (by rw [same]) rfl id
  | resumes =>
    have same := numbers_give l .resumeRead
    rw [give_keeps] at same ⊢
    exact numbered_kept numbered (by rw [same]) rfl id
  | rests => exact numbered
  | interrupted here => exact numbered_kept numbered (List.Sublist.refl _) rfl nofun
  | released here => exact numbered_kept numbered (List.Sublist.refl _) rfl nofun
  | unsent here => exact numbered_kept numbered (List.Sublist.refl _) rfl nofun
  | succeeds here status => exact numbered_kept numbered (List.Sublist.refl _) rfl nofun
  | refused here status => exact numbered_kept numbered (List.Sublist.refl _) rfl nofun
  | unclosed here => exact numbered_kept numbered (List.Sublist.refl _) rfl nofun

theorem current_of (current : Current l) (session : l'.session = l.session)
    (writeTx : l'.writeTx = l.writeTx) (same : sessions l' = sessions l) : Current l' := by
  rw [Current, session, writeTx, same]
  exact current

/- The OPEN_REQ at the head of the queue is the one whose ncd_open waits. -/
theorem connecting_head {session : Nat} {rest : List DriverMsg} (connecting : Connecting l)
    (idle : l.daemon = .idle) (first : l.msgs = .openReq session :: rest) :
    l.connStatus = .waiting ∧ session = l.session ∧ rest = [] := by
  cases connecting with
  | opening waiting here empty =>
    rw [here] at idle
    cases idle
  | answering here empty waiting current =>
    rw [here] at idle
    cases idle
  | answered _ empty current =>
    rw [empty] at first
    cases first
  | @asked before waiting _ queued only =>
    rw [queued] at first
    cases before with
    | nil =>
      cases first
      exact ⟨waiting, rfl, rfl⟩
    | cons m before =>
      obtain ⟨rfl, _⟩ := List.cons.inj first
      cases only

/- Once the result is there, the daemon is idle and the queue empty. -/
theorem connecting_known (connecting : Connecting l) (known : l.connStatus ≠ .waiting) :
    l.daemon = .idle ∧ l.msgs = [] ∧ (l.connStatus = .success → Current l) := by
  cases connecting with
  | asked waiting _ _ _ => exact absurd waiting known
  | opening waiting _ _ => exact absurd waiting known
  | answering _ _ waiting _ => exact absurd waiting known
  | answered idle empty current => exact ⟨idle, empty, current⟩

theorem connecting_opening (connecting : Connecting l) {session : Nat}
    (here : l.daemon = .opening session) :
    session = l.session ∧ l.msgs = [] ∧ l.connStatus = .waiting := by
  cases connecting with
  | asked _ idle _ _ =>
    rw [idle] at here
    cases here
  | opening waiting opening empty =>
    rw [opening] at here
    cases here
    exact ⟨rfl, empty, waiting⟩
  | answering answering _ _ _ =>
    rw [answering] at here
    cases here
  | answered idle _ _ =>
    rw [idle] at here
    cases here

theorem connecting_answering (connecting : Connecting l) {success : Bool}
    (here : l.daemon = .answering success) :
    l.msgs = [] ∧ (success = true → Current l) := by
  cases connecting with
  | asked _ idle _ _ =>
    rw [idle] at here
    cases here
  | opening _ opening _ =>
    rw [opening] at here
    cases here
  | answering answering empty _ current =>
    rw [answering] at here
    cases here
    exact ⟨empty, current⟩
  | answered idle _ _ =>
    rw [idle] at here
    cases here

/- The daemon is busy only with the open that the process waits for. -/
theorem early_busy (early : Early l) (busy : l.daemon ≠ .idle) :
    l.user = .connecting ∧ Connecting l := by
  cases user : l.user with
  | connecting => exact ⟨rfl, early.connecting user⟩
  | opened => exact absurd (early.opened user).1 busy
  | _ => exact absurd (early.away (by simp [user])).1 busy

/- Another message is taken from the head of the queue. -/
theorem connecting_tail {m : DriverMsg} {rest : List DriverMsg} (connecting : Connecting l)
    (idle : l.daemon = .idle) (first : l.msgs = m :: rest) (other : ∀ j, m ≠ .openReq j)
    (status : l'.connStatus = l.connStatus) (session : l'.session = l.session)
    (msgs : l'.msgs = rest) (daemon : l'.daemon = l.daemon) : Connecting l' := by
  cases connecting with
  | opening waiting here empty =>
    rw [here] at idle
    cases idle
  | answering here empty waiting current =>
    rw [here] at idle
    cases idle
  | answered _ empty current =>
    rw [empty] at first
    cases first
  | @asked before waiting _ queued only =>
    rw [queued] at first
    cases before with
    | nil =>
      cases first
      exact absurd rfl (other _)
    | cons n before =>
      obtain ⟨rfl, rest'⟩ := List.cons.inj first
      refine @Connecting.asked l' before (status.trans waiting) (daemon.trans idle) ?_ ?_
      · rw [msgs, ← rest', session]
        rfl
      · cases n with
        | openReq j => exact absurd rfl (other j)
        | _ => exact only

theorem connecting_same (connecting : Connecting l) (status : l'.connStatus = l.connStatus)
    (session : l'.session = l.session) (msgs : l'.msgs = l.msgs) (daemon : l'.daemon = l.daemon)
    (writeTx : l'.writeTx = l.writeTx) (same : sessions l' = sessions l) : Connecting l' := by
  cases connecting with
  | asked waiting idle queued only =>
    exact .asked (status.trans waiting) (daemon.trans idle) (by rw [msgs, queued, session]) only
  | opening waiting here empty =>
    exact .opening (status.trans waiting) (by rw [daemon, here, session]) (msgs.trans empty)
  | answering here empty waiting current =>
    exact .answering (daemon.trans here) (msgs.trans empty) (status.trans waiting)
      fun is => current_of (current is) session writeTx same
  | answered idle empty current =>
    exact .answered (daemon.trans idle) (msgs.trans empty)
      fun is => current_of (current (status ▸ is)) session writeTx same

theorem early_same (early : Early l) (user : l'.user = l.user)
    (status : l'.connStatus = l.connStatus) (session : l'.session = l.session)
    (msgs : l'.msgs = l.msgs) (daemon : l'.daemon = l.daemon) (writeTx : l'.writeTx = l.writeTx)
    (same : sessions l' = sessions l) : Early l' := by
  refine ⟨?_, ?_, ?_, ?_⟩
  · rw [user, daemon, msgs]
    exact early.away
  · rw [user, status]
    exact early.requesting
  · rw [user]
    intro here
    exact connecting_same (early.connecting here) status session msgs daemon writeTx same
  · rw [user, daemon, msgs]
    exact fun here => ⟨(early.opened here).1, (early.opened here).2.1,
      current_of (early.opened here).2.2 session writeTx same⟩

/- The daemon is idle only when the process is not inside the open it serves. -/
theorem early_step (early : Early l) (signal : event ≠ .interruptOpen)
    (step : l.Step event l') : Early l' := by
  obtain ⟨away, requesting, connecting, opened⟩ := early
  cases step with
  | opens here =>
    obtain ⟨idle, none⟩ := away (.inl here)
    exact ⟨fun _ => ⟨idle, none⟩, fun _ => rfl, nofun, nofun⟩
  | asks here =>
    obtain ⟨idle, none⟩ := away (.inr (.inl here))
    exact ⟨by simp, nofun, fun _ => .asked (requesting here) idle rfl none, nofun⟩
  | unsent here =>
    obtain ⟨idle, none⟩ := away (.inr (.inl here))
    exact ⟨fun _ => ⟨idle, none⟩, nofun, nofun, nofun⟩
  | succeeds here status =>
    obtain ⟨idle, empty, current⟩ := connecting_known (connecting here) (by simp [status])
    refine ⟨by simp, nofun, nofun, fun _ => ⟨idle, ?_, current status⟩⟩
    dsimp only
    rw [empty]
    exact fun m member => absurd member List.not_mem_nil
  | refused here status =>
    obtain ⟨idle, empty, _⟩ := connecting_known (connecting here) (by simp [status])
    refine ⟨fun _ => ⟨idle, ?_⟩, nofun, nofun, nofun⟩
    dsimp only
    rw [empty]
    rfl
  | interrupted here => exact absurd rfl signal
  | writes here =>
    obtain ⟨idle, free, current⟩ := opened here
    refine ⟨by simp [here], by simp [here], by simp [here], fun _ => ⟨idle, ?_, current⟩⟩
    exact switchFree_data free _
  | closes here =>
    obtain ⟨idle, free, current⟩ := opened here
    refine ⟨fun _ => ⟨idle, ?_⟩, nofun, nofun, nofun⟩
    dsimp only
    rw [openReqs_append, switchFree_openReqs free]
    rfl
  | unclosed here =>
    obtain ⟨idle, free, current⟩ := opened here
    exact ⟨fun _ => ⟨idle, switchFree_openReqs free⟩, nofun, nofun, nofun⟩
  | released here =>
    obtain ⟨idle, none⟩ := away (.inr (.inr here))
    exact ⟨fun _ => ⟨idle, none⟩, nofun, nofun, nofun⟩
  | @takesOpen session rest idle first =>
    cases user : l.user with
    | connecting =>
      obtain ⟨waiting, rfl, rfl⟩ := connecting_head (connecting user) idle first
      refine ⟨by simp, by simp, fun _ => .opening waiting rfl rfl, by simp⟩
    | opened =>
      obtain ⟨_, free, _⟩ := opened user
      rw [first] at free
      cases free _ List.mem_cons_self
    | _ =>
      have none := (away (by simp [user])).2
      rw [first] at none
      cases none
  | @connects session here =>
    obtain ⟨user, serving⟩ :=
      early_busy ⟨away, requesting, connecting, opened⟩ (by simp [here])
    obtain ⟨rfl, empty, waiting⟩ := connecting_opening serving here
    refine ⟨by simp [user], by simp [user], fun _ => .answering rfl empty waiting fun _ => ?_,
      by simp [user]⟩
    exact ⟨l.actors.length, rfl, by simp [sessions]⟩
  | @misses session here =>
    obtain ⟨user, serving⟩ :=
      early_busy ⟨away, requesting, connecting, opened⟩ (by simp [here])
    obtain ⟨_, empty, waiting⟩ := connecting_opening serving here
    exact ⟨by simp [user], by simp [user], fun _ => .answering rfl empty waiting nofun,
      by simp [user]⟩
  | @replies success here =>
    obtain ⟨user, serving⟩ :=
      early_busy ⟨away, requesting, connecting, opened⟩ (by simp [here])
    obtain ⟨empty, current⟩ := connecting_answering serving here
    refine ⟨by simp [user], by simp [user], fun _ => .answered rfl empty ?_, by simp [user]⟩
    intro is
    refine current ?_
    cases success with
    | true => rfl
    | false => cases is
  | @takesData bytes rest here first =>
    have same := give_sessions l (.data bytes)
    rw [give_keeps] at same ⊢
    refine ⟨?_, requesting, ?_, ?_⟩
    · intro out
      obtain ⟨idle, none⟩ := away out
      rw [first] at none
      exact ⟨idle, none⟩
    · exact fun user => connecting_tail (connecting user) here first (by simp) rfl rfl rfl rfl
    · intro user
      obtain ⟨idle, free, current⟩ := opened user
      rw [first] at free
      exact ⟨idle, fun m member => free m (List.mem_cons_of_mem _ member),
        current_of current rfl rfl same⟩
  | @takesClose rest here first =>
    rw [give_keeps]
    refine ⟨?_, requesting, ?_, ?_⟩
    · intro out
      obtain ⟨idle, none⟩ := away out
      rw [first] at none
      exact ⟨idle, none⟩
    · exact fun user => connecting_tail (connecting user) here first (by simp) rfl rfl rfl rfl
    · intro user
      obtain ⟨_, free, _⟩ := opened user
      rw [first] at free
      cases free _ List.mem_cons_self
  | pauses =>
    have same := give_sessions l .pauseRead
    rw [give_keeps] at same ⊢
    exact early_same ⟨away, requesting, connecting, opened⟩ rfl rfl rfl rfl rfl rfl same
  | resumes =>
    have same := give_sessions l .resumeRead
    rw [give_keeps] at same ⊢
    exact early_same ⟨away, requesting, connecting, opened⟩ rfl rfl rfl rfl rfl rfl same
  | rests => exact ⟨away, requesting, connecting, opened⟩

theorem late_give (late : Late k l) (c : WriteCommand) : Late k (l.give c) := by
  have same := give_sessions l c
  rw [give_keeps] at same ⊢
  refine ⟨late.asked, late.opening, fun i here => ?_⟩
  rw [same] at here
  exact late.passed i here

/- A later OPEN_REQ either brings its own write_tx or is answered with a failure. -/
theorem late_step (late : Late k l) (past : k < l.session) (step : l.Step event l') :
    Late k l' := by
  obtain ⟨asked, opening, passed⟩ := late
  cases step with
  | opens here => exact ⟨asked, opening, fun i at' tx => ⟨nofun, nofun, (passed i at' tx).2.2⟩⟩
  | asks here =>
    refine ⟨?_, opening, fun i at' tx => ⟨(passed i at' tx).1, nofun, (passed i at' tx).2.2⟩⟩
    rw [openReqs_append, List.mem_append, not_or]
    refine ⟨asked, fun member => ?_⟩
    rw [openReqs, openReqs, List.mem_singleton] at member
    omega
  | unsent here =>
    exact ⟨asked, opening, fun i at' tx => ⟨(passed i at' tx).1, nofun, (passed i at' tx).2.2⟩⟩
  | succeeds here status =>
    exact ⟨asked, opening, fun i at' tx => absurd status (passed i at' tx).1⟩
  | refused here status =>
    exact ⟨asked, opening, fun i at' tx => ⟨(passed i at' tx).1, nofun, (passed i at' tx).2.2⟩⟩
  | interrupted here =>
    exact ⟨asked, opening, fun i at' tx => ⟨nofun, nofun, (passed i at' tx).2.2⟩⟩
  | writes here => exact ⟨by simpa [openReqs] using asked, opening, passed⟩
  | closes here =>
    refine ⟨by simpa [openReqs] using asked, opening, fun i at' tx => ?_⟩
    exact ⟨(passed i at' tx).1, nofun, (passed i at' tx).2.2⟩
  | unclosed here =>
    exact ⟨asked, opening, fun i at' tx => ⟨(passed i at' tx).1, nofun, (passed i at' tx).2.2⟩⟩
  | released here =>
    exact ⟨asked, opening, fun i at' tx => ⟨nofun, nofun, (passed i at' tx).2.2⟩⟩
  | @takesOpen session rest idle first =>
    rw [first, openReqs, List.mem_cons, not_or] at asked
    refine ⟨asked.2, fun here => asked.1 (Answer.opening.inj here).symm, fun i at' tx => ?_⟩
    exact ⟨(passed i at' tx).1, (passed i at' tx).2.1, nofun⟩
  | @connects session here =>
    refine ⟨asked, nofun, fun i at' tx => ?_⟩
    obtain rfl : l.actors.length = i := Option.some.inj tx
    have last : session = k := by simpa [sessions] using at'
    exact absurd (last ▸ here) opening
  | misses here =>
    refine ⟨asked, nofun, fun i at' tx => ?_⟩
    exact ⟨(passed i at' tx).1, (passed i at' tx).2.1, nofun⟩
  | @replies success here =>
    refine ⟨asked, nofun, fun i at' tx => ?_⟩
    obtain ⟨_, user, failed⟩ := passed i at' tx
    refine ⟨?_, user, nofun⟩
    cases success with
    | true => exact absurd here failed
    | false => exact nofun
  | @takesData bytes rest here first =>
    obtain ⟨_, given, still⟩ := late_give ⟨asked, opening, passed⟩ (.data bytes)
    rw [first] at asked
    exact ⟨asked, given, still⟩
  | @takesClose rest here first =>
    rw [give_keeps]
    rw [first] at asked
    exact ⟨asked, opening, nofun⟩
  | pauses => exact late_give ⟨asked, opening, passed⟩ _
  | resumes => exact late_give ⟨asked, opening, passed⟩ _
  | rests => exact ⟨asked, opening, passed⟩

/- The next ncd_open finds the daemon idle and no OPEN_REQ. -/
theorem late_opens (early : Early l) (last : l.user = .closed) :
    Late k { l with user := .requesting, connStatus := .waiting, session := l.session + 1 } := by
  obtain ⟨idle, none⟩ := early.away (.inl last)
  refine ⟨?_, ?_, fun i at' tx => ⟨nofun, nofun, ?_⟩⟩ <;> simp [idle, none]

theorem valid_give (valid : ∀ i, l.writeTx = some i → i < l.actors.length) (c : WriteCommand) :
    ∀ i, (l.give c).writeTx = some i → i < (l.give c).actors.length := by
  unfold Lane.give
  split
  · simpa using valid
  · exact valid

theorem valid_step (valid : ∀ i, l.writeTx = some i → i < l.actors.length)
    (step : l.Step event l') : ∀ i, l'.writeTx = some i → i < l'.actors.length := by
  cases step with
  | connects here => simp
  | takesData here first => exact valid_give valid _
  | takesClose here first => exact nofun
  | pauses => exact valid_give valid _
  | resumes => exact valid_give valid _
  | _ => exact valid

theorem tail_give (tail : Tail k l) (c : WriteCommand) : Tail k (l.give c) := by
  have same := give_sessions l c
  rw [give_keeps] at same ⊢
  intro i here
  rw [same] at here
  exact tail i here

/- Device::open of session k leaves no message behind in the queue. -/
theorem opening_empty (early : Early l) {session : Nat} (here : l.daemon = .opening session) :
    l.msgs = [] := by
  obtain ⟨_, serving⟩ := early_busy early (by simp [here])
  exact (connecting_opening serving here).2.1

theorem tail_step (dealing : Dealing k l) (step : l.Step event l') : Tail k l' := by
  have tail := dealing.tail
  cases step with
  | asks here =>
    intro i at' tx
    obtain ⟨settled, opening⟩ := tail i at' tx
    refine ⟨settled_switch settled rfl, fun j daemon => ?_⟩
    simp [opening j daemon, dataIn]
  | closes here =>
    intro i at' tx
    obtain ⟨settled, opening⟩ := tail i at' tx
    refine ⟨settled_switch settled rfl, fun j daemon => ?_⟩
    simp [opening j daemon, dataIn]
  | writes here =>
    intro i at' tx
    by_cases past : k < l.session
    · exact absurd here ((dealing.late past).passed i at' tx).2.1
    · obtain ⟨idle, free, _⟩ := (dealing.early (by omega)).opened here
      refine ⟨switchFree_settled (switchFree_data free _), fun j daemon => ?_⟩
      rw [idle] at daemon
      cases daemon
  | takesOpen here first =>
    intro i at' tx
    obtain ⟨settled, _⟩ := tail i at' tx
    rw [first] at settled
    exact ⟨settled_none settled, fun _ _ => settled⟩
  | @connects session here =>
    intro i at' tx
    obtain rfl : l.actors.length = i := Option.some.inj tx
    have last : session = k := by simpa [sessions] using at'
    subst last
    by_cases past : session < l.session
    · exact absurd here (dealing.late past).opening
    · have empty := opening_empty (dealing.early (by omega)) here
      dsimp only
      rw [empty]
      exact ⟨rfl, nofun⟩
  | misses here => exact fun i at' tx => ⟨(tail i at' tx).1, nofun⟩
  | replies here => exact fun i at' tx => ⟨(tail i at' tx).1, nofun⟩
  | takesData here first =>
    intro i at' tx
    obtain ⟨settled, _⟩ := tail_give tail _ i at' tx
    rw [give_keeps] at settled ⊢
    dsimp only at settled
    rw [first] at settled
    refine ⟨(List.cons.inj settled).2, fun j daemon => ?_⟩
    rw [here] at daemon
    cases daemon
  | takesClose here first => exact fun i at' => nofun
  | pauses => exact tail_give tail _
  | resumes => exact tail_give tail _
  | _ => exact tail

/- Session k is early until the next ncd_open begins. -/
theorem dealing_step (dealing : Dealing k l) (signal : event = .interruptOpen → k < l.session)
    (step : l.Step event l') : Dealing k l' := by
  refine ⟨numbered_step dealing.numbered step, valid_step dealing.valid step, ?_, ?_,
    tail_step dealing step⟩
  · intro now
    have before : l.session ≤ k := by
      cases step with
      | opens here => exact Nat.le_of_succ_le now
      | takesData here first => rwa [give_keeps] at now
      | takesClose here first => rwa [give_keeps] at now
      | pauses => rwa [give_keeps] at now
      | resumes => rwa [give_keeps] at now
      | _ => exact now
    refine early_step (dealing.early before) (fun is => ?_) step
    have := signal is
    omega
  · intro now
    by_cases past : k < l.session
    · exact late_step (dealing.late past) past step
    · have early := dealing.early (by omega)
      cases step with
      | opens here => exact late_opens early here
      | takesData here first =>
        rw [give_keeps] at now
        exact absurd now past
      | takesClose here first =>
        rw [give_keeps] at now
        exact absurd now past
      | pauses =>
        rw [give_keeps] at now
        exact absurd now past
      | resumes =>
        rw [give_keeps] at now
        exact absurd now past
      | _ => exact absurd now past

/- The commands of an actor are not looked at. -/
theorem dealing_commands (dealing : Dealing k l) {actors : List (Nat × List WriteCommand)}
    (same : actors.map (·.1) = l.actors.map (·.1)) : Dealing k { l with actors := actors } := by
  have numbers' : numbers { l with actors := actors } = numbers l := by
    simp only [numbers, sessions, same]
  have length : actors.length = l.actors.length := by simpa using congrArg List.length same
  refine ⟨⟨?_, ?_, ?_⟩, ?_, ?_, ?_, ?_⟩
  · rw [numbers']
    exact dealing.numbered.once
  · rw [numbers']
    exact dealing.numbered.past
  · rw [numbers']
    exact dealing.numbered.fresh
  · dsimp only
    rw [length]
    exact dealing.valid
  · exact fun now => early_same (dealing.early now) rfl rfl rfl rfl rfl rfl same
  · intro now
    obtain ⟨asked, opening, passed⟩ := dealing.late now
    refine ⟨asked, opening, fun i at' => passed i ?_⟩
    rwa [sessions, same] at at'
  · intro i at'
    rw [sessions, same] at at'
    exact dealing.tail i at'

end NcdLaneOrder
