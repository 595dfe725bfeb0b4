import Ncd.Registry

/- The driver and the receive buffer of the registered daemon's socket, which stays bound.
   nlmsg_unicast fails when the buffer is full; send_to_daemon takes that for the death of
   the daemon. -/
namespace NcdMailbox
open NcdDriver NcdSessions NcdRegistry LabelledRuns

/-- unread: what has been delivered to the socket and not received yet. -/
structure Post where
  driver : Driver
  unread : List Sent := []

inductive PostEvent where
  | driver (event : Event)
  | receive
  deriving DecidableEq, Repr

/-- What nlmsg_unicast and the allocations before it answer, if the step sends. -/
def outcomeOf : Event → Option SendOutcome
  | .data _ _ _ _ outcome => some outcome
  | .sendOpenReq _ outcome => some outcome
  | .ncdWrite _ _ outcome => some outcome
  | .ncdRead _ _ outcome => some outcome
  | .sendCloseReq _ outcome => some outcome
  | _ => none

def isRegister : Event → Bool
  | .register _ => true
  | _ => false

/-- The socket is bound, so only a full receive buffer makes nlmsg_unicast fail. -/
def answers (full : List Sent → Bool) (unread : List Sent) (event : Event) : Bool :=
  match outcomeOf event with
  | some .sent => !full unread
  | some .undelivered => full unread
  | _ => true

def Post.step (full : List Sent → Bool) (s : Post) : PostEvent → Option Post
  | .driver event =>
    if isRegister event then none
    else if answers full s.unread event then
      (s.driver.step event).map fun driver =>
        { driver := driver, unread := s.unread ++ driver.sent.drop s.driver.sent.length }
    else none
  | .receive =>
    match s.unread with
    | _ :: rest => some { s with unread := rest }
    | [] => none

def registered (d : Driver) (pid : Nat) : Post := { driver := d.register pid }

def Driver.sends (d : Driver) : Event → Bool
  | .data pid minor payload memory _ =>
    match d.known minor with
    | some dev => pid = d.daemonPid && (recvData dev.buffers payload memory).2.shouldPause
    | none => false
  | .sendOpenReq _ _ => true
  | .ncdWrite _ bytes _ => bytes ≠ []
  | .ncdRead i count _ =>
    match d.proc i .opened with
    | some (_, dev) =>
      decide (dev.buffers.dataFifo = []) || (ncdReadLocked dev.buffers count).2.2
    | none => false
  | .sendCloseReq _ _ => true
  | _ => false

/-- A step that sends finds room in the receive buffer, or no memory for the message. -/
def Room (full : List Sent → Bool) (s : Post) : PostEvent → Prop
  | .driver event => Driver.sends s.driver event = true →
    full s.unread = false ∨ outcomeOf event = some .noMemory
  | .receive => True

instance (full : List Sent → Bool) (s : Post) (event : PostEvent) :
    Decidable (Room full s event) := by
  cases event with
  | driver event => exact inferInstanceAs (Decidable (_ → _ ∨ _))
  | receive => exact instDecidableTrue

theorem send_pid (d : Driver) (minor : Nat) (message : Message) {outcome : SendOutcome}
    (registered : d.daemonPid ≠ 0) : (d.sendToDaemon minor message outcome).1.daemonPid =
      if outcome = .undelivered then 0 else d.daemonPid := by
  unfold Driver.sendToDaemon
  rw [if_neg registered]
  cases outcome <;> rfl

theorem createDev_pid (d : Driver) (pid minor : Nat) (name : List UInt8)
    (outcome : CreateOutcome) : (d.createDev pid minor name outcome).daemonPid = d.daemonPid := by
  unfold Driver.createDev
  split
  · split
    · rfl
    · split <;> rfl
  · rfl

theorem destroyDev_pid (d : Driver) (pid minor : Nat) :
    (d.destroyDev pid minor).daemonPid = d.daemonPid := by
  unfold Driver.destroyDev
  split
  · split <;> rfl
  · rfl

theorem connRes_pid (d : Driver) (pid minor : Nat) (success : Bool) :
    (d.connRes pid minor success).daemonPid = d.daemonPid := by
  unfold Driver.connRes
  split
  · split <;> rfl
  · rfl

theorem data_pid {d : Driver} (live : d.daemonPid ≠ 0) (pid minor : Nat) (payload : List UInt8)
    (memory : Bool) (outcome : SendOutcome) :
    (d.data pid minor payload memory outcome).daemonPid =
      if Driver.sends d (.data pid minor payload memory outcome) = true ∧ outcome = .undelivered
      then 0 else d.daemonPid := by
  unfold Driver.data
  by_cases ours : pid = d.daemonPid
  · rw [if_pos ours]
    cases known : d.known minor with
    | none => simp [Driver.sends, known]
    | some dev =>
      simp only [Driver.sends, known, ours, decide_true, Bool.true_and]
      split
      · rename_i pauses
        rw [send_pid (d.setDevice minor _) _ _ live]
        simp [pauses]
      · rename_i quiet
        simp [quiet]
  · rw [if_neg ours]
    cases known : d.known minor with
    | none => simp [Driver.sends, known]
    | some dev => simp [Driver.sends, known, ours]

/-- daemon_pid after a step: it is lost in a send that fails, and nowhere else. -/
theorem step_pid {d d' : Driver} {event : Event} (live : d.daemonPid ≠ 0)
    (other : isRegister event = false) (step : d.step event = some d') :
    d'.daemonPid = if Driver.sends d event = true ∧ outcomeOf event = some .undelivered then 0
      else d.daemonPid := by
  cases event with
  | register pid => cases other
  | createDev pid minor name outcome =>
    simp only [Driver.step, Option.ite_none_left_eq_some, Option.some.injEq] at step
    rw [← step.2, createDev_pid]
    simp [Driver.sends]
  | destroyDev pid minor =>
    simp only [Driver.step, Option.ite_none_left_eq_some, Option.some.injEq] at step
    rw [← step.2, destroyDev_pid]
    simp [Driver.sends]
  | connRes pid minor success =>
    simp only [Driver.step, Option.ite_none_left_eq_some, Option.some.injEq] at step
    rw [← step.2, connRes_pid]
    simp [Driver.sends]
  | data pid minor payload memory outcome =>
    simp only [Driver.step, Option.ite_none_left_eq_some, Option.some.injEq] at step
    rw [← step.2, data_pid live]
    simp [outcomeOf]
  | lookup minor =>
    simp only [Driver.step] at step
    split at step
    · cases step
      simp [Driver.sends]
    · cases step
  | ncdOpen i =>
    simp only [Driver.step, Driver.ncdOpen, Option.map_eq_some_iff] at step
    obtain ⟨⟨minor, dev⟩, here, rfl⟩ := step
    simp only [Driver.sends]
    split <;> simp
  | sendOpenReq i outcome =>
    simp only [Driver.step, Driver.sendOpenReq, Option.map_eq_some_iff] at step
    obtain ⟨⟨minor, dev⟩, here, rfl⟩ := step
    simp only [Driver.sends, outcomeOf, Option.some.injEq, true_and]
    split <;> exact send_pid d minor .openReq live
  | finishOpen i =>
    simp only [Driver.step, Driver.finishOpen, Option.bind_eq_some_iff] at step
    obtain ⟨⟨minor, dev⟩, here, step⟩ := step
    split at step <;> cases step <;> simp [Driver.sends]
  | interruptOpen i =>
    simp only [Driver.step, Driver.interruptOpen, Option.map_eq_some_iff] at step
    obtain ⟨⟨minor, dev⟩, here, rfl⟩ := step
    simp [Driver.sends]
  | ncdWrite i bytes outcome =>
    simp only [Driver.step, Driver.ncdWrite, Option.map_eq_some_iff] at step
    obtain ⟨⟨minor, dev⟩, here, rfl⟩ := step
    simp only [Driver.sends, outcomeOf, Option.some.injEq]
    split
    · rename_i empty
      simp [empty]
    · rename_i nonempty
      rw [send_pid d minor _ live]
      simp [nonempty]
  | ncdRead i count outcome =>
    simp only [Driver.step, Driver.ncdRead, Option.map_eq_some_iff] at step
    obtain ⟨⟨minor, dev⟩, here, rfl⟩ := step
    simp only [Driver.sends, here, outcomeOf, Option.some.injEq]
    split
    · rename_i empty
      rw [send_pid d minor _ live]
      simp [empty]
    · rename_i nonempty
      split
      · rename_i resumes
        rw [send_pid (d.setDevice minor _) _ _ live]
        simp [resumes]
      · rename_i quiet
        simp [nonempty, quiet]
  | sendCloseReq i outcome =>
    simp only [Driver.step, Driver.sendCloseReq, Option.map_eq_some_iff] at step
    obtain ⟨⟨minor, dev⟩, here, rfl⟩ := step
    simp only [Driver.sends, outcomeOf, Option.some.injEq, true_and, setPc_pid]
    exact send_pid d minor .closeReq live
  | ncdRelease i =>
    simp only [Driver.step, Driver.ncdRelease, Option.map_eq_some_iff] at step
    obtain ⟨⟨minor, dev⟩, here, rfl⟩ := step
    simp [Driver.sends]

theorem silent_without_outcome {d : Driver} {event : Event} (none_ : outcomeOf event = none) :
    Driver.sends d event = false := by
  cases event <;> first | rfl | simp [outcomeOf] at none_

theorem stays_step {full : List Sent → Bool} {s s' : Post} {event : PostEvent}
    (live : s.driver.daemonPid ≠ 0) (step : s.step full event = some s') :
    s'.driver.daemonPid = s.driver.daemonPid ↔ Room full s event := by
  cases event with
  | receive =>
    simp only [Post.step] at step
    split at step
    · cases step
      simp [Room]
    · cases step
  | driver e =>
    simp only [Post.step, Option.ite_none_left_eq_some, Bool.not_eq_true,
      Option.ite_none_right_eq_some, Option.map_eq_some_iff] at step
    obtain ⟨other, answered, d', moved, rfl⟩ := step
    have pid := step_pid live other moved
    simp only [Room]
    rw [pid]
    cases outcome : outcomeOf e with
    | none =>
      have quiet : Driver.sends s.driver e = false := silent_without_outcome outcome
      simp [quiet]
    | some answer =>
      simp only [answers, outcome] at answered
      cases answer with
      | sent => simp_all
      | noMemory => simp
      | undelivered =>
        simp only [and_true, answered, Option.some.injEq, reduceCtorEq, or_self, imp_false,
          Bool.true_eq_false, Bool.not_eq_true]
        split
        · rename_i sends
          simp [sends, Ne.symm live]
        · rename_i quiet
          simpa using quiet

theorem registered_pid (d : Driver) (pid : Nat) : (registered d pid).driver.daemonPid = pid := by
  unfold registered Driver.register
  split <;> rfl

theorem live_run {full : List Sent → Bool} {d : Driver} {pid : Nat} {s : Post} (bound : pid ≠ 0)
    (run : Reaches (Post.step full) (Room full) (registered d pid) s) :
    s.driver.daemonPid = pid := by
  apply run.keeps (I := fun s : Post => s.driver.daemonPid = pid)
  · intro s event s' here room step
    rw [(stays_step (by rw [here]; exact bound) step).mpr room, here]
  · exact registered_pid d pid

theorem live_daemon_stays {full : List Sent → Bool} {d : Driver} {pid : Nat} {s : Post}
    (bound : pid ≠ 0) (run : Reaches (Post.step full) (Room full) (registered d pid) s) :
    s.driver.daemonPid = pid ∧ ∀ event s', s.step full event = some s' →
      (s'.driver.daemonPid = pid ↔ Room full s event) := by
  have here := live_run bound run
  constructor
  · exact here
  · intro event s' step
    have stays := stays_step (by rw [here]; exact bound) step
    rwa [here] at stays

/-- sk_rmem_alloc of the socket: a message takes its length and the struct around it. -/
def rmemAlloc : List Sent → Nat
  | [] => 0
  | sent :: rest =>
    (match sent.message with
      | .data bytes => 1024 + bytes.length
      | _ => 1024) + rmemAlloc rest

/-- netlink_attachskb gives up when sk_rcvbuf is exceeded. -/
def congested (rcvbuf : Nat) (unread : List Sent) : Bool := rcvbuf < rmemAlloc unread

theorem live_daemon_stays_small :
    ∃ s : Post, s.unread.length = 1 ∧ s.driver.daemonPid = 7 ∧
      ∀ event s', s.step (congested 212992) event = some s' →
        (s'.driver.daemonPid = 7 ↔ Room (congested 212992) s event) := by
  have ends : (execIf (Post.step (congested 212992)) (Room (congested 212992))
      (registered loaded 7) [.driver (.createDev 7 0 [0x61] .created), .driver (.lookup 0),
      .driver (.ncdOpen 0), .driver (.sendOpenReq 0 .sent), .receive,
      .driver (.connRes 7 0 true), .driver (.finishOpen 0),
      .driver (.ncdWrite 0 [1, 2] .sent)]).map (fun s => s.unread.length) = some 1 := by
    decide +kernel
  obtain ⟨s, run, length⟩ := Option.map_eq_some_iff.mp ends
  exact ⟨s, length, live_daemon_stays (by decide) (reaches_of_execIf _ run)⟩

theorem write_step {full : List Sent → Bool} {s : Post} {i minor : Nat} {dev : Device}
    {bytes : List UInt8} {outcome : SendOutcome}
    (here : s.driver.proc i .opened = some (minor, dev))
    (nonempty : bytes ≠ []) (answered : answers full s.unread (.ncdWrite i bytes outcome) = true) :
    s.step full (.driver (.ncdWrite i bytes outcome)) = some
      { driver := (s.driver.sendToDaemon minor (.data bytes) outcome).1
        unread := s.unread ++ (s.driver.sendToDaemon minor (.data bytes) outcome).1.sent.drop
          s.driver.sent.length } := by
  simp [Post.step, isRegister, answered, Driver.step, Driver.ncdWrite, here, nonempty]

/-- Two writes that a slow daemon does not take out of a buffer of the default size. -/
theorem slow_daemon_lost : ¬ ∀ (full : List Sent → Bool) (d : Driver) (pid : Nat) (s : Post),
    pid ≠ 0 → Reaches (Post.step full) Any (registered d pid) s → s.driver.daemonPid = pid := by
  intro always
  have ends : (exec (Post.step (congested 212992)) (registered loaded 7)
      [.driver (.createDev 7 0 [0x61] .created), .driver (.lookup 0), .driver (.ncdOpen 0),
      .driver (.sendOpenReq 0 .sent), .receive, .driver (.connRes 7 0 true),
      .driver (.finishOpen 0)]).map (fun s => ((s.driver.proc 0 .opened).map Prod.fst,
        s.driver.daemonPid, s.driver.sent, s.unread)) =
      some (some 0, 7, [{ pid := 7, minor := 0, message := .openReq }], []) := by
    decide +kernel
  obtain ⟨s, run, facts⟩ := Option.map_eq_some_iff.mp ends
  simp only [Prod.mk.injEq, Option.map_eq_some_iff] at facts
  obtain ⟨⟨⟨minor, dev⟩, here, zero⟩, pid, sent, unread⟩ := facts
  dsimp only at zero
  subst zero
  obtain ⟨bytes, size⟩ : ∃ bytes : List UInt8, bytes.length = 212992 :=
    ⟨List.replicate 212992 0, List.length_replicate⟩
  have nonempty : bytes ≠ [] := by
    intro empty
    rw [empty] at size
    cases size
  have first : s.step (congested 212992) (.driver (.ncdWrite 0 bytes .sent)) = _ :=
    write_step here nonempty (by rw [unread]; rfl)
  have accepted : s.driver.sendToDaemon 0 (.data bytes) .sent =
      ({ s.driver with
        sent := s.driver.sent ++ [{ pid := 7, minor := 0, message := .data bytes }] }, true) := by
    simp [Driver.sendToDaemon, pid]
  rw [accepted, unread, List.nil_append, List.drop_left] at first
  have second : Post.step (congested 212992)
      { driver := { s.driver with
          sent := s.driver.sent ++ [{ pid := 7, minor := 0, message := .data bytes }] }
        unread := [{ pid := 7, minor := 0, message := .data bytes }] }
      (.driver (.ncdWrite 0 [1] .undelivered)) = _ :=
    write_step here (by simp) (by simp [answers, outcomeOf, congested, rmemAlloc, size])
  have reached := ((reaches_of_exec _ run).snoc trivial first).snoc trivial second
  have lost := always _ _ 7 _ (by decide) reached
  simp [Driver.sendToDaemon, pid] at lost

end NcdMailbox
