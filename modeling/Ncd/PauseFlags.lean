import Ncd.MainLoop

/- The three copies of one fact: the pause of the kernel with the backlog, the flag of the
   main loop, and the flag of the actor. An OPEN_REQ that fails clears the first two and
   leaves the actor of an earlier connection behind write_tx as it was. -/
namespace NcdPauseFlags
open NcdDaemon NcdFlowControl NcdSessions NcdMainLoop LabelledRuns

def afterCommand (readPaused : Bool) : WriteCommand → Bool
  | .pauseRead => true
  | .resumeRead => false
  | .data _ => readPaused
  | .close => readPaused

def settledFlag (actor : Actor) : Bool := actor.commands.foldl afterCommand actor.readPaused

def shouldPause (minor : Minor UInt8) : Bool := minor.paused || !minor.pending.isEmpty

/-- The actor behind write_tx, while it runs. -/
def listener (s : MainLoop) : Option Actor :=
  s.behind.filter fun actor => actor.phase = .running

def Agree (s : MainLoop) : Prop :=
  s.pc = .select → ∀ actor, listener s = some actor →
    s.minor.readPaused = shouldPause s.minor ∧ settledFlag actor = shouldPause s.minor

/-- An OPEN_REQ may only fail when no actor runs behind write_tx, or when nothing is held
    back for it. -/
def Harmless (s : MainLoop) (event : LoopEvent) : Prop :=
  event = .openReq false → listener s = none ∨ s.minor.paused = false ∧ s.minor.pending = []

instance (s : MainLoop) (event : LoopEvent) : Decidable (Harmless s event) :=
  inferInstanceAs (Decidable (_ → _ ∨ _ ∧ _))

structure Flags (s : MainLoop) : Prop where
  same : ∀ actor, listener s = some actor → settledFlag actor = s.minor.readPaused
  resting : s.pc = .select → ∀ actor, listener s = some actor →
    s.minor.readPaused = shouldPause s.minor
  resumed : s.pc = .flushing .available → s.minor.paused = false

theorem Flags.agree {s : MainLoop} (flags : Flags s) : Agree s := by
  intro here actor listening
  have resting := flags.resting here actor listening
  constructor
  · exact resting
  · rw [flags.same actor listening, resting]

theorem settled_append (actor : Actor) (command : WriteCommand) :
    settledFlag { actor with commands := actor.commands ++ [command] } =
      afterCommand (settledFlag actor) command := by
  simp [settledFlag]

theorem listener_of {s s' : MainLoop} (tx : s'.writeTx = s.writeTx)
    (actors : s'.actors = s.actors) : listener s' = listener s := by
  unfold listener MainLoop.behind
  rw [tx, actors]

theorem listener_some {s : MainLoop} {actor : Actor} :
    listener s = some actor ↔ s.behind = some actor ∧ actor.phase = .running := by
  unfold listener
  rw [Option.filter_eq_some_iff, decide_eq_true_eq]

theorem behind_some {s : MainLoop} {actor : Actor} :
    s.behind = some actor ↔ ∃ index, s.writeTx = some index ∧ s.actors[index]? = some actor := by
  unfold MainLoop.behind
  exact Option.bind_eq_some_iff

theorem listener_accepts {s : MainLoop} {actor : Actor} (listening : listener s = some actor) :
    s.accepts = true := by
  obtain ⟨behind, running⟩ := listener_some.mp listening
  simp [MainLoop.accepts, behind, running]

theorem listener_command {s : MainLoop} {command : WriteCommand} {after : Actor}
    (listening : listener (s.command (some command)) = some after) :
    ∃ actor, listener s = some actor ∧
      after = { actor with commands := actor.commands ++ [command] } := by
  obtain ⟨behind, running⟩ := listener_some.mp listening
  cases tx : s.writeTx with
  | none =>
    have nobody : (s.command (some command)).behind = none := by
      simp [MainLoop.command, MainLoop.behind, tx]
    rw [nobody] at behind
    cases behind
  | some index =>
    simp only [MainLoop.command, tx, MainLoop.behind, Option.bind_some,
      List.getElem?_modify_eq] at behind
    rw [Option.map_eq_map, Option.map_eq_some_iff] at behind
    obtain ⟨actor, there, rfl⟩ := behind
    refine ⟨actor, listener_some.mpr ⟨?_, running⟩, rfl⟩
    exact behind_some.mpr ⟨index, tx, there⟩

theorem listener_sync {s : MainLoop} {kfifoPaused : Bool} :
    listener (s.sync kfifoPaused) =
      listener (s.command (s.minor.syncDeviceReading kfifoPaused s.accepts).2) :=
  listener_of rfl rfl

/-- sync_device_reading brings both flags to what should be, as long as they agreed. -/
theorem sync_sets {s : MainLoop} {kfifoPaused : Bool} {after : Actor}
    (same : ∀ actor, listener s = some actor → settledFlag actor = s.minor.readPaused)
    (listening : listener (s.sync kfifoPaused) = some after) :
    settledFlag after = (kfifoPaused || !s.minor.pending.isEmpty) ∧
      (s.sync kfifoPaused).minor.readPaused = (kfifoPaused || !s.minor.pending.isEmpty) := by
  rw [listener_sync] at listening
  by_cases already : s.minor.readPaused = (kfifoPaused || !s.minor.pending.isEmpty)
  · have quiet : s.minor.syncDeviceReading kfifoPaused s.accepts = (s.minor, none) := by
      simp [Minor.syncDeviceReading, already]
    have untouched : s.command none = s := by
      unfold MainLoop.command
      split <;> simp_all
    rw [quiet, untouched] at listening
    constructor
    · rw [same after listening, already]
    · simp only [MainLoop.sync, quiet, already]
  · cases accepts : s.accepts with
    | false =>
      have refused : s.minor.syncDeviceReading kfifoPaused s.accepts = (s.minor, none) := by
        simp [Minor.syncDeviceReading, already, accepts]
      have untouched : s.command none = s := by
        unfold MainLoop.command
        split <;> simp_all
      rw [refused, untouched] at listening
      rw [listener_accepts listening] at accepts
      cases accepts
    | true =>
      have told : s.minor.syncDeviceReading kfifoPaused s.accepts =
          ({ s.minor with readPaused := kfifoPaused || !s.minor.pending.isEmpty },
            some (if kfifoPaused || !s.minor.pending.isEmpty then .pauseRead
              else .resumeRead)) := by
        simp [Minor.syncDeviceReading, already, accepts]
      rw [told] at listening
      obtain ⟨actor, _, rfl⟩ := listener_command listening
      constructor
      · rw [settled_append]
        cases kfifoPaused || !s.minor.pending.isEmpty <;> rfl
      · simp only [MainLoop.sync, told]

theorem sync_flags {s : MainLoop} {kfifoPaused : Bool}
    (same : ∀ actor, listener s = some actor → settledFlag actor = s.minor.readPaused)
    (should : kfifoPaused = s.minor.paused) : Flags (s.sync kfifoPaused) := by
  subst should
  obtain ⟨paused, inflight, pending⟩ := sync_keeps s.minor s.minor.paused s.accepts
  have target : shouldPause (s.sync s.minor.paused).minor = shouldPause s.minor := by
    simp only [shouldPause, MainLoop.sync, paused, pending]
  constructor
  · intro actor listening
    obtain ⟨settled, flag⟩ := sync_sets same listening
    rw [settled, flag]
  · intro _ actor listening
    rw [(sync_sets same listening).2, target]
    rfl
  · intro flushing
    simp [MainLoop.sync] at flushing

theorem step_settled {actor after : Actor} {sender : Bool} {event : ActorEvent}
    (round : actor.step sender event = some after) (running : after.phase = .running) :
    actor.phase = .running ∧ settledFlag after = settledFlag actor := by
  obtain ⟨session, phase, readPaused, commands⟩ := actor
  cases event with
  | forward data =>
    cases phase <;> simp only [Actor.step] at round
    · split at round
      · cases round
      · cases round
        exact ⟨rfl, rfl⟩
    · cases round
      cases running
    · cases round
  | command written =>
    cases phase <;> cases commands <;> simp only [Actor.step] at round <;> try cases round
    rename_i command rest
    cases command with
    | data bytes =>
      cases written
      · cases round
        cases running
      · cases round
        exact ⟨rfl, rfl⟩
    | pauseRead =>
      cases round
      exact ⟨rfl, rfl⟩
    | resumeRead =>
      cases round
      exact ⟨rfl, rfl⟩
    | close =>
      cases round
      cases running
  | orphaned =>
    cases phase <;> cases commands <;> simp only [Actor.step] at round <;> try cases round
    split at round
    · cases round
    · cases round
      cases running
  | fails =>
    cases phase <;> simp only [Actor.step] at round <;> try cases round
    split at round
    · cases round
    · cases round
      cases running
  | closed =>
    cases phase <;> simp only [Actor.step] at round <;> try cases round
    cases running

theorem listener_acts {s : MainLoop} {index : Nat} {event : ActorEvent} {actor after : Actor}
    (there : s.actors[index]? = some actor)
    (round : actor.step (s.writeTx = some index) event = some after) {listening : Actor}
    (now : listener { s with actors := s.actors.set index after } = some listening) :
    ∃ before, listener s = some before ∧ settledFlag listening = settledFlag before := by
  obtain ⟨behind, running⟩ := listener_some.mp now
  obtain ⟨place, tx, found⟩ := behind_some.mp behind
  dsimp only at tx found
  by_cases same : index = place
  · subst same
    have inside : index < s.actors.length := (List.getElem?_eq_some_iff.mp there).1
    rw [List.getElem?_set_self inside, Option.some.injEq] at found
    subst found
    obtain ⟨ran, settled⟩ := step_settled round running
    refine ⟨actor, listener_some.mpr ⟨?_, ran⟩, settled⟩
    exact behind_some.mpr ⟨index, tx, there⟩
  · rw [List.getElem?_set_ne same] at found
    refine ⟨listening, listener_some.mpr ⟨?_, running⟩, rfl⟩
    exact behind_some.mpr ⟨place, tx, found⟩

theorem opened_flags {s : MainLoop} {connected : Bool} (flags : Flags s) (here : s.pc = .select)
    (harmless : Harmless s (.openReq connected)) : Flags (s.openReq connected) := by
  have reads : ∀ actor, listener (s.openReq connected) = some actor →
      settledFlag actor = false := by
    intro actor listening
    cases connected with
    | true =>
      obtain ⟨behind, _⟩ := listener_some.mp listening
      simp only [MainLoop.openReq, MainLoop.cleared, MainLoop.behind, if_true, Option.bind_some,
        List.getElem?_concat_length, Option.some.injEq] at behind
      rw [← behind]
      rfl
    | false =>
      have before : listener s = some actor := listening
      rcases harmless rfl with nobody | ⟨running, empty⟩
      · rw [nobody] at before
        cases before
      · rw [(flags.agree here actor before).2]
        simp [shouldPause, running, empty]
  have cleared : (s.openReq connected).minor = {} := by cases connected <;> rfl
  have pc : (s.openReq connected).pc = s.pc := by cases connected <;> rfl
  constructor
  · intro actor listening
    rw [reads actor listening, cleared]
  · intro _ _ _
    rw [cleared]
    rfl
  · intro flushing
    rw [pc, here] at flushing
    cases flushing

theorem Flags.known {s : MainLoop} {arm : Arm} (flags : Flags s) (here : s.pc = .flushing arm) :
    s.kfifoPaused arm = s.minor.paused := by
  cases arm with
  | available => rw [flags.resumed here]; rfl
  | tcp => rfl

theorem flags_step {s s' : MainLoop} {event : LoopEvent} (flags : Flags s)
    (harmless : Harmless s event) (step : s.step event = some s') : Flags s' := by
  cases step_change step with
  | acts there round =>
    constructor
    · intro listening now
      obtain ⟨before, listened, settled⟩ := listener_acts there round now
      rw [settled]
      exact flags.same before listened
    · intro here listening now
      obtain ⟨before, listened, _⟩ := listener_acts there round now
      exact flags.resting here before listened
    · exact flags.resumed
  | opens here => exact opened_flags flags here harmless
  | @writes bytes here =>
    have keeps := MainLoop.command_keeps s (some (.data bytes))
    constructor
    · intro after listening
      obtain ⟨actor, listened, rfl⟩ := listener_command listening
      rw [settled_append, flags.same actor listened, keeps]
      rfl
    · intro _ after listening
      obtain ⟨actor, listened, _⟩ := listener_command listening
      rw [keeps]
      exact flags.resting here actor listened
    · intro flushing
      rw [keeps] at flushing ⊢
      exact flags.resumed flushing
  | closes here =>
    have nobody : listener s.closeReq = none := rfl
    constructor
    · intro actor listening
      rw [nobody] at listening
      cases listening
    · intro _ actor listening
      rw [nobody] at listening
      cases listening
    · intro _
      rfl
  | pauses here => exact sync_flags flags.same rfl
  | resumes here =>
    constructor
    · exact flags.same
    · intro resting
      cases resting
    · intro _
      rfl
  | queues here =>
    constructor
    · exact flags.same
    · intro resting
      cases resting
    · intro available
      cases available
  | sends here running =>
    constructor
    · exact flags.same
    · intro resting
      rw [here] at resting
      cases resting
    · intro _
      exact running
  | fails here => exact sync_flags flags.same (flags.known here)
  | settles here => exact sync_flags flags.same (flags.known here)

theorem flags_created : Flags created := by
  constructor
  · intro actor listening
    cases listening
  · intro _ actor listening
    cases listening
  · intro flushing
    cases flushing

theorem flags_run {s : MainLoop} (run : Reaches MainLoop.step Harmless created s) : Flags s := by
  apply run.keeps (I := Flags)
  · intro s event s' flags harmless step
    exact flags_step flags harmless step
  · exact flags_created

/-- The failed OPEN_REQ leaves an actor that does not read, and nothing says so. -/
theorem harmful_disagrees {s s' : MainLoop} {event : LoopEvent} (flags : Flags s)
    (step : s.step event = some s') (agree : Agree s') : Harmless s event := by
  intro failed
  subst failed
  cases step_change step with
  | opens here =>
    cases listening : listener s with
    | none => exact Or.inl rfl
    | some actor =>
      have still : listener (s.openReq false) = some actor := listening
      have now := (agree here actor still).2
      rw [(flags.agree here actor listening).2] at now
      have clear : shouldPause (s.openReq false).minor = false := rfl
      rw [clear, shouldPause, Bool.or_eq_false_iff] at now
      exact Or.inr ⟨now.1, by simpa using now.2⟩

theorem pauses_agree {s : MainLoop} (run : Reaches MainLoop.step Harmless created s) :
    Agree s ∧ ∀ event s', s.step event = some s' → (Agree s' ↔ Harmless s event) := by
  have flags := flags_run run
  constructor
  · exact flags.agree
  · intro event s' step
    constructor
    · intro agree
      exact harmful_disagrees flags step agree
    · intro harmless
      exact (flags_step flags harmless step).agree

/-- Closed and opened again in vain: nobody reads, and nobody waits. -/
theorem pauses_agree_after_close :
    ∃ s, s.minor.paused = false ∧ s.writeTx = none ∧ Agree s ∧
      ∀ event s', s.step event = some s' → (Agree s' ↔ Harmless s event) := by
  have run : execIf MainLoop.step Harmless created
      [.openReq true, .full, .actor 0 (.command true), .closeReq, .openReq false] = some
      { actors := [{ session := 0, readPaused := true, commands := [.close] }] } := by
    decide +kernel
  exact ⟨_, rfl, rfl, pauses_agree (reaches_of_execIf _ run)⟩

/-- An open that was interrupted leaves its connection; the kernel pauses it, and the next
    OPEN_REQ fails. -/
theorem pauses_disagree : ¬ ∀ s, Reaches MainLoop.step Any created s → Agree s := by
  intro always
  have run : exec MainLoop.step created [.openReq true, .full, .openReq false] = some
      { writeTx := some 0, actors := [{ session := 0, commands := [.pauseRead] }] } := by
    decide +kernel
  have flags := always _ (reaches_of_exec _ run) rfl _ rfl
  simp [settledFlag, afterCommand, shouldPause] at flags

end NcdPauseFlags
