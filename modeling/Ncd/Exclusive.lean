import Ncd.Slots

/- Exclusive access to a device. CREATE_DEV initialises a struct that is used again, its
   open_count too, whether or not a process still has the device open. -/
namespace NcdExclusive
open NcdDriver NcdSessions NcdRegistry NcdSlots LabelledRuns

/-- A device has at most one file, and beside it no process holds the slot that the release
    of the file gives back. -/
structure Exclusive (d : Driver) : Prop where
  one : ∀ minor, filesOn d minor ≤ 1
  alone : ∀ minor, 0 < filesOn d minor → holdersOn d minor = 1

/-- open_count is set to 0 under a process that holds the slot. -/
def evicts (d : Driver) (event : Event) : Bool :=
  match initializes d event with
  | some minor => holdersOn d minor ≠ 0
  | none => false

def Vacant (d : Driver) (event : Event) : Prop := evicts d event = false

instance (d : Driver) (event : Event) : Decidable (Vacant d event) :=
  inferInstanceAs (Decidable (_ = _))

def Counted (d : Driver) : Prop :=
  ∀ minor, openCountOf d minor = holdersOn d minor ∧ holdersOn d minor ≤ 1

theorem loaded_counted : Counted loaded := by
  intro minor
  exact ⟨rfl, Nat.zero_le _⟩

theorem step_counted {d d' : Driver} {event : Event} (counted : Counted d)
    (allowed : Vacant d event) (step : d.step event = some d') : Counted d' := by
  intro m
  have here := counted m
  cases step_slots step with
  | quiet count holders =>
    rw [count, holders]
    exact here
  | takes minor free count holders =>
    rw [count, holders]
    by_cases same : m = minor
    · subst same
      rw [if_pos rfl, if_pos rfl]
      omega
    · rw [if_neg same, if_neg same]
      exact here
  | frees minor count holders =>
    have before := holders m
    rw [count]
    by_cases same : m = minor
    · subst same
      rw [if_pos rfl] at before ⊢
      omega
    · rw [if_neg same] at before ⊢
      omega
  | resets minor why count holders =>
    have vacant : holdersOn d minor = 0 := by
      simpa [Vacant, evicts, why] using allowed
    rw [count, holders]
    by_cases same : m = minor
    · subst same
      rw [if_pos rfl, vacant]
      exact ⟨rfl, Nat.zero_le _⟩
    · rw [if_neg same]
      exact here

theorem counted_exclusive {d : Driver} (counted : Counted d) : Exclusive d := by
  constructor
  · intro minor
    have files := files_hold d minor
    have few := (counted minor).2
    omega
  · intro minor positive
    have files := files_hold d minor
    have few := (counted minor).2
    omega

theorem file_and_holder {d : Driver} {i j minor : Nat} {pc pc' : Pc}
    (file : d.procs[i]? = some ⟨minor, pc⟩) (open_ : isFile pc = true)
    (other : d.procs[j]? = some ⟨minor, pc'⟩) (held : holds pc' = true) (apart : i ≠ j) :
    ¬ Exclusive d := by
  intro exclusive
  have positive : 0 < filesOn d minor := by
    apply List.countP_pos_iff.mpr
    exact ⟨_, List.mem_of_getElem? file, by simp [open_]⟩
  have one := exclusive.alone minor positive
  have holdsToo : holds pc = true := by cases pc <;> simp [isFile] at open_ <;> rfl
  have rest := holders_replace .gone file (setPc_procs d i minor .gone) minor
  have beside : 0 < holdersOn (d.setPc i minor .gone) minor := by
    apply List.countP_pos_iff.mpr
    refine ⟨⟨minor, pc'⟩, List.mem_of_getElem? (i := j) ?_, by simp [held]⟩
    rw [setPc_procs, List.getElem?_set_ne apart]
    exact other
  have left : holds .gone = false := rfl
  simp only [holdsToo, left, and_self, and_false, if_true, Bool.false_eq_true, if_false] at rest
  omega

/- A success for the device makes the open of a waiting holder return. -/
theorem waiting_holder {d : Driver} {i j minor : Nat} {pc : Pc} {dev : Device}
    (registered : d.daemonPid ≠ 0) (known : d.known minor = some dev)
    (first : d.procs[i]? = some ⟨minor, .connecting⟩)
    (second : d.procs[j]? = some ⟨minor, pc⟩) (held : holds pc = true) (apart : i ≠ j) :
    ∃ t, Reaches Driver.step Any d t ∧ ¬ Exclusive t := by
  have long : i < d.procs.length := (List.getElem?_eq_some_iff.mp first).1
  have returns := @finishOpen_success (d.setDevice minor { dev with connStatus := .success })
    i minor { dev with connStatus := .success } first (by simp) rfl
  refine ⟨_, .snoc (.single trivial (connRes_success registered known)) trivial returns, ?_⟩
  refine @file_and_holder _ i j minor .opened pc ?_ rfl ?_ held apart
  · rw [setPc_procs, setDevice_procs, List.getElem?_set_self long]
  · rw [setPc_procs, setDevice_procs, List.getElem?_set_ne apart]
    exact second

/- Two processes past the cmpxchg lead to a file of one and the slot of the other. -/
theorem two_holders {d : Driver} {i j minor : Nat} {pc pc' : Pc} {dev : Device}
    (registered : d.daemonPid ≠ 0) (known : d.known minor = some dev)
    (first : d.procs[i]? = some ⟨minor, pc⟩) (held : holds pc = true)
    (second : d.procs[j]? = some ⟨minor, pc'⟩) (held' : holds pc' = true) (apart : i ≠ j) :
    ∃ t, Reaches Driver.step Any d t ∧ ¬ Exclusive t := by
  cases pc with
  | entering => cases held
  | gone => cases held
  | opened => exact ⟨d, .refl d, file_and_holder first rfl second held' apart⟩
  | releasing => exact ⟨d, .refl d, file_and_holder first rfl second held' apart⟩
  | connecting => exact waiting_holder registered known first second held' apart
  | requesting =>
    have long : i < d.procs.length := (List.getElem?_eq_some_iff.mp first).1
    have asks := sendOpenReq_sent first (known_some known).2.1 registered
    obtain ⟨t, run, wrong⟩ := @waiting_holder (Driver.setPc
      { d with sent := d.sent ++ [{ pid := d.daemonPid, minor := minor, message := .openReq }] }
      i minor .connecting) i j minor pc' dev registered known
      (by rw [setPc_procs, List.getElem?_set_self long])
      (by
        rw [setPc_procs, List.getElem?_set_ne apart]
        exact second) held' apart
    exact ⟨t, (Reaches.single trivial asks).trans run, wrong⟩

/- After the open_count has been cleared another process can open the device. -/
theorem cleared_reopens {d : Driver} {i minor : Nat} {pc : Pc} {dev : Device}
    (registered : d.daemonPid ≠ 0) (known : d.known minor = some dev) (zero : dev.openCount = 0)
    (first : d.procs[i]? = some ⟨minor, pc⟩) (held : holds pc = true) :
    ∃ t, Reaches Driver.step Any d t ∧ ¬ Exclusive t := by
  obtain ⟨small, device, inUse⟩ := known_some known
  have long : i < d.procs.length := (List.getElem?_eq_some_iff.mp first).1
  have opens := @ncdOpen_free { d with procs := d.procs ++ [⟨minor, .entering⟩] } d.procs.length
    minor dev (by simp) device zero
  obtain ⟨t, run, wrong⟩ := @two_holders
    ((Driver.setDevice { d with procs := d.procs ++ [⟨minor, .entering⟩] } minor
      { dev with
        openCount := 1
        connStatus := .waiting
        buffers := ncdClearBuffers dev.buffers }).setPc d.procs.length minor .requesting)
    i d.procs.length minor pc .requesting
    { dev with
      openCount := 1
      connStatus := .waiting
      buffers := ncdClearBuffers dev.buffers } registered
    (by simp [Driver.known, Nat.not_le_of_lt small, inUse])
    (by
      rw [setPc_procs, setDevice_procs, List.getElem?_set_ne (Nat.ne_of_gt long)]
      dsimp only
      rw [List.getElem?_append_left long]
      exact first) held (by simp) rfl (Nat.ne_of_lt long)
  exact ⟨t, (Reaches.snoc (.single trivial (lookup_known known)) trivial opens).trans run, wrong⟩

/- Whatever became of a CREATE_DEV under a holder, the device can be opened again. -/
theorem eviction_violates {d d' : Driver} {event : Event} (counted : Counted d)
    (evicting : evicts d event = true) (step : d.step event = some d') :
    ∃ t, Reaches Driver.step Any d' t ∧ ¬ Exclusive t := by
  unfold evicts at evicting
  split at evicting
  · rename_i minor why
    have positive : 0 < holdersOn d minor := Nat.pos_of_ne_zero (by simpa using evicting)
    obtain ⟨p, member, rests⟩ := List.countP_pos_iff.mp positive
    simp only [Bool.and_eq_true, decide_eq_true_eq] at rests
    obtain ⟨i, here⟩ := List.mem_iff_getElem?.mp member
    have first : d.procs[i]? = some ⟨minor, p.pc⟩ := by rw [here, ← rests.1]
    cases event with
    | createDev pid minor' name outcome =>
      simp only [initializes] at why
      split at why
      · rename_i passes
        cases why
        obtain ⟨admitted, late⟩ := passes
        obtain ⟨own, named, small, absent⟩ := admits_some admitted
        simp only [Driver.step] at step
        split at step <;> cases step
        rename_i user
        have registered : d.daemonPid ≠ 0 := own ▸ user
        cases device : d.devices minor with
        | none =>
          have count := (counted minor).1
          simp [openCountOf, device] at count
          omega
        | some dev =>
          have after : d.createDev pid minor name outcome =
              d.setDevice minor (dev.initialized name outcome) := by
            simp [Driver.createDev, admitted, device]
          have zero : (dev.initialized name outcome).openCount = 0 := by
            cases outcome <;> first | rfl | exact absurd rfl late
          rw [after]
          by_cases inUse : (dev.initialized name outcome).inUse = true
          · have known := @known_setDevice d minor (dev.initialized name outcome) small
            rw [if_pos inUse] at known
            exact cleared_reopens registered known zero first rests.2
          · have unknown := @known_setDevice d minor (dev.initialized name outcome) small
            rw [if_neg inUse] at unknown
            have admitted' : (d.setDevice minor (dev.initialized name outcome)).admits pid minor
                name = true := by
              simp [Driver.admits, own, named, small, unknown]
            have again : (d.setDevice minor (dev.initialized name outcome)).step
                (.createDev pid minor name .created) =
                some ((d.setDevice minor (dev.initialized name outcome)).setDevice minor
                  { name := cutName name, inUse := true }) := by
              simp [Driver.step, user, createDev_created admitted']
            have known := @known_setDevice (d.setDevice minor (dev.initialized name outcome)) minor
              { name := cutName name, inUse := true } small
            obtain ⟨t, run, wrong⟩ := @cleared_reopens
              ((d.setDevice minor (dev.initialized name outcome)).setDevice minor
                { name := cutName name, inUse := true }) i minor p.pc _ registered known rfl first
              rests.2
            exact ⟨t, (Reaches.single trivial again).trans run, wrong⟩
      · cases why
    | _ => simp [initializes] at why
  · cases evicting

theorem run_counted {d : Driver} (run : Reaches Driver.step Vacant loaded d) : Counted d :=
  run.keeps (I := Counted) step_counted loaded_counted

/-- Access stays exclusive as long as CREATE_DEV initialises no struct whose slot is held; any
    other CREATE_DEV that gets so far can lead to a second file or a slot freed by a stranger. -/
theorem access_exclusive {d : Driver} (run : Reaches Driver.step Vacant loaded d) :
    Exclusive d ∧
      ∀ event d', evicts d event = true → d.step event = some d' →
        ∃ t, Reaches Driver.step Any d' t ∧ ¬ Exclusive t := by
  constructor
  · exact counted_exclusive (run_counted run)
  · intro event d' evicting step
    exact eviction_violates (run_counted run) evicting step

def createdAndOpened : List Event :=
  [.register 1, .createDev 1 0 [0x61] .created, .lookup 0, .ncdOpen 0, .sendOpenReq 0 .sent,
   .connRes 1 0 true, .finishOpen 0]

theorem opened_exclusive :
    ∃ d, execIf Driver.step Vacant loaded createdAndOpened = some d ∧ holdersOn d 0 = 1 := by
  have ends : (execIf Driver.step Vacant loaded createdAndOpened).map (fun d => filesOn d 0) =
      some 1 := by decide +kernel
  obtain ⟨d, run, file⟩ := Option.map_eq_some_iff.mp ends
  have exclusive := access_exclusive (reaches_of_execIf createdAndOpened run)
  exact ⟨d, run, exclusive.1.alone 0 (by omega)⟩

/-- A second daemon registers and creates the device again; another process opens it. -/
def openedAgain : List Event :=
  createdAndOpened ++ [.register 2, .createDev 2 0 [0x61] .created, .lookup 0, .ncdOpen 1,
    .sendOpenReq 1 .sent, .connRes 2 0 true, .finishOpen 1]

/- Two files of one device. -/
theorem restart_opens_twice : ¬ ∀ d, Reaches Driver.step Any loaded d → Exclusive d := by
  intro always
  have ends : (exec Driver.step loaded openedAgain).map (fun d => filesOn d 0) = some 2 := by
    decide +kernel
  obtain ⟨d, run, two⟩ := Option.map_eq_some_iff.mp ends
  have one := (always d (reaches_of_exec openedAgain run)).one 0
  omega

end NcdExclusive
