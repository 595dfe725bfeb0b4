import Ncd.Registry

/- open_count of every device against the processes that have passed ncd_open's cmpxchg: what
   each step of the driver does to the two. -/
namespace NcdSlots
open NcdDriver NcdSessions NcdRegistry LabelledRuns

/-- Past the cmpxchg, and not back yet. -/
def holds : Pc → Bool
  | .requesting => true
  | .connecting => true
  | .opened => true
  | .releasing => true
  | _ => false

/-- A file: ncd_open has returned 0 and ncd_release has not returned. -/
def isFile : Pc → Bool
  | .opened => true
  | .releasing => true
  | _ => false

def holdersOn (d : Driver) (minor : Nat) : Nat :=
  d.procs.countP fun p => p.minor = minor && holds p.pc

def filesOn (d : Driver) (minor : Nat) : Nat :=
  d.procs.countP fun p => p.minor = minor && isFile p.pc

def openCountOf (d : Driver) (minor : Nat) : Nat := ((d.devices minor).map Device.openCount).getD 0

theorem files_hold (d : Driver) (minor : Nat) : filesOn d minor ≤ holdersOn d minor := by
  apply List.countP_mono_left
  intro p _ file
  simp only [Bool.and_eq_true] at file ⊢
  refine ⟨file.1, ?_⟩
  cases pc : p.pc <;> simp [pc, isFile] at file <;> rfl

theorem countP_replace {β : Type} {p : β → Bool} {l : List β} {i : Nat} {a : β}
    (found : l[i]? = some a) (b : β) :
    (l.set i b).countP p + (if p a then 1 else 0) = l.countP p + (if p b then 1 else 0) := by
  induction l generalizing i with
  | nil => simp at found
  | cons x l ih =>
    cases i with
    | zero =>
      simp only [List.getElem?_cons_zero, Option.some.injEq] at found
      subst found
      simp only [List.set_cons_zero, List.countP_cons]
      omega
    | succ i =>
      simp only [List.getElem?_cons_succ] at found
      have rest := ih found
      simp only [List.set_cons_succ, List.countP_cons]
      omega

/-- A CREATE_DEV that gets as far as atomic_set(&open_count, 0). -/
def initializes (d : Driver) : Event → Option Nat
  | .createDev pid minor name outcome =>
    if d.admits pid minor name ∧ outcome ≠ .cdevAdd then some minor else none
  | _ => none

/-- What a step does to open_count and to the holders, device by device. -/
inductive SlotChange (d : Driver) (event : Event) (d' : Driver) : Prop where
  | quiet (count : ∀ m, openCountOf d' m = openCountOf d m)
      (holders : ∀ m, holdersOn d' m = holdersOn d m)
  | takes (minor : Nat) (free : openCountOf d minor = 0)
      (count : ∀ m, openCountOf d' m = if m = minor then 1 else openCountOf d m)
      (holders : ∀ m, holdersOn d' m = holdersOn d m + if m = minor then 1 else 0)
  | frees (minor : Nat) (count : ∀ m, openCountOf d' m = if m = minor then 0 else openCountOf d m)
      (holders : ∀ m, holdersOn d' m + (if m = minor then 1 else 0) = holdersOn d m)
  | resets (minor : Nat) (why : initializes d event = some minor)
      (count : ∀ m, openCountOf d' m = if m = minor then 0 else openCountOf d m)
      (holders : ∀ m, holdersOn d' m = holdersOn d m)

theorem count_update {d d' : Driver} {minor : Nat} (dev : Device)
    (devices : d'.devices = Function.update d.devices minor (some dev)) (m : Nat) :
    openCountOf d' m = if m = minor then dev.openCount else openCountOf d m := by
  unfold openCountOf
  rw [devices]
  by_cases same : m = minor
  · subst same
    simp
  · simp [same]

theorem count_same {d d' : Driver} {minor : Nat} {dev : Device} (dev' : Device)
    (device : d.devices minor = some dev) (same : dev'.openCount = dev.openCount)
    (devices : d'.devices = Function.update d.devices minor (some dev')) (m : Nat) :
    openCountOf d' m = openCountOf d m := by
  rw [count_update dev' devices]
  split
  · rename_i here
    rw [here, same, openCountOf, device]
    rfl
  · rfl

theorem holders_replace {d d' : Driver} {i minor : Nat} {pc : Pc} (pc' : Pc)
    (found : d.procs[i]? = some ⟨minor, pc⟩) (procs : d'.procs = d.procs.set i ⟨minor, pc'⟩)
    (m : Nat) :
    holdersOn d' m + (if m = minor ∧ holds pc = true then 1 else 0) =
      holdersOn d m + (if m = minor ∧ holds pc' = true then 1 else 0) := by
  have counted := countP_replace (p := fun p : Proc => p.minor = m && holds p.pc) found
    ⟨minor, pc'⟩
  rw [holdersOn, procs]
  simpa [holdersOn, eq_comm (a := minor)] using counted

theorem known_update {d d' : Driver} {minor : Nat} {dev : Device} {event : Event} (dev' : Device)
    (known : d.known minor = some dev) (same : dev'.openCount = dev.openCount)
    (devices : d'.devices = Function.update d.devices minor (some dev'))
    (procs : d'.procs = d.procs) : SlotChange d event d' := by
  apply SlotChange.quiet
  · exact count_same dev' (known_some known).2.1 same devices
  · intro m
    rw [holdersOn, procs]
    rfl

theorem register_slots (d : Driver) (pid : Nat) :
    SlotChange d (.register pid) (d.register pid) := by
  unfold Driver.register
  split
  · apply SlotChange.quiet
    · intro m
      unfold openCountOf
      dsimp only
      cases d.devices m with
      | none => rfl
      | some dev =>
        simp only [Option.map_some, Option.getD_some]
        split <;> rfl
    · intro m
      rfl
  · exact .quiet (fun _ => rfl) fun _ => rfl

theorem createDev_slots (d : Driver) (pid minor : Nat) (name : List UInt8)
    (outcome : CreateOutcome) :
    SlotChange d (.createDev pid minor name outcome) (d.createDev pid minor name outcome) := by
  unfold Driver.createDev
  split
  · rename_i admitted
    by_cases early : outcome = .cdevAdd
    · subst early
      split
      · rename_i dev device
        apply SlotChange.quiet
        · exact count_same (dev.initialized name .cdevAdd) device rfl rfl
        · intro m
          rfl
      · rename_i absent
        rw [if_neg (by simp)]
        apply SlotChange.quiet
        · intro m
          rw [count_update (({} : Device).initialized name .cdevAdd) rfl]
          split
          · rename_i here
            rw [here, openCountOf, absent]
            rfl
          · rfl
        · intro m
          rfl
    · have why : initializes d (.createDev pid minor name outcome) = some minor := by
        simp [initializes, admitted, early]
      have zero : ∀ dev : Device, (dev.initialized name outcome).openCount = 0 := by
        intro dev
        cases outcome <;> first | rfl | exact absurd rfl early
      split
      · rename_i dev device
        apply SlotChange.resets minor why
        · intro m
          rw [count_update (dev.initialized name outcome) rfl, zero]
        · intro m
          rfl
      · rename_i absent
        split
        · apply SlotChange.quiet
          · intro m
            rfl
          · intro m
            rfl
        · apply SlotChange.resets minor why
          · intro m
            rw [count_update (({} : Device).initialized name outcome) rfl, zero]
          · intro m
            rfl
  · exact .quiet (fun _ => rfl) fun _ => rfl

theorem destroyDev_slots (d : Driver) (pid minor : Nat) :
    SlotChange d (.destroyDev pid minor) (d.destroyDev pid minor) := by
  unfold Driver.destroyDev
  split
  · split
    · rename_i dev known
      exact known_update dev.destroyed known rfl rfl rfl
    · exact .quiet (fun _ => rfl) fun _ => rfl
  · exact .quiet (fun _ => rfl) fun _ => rfl

theorem connRes_slots (d : Driver) (pid minor : Nat) (success : Bool) :
    SlotChange d (.connRes pid minor success) (d.connRes pid minor success) := by
  unfold Driver.connRes
  split
  · split
    · rename_i dev known
      exact known_update { dev with connStatus := if success then .success else .failed }
        known rfl rfl rfl
    · exact .quiet (fun _ => rfl) fun _ => rfl
  · exact .quiet (fun _ => rfl) fun _ => rfl

theorem data_slots (d : Driver) (pid minor : Nat) (payload : List UInt8) (memory : Bool)
    (outcome : SendOutcome) :
    SlotChange d (.data pid minor payload memory outcome)
      (d.data pid minor payload memory outcome) := by
  unfold Driver.data
  split
  · split
    · rename_i dev known
      dsimp only
      split
      · obtain ⟨devices, procs⟩ := send_keeps
          (d.setDevice minor { dev with buffers := (recvData dev.buffers payload memory).1 })
          minor .kfifoFull outcome
        exact known_update { dev with buffers := (recvData dev.buffers payload memory).1 }
          known rfl devices procs
      · exact known_update { dev with buffers := (recvData dev.buffers payload memory).1 }
          known rfl rfl rfl
    · exact .quiet (fun _ => rfl) fun _ => rfl
  · exact .quiet (fun _ => rfl) fun _ => rfl

theorem moves_slots {d d' : Driver} {event : Event} {i minor : Nat} {pc : Pc} (pc' : Pc)
    (found : d.procs[i]? = some ⟨minor, pc⟩) (keeps : holds pc' = holds pc)
    (devices : d'.devices = d.devices) (procs : d'.procs = d.procs.set i ⟨minor, pc'⟩) :
    SlotChange d event d' := by
  apply SlotChange.quiet
  · intro m
    rw [openCountOf, devices]
    rfl
  · intro m
    have replaced := holders_replace pc' found procs m
    rw [keeps] at replaced
    omega

theorem leaves_slots {d d' : Driver} {event : Event} {i minor : Nat} {pc : Pc} (dev : Device)
    (found : d.procs[i]? = some ⟨minor, pc⟩) (held : holds pc = true)
    (zero : dev.openCount = 0)
    (devices : d'.devices = Function.update d.devices minor (some dev))
    (procs : d'.procs = d.procs.set i ⟨minor, .gone⟩) : SlotChange d event d' := by
  apply SlotChange.frees minor
  · intro m
    rw [count_update dev devices, zero]
  · intro m
    have replaced := holders_replace .gone found procs m
    have left : holds .gone = false := rfl
    simpa [held, left] using replaced

theorem ncdOpen_slots {d d' : Driver} {i : Nat} (step : d.ncdOpen i = some d') :
    SlotChange d (.ncdOpen i) d' := by
  obtain ⟨⟨minor, dev⟩, here, rfl⟩ := Option.map_eq_some_iff.mp step
  obtain ⟨found, device⟩ := proc_some here
  dsimp only
  split
  · exact moves_slots .gone found rfl rfl rfl
  · rename_i free
    have zero : dev.openCount = 0 := not_not.mp free
    apply SlotChange.takes minor
    · rw [openCountOf, device]
      exact zero
    · intro m
      exact count_update
        { dev with
          openCount := 1, connStatus := .waiting, buffers := ncdClearBuffers dev.buffers } rfl m
    · intro m
      have replaced : holdersOn (d.setPc i minor .requesting) m =
          holdersOn d m + if m = minor then 1 else 0 := by
        simpa [holds] using
          holders_replace .requesting found (setPc_procs d i minor .requesting) m
      exact replaced

theorem sendOpenReq_slots {d d' : Driver} {i : Nat} {outcome : SendOutcome}
    (step : d.sendOpenReq i outcome = some d') : SlotChange d (.sendOpenReq i outcome) d' := by
  obtain ⟨⟨minor, dev⟩, here, rfl⟩ := Option.map_eq_some_iff.mp step
  obtain ⟨found, device⟩ := proc_some here
  obtain ⟨devices, procs⟩ := send_keeps d minor .openReq outcome
  dsimp only
  split
  · exact moves_slots .connecting found rfl devices (by simp [procs])
  · exact leaves_slots { dev with openCount := 0 } found rfl rfl (by simp [devices])
      (by simp [procs])

theorem finishOpen_slots {d d' : Driver} {i : Nat} (step : d.finishOpen i = some d') :
    SlotChange d (.finishOpen i) d' := by
  obtain ⟨⟨minor, dev⟩, here, rest⟩ := Option.bind_eq_some_iff.mp step
  obtain ⟨found, device⟩ := proc_some here
  dsimp only at rest
  split at rest <;> cases rest
  · exact moves_slots .opened found rfl rfl rfl
  · exact leaves_slots { dev with openCount := 0 } found rfl rfl rfl rfl

theorem interruptOpen_slots {d d' : Driver} {i : Nat} (step : d.interruptOpen i = some d') :
    SlotChange d (.interruptOpen i) d' := by
  obtain ⟨⟨minor, dev⟩, here, rfl⟩ := Option.map_eq_some_iff.mp step
  obtain ⟨found, device⟩ := proc_some here
  exact leaves_slots { dev with connStatus := .waiting, openCount := 0 } found rfl rfl
    rfl rfl

theorem send_slots {d d' : Driver} {event : Event} {minor : Nat} {message : Message}
    {outcome : SendOutcome} (after : d' = (d.sendToDaemon minor message outcome).1) :
    SlotChange d event d' := by
  subst after
  obtain ⟨devices, procs⟩ := send_keeps d minor message outcome
  apply SlotChange.quiet
  · intro m
    rw [openCountOf, devices]
    rfl
  · intro m
    rw [holdersOn, procs]
    rfl

theorem ncdRead_slots {d d' : Driver} {i count : Nat} {outcome : SendOutcome}
    (step : d.ncdRead i count outcome = some d') : SlotChange d (.ncdRead i count outcome) d' := by
  obtain ⟨⟨minor, dev⟩, here, rfl⟩ := Option.map_eq_some_iff.mp step
  obtain ⟨found, device⟩ := proc_some here
  dsimp only
  split
  · exact send_slots rfl
  · have same : ∀ m, openCountOf
        (d.setDevice minor { dev with buffers := (ncdReadLocked dev.buffers count).1 }) m =
        openCountOf d m :=
      count_same { dev with buffers := (ncdReadLocked dev.buffers count).1 } device rfl rfl
    split
    · obtain ⟨devices, procs⟩ := send_keeps
        (d.setDevice minor { dev with buffers := (ncdReadLocked dev.buffers count).1 })
        minor .kfifoAvailable outcome
      apply SlotChange.quiet
      · intro m
        rw [← same m, openCountOf, devices]
        rfl
      · intro m
        rw [holdersOn, procs]
        rfl
    · exact .quiet same fun _ => rfl

theorem sendCloseReq_slots {d d' : Driver} {i : Nat} {outcome : SendOutcome}
    (step : d.sendCloseReq i outcome = some d') : SlotChange d (.sendCloseReq i outcome) d' := by
  obtain ⟨⟨minor, dev⟩, here, rfl⟩ := Option.map_eq_some_iff.mp step
  obtain ⟨found, device⟩ := proc_some here
  obtain ⟨devices, procs⟩ := send_keeps d minor .closeReq outcome
  exact moves_slots .releasing found rfl devices (by simp [procs])

theorem ncdRelease_slots {d d' : Driver} {i : Nat} (step : d.ncdRelease i = some d') :
    SlotChange d (.ncdRelease i) d' := by
  obtain ⟨⟨minor, dev⟩, here, rfl⟩ := Option.map_eq_some_iff.mp step
  obtain ⟨found, device⟩ := proc_some here
  exact leaves_slots
    { dev with connStatus := .waiting, buffers := ncdClearBuffers dev.buffers, openCount := 0 }
    found rfl rfl rfl rfl

theorem step_slots {d d' : Driver} {event : Event} (step : d.step event = some d') :
    SlotChange d event d' := by
  cases event with
  | register pid =>
    simp only [Driver.step] at step
    split at step <;> cases step
    exact register_slots d pid
  | createDev pid minor name outcome =>
    simp only [Driver.step] at step
    split at step <;> cases step
    exact createDev_slots d pid minor name outcome
  | destroyDev pid minor =>
    simp only [Driver.step] at step
    split at step <;> cases step
    exact destroyDev_slots d pid minor
  | connRes pid minor success =>
    simp only [Driver.step] at step
    split at step <;> cases step
    exact connRes_slots d pid minor success
  | data pid minor payload memory outcome =>
    simp only [Driver.step] at step
    split at step <;> cases step
    exact data_slots d pid minor payload memory outcome
  | lookup minor =>
    simp only [Driver.step] at step
    split at step <;> cases step
    apply SlotChange.quiet
    · intro m
      rfl
    · intro m
      simp [holdersOn, holds]
  | ncdOpen i => exact ncdOpen_slots step
  | sendOpenReq i outcome => exact sendOpenReq_slots step
  | finishOpen i => exact finishOpen_slots step
  | interruptOpen i => exact interruptOpen_slots step
  | ncdWrite i bytes outcome =>
    obtain ⟨⟨minor, dev⟩, here, rfl⟩ := Option.map_eq_some_iff.mp step
    dsimp only
    split
    · exact .quiet (fun _ => rfl) fun _ => rfl
    · exact send_slots rfl
  | ncdRead i count outcome => exact ncdRead_slots step
  | sendCloseReq i outcome => exact sendCloseReq_slots step
  | ncdRelease i => exact ncdRelease_slots step

end NcdSlots
