import Ncd.Slots

/- What a new daemon finds in the table of devices after its REGISTER and CREATE_DEVs, and
   which minors the messages that the driver sends it can name. -/
namespace NcdDeviceTable
open NcdDriver NcdSessions NcdRegistry NcdSlots LabelledRuns

def entry (d : Driver) (minor : Nat) : Option (List UInt8) := (d.known minor).map Device.name

def creates (pid : Nat) : Nat → List (List UInt8) → List Event
  | _, [] => []
  | first, name :: names => .createDev pid first name .created :: creates pid (first + 1) names

/-- The messages that change the table, by the daemon pid or by a REGISTER. -/
def manages (pid : Nat) : Event → Bool
  | .register _ => true
  | .createDev p _ _ _ => p = pid
  | .destroyDev p _ => p = pid
  | _ => false

def delivers : Event → Bool
  | .data _ _ _ _ outcome => outcome ≠ .undelivered
  | .sendOpenReq _ outcome => outcome ≠ .undelivered
  | .ncdWrite _ _ outcome => outcome ≠ .undelivered
  | .ncdRead _ _ outcome => outcome ≠ .undelivered
  | .sendCloseReq _ outcome => outcome ≠ .undelivered
  | _ => true

def named (first : Nat) (names : List (List UInt8)) (minor : Nat) : Option (List UInt8) :=
  if first ≤ minor then (names[minor - first]?).map cutName else none

/-- Steps after the REGISTER of pid: it registers once and creates only minors below n. -/
def OwnTable (pid n : Nat) (_ : Driver) : Event → Prop
  | .register p => p ≠ pid
  | .createDev p minor _ _ => p = pid → minor < n
  | _ => True

/-- What the daemon takes payload[0] of a message for. -/
def isRequest : Message → Bool
  | .openReq => true
  | .data _ => true
  | .closeReq => true
  | _ => false

/-- A daemon that registers in d and creates devices of these names gets exactly them, also
    when other steps come in between, and no request for another minor. -/
structure GetsItsOwn (d : Driver) (pid : Nat) (names : List (List UInt8)) : Prop where
  table : ∀ rest t, exec Driver.step d (.register pid :: rest) = some t →
    rest.filter (manages pid) = creates pid 0 names → (∀ event ∈ rest, delivers event = true) →
    ∀ minor, entry t minor = (names[minor]?).map cutName
  requests : ∀ t, Reaches Driver.step (OwnTable pid names.length) (d.register pid) t →
    ∀ message ∈ t.sent.drop d.sent.length, message.pid = pid → isRequest message.message = true →
      message.minor < names.length

/-- Nothing more can be sent from here as long as conn_status does not become success. -/
def silent (status : ConnStatus) : Pc → Bool
  | .connecting => status ≠ .success
  | .releasing => true
  | .gone => true
  | _ => false

def mute (d : Driver) (p : Proc) : Bool :=
  match d.devices p.minor with
  | none => true
  | some dev => silent dev.connStatus p.pc

/-- Either REGISTER cleans the table, or what is in use are devices that the new daemon would
    create alike; and no process is left that could speak for another minor. -/
structure Clean (d : Driver) (names : List (List UInt8)) : Prop where
  table : d.daemonPid ≠ 0 ∨
    ∀ minor name, entry d minor = some name → (names[minor]?).map cutName = some name
  quiet : ∀ p ∈ d.procs, names.length ≤ p.minor → mute d p = true

theorem known_other {d d' : Driver} {minor : Nat} {dev : Device}
    (devices : d'.devices = Function.update d.devices minor (some dev)) {m : Nat}
    (other : m ≠ minor) : d'.known m = d.known m := by
  simp [Driver.known, devices, other]

theorem entry_update {d d' : Driver} {minor : Nat} {dev : Device} (dev' : Device)
    (device : d.devices minor = some dev) (used : dev'.inUse = dev.inUse)
    (name : dev'.name = dev.name)
    (devices : d'.devices = Function.update d.devices minor (some dev')) (m : Nat) :
    entry d' m = entry d m := by
  by_cases same : m = minor
  · subst same
    simp only [entry, Driver.known, devices, Function.update_self, device, Option.bind_some, used]
    split
    · rfl
    · split <;> simp [name]
  · simp only [entry, known_other devices same]

theorem set_self {β : Type} {l : List β} {i : Nat} {a : β} (found : l[i]? = some a) :
    l.set i a = l := by
  obtain ⟨inside, rfl⟩ := List.getElem?_eq_some_iff.mp found
  exact List.set_getElem_self inside

structure Ordinary (d : Driver) (event : Event) (d' : Driver) : Prop where
  entries : ∀ m, entry d' m = entry d m
  pid : d'.daemonPid = d.daemonPid ∨ d'.daemonPid = 0 ∧ delivers event = false
  sent : d'.sent = d.sent ∨ d.daemonPid ≠ 0 ∧ ∃ minor message,
    d'.sent = d.sent ++ [{ pid := d.daemonPid, minor := minor, message := message }] ∧
      ((entry d minor).isSome ∨ ∃ p ∈ d.procs, p.minor = minor ∧ mute d p = false)
  silent : ∀ m, entry d m = none → (∀ p ∈ d.procs, p.minor = m → mute d p = true) →
    ∀ p ∈ d'.procs, p.minor = m → mute d' p = true

theorem ordinary_refl (d : Driver) (event : Event) : Ordinary d event d :=
  ⟨fun _ => rfl, .inl rfl, .inl rfl, fun _ _ mutes => mutes⟩

theorem silent_mono {status status' : ConnStatus} {pc : Pc}
    (later : status' = .success → status = .success) (quiet : silent status pc = true) :
    silent status' pc = true := by
  cases pc with
  | connecting =>
    simp only [silent, decide_eq_true_eq] at quiet ⊢
    exact fun success => quiet (later success)
  | _ => exact quiet

theorem send_effect (d : Driver) (minor : Nat) (message : Message) {outcome : SendOutcome}
    {event : Event} (fails : outcome = .undelivered → delivers event = false) :
    ((d.sendToDaemon minor message outcome).1.daemonPid = d.daemonPid ∨
        (d.sendToDaemon minor message outcome).1.daemonPid = 0 ∧ delivers event = false) ∧
      ((d.sendToDaemon minor message outcome).1.sent = d.sent ∨
        d.daemonPid ≠ 0 ∧ (d.sendToDaemon minor message outcome).1.sent =
          d.sent ++ [{ pid := d.daemonPid, minor := minor, message := message }]) := by
  unfold Driver.sendToDaemon
  split
  · exact ⟨.inl rfl, .inl rfl⟩
  · rename_i registered
    cases outcome with
    | sent => exact ⟨.inl rfl, .inr ⟨registered, rfl⟩⟩
    | noMemory => exact ⟨.inl rfl, .inl rfl⟩
    | undelivered => exact ⟨.inr ⟨rfl, fails rfl⟩, .inl rfl⟩

theorem process_ordinary {d d' : Driver} {event : Event} {i minor : Nat} {pc : Pc} {dev : Device}
    (pc' : Pc) (dev' : Device) (here : d.proc i pc = some (minor, dev))
    (procs : d'.procs = d.procs.set i ⟨minor, pc'⟩)
    (devices : d'.devices = Function.update d.devices minor (some dev'))
    (used : dev'.inUse = dev.inUse) (name : dev'.name = dev.name)
    (status : dev'.connStatus = .success → dev.connStatus = .success)
    (quiet : silent dev.connStatus pc = true → silent dev'.connStatus pc' = true)
    (pid : d'.daemonPid = d.daemonPid ∨ d'.daemonPid = 0 ∧ delivers event = false)
    (sent : d'.sent = d.sent ∨ silent dev.connStatus pc = false ∧ d.daemonPid ≠ 0 ∧ ∃ message,
      d'.sent = d.sent ++ [{ pid := d.daemonPid, minor := minor, message := message }]) :
    Ordinary d event d' := by
  obtain ⟨found, device⟩ := proc_some here
  have self : mute d ⟨minor, pc⟩ = silent dev.connStatus pc := by simp [mute, device]
  constructor
  · exact entry_update dev' device used name devices
  · exact pid
  · rcases sent with same | ⟨loud, registered, message, said⟩
    · exact .inl same
    · exact .inr ⟨registered, minor, message, said, .inr
        ⟨⟨minor, pc⟩, List.mem_of_getElem? found, rfl, self.trans loud⟩⟩
  · intro m unknown mutes p member on
    rw [procs] at member
    rcases List.mem_or_eq_of_mem_set member with old | new
    · have before := mutes p old on
      by_cases same : p.minor = minor
      · simp only [mute, same, device, devices, Function.update_self] at before ⊢
        exact silent_mono status before
      · simpa [mute, devices, same] using before
    · subst new
      have before := mutes ⟨minor, pc⟩ (List.mem_of_getElem? found) on
      rw [self] at before
      simpa [mute, devices] using quiet before

theorem moves_ordinary {d d' : Driver} {event : Event} {i minor : Nat} {pc : Pc} {dev : Device}
    (pc' : Pc) (here : d.proc i pc = some (minor, dev))
    (procs : d'.procs = d.procs.set i ⟨minor, pc'⟩) (devices : d'.devices = d.devices)
    (quiet : silent dev.connStatus pc = true → silent dev.connStatus pc' = true)
    (pid : d'.daemonPid = d.daemonPid ∨ d'.daemonPid = 0 ∧ delivers event = false)
    (sent : d'.sent = d.sent ∨ silent dev.connStatus pc = false ∧ d.daemonPid ≠ 0 ∧ ∃ message,
      d'.sent = d.sent ++ [{ pid := d.daemonPid, minor := minor, message := message }]) :
    Ordinary d event d' := by
  obtain ⟨_, device⟩ := proc_some here
  have update : d'.devices = Function.update d.devices minor (some dev) := by
    rw [devices, ← device, Function.update_eq_self]
  exact process_ordinary pc' dev here procs update rfl rfl id quiet pid sent

theorem message_ordinary {d d' : Driver} {event : Event} {minor : Nat} {dev : Device}
    (dev' : Device) (known : d.known minor = some dev) (procs : d'.procs = d.procs)
    (devices : d'.devices = Function.update d.devices minor (some dev'))
    (used : dev'.inUse = dev.inUse) (name : dev'.name = dev.name)
    (pid : d'.daemonPid = d.daemonPid ∨ d'.daemonPid = 0 ∧ delivers event = false)
    (sent : d'.sent = d.sent ∨ d.daemonPid ≠ 0 ∧ ∃ message,
      d'.sent = d.sent ++ [{ pid := d.daemonPid, minor := minor, message := message }]) :
    Ordinary d event d' := by
  have here : (entry d minor).isSome := by simp [entry, known]
  constructor
  · exact entry_update dev' (known_some known).2.1 used name devices
  · exact pid
  · rcases sent with same | ⟨registered, message, said⟩
    · exact .inl same
    · exact .inr ⟨registered, minor, message, said, .inl here⟩
  · intro m unknown mutes p member on
    rw [procs] at member
    have other : p.minor ≠ minor := by
      intro same
      rw [on] at same
      rw [← same, unknown] at here
      cases here
    simpa [mute, devices, other] using mutes p member on

theorem fails_undelivered {outcome : SendOutcome} (fails : outcome = .undelivered) :
    decide (outcome ≠ .undelivered) = false := by
  subst fails
  rfl

theorem connRes_ordinary (d : Driver) (pid minor : Nat) (success : Bool) :
    Ordinary d (.connRes pid minor success) (d.connRes pid minor success) := by
  unfold Driver.connRes
  split
  · split
    · rename_i dev known
      exact message_ordinary { dev with connStatus := if success then .success else .failed }
        known rfl rfl rfl rfl (.inl rfl) (.inl rfl)
    · exact ordinary_refl d _
  · exact ordinary_refl d _

theorem data_ordinary (d : Driver) (pid minor : Nat) (payload : List UInt8) (memory : Bool)
    (outcome : SendOutcome) :
    Ordinary d (.data pid minor payload memory outcome)
      (d.data pid minor payload memory outcome) := by
  unfold Driver.data
  split
  · split
    · rename_i dev known
      dsimp only
      split
      · obtain ⟨devices, procs⟩ := send_keeps
          (d.setDevice minor { dev with buffers := (recvData dev.buffers payload memory).1 })
          minor .kfifoFull outcome
        obtain ⟨registered, said⟩ := @send_effect
          (d.setDevice minor { dev with buffers := (recvData dev.buffers payload memory).1 })
          minor .kfifoFull outcome (.data pid minor payload memory outcome) fails_undelivered
        refine message_ordinary
          { dev with buffers := (recvData dev.buffers payload memory).1 } known procs devices
          rfl rfl
          registered ?_
        rcases said with same | ⟨user, said⟩
        · exact .inl same
        · exact .inr ⟨user, .kfifoFull, said⟩
      · exact message_ordinary { dev with buffers := (recvData dev.buffers payload memory).1 }
          known rfl rfl rfl rfl (.inl rfl) (.inl rfl)
    · exact ordinary_refl d _
  · exact ordinary_refl d _

theorem lookup_ordinary {d : Driver} {minor : Nat} {dev : Device}
    (known : d.known minor = some dev) :
    Ordinary d (.lookup minor) { d with procs := d.procs ++ [⟨minor, .entering⟩] } := by
  refine ⟨fun _ => rfl, .inl rfl, .inl rfl, ?_⟩
  intro m unknown mutes p member on
  rcases List.mem_append.mp member with old | new
  · exact mutes p old on
  · rw [List.mem_singleton.mp new] at on
    rw [← on, entry, known] at unknown
    cases unknown

theorem ncdOpen_ordinary {d d' : Driver} {i : Nat} (step : d.ncdOpen i = some d') :
    Ordinary d (.ncdOpen i) d' := by
  obtain ⟨⟨minor, dev⟩, here, rfl⟩ := Option.map_eq_some_iff.mp step
  dsimp only
  split
  · exact moves_ordinary .gone here rfl rfl (fun _ => rfl) (.inl rfl) (.inl rfl)
  · exact process_ordinary .requesting
      { dev with
        openCount := 1, connStatus := .waiting, buffers := ncdClearBuffers dev.buffers }
      here rfl rfl rfl rfl (by simp) (fun quiet => by cases quiet) (.inl rfl) (.inl rfl)

theorem sendOpenReq_ordinary {d d' : Driver} {i : Nat} {outcome : SendOutcome}
    (step : d.sendOpenReq i outcome = some d') : Ordinary d (.sendOpenReq i outcome) d' := by
  obtain ⟨⟨minor, dev⟩, here, rfl⟩ := Option.map_eq_some_iff.mp step
  obtain ⟨devices, procs⟩ := send_keeps d minor .openReq outcome
  obtain ⟨registered, said⟩ := @send_effect d minor .openReq outcome (.sendOpenReq i outcome)
    fails_undelivered
  have speaks : (d.sendToDaemon minor .openReq outcome).1.sent = d.sent ∨
      silent dev.connStatus .requesting = false ∧ d.daemonPid ≠ 0 ∧ ∃ message,
        (d.sendToDaemon minor .openReq outcome).1.sent =
          d.sent ++ [{ pid := d.daemonPid, minor := minor, message := message }] := by
    rcases said with same | ⟨user, said⟩
    · exact .inl same
    · exact .inr ⟨rfl, user, .openReq, said⟩
  dsimp only
  split
  · exact moves_ordinary .connecting here (by simp [procs]) devices (fun quiet => by cases quiet)
      registered speaks
  · exact process_ordinary .gone { dev with openCount := 0 } here (by simp [procs])
      (by simp [devices]) rfl rfl id (fun _ => rfl) registered speaks

theorem finishOpen_ordinary {d d' : Driver} {i : Nat} (step : d.finishOpen i = some d') :
    Ordinary d (.finishOpen i) d' := by
  obtain ⟨⟨minor, dev⟩, here, rest⟩ := Option.bind_eq_some_iff.mp step
  dsimp only at rest
  split at rest <;> cases rest
  · rename_i status
    exact moves_ordinary .opened here rfl rfl (fun quiet => by simp [silent, status] at quiet)
      (.inl rfl) (.inl rfl)
  · exact process_ordinary .gone { dev with openCount := 0 } here rfl rfl rfl rfl id
      (fun _ => rfl) (.inl rfl) (.inl rfl)

theorem ncdRead_ordinary {d d' : Driver} {i count : Nat} {outcome : SendOutcome}
    (step : d.ncdRead i count outcome = some d') :
    Ordinary d (.ncdRead i count outcome) d' := by
  obtain ⟨⟨minor, dev⟩, here, rfl⟩ := Option.map_eq_some_iff.mp step
  obtain ⟨found, device⟩ := proc_some here
  have stays : d.procs = d.procs.set i ⟨minor, .opened⟩ := (set_self found).symm
  dsimp only
  split
  · obtain ⟨devices, procs⟩ := send_keeps d minor .kfifoAvailable outcome
    obtain ⟨registered, said⟩ := @send_effect d minor .kfifoAvailable outcome
      (.ncdRead i count outcome) fails_undelivered
    refine moves_ordinary .opened here (procs.trans stays) devices id registered ?_
    rcases said with same | ⟨user, said⟩
    · exact .inl same
    · exact .inr ⟨rfl, user, .kfifoAvailable, said⟩
  · split
    · obtain ⟨devices, procs⟩ := send_keeps
        (d.setDevice minor { dev with buffers := (ncdReadLocked dev.buffers count).1 })
        minor .kfifoAvailable outcome
      obtain ⟨registered, said⟩ := @send_effect
        (d.setDevice minor { dev with buffers := (ncdReadLocked dev.buffers count).1 })
        minor .kfifoAvailable outcome (.ncdRead i count outcome) fails_undelivered
      refine process_ordinary .opened
        { dev with buffers := (ncdReadLocked dev.buffers count).1 } here (procs.trans stays) devices
        rfl rfl id id registered ?_
      rcases said with same | ⟨user, said⟩
      · exact .inl same
      · exact .inr ⟨rfl, user, .kfifoAvailable, said⟩
    · exact process_ordinary .opened
        { dev with buffers := (ncdReadLocked dev.buffers count).1 } here stays rfl
        rfl rfl id id (.inl rfl) (.inl rfl)

theorem ncdWrite_ordinary {d d' : Driver} {i : Nat} {bytes : List UInt8} {outcome : SendOutcome}
    (step : d.ncdWrite i bytes outcome = some d') :
    Ordinary d (.ncdWrite i bytes outcome) d' := by
  obtain ⟨⟨minor, dev⟩, here, rfl⟩ := Option.map_eq_some_iff.mp step
  obtain ⟨found, device⟩ := proc_some here
  have stays : d.procs = d.procs.set i ⟨minor, .opened⟩ := (set_self found).symm
  dsimp only
  split
  · exact ordinary_refl d _
  · obtain ⟨devices, procs⟩ := send_keeps d minor (.data bytes) outcome
    obtain ⟨registered, said⟩ := @send_effect d minor (.data bytes) outcome
      (.ncdWrite i bytes outcome) fails_undelivered
    refine moves_ordinary .opened here (procs.trans stays) devices id registered ?_
    rcases said with same | ⟨user, said⟩
    · exact .inl same
    · exact .inr ⟨rfl, user, .data bytes, said⟩

theorem sendCloseReq_ordinary {d d' : Driver} {i : Nat} {outcome : SendOutcome}
    (step : d.sendCloseReq i outcome = some d') : Ordinary d (.sendCloseReq i outcome) d' := by
  obtain ⟨⟨minor, dev⟩, here, rfl⟩ := Option.map_eq_some_iff.mp step
  obtain ⟨devices, procs⟩ := send_keeps d minor .closeReq outcome
  obtain ⟨registered, said⟩ := @send_effect d minor .closeReq outcome (.sendCloseReq i outcome)
    fails_undelivered
  refine moves_ordinary .releasing here (by simp [procs]) devices (fun _ => rfl) registered ?_
  rcases said with same | ⟨user, said⟩
  · exact .inl same
  · exact .inr ⟨rfl, user, .closeReq, said⟩

theorem step_ordinary {d d' : Driver} {event : Event} (other : manages d.daemonPid event = false)
    (step : d.step event = some d') : Ordinary d event d' := by
  cases event with
  | register pid => cases other
  | createDev pid minor name outcome =>
    have foreign : pid ≠ d.daemonPid := by simpa [manages] using other
    simp only [Driver.step] at step
    split at step <;> cases step
    have ignored : d.createDev pid minor name outcome = d := by
      simp [Driver.createDev, Driver.admits, foreign]
    rw [ignored]
    exact ordinary_refl d _
  | destroyDev pid minor =>
    have foreign : pid ≠ d.daemonPid := by simpa [manages] using other
    simp only [Driver.step] at step
    split at step <;> cases step
    have ignored : d.destroyDev pid minor = d := by simp [Driver.destroyDev, foreign]
    rw [ignored]
    exact ordinary_refl d _
  | connRes pid minor success =>
    simp only [Driver.step] at step
    split at step <;> cases step
    exact connRes_ordinary d pid minor success
  | data pid minor payload memory outcome =>
    simp only [Driver.step] at step
    split at step <;> cases step
    exact data_ordinary d pid minor payload memory outcome
  | lookup minor =>
    simp only [Driver.step] at step
    split at step <;> cases step
    rename_i dev known
    exact lookup_ordinary known
  | ncdOpen i => exact ncdOpen_ordinary step
  | sendOpenReq i outcome => exact sendOpenReq_ordinary step
  | finishOpen i => exact finishOpen_ordinary step
  | interruptOpen i =>
    obtain ⟨⟨minor, dev⟩, here, rfl⟩ := Option.map_eq_some_iff.mp step
    exact process_ordinary .gone { dev with connStatus := .waiting, openCount := 0 } here rfl rfl
      rfl rfl (by simp) (fun _ => rfl) (.inl rfl) (.inl rfl)
  | ncdWrite i bytes outcome => exact ncdWrite_ordinary step
  | ncdRead i count outcome => exact ncdRead_ordinary step
  | sendCloseReq i outcome => exact sendCloseReq_ordinary step
  | ncdRelease i =>
    obtain ⟨⟨minor, dev⟩, here, rfl⟩ := Option.map_eq_some_iff.mp step
    exact process_ordinary .gone
      { dev with connStatus := .waiting, buffers := ncdClearBuffers dev.buffers, openCount := 0 }
      here rfl rfl rfl rfl (by simp) (fun _ => rfl) (.inl rfl) (.inl rfl)

theorem named_nil (first minor : Nat) : named first [] minor = none := by
  simp [named]

theorem named_cons (first : Nat) (name : List UInt8) (names : List (List UInt8)) (minor : Nat) :
    named first (name :: names) minor =
      if minor = first then some (cutName name) else named (first + 1) names minor := by
  unfold named
  by_cases same : minor = first
  · simp [same]
  · by_cases later : first ≤ minor
    · obtain ⟨k, rfl⟩ : ∃ k, minor = first + 1 + k := ⟨minor - (first + 1), by omega⟩
      have here : first + 1 + k - first = k + 1 := by omega
      simp [same, later, here]
    · have early : ¬ first + 1 ≤ minor := by omega
      simp [same, later, early]

theorem createDev_entries {d : Driver} {minor : Nat} {name : List UInt8} (nonempty : name ≠ [])
    (small : minor < ncdMaxDevices) :
    (d.createDev d.daemonPid minor name .created).daemonPid = d.daemonPid ∧
      ∀ m, entry (d.createDev d.daemonPid minor name .created) m =
        (entry d m).or (if m = minor then some (cutName name) else none) := by
  cases known : d.known minor with
  | none =>
    have admitted : d.admits d.daemonPid minor name = true := by
      simp [Driver.admits, nonempty, small, known]
    rw [createDev_created admitted]
    refine ⟨rfl, ?_⟩
    intro m
    by_cases same : m = minor
    · subst same
      have after := @known_setDevice d m { name := cutName name, inUse := true } small
      simp [entry, known, after]
    · have after : (d.setDevice minor { name := cutName name, inUse := true }).known m =
          d.known m := known_other rfl same
      simp [entry, after, same]
  | some dev =>
    have ignored : d.createDev d.daemonPid minor name .created = d := by
      simp [Driver.createDev, Driver.admits, known]
    rw [ignored]
    refine ⟨rfl, ?_⟩
    intro m
    by_cases same : m = minor
    · subst same
      simp [entry, known]
    · simp [same]

/- Induction on the steps: those that manage the table are the CREATE_DEVs in order. -/
theorem creates_entries {pid : Nat} (events : List Event) {d t : Driver} {first : Nat}
    {names : List (List UInt8)} (registered : d.daemonPid = pid)
    (nonempty : ∀ name ∈ names, name ≠ []) (few : first + names.length ≤ ncdMaxDevices)
    (order : events.filter (manages pid) = creates pid first names)
    (fine : ∀ event ∈ events, delivers event = true)
    (run : exec Driver.step d events = some t) (m : Nat) :
    entry t m = (entry d m).or (named first names m) := by
  induction events generalizing d first names with
  | nil =>
    cases run
    cases names with
    | nil => rw [named_nil, Option.or_none]
    | cons name names => simp [creates] at order
  | cons event events ih =>
    obtain ⟨d', step, rest⟩ := exec_cons run
    have fine' : ∀ event ∈ events, delivers event = true :=
      fun e member => fine e (List.mem_cons_of_mem _ member)
    by_cases managing : manages pid event = true
    · rw [List.filter_cons_of_pos managing] at order
      cases names with
      | nil => simp [creates] at order
      | cons name names =>
        simp only [creates, List.cons.injEq] at order
        obtain ⟨rfl, order⟩ := order
        simp only [Driver.step] at step
        split at step <;> cases step
        simp only [List.length_cons] at few
        subst registered
        obtain ⟨stays, entries⟩ := @createDev_entries d first name (nonempty name (by simp)) (by omega)
        have later := ih stays (fun n member => nonempty n (by simp [member])) (by omega) order fine'
          rest
        rw [later, entries, named_cons, Option.or_assoc]
        by_cases same : m = first
        · simp [same]
        · simp [same]
    · have other : manages d.daemonPid event = false := by
        rw [registered]
        simpa using managing
      rw [List.filter_cons_of_neg managing] at order
      have ordinary := step_ordinary other step
      have stays : d'.daemonPid = pid := by
        rcases ordinary.pid with same | ⟨_, fails⟩
        · exact same.trans registered
        · rw [fine event (by simp)] at fails
          cases fails
      rw [ih stays nonempty few order fine' rest, ordinary.entries]

theorem register_entries {d : Driver} (pid minor : Nat) :
    entry (d.register pid) minor = if d.daemonPid ≠ 0 then none else entry d minor := by
  unfold Driver.register
  split
  · simp only [entry, Driver.known]
    split
    · rfl
    · cases device : d.devices minor with
      | none => rfl
      | some dev =>
        by_cases used : dev.inUse = true
        · simp [used, Device.destroyed]
        · simp [used]
  · rfl

theorem register_pid (d : Driver) (pid : Nat) : (d.register pid).daemonPid = pid := by
  unfold Driver.register
  split <;> rfl

theorem register_keeps (d : Driver) (pid : Nat) :
    (d.register pid).procs = d.procs ∧ (d.register pid).sent = d.sent := by
  unfold Driver.register
  split <;> exact ⟨rfl, rfl⟩

theorem named_zero (names : List (List UInt8)) (minor : Nat) :
    named 0 names minor = (names[minor]?).map cutName := by
  simp [named]

theorem creates_manage (pid : Nat) (names : List (List UInt8)) (first : Nat) :
    ∀ event ∈ creates pid first names, manages pid event = true := by
  induction names generalizing first with
  | nil => simp [creates]
  | cons name names ih =>
    intro event member
    rcases List.mem_cons.mp member with rfl | later
    · simp [manages]
    · exact ih (first + 1) event later

theorem creates_deliver (pid : Nat) (names : List (List UInt8)) (first : Nat) :
    ∀ event ∈ creates pid first names, delivers event = true := by
  induction names generalizing first with
  | nil => simp [creates]
  | cons name names ih =>
    intro event member
    rcases List.mem_cons.mp member with rfl | later
    · rfl
    · exact ih (first + 1) event later

theorem creates_run {pid : Nat} (user : pid ≠ 0) (names : List (List UInt8)) (first : Nat)
    (d : Driver) : ∃ t, exec Driver.step d (creates pid first names) = some t := by
  induction names generalizing first d with
  | nil => exact ⟨d, rfl⟩
  | cons name names ih =>
    obtain ⟨t, run⟩ := ih (first + 1) (d.createDev pid first name .created)
    refine ⟨t, ?_⟩
    simp only [creates, exec, Driver.step, if_neg user, Option.bind_some]
    exact run

/-- The table that a daemon finds is its own if and only if no entry of the old one is left
    that differs. -/
theorem table_iff {d : Driver} {pid : Nat} {names : List (List UInt8)} (user : pid ≠ 0)
    (nonempty : ∀ name ∈ names, name ≠ []) (few : names.length ≤ ncdMaxDevices) :
    (∀ rest t, exec Driver.step d (.register pid :: rest) = some t →
      rest.filter (manages pid) = creates pid 0 names → (∀ event ∈ rest, delivers event = true) →
      ∀ minor, entry t minor = (names[minor]?).map cutName) ↔
    (d.daemonPid ≠ 0 ∨
      ∀ minor name, entry d minor = some name → (names[minor]?).map cutName = some name) := by
  have registers : d.step (.register pid) = some (d.register pid) := by
    simp [Driver.step, user]
  constructor
  · intro own
    by_cases known : d.daemonPid ≠ 0
    · exact .inl known
    · right
      intro minor name old
      obtain ⟨t, run⟩ := creates_run user names 0 (d.register pid)
      have whole : exec Driver.step d (.register pid :: creates pid 0 names) = some t := by
        simp only [exec, registers, Option.bind_some]
        exact run
      have order : (creates pid 0 names).filter (manages pid) = creates pid 0 names :=
        List.filter_eq_self.mpr (creates_manage pid names 0)
      have fine := creates_deliver pid names 0
      have after := creates_entries _ (register_pid d pid) nonempty (by omega) order fine run minor
      rw [register_entries, if_neg known, old, Option.some_or] at after
      rw [← own _ t whole order fine minor, after]
  · intro clean rest t whole order fine minor
    obtain ⟨d', first, run⟩ := exec_cons whole
    rw [registers] at first
    cases first
    rw [creates_entries rest (register_pid d pid) nonempty (by omega) order fine run minor,
      named_zero, register_entries]
    rcases clean with known | alike
    · rw [if_pos known, Option.none_or]
    · split
      · rw [Option.none_or]
      · cases old : entry d minor with
        | none => rw [Option.none_or]
        | some name => rw [Option.some_or, alike minor name old]

/-- As long as pid is registered, no minor from n on is in use, and nobody speaks for one. -/
structure Barred (pid n base : Nat) (d : Driver) : Prop where
  long : base ≤ d.sent.length
  sent : ∀ message ∈ d.sent.drop base, message.pid = pid → message.minor < n
  far : d.daemonPid = pid → ∀ m, n ≤ m →
    entry d m = none ∧ ∀ p ∈ d.procs, p.minor = m → mute d p = true

theorem table_barred {pid n base : Nat} {d d' : Driver} (barred : Barred pid n base d)
    (sent : d'.sent = d.sent) (procs : d'.procs = d.procs)
    (far : d'.daemonPid = pid → d.daemonPid = pid ∧ ∀ m, n ≤ m →
      (entry d m = none → entry d' m = none) ∧ ∀ p, p.minor = m → mute d' p = mute d p) :
    Barred pid n base d' := by
  constructor
  · rw [sent]
    exact barred.long
  · rw [sent]
    exact barred.sent
  · intro registered m beyond
    obtain ⟨before, same⟩ := far registered
    obtain ⟨unknown, mutes⟩ := barred.far before m beyond
    refine ⟨(same m beyond).1 unknown, ?_⟩
    intro p member on
    rw [procs] at member
    rw [(same m beyond).2 p on]
    exact mutes p member on

theorem mute_update {d d' : Driver} {minor : Nat} {dev : Device} (dev' : Device)
    (device : d.devices minor = some dev) (status : dev'.connStatus = dev.connStatus)
    (devices : d'.devices = Function.update d.devices minor (some dev')) (p : Proc) :
    mute d' p = mute d p := by
  by_cases same : p.minor = minor
  · simp [mute, devices, same, device, status]
  · simp [mute, devices, same]

theorem mute_other {d d' : Driver} {minor : Nat} {dev : Option Device}
    (devices : d'.devices = Function.update d.devices minor dev) {p : Proc}
    (other : p.minor ≠ minor) : mute d' p = mute d p := by
  simp [mute, devices, other]

theorem createDev_devices (d : Driver) (pid minor : Nat) (name : List UInt8)
    (outcome : CreateOutcome) :
    (d.createDev pid minor name outcome).sent = d.sent ∧
      (d.createDev pid minor name outcome).procs = d.procs ∧
      (d.createDev pid minor name outcome).daemonPid = d.daemonPid ∧
      ∃ dev, (d.createDev pid minor name outcome).devices =
        Function.update d.devices minor dev := by
  unfold Driver.createDev
  split
  · split
    · exact ⟨rfl, rfl, rfl, _, rfl⟩
    · split
      · exact ⟨rfl, rfl, rfl, _, (Function.update_eq_self minor d.devices).symm⟩
      · exact ⟨rfl, rfl, rfl, _, rfl⟩
  · exact ⟨rfl, rfl, rfl, _, (Function.update_eq_self minor d.devices).symm⟩

theorem createDev_barred {pid n base p minor : Nat} {name : List UInt8} {outcome : CreateOutcome}
    {d : Driver} (barred : Barred pid n base d) (registered : p = d.daemonPid)
    (own : p = pid → minor < n) : Barred pid n base (d.createDev p minor name outcome) := by
  obtain ⟨sent, procs, same, dev, devices⟩ := createDev_devices d p minor name outcome
  apply table_barred barred sent procs
  intro now
  rw [same] at now
  refine ⟨now, ?_⟩
  intro m beyond
  have small := own (registered.trans now)
  have other : m ≠ minor := by omega
  constructor
  · intro unknown
    have kept : entry (d.createDev p minor name outcome) m = entry d m := by
      simp only [entry, Driver.known, devices, Function.update_of_ne other]
    rw [kept]
    exact unknown
  · intro q on
    exact mute_other devices (on ▸ other)

theorem destroyDev_barred {pid n base p minor : Nat} {d : Driver} (barred : Barred pid n base d) :
    Barred pid n base (d.destroyDev p minor) := by
  unfold Driver.destroyDev
  split
  · split
    · rename_i dev known
      obtain ⟨small, device, used⟩ := known_some known
      apply table_barred barred (setDevice_sent d minor _) (setDevice_procs d minor _)
      intro now
      refine ⟨now, ?_⟩
      intro m beyond
      constructor
      · intro unknown
        have other : m ≠ minor := by
          intro same
          rw [same, entry, known] at unknown
          cases unknown
        have kept : (d.setDevice minor dev.destroyed).known m = d.known m := known_other rfl other
        rw [entry, kept]
        exact unknown
      · intro q on
        exact mute_update dev.destroyed device rfl rfl q
    · exact barred
  · exact barred

theorem register_barred {pid n base p : Nat} {d : Driver} (barred : Barred pid n base d)
    (other : p ≠ pid) : Barred pid n base (d.register p) := by
  obtain ⟨procs, sent⟩ := register_keeps d p
  apply table_barred barred sent procs
  intro now
  rw [register_pid] at now
  exact absurd now other

theorem ordinary_barred {pid n base : Nat} {d d' : Driver} {event : Event} (user : pid ≠ 0)
    (barred : Barred pid n base d) (ordinary : Ordinary d event d') : Barred pid n base d' := by
  have same : d'.daemonPid = pid → d.daemonPid = pid := by
    intro now
    rcases ordinary.pid with stays | ⟨gone, _⟩
    · exact stays.symm.trans now
    · exact absurd (now.symm.trans gone) user
  constructor
  · rcases ordinary.sent with kept | ⟨_, minor, message, said, _⟩
    · rw [kept]
      exact barred.long
    · rw [said, List.length_append]
      exact Nat.le_add_right_of_le barred.long
  · rcases ordinary.sent with kept | ⟨_, minor, message, said, why⟩
    · rw [kept]
      exact barred.sent
    · intro one member own
      rw [said, List.drop_append_of_le_length barred.long] at member
      rcases List.mem_append.mp member with old | new
      · exact barred.sent one old own
      · rw [List.mem_singleton.mp new] at own ⊢
        by_contra beyond
        obtain ⟨unknown, mutes⟩ := barred.far own minor (Nat.le_of_not_lt beyond)
        rcases why with inUse | ⟨p, member', on, loud⟩
        · rw [unknown] at inUse
          cases inUse
        · rw [mutes p member' on] at loud
          cases loud
  · intro now m beyond
    obtain ⟨unknown, mutes⟩ := barred.far (same now) m beyond
    exact ⟨(ordinary.entries m).trans unknown, ordinary.silent m unknown mutes⟩

theorem step_barred {pid n base : Nat} {d d' : Driver} {event : Event} (user : pid ≠ 0)
    (barred : Barred pid n base d) (allowed : OwnTable pid n d event)
    (step : d.step event = some d') : Barred pid n base d' := by
  by_cases managing : manages d.daemonPid event = true
  · cases event with
    | register p =>
      simp only [Driver.step] at step
      split at step <;> cases step
      exact register_barred barred allowed
    | createDev p minor name outcome =>
      simp only [Driver.step] at step
      split at step <;> cases step
      exact createDev_barred barred (by simpa [manages] using managing) allowed
    | destroyDev p minor =>
      simp only [Driver.step] at step
      split at step <;> cases step
      exact destroyDev_barred barred
    | _ => cases managing
  · exact ordinary_barred user barred (step_ordinary (by simpa using managing) step)

/-- Some run ends with one request more, for the minor m. -/
def Speaks (n m : Nat) (d : Driver) : Prop :=
  ∃ t message, Reaches Driver.step (OwnTable d.daemonPid n) d t ∧ isRequest message = true ∧
    t.sent = d.sent ++ [{ pid := d.daemonPid, minor := m, message := message }]

theorem speaks_later {n m : Nat} {d d' : Driver} (event : Event)
    (allowed : OwnTable d.daemonPid n d event) (step : d.step event = some d')
    (pid : d'.daemonPid = d.daemonPid) (sent : d'.sent = d.sent) (later : Speaks n m d') :
    Speaks n m d := by
  obtain ⟨t, message, run, request, said⟩ := later
  rw [pid] at run said
  rw [sent] at said
  exact ⟨t, message, (Reaches.single allowed step).trans run, request, said⟩

section
variable {n m i : Nat} {d : Driver} {dev : Device} (registered : d.daemonPid ≠ 0)
  (device : d.devices m = some dev)
include registered device

theorem opened_speaks (found : d.procs[i]? = some ⟨m, .opened⟩) : Speaks n m d :=
  ⟨_, .closeReq, .single (e := .sendCloseReq i .sent) trivial
    (sendCloseReq_sent found device registered), rfl, rfl⟩

theorem requesting_speaks (found : d.procs[i]? = some ⟨m, .requesting⟩) : Speaks n m d :=
  ⟨_, .openReq, .single (e := .sendOpenReq i .sent) trivial
    (sendOpenReq_sent found device registered), rfl, rfl⟩

theorem connecting_speaks (found : d.procs[i]? = some ⟨m, .connecting⟩)
    (status : dev.connStatus = .success) : Speaks n m d := by
  have inside := (List.getElem?_eq_some_iff.mp found).1
  apply speaks_later (.finishOpen i) trivial (finishOpen_success found device status) rfl rfl
  apply opened_speaks (d := d.setPc i m .opened) registered device (i := i)
  rw [setPc_procs, List.getElem?_set_self inside]

theorem entering_speaks (found : d.procs[i]? = some ⟨m, .entering⟩) (free : dev.openCount = 0) :
    Speaks n m d := by
  have inside := (List.getElem?_eq_some_iff.mp found).1
  apply speaks_later (.ncdOpen i) trivial (ncdOpen_free found device free) rfl rfl
  apply requesting_speaks
  · exact registered
  · rw [setPc_devices, setDevice_devices, Function.update_self]
  · rw [setPc_procs, setDevice_procs, List.getElem?_set_self inside]

/- A process that waits for the slot speaks itself, or after the holder has left it. -/
theorem holder_speaks {j : Nat} {pc : Pc} (found : d.procs[i]? = some ⟨m, .entering⟩)
    (other : d.procs[j]? = some ⟨m, pc⟩) (held : holds pc = true) : Speaks n m d := by
  have apart : j ≠ i := by
    intro same
    rw [same, found] at other
    cases other
    cases held
  have inside := (List.getElem?_eq_some_iff.mp found).1
  have leaves : ∀ dev', dev'.openCount = 0 →
      Speaks n m ((d.setDevice m dev').setPc j m .gone) := by
    intro dev' free
    apply entering_speaks (i := i) (d := (d.setDevice m dev').setPc j m .gone) registered
    · rw [setPc_devices, setDevice_devices, Function.update_self]
    · rw [setPc_procs, setDevice_procs, List.getElem?_set_ne apart]
      exact found
    · exact free
  cases pc with
  | entering => cases held
  | gone => cases held
  | requesting => exact requesting_speaks registered device other
  | opened => exact opened_speaks registered device other
  | connecting =>
    apply speaks_later (.interruptOpen j) trivial (interruptOpen_waits other device) rfl rfl
    exact leaves _ rfl
  | releasing =>
    apply speaks_later (.ncdRelease j) trivial (ncdRelease_ends other device) rfl rfl
    exact leaves _ rfl

theorem loud_speaks {pc : Pc} (found : d.procs[i]? = some ⟨m, pc⟩)
    (loud : silent dev.connStatus pc = false)
    (held : openCountOf d m ≠ 0 → 0 < holdersOn d m) : Speaks n m d := by
  cases pc with
  | requesting => exact requesting_speaks registered device found
  | opened => exact opened_speaks registered device found
  | connecting =>
    apply connecting_speaks registered device found
    simpa [silent] using loud
  | releasing => cases loud
  | gone => cases loud
  | entering =>
    by_cases free : dev.openCount = 0
    · exact entering_speaks registered device found free
    · have held_ := held (by simpa [openCountOf, device] using free)
      obtain ⟨p, member, rests⟩ := List.countP_pos_iff.mp held_
      simp only [Bool.and_eq_true, decide_eq_true_eq] at rests
      obtain ⟨j, here⟩ := List.mem_iff_getElem?.mp member
      have other : d.procs[j]? = some ⟨m, p.pc⟩ := by rw [here, ← rests.1]
      exact holder_speaks registered device found other rests.2

end

def Held (d : Driver) : Prop := ∀ m, openCountOf d m ≠ 0 → 0 < holdersOn d m

theorem step_held {d d' : Driver} {event : Event} (held : Held d)
    (step : d.step event = some d') : Held d' := by
  intro m busy
  cases step_slots step with
  | quiet count holders =>
    rw [count] at busy
    rw [holders]
    exact held m busy
  | takes minor free count holders =>
    rw [holders]
    by_cases same : m = minor
    · rw [if_pos same]
      exact Nat.succ_pos _
    · rw [count, if_neg same] at busy
      exact Nat.lt_of_lt_of_le (held m busy) (Nat.le_add_right _ _)
  | frees minor count holders =>
    rw [count] at busy
    have before := holders m
    by_cases same : m = minor
    · rw [if_pos same] at busy
      exact absurd rfl busy
    · rw [if_neg same] at busy before
      have holder := held m busy
      omega
  | resets minor why count holders =>
    rw [count] at busy
    rw [holders]
    by_cases same : m = minor
    · rw [if_pos same] at busy
      exact absurd rfl busy
    · rw [if_neg same] at busy
      exact held m busy

theorem run_held {d : Driver} (run : Reaches Driver.step Any loaded d) : Held d := by
  apply run.keeps (I := Held) (fun held _ step => step_held held step)
  intro m busy
  exact absurd rfl busy

theorem register_mute (d : Driver) (pid : Nat) (p : Proc) : mute (d.register pid) p = mute d p := by
  unfold Driver.register
  split
  · simp only [mute]
    cases d.devices p.minor with
    | none => rfl
    | some dev =>
      dsimp only [Option.map_some]
      split <;> rfl
  · rfl

/-- With the table its own, the daemon is sent no request beyond it if and only if no process
    is left that could speak for another minor. -/
theorem requests_iff {d : Driver} {pid n : Nat} (user : pid ≠ 0)
    (reached : Reaches Driver.step Any loaded d)
    (table : ∀ m, n ≤ m → entry (d.register pid) m = none) :
    (∀ t, Reaches Driver.step (OwnTable pid n) (d.register pid) t →
      ∀ message ∈ t.sent.drop d.sent.length, message.pid = pid → isRequest message.message = true →
        message.minor < n) ↔
    ∀ p ∈ d.procs, n ≤ p.minor → mute d p = true := by
  obtain ⟨procs, sent⟩ := register_keeps d pid
  constructor
  · intro own p member beyond
    by_contra loud
    rw [← register_mute d pid] at loud
    obtain ⟨i, found⟩ := List.mem_iff_getElem?.mp member
    cases device : (d.register pid).devices p.minor with
    | none => simp [mute, device] at loud
    | some dev =>
      have registered : (d.register pid).daemonPid ≠ 0 := by
        rw [register_pid]
        exact user
      have registers : d.step (.register pid) = some (d.register pid) := by
        simp [Driver.step, user]
      have held := run_held (.snoc reached trivial registers)
      obtain ⟨t, message, run, request, said⟩ := @loud_speaks n p.minor i (d.register pid) dev
        registered device p.pc (by rw [procs]; exact found) (by simpa [mute, device] using loud)
        (held p.minor)
      rw [register_pid, sent] at said
      rw [register_pid] at run
      have less := own t run { pid := pid, minor := p.minor, message := message }
        (by simp [said]) rfl request
      exact absurd less (Nat.not_lt.mpr beyond)
  · intro quiet t run message member own _
    have start : Barred pid n d.sent.length (d.register pid) := by
      refine ⟨Nat.le_of_eq (congrArg List.length sent.symm), ?_, ?_⟩
      · rw [sent, List.drop_length]
        simp
      · intro _ m beyond
        refine ⟨table m beyond, ?_⟩
        intro p member' on
        rw [procs] at member'
        rw [register_mute]
        exact quiet p member' (on ▸ beyond)
    have barred := run.keeps (I := Barred pid n d.sent.length) (step_barred user) start
    exact barred.sent message member own

theorem beyond_table {d : Driver} {names : List (List UInt8)} (pid : Nat)
    (clean : d.daemonPid ≠ 0 ∨
      ∀ minor name, entry d minor = some name → (names[minor]?).map cutName = some name)
    (m : Nat) (beyond : names.length ≤ m) : entry (d.register pid) m = none := by
  rw [register_entries]
  rcases clean with known | alike
  · rw [if_pos known]
  · split
    · rfl
    · cases old : entry d m with
      | none => rfl
      | some name =>
        have same := alike m name old
        rw [List.getElem?_eq_none beyond] at same
        cases same

/-- For every reachable state of the driver: a newly registered daemon gets exactly its own
    devices, and requests for no others, if and only if the old ones leave no trace. -/
theorem own_devices_iff {d : Driver} (reached : Reaches Driver.step Any loaded d) {pid : Nat}
    (user : pid ≠ 0) {names : List (List UInt8)} (few : names.length ≤ ncdMaxDevices)
    (nonempty : ∀ name ∈ names, name ≠ []) : GetsItsOwn d pid names ↔ Clean d names := by
  constructor
  · intro own
    have clean := (table_iff user nonempty few).mp own.table
    exact ⟨clean, (requests_iff user reached (beyond_table pid clean)).mp own.requests⟩
  · intro clean
    have beyond := beyond_table pid clean.table
    exact ⟨(table_iff user nonempty few).mpr clean.table,
      (requests_iff user reached beyond).mpr clean.quiet⟩

/-- A daemon creates two devices and dies; the next open notices it. -/
def daemonDies : List Event :=
  [.register 1, .createDev 1 0 [0x61] .created, .createDev 1 1 [0x62] .created, .lookup 0,
   .ncdOpen 0, .sendOpenReq 0 .undelivered]

theorem entry_small {d : Driver} {minor : Nat} {name : List UInt8}
    (here : entry d minor = some name) : minor < ncdMaxDevices := by
  obtain ⟨dev, known, _⟩ := Option.map_eq_some_iff.mp here
  exact (known_some known).1

/- The same configuration again: nothing is cleaned, and nothing has to be. -/
theorem same_devices_again :
    ∃ d, exec Driver.step loaded daemonDies = some d ∧ d.daemonPid = 0 ∧
      GetsItsOwn d 2 [[0x61], [0x62]] := by
  have ends : (exec Driver.step loaded daemonDies).map
      (fun d => (d.daemonPid, d.procs, (List.range ncdMaxDevices).map (entry d))) =
      some (0, [⟨0, .gone⟩], [some [0x61], some [0x62]] ++ List.replicate 14 none) := by
    decide +kernel
  obtain ⟨d, run, same⟩ := Option.map_eq_some_iff.mp ends
  simp only [Prod.mk.injEq] at same
  obtain ⟨unregistered, procs, entries⟩ := same
  refine ⟨d, run, unregistered, ?_⟩
  apply (own_devices_iff (reaches_of_exec daemonDies run) (by decide) (by decide) (by decide)).mpr
  refine ⟨.inr ?_, ?_⟩
  · intro minor name here
    have small := entry_small here
    have at_ : ((List.range ncdMaxDevices).map (entry d))[minor]? = some (some name) := by
      rw [List.getElem?_map, List.getElem?_range small, Option.map_some, here]
    rw [entries] at at_
    match minor with
    | 0 => simpa [cutName, ncdMaxNameLen] using at_
    | 1 => simpa [cutName, ncdMaxNameLen] using at_
    | k + 2 =>
      rw [List.getElem?_append_right (by simp)] at at_
      have none := List.eq_of_mem_replicate (List.mem_of_getElem? at_)
      cases none
  · intro p member _
    rw [procs] at member
    rw [List.mem_singleton.mp member]
    unfold mute
    split <;> rfl

/- Another configuration: the device of minor 1 stays, and minor 0 keeps its name. -/
theorem old_devices_stay :
    ¬ ∀ d, Reaches Driver.step Any loaded d → GetsItsOwn d 2 [[0x63]] := by
  intro always
  have ends : (exec Driver.step loaded daemonDies).map (fun d => (d.daemonPid, entry d 1)) =
      some (0, some [0x62]) := by
    decide +kernel
  obtain ⟨d, run, same⟩ := Option.map_eq_some_iff.mp ends
  simp only [Prod.mk.injEq] at same
  have own := (always d (reaches_of_exec daemonDies run)).table
  rcases (table_iff (by decide) (by decide) (by decide)).mp own with known | alike
  · exact known same.1
  · simpa using alike 1 [0x62] same.2

end NcdDeviceTable
