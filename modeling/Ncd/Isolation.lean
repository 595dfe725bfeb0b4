import Ncd.Sessions

/- Bytes of an earlier connection in a later session: they come in through the channel of the
   actors and the queue of the daemon, and nowhere else. -/
namespace NcdIsolation
open NcdDriver NcdDaemon NcdFlowControl NcdSessions LabelledRuns

variable {α : Type}

/-- Every byte that ncd_read has returned came over the connection of its own session. -/
def Isolated (s : Sessions) : Prop := ∀ entry ∈ s.returned, entry.2.session = entry.1

def chunkSent : DaemonPc α → List α
  | .sending chunk _ => chunk
  | _ => []

def kbufRead : ReaderPc α → List α
  | .copying kbuf _ => kbuf
  | _ => []

def clears : DriverMsg → Bool
  | .openReq _ => true
  | .closeReq => true
  | _ => false

def availableFirst : List DriverMsg → Bool
  | [] => false
  | .available :: _ => true
  | message :: rest => !clears message && availableFirst rest

/-- The daemon sends nothing of pending before it clears it. -/
def stuck (s : Flow α) : Bool :=
  (chunkSent s.daemon).isEmpty &&
    (s.minor.paused || NcdDaemon.fifoHighWatermark < spent s.minor s.daemon) &&
    !availableFirst s.queue

theorem stuck_iff (s : Flow α) : stuck s = true ↔ chunkSent s.daemon = [] ∧
    (s.minor.paused = true ∨ NcdDaemon.fifoHighWatermark < spent s.minor s.daemon) ∧
    availableFirst s.queue = false := by
  simp [stuck, and_assoc]

/-- The bytes that are between the actors and the driver, and may still get there. -/
def underway (s : Sessions) : List TaggedByte :=
  s.tcp.flatten ++ chunkSent s.flow.daemon ++
    if stuck s.flow then [] else s.flow.minor.pending.flatten

/-- ncd_open has reset the buffers, and ncd_release has not begun. -/
def live : UserPc → Bool
  | .requesting => true
  | .connecting => true
  | .opened => true
  | _ => false

/-- ncd_open finds something underway, or an actor forwards data while another session than
    that of its connection is live. -/
def leaks (s : Sessions) : SessionEvent → Bool
  | .ncdOpen => !(underway s).isEmpty
  | .actor index (.forward data) =>
    match s.actors[index]? with
    | some actor => live s.user && actor.session ≠ s.session && !data.isEmpty
    | none => false
  | _ => false

def bytes (s : Flow α) : List α := contents s.dev ++ chunkSent s.daemon ++ kbufRead s.reader

def arrived : FlowEvent α → List α
  | .tcp data => data
  | _ => []

theorem availableFirst_append {queue : List DriverMsg} {message : DriverMsg}
    (late : availableFirst queue = false)
    (other : message ≠ .available ∨ ∃ earlier ∈ queue, clears earlier = true) :
    availableFirst (queue ++ [message]) = false := by
  induction queue with
  | nil =>
    rcases other with not_it | ⟨_, member, _⟩
    · cases message <;> simp [availableFirst] at not_it ⊢
    · cases member
  | cons first rest ih =>
    cases first with
    | available => cases late
    | openReq session => rfl
    | closeReq => rfl
    | full =>
      refine ih late (other.imp id ?_)
      rintro ⟨earlier, member, clear⟩
      rcases List.mem_cons.mp member with is | later
      · rw [is] at clear
        cases clear
      · exact ⟨earlier, later, clear⟩
    | data bytes =>
      refine ih late (other.imp id ?_)
      rintro ⟨earlier, member, clear⟩
      rcases List.mem_cons.mp member with is | later
      · rw [is] at clear
        cases clear
      · exact ⟨earlier, later, clear⟩

theorem received_bytes {dev : NcdDevice α} {chunk : List α} {memory : Bool}
    {after : NcdDevice α × DataFlags} (received : Received dev chunk memory after) :
    ∀ b ∈ contents after.1, b ∈ contents dev ∨ b ∈ chunk := by
  intro b member
  rw [received_contents received, List.mem_append] at member
  refine member.imp_right fun new => ?_
  split at new
  · cases new
  · exact new

theorem step_bytes {s s' : Flow α} {event : FlowEvent α} (orderly : Orderly s)
    (step : s.step event = some s') :
    ∀ b ∈ bytes s', b ∈ bytes s ∨ stuck s = false ∧ b ∈ s.minor.pending.flatten := by
  intro b member
  simp only [bytes, List.mem_append] at member ⊢
  cases step_change step with
  | @takes count memory here =>
    have order := ncdReadLocked_contents s.dev count
    have from_dev : b ∈ (ncdReadLocked s.dev count).2.1 ∨
          b ∈ contents (ncdReadLocked s.dev count).1 →
        b ∈ contents s.dev := fun either => order ▸ List.mem_append.mpr either
    simp only [kbufRead] at member
    tauto
  | @copies kbuf shouldResume delivered reader here goes =>
    rcases goes with same | ⟨_, same⟩ <;>
      simp only [same, kbufRead, List.not_mem_nil] at member <;> tauto
  | pops here running low queue =>
    have flows : stuck s = false := by simp [stuck, here, running, spent, Nat.not_lt.mpr low]
    simp only [queue, List.flatten_cons, List.mem_append, chunkSent] at member ⊢
    tauto
  | @enters chunk arm memory after here free received =>
    subst received
    have from_dev := received_bytes (orderly_received orderly here memory) b
    simp only [here, chunkSent, List.not_mem_nil] at member ⊢
    tauto
  | @passes chunk arm memory after here free received =>
    subst received
    have from_dev := received_bytes (orderly_received orderly here memory) b
    simp only [here, chunkSent, List.not_mem_nil] at member ⊢
    tauto
  | _ =>
    simp only [chunkSent, kbufRead, List.not_mem_nil] at member
    tauto

theorem step_pending {s s' : Flow α} {event : FlowEvent α} (step : s.step event = some s') :
    ∀ b ∈ s'.minor.pending.flatten, b ∈ s.minor.pending.flatten ∨ b ∈ arrived event := by
  intro b member
  cases step_change step with
  | pauses here queue same => exact .inl (same.2.2 ▸ member)
  | settles here done same => exact .inl (same.2.2 ▸ member)
  | queues here =>
    simp only [queueShards, List.flatten_append,
      Chunks.chunks_flatten (n := shardSize) (by decide)] at member
    exact List.mem_append.mp member
  | pops here running low queue =>
    rw [queue, List.flatten_cons]
    exact .inl (List.mem_append_right _ member)
  | _ => exact .inl member

/-- A stuck pending stays so; what the reader appends comes after a message that clears it. -/
theorem step_stuck {s s' : Flow α} {event : FlowEvent α} (orderly : Orderly s)
    (blocked : stuck s = true)
    (cleared : s.reader = .idle ∨ ∃ message ∈ s.queue, clears message = true)
    (step : s.step event = some s') : stuck s' = true := by
  rw [stuck_iff] at blocked ⊢
  obtain ⟨resting, stopped, late⟩ := blocked
  cases step_change step with
  | asks here =>
    have clear := cleared.resolve_left (by simp [here])
    exact ⟨resting, stopped, availableFirst_append late (.inr clear)⟩
  | resumes here =>
    have clear := cleared.resolve_left (by simp [here])
    exact ⟨resting, stopped, availableFirst_append late (.inr clear)⟩
  | pauses here queue same =>
    rw [queue] at late
    exact ⟨resting, .inl same.1, late⟩
  | resets here queue =>
    rw [queue] at late
    cases late
  | queues here => exact ⟨rfl, by simpa [spent, here] using stopped, late⟩
  | pops here running low queue =>
    rcases stopped with paused | excess
    · rw [running] at paused
      cases paused
    · simp only [spent, here] at excess
      omega
  | settles here done same =>
    exact ⟨rfl, by simpa [spent, here, same.1, same.2.1] using stopped, late⟩
  | @enters chunk arm memory after here free received =>
    have nonempty := (orderly.transit chunk (by simp [here, inTransit])).1
    rw [here] at resting
    exact absurd resting nonempty
  | @passes chunk arm memory after here free received =>
    have nonempty := (orderly.transit chunk (by simp [here, inTransit])).1
    rw [here] at resting
    exact absurd resting nonempty
  | notifies here =>
    exact ⟨rfl, by simpa [spent, here, Minor.sent] using stopped,
      availableFirst_append late (.inl (by simp))⟩
  | _ => exact ⟨resting, stopped, late⟩

/- The messages that clear pending are left to the arms of OPEN_REQ and CLOSE_REQ. -/
theorem step_clearing {s s' : Flow α} {event : FlowEvent α}
    (queued : ∃ message ∈ s.queue, clears message = true) (step : s.step event = some s') :
    ∃ message ∈ s'.queue, clears message = true := by
  obtain ⟨message, member, clear⟩ := queued
  have pops : ∀ {first rest}, s.queue = first :: rest → clears first = false → message ∈ rest := by
    intro first rest queue other
    rcases List.mem_cons.mp (queue ▸ member) with is | later
    · rw [is, other] at clear
      cases clear
    · exact later
  cases step_change step with
  | asks here => exact ⟨message, List.mem_append_left _ member, clear⟩
  | resumes here => exact ⟨message, List.mem_append_left _ member, clear⟩
  | notifies here => exact ⟨message, List.mem_append_left _ member, clear⟩
  | pauses here queue same => exact ⟨message, pops queue rfl, clear⟩
  | resets here queue => exact ⟨message, pops queue rfl, clear⟩
  | _ => exact ⟨message, member, clear⟩

theorem step_quiet {s s' : Flow α} {event : FlowEvent α} (idle : s.reader = .idle)
    (other : ∀ count, event ≠ .read count) (step : s.step event = some s') : s'.reader = .idle := by
  cases step_change step with
  | reads here => exact absurd rfl (other _)
  | finds here empty => simp [idle] at here
  | fails here => rfl
  | takes here => simp [idle] at here
  | asks here => simp [idle] at here
  | wakes here => simp [idle] at here
  | copies here goes => simp [idle] at here
  | interrupts here => rfl
  | resumes here => rfl
  | _ => exact idle

/-- What pending holds is of the live session, or will never be sent. -/
def PendingHarmless (s : Sessions) : Prop :=
  (∀ b ∈ s.flow.minor.pending.flatten, b.session = s.session) ∨
    stuck s.flow = true ∧
      (s.user ≠ .requesting → ∃ message ∈ s.flow.queue, clears message = true)

structure Tagged (s : Sessions) : Prop where
  orderly : Orderly s.flow
  quiet : s.user ≠ .opened → s.flow.reader = .idle
  held : live s.user = true → ∀ b ∈ bytes s.flow, b.session = s.session
  pending : live s.user = true → PendingHarmless s
  arriving : live s.user = true → ∀ b ∈ s.tcp.flatten, b.session = s.session
  returned : Isolated s

theorem opens_tagged {s : Sessions} (tagged : Tagged s) (clean : leaks s .ncdOpen = false)
    (closed : s.user = .closed) : Tagged { s with
      user := .requesting
      connStatus := .waiting
      session := s.session + 1
      flow := { s.flow with dev := ncdClearBuffers s.flow.dev } } := by
  have idle := tagged.quiet (by simp [closed])
  have nothing : underway s = [] := by simpa [leaks] using clean
  simp only [underway, List.append_eq_nil_iff] at nothing
  obtain ⟨⟨tcp, sent⟩, pending⟩ := nothing
  refine ⟨⟨wellFormed_clear s.flow.dev, tagged.orderly.shards, tagged.orderly.transit⟩,
    fun _ => idle, fun _ => ?_, fun _ => ?_, fun _ => ?_, tagged.returned⟩
  · simp [bytes, contents, ncdClearBuffers, sent, idle, kbufRead]
  · by_cases blocked : stuck s.flow = true
    · exact .inr ⟨blocked, fun other => absurd rfl other⟩
    · rw [if_neg blocked] at pending
      exact .inl (by simp [pending])
  · simp [tcp]

/-- Only the process, the actors or the queue to the daemon have moved. -/
structure Untouched (s s' : Sessions) : Prop where
  dev : s'.flow.dev = s.flow.dev
  minor : s'.flow.minor = s.flow.minor
  reader : s'.flow.reader = s.flow.reader
  transit : inTransit s'.flow.daemon = inTransit s.flow.daemon
  sent : chunkSent s'.flow.daemon = chunkSent s.flow.daemon
  session : s'.session = s.session
  tcp : s'.tcp = s.tcp
  returned : s'.returned = s.returned
  lives : live s'.user = true → live s.user = true

theorem untouched_tagged {s s' : Sessions} (tagged : Tagged s) (same : Untouched s s')
    (quiet : s'.user ≠ .opened → s.flow.reader = .idle)
    (pending : live s'.user = true → PendingHarmless s → PendingHarmless s') : Tagged s' := by
  refine ⟨⟨?_, ?_, ?_⟩, fun closed => same.reader.trans (quiet closed), fun lives => ?_,
    fun lives => pending lives (tagged.pending (same.lives lives)), fun lives => ?_, ?_⟩
  · rw [same.dev]
    exact tagged.orderly.device
  · rw [same.minor]
    exact tagged.orderly.shards
  · rw [same.transit]
    exact tagged.orderly.transit
  · rw [bytes, same.dev, same.sent, same.reader, same.session]
    exact tagged.held (same.lives lives)
  · rw [same.tcp, same.session]
    exact tagged.arriving (same.lives lives)
  · rw [Isolated, same.returned]
    exact tagged.returned

theorem asks_tagged {s : Sessions} (tagged : Tagged s) (here : s.user = .requesting) :
    Tagged { s with
      user := .connecting
      flow := { s.flow with queue := s.flow.queue ++ [.openReq s.session] } } := by
  have idle := tagged.quiet (by simp [here])
  refine untouched_tagged tagged
    ⟨rfl, rfl, rfl, rfl, rfl, rfl, rfl, rfl, fun _ => by simp [here, live]⟩
    (fun _ => idle) fun _ harmless => harmless.imp id fun ⟨blocked, _⟩ => ?_
  rw [stuck_iff] at blocked ⊢
  obtain ⟨resting, stopped, late⟩ := blocked
  exact ⟨⟨resting, stopped, availableFirst_append late (.inl (by simp))⟩,
    fun _ => ⟨.openReq s.session, by simp, rfl⟩⟩

theorem succeeds_tagged {s : Sessions} (tagged : Tagged s) (here : s.user = .connecting) :
    Tagged { s with user := .opened } := by
  have idle := tagged.quiet (by simp [here])
  refine untouched_tagged tagged
    ⟨rfl, rfl, rfl, rfl, rfl, rfl, rfl, rfl, fun _ => by simp [here, live]⟩
    (fun _ => idle) fun _ harmless => harmless.imp id fun ⟨blocked, clearing⟩ => ?_
  exact ⟨blocked, fun _ => clearing (by simp [here])⟩

/- The process is not, or no more, at the device. -/
theorem leaves_tagged {s : Sessions} {user : UserPc} {connStatus : ConnStatus}
    {queue : List DriverMsg} (tagged : Tagged s) (idle : s.flow.reader = .idle)
    (ended : live user = false) : Tagged { s with
      user := user, connStatus := connStatus, flow := { s.flow with queue := queue } } := by
  have never {P : Prop} (lives : live user = true) : P := by
    rw [ended] at lives
    cases lives
  exact untouched_tagged tagged ⟨rfl, rfl, rfl, rfl, rfl, rfl, rfl, rfl, never⟩ (fun _ => idle)
    never

theorem writes_tagged {s : Sessions} (bytes : List UInt8) (tagged : Tagged s) :
    Tagged { s with flow := { s.flow with queue := s.flow.queue ++ [.data bytes] } } := by
  refine untouched_tagged tagged ⟨rfl, rfl, rfl, rfl, rfl, rfl, rfl, rfl, id⟩ tagged.quiet
    fun _ harmless => harmless.imp id fun ⟨blocked, clearing⟩ => ?_
  rw [stuck_iff] at blocked ⊢
  obtain ⟨resting, stopped, late⟩ := blocked
  refine ⟨⟨resting, stopped, availableFirst_append late (.inl (by simp))⟩, fun other => ?_⟩
  obtain ⟨message, member, clear⟩ := clearing other
  exact ⟨message, List.mem_append_left _ member, clear⟩

theorem released_tagged {s : Sessions} (tagged : Tagged s) (here : s.user = .releasing) :
    Tagged { s with
      user := .closed
      connStatus := .waiting
      flow := { s.flow with dev := ncdClearBuffers s.flow.dev } } := by
  have idle := tagged.quiet (by simp [here])
  refine ⟨⟨wellFormed_clear s.flow.dev, tagged.orderly.shards, tagged.orderly.transit⟩,
    fun _ => idle, ?_, ?_, ?_, tagged.returned⟩ <;> simp [live]

theorem takesOpen_tagged {s : Sessions} (session : Nat) (rest : List DriverMsg)
    (tagged : Tagged s) : Tagged { s with
      flow := { s.flow with
        queue := rest, minor := s.flow.minor.cleared, daemon := .opening session } } := by
  refine ⟨⟨tagged.orderly.device, by simp [Minor.cleared], by simp [inTransit]⟩, tagged.quiet,
    fun lives b member => tagged.held lives b ?_, fun _ => .inl (by simp [Minor.cleared]),
    tagged.arriving, tagged.returned⟩
  simp only [bytes, chunkSent, List.mem_append, List.not_mem_nil] at member ⊢
  tauto

/- Between Device::open and the CONN_RES the daemon has nothing in sendmsg. -/
theorem answer_harmless {s s' : Sessions} (minor : s'.flow.minor = s.flow.minor)
    (queue : s'.flow.queue = s.flow.queue)
    (sent : chunkSent s'.flow.daemon = chunkSent s.flow.daemon)
    (taken : spent s.flow.minor s'.flow.daemon = spent s.flow.minor s.flow.daemon)
    (session : s'.session = s.session) (user : s'.user = s.user) (harmless : PendingHarmless s) :
    PendingHarmless s' := by
  unfold PendingHarmless at harmless ⊢
  rw [stuck_iff] at harmless ⊢
  rwa [minor, queue, sent, taken, session, user]

theorem waits_unsent {daemon : DaemonPc α} (minor : Minor α) (waits : inTransit daemon = none) :
    chunkSent daemon = [] ∧ spent minor daemon = minor.inflight := by
  cases daemon with
  | sending | notifying => cases waits
  | select | opening | answering | flushing => exact ⟨rfl, rfl⟩

theorem answers_tagged {s : Sessions} {connStatus : ConnStatus} {actors : List Actor}
    {writeTx : Option Nat} {daemon : DaemonPc TaggedByte} (tagged : Tagged s)
    (waits : inTransit s.flow.daemon = none) (goes : inTransit daemon = none) :
    Tagged { s with
      connStatus := connStatus, actors := actors, writeTx := writeTx
      flow := { s.flow with daemon := daemon } } := by
  obtain ⟨sent, taken⟩ := waits_unsent s.flow.minor waits
  obtain ⟨sent', taken'⟩ := waits_unsent s.flow.minor goes
  exact untouched_tagged tagged ⟨rfl, rfl, rfl, goes.trans waits.symm, sent'.trans sent.symm,
    rfl, rfl, rfl, id⟩ tagged.quiet
    fun _ => answer_harmless rfl rfl (sent'.trans sent.symm) (taken'.trans taken.symm) rfl rfl

theorem takesData_tagged {s : Sessions} {bytes : List UInt8} {rest : List DriverMsg}
    (actors : List Actor) (tagged : Tagged s) (queue : s.flow.queue = .data bytes :: rest) :
    Tagged { s with actors := actors, flow := { s.flow with queue := rest } } := by
  refine untouched_tagged tagged ⟨rfl, rfl, rfl, rfl, rfl, rfl, rfl, rfl, id⟩ tagged.quiet
    fun _ harmless => harmless.imp id fun ⟨blocked, clearing⟩ => ?_
  rw [stuck_iff, queue] at blocked
  rw [stuck_iff]
  refine ⟨blocked, fun other => ?_⟩
  obtain ⟨message, member, clear⟩ := clearing other
  rcases List.mem_cons.mp (queue ▸ member) with is | later
  · rw [is] at clear
    cases clear
  · exact ⟨message, later, clear⟩

theorem takesClose_tagged {s : Sessions} (actors : List Actor) (rest : List DriverMsg)
    (tagged : Tagged s) : Tagged { s with
      actors := actors
      writeTx := none
      flow := { s.flow with queue := rest, minor := s.flow.minor.cleared } } :=
  ⟨⟨tagged.orderly.device, by simp [Minor.cleared], tagged.orderly.transit⟩, tagged.quiet,
    tagged.held, fun _ => .inl (by simp [Minor.cleared]), tagged.arriving, tagged.returned⟩

theorem copied_bytes {s : Sessions} {event : FlowEvent TaggedByte} :
    ∀ b ∈ s.copied event, b ∈ bytes s.flow ∧ s.flow.reader ≠ .idle := by
  intro b member
  unfold Sessions.copied at member
  split at member
  · split at member
    · rename_i kbuf resume here
      simp [bytes, here, kbufRead, member]
    · cases member
  · cases member

theorem flow_tagged {s : Sessions} {flow : Flow TaggedByte} {event : FlowEvent TaggedByte}
    (tagged : Tagged s) (lives : live s.user = true)
    (new : ∀ b ∈ arrived event, b.session = s.session) (moves : s.flow.step event = some flow) :
    (∀ b ∈ bytes flow, b.session = s.session) ∧
      PendingHarmless { s with flow := flow } := by
  have held := tagged.held lives
  have quiet := tagged.quiet
  have sent := step_bytes tagged.orderly moves
  have pending := step_pending moves
  rcases tagged.pending lives with current | ⟨blocked, clearing⟩
  · refine ⟨fun b member => ?_, .inl fun b member => ?_⟩
    · exact (sent b member).elim (held b) fun more => current b more.2
    · exact (pending b member).elim (current b) (new b)
  · refine ⟨fun b member => ?_, .inr ⟨step_stuck tagged.orderly blocked ?_ moves, fun other => ?_⟩⟩
    · refine (sent b member).elim (held b) fun more => ?_
      rw [blocked] at more
      cases more.1
    · by_cases requesting : s.user = .requesting
      · exact .inl (quiet (by simp [requesting]))
      · exact .inr (clearing requesting)
    · exact step_clearing (clearing other) moves

theorem flows_tagged {s : Sessions} {event : FlowEvent TaggedByte} {flow : Flow TaggedByte}
    (actors : List Actor) (tagged : Tagged s) (permitted : s.permits event = true)
    (moves : s.flow.step event = some flow) : Tagged { s with
      flow := flow
      actors := actors
      returned := s.returned ++ (s.copied event).map (s.session, ·) } := by
  have nothing : ∀ b ∈ arrived event, b.session = s.session := by
    cases event <;> simp [arrived, Sessions.permits] at permitted ⊢
  refine ⟨step_orderly tagged.orderly moves, fun closed => ?_,
    fun lives => (flow_tagged tagged lives nothing moves).1,
    fun lives => (flow_tagged tagged lives nothing moves).2, tagged.arriving, ?_⟩
  · refine step_quiet (tagged.quiet closed) (fun count is => ?_) moves
    subst is
    exact closed (by simpa [Sessions.permits] using permitted)
  · intro entry member
    rcases List.mem_append.mp member with old | new
    · exact tagged.returned entry old
    · obtain ⟨b, copied, is⟩ := List.mem_map.mp new
      subst is
      obtain ⟨held, reading⟩ := copied_bytes b copied
      have opened : s.user = .opened := by
        by_contra closed
        exact reading (tagged.quiet closed)
      exact tagged.held (by simp [opened, live]) b held

theorem takesTcp_tagged {s : Sessions} {data : List TaggedByte} {rest : List (List TaggedByte)}
    {flow : Flow TaggedByte} (tagged : Tagged s) (tcp : s.tcp = data :: rest)
    (moves : s.flow.step (.tcp data) = some flow) :
    Tagged { s with flow := flow, tcp := rest } := by
  have arriving := tagged.arriving
  simp only [tcp, List.flatten_cons, List.mem_append] at arriving
  have new : live s.user = true → ∀ b ∈ arrived (.tcp data), b.session = s.session :=
    fun lives b member => arriving lives b (.inl member)
  exact ⟨step_orderly tagged.orderly moves,
    fun closed => step_quiet (tagged.quiet closed) (by simp) moves,
    fun lives => (flow_tagged tagged lives (new lives) moves).1,
    fun lives => (flow_tagged tagged lives (new lives) moves).2,
    fun lives b member => arriving lives b (.inr member), tagged.returned⟩

theorem forwards_tagged {s : Sessions} (tagged : Tagged s) (actors : List Actor)
    {new : List (List TaggedByte)}
    (own : live s.user = true → ∀ b ∈ new.flatten, b.session = s.session) :
    Tagged { s with actors := actors, tcp := s.tcp ++ new } := by
  refine ⟨tagged.orderly, tagged.quiet, tagged.held, tagged.pending, fun lives b member => ?_,
    tagged.returned⟩
  rw [List.flatten_append, List.mem_append] at member
  rcases member with old | new
  · exact tagged.arriving lives b old
  · exact own lives b new

theorem acts_tagged {s : Sessions} {index : Nat} {event : ActorEvent} {actor : Actor}
    (actors : List Actor) (tagged : Tagged s) (clean : leaks s (.actor index event) = false)
    (there : s.actors[index]? = some actor) :
    Tagged { s with actors := actors, tcp := s.tcp ++ forwarded actor.session event } := by
  refine forwards_tagged tagged actors fun lives b new => ?_
  cases event with
  | forward data =>
    obtain ⟨v, value, is⟩ : ∃ v, v ∈ data ∧ TaggedByte.mk actor.session v = b := by
      simpa [forwarded] using new
    have nonempty : data ≠ [] := List.ne_nil_of_mem value
    subst is
    by_contra other
    have late : leaks s (.actor index (.forward data)) = true := by
      simpa [leaks, there, nonempty, show live s.user = true from lives] using other
    rw [clean] at late
    cases late
  | _ => simp [forwarded] at new

theorem step_tagged {s s' : Sessions} {event : SessionEvent} (tagged : Tagged s)
    (clean : leaks s event = false) (step : s.step event = some s') : Tagged s' := by
  cases session_move step with
  | opens here => exact opens_tagged tagged clean here
  | asks here => exact asks_tagged tagged here
  | succeeds here status => exact succeeds_tagged tagged here
  | unsent here | refused here status | interrupted here =>
    exact leaves_tagged tagged (tagged.quiet (by simp [here])) rfl
  | closes here idle | unclosed here idle => exact leaves_tagged tagged idle rfl
  | writes here => exact writes_tagged _ tagged
  | released here => exact released_tagged tagged here
  | flows permitted moved => exact flows_tagged _ tagged permitted moved
  | takesOpen here queue => exact takesOpen_tagged _ _ tagged
  | connects here | misses here | replies here =>
    exact answers_tagged tagged (by rw [here]; rfl) rfl
  | takesData here queue => exact takesData_tagged _ tagged queue
  | takesClose here queue => exact takesClose_tagged _ _ tagged
  | takesTcp tcp moved => exact takesTcp_tagged tagged tcp moved
  | acts there round => exact acts_tagged _ tagged clean there

theorem created_tagged : Tagged created :=
  ⟨opened_orderly, fun _ => rfl, by simp [created, live], by simp [created, live],
    by simp [created], by simp [created, Isolated]⟩

/-- Without the two leaks, every session reads the bytes of its own connection only. -/
theorem sessions_isolated {s : Sessions}
    (run : Reaches Sessions.step (fun s event => leaks s event = false) created s) : Isolated s :=
  (run.keeps (fun tagged clean step => step_tagged tagged clean step) created_tagged).returned

def opens : List SessionEvent :=
  [.ncdOpen, .sendOpenReq true, .openReq, .connect true, .connRes, .finishOpen]

def readsOne : List SessionEvent :=
  [.tcp, .flow (.flush true), .flow (.data true), .flow (.flush true), .flow (.read 1),
    .flow (.lock true), .flow (.copy true)]

def twoSessions : List SessionEvent :=
  opens ++ [.actor 0 (.forward [0x61])] ++ readsOne ++
    [.flow .resume, .sendCloseReq true, .ncdRelease, .flow (.kfifo true), .flow (.flush true),
      .closeReq, .actor 0 (.command true), .actor 0 .closed] ++
    opens ++ [.actor 1 (.forward [0x62])] ++ readsOne

def bothRead : Sessions :=
  (execIf Sessions.step (fun s event => leaks s event = false) created twoSessions).getD created

theorem bothRead_isolated : Isolated bothRead :=
  sessions_isolated (reaches_of_execIf twoSessions (by decide +kernel))

/-- The actor of session 1 is told to close when session 2 is already open, and forwards a
    message that its connection still had. -/
def lateMessage : List SessionEvent :=
  opens ++ [.sendCloseReq true, .ncdRelease, .closeReq] ++ opens ++
    [.actor 0 (.command true), .actor 0 (.forward [0xAA]), .actor 0 .closed] ++ readsOne

theorem late_message_read :
    ¬ ∀ s : Sessions, Reaches Sessions.step Any created s → Isolated s := by
  intro claim
  have isolated := claim ((exec Sessions.step created lateMessage).getD created)
    (reaches_of_exec lateMessage (by decide +kernel)) (2, ⟨1, 0xAA⟩) (by decide +kernel)
  cases isolated

end NcdIsolation
