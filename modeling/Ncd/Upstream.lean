import Ncd.Downstream
import Ncd.Isolation

/- From the adapter to read(2): the bytes that come over a connection reach the process in
   order, through the daemon's queue and the two buffers of the driver. What is lost on the way
   is lost by a failed copy or allocation, or because its session is over. -/
namespace NcdUpstream
open NcdConnection NcdHandler NcdBooks NcdDriver NcdDaemon NcdFlowControl NcdSessions
  NcdOpenClose NcdBridges NcdForwarding NcdPipeline NcdLaneOrder NcdWriteOrder NcdAdapter
  NcdAdapterOutput NcdReception NcdFeeding NcdSystem NcdDownstream NcdIsolation LabelledRuns

variable {α : Type}

/-- out is what becomes of a stream; as long as it is kept, that is all of it. -/
def Passes (kept : Prop) (out stream : List α) : Prop :=
  out.Sublist stream ∧ (kept → out = stream)

variable {kept : Prop} {out stream more : List α}

theorem passes_all (same : out = stream) : Passes kept out stream :=
  ⟨same ▸ List.Sublist.refl _, fun _ => same⟩

theorem passes_append (passes : Passes kept out stream) (more : List α) :
    Passes kept (out ++ more) (stream ++ more) :=
  ⟨passes.1.append (List.Sublist.refl more), fun all => by rw [passes.2 all]⟩

def held (s : Flow α) : List α :=
  kbufRead s.reader ++ contents s.dev ++ chunkSent s.daemon ++ s.minor.pending.flatten

def leaving (s : Flow α) : FlowEvent α → List α
  | .copy true => kbufRead s.reader
  | _ => []

/-- copy_to_user does not fail, and the DATA handler has room and memory. -/
def Keeps (s : Flow α) : FlowEvent α → Prop
  | .copy delivered => delivered = true
  | .data memory => ∀ chunk ∈ inTransit s.daemon, (recvData s.dev chunk memory).2.dropped = false
  | _ => True

instance (s : Flow α) (event : FlowEvent α) : Decidable (Keeps s event) := by
  unfold Keeps
  split <;> infer_instance

/- A DATA message enters the driver, all of it or nothing. -/
theorem received_held {s s' : Flow α} {chunk : List α} {arm : Arm} {memory : Bool}
    (orderly : Orderly s) (here : s.daemon = .sending chunk arm)
    (dev : s'.dev = (recvData s.dev chunk memory).1) (reader : s'.reader = s.reader)
    (sent : chunkSent s'.daemon = []) (pending : s'.minor.pending = s.minor.pending) :
    Passes (Keeps s (.data memory)) (held s') (held s) := by
  have received := received_contents (orderly_received orderly here memory)
  have transit : inTransit s.daemon = some chunk := by rw [here]; rfl
  have moving : chunkSent s.daemon = chunk := by rw [here]; rfl
  unfold held
  rw [dev, reader, sent, pending, received, moving]
  refine ⟨?_, fun keeps => ?_⟩
  · split <;> simp
  · rw [keeps chunk transit]
    simp

theorem step_held {s s' : Flow α} {event : FlowEvent α} (orderly : Orderly s)
    (step : s.step event = some s') :
    Passes (Keeps s event) (leaving s event ++ held s') (held s ++ arrived event) := by
  cases step_change step with
  | @takes count memory here =>
    refine passes_all ?_
    have order := ncdReadLocked_contents s.dev count
    simp only [leaving, held, here, kbufRead, arrived, ← order, List.nil_append, List.append_nil]
  | @copies kbuf shouldResume delivered reader here goes =>
    have empty : kbufRead reader = [] := by
      rcases goes with is | ⟨_, is⟩ <;> rw [is] <;> rfl
    have taken : kbufRead s.reader = kbuf := by rw [here]; rfl
    cases delivered with
    | true =>
      refine passes_all ?_
      simp only [leaving, held, empty, taken, arrived, List.nil_append, List.append_nil,
        List.append_assoc]
    | false =>
      refine ⟨?_, by simp [Keeps]⟩
      simp only [leaving, held, empty, taken, arrived, List.nil_append, List.append_nil,
        List.append_assoc]
      exact List.sublist_append_right _ _
  | queues here =>
    refine passes_all ?_
    simp [leaving, held, here, chunkSent, arrived, queueShards,
      Chunks.chunks_flatten (n := shardSize) (by decide)]
  | pops here running budget queue =>
    refine passes_all ?_
    simp [leaving, held, here, chunkSent, arrived, queue]
  | settles here done same =>
    refine passes_all ?_
    simp [leaving, held, here, chunkSent, arrived, same.2.2]
  | pauses here queue same =>
    refine passes_all ?_
    simp [leaving, held, arrived, same.2.2]
  | enters here free received =>
    subst received
    rw [leaving, arrived, List.nil_append, List.append_nil]
    · exact received_held orderly here rfl rfl rfl rfl
    · simp
    · simp
  | passes here free received =>
    subst received
    rw [leaving, arrived, List.nil_append, List.append_nil]
    · exact received_held orderly here rfl rfl rfl rfl
    · simp
    · simp
  | notifies here =>
    refine passes_all ?_
    simp [leaving, held, here, chunkSent, arrived, Minor.sent]
  | _ =>
    refine passes_all ?_
    simp_all [leaving, held, chunkSent, kbufRead, arrived]

def ahead (s : Sessions) : List TaggedByte := held s.flow ++ s.tcp.flatten

def reads (s : Sessions) : SessionEvent → List TaggedByte
  | .flow event => s.copied event
  | _ => []

def clearing : SessionEvent → Bool
  | .ncdOpen | .ncdRelease | .openReq | .closeReq => true
  | _ => false

def Delivers (s : Sessions) : SessionEvent → Prop
  | .flow event => Keeps s.flow event
  | _ => True

instance (s : Sessions) (event : SessionEvent) : Decidable (Delivers s event) := by
  unfold Delivers
  split <;> infer_instance

section Sessions

variable {s s' : Sessions} {event : SessionEvent}

theorem copied_leaving (s : Sessions) (event : FlowEvent TaggedByte) :
    s.copied event = leaving s.flow event := by
  cases event with
  | copy delivered =>
    cases delivered with
    | true =>
      simp only [Sessions.copied, leaving]
      cases s.flow.reader <;> rfl
    | false => rfl
  | _ => rfl

theorem flow_ahead {event : FlowEvent TaggedByte} {flow : Flow TaggedByte}
    (orderly : Orderly s.flow) (permitted : s.permits event = true)
    (moves : s.flow.step event = some flow) :
    Passes (Keeps s.flow event) (s.copied event ++ (held flow ++ s.tcp.flatten)) (ahead s) := by
  have nothing : arrived event = [] := by
    cases event with
    | tcp data => cases permitted
    | _ => rfl
  have passes := passes_append (step_held orderly moves) s.tcp.flatten
  rw [nothing, List.append_nil, ← copied_leaving, List.append_assoc] at passes
  exact passes

theorem tcp_ahead {data : List TaggedByte} {rest : List (List TaggedByte)}
    {flow : Flow TaggedByte} (orderly : Orderly s.flow) (tcp : s.tcp = data :: rest)
    (moves : s.flow.step (.tcp data) = some flow) :
    Passes True (held flow ++ rest.flatten) (ahead s) := by
  obtain ⟨part, all⟩ := passes_append (step_held orderly moves) rest.flatten
  have order : ahead s = held s.flow ++ arrived (.tcp data) ++ rest.flatten := by
    simp [ahead, tcp, arrived]
  rw [order]
  exact ⟨part, fun _ => all trivial⟩

/- A buffer loses what it has, and nothing else is touched. -/
theorem cleared_held (s : Flow α) (dev : NcdDevice α) :
    (held { s with dev := ncdClearBuffers dev }).Sublist (held s) ∧
      (held { s with minor := s.minor.cleared }).Sublist (held s) := by
  have driver : contents (ncdClearBuffers dev) = [] := rfl
  have daemon : s.minor.cleared.pending.flatten = [] := rfl
  constructor
  · simp [held, driver]
  · simp [held, daemon]

theorem step_ahead (orderly : Orderly s.flow) (actor : ∀ i e, event ≠ .actor i e)
    (step : s.step event = some s') :
    s'.returned = s.returned ++ (reads s event).map (s.session, ·) ∧
      Passes (clearing event = false ∧ Delivers s event) (reads s event ++ ahead s') (ahead s) := by
  have same : reads s event = [] → s'.returned = s.returned → ahead s' = ahead s →
      s'.returned = s.returned ++ (reads s event).map (s.session, ·) ∧
        Passes (clearing event = false ∧ Delivers s event) (reads s event ++ ahead s')
          (ahead s) := by
    intro nothing returned whole
    rw [nothing]
    exact ⟨by simp [returned], passes_all whole⟩
  have lost : reads s event = [] → s'.returned = s.returned → (ahead s').Sublist (ahead s) →
      clearing event = true →
      s'.returned = s.returned ++ (reads s event).map (s.session, ·) ∧
        Passes (clearing event = false ∧ Delivers s event) (reads s event ++ ahead s')
          (ahead s) := by
    intro nothing returned part clears
    rw [nothing, clears]
    exact ⟨by simp [returned], part, nofun⟩
  cases session_move step with
  | flows permitted moves =>
    obtain ⟨part, all⟩ := flow_ahead orderly permitted moves
    exact ⟨rfl, part, fun kept => all kept.2⟩
  | takesTcp tcp moves =>
    obtain ⟨part, all⟩ := tcp_ahead orderly tcp moves
    exact ⟨by simp [reads], part, fun _ => all trivial⟩
  | opens | released => exact lost rfl rfl ((cleared_held _ _).1.append_right _) rfl
  | takesOpen here queue =>
    refine lost rfl rfl ?_ rfl
    simp [ahead, held, here, chunkSent, Minor.cleared]
  | takesClose here queue =>
    refine lost rfl rfl ?_ rfl
    simp [ahead, held, Minor.cleared]
  | connects here | misses here | replies here =>
    exact same rfl rfl (by simp [ahead, held, here, chunkSent])
  | asks | unsent | succeeds | refused | interrupted | writes | closes | unclosed | takesData =>
    exact same rfl rfl rfl
  | acts => exact absurd rfl (actor _ _)

/-- No read is running unless the process has the device open. -/
structure Resting (s : Sessions) : Prop where
  orderly : Orderly s.flow
  quiet : s.user ≠ .opened → s.flow.reader = .idle

/- Of the flow nothing but its queue and the place of the daemon changes. -/
theorem resting_same (resting : Resting s) (dev : s'.flow.dev = s.flow.dev)
    (minor : s'.flow.minor = s.flow.minor) (reader : s'.flow.reader = s.flow.reader)
    (transit : inTransit s'.flow.daemon = inTransit s.flow.daemon)
    (quiet : s'.user ≠ .opened → s.flow.reader = .idle) : Resting s' := by
  obtain ⟨⟨device, shards, chunk⟩, _⟩ := resting
  refine ⟨⟨?_, ?_, ?_⟩, fun closed => reader.trans (quiet closed)⟩
  · rwa [dev]
  · rwa [minor]
  · rwa [transit]

theorem resting_clear (resting : Resting s) {user : UserPc} {connStatus : NcdSessions.ConnStatus}
    {session : Nat} (quiet : s.flow.reader = .idle) :
    Resting { s with
      user := user
      connStatus := connStatus
      session := session
      flow := { s.flow with dev := ncdClearBuffers s.flow.dev } } :=
  ⟨⟨wellFormed_clear s.flow.dev, resting.orderly.shards, resting.orderly.transit⟩, fun _ => quiet⟩

theorem step_resting (resting : Resting s) (actor : ∀ i e, event ≠ .actor i e)
    (step : s.step event = some s') : Resting s' := by
  have quiet := resting.quiet
  cases session_move step with
  | flows permitted moves =>
    refine ⟨step_orderly resting.orderly moves, fun closed => ?_⟩
    refine step_quiet (quiet closed) (fun count is => ?_) moves
    subst is
    exact closed (by simpa [Sessions.permits] using permitted)
  | takesTcp tcp moves =>
    exact ⟨step_orderly resting.orderly moves,
      fun closed => step_quiet (quiet closed) (by simp) moves⟩
  | opens here | released here => exact resting_clear resting (quiet (by simp [here]))
  | takesOpen here queue =>
    exact ⟨⟨resting.orderly.device, by simp [Minor.cleared], by simp [inTransit]⟩, quiet⟩
  | takesClose here queue =>
    exact ⟨⟨resting.orderly.device, by simp [Minor.cleared], resting.orderly.transit⟩, quiet⟩
  | connects here | misses here | replies here =>
    exact resting_same resting rfl rfl rfl (by simp [here, inTransit]) quiet
  | asks here | unsent here | succeeds here | refused here | interrupted here =>
    exact resting_same resting rfl rfl rfl rfl fun _ => quiet (by simp [here])
  | writes | takesData => exact resting_same resting rfl rfl rfl rfl quiet
  | closes here idle | unclosed here idle =>
    exact resting_same resting rfl rfl rfl rfl fun _ => idle
  | acts => exact absurd rfl (actor _ _)

end Sessions

def Ongoing (k : Nat) (l : Lane) : Prop := l.session = k ∧ (l.user = .connecting ∨ l.user = .opened)

def Over (k : Nat) (l : Lane) : Prop :=
  k < l.session ∨ l.session = k ∧ (l.user = .closed ∨ l.user = .releasing)

/-- Behind the OPEN_REQ of session k only data waits. -/
def Undisturbed (k : Nat) (l : Lane) : Prop :=
  Ongoing k l → ∃ before after, l.msgs = before ++ after ∧ SwitchFree after ∧
    (before = [] ∨ ∃ earlier, before = earlier ++ [.openReq k])

section Lanes

variable {k : Nat} {l l' : Lane} {event : SessionEvent}

theorem connected_known (numbered : Numbered l) (connected : k ∈ sessions l) :
    Ongoing k l ∨ Over k l := by
  have member : k ∈ numbers l := by
    rw [numbers, List.append_assoc]
    exact List.mem_append_left _ connected
  by_cases past : k < l.session
  · exact .inr (.inl past)
  · have now : l.session = k := Nat.le_antisymm (Nat.not_lt.mp past) (numbered.past k member)
    cases user : l.user with
    | requesting => exact absurd (now ▸ member) (numbered.fresh user)
    | connecting => exact .inl ⟨now, .inl user⟩
    | opened => exact .inl ⟨now, .inr user⟩
    | closed => exact .inr (.inr ⟨now, .inl user⟩)
    | releasing => exact .inr (.inr ⟨now, .inr user⟩)

theorem over_ended (gone : Over k l) : ¬Ongoing k l := by
  rintro ⟨now, user⟩
  rcases gone with past | ⟨_, away⟩
  · omega
  · rcases user with user | user <;> simp [user] at away

theorem over_step (gone : Over k l) (step : l.Step event l') : Over k l' := by
  rcases gone with past | ⟨now, away⟩
  · left
    cases step with
    | opens here => exact Nat.lt_succ_of_lt past
    | takesData here first => rwa [give_keeps]
    | takesClose here first => rwa [give_keeps]
    | pauses => rwa [give_keeps]
    | resumes => rwa [give_keeps]
    | _ => exact past
  · cases step with
    | opens here => exact .inl (by simp [← now])
    | released here => exact .inr ⟨now, .inl rfl⟩
    | takesData here first =>
      rw [give_keeps]
      exact .inr ⟨now, away⟩
    | takesClose here first =>
      rw [give_keeps]
      exact .inr ⟨now, away⟩
    | pauses =>
      rw [give_keeps]
      exact .inr ⟨now, away⟩
    | resumes =>
      rw [give_keeps]
      exact .inr ⟨now, away⟩
    | _ => simp_all [Over]

/- The head of the queue is taken. -/
theorem undisturbed_tail {m : DriverMsg} {rest : List DriverMsg} {before after : List DriverMsg}
    (first : m :: rest = before ++ after) (free : SwitchFree after)
    (asked : before = [] ∨ ∃ earlier, before = earlier ++ [.openReq k]) :
    ∃ before after, rest = before ++ after ∧ SwitchFree after ∧
      (before = [] ∨ ∃ earlier, before = earlier ++ [.openReq k]) := by
  rcases asked with rfl | ⟨earlier, rfl⟩
  · refine ⟨[], rest, rfl, fun n member => free n ?_, .inl rfl⟩
    rw [List.nil_append] at first
    exact first ▸ List.mem_cons_of_mem _ member
  · cases earlier with
    | nil =>
      rw [List.nil_append, List.singleton_append] at first
      obtain ⟨_, rfl⟩ := List.cons.inj first
      exact ⟨[], rest, rfl, free, .inl rfl⟩
    | cons n earlier =>
      simp only [List.cons_append] at first
      obtain ⟨_, rfl⟩ := List.cons.inj first
      exact ⟨earlier ++ [.openReq k], after, rfl, free, .inr ⟨earlier, rfl⟩⟩

theorem sessions_step (step : l.Step event l') : sessions l' = sessions l ∨
    ∃ session, event = .connect true ∧ l.daemon = .opening session ∧
      sessions l' = sessions l ++ [session] := by
  cases step with
  | connects here => exact .inr ⟨_, rfl, here, by simp [sessions]⟩
  | takesData here first =>
    have same := give_sessions l (.data ‹_›)
    rw [give_keeps] at same ⊢
    exact .inl same
  | takesClose here first =>
    have same := give_sessions l .close
    rw [give_keeps] at same ⊢
    exact .inl same
  | pauses => exact .inl (give_sessions l _)
  | resumes => exact .inl (give_sessions l _)
  | _ => exact .inl rfl

theorem sessions_stay (connected : k ∈ sessions l) (step : l.Step event l') : k ∈ sessions l' := by
  rcases sessions_step step with same | ⟨session, _, _, more⟩
  · rwa [same]
  · rw [more]
    exact List.mem_append_left _ connected

theorem undisturbed_step (undisturbed : Undisturbed k l) (step : l.Step event l') :
    Undisturbed k l' := by
  intro ongoing
  cases step with
  | opens here => simp [Ongoing] at ongoing
  | unsent here => simp [Ongoing] at ongoing
  | refused here status => simp [Ongoing] at ongoing
  | interrupted here => simp [Ongoing] at ongoing
  | closes here => simp [Ongoing] at ongoing
  | unclosed here => simp [Ongoing] at ongoing
  | released here => simp [Ongoing] at ongoing
  | asks here =>
    refine ⟨l.msgs ++ [.openReq l.session], [], (List.append_nil _).symm, nofun, .inr ⟨l.msgs, ?_⟩⟩
    rw [← ongoing.1]
  | succeeds here status => exact undisturbed ⟨ongoing.1, .inl here⟩
  | @writes bytes here =>
    obtain ⟨before, after, split, free, asked⟩ := undisturbed ongoing
    refine ⟨before, after ++ [.data bytes], ?_, switchFree_data free bytes, asked⟩
    dsimp only
    rw [split, List.append_assoc]
  | takesOpen here first =>
    obtain ⟨before, after, split, free, asked⟩ := undisturbed ongoing
    exact undisturbed_tail (first ▸ split) free asked
  | takesData here first =>
    rw [give_keeps] at ongoing ⊢
    obtain ⟨before, after, split, free, asked⟩ := undisturbed ongoing
    exact undisturbed_tail (first ▸ split) free asked
  | takesClose here first =>
    rw [give_keeps] at ongoing ⊢
    obtain ⟨before, after, split, free, asked⟩ := undisturbed ongoing
    exact undisturbed_tail (first ▸ split) free asked
  | connects here => exact undisturbed ongoing
  | misses here => exact undisturbed ongoing
  | replies here => exact undisturbed ongoing
  | pauses =>
    rw [give_keeps] at ongoing ⊢
    exact undisturbed ongoing
  | resumes =>
    rw [give_keeps] at ongoing ⊢
    exact undisturbed ongoing
  | rests => exact undisturbed ongoing

/-- Once session k has its connection, no message waits that clears a buffer. -/
theorem undisturbed_connected (numbered : Numbered l) (undisturbed : Undisturbed k l)
    (ongoing : Ongoing k l) (connected : k ∈ sessions l) : SwitchFree l.msgs := by
  obtain ⟨before, after, split, free, rfl | ⟨earlier, rfl⟩⟩ := undisturbed ongoing
  · rwa [split]
  · have once := numbered.once
    rw [numbers, split, List.append_assoc] at once
    refine absurd rfl ((List.nodup_append.mp once).2.2 k connected k ?_)
    simp [openReqs]

end Lanes

/-- The bytes that have come over the connection of session k. -/
def ofSession (k : Nat) (bytes : List TaggedByte) : List UInt8 :=
  (bytes.filter fun b => b.session = k).map (·.value)

/-- Those that ncd_read has returned, in whichever session. -/
def delivered (k : Nat) (s : Sessions) : List UInt8 := ofSession k (s.returned.map (·.2))

/-- Those that ncd_read has returned in session k itself. -/
def own (k : Nat) (s : Sessions) : List UInt8 :=
  ofSession k ((s.returned.filter fun entry => entry.1 = k).map (·.2))

/-- All bytes that ncd_read has returned in session k, whatever connection they came over. -/
def readIn (k : Nat) (s : Sessions) : List UInt8 :=
  (s.returned.filter fun entry => entry.1 = k).map (·.2.value)

theorem own_delivered (k : Nat) (s : Sessions) : (own k s).Sublist (delivered k s) :=
  ((List.filter_sublist.map _).filter _).map _

theorem readIn_own {k : Nat} {s : Sessions} (isolated : Isolated s) : readIn k s = own k s := by
  have mine : ∀ b ∈ (s.returned.filter fun entry => entry.1 = k).map (·.2),
      decide (b.session = k) = true := by
    intro b member
    obtain ⟨entry, kept, rfl⟩ := List.mem_map.mp member
    obtain ⟨inside, session⟩ := List.mem_filter.mp kept
    simpa [isolated entry inside] using session
  rw [own, ofSession, List.filter_eq_self.mpr mine, List.map_map, readIn]
  rfl

theorem ofSession_append (k : Nat) (bytes bytes' : List TaggedByte) :
    ofSession k (bytes ++ bytes') = ofSession k bytes ++ ofSession k bytes' := by
  simp [ofSession]

theorem ofSession_tagged (k session : Nat) (bytes : List UInt8) :
    ofSession k (bytes.map (TaggedByte.mk session)) = if session = k then bytes else [] := by
  by_cases same : session = k
  · simp [ofSession, same, List.filter_map, Function.comp_def]
  · simp [ofSession, same, List.filter_map, Function.comp_def]

theorem ofSession_passes {kept : Prop} {out stream : List TaggedByte} (k : Nat)
    (passes : Passes kept out stream) : Passes kept (ofSession k out) (ofSession k stream) :=
  ⟨(passes.1.filter _).map _, fun all => by rw [passes.2 all]⟩

/-- came: the bytes of session k's connection so far. The reader gets nothing else of it, in
    the order they came; as long as its session goes on and nothing fails, all of them. -/
structure Stream (whole : Bool) (k : Nat) (s : Sessions) (came : List UInt8) : Prop where
  resting : Resting s
  numbered : Numbered (lane s)
  undisturbed : Undisturbed k (lane s)
  unheard : k ∉ sessions (lane s) → came = []
  arrives : (delivered k s ++ ofSession k (ahead s)).Sublist came
  first : whole = true → own k s <+: came
  going : whole = true → Ongoing k (lane s) → own k s ++ ofSession k (ahead s) = came

section Streams

variable {whole : Bool} {k : Nat} {s s' : Sessions} {came : List UInt8} {event : SessionEvent}

theorem delivered_read {bytes : List TaggedByte}
    (returned : s'.returned = s.returned ++ bytes.map (s.session, ·)) :
    delivered k s' = delivered k s ++ ofSession k bytes := by
  rw [delivered, returned, List.map_append, ofSession_append]
  simp [delivered, Function.comp_def]

theorem own_read {bytes : List TaggedByte}
    (returned : s'.returned = s.returned ++ bytes.map (s.session, ·)) :
    own k s' = own k s ++ if s.session = k then ofSession k bytes else [] := by
  rw [own, returned, List.filter_append, List.map_append, ofSession_append]
  by_cases same : s.session = k
  · simp [own, same, List.filter_map, Function.comp_def]
  · simp [own, same, List.filter_map, Function.comp_def, ofSession]

/- Of a connection that does not exist nothing is on the way. -/
theorem empty_whole (arrives : (delivered k s ++ ofSession k (ahead s)).Sublist []) :
    own k s ++ ofSession k (ahead s) = [] := by
  have none := List.eq_nil_of_sublist_nil arrives
  rw [List.append_eq_nil_iff] at none
  have part := own_delivered k s
  rw [none.1] at part
  rw [List.eq_nil_of_sublist_nil part, none.2]
  rfl

/- While its process goes on, nothing of session k is cleared. -/
theorem going_unclear (stream : Stream whole k s came) (ongoing : Ongoing k (lane s))
    (connected : k ∈ sessions (lane s)) (step : s.step event = some s') :
    clearing event = false := by
  have free := undisturbed_connected stream.numbered stream.undisturbed ongoing connected
  cases session_move step with
  | opens here | released here => simp [Ongoing, lane, here] at ongoing
  | @takesOpen session rest here queue =>
    have waits : .openReq session ∈ (lane s).msgs := by simp [lane, queue, List.filter_cons]
    cases free _ waits
  | takesClose here queue =>
    have waits : .closeReq ∈ (lane s).msgs := by simp [lane, queue, List.filter_cons]
    cases free _ waits
  | _ => rfl

/- A read returns bytes only to a process that has the device open. -/
theorem reads_opened (resting : Resting s) (nonempty : reads s event ≠ []) : s.user = .opened := by
  by_contra closed
  have idle := resting.quiet closed
  cases event with
  | flow event =>
    rw [reads, copied_leaving] at nonempty
    cases event with
    | copy delivered => cases delivered <;> simp [leaving, idle, kbufRead] at nonempty
    | _ => exact nonempty rfl
  | _ => exact nonempty rfl

theorem step_stream (stream : Stream whole k s came) (actor : ∀ i e, event ≠ .actor i e)
    (delivers : whole = true → Delivers s event) (step : s.step event = some s') :
    Stream whole k s' came := by
  obtain ⟨returned, passes⟩ := step_ahead stream.resting.orderly actor step
  have moved := lane_step actor step
  obtain ⟨part, all⟩ := ofSession_passes k passes
  rw [ofSession_append] at part all
  have arrives : (delivered k s' ++ ofSession k (ahead s')).Sublist came := by
    rw [delivered_read returned, List.append_assoc]
    exact (part.append_left _).trans stream.arrives
  have after : whole = true → own k s' <+: came ∧
      (Ongoing k (lane s') → own k s' ++ ofSession k (ahead s') = came) := by
    intro is
    by_cases connected : k ∈ sessions (lane s)
    · rcases connected_known stream.numbered connected with ongoing | gone
      · have unclear := going_unclear stream ongoing connected step
        have order : own k s' ++ ofSession k (ahead s') = came := by
          rw [own_read returned, if_pos (show s.session = k from ongoing.1), List.append_assoc,
            all ⟨unclear, delivers is⟩]
          exact stream.going is ongoing
        exact ⟨⟨_, order⟩, fun _ => order⟩
      · have still : own k s' = own k s := by
          rw [own_read returned]
          split
          · rename_i now
            have nothing : reads s event = [] := by
              by_contra nonempty
              have opened : (lane s).user = .opened := reads_opened stream.resting nonempty
              exact over_ended gone ⟨now, .inr opened⟩
            rw [nothing]
            exact List.append_nil _
          · exact List.append_nil _
        rw [still]
        exact ⟨stream.first is, fun ongoing' => absurd ongoing' (over_ended (over_step gone moved))⟩
    · have none := stream.unheard connected
      rw [none] at arrives ⊢
      have empty := empty_whole arrives
      exact ⟨⟨_, empty⟩, fun _ => empty⟩
  exact ⟨step_resting stream.resting actor step, numbered_step stream.numbered moved,
    undisturbed_step stream.undisturbed moved,
    fun absent => stream.unheard fun connected => absent (sessions_stay connected moved), arrives,
    fun is => (after is).1, fun is => (after is).2⟩

end Streams

theorem called_grows (b : ConnectionRun) (conn : Endpoint) :
    b.forwarded <+: (b.called conn).forwarded := by
  have grows : ∀ msgs, b.forwarded <+: (b.dataTx msgs).forwarded := by
    intro msgs
    unfold ConnectionRun.dataTx
    split
    · exact List.prefix_append _ _
    · exact List.prefix_rfl
  unfold ConnectionRun.called
  split <;> first | exact grows _ | exact List.prefix_rfl

theorem step_grows {b b' : ConnectionRun} {event : RunEvent} (step : b.step event = some b') :
    b.forwarded <+: b'.forwarded := by
  cases run_move step with
  | @calls _ c _ conn made moved =>
    have grows := called_grows c conn
    rw [(run_call made).2.2.2] at grows
    exact grows
  | _ => exact List.prefix_rfl

structure Sourced (whole : Bool) (k : Nat) (p : Pipeline) (came : List UInt8) : Prop where
  stream : Stream whole k p.s came
  linked : p.links.length = p.s.actors.length
  source : ∀ (i : Nat) run, (sessions (lane p.s))[i]? = some k → p.links[i]? = some run →
    run.forwarded.flatten = came

inductive Went (p : Pipeline) : PipelineEvent → Pipeline → Prop where
  | moves {event : PipelineEvent} {e : SessionEvent} {p' : Pipeline}
      (which : event = .session e ∨ ∃ bytes, e = .ncdWrite bytes)
      (actor : ∀ i a, e ≠ .actor i a) (unconnected : e ≠ .connect true)
      (moved : p.s.step e = some p'.s) (links : p'.links = p.links) : Went p event p'
  | connects {conn : Endpoint} {p' : Pipeline} (moved : p.s.step (.connect true) = some p'.s)
      (links : p'.links = p.links ++ [{ conn := conn, pc := .select }]) :
      Went p (.session (.connect true)) p'
  | skips {bytes : List UInt8} {rest : List DriverMsg} {p' : Pipeline}
      (here : p.s.flow.daemon = .select) (queue : p.s.flow.queue = .data bytes :: rest)
      (same : p'.s = { p.s with flow := { p.s.flow with queue := rest } })
      (links : p'.links = p.links) : Went p (.session .data) p'
  | rests {event : PipelineEvent} {p' : Pipeline} (same : p'.s = p.s)
      (links : p'.links = p.links) : Went p event p'
  | runs {index : Nat} {event : RunEvent} {actor actor' : Actor} {run after : ConnectionRun}
      {p' : Pipeline} (spawned : p.s.actors[index]? = some actor)
      (link : p.links[index]? = some run) (moved : run.step event = some after)
      (session : actor'.session = actor.session)
      (same : p'.s = { p.s with
        actors := p.s.actors.set index actor'
        tcp := p.s.tcp ++ (after.forwarded.drop run.forwarded.length).map fun msg =>
          msg.map (TaggedByte.mk actor.session) })
      (links : p'.links = p.links.set index after) : Went p (.link index event) p'

theorem step_went {p p' : Pipeline} {event : PipelineEvent} (step : p.step event = some p') :
    Went p event p' := by
  cases event with
  | session event =>
    cases event with
    | actor i e => cases step
    | ncdWrite bytes => cases step
    | openReq =>
      obtain ⟨s, moved, rfl⟩ := Option.map_eq_some_iff.mp step
      exact .moves (.inl rfl) (by simp) (by simp) moved rfl
    | connect success =>
      simp only [Pipeline.step, Pipeline.session] at step
      unfold Pipeline.connect at step
      split at step
      · cases success with
        | true =>
          simp only [if_true] at step
          split at step
          · obtain ⟨s, moved, rfl⟩ := Option.map_eq_some_iff.mp step
            exact .connects moved rfl
          · cases step
        | false =>
          obtain ⟨s, moved, rfl⟩ := Option.map_eq_some_iff.mp step
          exact .moves (.inl rfl) (by simp) (by simp) moved rfl
      · cases step
    | data =>
      simp only [Pipeline.step, Pipeline.session] at step
      unfold Pipeline.data at step
      split at step
      · rename_i bytes rest here queue
        split at step
        · obtain ⟨s, moved, rfl⟩ := Option.map_eq_some_iff.mp step
          exact .moves (.inl rfl) (by simp) (by simp) moved rfl
        · cases step
          exact .skips here queue rfl rfl
      · cases step
    | _ =>
      obtain ⟨s, moved, rfl⟩ := Option.map_eq_some_iff.mp step
      exact .moves (.inl rfl) (by simp) (by simp) moved rfl
  | ncdWrite bytes sent =>
    simp only [Pipeline.step] at step
    unfold Pipeline.ncdWrite at step
    split at step
    · cases step
    · split at step
      · cases step
        exact .rests rfl rfl
      · obtain ⟨s, moved, rfl⟩ := Option.map_eq_some_iff.mp step
        exact @Went.moves p _ (.ncdWrite bytes) _ (.inr ⟨bytes, rfl⟩) (by simp) (by simp) moved rfl
  | opening event =>
    simp only [Pipeline.step] at step
    split at step
    · obtain ⟨conn', _, rfl⟩ := Option.map_eq_some_iff.mp step
      exact .rests rfl rfl
    · cases step
  | link index event =>
    simp only [Pipeline.step] at step
    unfold Pipeline.link at step
    split at step
    · rename_i actor run spawned link
      obtain ⟨rest, left, step⟩ := Option.bind_eq_some_iff.mp step
      obtain ⟨after, moved, rfl⟩ := Option.map_eq_some_iff.mp step
      refine .runs spawned link moved ?_ rfl rfl
      rfl
    · cases step

def Attends (p : Pipeline) : PipelineEvent → Prop
  | .session event => Delivers p.s event
  | _ => True

instance (p : Pipeline) : (event : PipelineEvent) → Decidable (Attends p event)
  | .session event => inferInstanceAs (Decidable (Delivers p.s event))
  | .ncdWrite _ _ | .opening _ | .link _ _ => inferInstanceAs (Decidable True)

/-- ncd_open finds bytes underway, or a connection forwards bytes while another session than its
    own is live. -/
def leaking (p : Pipeline) : PipelineEvent → Bool
  | .session event => leaks p.s event
  | .link index event =>
    match p.s.actors[index]?, p.links[index]? with
    | some actor, some run => live p.s.user && actor.session ≠ p.s.session &&
        (run.step event).any fun after =>
          !(after.forwarded.drop run.forwarded.length).flatten.isEmpty
    | _, _ => false
  | _ => false

section Steps

variable {whole : Bool} {k : Nat} {p p' : Pipeline} {came : List UInt8}

theorem pipeline_tagged {event : PipelineEvent} (tagged : Tagged p.s)
    (clean : leaking p event = false) (step : p.step event = some p') : Tagged p'.s := by
  cases step_went step with
  | @moves event e p' which actor unconnected moved links =>
    have kept : leaks p.s e = false := by
      rcases which with rfl | ⟨bytes, rfl⟩
      · exact clean
      · rfl
    exact step_tagged tagged kept moved
  | connects moved links => exact step_tagged tagged rfl moved
  | @skips bytes rest p' here queue same links =>
    have took : p.s.step .data = some { p.s with
        actors := (p.s.command (some (.data bytes))).actors
        flow := { p.s.flow with queue := rest } } := move_session (.takesData here queue)
    have after := step_tagged tagged rfl took
    rw [same]
    exact ⟨after.orderly, after.quiet, after.held, after.pending, after.arriving, after.returned⟩
  | rests same links =>
    rw [same]
    exact tagged
  | @runs index event actor actor' run after p' spawned link moved session same links =>
    rw [same]
    refine forwards_tagged tagged _ fun lives b member => ?_
    by_contra other
    have came : b ∈ (after.forwarded.drop run.forwarded.length).flatten.map
        (TaggedByte.mk actor.session) := by
      rw [List.map_flatten]
      exact member
    obtain ⟨v, value, rfl⟩ := List.mem_map.mp came
    have late : leaking p (.link index event) = true := by
      simp only [leaking, spawned, link, moved, Option.any_some, Bool.and_eq_true, lives,
        decide_eq_true_eq, Bool.not_eq_true', List.isEmpty_eq_false_iff, true_and]
      exact ⟨other, List.ne_nil_of_mem value⟩
    rw [clean] at late
    cases late

theorem lane_sessions (s : Sessions) : sessions (lane s) = s.actors.map (·.session) := by
  simp [sessions, lane, Function.comp_def]

theorem stream_more {s : Sessions} {actors : List Actor} {new : List (List TaggedByte)}
    {session : Nat} {bytes : List UInt8} (stream : Stream whole k s came)
    (same : actors.map (·.session) = s.actors.map (·.session))
    (tagged : new.flatten = bytes.map (TaggedByte.mk session))
    (known : bytes = [] ∨ session ∈ s.actors.map (·.session)) :
    Stream whole k { s with actors := actors, tcp := s.tcp ++ new }
      (came ++ if session = k then bytes else []) := by
  have kept : sessions (lane { s with actors := actors, tcp := s.tcp ++ new }) =
      sessions (lane s) := by
    rw [lane_sessions, lane_sessions, same]
  have numbers' : numbers (lane { s with actors := actors, tcp := s.tcp ++ new }) =
      numbers (lane s) := by
    rw [numbers, numbers, kept]
    rfl
  have more : ofSession k (ahead { s with actors := actors, tcp := s.tcp ++ new }) =
      ofSession k (ahead s) ++ if session = k then bytes else [] := by
    rw [← ofSession_tagged, ← tagged, ← ofSession_append]
    simp [ahead]
  obtain ⟨resting, numbered, undisturbed, unheard, arrives, first, going⟩ := stream
  refine ⟨⟨resting.orderly, resting.quiet⟩, ?_, undisturbed, fun absent => ?_, ?_, fun is => ?_,
    fun is ongoing => ?_⟩
  · exact numbered_kept numbered (numbers' ▸ List.Sublist.refl _) rfl id
  · rw [kept] at absent
    rw [unheard absent, List.nil_append]
    split
    · rename_i is
      refine known.resolve_right fun member => absent ?_
      rwa [lane_sessions, ← is]
    · rfl
  · rw [more, ← List.append_assoc]
    exact arrives.append (List.Sublist.refl _)
  · exact (first is).trans (List.prefix_append _ _)
  · have before := going is ongoing
    rw [more, ← List.append_assoc, ← before]
    rfl

/- A connection has forwarded something more. -/
theorem sourced_link (sourced : Sourced whole k p came) {index : Nat} {actor actor' : Actor}
    {run after : ConnectionRun} (spawned : p.s.actors[index]? = some actor)
    (link : p.links[index]? = some run) (grows : run.forwarded <+: after.forwarded)
    (session : actor'.session = actor.session)
    (same : p'.s = { p.s with
      actors := p.s.actors.set index actor'
      tcp := p.s.tcp ++ (after.forwarded.drop run.forwarded.length).map fun msg =>
        msg.map (TaggedByte.mk actor.session) })
    (links : p'.links = p.links.set index after) : ∃ came', Sourced whole k p' came' := by
  obtain ⟨new, split⟩ := grows
  have last : after.forwarded.drop run.forwarded.length = new := by
    rw [← split, List.drop_left]
  have here : (p.s.actors.map (·.session))[index]? = some actor.session := by simp [spawned]
  have kept : (p.s.actors.set index actor').map (·.session) = p.s.actors.map (·.session) := by
    rw [List.map_set, session]
    refine List.ext_getElem? fun j => ?_
    rw [List.getElem?_set]
    split
    · rename_i is
      subst is
      rw [here, if_pos (List.getElem?_eq_some_iff.mp here).1]
    · rfl
  have tagged : (new.map fun msg => msg.map (TaggedByte.mk actor.session)).flatten =
      new.flatten.map (TaggedByte.mk actor.session) := (List.map_flatten ..).symm
  rw [last] at same
  refine ⟨came ++ if actor.session = k then new.flatten else [], ?_, ?_, ?_⟩
  · rw [same]
    exact stream_more sourced.stream kept tagged (.inr (List.mem_of_getElem? here))
  · rw [links, same, List.length_set, List.length_set]
    exact sourced.linked
  · intro i other found there
    have found' : (sessions (lane p.s))[i]? = some k := by
      rw [same, lane_sessions, kept] at found
      rwa [lane_sessions]
    rw [← lane_sessions] at here
    rw [links, List.getElem?_set] at there
    split at there
    · rename_i is
      subst is
      split at there <;> cases there
      rw [here, Option.some.injEq] at found'
      rw [if_pos found', ← split, List.flatten_append, sourced.source _ run (found' ▸ here) link]
    · rename_i different
      have away : actor.session ≠ k := by
        intro is
        have once := sourced.stream.numbered.once
        rw [numbers, List.append_assoc] at once
        have inside := (List.getElem?_eq_some_iff.mp here).1
        rw [is] at here
        exact different ((List.getElem?_inj inside (List.nodup_append.mp once).1).mp
          (here.trans found'.symm))
      rw [if_neg away, List.append_nil]
      exact sourced.source i other found' there

theorem step_sourced {event : PipelineEvent} (sourced : ∃ came, Sourced whole k p came)
    (attends : whole = true → Attends p event) (step : p.step event = some p') :
    ∃ came, Sourced whole k p' came := by
  obtain ⟨came, sourced⟩ := sourced
  cases step_went step with
  | @moves event e p' which actor unconnected moved links =>
    have delivers : whole = true → Delivers p.s e := by
      intro is
      rcases which with rfl | ⟨bytes, rfl⟩
      · exact attends is
      · trivial
    have stream := step_stream sourced.stream actor delivers moved
    have kept : sessions (lane p'.s) = sessions (lane p.s) := by
      rcases sessions_step (lane_step actor moved) with same | ⟨_, is, _⟩
      · exact same
      · exact absurd is unconnected
    have length := congrArg List.length kept
    rw [lane_sessions, lane_sessions, List.length_map, List.length_map] at length
    refine ⟨came, stream, ?_, ?_⟩
    · rw [links, length]
      exact sourced.linked
    · rw [links, kept]
      exact sourced.source
  | @connects conn p' moved links =>
    have stream := @step_stream _ _ _ _ _ (.connect true) sourced.stream (by simp)
      (fun _ => trivial) moved
    generalize is : p'.s = s' at moved
    cases session_move moved with
    | @connects session here =>
      have actors : p'.s.actors = p.s.actors ++ [{ session := session }] := by rw [is]
      have linked := sourced.linked
      refine ⟨came, stream, by simp [links, actors, linked], fun i run found link => ?_⟩
      rw [lane_sessions, actors, List.map_append, List.getElem?_append, List.length_map] at found
      rw [links, List.getElem?_append, linked] at link
      split at found
      · rename_i inside
        rw [if_pos inside] at link
        exact sourced.source i run (by rw [lane_sessions]; exact found) link
      · rename_i beyond
        rw [if_neg beyond] at link
        -- the new connection: k is the session that is being opened, so it has no other one
        have newest : session = k := by
          rw [List.map_singleton, List.getElem?_singleton] at found
          split at found <;> cases found
          rfl
        have opening : (lane p.s).daemon = .opening k := by simp [lane, here, answer, newest]
        have unborn : k ∉ sessions (lane p.s) := by
          intro member
          have once := sourced.stream.numbered.once
          rw [numbers, opening, List.append_assoc] at once
          exact (List.nodup_append.mp once).2.2 _ member _ List.mem_cons_self rfl
        rw [List.getElem?_singleton] at link
        split at link <;> cases link
        exact (sourced.stream.unheard unborn).symm
  | @skips bytes rest p' here queue same links =>
    -- as if the message had been given to the connection, but for the command
    have took : p.s.step .data = some { p.s with
        actors := (p.s.command (some (.data bytes))).actors
        flow := { p.s.flow with queue := rest } } := move_session (.takesData here queue)
    have stream := @step_stream _ _ _ _ _ .data sourced.stream (by simp) (fun _ => trivial) took
    have kept : p.s.actors.map (·.session) =
        (p.s.command (some (.data bytes))).actors.map (·.session) := by
      rcases sessions_step (lane_step (by simp) took) with given | ⟨_, is, _⟩
      · rw [lane_sessions, lane_sessions] at given
        exact given.symm
      · cases is
    have again : Stream whole k { p.s with
        actors := p.s.actors
        flow := { p.s.flow with queue := rest }
        tcp := p.s.tcp ++ [] } (came ++ if k = k then [] else []) :=
      stream_more stream kept rfl (.inl rfl)
    simp only [List.append_nil, if_true] at again
    refine ⟨came, same ▸ again, ?_, ?_⟩
    · rw [links, same]
      exact sourced.linked
    · rw [links, same]
      exact sourced.source
  | rests same links =>
    refine ⟨came, ?_, ?_, ?_⟩
    · exact same ▸ sourced.stream
    · rw [same, links]
      exact sourced.linked
    · rw [same, links]
      exact sourced.source
  | runs spawned link moved session same links =>
    exact sourced_link sourced spawned link (step_grows moved) session same links

end Steps

theorem new_stream (whole : Bool) (k : Nat) : Stream whole k {} [] where
  resting := ⟨opened_orderly, fun _ => rfl⟩
  numbered := ⟨by decide, nofun, nofun⟩
  undisturbed := by simp [Undisturbed, Ongoing, lane]
  unheard := fun _ => rfl
  arrives := List.Sublist.refl _
  first := fun _ => List.prefix_rfl
  going := fun _ _ => rfl

theorem new_sourced (whole : Bool) (k : Nat) (conn : Endpoint) :
    Sourced whole k { fresh := conn } [] :=
  ⟨new_stream whole k, rfl, by simp⟩

def Attentive (s : System) : SystemEvent → Prop
  | .daemon event => Attends s.p event
  | _ => True

instance (s : System) : (event : SystemEvent) → Decidable (Attentive s event)
  | .daemon event => inferInstanceAs (Decidable (Attends s.p event))
  | .answering _ | .host _ _ => inferInstanceAs (Decidable True)

def Clean (s : System) : SystemEvent → Prop
  | .daemon event => leaking s.p event = false
  | _ => True

instance (s : System) : (event : SystemEvent) → Decidable (Clean s event)
  | .daemon event => inferInstanceAs (Decidable (leaking s.p event = false))
  | .answering _ | .host _ _ => inferInstanceAs (Decidable True)

def Faultless (s : System) (event : SystemEvent) : Prop := Clean s event ∧ Attentive s event

instance (s : System) (event : SystemEvent) : Decidable (Faultless s event) :=
  inferInstanceAs (Decidable (_ ∧ _))

section System

variable {s s' : System} {fails whole : Bool} {k : Nat}

theorem clean_isolated {start : System} (new : Tagged start.p.s)
    (run : Reaches System.step Clean start s) : Isolated s.p.s := by
  have tagged : Tagged s.p.s := by
    refine run.keeps (I := fun s => Tagged s.p.s) ?_ new
    intro s event t tagged clean step
    rcases step_p step with same | ⟨e, rfl, moved⟩
    · rwa [same]
    · exact pipeline_tagged tagged clean moved
  exact tagged.returned

theorem step_attentive {event : SystemEvent} (sourced : ∃ came, Sourced whole k s.p came)
    (attentive : whole = true → Attentive s event) (step : s.step event = some s') :
    ∃ came, Sourced whole k s'.p came := by
  rcases step_p step with same | ⟨e, rfl, moved⟩
  · rwa [same]
  · exact step_sourced sourced attentive moved

theorem joined_comes (joined : Coupled fails s) {i : Nat} {run : ConnectionRun} {host : Host}
    (link : s.p.links[i]? = some run) (there : s.hosts[i]? = some host) :
    run.forwarded.flatten <+: host.adapter.wrote := by
  obtain ⟨hearing, back⟩ := joined.lines i run host link there
  obtain ⟨given, all, fed⟩ := (joined.hosts i host there).fed
  obtain ⟨_, _, ok⟩ := (joined.hosts i host there).served
  have put : run.forwarded <+: run.conn.task.put := handed_put (joined.links i run link).bridged
  have accepted : sends host.bridge.conn.task.taken <+: sends host.bridge.conn.handler.accepted :=
    NcdWireGrammar.sends_prefix ⟨_, ok.bridged.books.requests.symm⟩
  have passed : run.forwarded <+: given :=
    ((put.trans (hearing_put hearing back.spoken)).trans accepted).trans (fed_accepted fed.fed)
  have wrote : host.passed <+: host.adapter.wrote := ⟨_, (joined.hosts i host there).conserved⟩
  exact (all ▸ passed.flatten).trans wrote

/-- The bytes of session k's connection are the first of what the adapter wrote. -/
theorem sourced_wrote (joined : Coupled fails s) {came : List UInt8}
    (sourced : Sourced whole k s.p came) {i : Nat} {actor : Actor} {host : Host}
    (spawned : s.p.s.actors[i]? = some actor) (session : actor.session = k)
    (there : s.hosts[i]? = some host) : came <+: host.adapter.wrote := by
  have bound := (List.getElem?_eq_some_iff.mp there).1
  obtain ⟨run, link⟩ : ∃ run, s.p.links[i]? = some run :=
    ⟨_, List.getElem?_eq_getElem (joined.paired ▸ bound)⟩
  have here : (sessions (lane s.p.s))[i]? = some k := by
    rw [lane_sessions]
    simp [spawned, session]
  rw [← sourced.source i run here link]
  exact joined_comes joined link there

end System

/-- What a process reads over a connection, the adapter of its host has written to its stdout,
    in this order and each byte at most once. As long as no copy or allocation fails on the way,
    a session reads its connection from the first byte without a gap. Where the sessions are
    kept apart, that is all it reads. -/
theorem output_reaches_reader (hostAddr deviceAddr : SocketAddr)
    (timeoutMs closeTimeoutMs keepAliveIntervalMs : UInt32) (bufferSize : Nat)
    (hostTimeoutMs hostCloseTimeoutMs hostKeepAliveIntervalMs : UInt32) (hostBufferSize k : Nat) :
    let start := System.new hostAddr deviceAddr timeoutMs closeTimeoutMs keepAliveIntervalMs
      bufferSize hostTimeoutMs hostCloseTimeoutMs hostKeepAliveIntervalMs hostBufferSize
    (∀ s (i : Nat) actor host, Reaches System.step Any start s →
      s.p.s.actors[i]? = some actor → actor.session = k → s.hosts[i]? = some host →
      (delivered k s.p.s).Sublist host.adapter.wrote) ∧
    (∀ s (i : Nat) actor host, Reaches System.step Attentive start s →
      s.p.s.actors[i]? = some actor → actor.session = k → s.hosts[i]? = some host →
      own k s.p.s <+: host.adapter.wrote) ∧
    (∀ s (i : Nat) actor host, Reaches System.step Clean start s →
      s.p.s.actors[i]? = some actor → actor.session = k → s.hosts[i]? = some host →
      (readIn k s.p.s).Sublist host.adapter.wrote) ∧
    ∀ s (i : Nat) actor host, Reaches System.step Faultless start s →
      s.p.s.actors[i]? = some actor → actor.session = k → s.hosts[i]? = some host →
      readIn k s.p.s <+: host.adapter.wrote := by
  intro start
  have arrives : ∀ s (i : Nat) actor host, Reaches System.step Any start s →
      s.p.s.actors[i]? = some actor → actor.session = k → s.hosts[i]? = some host →
      (delivered k s.p.s).Sublist host.adapter.wrote := by
    intro s i actor host run spawned session there
    obtain ⟨joined, _, sourced⟩ := run.keeps_under (K := Coupled true)
      (I := fun s => ∃ came, Sourced false k s.p came)
      (fun joined _ step => step_joined joined nofun step)
      (fun _ sourced _ step => step_attentive sourced nofun step)
      (new_joined true _ _ _ _ _ _ _ _ _ _) ⟨[], new_sourced _ _ _⟩
    have part := (List.sublist_append_left _ _).trans sourced.stream.arrives
    exact part.trans (sourced_wrote joined sourced spawned session there).sublist
  have first : ∀ s (i : Nat) actor host, Reaches System.step Attentive start s →
      s.p.s.actors[i]? = some actor → actor.session = k → s.hosts[i]? = some host →
      own k s.p.s <+: host.adapter.wrote := by
    intro s i actor host run spawned session there
    obtain ⟨joined, _, sourced⟩ := run.keeps_under (K := Coupled true)
      (I := fun s => ∃ came, Sourced true k s.p came)
      (fun joined _ step => step_joined joined nofun step)
      (fun _ sourced attentive step => step_attentive sourced (fun _ => attentive) step)
      (new_joined true _ _ _ _ _ _ _ _ _ _) ⟨[], new_sourced _ _ _⟩
    exact (sourced.stream.first rfl).trans (sourced_wrote joined sourced spawned session there)
  refine ⟨arrives, first, ?_, ?_⟩
  · intro s i actor host run spawned session there
    rw [readIn_own (clean_isolated created_tagged run)]
    have part := arrives s i actor host (run.mono fun _ _ _ => trivial) spawned session there
    exact (own_delivered k s.p.s).trans part
  · intro s i actor host run spawned session there
    rw [readIn_own (clean_isolated created_tagged (run.mono fun _ _ both => both.1))]
    exact first s i actor host (run.mono fun _ _ both => both.2) spawned session there

/-- The adapter writes one byte, and the process reads it. -/
def answering : List SystemEvent :=
  [.host 0 (.adapter (.write [0x42])), .host 0 (.adapter (.read 1)), .host 0 (.adapter .send),
    .host 0 (.exitStatus false), .host 0 .adapterData, .host 0 (.bridge .requested),
    .host 0 (.bridge (.task .request)), .host 0 (.bridge (.task (.wrote 9))),
    .daemon (.link 0 .read),
    .daemon (.link 0 (.task (.read
      [0x4E, 0x43, 0x44, 0x01, 0x00, 0x04, 0x00, 0x05, 0x00, 0x00, 0x00, 0x00, 0x4E, 0x43, 0x44,
        0x01, 0x00, 0x04, 0x00, 0x06, 0x00, 0x00, 0x00, 0x00, 0x4E, 0x43, 0x44, 0x01, 0x00, 0x01,
        0x00, 0x07, 0x42]))),
    .daemon (.link 0 (.task (.wrote 12))), .daemon (.link 0 (.task .packet)),
    .daemon (.link 0 (.task .packet)), .daemon (.link 0 (.task .deliver)),
    .daemon (.link 0 .recv), .daemon (.session .tcp), .daemon (.session (.flow (.flush true))),
    .daemon (.session (.flow (.data true))), .daemon (.session (.flow (.flush true))),
    .daemon (.session (.flow (.read 1))), .daemon (.session (.flow (.lock true))),
    .daemon (.session (.flow (.copy true)))]

def answered : System :=
  (execIf System.step Faultless aSystem (connecting ++ writing ++ answering)).getD aSystem

theorem one_byte_reaches_reader :
    ∃ host, answered.hosts[0]? = some host ∧ readIn 1 answered.p.s = [0x42] ∧
      readIn 1 answered.p.s <+: host.adapter.wrote := by
  have run : Reaches System.step Faultless aSystem answered :=
    reaches_of_execIf (connecting ++ writing ++ answering) (by decide +kernel)
  have spawned : (answered.p.s.actors[0]?.map fun actor => actor.session) = some 1 := by
    decide +kernel
  have wrote : (answered.hosts[0]?.map fun host => host.adapter.wrote) = some [0x42] := by
    decide +kernel
  obtain ⟨actor, found, session⟩ := Option.map_eq_some_iff.mp spawned
  obtain ⟨host, there, _⟩ := Option.map_eq_some_iff.mp wrote
  exact ⟨host, there, by decide +kernel, (output_reaches_reader _ _ _ _ _ _ _ _ _ _ 1).2.2.2
    answered 0 actor host run found session there⟩

end NcdUpstream
