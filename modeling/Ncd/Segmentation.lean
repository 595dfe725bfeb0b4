import Ncd.Receiver

/- Which packets come out before a protocol error, over all ways to cut one stream into
   reads. A read that shows the error delivers nothing of what it completes. -/
namespace NcdSegmentation
open NcdPacket NcdFrame NcdCodec NcdIoState NcdReceiver IncrementalDecoding LabelledRuns

def decodes (bytes : List UInt8) : Except Error (List Packet) :=
  match frameDecoder.drain bytes [] with
  | .error e => .error e
  | .ok (_, frames) =>
    match packetDecoder.drain frames [] with
    | .error e => .error e
    | .ok (_, packets) => .ok packets

theorem decodes_ok_iff {bytes : List UInt8} {ps : List Packet} :
    decodes bytes = .ok ps ↔ ∃ fs mid frames,
      frameDecoder.Parses bytes fs mid ∧ packetDecoder.Parses fs ps frames := by
  unfold decodes
  constructor
  · intro found
    split at found
    · cases found
    · rename_i mid fs drained
      split at found
      · cases found
      · rename_i frames packets drained'
        cases found
        obtain ⟨gs, parsed, all⟩ := drain_ok_iff.mp drained
        obtain ⟨qs, parsed', all'⟩ := drain_ok_iff.mp drained'
        rw [List.nil_append] at all all'
        subst all all'
        exact ⟨_, mid, frames, parsed, parsed'⟩
  · rintro ⟨fs, mid, frames, parsed, parsed'⟩
    simp only [drain_ok_iff.mpr ⟨fs, parsed, (List.nil_append fs).symm⟩,
      drain_ok_iff.mpr ⟨ps, parsed', (List.nil_append ps).symm⟩]

theorem decodes_nil : decodes [] = .ok [] :=
  decodes_ok_iff.mpr ⟨[], [], [], .done nextFrame_nil, .done rfl⟩

theorem decodes_front {front back : List UInt8} {qs : List Packet}
    (whole : decodes (front ++ back) = .ok qs) : ∃ ps, decodes front = .ok ps ∧ ps <+: qs := by
  obtain ⟨fs, mid, frames, parsed, parsed'⟩ := decodes_ok_iff.mp whole
  obtain ⟨mid', fs₁, fs₂, head, _, rfl⟩ := parses_split back parsed
  obtain ⟨frames', ps, rest, head', _, rfl⟩ := parses_split fs₂ parsed'
  exact ⟨ps, decodes_ok_iff.mpr ⟨fs₁, mid', frames', head, head'⟩, List.prefix_append _ _⟩

theorem decodes_rejected {front : List UInt8} {e : Error} (bad : decodes front = .error e)
    (back : List UInt8) : ∃ e', decodes (front ++ back) = .error e' := by
  cases verdict : decodes (front ++ back) with
  | error e' => exact ⟨e', rfl⟩
  | ok qs =>
    obtain ⟨ps, fine, _⟩ := decodes_front verdict
    rw [bad] at fine
    cases fine

theorem agrees_decodes {io : IoState} {received : List Packet} (agrees : Agrees io received) :
    decodes io.stream.consumed = .ok (received ++ io.packetBuffer) := by
  obtain ⟨fs, parsed, parsed'⟩ := agrees
  exact decodes_ok_iff.mpr ⟨fs, _, _, parsed, parsed'⟩

/-- A read fails exactly where the whole stream up to its end is rejected. -/
theorem readBytes_rejected {io : IoState} {received : List Packet} {chunk : List UInt8} {e : Error}
    (agrees : Agrees io received) (bad : io.readBytes chunk = .error e) :
    ∃ e', decodes (io.stream.consumed ++ chunk) = .error e' := by
  cases verdict : decodes (io.stream.consumed ++ chunk) with
  | error e' => exact ⟨e', rfl⟩
  | ok qs =>
    obtain ⟨fs, parsed, parsed'⟩ := agrees
    obtain ⟨gs, mid, frames, whole, whole'⟩ := decodes_ok_iff.mp verdict
    obtain ⟨more, drained, rfl⟩ := drain_feed io.frameBuffer parsed whole
    obtain ⟨added, drained', _⟩ := drain_feed io.packetBuffer parsed' whole'
    simp [IoState.readBytes, drained, drained'] at bad

def reads : List RecvEvent → List (List UInt8)
  | [] => []
  | .read chunk :: events => chunk :: reads events
  | _ :: events => reads events

theorem reads_append (events more : List RecvEvent) :
    reads (events ++ more) = reads events ++ reads more := by
  induction events with
  | nil => rfl
  | cons event events ih => cases event <;> simp [reads, ih]

/-- Where a run of calls stands: no error yet, or stopped at the read that showed one. -/
inductive Follows (events : List RecvEvent) (r : Receiver) : Prop where
  | going (fine : r.failed = none) (agrees : Agrees r.io r.returned)
      (consumed : r.io.stream.consumed = (reads events).flatten)
      (waits : r.pending = true → r.io.packetBuffer = [])
  | stopped {init : List (List UInt8)} {chunk : List UInt8} {e : Error}
      (bad : r.failed.isSome) (idle : r.pending = false) (cut : reads events = init ++ [chunk])
      (before : decodes init.flatten = .ok r.returned)
      (rejects : decodes (init.flatten ++ chunk) = .error e)

theorem loopTop_follows {r : Receiver} {events : List RecvEvent} (fine : r.failed = none)
    (agrees : Agrees r.io r.returned) (consumed : r.io.stream.consumed = (reads events).flatten) :
    Follows events r.loopTop := by
  unfold Receiver.loopTop
  split
  · rename_i p rest queue
    apply Follows.going
    · exact fine
    · exact agrees_pop agrees queue
    · exact consumed
    · intro waiting
      cases waiting
  · rename_i queue
    apply Follows.going
    · exact fine
    · exact agrees
    · exact consumed
    · intro _
      exact queue

theorem step_follows {r t : Receiver} {events : List RecvEvent} {event : RecvEvent}
    (follows : Follows events r) (step : r.step event = some t) :
    Follows (events ++ [event]) t := by
  have more := reads_append events [event]
  cases follows with
  | stopped bad idle cut before rejects =>
    cases event with
    | call => simp [Receiver.step, bad] at step
    | read chunk => simp [Receiver.step, idle] at step
    | dropCall => simp [Receiver.step, idle] at step
  | going fine agrees consumed waits =>
    cases event with
    | call =>
      simp only [Receiver.step] at step
      split at step <;> cases step
      exact loopTop_follows fine agrees (by rw [more]; simpa [reads] using consumed)
    | dropCall =>
      simp only [Receiver.step] at step
      split at step <;> cases step
      apply Follows.going
      · exact fine
      · exact agrees
      · rw [more]
        simpa [reads] using consumed
      · intro waiting
        cases waiting
    | read chunk =>
      simp only [Receiver.step] at step
      split at step
      · cases step
      · rename_i waiting
        simp only [not_or, Bool.not_eq_false] at waiting
        split at step
        · rename_i e bad
          cases step
          obtain ⟨e', rejects⟩ := readBytes_rejected agrees bad
          have before := agrees_decodes agrees
          rw [waits waiting.1, List.append_nil, consumed] at before
          rw [consumed] at rejects
          exact .stopped rfl rfl more before rejects
        · rename_i io read
          cases step
          have after := readBytes_stream read
          refine loopTop_follows (r := { r with io := io }) fine (agrees_read agrees read) ?_
          rw [more]
          simp [after, consumed, reads]

theorem run_follows {t : Receiver} {events : List RecvEvent}
    (run : exec Receiver.step {} events = some t) : Follows events t := by
  induction events using List.reverseRecOn generalizing t with
  | nil =>
    cases run
    exact .going rfl agrees_empty rfl fun _ => rfl
  | append_singleton events event ih =>
    rw [exec_snoc] at run
    obtain ⟨r, before, last⟩ := Option.bind_eq_some_iff.mp run
    exact step_follows (ih before) last

/-- Calls of recv_packet on a stream that arrives in these reads and then ends: ps is what
    they return before their first Err, or before they wait for bytes that never come. -/
def Delivers (cuts : List (List UInt8)) (ps : List Packet) : Prop :=
  ∃ events r, exec Receiver.step {} events = some r ∧ r.returned = ps ∧
    (r.failed.isSome ∧ reads events <+: cuts ∨
      r.failed = none ∧ r.pending = true ∧ reads events = cuts)

/-- A way to cut stream into reads. A read that returns no byte is the end of the input. -/
def CutOf (stream : List UInt8) (cuts : List (List UInt8)) : Prop :=
  cuts.flatten = stream ∧ ∀ chunk ∈ cuts, chunk ≠ []

theorem delivers_cases {cuts : List (List UInt8)} {ps : List Packet}
    (delivers : Delivers cuts ps) :
    decodes cuts.flatten = .ok ps ∨
      ∃ init chunk e, init ++ [chunk] <+: cuts ∧ decodes init.flatten = .ok ps ∧
        decodes (init.flatten ++ chunk) = .error e := by
  obtain ⟨events, r, run, rfl, ends⟩ := delivers
  cases run_follows run with
  | going fine agrees consumed waits =>
    obtain ⟨_, waiting, all⟩ := ends.resolve_left (by simp [fine])
    have whole := agrees_decodes agrees
    rw [waits waiting, List.append_nil, consumed, all] at whole
    exact .inl whole
  | stopped bad idle cut before rejects =>
    obtain ⟨_, part⟩ := ends.resolve_right (by simp [idle])
    rw [cut] at part
    exact .inr ⟨_, _, _, part, before, rejects⟩

/- Calls empty packet_buffer, and the one after them waits. -/
theorem calls_drain (r : Receiver) (fine : r.failed = none) (idle : r.pending = false) :
    ∃ events t, exec Receiver.step r events = some t ∧ reads events = [] ∧ t.failed = none ∧
      t.pending = true := by
  induction queue : r.io.packetBuffer generalizing r with
  | nil =>
    refine ⟨[.call], { r with pending := true }, ?_, rfl, fine, rfl⟩
    simp [exec, Receiver.step, Receiver.loopTop, fine, idle, queue]
  | cons p rest ih =>
    obtain ⟨events, t, run, none, fine', waits⟩ :=
      ih { r with io := { r.io with packetBuffer := rest }, returned := r.returned ++ [p] }
        fine idle rfl
    refine ⟨.call :: events, t, ?_, none, fine', waits⟩
    simpa [exec, Receiver.step, Receiver.loopTop, fine, idle, queue] using run

/- Induction on the reads to come; after each read the calls drain what it completed. -/
theorem reads_end (cuts : List (List UInt8)) (nonempty : ∀ chunk ∈ cuts, chunk ≠ [])
    (r : Receiver) (fine : r.failed = none) (waits : r.pending = true) :
    ∃ events t, exec Receiver.step r events = some t ∧
      (t.failed.isSome ∧ reads events <+: cuts ∨
        t.failed = none ∧ t.pending = true ∧ reads events = cuts) := by
  induction cuts generalizing r with
  | nil => exact ⟨[], r, rfl, .inr ⟨fine, waits, rfl⟩⟩
  | cons chunk cuts ih =>
    have here : chunk ≠ [] := nonempty chunk (by simp)
    cases read : r.io.readBytes chunk with
    | error e =>
      refine ⟨[.read chunk], { r with pending := false, failed := some e }, ?_, .inl ⟨rfl, ?_⟩⟩
      · simp [exec, Receiver.step, waits, here, read]
      · exact (List.prefix_cons_inj chunk).mpr List.nil_prefix
    | ok io =>
      have first : r.step (.read chunk) = some { r with io := io }.loopTop := by
        simp [Receiver.step, waits, here, read]
      have settles : ∃ events m, exec Receiver.step { r with io := io }.loopTop events = some m ∧
          reads events = [] ∧ m.failed = none ∧ m.pending = true := by
        unfold Receiver.loopTop
        split
        · exact calls_drain _ fine rfl
        · exact ⟨[], _, rfl, rfl, fine, rfl⟩
      obtain ⟨calls, m, drains, none, fine', waits'⟩ := settles
      obtain ⟨events, t, run, ends⟩ :=
        ih (fun c member => nonempty c (by simp [member])) m fine' waits'
      refine ⟨.read chunk :: (calls ++ events), t, ?_, ?_⟩
      · simp only [exec, first, Option.bind_some]
        rw [exec_append, drains, Option.bind_some, run]
      · have shape : reads (.read chunk :: (calls ++ events)) = chunk :: reads events := by
          simp [reads, reads_append, none]
        rw [shape]
        rcases ends with ⟨bad, part⟩ | ⟨fine'', waits'', all⟩
        · exact .inl ⟨bad, (List.prefix_cons_inj chunk).mpr part⟩
        · exact .inr ⟨fine'', waits'', by rw [all]⟩

theorem delivers_exists {cuts : List (List UInt8)} (nonempty : ∀ chunk ∈ cuts, chunk ≠ []) :
    ∃ ps, Delivers cuts ps := by
  obtain ⟨events, t, run, ends⟩ :=
    reads_end cuts nonempty { pending := true } rfl rfl
  refine ⟨t.returned, .call :: events, t, ?_, rfl, ?_⟩
  · simpa [exec, Receiver.step, Receiver.loopTop] using run
  · simpa [reads] using ends

/-- No way to cut the stream changes what is delivered. -/
def SameForEveryCut (stream : List UInt8) : Prop :=
  ∀ cuts cuts' ps ps', CutOf stream cuts → CutOf stream cuts' →
    Delivers cuts ps → Delivers cuts' ps' → ps = ps'

/-- The same, and all that is whole before the first malformed frame or packet is delivered. -/
def CutFree (stream : List UInt8) : Prop :=
  SameForEveryCut stream ∧
    ∀ cuts ps front qs, CutOf stream cuts → Delivers cuts ps → front <+: stream →
      decodes front = .ok qs → qs <+: ps

/-- No packet of the stream is whole before the bytes that make it malformed. -/
def NothingBeforeError (stream : List UInt8) : Prop :=
  ∀ front bad ps e, front <+: bad → bad <+: stream → decodes front = .ok ps →
    decodes bad = .error e → ps = []

/- With an error in the stream, all that some cut delivers before it is nothing. -/
theorem nothing_delivered {stream : List UInt8} {cuts : List (List UInt8)} {ps : List Packet}
    {e : Error} (nothing : NothingBeforeError stream) (cut : CutOf stream cuts)
    (bad : decodes stream = .error e) (delivers : Delivers cuts ps) : ps = [] := by
  rcases delivers_cases delivers with whole | ⟨init, chunk, e', part, before, _⟩
  · rw [cut.1, bad] at whole
    cases whole
  · have front : init.flatten <+: stream := by
      obtain ⟨back, rfl⟩ := part
      rw [← cut.1]
      simp
    exact nothing _ _ _ _ front (List.prefix_refl _) before bad

theorem all_delivered {stream : List UInt8} {cuts : List (List UInt8)} {ps all : List Packet}
    (cut : CutOf stream cuts) (fine : decodes stream = .ok all) (delivers : Delivers cuts ps) :
    ps = all := by
  rcases delivers_cases delivers with whole | ⟨init, chunk, e, part, _, rejects⟩
  · rw [cut.1, fine] at whole
    exact (Except.ok.inj whole).symm
  · obtain ⟨back, rfl⟩ := part
    have split : stream = (init.flatten ++ chunk) ++ back.flatten := by
      rw [← cut.1]
      simp
    obtain ⟨e', bad⟩ := decodes_rejected rejects back.flatten
    rw [← split, fine] at bad
    cases bad

theorem nothing_before_cutFree {stream : List UInt8} (nothing : NothingBeforeError stream) :
    CutFree stream := by
  cases verdict : decodes stream with
  | error e =>
    constructor
    · intro cuts cuts' ps ps' cut cut' delivers delivers'
      rw [nothing_delivered nothing cut verdict delivers,
        nothing_delivered nothing cut' verdict delivers']
    · intro cuts ps front qs _ _ part fine
      rw [nothing _ _ _ _ part (List.prefix_refl _) fine verdict]
      exact List.nil_prefix
  | ok all =>
    constructor
    · intro cuts cuts' ps ps' cut cut' delivers delivers'
      rw [all_delivered cut verdict delivers, all_delivered cut' verdict delivers']
    · rintro cuts ps front qs cut delivers ⟨back, rfl⟩ fine
      obtain ⟨ps', fine', part⟩ := decodes_front verdict
      rw [fine] at fine'
      cases fine'
      rw [all_delivered cut verdict delivers]
      exact part

theorem one_read {stream : List UInt8} {ps : List Packet} {e : Error}
    (bad : decodes stream = .error e) (delivers : Delivers [stream] ps) : ps = [] := by
  rcases delivers_cases delivers with whole | ⟨init, chunk, _, part, before, _⟩
  · rw [List.flatten_singleton, bad] at whole
    cases whole
  · have short := part.length_le
    simp only [List.length_append, List.length_singleton] at short
    have first : init = [] := List.eq_nil_of_length_eq_zero (by omega)
    rw [first, List.flatten_nil, decodes_nil] at before
    exact (Except.ok.inj before).symm

theorem two_reads {front back : List UInt8} {ps qs : List Packet} {e : Error}
    (fine : decodes front = .ok ps) (bad : decodes (front ++ back) = .error e)
    (delivers : Delivers [front, back] qs) : qs = ps := by
  rcases delivers_cases delivers with whole | ⟨init, chunk, e', part, before, rejects⟩
  · simp only [List.flatten_cons, List.flatten_nil, List.append_nil, bad] at whole
    cases whole
  · cases init with
    | nil =>
      have here := (List.cons_prefix_cons.mp part).1
      rw [List.flatten_nil, List.nil_append, here, fine] at rejects
      cases rejects
    | cons first init =>
      have here := (List.cons_prefix_cons.mp part).1
      have later : init ++ [chunk] <+: [back] := (List.cons_prefix_cons.mp part).2
      have short := later.length_le
      simp only [List.length_append, List.length_singleton] at short
      have last : init = [] := List.eq_nil_of_length_eq_zero (by omega)
      rw [last, here, List.flatten_singleton, fine] at before
      exact (Except.ok.inj before).symm

theorem same_nothing_before {stream : List UInt8} (same : SameForEveryCut stream) :
    NothingBeforeError stream := by
  rintro front bad ps e ⟨middle, rfl⟩ ⟨back, rfl⟩ fine rejects
  by_cases empty : front = []
  · subst empty
    rw [decodes_nil] at fine
    exact (Except.ok.inj fine).symm
  · have nonempty : middle ++ back ≠ [] := by
      intro none
      rw [(List.append_eq_nil_iff.mp none).1, List.append_nil, fine] at rejects
      cases rejects
    obtain ⟨e', wrong⟩ := decodes_rejected rejects back
    rw [List.append_assoc] at same wrong
    have one : CutOf (front ++ (middle ++ back)) [front ++ (middle ++ back)] := by
      refine ⟨List.flatten_singleton, ?_⟩
      intro chunk member
      rw [List.mem_singleton.mp member]
      exact List.append_ne_nil_of_left_ne_nil empty _
    have two : CutOf (front ++ (middle ++ back)) [front, middle ++ back] := by
      refine ⟨by simp, ?_⟩
      intro chunk member
      rcases List.mem_cons.mp member with rfl | later
      · exact empty
      · rw [List.mem_singleton.mp later]
        exact nonempty
    obtain ⟨qs, delivers⟩ := delivers_exists one.2
    obtain ⟨qs', delivers'⟩ := delivers_exists two.2
    have equal := same _ _ _ _ one two delivers delivers'
    rw [one_read wrong delivers, two_reads fine wrong delivers'] at equal
    exact equal.symm

theorem cutFree_iff (stream : List UInt8) : CutFree stream ↔ NothingBeforeError stream := by
  constructor
  · intro free
    exact same_nothing_before free.1
  · exact nothing_before_cutFree

def packetThenNoise : List UInt8 :=
  [0x4E, 0x43, 0x44, 0x01, 0x00, 0x01, 0x00, 0x07, 0xAA] ++ List.replicate 8 0x00

/- In one read the packet is lost; cut behind it the packet is delivered. -/
theorem packet_then_noise_cut : ¬ SameForEveryCut packetThenNoise := by
  intro same
  have nothing := same_nothing_before same
  have whole : decodes (packetThenNoise.take 9) = .ok [.data [0xAA]] := by decide +kernel
  have bad : decodes packetThenNoise =
      .error (.frameDecodeError (.invalidMagicNumber [0x4E, 0x43, 0x44] [0, 0, 0])) := by
    decide +kernel
  cases nothing _ _ _ _ (List.take_prefix 9 _) (List.prefix_refl _) whole bad

end NcdSegmentation
