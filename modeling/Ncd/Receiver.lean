import Ncd.IoState

/- The receiving half of a connection against a stream of encoded packets: the buffers
   of IoState always hold the one parse of the bytes read so far. -/
namespace NcdReceiver
open NcdPacket NcdFrame NcdCodec NcdIoState IncrementalDecoding LabelledRuns

/-- Where the bytes read so far have gone: packets already returned by recv_packet,
    then packet_buffer, frame_buffer and byte_buffer. -/
def Agrees (io : IoState) (received : List Packet) : Prop :=
  ∃ fs, frameDecoder.Parses io.stream.consumed fs io.byteBuffer ∧
    packetDecoder.Parses fs (received ++ io.packetBuffer) io.frameBuffer

theorem agrees_empty : Agrees {} [] := ⟨[], .done nextFrame_nil, .done rfl⟩

theorem agrees_pop {io : IoState} {received rest : List Packet} {p : Packet}
    (agrees : Agrees io received) (queue : io.packetBuffer = p :: rest) :
    Agrees { io with packetBuffer := rest } (received ++ [p]) := by
  obtain ⟨fs, decoded, packets⟩ := agrees
  rw [queue] at packets
  exact ⟨fs, decoded, by simpa using packets⟩

theorem agrees_read {io io' : IoState} {received : List Packet} {chunk : List UInt8}
    (agrees : Agrees io received) (read : io.readBytes chunk = .ok io') :
    Agrees io' received := by
  obtain ⟨fs, decoded, packets⟩ := agrees
  unfold IoState.readBytes at read
  split at read
  · simp at read
  · rename_i bytes frames drained
    obtain ⟨gs, moreFrames, rfl⟩ := drain_ok_iff.mp drained
    split at read
    · simp at read
    · rename_i frames' packets' drained'
      obtain ⟨qs, morePackets, rfl⟩ := drain_ok_iff.mp drained'
      simp only [Except.ok.injEq] at read
      subst read
      refine ⟨fs ++ gs, parses_feed decoded moreFrames, ?_⟩
      rw [← List.append_assoc]
      exact parses_feed packets morePackets

theorem readBytes_stream {io io' : IoState} {chunk : List UInt8}
    (read : io.readBytes chunk = .ok io') :
    io'.stream = { io.stream with consumed := io.stream.consumed ++ chunk } := by
  unfold IoState.readBytes at read
  split at read
  · simp at read
  · split at read
    · simp at read
    · simp only [Except.ok.injEq] at read
      subst read
      rfl

theorem readBytes_ok {io : IoState} {received ps : List Packet} {chunk : List UInt8}
    (agrees : Agrees io received) (part : io.stream.consumed ++ chunk <+: wire ps) :
    ∃ io', io.readBytes chunk = .ok io' := by
  obtain ⟨fs, decoded, packets⟩ := agrees
  obtain ⟨gs, mid, frames, wholeFrames, wholePackets, _⟩ := parse_prefix part
  obtain ⟨more, drained, rfl⟩ := drain_feed io.frameBuffer decoded wholeFrames
  obtain ⟨added, drained', _⟩ := drain_feed io.packetBuffer packets wholePackets
  simp only [IoState.readBytes, drained, drained']
  exact ⟨_, rfl⟩

theorem agrees_within {io : IoState} {received ps : List Packet}
    (agrees : Agrees io received) (part : io.stream.consumed <+: wire ps) :
    received ++ io.packetBuffer = packetsWithin ps io.stream.consumed.length := by
  obtain ⟨fs, decoded, packets⟩ := agrees
  obtain ⟨gs, mid, frames, wholeFrames, wholePackets, _⟩ := parse_prefix part
  obtain ⟨rfl, _⟩ := parses_unique decoded wholeFrames
  exact (parses_unique packets wholePackets).1

theorem agrees_all {io : IoState} {received ps : List Packet}
    (agrees : Agrees io received) (all : io.stream.consumed = wire ps) :
    received ++ io.packetBuffer = ps ∧ io.byteBuffer = [] ∧ io.frameBuffer = [] := by
  have part : io.stream.consumed <+: wire ps := all ▸ List.prefix_refl _
  have within := agrees_within agrees part
  rw [all, packetsWithin_all] at within
  obtain ⟨fs, decoded, packets⟩ := agrees
  obtain ⟨gs, mid, frames, wholeFrames, wholePackets, whole⟩ := parse_prefix part
  obtain ⟨rfl, rfl⟩ := parses_unique decoded wholeFrames
  obtain ⟨_, rfl⟩ := parses_unique packets wholePackets
  exact ⟨within, whole all⟩

/-- recv_packet being called on one IoState. pending: a call waits at its read_buf. -/
structure Receiver where
  io : IoState := {}
  pending : Bool := false
  returned : List Packet := []
  failed : Option Error := none
  deriving DecidableEq, Repr

/-- The top of the outer loop: return a queued packet, or wait for bytes. -/
def Receiver.loopTop (r : Receiver) : Receiver :=
  match r.io.packetBuffer with
  | p :: rest =>
    { r with io := { r.io with packetBuffer := rest }, returned := r.returned ++ [p],
             pending := false }
  | [] => { r with pending := true }

inductive RecvEvent where
  | call
  | read (chunk : List UInt8)
  | dropCall
  deriving DecidableEq, Repr

def Receiver.step (r : Receiver) : RecvEvent → Option Receiver
  | .call => if r.pending ∨ r.failed.isSome then none else some r.loopTop
  | .read chunk =>
    if r.pending = false ∨ chunk = [] then none
    else
      match r.io.readBytes chunk with
      | .error e => some { r with pending := false, failed := some e }
      | .ok io => some { r with io := io }.loopTop
  | .dropCall => if r.pending then some { r with pending := false } else none

def delivered : List RecvEvent → List UInt8
  | [] => []
  | .read chunk :: events => chunk ++ delivered events
  | _ :: events => delivered events

def Receiver.Sound (r : Receiver) : Prop := r.failed = none ∧ Agrees r.io r.returned

theorem loopTop_sound {r : Receiver} (sound : r.Sound) :
    r.loopTop.Sound ∧ r.loopTop.io.stream = r.io.stream := by
  unfold Receiver.loopTop
  split
  · rename_i p rest queue
    exact ⟨⟨sound.1, agrees_pop sound.2 queue⟩, rfl⟩
  · exact ⟨sound, rfl⟩

/- One event: the bytes of its read continue the prefix, and nothing fails. -/
theorem step_sound {r t : Receiver} {event : RecvEvent} {ps : List Packet} (sound : r.Sound)
    (part : r.io.stream.consumed ++ delivered [event] <+: wire ps)
    (step : r.step event = some t) :
    t.Sound ∧ t.io.stream.consumed = r.io.stream.consumed ++ delivered [event] := by
  cases event with
  | call =>
    simp only [Receiver.step] at step
    split at step
    · simp at step
    · have top := loopTop_sound sound
      cases step
      exact ⟨top.1, by simp [top.2, delivered]⟩
  | dropCall =>
    simp only [Receiver.step] at step
    split at step
    · cases step
      exact ⟨sound, by simp [delivered]⟩
    · simp at step
  | read chunk =>
    simp only [delivered, List.append_nil] at part ⊢
    obtain ⟨io', read⟩ := readBytes_ok sound.2 part
    simp only [Receiver.step, read] at step
    split at step
    · simp at step
    · have top := loopTop_sound (r := { r with io := io' }) ⟨sound.1, agrees_read sound.2 read⟩
      cases step
      exact ⟨top.1, by rw [top.2, readBytes_stream read]⟩

theorem delivered_cons (event : RecvEvent) (events : List RecvEvent) :
    delivered (event :: events) = delivered [event] ++ delivered events := by
  cases event <;> simp [delivered]

theorem run_sound {r t : Receiver} {events : List RecvEvent} {ps : List Packet}
    (sound : r.Sound) (part : r.io.stream.consumed ++ delivered events <+: wire ps)
    (run : exec Receiver.step r events = some t) :
    t.Sound ∧ t.io.stream.consumed = r.io.stream.consumed ++ delivered events := by
  induction events generalizing r with
  | nil =>
    cases run
    exact ⟨sound, by simp [delivered]⟩
  | cons event events ih =>
    obtain ⟨m, first, rest⟩ := exec_cons run
    rw [delivered_cons, ← List.append_assoc] at part
    have here := step_sound sound ((List.prefix_append _ _).trans part) first
    rw [← here.2] at part
    have final := ih here.1 part rest
    exact ⟨final.1, by rw [final.2, here.2, List.append_assoc, ← delivered_cons]⟩

theorem run_delivered {t : Receiver} {events : List RecvEvent} {ps : List Packet}
    (part : delivered events <+: wire ps) (run : exec Receiver.step {} events = some t) :
    t.Sound ∧ t.io.stream.consumed = delivered events := by
  have start : ({} : Receiver).Sound := ⟨rfl, agrees_empty⟩
  have whole : ({} : Receiver).io.stream.consumed ++ delivered events <+: wire ps := by
    simpa using part
  simpa using run_sound start whole run

/-- The bytes of any packets, cut into any reads with any calls dropped at the read and
    repeated, come back as the packets that are complete in the bytes read. Both inner
    loops end whatever the buffers hold. -/
theorem stream_round_trip (ps : List Packet) :
    ∃ W, sendAll ps = some W ∧
      (∀ events r, exec Receiver.step {} events = some r → delivered events <+: W →
        r.failed = none ∧
        r.returned ++ r.io.packetBuffer = packetsWithin ps (delivered events).length ∧
        (delivered events = W → r.io.byteBuffer = [] ∧ r.io.frameBuffer = [] ∧
          r.returned ++ r.io.packetBuffer = ps)) ∧
      (∀ (io : IoState) (chunk : List UInt8),
        (frameDecoder.drainFuel ((io.byteBuffer ++ chunk).length + 1) (io.byteBuffer ++ chunk)
          io.frameBuffer).isSome ∧
        ∀ frames, (packetDecoder.drainFuel (frames.length + 1) frames io.packetBuffer).isSome) := by
  refine ⟨wire ps, sendAll_eq ps, ?_, ?_⟩
  · intro events r run part
    obtain ⟨⟨fine, agrees⟩, consumed⟩ := run_delivered part run
    rw [← consumed] at part ⊢
    refine ⟨fine, agrees_within agrees part, ?_⟩
    intro all
    obtain ⟨packets, bytes, frames⟩ := agrees_all agrees all
    exact ⟨bytes, frames, packets⟩
  · intro io chunk
    exact ⟨drainFuel_ends _ _ (Nat.lt_succ_self _),
      fun frames => drainFuel_ends _ _ (Nat.lt_succ_self _)⟩

/- One Data packet, its header cut in two, the first call dropped in between. -/
example : (exec Receiver.step {} [.call, .read [0x4E, 0x43, 0x44], .dropCall, .call,
      .read [0x01, 0x00, 0x01, 0x00, 0x07, 0xAA]]).map (fun r => (r.returned, r.failed)) =
    some ([.data [0xAA]], none) := by decide +kernel

end NcdReceiver
