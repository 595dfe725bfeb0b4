import Mathlib.Data.List.Infix

/- Decoding a stream that arrives in pieces. A decoder takes one item from the front
   of a buffer, asks for more input, or rejects. Its verdict on a buffer must not
   change when the buffer grows; then the cuts of the stream cannot be observed. -/
namespace IncrementalDecoding

variable {α β ε : Type}

structure Decoder (α β ε : Type) where
  next : List α → Except ε (Option (β × List α))
  shrinks : ∀ {buf b rest}, next buf = .ok (some (b, rest)) → rest.length < buf.length
  settled : ∀ {buf b rest} (more : List α), next buf = .ok (some (b, rest)) →
    next (buf ++ more) = .ok (some (b, rest ++ more))
  rejected : ∀ {buf e} (more : List α), next buf = .error e → next (buf ++ more) = .error e

/-- The loop around next: push each item to out, stop when more input is needed or
    on the first error. `none` means that the rounds ran out. -/
def Decoder.drainFuel (d : Decoder α β ε) :
    Nat → List α → List β → Option (Except ε (List α × List β))
  | 0, _, _ => none
  | fuel + 1, buf, out =>
    match d.next buf with
    | .error e => some (.error e)
    | .ok none => some (.ok (buf, out))
    | .ok (some (b, rest)) => d.drainFuel fuel rest (out ++ [b])

theorem drainFuel_ends (d : Decoder α β ε) {fuel : Nat} {buf : List α} (out : List β)
    (enough : buf.length < fuel) : (d.drainFuel fuel buf out).isSome := by
  induction fuel generalizing buf out with
  | zero => omega
  | succ fuel ih =>
    simp only [Decoder.drainFuel]
    split
    · rfl
    · rfl
    · rename_i b rest found
      have shorter := d.shrinks found
      exact ih (out ++ [b]) (by omega)

def Decoder.drain (d : Decoder α β ε) (buf : List α) (out : List β) :
    Except ε (List α × List β) :=
  (d.drainFuel (buf.length + 1) buf out).get (drainFuel_ends d out (Nat.lt_succ_self _))

/-- buf is the items bs followed by an unfinished rest. -/
inductive Decoder.Parses (d : Decoder α β ε) : List α → List β → List α → Prop where
  | done {rest : List α} (wait : d.next rest = .ok none) : Parses d rest [] rest
  | item {buf rest last : List α} {b : β} {bs : List β}
      (found : d.next buf = .ok (some (b, rest))) (tail : Parses d rest bs last) :
      Parses d buf (b :: bs) last

variable {d : Decoder α β ε}

theorem drainFuel_parses {fuel : Nat} {buf rest : List α} {out all : List β}
    (run : d.drainFuel fuel buf out = some (.ok (rest, all))) :
    ∃ bs, d.Parses buf bs rest ∧ all = out ++ bs := by
  induction fuel generalizing buf out with
  | zero => simp [Decoder.drainFuel] at run
  | succ fuel ih =>
    simp only [Decoder.drainFuel] at run
    split at run
    · simp at run
    · rename_i wait
      simp only [Option.some.injEq, Except.ok.injEq, Prod.mk.injEq] at run
      obtain ⟨rfl, rfl⟩ := run
      exact ⟨[], .done wait, by simp⟩
    · rename_i b tail found
      obtain ⟨bs, parsed, rfl⟩ := ih run
      exact ⟨b :: bs, .item found parsed, by simp⟩

theorem parses_drainFuel {buf rest : List α} {bs : List β} (parsed : d.Parses buf bs rest)
    {fuel : Nat} (out : List β) (enough : buf.length < fuel) :
    d.drainFuel fuel buf out = some (.ok (rest, out ++ bs)) := by
  induction parsed generalizing fuel out with
  | done wait =>
    cases fuel with
    | zero => omega
    | succ fuel => simp [Decoder.drainFuel, wait]
  | @item buf rest last b bs found tail ih =>
    cases fuel with
    | zero => omega
    | succ fuel =>
      have shorter := d.shrinks found
      simp only [Decoder.drainFuel, found]
      rw [ih (out ++ [b]) (by omega)]
      simp

theorem drain_eq_some (d : Decoder α β ε) (buf : List α) (out : List β) :
    d.drainFuel (buf.length + 1) buf out = some (d.drain buf out) := by
  simp [Decoder.drain]

theorem drain_ok_iff {buf rest : List α} {out all : List β} :
    d.drain buf out = .ok (rest, all) ↔ ∃ bs, d.Parses buf bs rest ∧ all = out ++ bs := by
  have defined := drain_eq_some d buf out
  constructor
  · intro run
    rw [run] at defined
    exact drainFuel_parses defined
  · rintro ⟨bs, parsed, rfl⟩
    have run := parses_drainFuel parsed out (Nat.lt_succ_self buf.length)
    exact Option.some.inj (defined.symm.trans run)

/- Decoding never uses up a buffer without finding something in it. -/
theorem parses_keeps {buf rest : List α} {bs : List β} (parsed : d.Parses buf bs rest)
    (nonempty : buf ≠ []) : bs ≠ [] ∨ rest ≠ [] := by
  cases parsed with
  | done wait => exact .inr nonempty
  | item found tail => exact .inl (by simp)

theorem parses_unique {buf rest last : List α} {bs cs : List β}
    (one : d.Parses buf bs rest) (two : d.Parses buf cs last) : bs = cs ∧ rest = last := by
  induction one generalizing cs with
  | done wait =>
    cases two with
    | done => exact ⟨rfl, rfl⟩
    | item found => simp [wait] at found
  | item found _ ih =>
    cases two with
    | done wait => simp [wait] at found
    | item found' tail =>
      rw [found] at found'
      simp only [Except.ok.injEq, Option.some.injEq, Prod.mk.injEq] at found'
      obtain ⟨rfl, rfl⟩ := found'
      obtain ⟨rfl, rfl⟩ := ih tail
      exact ⟨rfl, rfl⟩

/-- Decoding what is there and then what is left with the next piece is decoding
    both pieces at once. -/
theorem parses_feed {buf mid last more : List α} {bs cs : List β}
    (first : d.Parses buf bs mid) (second : d.Parses (mid ++ more) cs last) :
    d.Parses (buf ++ more) (bs ++ cs) last := by
  induction first with
  | done => exact second
  | item found _ ih => exact .item (d.settled more found) (ih second)

theorem parses_split {buf last : List α} {bs : List β} (more : List α)
    (whole : d.Parses (buf ++ more) bs last) :
    ∃ mid bs₁ bs₂, d.Parses buf bs₁ mid ∧ d.Parses (mid ++ more) bs₂ last ∧
      bs = bs₁ ++ bs₂ := by
  induction size : buf.length using Nat.strongRecOn generalizing buf bs with
  | ind n ih =>
    cases verdict : d.next buf with
    | error e =>
      have bad := d.rejected more verdict
      cases whole with
      | done wait => simp [wait] at bad
      | item found => simp [found] at bad
    | ok answer =>
      cases answer with
      | none => exact ⟨buf, [], bs, .done verdict, whole, rfl⟩
      | some pair =>
        obtain ⟨b, rest⟩ := pair
        have found := d.settled more verdict
        cases whole with
        | done wait => simp [wait] at found
        | @item _ rest' _ b' bs' found' tail =>
          rw [found'] at found
          simp only [Except.ok.injEq, Option.some.injEq, Prod.mk.injEq] at found
          obtain ⟨rfl, rfl⟩ := found
          have shorter := d.shrinks verdict
          obtain ⟨mid, bs₁, bs₂, head, last_part, rfl⟩ :=
            ih rest.length (by omega) tail rfl
          exact ⟨mid, b' :: bs₁, bs₂, .item verdict head, last_part, rfl⟩

/-- Feeding one more piece continues the same parse, and cannot fail if the whole
    stream has one. -/
theorem drain_feed {buf mid last more : List α} {bs cs : List β} (out : List β)
    (parsed : d.Parses buf bs mid) (whole : d.Parses (buf ++ more) cs last) :
    ∃ ds, d.drain (mid ++ more) out = .ok (last, out ++ ds) ∧ cs = bs ++ ds := by
  obtain ⟨mid', bs₁, bs₂, head, tail, rfl⟩ := parses_split more whole
  obtain ⟨rfl, rfl⟩ := parses_unique parsed head
  exact ⟨bs₂, drain_ok_iff.mpr ⟨bs₂, tail, rfl⟩, rfl⟩

end IncrementalDecoding
