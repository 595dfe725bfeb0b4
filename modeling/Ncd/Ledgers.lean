import Mathlib.Logic.Function.Basic
import Mathlib.Data.List.Basic

/- Ledgers of what has been acquired and not yet released. Some resources are held at most
   once, and some live only while others do. -/
namespace Ledgers

variable {R : Type} [DecidableEq R]

inductive Entry (R : Type) where
  | acquire (r : R)
  | release (r : R)
  deriving DecidableEq, Repr

def Entry.apply (held : R → Nat) : Entry R → R → Nat
  | .acquire r => Function.update held r (held r + 1)
  | .release r => Function.update held r (held r - 1)

def after (held : R → Nat) (entries : List (Entry R)) : R → Nat := entries.foldl Entry.apply held

/-- needs r s: an r lives only while an s does. -/
structure Rules (R : Type) where
  exclusive : R → Prop
  needs : R → R → Prop

/-- Only what is held is released, and only once nothing needs it any more. -/
def Rules.allows (rules : Rules R) (held : R → Nat) : Entry R → Prop
  | .acquire r => (rules.exclusive r → held r = 0) ∧ ∀ s, rules.needs r s → 0 < held s
  | .release r => 0 < held r ∧ ∀ t, rules.needs t r → held t = 0

def Rules.Legal (rules : Rules R) : (R → Nat) → List (Entry R) → Prop
  | _, [] => True
  | held, e :: es => rules.allows held e ∧ rules.Legal (e.apply held) es

/-- The entries are legal and lead from the one ledger to the other. -/
structure Rules.Leads (rules : Rules R) (held : R → Nat) (entries : List (Entry R))
    (held' : R → Nat) : Prop where
  legal : rules.Legal held entries
  ends : after held entries = held'

/-- What is exclusive is held once, what is needed is held. -/
structure Rules.Lawful (rules : Rules R) (held : R → Nat) : Prop where
  once : ∀ r, rules.exclusive r → held r ≤ 1
  live : ∀ r s, rules.needs r s → 0 < held r → 0 < held s

variable {rules : Rules R} {held mid held' : R → Nat} {entries rest : List (Entry R)}

theorem after_append (held : R → Nat) (es fs : List (Entry R)) :
    after held (es ++ fs) = after (after held es) fs := List.foldl_append

theorem legal_append (held : R → Nat) (es fs : List (Entry R)) :
    rules.Legal held (es ++ fs) ↔ rules.Legal held es ∧ rules.Legal (after held es) fs := by
  induction es generalizing held with
  | nil => simp [Rules.Legal, after]
  | cons e es ih => simp only [List.cons_append, Rules.Legal, ih, and_assoc, after, List.foldl_cons]

theorem leads_nil (held : R → Nat) : rules.Leads held [] held := ⟨trivial, rfl⟩

theorem Rules.Leads.append (first : rules.Leads held entries mid)
    (second : rules.Leads mid rest held') : rules.Leads held (entries ++ rest) held' := by
  refine ⟨(legal_append held entries rest).mpr ⟨first.legal, ?_⟩, ?_⟩
  · rw [first.ends]
    exact second.legal
  · rw [after_append, first.ends, second.ends]

theorem Rules.Leads.acquire {r : R} (free : rules.exclusive r → held r = 0)
    (live : ∀ s, rules.needs r s → 0 < held s)
    (next : rules.Leads (Function.update held r (held r + 1)) rest held') :
    rules.Leads held (.acquire r :: rest) held' :=
  ⟨⟨⟨free, live⟩, next.legal⟩, next.ends⟩

theorem Rules.Leads.release {r : R} (holds : 0 < held r) (unused : ∀ t, rules.needs t r → held t = 0)
    (next : rules.Leads (Function.update held r (held r - 1)) rest held') :
    rules.Leads held (.release r :: rest) held' :=
  ⟨⟨⟨holds, unused⟩, next.legal⟩, next.ends⟩

theorem leads_range (round : Nat → List (Entry R)) (ledger : Nat → R → Nat) (n : Nat)
    (step : ∀ k < n, rules.Leads (ledger k) (round k) (ledger (k + 1))) :
    rules.Leads (ledger 0) ((List.range n).flatMap round) (ledger n) := by
  induction n with
  | zero => exact leads_nil _
  | succ n ih =>
    rw [List.range_succ, List.flatMap_append, List.flatMap_singleton]
    exact (ih fun k small => step k (Nat.lt_succ_of_lt small)).append (step n (Nat.lt_succ_self n))

theorem leads_releases {r : R} (n : Nat) (holds : n ≤ held r)
    (unused : ∀ t, rules.needs t r → held t = 0) (apart : ¬rules.needs r r) :
    rules.Leads held (List.replicate n (.release r)) (Function.update held r (held r - n)) := by
  induction n generalizing held with
  | zero => simpa using leads_nil held
  | succ n ih =>
    rw [List.replicate_succ]
    refine .release (by omega) unused ?_
    have unused' (t : R) (needs : rules.needs t r) :
        Function.update held r (held r - 1) t = 0 := by
      have other : t ≠ r := by
        rintro rfl
        exact apart needs
      rw [Function.update_of_ne other]
      exact unused t needs
    have next := ih (by rw [Function.update_self]; omega) unused'
    rwa [Function.update_idem, Function.update_self, Nat.sub_sub, Nat.add_comm 1 n] at next

theorem allows_lawful {e : Entry R} (lawful : rules.Lawful held) (allowed : rules.allows held e) :
    rules.Lawful (e.apply held) := by
  cases e with
  | acquire r =>
    refine ⟨fun s exclusive => ?_, fun s t needs holds => ?_⟩
    · by_cases same : s = r
      · subst same
        simp [Entry.apply, allowed.1 exclusive]
      · simpa [Entry.apply, same] using lawful.once s exclusive
    · have before : 0 < held t := by
        by_cases same : s = r
        · exact allowed.2 t (same ▸ needs)
        · exact lawful.live s t needs (by simpa [Entry.apply, same] using holds)
      by_cases same : t = r
      · subst same
        simp [Entry.apply]
      · simpa [Entry.apply, same] using before
  | release r =>
    refine ⟨fun s exclusive => ?_, fun s t needs holds => ?_⟩
    · have before := lawful.once s exclusive
      by_cases same : s = r
      · subst same
        simp only [Entry.apply, Function.update_self]
        omega
      · simpa [Entry.apply, same] using before
    · have before : 0 < held s := by
        by_cases same : s = r
        · subst same
          exact allowed.1
        · simpa [Entry.apply, same] using holds
      by_cases same : t = r
      · subst same
        exact absurd (allowed.2 s needs) (by omega)
      · simpa [Entry.apply, same] using lawful.live s t needs before

/-- Legal entries keep the ledger lawful at every point. -/
theorem legal_lawful (lawful : rules.Lawful held) (legal : rules.Legal held (entries ++ rest)) :
    rules.Lawful (after held entries) := by
  induction entries generalizing held with
  | nil => exact lawful
  | cons e es ih => exact ih (allows_lawful lawful legal.1) legal.2

omit [DecidableEq R] in
theorem lawful_empty (rules : Rules R) : rules.Lawful fun _ => 0 :=
  ⟨fun _ _ => Nat.zero_le 1, fun _ _ _ holds => absurd holds (Nat.lt_irrefl 0)⟩

end Ledgers
