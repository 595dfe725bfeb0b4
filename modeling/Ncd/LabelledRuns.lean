import Mathlib.Order.RelClasses

/- Runs of a partial, labelled step function. A label is one choice of the
   scheduler or of the environment; `step s e = none` says that e cannot happen in s. -/
namespace LabelledRuns

variable {S E : Type}

def exec (step : S → E → Option S) : S → List E → Option S
  | s, [] => some s
  | s, e :: es => (step s e).bind fun t => exec step t es

theorem exec_append (step : S → E → Option S) (s : S) (es fs : List E) :
    exec step s (es ++ fs) = (exec step s es).bind fun t => exec step t fs := by
  induction es generalizing s with
  | nil => rfl
  | cons e es ih =>
    simp only [List.cons_append, exec]
    cases step s e with
    | none => rfl
    | some t => exact ih t

theorem exec_snoc (step : S → E → Option S) (s : S) (es : List E) (e : E) :
    exec step s (es ++ [e]) = (exec step s es).bind fun t => step t e := by
  rw [exec_append]
  cases exec step s es with
  | none => rfl
  | some t =>
    simp only [Option.bind_some, exec]
    cases step t e <;> rfl

/- Induction from the front: one label, then the rest of the run. -/
theorem exec_cons {step : S → E → Option S} {s t : S} {e : E} {es : List E}
    (run : exec step s (e :: es) = some t) :
    ∃ m, step s e = some m ∧ exec step m es = some t := by
  simpa only [exec, Option.bind_eq_some_iff] using run

/-- The states reached from s by steps that all satisfy ok, a condition on the
    state before the step and its label. -/
inductive Reaches (step : S → E → Option S) (ok : S → E → Prop) : S → S → Prop where
  | refl (s : S) : Reaches step ok s s
  | snoc {s t u : S} {e : E} (before : Reaches step ok s t) (allowed : ok t e)
      (last : step t e = some u) : Reaches step ok s u

def Any (_ : S) (_ : E) : Prop := True

variable {step : S → E → Option S} {ok ok' : S → E → Prop}

theorem Reaches.single {s t : S} {e : E} (allowed : ok s e) (last : step s e = some t) :
    Reaches step ok s t :=
  .snoc (.refl s) allowed last

theorem Reaches.trans {s t u : S} (first : Reaches step ok s t)
    (second : Reaches step ok t u) : Reaches step ok s u := by
  induction second with
  | refl => exact first
  | snoc _ allowed last ih => exact .snoc ih allowed last

theorem Reaches.mono (weaker : ∀ s e, ok s e → ok' s e) {s t : S}
    (run : Reaches step ok s t) : Reaches step ok' s t := by
  induction run with
  | refl => exact .refl _
  | snoc _ allowed last ih => exact .snoc ih (weaker _ _ allowed) last

/-- What every allowed step keeps, every run keeps. -/
theorem Reaches.keeps {I : S → Prop}
    (keep : ∀ {s e t}, I s → ok s e → step s e = some t → I t)
    {s t : S} (run : Reaches step ok s t) (start : I s) : I t := by
  induction run with
  | refl => exact start
  | snoc _ allowed last ih => exact keep ih allowed last

/-- A step lemma that may use what is already known of the reached states. -/
theorem Reaches.keeps_under {K I : S → Prop}
    (known : ∀ {s e t}, K s → ok s e → step s e = some t → K t)
    (keep : ∀ {s e t}, K s → I s → ok s e → step s e = some t → I t)
    {s t : S} (run : Reaches step ok s t) (first : K s) (start : I s) :
    K t ∧ I t := by
  induction run with
  | refl => exact ⟨first, start⟩
  | snoc _ allowed last ih => exact ⟨known ih.1 allowed last, keep ih.1 ih.2 allowed last⟩

theorem reaches_of_exec {s t : S} (es : List E) (run : exec step s es = some t) :
    Reaches step Any s t := by
  induction es generalizing s with
  | nil => cases run; exact .refl _
  | cons e es ih =>
    obtain ⟨m, first, rest⟩ := exec_cons run
    exact (Reaches.single trivial first).trans (ih rest)

def execIf (step : S → E → Option S) (ok : S → E → Prop) [∀ s e, Decidable (ok s e)] :
    S → List E → Option S
  | s, [] => some s
  | s, e :: es => if ok s e then (step s e).bind fun t => execIf step ok t es else none

theorem reaches_of_execIf [∀ s e, Decidable (ok s e)] {s t : S} (es : List E)
    (run : execIf step ok s es = some t) : Reaches step ok s t := by
  induction es generalizing s with
  | nil => cases run; exact .refl _
  | cons e es ih =>
    rw [execIf] at run
    split at run
    · rename_i allowed
      obtain ⟨m, first, rest⟩ := Option.bind_eq_some_iff.mp run
      exact (Reaches.single allowed first).trans (ih rest)
    · cases run

end LabelledRuns
