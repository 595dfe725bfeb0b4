import Ncd.LabelledRuns

/- Runs of one system matched by runs of another. -/
namespace Simulations
open LabelledRuns

variable {S E T F : Type}

/-- An allowed step of the first system is matched by an allowed step of the second, or by
    none. -/
structure Simulation (step : S → E → Option S) (ok : S → E → Prop) (step' : T → F → Option T)
    (ok' : T → F → Prop) (Related : S → T → Prop) : Prop where
  moves : ∀ {s t e s'}, Related s t → ok s e → step s e = some s' →
    Related s' t ∨ ∃ f t', ok' t f ∧ step' t f = some t' ∧ Related s' t'

variable {step : S → E → Option S} {ok : S → E → Prop} {step' : T → F → Option T}
  {ok' : T → F → Prop} {Related : S → T → Prop}

theorem Simulation.reaches (sim : Simulation step ok step' ok' Related) {s s' : S} {t : T}
    (run : Reaches step ok s s') (related : Related s t) :
    ∃ t', Reaches step' ok' t t' ∧ Related s' t' := by
  induction run with
  | refl => exact ⟨t, .refl t, related⟩
  | snoc _ allowed last ih =>
    obtain ⟨t', seen, matched⟩ := ih
    rcases sim.moves matched allowed last with same | ⟨f, t'', allowed', moved, matched'⟩
    · exact ⟨t', seen, same⟩
    · exact ⟨t'', .snoc seen allowed' moved, matched'⟩

/-- A simulation through a view of the states, from states of which something is known. -/
theorem Simulation.of_view {Known : S → Prop} {view : S → T}
    (moves : ∀ {s e s'}, Known s → ok s e → step s e = some s' → Known s' ∧
      (view s' = view s ∨ ∃ f, ok' (view s) f ∧ step' (view s) f = some (view s'))) :
    Simulation step ok step' ok' fun s t => Known s ∧ view s = t := by
  constructor
  rintro s t e s' ⟨known, rfl⟩ allowed last
  obtain ⟨known', same | ⟨f, allowed', moved⟩⟩ := moves known allowed last
  · exact .inl ⟨known', same⟩
  · exact .inr ⟨f, _, allowed', moved, known', rfl⟩

end Simulations
