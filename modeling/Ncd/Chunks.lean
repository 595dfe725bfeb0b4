import Mathlib.Data.List.Basic

/- Cutting a list into consecutive pieces of at most n elements. -/
namespace Chunks

variable {α β : Type}

/-- One round per element is enough; a piece takes at least one. -/
def chunksFuel (n : Nat) : Nat → List α → List (List α)
  | 0, _ => []
  | _ + 1, [] => []
  | fuel + 1, x :: xs => (x :: xs).take n :: chunksFuel n fuel ((x :: xs).drop n)

def chunks (n : Nat) (xs : List α) : List (List α) := chunksFuel n xs.length xs

theorem chunksFuel_flatten {n : Nat} (positive : 0 < n) {fuel : Nat} {xs : List α}
    (enough : xs.length ≤ fuel) : (chunksFuel n fuel xs).flatten = xs := by
  induction fuel generalizing xs with
  | zero =>
    have empty : xs = [] := List.length_eq_zero_iff.mp (by omega)
    subst empty
    rfl
  | succ fuel ih =>
    cases xs with
    | nil => rfl
    | cons x xs =>
      have shorter : ((x :: xs).drop n).length ≤ fuel := by
        simp only [List.length_drop, List.length_cons] at enough ⊢
        omega
      simp only [chunksFuel, List.flatten_cons, ih shorter]
      exact List.take_append_drop n (x :: xs)

theorem chunks_flatten {n : Nat} (positive : 0 < n) (xs : List α) :
    (chunks n xs).flatten = xs :=
  chunksFuel_flatten positive (Nat.le_refl _)

theorem chunksFuel_bounds {n : Nat} (positive : 0 < n) {fuel : Nat} {xs c : List α}
    (member : c ∈ chunksFuel n fuel xs) : c ≠ [] ∧ c.length ≤ n := by
  induction fuel generalizing xs with
  | zero => simp [chunksFuel] at member
  | succ fuel ih =>
    cases xs with
    | nil => simp [chunksFuel] at member
    | cons x xs =>
      rcases List.mem_cons.mp member with first | later
      · subst first
        refine ⟨?_, List.length_take_le n _⟩
        rw [Ne, List.take_eq_nil_iff]
        simp
        omega
      · exact ih later

theorem chunks_bounds {n : Nat} (positive : 0 < n) {xs c : List α}
    (member : c ∈ chunks n xs) : c ≠ [] ∧ c.length ≤ n :=
  chunksFuel_bounds positive member

theorem chunksFuel_map (n : Nat) (f : α → β) (fuel : Nat) (xs : List α) :
    (chunksFuel n fuel xs).map (List.map f) = chunksFuel n fuel (xs.map f) := by
  induction fuel generalizing xs with
  | zero => rfl
  | succ fuel ih =>
    cases xs with
    | nil => rfl
    | cons x xs =>
      rw [chunksFuel, List.map_cons, ih, List.map_take, List.map_drop]
      rfl

theorem chunks_map (n : Nat) (f : α → β) (xs : List α) :
    (chunks n xs).map (List.map f) = chunks n (xs.map f) := by
  rw [chunks, chunks, chunksFuel_map, List.length_map]

theorem chunksFuel_length {n : Nat} (positive : 0 < n) {fuel : Nat} {xs : List α}
    (enough : xs.length ≤ fuel) :
    (chunksFuel n fuel xs).length = (xs.length + n - 1) / n := by
  induction fuel generalizing xs with
  | zero =>
    have empty : xs.length = 0 := by omega
    rw [empty, Nat.zero_add, Nat.div_eq_of_lt (by omega)]
    rfl
  | succ fuel ih =>
    cases xs with
    | nil =>
      rw [List.length_nil, Nat.zero_add, Nat.div_eq_of_lt (by omega)]
      rfl
    | cons x xs =>
      have shorter : ((x :: xs).drop n).length ≤ fuel := by
        simp only [List.length_drop, List.length_cons] at enough ⊢
        omega
      simp only [chunksFuel, List.length_cons, ih shorter, List.length_drop]
      by_cases large : n ≤ xs.length + 1
      · have step : xs.length + 1 + n - 1 = (xs.length + 1 - n + n - 1) + n := by omega
        rw [step, Nat.add_div_right _ positive]
      · have none_left : xs.length + 1 - n = 0 := by omega
        rw [none_left, Nat.zero_add, Nat.div_eq_of_lt (by omega : n - 1 < n)]
        have one : xs.length + 1 + n - 1 = xs.length + n := by omega
        rw [one, Nat.add_div_right _ positive, Nat.div_eq_of_lt (by omega)]

theorem chunks_length {n : Nat} (positive : 0 < n) (xs : List α) :
    (chunks n xs).length = (xs.length + n - 1) / n :=
  chunksFuel_length positive (Nat.le_refl _)

end Chunks
