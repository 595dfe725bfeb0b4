import Mathlib.Data.List.AList

/- Hash maps and dictionaries. A map comes with the order of one iteration over it, and two
   maps are the same if they give every key the same value. -/
namespace HashMaps

variable {κ ν : Type}

abbrev HashMap (κ ν : Type) := AList fun _ : κ => ν

def HashMap.pairs (m : HashMap κ ν) : List (κ × ν) := m.entries.map fun entry => (entry.1, entry.2)

theorem pairs_nodup (m : HashMap κ ν) : (m.pairs.map Prod.fst).Nodup := by
  have keys : m.pairs.map Prod.fst = m.keys := by
    rw [HashMap.pairs, List.map_map]
    rfl
  rw [keys]
  exact m.keys_nodup

variable [DecidableEq κ]

def Same (m m' : HashMap κ ν) : Prop := ∀ k, m.lookup k = m'.lookup k

/-- Insert pair after pair; a later one replaces an earlier one with its key. -/
def insertAll (m : HashMap κ ν) (pairs : List (κ × ν)) : HashMap κ ν :=
  pairs.foldl (fun m p => m.insert p.1 p.2) m

def collect (pairs : List (κ × ν)) : HashMap κ ν := insertAll ∅ pairs

theorem same_refl (m : HashMap κ ν) : Same m m := fun _ => rfl

theorem same_iff {m m' : HashMap κ ν} :
    Same m m' ↔ ∀ k v, m.lookup k = some v ↔ m'.lookup k = some v := by
  constructor
  · intro same k v
    rw [same k]
  · intro same k
    exact Option.ext (same k)

theorem mem_pairs {m : HashMap κ ν} {k : κ} {v : ν} : (k, v) ∈ m.pairs ↔ m.lookup k = some v := by
  rw [← Option.mem_def, AList.mem_lookup_iff, HashMap.pairs, List.mem_map]
  constructor
  · rintro ⟨⟨k', v'⟩, member, same⟩
    cases same
    exact member
  · intro member
    exact ⟨_, member, rfl⟩

theorem lookup_insertAll (pairs : List (κ × ν)) (m : HashMap κ ν) (k : κ) :
    (insertAll m pairs).lookup k = (pairs.reverse.lookup k).or (m.lookup k) := by
  induction pairs generalizing m with
  | nil => simp [insertAll]
  | cons p pairs ih =>
    obtain ⟨k', v⟩ := p
    have head : (m.insert k' v).lookup k = ([(k', v)].lookup k).or (m.lookup k) := by
      by_cases here : k = k'
      · subst here
        rw [AList.lookup_insert, List.lookup_cons_self, Option.some_or]
      · have other : (k == k') = false := by simpa using here
        rw [AList.lookup_insert_ne here, List.lookup_cons, other, List.lookup_nil, Option.none_or]
    rw [insertAll, List.foldl_cons, ← insertAll, ih, head, List.reverse_cons, List.lookup_append,
      Option.or_assoc]

theorem lookup_collect (pairs : List (κ × ν)) (k : κ) :
    (collect pairs).lookup k = pairs.reverse.lookup k := by
  rw [collect, lookup_insertAll, AList.lookup_empty, Option.or_none]

theorem lookup_iff_mem {pairs : List (κ × ν)} (distinct : (pairs.map Prod.fst).Nodup) {k : κ}
    {v : ν} : pairs.lookup k = some v ↔ (k, v) ∈ pairs := by
  induction pairs with
  | nil => simp
  | cons p pairs ih =>
    obtain ⟨k', v'⟩ := p
    simp only [List.map_cons, List.nodup_cons] at distinct
    by_cases here : k = k'
    · subst here
      have absent : (k, v) ∉ pairs := fun member => distinct.1 (List.mem_map.mpr ⟨_, member, rfl⟩)
      simp [absent, eq_comm]
    · have other : (k == k') = false := by simpa using here
      simp [List.lookup_cons, other, here, ih distinct.2]

theorem lookup_collect_iff {pairs : List (κ × ν)} (distinct : (pairs.map Prod.fst).Nodup) {k : κ}
    {v : ν} : (collect pairs).lookup k = some v ↔ (k, v) ∈ pairs := by
  have backward : (pairs.reverse.map Prod.fst).Nodup := by
    rw [List.map_reverse, List.nodup_reverse]
    exact distinct
  rw [lookup_collect, lookup_iff_mem backward, List.mem_reverse]

theorem collect_pairs (m : HashMap κ ν) : Same (collect m.pairs) m := by
  rw [same_iff]
  intro k v
  rw [lookup_collect_iff (pairs_nodup m), mem_pairs]

end HashMaps
