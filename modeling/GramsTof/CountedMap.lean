import Mathlib.Tactic

/-!
Maps that count how often a key came, as `map[key]++` does, with counters that
wrap. Nothing here says what the keys are.
-/

namespace GramsTof.CountedMap

variable {Key : Type*} [Ord Key]

abbrev Counts (Key : Type*) [Ord Key] := Std.TreeMap Key Nat

/-- `map[key]++`, for a counter below `wrap`. -/
def increment (wrap : Nat) (counts : Counts Key) (key : Key) : Counts Key :=
  counts.insert key ((counts.getD key 0 + 1) % wrap)

variable [Std.TransOrd Key] [Std.LawfulEqOrd Key]

theorem mem_increments (wrap : Nat) (keys : List Key) (counts : Counts Key) (key : Key) :
    key ∈ keys.foldl (increment wrap) counts ↔ key ∈ counts ∨ key ∈ keys := by
  induction keys generalizing counts with
  | nil => exact ⟨Or.inl, fun either => either.resolve_right List.not_mem_nil⟩
  | cons first rest ih =>
      rw [List.foldl_cons, ih, increment, Std.TreeMap.mem_insert, Std.compare_eq_iff_eq,
        List.mem_cons]
      constructor
      · rintro ((rfl | old) | later)
        · exact Or.inr (Or.inl rfl)
        · exact Or.inl old
        · exact Or.inr (Or.inr later)
      · rintro (old | rfl | later)
        · exact Or.inl (Or.inr old)
        · exact Or.inl (Or.inl rfl)
        · exact Or.inr later

theorem increments_count [DecidableEq Key] (wrap : Nat) (keys : List Key) (counts : Counts Key)
    (key : Key) (below : counts.getD key 0 < wrap) :
    (keys.foldl (increment wrap) counts).getD key 0 =
      (counts.getD key 0 + keys.count key) % wrap := by
  induction keys generalizing counts with
  | nil => exact (Nat.mod_eq_of_lt below).symm
  | cons first rest ih =>
      have inserted : (increment wrap counts first).getD key 0 =
          if first = key then (counts.getD key 0 + 1) % wrap else counts.getD key 0 := by
        rw [increment, Std.TreeMap.getD_insert]
        by_cases same : first = key
        · rw [if_pos same, if_pos (Std.compare_eq_iff_eq.mpr same), same]
        · rw [if_neg same, if_neg fun equal => same (Std.compare_eq_iff_eq.mp equal)]
      rw [List.foldl_cons, ih, inserted, List.count_cons]
      · by_cases same : first = key
        · rw [if_pos same, if_pos (beq_iff_eq.mpr same), Nat.mod_add_mod, Nat.add_right_comm,
            Nat.add_assoc]
        · rw [if_neg same, if_neg fun equal => same (beq_iff_eq.mp equal)]
          rfl
      · rw [inserted]
        split_ifs
        · exact Nat.mod_lt _ (Nat.zero_lt_of_lt below)
        · exact below

theorem counted_entries [DecidableEq Key] (wrap : Nat) (positive : 0 < wrap) (keys : List Key)
    (key : Key) (count : Nat) :
    (key, count) ∈ (keys.foldl (increment wrap) (∅ : Counts Key)).toList ↔
      key ∈ keys ∧ count = keys.count key % wrap := by
  have member := mem_increments wrap keys (∅ : Counts Key) key
  have counted := increments_count wrap keys (∅ : Counts Key) key
    (by rw [Std.TreeMap.getD_emptyc]; exact positive)
  rw [Std.TreeMap.getD_emptyc, Nat.zero_add] at counted
  rw [Std.TreeMap.mem_toList_iff_getElem?_eq_some]
  generalize keys.foldl (increment wrap) (∅ : Counts Key) = counts at member counted ⊢
  simp only [Std.TreeMap.not_mem_emptyc, false_or] at member
  rw [← member, ← counted, Std.TreeMap.getD_eq_getD_getElem?, Std.TreeMap.mem_iff_isSome_getElem?]
  cases counts[key]? with
  | none => simp
  | some value => simp [eq_comm]

theorem counted_distinct (wrap : Nat) (keys : List Key) :
    ((keys.foldl (increment wrap) (∅ : Counts Key)).toList.map Prod.fst).Nodup := by
  rw [Std.TreeMap.map_fst_toList_eq_keys]
  exact Std.TreeMap.distinct_keys.imp fun apart same => apart (Std.compare_eq_iff_eq.mpr same)

end GramsTof.CountedMap
