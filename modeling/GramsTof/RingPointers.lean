import Mathlib.Tactic

/-!
Pointers of a ring with `size` slots that run modulo twice the size, so that a
full ring and an empty one differ. `read` and `written` are the unbounded
counts behind the two pointers; as long as at most `size` items lie between
them, the remainders say everything about the counts that matters. Nothing here
names what the slots hold.
-/

namespace GramsTof.RingPointers

variable {size read written : Nat}

theorem add_wrapped (count more : Nat) :
    (count % (2 * size) + more) % (2 * size) = (count + more) % (2 * size) := by
  rw [Nat.add_mod, Nat.mod_mod, ← Nat.add_mod]

theorem slot_wrapped (count : Nat) : count % (2 * size) % size = count % size :=
  Nat.mod_mod_of_dvd count (Dvd.intro_left 2 rfl)

/-- The items between two counts are the distance of the pointers, taken
modulo twice the size. -/
theorem distance_wrapped (positive : 0 < size) (ordered : read ≤ written)
    (bounded : written ≤ read + size) :
    (written % (2 * size) + 2 * size - read % (2 * size)) % (2 * size) = written - read := by
  obtain ⟨items, rfl⟩ := Nat.exists_eq_add_of_le ordered
  have inside := Nat.mod_lt read (show 0 < 2 * size by omega)
  rw [← add_wrapped]
  generalize read % (2 * size) = pointer at inside ⊢
  by_cases wraps : pointer + items < 2 * size
  · have near : pointer + items + 2 * size - pointer = items + 2 * size := by omega
    rw [Nat.mod_eq_of_lt wraps, near, Nat.add_mod_right, Nat.mod_eq_of_lt (by omega)]
    omega
  · have turned : (pointer + items) % (2 * size) = pointer + items - 2 * size := by
      rw [Nat.mod_eq_sub_mod (by omega), Nat.mod_eq_of_lt (by omega)]
    have back : pointer + items - 2 * size + 2 * size - pointer = items := by omega
    rw [turned, back, Nat.mod_eq_of_lt (by omega)]
    omega

theorem empty_iff (positive : 0 < size) (ordered : read ≤ written)
    (bounded : written ≤ read + size) :
    written % (2 * size) = read % (2 * size) ↔ written = read := by
  constructor
  · intro same
    have apart := distance_wrapped positive ordered bounded
    rw [same, Nat.add_sub_cancel_left, Nat.mod_self] at apart
    omega
  · rintro rfl
    rfl

theorem slot_injective (left right : Nat) (ordered : left ≤ right) (near : right < left + size)
    (same : left % size = right % size) : left = right := by
  have apart : (right - left) % size = 0 := Nat.sub_mod_eq_zero_of_mod_eq same.symm
  rw [Nat.mod_eq_of_lt (by omega)] at apart
  omega

/-- Different pointers to the same slot mean a full ring. -/
theorem full_iff (positive : 0 < size) (ordered : read ≤ written)
    (bounded : written ≤ read + size) :
    (written % (2 * size) ≠ read % (2 * size) ∧
        written % (2 * size) % size = read % (2 * size) % size) ↔
      written = read + size := by
  rw [ne_eq, empty_iff positive ordered bounded, slot_wrapped, slot_wrapped]
  constructor
  · rintro ⟨some, same⟩
    by_contra room
    exact some (slot_injective read written ordered (by omega) same.symm).symm
  · rintro rfl
    exact ⟨by omega, Nat.add_mod_right read size⟩

/-- The distance without its sign, unless it is more than the size: then what
is missing to the whole range. -/
def unsignedDistance (size writePointer readPointer : Nat) : Nat :=
  let distance := ((writePointer : Int) - (readPointer : Int)).natAbs
  if distance > size then 2 * size - distance else distance

theorem unsigned_distance (positive : 0 < size) (ordered : read ≤ written)
    (bounded : written ≤ read + size) :
    unsignedDistance size (written % (2 * size)) (read % (2 * size)) = written - read := by
  obtain ⟨items, rfl⟩ := Nat.exists_eq_add_of_le ordered
  have inside := Nat.mod_lt read (show 0 < 2 * size by omega)
  rw [← add_wrapped, unsignedDistance]
  generalize read % (2 * size) = pointer at inside ⊢
  by_cases wraps : pointer + items < 2 * size
  · rw [Nat.mod_eq_of_lt wraps]
    split_ifs <;> omega
  · have turned : (pointer + items) % (2 * size) = pointer + items - 2 * size := by
      rw [Nat.mod_eq_sub_mod (by omega), Nat.mod_eq_of_lt (by omega)]
    rw [turned]
    -- the write pointer has wrapped and lies behind the read pointer
    split_ifs <;> omega

section Loop

variable {State : Type*} (turn : State → Nat → State)

/-- A loop over the slots from one pointer to another; `fuel` bounds the slots
a ring can hold. -/
def ringLoop (size : Nat) : Nat → Nat → Nat → State → State
  | 0, _, _, state => state
  | fuel + 1, readPointer, writePointer, state =>
      if readPointer = writePointer then state
      else ringLoop size fuel ((readPointer + 1) % (2 * size)) writePointer
        (turn state (readPointer % size))

def slotsBetween (size readPointer writePointer : Nat) : List Nat :=
  let first := readPointer % (2 * size)
  (List.range ((writePointer % (2 * size) + 2 * size - first) % (2 * size))).map fun offset =>
    (first + offset) % size

theorem ring_loop_count (count fuel : Nat) (enough : count < fuel) (readPointer : Nat)
    (inside : readPointer < 2 * size) (short : count < 2 * size) (state : State) :
    ringLoop turn size fuel readPointer ((readPointer + count) % (2 * size)) state =
      ((List.range count).map fun offset => (readPointer + offset) % size).foldl turn state := by
  induction count generalizing fuel readPointer state with
  | zero =>
      obtain ⟨fuel, rfl⟩ := Nat.exists_eq_succ_of_ne_zero (Nat.ne_of_gt enough)
      rw [ringLoop, Nat.add_zero, Nat.mod_eq_of_lt inside, if_pos rfl]
      rfl
  | succ count ih =>
      obtain ⟨fuel, rfl⟩ := Nat.exists_eq_succ_of_ne_zero (Nat.ne_of_gt (Nat.zero_lt_of_lt enough))
      have apart : readPointer ≠ (readPointer + (count + 1)) % (2 * size) := by
        intro same
        have turned := Nat.sub_mod_eq_zero_of_mod_eq
          ((Nat.mod_eq_of_lt inside).trans same).symm
        rw [Nat.add_sub_cancel_left, Nat.mod_eq_of_lt short] at turned
        omega
      have next := ih fuel (by omega) ((readPointer + 1) % (2 * size))
        (Nat.mod_lt _ (by omega)) (by omega) (turn state (readPointer % size))
      have target : ((readPointer + 1) % (2 * size) + count) % (2 * size) =
          (readPointer + (count + 1)) % (2 * size) := by
        rw [add_wrapped, Nat.add_assoc, Nat.add_comm 1]
      rw [target] at next
      rw [ringLoop, if_neg apart, next, List.range_succ_eq_map, List.map_cons, List.foldl_cons,
        List.map_map]
      congr 1
      refine List.map_congr_left fun offset _ => ?_
      have slot : ((readPointer + 1) % (2 * size) + offset) % size =
          (readPointer + (offset + 1)) % size := by
        rw [Nat.add_mod, slot_wrapped, ← Nat.add_mod, Nat.add_assoc, Nat.add_comm 1]
      simp only [Function.comp_apply, slot]

theorem ring_loop_between (positive : 0 < size) (readPointer writePointer : Nat) (state : State) :
    ringLoop turn size (2 * size) (readPointer % (2 * size)) (writePointer % (2 * size)) state =
      (slotsBetween size readPointer writePointer).foldl turn state := by
  have around : 0 < 2 * size := by omega
  have first := Nat.mod_lt readPointer around
  have last := Nat.mod_lt writePointer around
  rw [slotsBetween]
  generalize readPointer % (2 * size) = first' at first ⊢
  generalize writePointer % (2 * size) = last' at last ⊢
  have short := Nat.mod_lt (last' + 2 * size - first') around
  have target : (first' + (last' + 2 * size - first') % (2 * size)) % (2 * size) = last' := by
    rw [Nat.add_mod_mod, Nat.add_sub_cancel' (by omega), Nat.add_mod_right, Nat.mod_eq_of_lt last]
  have loop := ring_loop_count turn _ _ short first' first short state
  rw [target] at loop
  exact loop

end Loop

end GramsTof.RingPointers
