import Mathlib.Tactic

/-!
A table that hands out the lowest free number. An entry is what is open under
the number; released numbers are handed out again. The lemmas say what each of
the two changes does to every number. Nothing here names the kind of the
objects.
-/

namespace GramsTof.DescriptorTable

universe u
variable {Object : Type u}

abbrev Table (Object : Type u) := List (Option Object)

def lookup (table : Table Object) (number : Nat) : Option Object := table.getD number none

def lowest : Table Object → Nat
  | [] => 0
  | none :: _ => 0
  | some _ :: rest => lowest rest + 1

/-- The table with `object` under the lowest free number. -/
def place : Table Object → Object → Table Object
  | [], object => [some object]
  | none :: rest, object => some object :: rest
  | some other :: rest, object => some other :: place rest object

def release (table : Table Object) (number : Nat) : Table Object := table.set number none

theorem lowest_free (table : Table Object) : lookup table (lowest table) = none := by
  induction table with
  | nil => rfl
  | cons entry rest ih =>
      cases entry with
      | none => rfl
      | some object => simpa [lookup, lowest] using ih

theorem lowest_least (table : Table Object) (number : Nat) (below : number < lowest table) :
    ∃ object, lookup table number = some object := by
  induction table generalizing number with
  | nil => exact absurd below (Nat.not_lt_zero _)
  | cons entry rest ih =>
      cases entry with
      | none => exact absurd below (Nat.not_lt_zero _)
      | some object =>
          cases number with
          | zero => exact ⟨object, rfl⟩
          | succ number =>
              obtain ⟨found, there⟩ := ih number (Nat.lt_of_succ_lt_succ below)
              exact ⟨found, by simpa [lookup] using there⟩

theorem lookup_place_self (table : Table Object) (object : Object) :
    lookup (place table object) (lowest table) = some object := by
  induction table with
  | nil => rfl
  | cons entry rest ih =>
      cases entry with
      | none => rfl
      | some other => simpa [lookup, lowest, place] using ih

theorem lookup_place_other (table : Table Object) (object : Object) (number : Nat)
    (other : number ≠ lowest table) : lookup (place table object) number = lookup table number := by
  induction table generalizing number with
  | nil =>
      have positive : number ≠ 0 := other
      cases number with
      | zero => exact absurd rfl positive
      | succ number => simp [lookup, place]
  | cons entry rest ih =>
      cases number with
      | zero =>
          cases entry with
          | none => exact absurd rfl other
          | some kept => rfl
      | succ number =>
          cases entry with
          | none => rfl
          | some kept =>
              have later := ih number fun same => other (congrArg Nat.succ same)
              simpa [lookup, place] using later

/-- What is open stays open when another object is placed. -/
theorem lookup_place (table : Table Object) (object found : Object) (number : Nat)
    (there : lookup table number = some found) :
    lookup (place table object) number = some found := by
  rw [lookup_place_other table object number, there]
  rintro rfl
  rw [lowest_free] at there
  cases there

theorem lookup_release_self (table : Table Object) (number : Nat) :
    lookup (release table number) number = none := by
  simp only [lookup, release, List.getD_eq_getElem?_getD, List.getElem?_set_self']
  cases table[number]? <;> rfl

theorem lookup_release_other (table : Table Object) (number other : Nat) (apart : other ≠ number) :
    lookup (release table number) other = lookup table other := by
  simp only [lookup, release, List.getD_eq_getElem?_getD]
  rw [List.getElem?_set_ne apart.symm]

theorem lookup_release (table : Table Object) (number other : Nat) (found : Object)
    (there : lookup (release table number) other = some found) :
    lookup table other = some found := by
  by_cases same : other = number
  · rw [same, lookup_release_self] at there
    cases there
  · rwa [lookup_release_other table number other same] at there

end GramsTof.DescriptorTable
