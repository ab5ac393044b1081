import Mathlib.Tactic

/-!
The proleptic Gregorian calendar: the day with a number, and that later days
have later dates. Day 0 is the first day of year 1. Nothing here names a
clock.
-/

namespace GramsTof.CivilCalendar

def yearStart (year : Int) : Int :=
  365 * (year - 1) + (year - 1) / 4 - (year - 1) / 100 + (year - 1) / 400

def leapYear (year : Int) : Bool := year % 4 = 0 ∧ (year % 100 ≠ 0 ∨ year % 400 = 0)

def yearLength (year : Int) : Int := if leapYear year then 366 else 365

theorem year_start_next (year : Int) : yearStart (year + 1) = yearStart year + yearLength year := by
  unfold yearLength yearStart leapYear
  by_cases leap : year % 4 = 0 ∧ (year % 100 ≠ 0 ∨ year % 400 = 0)
  · rw [if_pos (by simpa using leap)]
    omega
  · rw [if_neg (by simpa using leap)]
    omega

/-- A year from its cycles of 400, 100 and 4 years. -/
def cyclesYear (quadricentennial century olympiad year : Int) : Int :=
  400 * quadricentennial + 100 * century + 4 * olympiad + year + 1

/-- The year a day lies in. The last day of a cycle of 400 years, or of 4
years, would begin another century, or another year. -/
def yearOf (day : Int) : Int :=
  let inQuadricentennial := day % 146097
  let century := min (inQuadricentennial / 36524) 3
  let inCentury := inQuadricentennial - century * 36524
  let inOlympiad := inCentury % 1461
  cyclesYear (day / 146097) century (inCentury / 1461) (min (inOlympiad / 365) 3)

section Cycles
variable (quadricentennial century olympiad year : Int)
  (centuries : 0 ≤ century ∧ century ≤ 3) (olympiads : 0 ≤ olympiad ∧ olympiad ≤ 24)
  (years : 0 ≤ year ∧ year ≤ 3)
include centuries olympiads years

theorem year_start_cycles :
    yearStart (cyclesYear quadricentennial century olympiad year) =
      146097 * quadricentennial + 36524 * century + 1461 * olympiad + 365 * year := by
  have quarters : (400 * quadricentennial + 100 * century + 4 * olympiad + year) / 4 =
      100 * quadricentennial + 25 * century + olympiad := by omega
  have hundreds : (400 * quadricentennial + 100 * century + 4 * olympiad + year) / 100 =
      4 * quadricentennial + century := by omega
  have fourHundreds : (400 * quadricentennial + 100 * century + 4 * olympiad + year) / 400 =
      quadricentennial := by omega
  rw [yearStart, cyclesYear, Int.add_sub_cancel, quarters, hundreds, fourHundreds]
  omega

theorem leap_year_cycles :
    leapYear (cyclesYear quadricentennial century olympiad year) = true ↔
      year = 3 ∧ (olympiad ≠ 24 ∨ century = 3) := by
  unfold leapYear cyclesYear
  rw [decide_eq_true_iff]
  omega

end Cycles

theorem year_of_day (day : Int) :
    yearStart (yearOf day) ≤ day ∧ day < yearStart (yearOf day + 1) := by
  rw [year_start_next]
  unfold yearOf
  simp only
  generalize inQuadricentennial : day % 146097 = rest
  generalize century : min (rest / 36524) 3 = b
  generalize inCentury : rest - b * 36524 = left
  generalize olympiad : left / 1461 = c
  generalize year : min (left % 1461 / 365) 3 = d
  have centuries : 0 ≤ b ∧ b ≤ 3 := by omega
  have olympiads : 0 ≤ c ∧ c ≤ 24 := by omega
  have years : 0 ≤ d ∧ d ≤ 3 := by omega
  have leap := leap_year_cycles (day / 146097) b c d centuries olympiads years
  rw [year_start_cycles _ b c d centuries olympiads years, yearLength]
  -- only a leap year has the day that the cycles leave over
  by_cases long : d = 3 ∧ (c ≠ 24 ∨ b = 3)
  · rw [if_pos (leap.mpr long)]
    omega
  · rw [if_neg (mt leap.mp long)]
    omega

theorem year_start_mono (year later : Int) (le : year ≤ later) :
    yearStart year ≤ yearStart later := by
  unfold yearStart
  omega

def monthLengths (leap : Bool) : List Nat :=
  [31, if leap then 29 else 28, 31, 30, 31, 30, 31, 31, 30, 31, 30, 31]

/-- The place of a day in a list of lengths, and what is left of it there. -/
def locate : List Nat → Nat → Nat × Nat
  | [], day => (0, day)
  | length :: rest, day =>
      if day < length then (0, day)
      else ((locate rest (day - length)).1 + 1, (locate rest (day - length)).2)

/-- A day of the year 1 to 12 and 1 to 31 as written. -/
structure Date where
  year : Int
  month : Nat
  day : Nat
  deriving DecidableEq, Repr

def dateOf (day : Int) : Date :=
  let year := yearOf day
  let place := locate (monthLengths (leapYear year)) (day - yearStart year).toNat
  { year := year, month := place.1 + 1, day := place.2 + 1 }

theorem locate_lt (lengths : List Nat) (day later : Nat) (less : day < later) :
    (locate lengths day).1 < (locate lengths later).1 ∨
      (locate lengths day).1 = (locate lengths later).1 ∧
        (locate lengths day).2 < (locate lengths later).2 := by
  induction lengths generalizing day later with
  | nil => exact Or.inr ⟨rfl, less⟩
  | cons length rest ih =>
      unfold locate
      by_cases within : later < length
      · rw [if_pos within, if_pos (Nat.lt_trans less within)]
        exact Or.inr ⟨rfl, less⟩
      · rw [if_neg within]
        by_cases first : day < length
        · rw [if_pos first]
          exact Or.inl (Nat.succ_pos _)
        · rw [if_neg first]
          rcases ih (day - length) (later - length) (by omega) with earlier | ⟨same, left⟩
          · exact Or.inl (Nat.succ_lt_succ earlier)
          · exact Or.inr ⟨congrArg Nat.succ same, left⟩

theorem locate_bounds (lengths : List Nat) (day : Nat) (inside : day < lengths.sum) :
    (locate lengths day).1 < lengths.length ∧
      ∃ length ∈ lengths, (locate lengths day).2 < length := by
  induction lengths generalizing day with
  | nil => exact absurd inside (Nat.not_lt_zero _)
  | cons length rest ih =>
      unfold locate
      by_cases first : day < length
      · rw [if_pos first]
        exact ⟨Nat.succ_pos _, length, List.mem_cons_self, first⟩
      · rw [if_neg first]
        rw [List.sum_cons] at inside
        obtain ⟨place, longer, member, left⟩ := ih (day - length) (by omega)
        exact ⟨Nat.succ_lt_succ place, longer, List.mem_cons_of_mem _ member, left⟩

theorem date_lt (day later : Int) (less : day < later) :
    (dateOf day).year < (dateOf later).year ∨
      (dateOf day).year = (dateOf later).year ∧
        ((dateOf day).month < (dateOf later).month ∨
          (dateOf day).month = (dateOf later).month ∧ (dateOf day).day < (dateOf later).day) := by
  obtain ⟨start, _⟩ := year_of_day day
  obtain ⟨laterStart, laterEnd⟩ := year_of_day later
  -- within one year the places in the same list of months decide
  rcases Int.lt_trichotomy (yearOf day) (yearOf later) with earlier | same | reverse
  · exact Or.inl earlier
  · refine Or.inr ⟨same, ?_⟩
    simp only [dateOf, ← same]
    rw [← same] at laterStart
    have placed := locate_lt (monthLengths (leapYear (yearOf day)))
      (day - yearStart (yearOf day)).toNat (later - yearStart (yearOf day)).toNat (by omega)
    rcases placed with month | ⟨month, inMonth⟩
    · exact Or.inl (Nat.succ_lt_succ month)
    · exact Or.inr ⟨congrArg Nat.succ month, Nat.succ_lt_succ inMonth⟩
  · have bound := year_start_mono (yearOf later + 1) (yearOf day) (by omega)
    omega

theorem date_bounds (day : Int) : (dateOf day).month ≤ 12 ∧ (dateOf day).day ≤ 31 := by
  obtain ⟨start, ends⟩ := year_of_day day
  rw [year_start_next] at ends
  have inside : (day - yearStart (yearOf day)).toNat <
      (monthLengths (leapYear (yearOf day))).sum := by
    unfold yearLength at ends
    cases leap : leapYear (yearOf day) with
    | true =>
        rw [if_pos leap] at ends
        change _ < 366
        omega
    | false =>
        rw [if_neg (by simp [leap])] at ends
        change _ < 365
        omega
  obtain ⟨month, length, member, inMonth⟩ := locate_bounds _ _ inside
  have short : ∀ leap, ∀ length ∈ monthLengths leap, length ≤ 31 := by decide
  exact ⟨month, Nat.le_trans inMonth (short _ length member)⟩

end GramsTof.CivilCalendar
