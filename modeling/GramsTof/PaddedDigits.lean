import Mathlib.Tactic

/-!
Decimal texts and the dictionary order. Numbers padded to one width are ordered
as texts as they are ordered as numbers, and so are records of such fields.
For numbers printed without padding in front of a character above the digits,
the order of the texts is decided by the leading digits of the longer one.
Nothing here names a format.
-/

namespace GramsTof.PaddedDigits

abbrev Text := List Char

def digit (n : Nat) : Char := Nat.digitChar (n % 10)

/-- The last `width` decimal digits. -/
def padded : Nat → Nat → Text
  | 0, _ => []
  | width + 1, n => padded width (n / 10) ++ [digit n]

def decimal (n : Nat) : Text := Nat.toDigits 10 n

theorem padded_length (width n : Nat) : (padded width n).length = width := by
  induction width generalizing n with
  | zero => rfl
  | succ width ih => rw [padded, List.length_append, ih, List.length_singleton]

theorem digit_lt (m n : Nat) (less : m % 10 < n % 10) : digit m < digit n := by
  have table : ∀ b < 10, ∀ a < b, Nat.digitChar a < Nat.digitChar b := by decide
  exact table _ (Nat.mod_lt _ (by decide)) _ less

/-- The dictionary order looks at the end only where the starts agree. -/
theorem append_lt {left right : Text} (same : left.length = right.length) (less : left < right)
    (more rest : Text) : left ++ more < right ++ rest := by
  induction left generalizing right with
  | nil =>
      cases right with
      | nil => exact absurd less (List.lt_irrefl _)
      | cons => cases same
  | cons first left ih =>
      cases right with
      | nil => cases same
      | cons other right =>
          rw [List.cons_append, List.cons_append, List.cons_lt_cons_iff]
          rcases List.cons_lt_cons_iff.mp less with smaller | ⟨equal, later⟩
          · exact Or.inl smaller
          · exact Or.inr ⟨equal, ih (Nat.succ.inj same) later⟩

theorem append_lt_iff (front left right : Text) : front ++ left < front ++ right ↔ left < right := by
  induction front with
  | nil => rfl
  | cons first rest ih =>
      rw [List.cons_append, List.cons_append, List.cons_lt_cons_iff, ih]
      simp

theorem padded_lt (width m n : Nat) (less : m < n) (fits : n < 10 ^ width) :
    padded width m < padded width n := by
  induction width generalizing m n with
  | zero => omega
  | succ width ih =>
      have shorter : n / 10 < 10 ^ width := by
        rw [Nat.pow_succ] at fits
        omega
      rw [padded, padded]
      -- the last digit decides only where all others agree
      by_cases same : m / 10 = n / 10
      · rw [same, append_lt_iff, List.cons_lt_cons_iff]
        exact Or.inl (digit_lt m n (by omega))
      · apply append_lt (by rw [padded_length, padded_length])
        exact ih _ _ (by omega) shorter

theorem padded_split (width more n : Nat) :
    padded (width + more) n = padded width (n / 10 ^ more) ++ padded more n := by
  induction more generalizing n with
  | zero => simp [padded]
  | succ more ih =>
      rw [← Nat.add_assoc, padded, padded, ih, List.append_assoc, Nat.div_div_eq_div_mul,
        Nat.pow_succ, Nat.mul_comm 10]

theorem decimal_small (n : Nat) (small : n < 10) : decimal n = [Nat.digitChar n] :=
  Nat.toDigits_of_lt_base small

theorem decimal_large (n : Nat) (large : 10 ≤ n) :
    decimal n = decimal (n / 10) ++ [digit n] := by
  rw [decimal, Nat.toDigits_of_base_le (by decide) large, decimal, digit]

theorem decimal_padded (n : Nat) : decimal n = padded (decimal n).length n := by
  induction n using Nat.strong_induction_on with
  | h n ih =>
      by_cases small : n < 10
      · rw [decimal_small n small]
        simp [padded, digit, Nat.mod_eq_of_lt small]
      · rw [decimal_large n (by omega), List.length_append, List.length_singleton, padded,
          ← ih (n / 10) (by omega)]

theorem decimal_bound (n : Nat) : n < 10 ^ (decimal n).length := by
  induction n using Nat.strong_induction_on with
  | h n ih =>
      by_cases small : n < 10
      · rw [decimal_small n small]
        simpa using small
      · have shorter := ih (n / 10) (by omega)
        rw [decimal_large n (by omega), List.length_append, List.length_singleton, Nat.pow_succ]
        omega

theorem decimal_head (n : Nat) : ∃ d rest, decimal n = digit d :: rest := by
  induction n using Nat.strong_induction_on with
  | h n ih =>
      by_cases small : n < 10
      · exact ⟨n, [], by rw [decimal_small n small, digit, Nat.mod_eq_of_lt small]⟩
      · obtain ⟨d, rest, first⟩ := ih (n / 10) (by omega)
        exact ⟨d, rest ++ [digit n], by rw [decimal_large n (by omega), first]; rfl⟩

theorem decimal_injective (m n : Nat) (same : decimal m = decimal n) : m = n := by
  have numbers := congrArg (Nat.ofDigitChars 10 · 0) same
  simpa only [decimal, Nat.ofDigitChars_ten_toDigits] using numbers

theorem decimal_length_mono (m n : Nat) (le : m ≤ n) :
    (decimal m).length ≤ (decimal n).length := by
  induction n using Nat.strong_induction_on generalizing m with
  | h n ih =>
      by_cases small : n < 10
      · rw [decimal_small n small, decimal_small m (by omega)]
        rfl
      · rw [decimal_large n (by omega), List.length_append]
        by_cases short : m < 10
        · rw [decimal_small m short]
          exact Nat.le_add_left _ _
        · rw [decimal_large m (by omega), List.length_append]
          exact Nat.add_le_add_right (ih (n / 10) (by omega) (m / 10) (by omega)) 1

/-- The digits of `n` that stand where those of `m` do. -/
def leading (m n : Nat) : Nat := n / 10 ^ ((decimal n).length - (decimal m).length)

/-- Two numbers without padding, each in front of a character above the
digits, are in the order of their texts exactly if the smaller one is also
below the leading digits of the other. -/
theorem decimal_lt_iff (stop : Char) (above : ∀ n, digit n < stop) (m n : Nat) (less : m < n) :
    decimal m ++ [stop] < decimal n ++ [stop] ↔ m < leading m n := by
  have longer := decimal_length_mono m n (Nat.le_of_lt less)
  obtain ⟨more, width⟩ := Nat.exists_eq_add_of_le longer
  -- both texts now start with as many digits as the shorter number has
  have split : decimal n = padded (decimal m).length (leading m n) ++ padded more n := by
    rw [decimal_padded n, width, padded_split, leading, width, Nat.add_sub_cancel_left]
  have fits : leading m n < 10 ^ (decimal m).length := by
    have bound := decimal_bound n
    rw [width, Nat.pow_add] at bound
    rw [leading, width, Nat.add_sub_cancel_left]
    exact Nat.div_lt_of_lt_mul (by rwa [Nat.mul_comm])
  rw [split, List.append_assoc]
  rcases Nat.lt_trichotomy m (leading m n) with below | equal | beyond
  · refine ⟨fun _ => below, fun _ => ?_⟩
    have smaller : decimal m < padded (decimal m).length (leading m n) := by
      have ordered := padded_lt _ _ _ below fits
      rwa [← decimal_padded m] at ordered
    exact append_lt (padded_length _ _).symm smaller _ _
  · -- the longer number goes on with a digit where the other stops
    refine ⟨fun texts => ?_, fun wrong => by omega⟩
    rw [← equal, ← decimal_padded m, append_lt_iff] at texts
    cases more with
    | zero =>
        rw [leading, width, Nat.add_zero, Nat.sub_self, Nat.pow_zero, Nat.div_one] at equal
        omega
    | succ more =>
        rw [Nat.add_comm, padded_split] at texts
        rcases List.cons_lt_cons_iff.mp texts with smaller | ⟨same, _⟩
        · exact absurd (above _) (Char.lt_asymm smaller)
        · exact absurd same.symm (Char.ne_of_lt (above _))
  · refine ⟨fun texts => ?_, fun wrong => by omega⟩
    have reverse : padded (decimal m).length (leading m n) < decimal m := by
      rw [decimal_padded m, padded_length]
      exact padded_lt _ _ _ beyond (decimal_bound m)
    exact absurd texts (List.lt_asymm (append_lt (padded_length _ _) reverse _ _))

/-- Fields of fixed width, each followed by its separator. -/
def fields : List (Nat × Text) → List Nat → Text
  | (width, separator) :: layout, value :: values =>
      padded width value ++ (separator ++ fields layout values)
  | _, _ => []

/-- Every value fits the width of its field. -/
def Fits (layout : List (Nat × Text)) (values : List Nat) : Prop :=
  List.Forall₂ (fun field value => value < 10 ^ field.1) layout values

theorem fields_lt (layout : List (Nat × Text)) (left right : List Nat)
    (leftFits : Fits layout left) (rightFits : Fits layout right) (less : left < right) :
    fields layout left < fields layout right := by
  induction leftFits generalizing right with
  | nil =>
      cases rightFits
      exact absurd less (List.lt_irrefl _)
  | cons leftFit _ ih =>
      cases rightFits with
      | cons rightFit rightRest =>
          rw [fields, fields]
          rcases List.cons_lt_cons_iff.mp less with smaller | ⟨rfl, later⟩
          · apply append_lt (by rw [padded_length, padded_length])
            exact padded_lt _ _ _ smaller rightFit
          · rw [append_lt_iff, append_lt_iff]
            exact ih _ rightRest later

theorem fields_length (layout : List (Nat × Text)) (left right : List Nat)
    (leftFits : Fits layout left) (rightFits : Fits layout right) :
    (fields layout left).length = (fields layout right).length := by
  induction leftFits generalizing right with
  | nil =>
      cases rightFits
      rfl
  | cons _ _ ih =>
      cases rightFits with
      | cons _ rightRest => simp only [fields, List.length_append, padded_length, ih _ rightRest]

end GramsTof.PaddedDigits
