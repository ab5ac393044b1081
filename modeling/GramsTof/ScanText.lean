import GramsTof.PaddedDigits
import Mathlib.Data.List.DropRight

/-!
The conversions of `scanf`, on the text that is left. A conversion that does not
match leaves what it has not consumed. Numbers of 64 bits saturate, as `strtoull`
and `strtoll` do, and narrower ones are cut off. What `%f` takes for a number is
an argument. Nothing here names a file format.
-/

namespace GramsTof.ScanText

open PaddedDigits

/-- `isspace`, and `\s` of a regular expression. -/
def isSpace (c : Char) : Bool := c ∈ [' ', '\t', '\n', '\x0b', '\x0c', '\r']

def skipSpace (text : Text) : Text := text.dropWhile isSpace

def takeSign : Text → Bool × Text
  | '-' :: rest => (true, rest)
  | '+' :: rest => (false, rest)
  | text => (false, text)

/-- The sign and the digits of a number; the sign is consumed also where no
digit follows it. -/
def scanInteger (text : Text) : Option (Bool × Nat) × Text :=
  let (negative, body) := takeSign (skipSpace text)
  let digits := body.takeWhile Char.isDigit
  if digits = [] then (none, body)
  else (some (negative, Nat.ofDigitChars 10 digits 0), body.dropWhile Char.isDigit)

/-- `strtoull` -/
def toUnsignedLong (negative : Bool) (magnitude : Nat) : Nat :=
  if 2 ^ 64 ≤ magnitude then 2 ^ 64 - 1
  else if negative then (2 ^ 64 - magnitude) % 2 ^ 64 else magnitude

/-- `strtoll` -/
def toLong (negative : Bool) (magnitude : Nat) : Int :=
  if negative then max (-(magnitude : Int)) (-2 ^ 63) else min (magnitude : Int) (2 ^ 63 - 1)

/-- `%u` -/
def toUnsigned (number : Bool × Nat) : Nat := toUnsignedLong number.1 number.2 % 2 ^ 32

/-- `%d` -/
def toInt (number : Bool × Nat) : Int := (toLong number.1 number.2).bmod (2 ^ 32)

/-- The number itself, of any size. -/
def written (number : Bool × Nat) : Int := if number.1 then -(number.2 : Int) else number.2

def scanField (text : Text) : Option ((Bool × Nat) × Text) :=
  match scanInteger text with
  | (none, _) => none
  | (some number, rest) => some (number, skipSpace rest)

/-- `%c` and the white space behind it. -/
def scanCharField : Text → Option (Char × Text)
  | [] => none
  | c :: rest => some (c, skipSpace rest)

/-- What `%f` takes, and what is left behind it. -/
abbrev ScanFloat (Number : Type) := Text → Option (Number × Text)

def scanFloatField {Number : Type} (scanFloat : ScanFloat Number) (text : Text) :
    Option (Number × Text) :=
  (scanFloat (skipSpace text)).map fun (number, rest) => (number, skipSpace rest)

/-- A `%f` that takes digits alone. -/
def scanDigits : ScanFloat Nat := fun text =>
  let digits := text.takeWhile Char.isDigit
  if digits = [] then none
  else some (Nat.ofDigitChars 10 digits 0, text.dropWhile Char.isDigit)

/-- `%[^\n]\n` of `fscanf`: a line, and what is left behind the white space that
follows it. An empty line does not match. -/
def scanLine (text : Text) : Option (Text × Text) :=
  let line := text.takeWhile (· ≠ '\n')
  if line = [] then none else some (line, skipSpace (text.dropWhile (· ≠ '\n')))

/-- The lines of at most so many characters. -/
def scanLines : Nat → Text → List Text
  | 0, _ => []
  | fuel + 1, text =>
      match scanLine text with
      | none => []
      | some (line, rest) => line :: scanLines fuel rest

/-- The lines that `%[^\n]\n` takes one after the other. -/
def linesOf (text : Text) : List Text := scanLines text.length text

/-- What is left without the white space at the end. -/
def trimEnd (text : Text) : Text := text.rdropWhile isSpace

/-- White space as a single tab; `inside` is behind its first character. -/
def squeeze (inside : Bool) : Text → Text
  | [] => []
  | c :: rest =>
      if isSpace c then
        if inside then squeeze true rest else '\t' :: squeeze true rest
      else c :: squeeze false rest

theorem toUnsignedLong_le (negative : Bool) (magnitude : Nat) :
    toUnsignedLong negative magnitude ≤ 2 ^ 64 - 1 := by
  unfold toUnsignedLong
  split_ifs <;> omega

theorem toUnsigned_written (number : Bool × Nat) (positive : 0 ≤ written number)
    (small : written number < 2 ^ 32) : (toUnsigned number : Int) = written number := by
  obtain ⟨negative, magnitude⟩ := number
  unfold toUnsigned toUnsignedLong
  unfold written at positive small ⊢
  split_ifs at positive small ⊢ <;> simp at positive small ⊢ <;> omega

theorem toInt_written (number : Bool × Nat) (positive : 0 ≤ written number)
    (small : written number < 2 ^ 31) : toInt number = written number := by
  obtain ⟨negative, magnitude⟩ := number
  have same : toLong negative magnitude = written (negative, magnitude) := by
    unfold toLong
    unfold written at positive small ⊢
    split_ifs at positive small ⊢
    · simp at positive small ⊢
      omega
    · simp at positive small ⊢
      omega
  rw [toInt, same, Int.bmod_eq_of_le]
  · omega
  · omega

theorem takeSign_suffix (text : Text) : (takeSign text).2 <:+ text := by
  unfold takeSign
  split
  · exact List.suffix_cons _ _
  · exact List.suffix_cons _ _
  · exact List.suffix_refl _

theorem skipSpace_suffix (text : Text) : skipSpace text <:+ text := List.dropWhile_suffix _

theorem scanInteger_suffix (text : Text) : (scanInteger text).2 <:+ text := by
  have body := (takeSign_suffix (skipSpace text)).trans (skipSpace_suffix text)
  unfold scanInteger
  dsimp only
  split_ifs
  · exact body
  · exact (List.dropWhile_suffix _).trans body

theorem dropWhile_shorter (pred : Char → Bool) (text : Text) (some : text.takeWhile pred ≠ []) :
    (text.dropWhile pred).length < text.length := by
  have parts := congrArg List.length (List.takeWhile_append_dropWhile (p := pred) (l := text))
  rw [List.length_append] at parts
  have taken := List.length_pos_iff.mpr some
  omega

theorem scanInteger_shorter (text : Text) (matched : (scanInteger text).1 ≠ none) :
    (scanInteger text).2.length < text.length := by
  have body := (takeSign_suffix (skipSpace text)).trans (skipSpace_suffix text) |>.length_le
  unfold scanInteger at matched ⊢
  dsimp only at matched ⊢
  split_ifs at matched ⊢ with empty
  · exact absurd rfl matched
  · exact Nat.lt_of_lt_of_le (dropWhile_shorter _ _ empty) body

/-- A scan that consumes nothing is at its end, and stays there. -/
theorem suffix_shorter_or_same {left right : Text} (suffix : left <:+ right) :
    left = right ∨ left.length < right.length := by
  rcases Nat.lt_or_eq_of_le suffix.length_le with shorter | same
  · exact Or.inr shorter
  · exact Or.inl (suffix.eq_of_length same)

/-! Fields that were printed with tabs between them -/

def Word (token : Text) : Prop := token ≠ [] ∧ ∀ c ∈ token, isSpace c = false

def tabbed : List Text → Text
  | [] => []
  | first :: rest => first ++ rest.flatMap fun token => '\t' :: token

theorem skipSpace_word (token rest : Text) (word : Word token) :
    skipSpace (token ++ rest) = token ++ rest := by
  obtain ⟨some, solid⟩ := word
  cases token with
  | nil => exact absurd rfl some
  | cons first token =>
      exact List.dropWhile_cons_of_neg (by rw [solid first List.mem_cons_self]; decide)

theorem tabbed_cons (first second : Text) (rest : List Text) :
    tabbed (first :: second :: rest) = first ++ '\t' :: tabbed (second :: rest) := rfl

theorem skipSpace_tab (second : Text) (rest : List Text) (word : Word second) :
    skipSpace ('\t' :: tabbed (second :: rest)) = tabbed (second :: rest) :=
  skipSpace_word second _ word

theorem decimal_digits (n : Nat) : ∀ c ∈ decimal n, c.isDigit = true := fun _ member =>
  Nat.isDigit_of_mem_toDigits (by decide) (by decide) member

theorem digit_solid (c : Char) (digit : c.isDigit = true) : isSpace c = false ∧ c ≠ '-' ∧ c ≠ '+' := by
  refine ⟨?_, ?_, ?_⟩
  · rw [← Bool.not_eq_true]
    intro space
    have table : [' ', '\t', '\n', '\x0b', '\x0c', '\r'].all (fun space => !space.isDigit) = true := rfl
    have other := List.all_eq_true.mp table c (of_decide_eq_true space)
    rw [digit] at other
    cases other
  · rintro rfl
    cases digit
  · rintro rfl
    cases digit

theorem decimal_word (n : Nat) : Word (decimal n) :=
  ⟨Nat.toDigits_ne_nil, fun c member => (digit_solid c (decimal_digits n c member)).1⟩

theorem scanInteger_decimal (n : Nat) (rest : Text)
    (stops : ∀ c, rest.head? = some c → c.isDigit = false) :
    scanInteger (decimal n ++ rest) = (some (false, n), rest) := by
  have unsigned : takeSign (decimal n ++ rest) = (false, decimal n ++ rest) := by
    have digits := decimal_digits n
    cases shape : decimal n with
    | nil => exact absurd shape Nat.toDigits_ne_nil
    | cons first more =>
        rw [shape] at digits
        obtain ⟨_, minus, plus⟩ := digit_solid first (digits first List.mem_cons_self)
        rw [List.cons_append, takeSign]
        · intro other same
          exact minus (List.cons.inj same).1
        · intro other same
          exact plus (List.cons.inj same).1
  have front : rest.takeWhile Char.isDigit = [] ∧ rest.dropWhile Char.isDigit = rest := by
    cases rest with
    | nil => exact ⟨rfl, rfl⟩
    | cons c rest =>
        have stop : ¬ c.isDigit = true := by
          rw [stops c rfl]
          decide
        exact ⟨List.takeWhile_cons_of_neg stop, List.dropWhile_cons_of_neg stop⟩
  rw [scanInteger, skipSpace_word _ _ (decimal_word n), unsigned]
  dsimp only
  rw [List.takeWhile_append_of_pos (decimal_digits n), front.1, List.append_nil,
    if_neg (decimal_word n).1, List.dropWhile_append_of_pos (decimal_digits n), front.2, decimal,
    Nat.ofDigitChars_ten_toDigits]

theorem scanField_tabbed (n : Nat) (second : Text) (rest : List Text) (word : Word second) :
    scanField (tabbed (decimal n :: second :: rest)) =
      some ((false, n), tabbed (second :: rest)) := by
  rw [scanField, tabbed_cons, scanInteger_decimal]
  · dsimp only
    rw [skipSpace_tab second rest word]
  · intro c first
    cases first
    rfl

theorem scanCharField_tabbed (c : Char) (second : Text) (rest : List Text) (word : Word second) :
    scanCharField (tabbed ([c] :: second :: rest)) = some (c, tabbed (second :: rest)) := by
  rw [tabbed_cons, List.singleton_append, scanCharField, skipSpace_tab second rest word]

/-- A token that is read as this number, with white space or nothing behind it. -/
def Reads {Number : Type} (scanFloat : ScanFloat Number) (token : Text) (number : Number) : Prop :=
  Word token ∧ ∀ rest, rest = [] ∨ rest.head? = some '\t' →
    scanFloat (token ++ rest) = some (number, rest)

section Floats
variable {Number : Type} (scanFloat : ScanFloat Number)
variable (token : Text) (number : Number) (reads : Reads scanFloat token number)
include reads

theorem scanFloatField_tabbed (second : Text) (rest : List Text) (word : Word second) :
    scanFloatField scanFloat (tabbed (token :: second :: rest)) =
      some (number, tabbed (second :: rest)) := by
  rw [scanFloatField, tabbed_cons, skipSpace_word _ _ reads.1, reads.2 _ (Or.inr rfl),
    Option.map_some]
  dsimp only
  rw [skipSpace_tab second rest word]

theorem scanFloatField_last : scanFloatField scanFloat (tabbed [token]) = some (number, []) := by
  rw [scanFloatField, tabbed, List.flatMap_nil, skipSpace_word _ _ reads.1,
    reads.2 _ (Or.inl rfl)]
  rfl

end Floats

/-! Lines that were printed one after the other -/

theorem scanLines_enough (fuel : Nat) (text : Text) (enough : text.length ≤ fuel) :
    scanLines fuel text = linesOf text := by
  have shorter (text line rest : Text) (scanned : scanLine text = some (line, rest)) :
      rest.length < text.length := by
    unfold scanLine at scanned
    dsimp only at scanned
    split_ifs at scanned with empty
    cases scanned
    exact Nat.lt_of_le_of_lt (skipSpace_suffix _).length_le (dropWhile_shorter _ _ empty)
  have one (fuel : Nat) : ∀ text : Text, text.length ≤ fuel →
      scanLines (fuel + 1) text = scanLines fuel text := by
    induction fuel with
    | zero =>
        intro text empty
        rw [List.eq_nil_of_length_eq_zero (Nat.le_zero.mp empty)]
        rfl
    | succ fuel ih =>
        intro text long
        rw [scanLines, scanLines]
        cases scanned : scanLine text with
        | none => rfl
        | some scan =>
            obtain ⟨line, rest⟩ := scan
            dsimp only
            rw [ih rest (by have := shorter text line rest scanned; omega)]
  obtain ⟨more, rfl⟩ := Nat.exists_eq_add_of_le enough
  induction more with
  | zero => rfl
  | succ more ih =>
      rw [← Nat.add_assoc, one _ text (Nat.le_add_right _ _), ih (Nat.le_add_right _ _)]

theorem linesOf_cons (line rest : Text) (nonempty : line ≠ []) (whole : '\n' ∉ line)
    (next : skipSpace rest = rest) : linesOf (line ++ '\n' :: rest) = line :: linesOf rest := by
  have solid : ∀ c ∈ line, decide (c ≠ '\n') = true := fun c member =>
    decide_eq_true fun same => whole (same ▸ member)
  have scanned : scanLine (line ++ '\n' :: rest) = some (line, rest) := by
    rw [scanLine, List.takeWhile_append_of_pos solid, List.dropWhile_append_of_pos solid,
      List.takeWhile_cons_of_neg (by decide), List.dropWhile_cons_of_neg (by decide),
      List.append_nil, if_neg nonempty]
    have skipped : skipSpace ('\n' :: rest) = skipSpace rest := rfl
    rw [skipped, next]
  rw [linesOf, List.length_append, List.length_cons, ← Nat.add_assoc, scanLines, scanned,
    ← scanLines_enough (line.length + rest.length) rest (Nat.le_add_left _ _)]

/-- A text that comes back from a file as a line. -/
structure Line (line : Text) : Prop where
  begins : ∀ rest, skipSpace (line ++ rest) = line ++ rest
  nonempty : line ≠ []
  whole : '\n' ∉ line

theorem linesOf_printed (lines : List Text) (printed : ∀ line ∈ lines, Line line) :
    linesOf (lines.flatMap fun line => line ++ ['\n']) = lines ∧
      skipSpace (lines.flatMap fun line => line ++ ['\n']) =
        lines.flatMap fun line => line ++ ['\n'] := by
  induction lines with
  | nil => exact ⟨rfl, rfl⟩
  | cons line rest ih =>
      obtain ⟨first, others⟩ := List.forall_mem_cons.mp printed
      obtain ⟨lines, begins⟩ := ih others
      rw [List.flatMap_cons, List.append_assoc, List.singleton_append]
      constructor
      · rw [linesOf_cons _ _ first.nonempty first.whole begins, lines]
      · exact first.begins _

end GramsTof.ScanText
