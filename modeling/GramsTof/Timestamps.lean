import GramsTof.CivilCalendar
import GramsTof.PaddedDigits

/-!
The time stamps in file names: `getCurrentTimestamp`, `getFileByTimestamp` and
`getLatestTimestamp` of `GRAMS_TOF_Config`. An instant is what
`system_clock::now` counts, nanoseconds since 1970, without the bounds of the
type that holds it. The names of a directory come in any order, as a
`directory_iterator` may give them.
-/

namespace GramsTof.Timestamps

open PaddedDigits CivilCalendar

/-- `std::tm`, with the month counted from 1. -/
structure Tm where
  date : Date
  hour : Nat
  minute : Nat
  second : Nat
  deriving DecidableEq, Repr

/-- The day of the epoch is the first of 1970. -/
def gmtime (seconds : Int) : Tm :=
  let inDay := (seconds % 86400).toNat
  { date := dateOf (seconds / 86400 + 719162)
    hour := inDay / 3600
    minute := inDay % 3600 / 60
    second := inDay % 60 }

/-- An integer on an output stream. -/
def signedDecimal (n : Int) : Text :=
  if n < 0 then '-' :: decimal n.natAbs else decimal n.natAbs

/-- `std::put_time(&tm, "%Y-%m-%d_%H-%M-%S")` -/
def putTime (tm : Tm) : Text :=
  signedDecimal tm.date.year ++ ['-'] ++ padded 2 tm.date.month ++ ['-'] ++
    padded 2 tm.date.day ++ ['_'] ++ padded 2 tm.hour ++ ['-'] ++ padded 2 tm.minute ++ ['-'] ++
    padded 2 tm.second

/-- `time_point_cast<seconds>` drops the fraction, towards 1970. -/
def secs (now : Int) : Int := now.tdiv 1000000000

/-- `duration_cast<milliseconds>(now - secs)` -/
def frac (now : Int) : Int := (now - secs now * 1000000000).tdiv 1000000

def getCurrentTimestamp (now : Int) : Text :=
  putTime (gmtime (secs now)) ++ ['.'] ++ signedDecimal (frac now) ++ ['Z']

/-- The parts of the regular expressions that take one character each. -/
inductive Atom where
  | literal (c : Char)
  | dot
  | digit
  deriving DecidableEq, Repr

/-- A dot of ECMAScript takes no end of line. -/
def Atom.accepts : Atom → Char → Bool
  | .literal c, other => other == c
  | .dot, other => other != '\n' && other != '\r'
  | .digit, other => other.isDigit

/-- The characters with a meaning in a regular expression, but for the dot. -/
def metacharacters : Text := "^$\\*+?()[]{}|".toList

/-- A text that goes into a regular expression as the callers' texts do: its
only character with a meaning is the dot. -/
structure Pattern where
  text : Text
  plain : ∀ c ∈ text, c ∉ metacharacters

def textAtoms (text : Text) : List Atom := text.map fun c => if c = '.' then .dot else .literal c

def Pattern.atoms (pattern : Pattern) : List Atom := textAtoms pattern.text

/-- The text behind what the atoms take. -/
def takeAtoms : List Atom → Text → Option Text
  | [], text => some text
  | _ :: _, [] => none
  | atom :: atoms, c :: text => if atom.accepts c then takeAtoms atoms text else none

/-- `\d{4}-\d{2}-\d{2}_\d{2}-\d{2}-\d{2}\.` -/
def dateAtoms : List Atom :=
  [.digit, .digit, .digit, .digit, .literal '-', .digit, .digit, .literal '-', .digit, .digit,
    .literal '_', .digit, .digit, .literal '-', .digit, .digit, .literal '-', .digit, .digit,
    .literal '.']

/-- The first group of a match of the regular expression in
`getLatestTimestamp`. The digits in front of `Z` are all that stand there. -/
def captured (stem suffix : Pattern) (filename : Text) : Option Text := do
  let stamp ← takeAtoms (stem.atoms ++ [.literal '_']) filename
  let behindDate ← takeAtoms dateAtoms stamp
  let digits := behindDate.takeWhile Char.isDigit
  if digits = [] then none
  let behindStamp ← takeAtoms [.literal 'Z'] (behindDate.dropWhile Char.isDigit)
  let rest ← takeAtoms suffix.atoms behindStamp
  if rest.all Atom.dot.accepts then some (stamp.take 20 ++ digits ++ ['Z']) else none

/-- An entry of a directory. `regular` is said of what a link leads to. -/
structure Entry where
  filename : Text
  regular : Bool
  deriving DecidableEq, Repr

inductive LookupError where
  | noDirectory
  | noMatch
  deriving DecidableEq, Repr

def laterTimestamp (stem suffix : Pattern) (latestTs : Text) (entry : Entry) : Text :=
  if entry.regular = false then latestTs
  else match captured stem suffix entry.filename with
    | none => latestTs
    | some ts => if latestTs = [] ∨ latestTs < ts then ts else latestTs

/-- `none` is a path that is no directory. -/
def getLatestTimestamp (dir : Option (List Entry)) (stem suffix : Pattern) :
    Except LookupError Text :=
  match dir with
  | none => .error .noDirectory
  | some entries =>
      let latestTs := entries.foldl (laterTimestamp stem suffix) []
      if latestTs = [] then .error .noMatch else .ok latestTs

/-- Whether the regular expression of `getFileByTimestamp` matches. The dot in
the time stamp takes any character. -/
def matchesTimestamp (stem : Pattern) (timestamp : Text) (suffix : Pattern) (filename : Text) :
    Bool :=
  match takeAtoms (stem.atoms ++ [.literal '_'] ++ textAtoms timestamp ++ suffix.atoms) filename with
  | none => false
  | some rest => rest.all Atom.dot.accepts

def getFileByTimestamp (dir : Option (List Entry)) (stem : Pattern) (timestamp : Text)
    (suffix : Pattern) : Except LookupError Text :=
  match dir with
  | none => .error .noDirectory
  | some entries =>
      match entries.find? fun entry =>
        entry.regular && matchesTimestamp stem timestamp suffix entry.filename with
      | none => .error .noMatch
      | some entry => .ok entry.filename

def Tm.values (tm : Tm) : List Nat :=
  [tm.date.year.toNat, tm.date.month, tm.date.day, tm.hour, tm.minute, tm.second]

def layout : List (Nat × Text) :=
  [(4, ['-']), (2, ['-']), (2, ['_']), (2, ['-']), (2, ['-']), (2, [])]

def FourDigits (now : Int) : Prop :=
  1000 ≤ (gmtime (secs now)).date.year ∧ (gmtime (secs now)).date.year ≤ 9999

instance (now : Int) : Decidable (FourDigits now) := inferInstanceAs (Decidable (_ ∧ _))

theorem decimal_four (n : Nat) (least : 1000 ≤ n) (most : n ≤ 9999) : decimal n = padded 4 n := by
  have short : (decimal n).length ≤ 4 :=
    (Nat.length_toDigits_le_iff (by decide) (by decide)).mpr (by omega)
  have long : ¬ (decimal n).length ≤ 3 := by
    intro wrong
    have bound := (Nat.length_toDigits_le_iff (by decide) (by decide)).mp wrong
    omega
  have four : (decimal n).length = 4 := by omega
  rw [decimal_padded n, four]

theorem put_time_fields (tm : Tm) (least : 1000 ≤ tm.date.year) (most : tm.date.year ≤ 9999) :
    putTime tm = fields layout tm.values := by
  have year : signedDecimal tm.date.year = padded 4 tm.date.year.toNat := by
    have same : tm.date.year.natAbs = tm.date.year.toNat := by omega
    rw [signedDecimal, if_neg (by omega), same, decimal_four _ (by omega) (by omega)]
  rw [putTime, year]
  simp [fields, layout, Tm.values]

theorem gmtime_fits (seconds : Int) (most : (gmtime seconds).date.year ≤ 9999) :
    Fits layout (gmtime seconds).values := by
  obtain ⟨month, day⟩ := date_bounds (seconds / 86400 + 719162)
  have inDay : (seconds % 86400).toNat < 86400 := by omega
  refine .cons ?_ (.cons ?_ (.cons ?_ (.cons ?_ (.cons ?_ (.cons ?_ .nil)))))
  · -- of the six values only the year can outgrow its field
    change _ < 10000
    omega
  · exact Nat.lt_of_le_of_lt month (by decide)
  · exact Nat.lt_of_le_of_lt day (by decide)
  · change (seconds % 86400).toNat / 3600 < 100
    omega
  · change (seconds % 86400).toNat % 3600 / 60 < 100
    omega
  · change (seconds % 86400).toNat % 60 < 100
    omega

theorem values_lt (seconds later : Int) (least : 1000 ≤ (gmtime seconds).date.year)
    (less : seconds < later) : (gmtime seconds).values < (gmtime later).values := by
  simp only [Tm.values, List.cons_lt_cons_iff, List.not_lt_nil, and_false, or_false]
  by_cases sameDay : seconds / 86400 = later / 86400
  · -- the same date, and a later time of the day
    have date : (gmtime seconds).date = (gmtime later).date := by simp only [gmtime, sameDay]
    simp only [date, lt_irrefl, false_or, true_and]
    change (seconds % 86400).toNat / 3600 < (later % 86400).toNat / 3600 ∨
      (seconds % 86400).toNat / 3600 = (later % 86400).toNat / 3600 ∧
      ((seconds % 86400).toNat % 3600 / 60 < (later % 86400).toNat % 3600 / 60 ∨
        (seconds % 86400).toNat % 3600 / 60 = (later % 86400).toNat % 3600 / 60 ∧
        (seconds % 86400).toNat % 60 < (later % 86400).toNat % 60)
    omega
  · have dates := date_lt (seconds / 86400 + 719162) (later / 86400 + 719162) (by omega)
    rcases dates with year | ⟨year, month | ⟨month, day⟩⟩
    · left
      change 1000 ≤ (dateOf (seconds / 86400 + 719162)).year at least
      change (dateOf (seconds / 86400 + 719162)).year.toNat <
        (dateOf (later / 86400 + 719162)).year.toNat
      omega
    · exact Or.inr ⟨congrArg Int.toNat year, Or.inl month⟩
    · exact Or.inr ⟨congrArg Int.toNat year, Or.inr ⟨month, Or.inl day⟩⟩

theorem put_time_lt (now later : Int) (four : FourDigits now) (laterFour : FourDigits later)
    (less : secs now < secs later) : putTime (gmtime (secs now)) < putTime (gmtime (secs later)) := by
  rw [put_time_fields _ four.1 four.2, put_time_fields _ laterFour.1 laterFour.2]
  exact fields_lt layout _ _ (gmtime_fits _ four.2) (gmtime_fits _ laterFour.2)
    (values_lt _ _ four.1 less)

theorem put_time_length (now later : Int) (four : FourDigits now) (laterFour : FourDigits later) :
    (putTime (gmtime (secs now))).length = (putTime (gmtime (secs later))).length := by
  rw [put_time_fields _ four.1 four.2, put_time_fields _ laterFour.1 laterFour.2]
  exact fields_length layout _ _ (gmtime_fits _ four.2) (gmtime_fits _ laterFour.2)

def millis (now : Int) : Int := now.tdiv 1000000

/-- In the order of their fractions, as they are printed: the digits are not
padded, and before 1970 a minus stands in front of them. -/
def FractionsOrdered (first second : Int) : Prop :=
  if first < 0 then
    0 ≤ second ∨ ¬ second.natAbs < leading second.natAbs first.natAbs
  else first.natAbs < leading first.natAbs second.natAbs

instance (first second : Int) : Decidable (FractionsOrdered first second) :=
  inferInstanceAs (Decidable (ite _ _ _))

/-- What it takes for the texts of two instants to be in order. -/
def StampsOrdered (earlier later : Int) : Prop :=
  secs earlier = secs later → FractionsOrdered (frac earlier) (frac later)

instance (earlier later : Int) : Decidable (StampsOrdered earlier later) :=
  inferInstanceAs (Decidable (_ → _))

theorem tdiv_cases (n : Int) (size : Nat) :
    0 ≤ n ∧ n.tdiv size = n / size ∨ n < 0 ∧ n.tdiv size = -(-n / size) := by
  by_cases positive : 0 ≤ n
  · exact Or.inl ⟨positive, Int.tdiv_eq_ediv_of_nonneg positive⟩
  · refine Or.inr ⟨by omega, ?_⟩
    rw [← Int.tdiv_eq_ediv_of_nonneg (by omega), Int.neg_tdiv, Int.neg_neg]

theorem millis_split (now : Int) : millis now = 1000 * secs now + frac now := by
  have seconds := tdiv_cases now 1000000000
  have whole := tdiv_cases now 1000000
  have rest := tdiv_cases (now - secs now * 1000000000) 1000000
  unfold millis frac secs at *
  push_cast at *
  omega

theorem earlier_cases (earlier later : Int) (less : earlier < later)
    (differ : millis earlier ≠ millis later) :
    secs earlier < secs later ∨ secs earlier = secs later ∧ frac earlier < frac later := by
  rw [millis_split, millis_split] at differ
  have before := tdiv_cases earlier 1000000000
  have behind := tdiv_cases later 1000000000
  have first := tdiv_cases (earlier - secs earlier * 1000000000) 1000000
  have second := tdiv_cases (later - secs later * 1000000000) 1000000
  unfold frac at *
  unfold secs at *
  push_cast at *
  omega

theorem digits_below_z (n : Nat) : digit n < 'Z' := by
  have table : ∀ d < 10, Nat.digitChar d < 'Z' := by decide
  exact table _ (Nat.mod_lt _ (by decide))

theorem minus_below_digits (n : Nat) : '-' < digit n := by
  have table : ∀ d < 10, '-' < Nat.digitChar d := by decide
  exact table _ (Nat.mod_lt _ (by decide))

theorem text_reverse (left right : Text) (differ : left ≠ right) (reverse : ¬ left < right) :
    right < left := by
  rcases List.le_iff_lt_or_eq.mp (List.not_lt.mp reverse) with less | same
  · exact less
  · exact absurd same.symm differ

theorem decimal_order (m n : Nat) (less : m < n) :
    (m < leading m n → decimal m ++ ['Z'] < decimal n ++ ['Z']) ∧
      (¬ m < leading m n → decimal n ++ ['Z'] < decimal m ++ ['Z']) := by
  have order := decimal_lt_iff 'Z' digits_below_z m n less
  refine ⟨order.mpr, fun wrong => text_reverse _ _ ?_ (mt order.mp wrong)⟩
  intro same
  have equal := decimal_injective m n (List.append_cancel_right same)
  omega

/-- Fractions within one second: `FractionsOrdered` decides their order as
texts. -/
theorem fraction_order (first second : Int) (less : first < second) :
    (FractionsOrdered first second →
      signedDecimal first ++ ['Z'] < signedDecimal second ++ ['Z']) ∧
    (¬ FractionsOrdered first second →
      signedDecimal second ++ ['Z'] < signedDecimal first ++ ['Z']) := by
  unfold FractionsOrdered signedDecimal
  by_cases negative : first < 0
  · rw [if_pos negative, if_pos negative]
    by_cases both : second < 0
    · -- behind the minus the larger number comes first
      obtain ⟨ordered, reversed⟩ := decimal_order second.natAbs first.natAbs (by omega)
      rw [if_pos both, List.cons_append, List.cons_append]
      simp only [List.cons_lt_cons_iff, Char.lt_irrefl, false_or, true_and]
      constructor
      · rintro (wrong | shorter)
        · omega
        · exact reversed shorter
      · intro wrong
        exact ordered (not_not.mp (not_or.mp wrong).2)
    · refine ⟨fun _ => ?_, fun wrong => absurd (Or.inl (by omega)) wrong⟩
      obtain ⟨d, rest, head⟩ := decimal_head second.natAbs
      rw [if_neg both, head]
      exact List.cons_lt_cons_iff.mpr (Or.inl (minus_below_digits d))
  · rw [if_neg negative, if_neg negative, if_neg (by omega)]
    exact decimal_order first.natAbs second.natAbs (by omega)

theorem current_timestamp_order (earlier later : Int) (four : FourDigits earlier)
    (laterFour : FourDigits later) (less : earlier < later)
    (differ : millis earlier ≠ millis later) :
    (StampsOrdered earlier later → getCurrentTimestamp earlier < getCurrentTimestamp later) ∧
      (¬ StampsOrdered earlier later →
        getCurrentTimestamp later < getCurrentTimestamp earlier) := by
  simp only [getCurrentTimestamp, List.append_assoc]
  rcases earlier_cases earlier later less differ with seconds | ⟨same, fraction⟩
  · refine ⟨fun _ => ?_, fun wrong => absurd (fun equal => by omega) wrong⟩
    exact append_lt (put_time_length _ _ four laterFour)
      (put_time_lt _ _ four laterFour seconds) _ _
  · -- the same second: the texts agree up to the fraction
    obtain ⟨ordered, reversed⟩ := fraction_order (frac earlier) (frac later) fraction
    rw [same, append_lt_iff, append_lt_iff, append_lt_iff, append_lt_iff]
    refine ⟨fun given => ordered (given same), fun wrong => reversed fun given => ?_⟩
    exact wrong fun _ => given

/-- The texts the matching files of a directory are read by, in its order. -/
def captures (stem suffix : Pattern) (entries : List Entry) : List Text :=
  entries.filterMap fun entry =>
    if entry.regular = false then none else captured stem suffix entry.filename

def laterText (latestTs ts : Text) : Text := if latestTs = [] ∨ latestTs < ts then ts else latestTs

theorem later_fold (stem suffix : Pattern) (entries : List Entry) (latestTs : Text) :
    entries.foldl (laterTimestamp stem suffix) latestTs =
      (captures stem suffix entries).foldl laterText latestTs := by
  induction entries generalizing latestTs with
  | nil => rfl
  | cons entry rest ih =>
      rw [List.foldl_cons, ih]
      unfold laterTimestamp captures
      by_cases regular : entry.regular = false
      · rw [if_pos regular, List.filterMap_cons_none (by rw [if_pos regular])]
      · rw [if_neg regular]
        cases found : captured stem suffix entry.filename with
        | none => rw [List.filterMap_cons_none (by rw [if_neg regular, found])]
        | some ts =>
            rw [List.filterMap_cons_some (by rw [if_neg regular, found]), List.foldl_cons]
            rfl

theorem later_text_above (latestTs ts : Text) :
    ¬ laterText latestTs ts < latestTs ∧ ¬ laterText latestTs ts < ts := by
  unfold laterText
  by_cases takes : latestTs = [] ∨ latestTs < ts
  · rw [if_pos takes]
    refine ⟨?_, List.lt_irrefl _⟩
    rcases takes with rfl | less
    · exact List.not_lt_nil _
    · exact List.lt_asymm less
  · rw [if_neg takes]
    exact ⟨List.lt_irrefl _, fun less => takes (Or.inr less)⟩

theorem later_text_fold (stamps : List Text) (latestTs : Text) :
    (stamps.foldl laterText latestTs = latestTs ∨ stamps.foldl laterText latestTs ∈ stamps) ∧
      ¬ stamps.foldl laterText latestTs < latestTs ∧
      ∀ ts ∈ stamps, ¬ stamps.foldl laterText latestTs < ts := by
  induction stamps generalizing latestTs with
  | nil => exact ⟨Or.inl rfl, List.lt_irrefl _, fun ts member => by cases member⟩
  | cons ts rest ih =>
      obtain ⟨source, above, all⟩ := ih (laterText latestTs ts)
      obtain ⟨overOld, overNew⟩ := later_text_above latestTs ts
      rw [List.foldl_cons]
      refine ⟨?_, List.le_trans overOld above, ?_⟩
      · rcases source with same | member
        · rw [same]
          unfold laterText
          split_ifs
          · exact Or.inr List.mem_cons_self
          · exact Or.inl rfl
        · exact Or.inr (List.mem_cons_of_mem _ member)
      · exact List.forall_mem_cons.mpr ⟨List.le_trans overNew above, all⟩

theorem current_timestamp_filled (now : Int) : getCurrentTimestamp now ≠ [] := by
  unfold getCurrentTimestamp
  exact List.append_ne_nil_of_right_ne_nil _ (List.cons_ne_nil _ _)

/-- The matching files of a directory carry the time stamps of these instants. -/
def Carries (stem suffix : Pattern) (entries : List Entry) (instants : List Int) : Prop :=
  captures stem suffix entries = instants.map getCurrentTimestamp

theorem latest_timestamp_iff (stem suffix : Pattern) (entries : List Entry) (instants : List Int)
    (carries : Carries stem suffix entries instants) (latest : Int) (member : latest ∈ instants) :
    getLatestTimestamp (some entries) stem suffix = .ok (getCurrentTimestamp latest) ↔
      ∀ now ∈ instants, ¬ getCurrentTimestamp latest < getCurrentTimestamp now := by
  obtain ⟨source, _, above⟩ := later_text_fold (instants.map getCurrentTimestamp) []
  have bound : ∀ now ∈ instants, ¬ (instants.map getCurrentTimestamp).foldl laterText [] <
      getCurrentTimestamp now :=
    fun now inside => above _ (List.mem_map_of_mem inside)
  -- so the test of an empty result does not throw
  have filled : (instants.map getCurrentTimestamp).foldl laterText [] ≠ [] := by
    intro empty
    have least := bound latest member
    rw [empty] at least
    exact current_timestamp_filled latest (List.le_nil.mp least)
  have newest : getLatestTimestamp (some entries) stem suffix =
      .ok ((instants.map getCurrentTimestamp).foldl laterText []) := by
    have read : captures stem suffix entries = instants.map getCurrentTimestamp := carries
    rw [getLatestTimestamp, later_fold, read]
    exact if_neg filled
  rw [newest, Except.ok.injEq]
  constructor
  · intro same
    rwa [same] at bound
  · intro largest
    rcases source with empty | inside
    · exact absurd empty filled
    · obtain ⟨now, somewhere, same⟩ := List.mem_map.mp inside
      rw [← same] at bound ⊢
      exact List.le_antisymm (largest now somewhere) (bound latest member)

theorem same_millis_stamp (now later : Int) (same : millis now = millis later) :
    getCurrentTimestamp now = getCurrentTimestamp later := by
  have seconds : secs now = secs later ∧ frac now = frac later := by
    have split := millis_split now
    have laterSplit := millis_split later
    have before := tdiv_cases now 1000000000
    have behind := tdiv_cases later 1000000000
    have first := tdiv_cases (now - secs now * 1000000000) 1000000
    have second := tdiv_cases (later - secs later * 1000000000) 1000000
    unfold frac at *
    unfold secs at *
    push_cast at *
    omega
  rw [getCurrentTimestamp, seconds.1, seconds.2, getCurrentTimestamp]

theorem take_atoms_append (first second : List Atom) (text : Text) :
    takeAtoms (first ++ second) text = (takeAtoms first text).bind (takeAtoms second) := by
  induction first generalizing text with
  | nil => rfl
  | cons atom rest ih =>
      cases text with
      | nil => rfl
      | cons c text =>
          rw [List.cons_append, takeAtoms, takeAtoms]
          split_ifs
          · exact ih text
          · rfl

theorem take_text (text rest : Text) : takeAtoms (textAtoms text) (text ++ rest) = some rest := by
  induction text with
  | nil => rfl
  | cons c text ih =>
      rw [textAtoms, List.map_cons, List.cons_append, takeAtoms, if_pos]
      · exact ih
      split_ifs with dot
      · rw [dot]
        rfl
      · exact beq_self_eq_true c

theorem take_pattern (pattern : Pattern) (rest : Text) :
    takeAtoms pattern.atoms (pattern.text ++ rest) = some rest :=
  take_text pattern.text rest

theorem digit_is_digit (n : Nat) : (digit n).isDigit = true := by
  have table : ∀ d < 10, (Nat.digitChar d).isDigit = true := by decide
  exact table _ (Nat.mod_lt _ (by decide))

theorem put_time_taken (now : Int) (four : FourDigits now) (rest : Text) :
    takeAtoms dateAtoms (putTime (gmtime (secs now)) ++ '.' :: rest) = some rest := by
  rw [put_time_fields _ four.1 four.2]
  simp [fields, layout, Tm.values, padded, dateAtoms, takeAtoms, Atom.accepts, digit_is_digit]

theorem put_time_twenty (now : Int) (four : FourDigits now) (rest : Text) :
    (putTime (gmtime (secs now)) ++ '.' :: rest).take 20 = putTime (gmtime (secs now)) ++ ['.'] := by
  have length : (putTime (gmtime (secs now))).length = 19 := by
    rw [put_time_fields _ four.1 four.2]
    simp [fields, layout, Tm.values, padded]
  rw [List.take_append, length, List.take_of_length_le (by omega)]
  rfl

theorem decimal_taken (n : Nat) (rest : Text) :
    (decimal n ++ 'Z' :: rest).takeWhile Char.isDigit = decimal n ∧
      (decimal n ++ 'Z' :: rest).dropWhile Char.isDigit = 'Z' :: rest := by
  have digits : ∀ c ∈ decimal n, c.isDigit = true := fun c member =>
    Nat.isDigit_of_mem_toDigits (by decide) (by decide) member
  constructor
  · rw [List.takeWhile_append_of_pos digits]
    simp
  · rw [List.dropWhile_append_of_pos digits]
    simp

def stampedName (stem suffix : Pattern) (now : Int) (tail : Text) : Text :=
  stem.text ++ ('_' :: (getCurrentTimestamp now ++ (suffix.text ++ tail)))

/-- From 1970 on a file is read by the time stamp it was named with. -/
theorem stamped_name_captured (stem suffix : Pattern) (now : Int) (four : FourDigits now)
    (epoch : 0 ≤ frac now) (tail : Text) (oneLine : tail.all Atom.dot.accepts = true) :
    captured stem suffix (stampedName stem suffix now tail) =
      some (getCurrentTimestamp now) := by
  have stamp : getCurrentTimestamp now ++ (suffix.text ++ tail) =
      putTime (gmtime (secs now)) ++
        '.' :: (decimal (frac now).natAbs ++ 'Z' :: (suffix.text ++ tail)) := by
    rw [getCurrentTimestamp, signedDecimal, if_neg (by omega)]
    simp only [List.append_assoc, List.cons_append, List.nil_append]
  obtain ⟨taken, dropped⟩ := decimal_taken (frac now).natAbs (suffix.text ++ tail)
  have stem : takeAtoms (stem.atoms ++ [.literal '_']) (stampedName stem suffix now tail) =
      some (getCurrentTimestamp now ++ (suffix.text ++ tail)) := by
    rw [take_atoms_append, stampedName, take_pattern]
    rfl
  obtain ⟨d, rest, head⟩ := decimal_head (frac now).natAbs
  -- the pattern asks for at least one digit
  have some : ¬ decimal (frac now).natAbs = [] := by
    rw [head]
    exact List.cons_ne_nil _ _
  have behind : takeAtoms [.literal 'Z'] ('Z' :: (suffix.text ++ tail)) =
      Option.some (suffix.text ++ tail) := rfl
  unfold captured
  rw [stem, stamp]
  simp only [Option.bind_eq_bind, Option.bind_some, put_time_taken now four, taken, dropped,
    if_neg some, behind, take_pattern, oneLine, if_true, put_time_twenty now four]
  rw [getCurrentTimestamp, signedDecimal, if_neg (by omega)]

theorem stamped_carries (stem suffix : Pattern) (files : List (Int × Text))
    (four : ∀ file ∈ files, FourDigits file.1) (epoch : ∀ file ∈ files, 0 ≤ frac file.1)
    (oneLine : ∀ file ∈ files, file.2.all Atom.dot.accepts = true) :
    Carries stem suffix (files.map fun file => ⟨stampedName stem suffix file.1 file.2, true⟩)
      (files.map Prod.fst) := by
  unfold Carries captures
  induction files with
  | nil => rfl
  | cons file rest ih =>
      rw [List.map_cons, List.filterMap_cons_some, ih]
      · rfl
      · exact fun other member => four other (List.mem_cons_of_mem _ member)
      · exact fun other member => epoch other (List.mem_cons_of_mem _ member)
      · exact fun other member => oneLine other (List.mem_cons_of_mem _ member)
      · exact stamped_name_captured stem suffix file.1 (four file List.mem_cons_self)
          (epoch file List.mem_cons_self) file.2 (oneLine file List.mem_cons_self)

theorem stamps_lt_iff (earlier later : Int) (four : FourDigits earlier)
    (laterFour : FourDigits later) (less : earlier < later)
    (differ : millis earlier ≠ millis later) :
    getCurrentTimestamp earlier < getCurrentTimestamp later ↔ StampsOrdered earlier later := by
  obtain ⟨ordered, reversed⟩ := current_timestamp_order earlier later four laterFour less differ
  refine ⟨fun texts => ?_, ordered⟩
  by_contra wrong
  exact List.lt_asymm texts (reversed wrong)

/-- Of instants with years of four digits, the time stamps of two are in order
exactly if `StampsOrdered` holds of these; and of a directory with their files,
in whatever order it is read, the latest instant is returned exactly if that
holds of every other one and the latest. -/
theorem timestamps_chronological (instants : List Int) (four : ∀ now ∈ instants, FourDigits now) :
    (∀ earlier ∈ instants, ∀ later ∈ instants, earlier < later →
      millis earlier ≠ millis later →
      (getCurrentTimestamp earlier < getCurrentTimestamp later ↔ StampsOrdered earlier later)) ∧
    ∀ stem suffix entries, Carries stem suffix entries instants →
      ∀ latest ∈ instants, (∀ now ∈ instants, now ≤ latest) →
        (getLatestTimestamp (some entries) stem suffix = .ok (getCurrentTimestamp latest) ↔
          ∀ now ∈ instants, millis now ≠ millis latest → StampsOrdered now latest) := by
  constructor
  · intro earlier inside later laterInside
    exact stamps_lt_iff earlier later (four earlier inside) (four later laterInside)
  intro stem suffix entries carries latest member last
  rw [latest_timestamp_iff stem suffix entries instants carries latest member]
  -- instants of one millisecond have one text, so only the others count
  have apart : ∀ now ∈ instants, millis now ≠ millis latest → now < latest := by
    intro now inside differ
    have before := last now inside
    have other : now ≠ latest := fun same => differ (congrArg millis same)
    omega
  constructor
  · intro largest now inside differ
    have less := apart now inside differ
    by_contra wrong
    exact largest now inside
      ((current_timestamp_order now latest (four now inside) (four latest member) less differ).2
        wrong)
  · intro ordered now inside
    by_cases same : millis now = millis latest
    · rw [same_millis_stamp now latest same]
      exact List.lt_irrefl _
    · exact List.lt_asymm ((stamps_lt_iff now latest (four now inside) (four latest member)
        (apart now inside same) same).mpr (ordered now inside same))

theorem plain_text (text : Text) (checked : (text.all fun c => !metacharacters.elem c) = true) :
    ∀ c ∈ text, c ∉ metacharacters := by
  intro c member special
  have plain := List.all_eq_true.mp checked c member
  rw [List.elem_eq_true_of_mem special] at plain
  cases plain

def tdcStem : Pattern := ⟨"tdc_calibration".toList, plain_text _ (by decide)⟩

def emptyPattern : Pattern := ⟨[], fun _ member => by cases member⟩

theorem timestamps_chronological_two_files :
    getLatestTimestamp (some [⟨stampedName tdcStem emptyPattern 1700000000123000000 [], true⟩,
      ⟨stampedName tdcStem emptyPattern 1700000000045000000 ".rawf".toList, true⟩]) tdcStem
      emptyPattern = .ok (getCurrentTimestamp 1700000000123000000) ↔
      ∀ now ∈ [1700000000123000000, 1700000000045000000], millis now ≠ millis 1700000000123000000 →
        StampsOrdered now 1700000000123000000 :=
  (timestamps_chronological [1700000000123000000, 1700000000045000000] (by decide +kernel)).2
    tdcStem emptyPattern _
    (stamped_carries tdcStem emptyPattern
      [(1700000000123000000, []), (1700000000045000000, ".rawf".toList)] (by decide +kernel)
      (by decide +kernel) (by decide +kernel))
    1700000000123000000 (by decide) (by decide)

/-- 5 ms and 10 ms into the same second: the texts are the other way round,
and of the two files the older is returned. -/
theorem unpadded_fraction_reversed :
    (¬ ∀ earlier later, FourDigits earlier → FourDigits later → earlier < later →
      millis earlier ≠ millis later →
      getCurrentTimestamp earlier < getCurrentTimestamp later) ∧
    ¬ ∀ stem suffix entries instants, Carries stem suffix entries instants →
      (∀ now ∈ instants, FourDigits now) →
      ∀ latest ∈ instants, (∀ now ∈ instants, now ≤ latest) →
        getLatestTimestamp (some entries) stem suffix = .ok (getCurrentTimestamp latest) := by
  constructor
  · intro ordered
    have wrong := ordered 1700000000005000000 1700000000010000000 (by decide +kernel)
      (by decide +kernel) (by decide) (by decide +kernel)
    exact absurd wrong (by decide +kernel)
  · intro newest
    have wrong := newest tdcStem emptyPattern _ _ (stamped_carries tdcStem emptyPattern
      [(1700000000010000000, []), (1700000000005000000, [])] (by decide +kernel)
      (by decide +kernel) (by decide +kernel)) (by decide +kernel) 1700000000010000000 (by decide)
      (by decide)
    exact absurd wrong (by decide +kernel)

end GramsTof.Timestamps
