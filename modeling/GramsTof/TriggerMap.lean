import GramsTof.CalibrationTable
import Mathlib.Data.Sym.Sym2

/-!
`loadTriggerMap` of `SystemConfig`, and the two maps it fills. The file can be
opened. An access outside of an array ends the model. What the maps stand for is
a table of unordered pairs of trigger regions.
-/

namespace GramsTof.TriggerMap

open PaddedDigits ScanText ConfigTables CalibrationTable

def maxTriggerRegions : Nat := 4096

/-- The two arrays, of `maxTriggerRegions * maxTriggerRegions` elements. -/
structure TriggerMaps where
  coincidenceTriggerMap : Nat → Bool
  multihitTriggerMap : Nat → Bool

def newTriggerMaps : TriggerMaps := ⟨fun _ => false, fun _ => false⟩

def triggerIndex (r1 r2 : Nat) : Nat := r1 * maxTriggerRegions + r2

/-- `none` is outside of the array. -/
def allowed (map : Nat → Bool) (r1 r2 : Int) : Option Bool :=
  if r1 < 0 ∨ r2 < 0 then some false
  else
    let index := triggerIndex r1.toNat r2.toNat
    if index < maxTriggerRegions * maxTriggerRegions then some (map index) else none

def TriggerMaps.isCoincidenceAllowed (maps : TriggerMaps) : Int → Int → Option Bool :=
  allowed maps.coincidenceTriggerMap

def TriggerMaps.isMultiHitAllowed (maps : TriggerMaps) : Int → Int → Option Bool :=
  allowed maps.multihitTriggerMap

/-- Why a file is not loaded: a line is written past the end of its buffer, or
an exception is thrown at it. -/
inductive LoadError where
  | overrun
  | entries (lineNumber : Nat)
  | region (lineNumber : Nat)
  | type (lineNumber : Nat)
  deriving DecidableEq, Repr

def errorText (fn : String) (lineNumber : Nat) (what : String) : String :=
  "Error on '" ++ fn ++ "' line " ++ toString lineNumber ++ ": " ++ what

def LoadError.what (fn : String) : LoadError → Option String
  | .overrun => none
  | .entries lineNumber => some (errorText fn lineNumber "line should have 3 entries")
  | .region lineNumber => some (errorText fn lineNumber
      ("trigger region number must be between 0 and " ++ toString maxTriggerRegions))
  | .type lineNumber => some (errorText fn lineNumber "trigger type must be M or C")

def scanTrigger (line : Text) : Option (Int × Int × Char) := do
  let (r1, line) ← scanField line
  let (r2, line) ← scanField line
  let (c, _) ← scanCharField line
  some (toInt r1, toInt r2, c)

/-- The element of two regions in either order. -/
def assignPair (map : Nat → Bool) (r1 r2 : Nat) (value : Bool) : Nat → Bool :=
  Function.update (Function.update map (triggerIndex r1 r2) value) (triggerIndex r2 r1) value

def TriggerMaps.assign (maps : TriggerMaps) (r1 r2 : Nat) (c : Char) : TriggerMaps :=
  { coincidenceTriggerMap := assignPair maps.coincidenceTriggerMap r1 r2 (c = 'C')
    multihitTriggerMap := assignPair maps.multihitTriggerMap r1 r2 (c = 'M') }

/-- The body of the loop, with the number of lines before it. -/
def loadTriggerLine (state : Nat × TriggerMaps) (line : Text) :
    Except LoadError (Nat × TriggerMaps) :=
  if pathMax ≤ line.length then .error .overrun
  else
    let lineNumber := state.1 + 1
    let line := normalizeLine line
    if line = [] then .ok (lineNumber, state.2)
    else
      match scanTrigger line with
      | none => .error (.entries lineNumber)
      | some (r1, r2, c) =>
          if r1 < 0 ∨ maxTriggerRegions ≤ r1 ∨ r2 < 0 ∨ maxTriggerRegions ≤ r2 then
            .error (.region lineNumber)
          else
            let c := c.toUpper
            if c ≠ 'M' ∧ c ≠ 'C' then .error (.type lineNumber)
            else .ok (lineNumber, state.2.assign r1.toNat r2.toNat c)

def loadTriggerMap (maps : TriggerMaps) (text : Text) : Except LoadError TriggerMaps :=
  ((linesOf text).foldlM loadTriggerLine (0, maps)).map Prod.snd

/-! The table of pairs -/

inductive TriggerType where
  | multihit
  | coincidence
  deriving DecidableEq, Repr

def TriggerType.letter : TriggerType → Char
  | multihit => 'M'
  | coincidence => 'C'

structure TriggerRow where
  first : Nat
  second : Nat
  type : TriggerType
  deriving DecidableEq, Repr

def TriggerRow.cells (row : TriggerRow) : List Text :=
  [decimal row.first, decimal row.second, [row.type.letter]]

def TriggerRow.line (row : TriggerRow) : Text := tabbed row.cells

def triggerText (rows : List TriggerRow) : Text := rows.flatMap fun row => row.line ++ ['\n']

theorem triggerText_append (first second : List TriggerRow) :
    triggerText (first ++ second) = triggerText first ++ triggerText second :=
  List.flatMap_append

def TriggerRow.pair (row : TriggerRow) : Sym2 Nat := s(row.first, row.second)

abbrev PairTable : Type := Sym2 Nat → Option TriggerType

/-- What a line says of its pair replaces what was said before. -/
def PairTable.enter (table : PairTable) (row : TriggerRow) : PairTable :=
  Function.update table row.pair (some row.type)

def Marks (map : Nat → Bool) (table : PairTable) (type : TriggerType) : Prop :=
  ∀ r1 < maxTriggerRegions, ∀ r2 < maxTriggerRegions,
    map (triggerIndex r1 r2) = decide (table s(r1, r2) = some type)

structure Represents (maps : TriggerMaps) (table : PairTable) : Prop where
  coincidence : Marks maps.coincidenceTriggerMap table .coincidence
  multihit : Marks maps.multihitTriggerMap table .multihit

/-- Both regions have their elements. -/
def TriggerRow.Inside (row : TriggerRow) : Prop :=
  row.first < maxTriggerRegions ∧ row.second < maxTriggerRegions

instance TriggerRow.decidableInside (row : TriggerRow) : Decidable row.Inside :=
  inferInstanceAs (Decidable (_ ∧ _))

section Arrays

theorem triggerIndex_injective (r1 r2 s1 s2 : Nat) (below : r2 < maxTriggerRegions)
    (other : s2 < maxTriggerRegions) (same : triggerIndex r1 r2 = triggerIndex s1 s2) :
    r1 = s1 ∧ r2 = s2 := by
  unfold triggerIndex maxTriggerRegions at *
  omega

theorem triggerIndex_inside (r1 r2 : Nat) (first : r1 < maxTriggerRegions)
    (second : r2 < maxTriggerRegions) :
    triggerIndex r1 r2 < maxTriggerRegions * maxTriggerRegions := by
  unfold triggerIndex maxTriggerRegions at *
  omega

theorem allowed_inside (map : Nat → Bool) (r1 r2 : Nat) (first : r1 < maxTriggerRegions)
    (second : r2 < maxTriggerRegions) : allowed map r1 r2 = some (map (triggerIndex r1 r2)) := by
  have positive : ¬ ((r1 : Int) < 0 ∨ (r2 : Int) < 0) := by omega
  rw [allowed, if_neg positive]
  dsimp only
  rw [Int.toNat_natCast, Int.toNat_natCast, if_pos (triggerIndex_inside r1 r2 first second)]

theorem assignPair_marks (map : Nat → Bool) (table : PairTable) (type : TriggerType)
    (row : TriggerRow) (inside : row.Inside) (marks : Marks map table type) :
    Marks (assignPair map row.first row.second (row.type = type)) (table.enter row) type := by
  intro r1 first r2 second
  rw [assignPair, PairTable.enter, Function.update_apply, Function.update_apply,
    Function.update_apply]
  by_cases named : s(r1, r2) = row.pair
  · rw [if_pos named]
    rcases Sym2.eq_iff.mp named with ⟨rfl, rfl⟩ | ⟨rfl, rfl⟩
    · rw [if_pos rfl, ite_self]
      simp
    · rw [if_pos rfl]
      simp
  · rw [if_neg named, if_neg, if_neg]
    · exact marks r1 first r2 second
    · intro same
      obtain ⟨rfl, rfl⟩ := triggerIndex_injective _ _ _ _ second inside.2 same
      exact named rfl
    · intro same
      obtain ⟨rfl, rfl⟩ := triggerIndex_injective _ _ _ _ second inside.1 same
      exact named Sym2.eq_swap

theorem assign_represents (maps : TriggerMaps) (table : PairTable) (row : TriggerRow)
    (inside : row.Inside) (represents : Represents maps table) :
    Represents (maps.assign row.first row.second row.type.letter) (table.enter row) := by
  have coincidence : (decide (row.type.letter = 'C') : Bool) = (row.type = .coincidence : Bool) := by
    cases row.type <;> rfl
  have multihit : (decide (row.type.letter = 'M') : Bool) = (row.type = .multihit : Bool) := by
    cases row.type <;> rfl
  constructor
  · rw [TriggerMaps.assign, coincidence]
    exact assignPair_marks _ _ _ row inside represents.coincidence
  · rw [TriggerMaps.assign, multihit]
    exact assignPair_marks _ _ _ row inside represents.multihit

theorem new_represents : Represents newTriggerMaps fun _ => none :=
  ⟨fun _ _ _ _ => rfl, fun _ _ _ _ => rfl⟩

end Arrays

section Lines

def TriggerRow.Scanned (row : TriggerRow) : Prop := row.first < 2 ^ 31 ∧ row.second < 2 ^ 31

theorem letter_word (type : TriggerType) : Word [type.letter] := by
  cases type
  · exact ⟨List.cons_ne_nil _ _, List.forall_mem_singleton.mpr rfl⟩
  · exact ⟨List.cons_ne_nil _ _, List.forall_mem_singleton.mpr rfl⟩

theorem skipSpace_letter (type : TriggerType) : skipSpace [type.letter] = [type.letter] :=
  skipSpace_token _ (letter_word type)

theorem letter_cell (type : TriggerType) : Cell [type.letter] where
  word := by
    rw [skipSpace_letter]
    exact letter_word type
  plain := by
    cases type
    · exact List.forall_mem_singleton.mpr (by decide)
    · exact List.forall_mem_singleton.mpr (by decide)
  short := by
    rw [List.length_singleton]
    decide

theorem row_cells (row : TriggerRow) (scanned : row.Scanned) : ∀ cell ∈ row.cells, Cell cell := by
  obtain ⟨first, second⟩ := scanned
  intro cell member
  simp only [TriggerRow.cells, List.mem_cons, List.not_mem_nil, or_false] at member
  rcases member with rfl | rfl | rfl
  · exact decimal_cell _ (by omega)
  · exact decimal_cell _ (by omega)
  · exact letter_cell _

theorem row_line (row : TriggerRow) (scanned : row.Scanned) : Line row.line :=
  cells_line _ _ (decimal_word _) (row_cells row scanned)

theorem toInt_decimal (n : Nat) (small : n < 2 ^ 31) : toInt (false, n) = n :=
  toInt_written (false, n) (Int.natCast_nonneg n) (by
    have fits : (n : Int) < 2 ^ 31 := by exact_mod_cast small
    exact fits)

theorem scanTrigger_row (row : TriggerRow) (scanned : row.Scanned) :
    scanTrigger row.line = some ((row.first : Int), (row.second : Int), row.type.letter) := by
  obtain ⟨first, second⟩ := scanned
  have fields : scanTrigger row.line =
      some (toInt (false, row.first), toInt (false, row.second), row.type.letter) := by
    rw [scanTrigger, TriggerRow.line, TriggerRow.cells, scanField_tabbed _ _ _ (decimal_word _)]
    simp only [Option.bind_eq_bind, Option.bind_some]
    rw [scanField_tabbed _ _ _ (letter_word _)]
    rfl
  rw [fields, toInt_decimal _ first, toInt_decimal _ second]

theorem normalizeLine_row (row : TriggerRow) (scanned : row.Scanned) :
    normalizeLine row.line = row.line := by
  rw [TriggerRow.line, TriggerRow.cells,
    normalizeLine_cells _ _ (decimal_word _) (row_cells row scanned), List.map_cons, List.map_cons,
    List.map_cons, List.map_nil, skipSpace_decimal, skipSpace_decimal,
    skipSpace_letter]

theorem loadTriggerLine_row (count : Nat) (maps : TriggerMaps) (row : TriggerRow)
    (scanned : row.Scanned) :
    loadTriggerLine (count, maps) row.line =
      if row.Inside then .ok (count + 1, maps.assign row.first row.second row.type.letter)
      else .error (.region (count + 1)) := by
  have fits : ¬ pathMax ≤ row.line.length := by
    have length : row.line.length ≤ 15 * row.cells.length :=
      tabbed_length row.cells fun cell member => (row_cells row scanned cell member).short
    have few : 15 * row.cells.length < pathMax := (by decide : 15 * 3 < pathMax)
    omega
  have outside : ((row.first : Int) < 0 ∨ (maxTriggerRegions : Int) ≤ row.first ∨
      (row.second : Int) < 0 ∨ (maxTriggerRegions : Int) ≤ row.second) ↔ ¬ row.Inside := by
    unfold TriggerRow.Inside
    omega
  have upper : row.type.letter.toUpper = row.type.letter := by cases row.type <;> rfl
  have known : ¬ (row.type.letter ≠ 'M' ∧ row.type.letter ≠ 'C') := by
    cases row.type <;> simp [TriggerType.letter]
  rw [loadTriggerLine, if_neg fits]
  dsimp only
  rw [normalizeLine_row row scanned, if_neg (row_line row scanned).nonempty,
    scanTrigger_row row scanned]
  dsimp only
  by_cases inside : row.Inside
  · rw [if_pos inside, if_neg (fun out => outside.mp out inside), upper, if_neg known,
      Int.toNat_natCast, Int.toNat_natCast]
  · rw [if_neg inside, if_pos (outside.mpr inside)]

end Lines

section Files

theorem triggerText_lines (rows : List TriggerRow) (scanned : ∀ row ∈ rows, row.Scanned) :
    linesOf (triggerText rows) = rows.map TriggerRow.line := by
  have lines := linesOf_printed (rows.map TriggerRow.line)
    (List.forall_mem_map.mpr fun row member => row_line row (scanned row member))
  rw [List.flatMap_map] at lines
  exact lines.1

theorem lines_represent (rows : List TriggerRow) (scanned : ∀ row ∈ rows, row.Scanned)
    (inside : ∀ row ∈ rows, row.Inside) (count : Nat) (maps : TriggerMaps) (table : PairTable)
    (represents : Represents maps table) :
    ∃ after, (rows.map TriggerRow.line).foldlM loadTriggerLine (count, maps) = .ok after ∧
      Represents after.2 (rows.foldl PairTable.enter table) := by
  induction rows generalizing count maps table with
  | nil => exact ⟨(count, maps), rfl, represents⟩
  | cons row rest ih =>
      obtain ⟨readFirst, readRest⟩ := List.forall_mem_cons.mp scanned
      obtain ⟨firstInside, restInside⟩ := List.forall_mem_cons.mp inside
      obtain ⟨after, loaded, represented⟩ := ih readRest restInside (count + 1) _ _
        (assign_represents maps table row firstInside represents)
      refine ⟨after, ?_, represented⟩
      rw [List.map_cons, List.foldlM_cons, loadTriggerLine_row count maps row readFirst,
        if_pos firstInside]
      exact loaded

theorem lines_refused (rows : List TriggerRow) (scanned : ∀ row ∈ rows, row.Scanned)
    (row : TriggerRow) (member : row ∈ rows) (outside : ¬ row.Inside) (count : Nat)
    (maps : TriggerMaps) :
    ∃ lineNumber, (rows.map TriggerRow.line).foldlM loadTriggerLine (count, maps) =
      .error (.region lineNumber) := by
  induction rows generalizing count maps with
  | nil => cases member
  | cons first rest ih =>
      obtain ⟨readFirst, readRest⟩ := List.forall_mem_cons.mp scanned
      rw [List.map_cons, List.foldlM_cons, loadTriggerLine_row count maps first readFirst]
      by_cases firstInside : first.Inside
      · rw [if_pos firstInside]
        rcases List.mem_cons.mp member with rfl | later
        · exact absurd firstInside outside
        · exact ih readRest later (count + 1) _
      · rw [if_neg firstInside]
        exact ⟨count + 1, rfl⟩

theorem enter_agreed (agreed : Sym2 Nat → TriggerType) (rows : List TriggerRow)
    (agree : ∀ row ∈ rows, row.type = agreed row.pair) (table : PairTable) (pair : Sym2 Nat) :
    rows.foldl PairTable.enter table pair =
      if pair ∈ rows.map TriggerRow.pair then some (agreed pair) else table pair := by
  induction rows generalizing table with
  | nil => rfl
  | cons row rest ih =>
      obtain ⟨first, others⟩ := List.forall_mem_cons.mp agree
      rw [List.foldl_cons, ih others, List.map_cons]
      by_cases later : pair ∈ rest.map TriggerRow.pair
      · rw [if_pos later, if_pos (List.mem_cons_of_mem _ later)]
      · rw [if_neg later, PairTable.enter, Function.update_apply, first]
        by_cases here : pair = row.pair
        · rw [if_pos here, if_pos (here ▸ List.mem_cons_self), here]
        · rw [if_neg here, if_neg]
          intro member
          exact (List.mem_cons.mp member).elim here later

/-- A file of printed lines is loaded exactly if all regions have their elements,
and then the arrays stand for the table of its lines. -/
theorem file_loaded_iff (rows : List TriggerRow) (scanned : ∀ row ∈ rows, row.Scanned) :
    (∃ maps, loadTriggerMap newTriggerMaps (triggerText rows) = .ok maps) ↔
      ∀ row ∈ rows, row.Inside := by
  rw [loadTriggerMap, triggerText_lines rows scanned]
  constructor
  · rintro ⟨maps, loaded⟩ row member
    by_contra outside
    obtain ⟨lineNumber, refused⟩ := lines_refused rows scanned row member outside 0 newTriggerMaps
    rw [refused] at loaded
    cases loaded
  · intro inside
    obtain ⟨after, loaded, _⟩ := lines_represent rows scanned inside 0 _ _ new_represents
    exact ⟨after.2, by rw [loaded]; rfl⟩

theorem file_represents (rows : List TriggerRow) (scanned : ∀ row ∈ rows, row.Scanned)
    (maps : TriggerMaps) (loaded : loadTriggerMap newTriggerMaps (triggerText rows) = .ok maps) :
    Represents maps (rows.foldl PairTable.enter fun _ => none) := by
  have inside := (file_loaded_iff rows scanned).mp ⟨maps, loaded⟩
  obtain ⟨after, lines, represented⟩ := lines_represent rows scanned inside 0 _ _ new_represents
  rw [loadTriggerMap, triggerText_lines rows scanned, lines] at loaded
  cases loaded
  exact represented

theorem represents_allowed (maps : TriggerMaps) (table : PairTable)
    (represents : Represents maps table) (r1 r2 : Nat) (first : r1 < maxTriggerRegions)
    (second : r2 < maxTriggerRegions) :
    maps.isMultiHitAllowed r1 r2 = some (decide (table s(r1, r2) = some .multihit)) ∧
      maps.isCoincidenceAllowed r1 r2 = some (decide (table s(r1, r2) = some .coincidence)) := by
  rw [TriggerMaps.isMultiHitAllowed, TriggerMaps.isCoincidenceAllowed,
    allowed_inside _ r1 r2 first second, allowed_inside _ r1 r2 first second,
    represents.multihit r1 first r2 second, represents.coincidence r1 first r2 second]
  exact ⟨rfl, rfl⟩

end Files

end GramsTof.TriggerMap
