import GramsTof.TableLoaders

/-!
`writeCalibrationTable` of the TDC and of the QDC calibration, and what
`SystemConfig` makes of their files. How `%8.7e` prints a number is an argument.
-/

namespace GramsTof.CalibrationTable

open PaddedDigits ScanText ConfigTables TableLoaders

variable {Number Coefficients : Type}

def maxNAsic : Nat := 32 * 32 * 64
def maxNTac : Nat := maxNAsic * 64 * 2 * 4
def maxNQac : Nat := maxNAsic * 64 * 4

structure CalibrationEntry (Coefficients : Type) where
  valid : Bool
  coefficients : Coefficients
  deriving DecidableEq, Repr

structure Fields where
  portID : Fin 32
  slaveID : Fin 32
  chipID : Fin 64
  channelID : Fin 64
  tacID : Fin 4
  deriving DecidableEq, Repr

def tdcFields (gid : Nat) : Fields :=
  { tacID := Fin.ofNat 4 (gid >>> 1)
    channelID := Fin.ofNat 64 (gid >>> 3)
    chipID := Fin.ofNat 64 (gid >>> 9)
    slaveID := Fin.ofNat 32 (gid >>> 15)
    portID := Fin.ofNat 32 (gid >>> 20) }

def qdcFields (gid : Nat) : Fields :=
  { tacID := Fin.ofNat 4 (gid >>> 0)
    channelID := Fin.ofNat 64 (gid >>> 2)
    chipID := Fin.ofNat 64 (gid >>> 8)
    slaveID := Fin.ofNat 32 (gid >>> 14)
    portID := Fin.ofNat 32 (gid >>> 19) }

def bStr (gid : Nat) : Char := if gid % 2 = 0 then 'T' else 'E'

def Fields.cells (fields : Fields) : List Text :=
  [decimal fields.portID, decimal fields.slaveID, decimal fields.chipID, decimal fields.channelID,
    decimal fields.tacID]

def tdcCells (print : Number → Text) (gid : Nat) (entry : TacConfig Number) : List Text :=
  (tdcFields gid).cells ++
    [[bStr gid], print entry.t0, print entry.a0, print entry.a1, print entry.a2]

def qdcCells (print : Number → Text) (gid : Nat) (entry : QacConfig Number) : List Text :=
  (qdcFields gid).cells ++
    [print entry.p0, print entry.p1, print entry.p2, print entry.p3, print entry.p4,
      print entry.p5, print entry.p6, print entry.p7, print entry.p8, print entry.p9]

/-- The header and a line for each valid entry. -/
def writeTable (header : Text) (cells : Nat → Coefficients → List Text) {count : Nat}
    (calibrationTable : Fin count → CalibrationEntry Coefficients) : Text :=
  let written : List (Fin count) :=
    (List.finRange count).filter fun gid => (calibrationTable gid).valid
  header ++ '\n' :: written.flatMap fun (gid : Fin count) =>
    tabbed (cells gid (calibrationTable gid).coefficients) ++ ['\n']

def tdcHeader : Text :=
  "# portID\tslaveID\tchipID\tchannelID\ttacID\tbranch\tt0\ta0\ta1\ta2".toList

def qdcHeader : Text :=
  "# portID\tslaveID\tchipID\tchannelID\ttacID\tp0\tp1\tp2\tp3\tp4\tp5\tp6\tp7\tp8".toList

def writeTDCCalibrationTable (print : Number → Text)
    (calibrationTable : Fin maxNTac → CalibrationEntry (TacConfig Number)) : Text :=
  writeTable tdcHeader (tdcCells print) calibrationTable

def writeQDCCalibrationTable (print : Number → Text)
    (calibrationTable : Fin maxNQac → CalibrationEntry (QacConfig Number)) : Text :=
  writeTable qdcHeader (qdcCells print) calibrationTable

/-- What `%8.7e` prints is blanks and a token, and `%f` reads the token as the
number it denotes. -/
structure Prints (print : Number → Text) (scanFloat : ScanFloat Number)
    (denoted : Number → Number) : Prop where
  padded : ∀ x, ∀ c ∈ (print x).takeWhile isSpace, c = ' '
  plain : ∀ x, ∀ c ∈ skipSpace (print x), c ≠ '#' ∧ c ≠ '\x00'
  reads : ∀ x, Reads scanFloat (skipSpace (print x)) (denoted x)
  short : ∀ x, (print x).length ≤ 14

section Normalized

theorem squeeze_solid (token rest : Text) (solid : ∀ c ∈ token, isSpace c = false) :
    squeeze false (token ++ rest) = token ++ squeeze false rest := by
  induction token with
  | nil => rfl
  | cons c token ih =>
      obtain ⟨first, later⟩ := List.forall_mem_cons.mp solid
      rw [List.cons_append, squeeze, if_neg (by rw [first]; decide), ih later]
      rfl

theorem squeeze_word (inside : Bool) (token rest : Text) (word : Word token) :
    squeeze inside (token ++ rest) = token ++ squeeze false rest := by
  obtain ⟨some, solid⟩ := word
  cases token with
  | nil => exact absurd rfl some
  | cons c token =>
      obtain ⟨first, later⟩ := List.forall_mem_cons.mp solid
      rw [List.cons_append, squeeze, if_neg (by rw [first]; decide), squeeze_solid _ _ later]
      rfl

theorem squeeze_blanks (blanks rest : Text) (space : ∀ c ∈ blanks, isSpace c = true) :
    squeeze true (blanks ++ rest) = squeeze true rest := by
  induction blanks with
  | nil => rfl
  | cons c blanks ih =>
      obtain ⟨first, later⟩ := List.forall_mem_cons.mp space
      rw [List.cons_append, squeeze, if_pos first, if_pos rfl, ih later]

theorem squeeze_cells (cells : List Text) (words : ∀ cell ∈ cells, Word (skipSpace cell)) :
    squeeze false (cells.flatMap fun cell => '\t' :: cell) =
      (cells.map skipSpace).flatMap fun token => '\t' :: token := by
  induction cells with
  | nil => rfl
  | cons cell rest ih =>
      obtain ⟨word, others⟩ := List.forall_mem_cons.mp words
      have split : cell.takeWhile isSpace ++ skipSpace cell = cell :=
        List.takeWhile_append_dropWhile
      have blanks : ∀ c ∈ cell.takeWhile isSpace, isSpace c = true :=
        fun c member => List.mem_takeWhile_imp member
      have printed (more : Text) : squeeze true (cell ++ more) = skipSpace cell ++ squeeze false more :=
        calc squeeze true (cell ++ more)
            = squeeze true (cell.takeWhile isSpace ++ (skipSpace cell ++ more)) := by
              rw [← List.append_assoc, split]
          _ = squeeze true (skipSpace cell ++ more) := squeeze_blanks _ _ blanks
          _ = skipSpace cell ++ squeeze false more := squeeze_word true _ _ word
      rw [List.flatMap_cons, List.map_cons, List.flatMap_cons, List.cons_append, squeeze,
        if_pos (by decide), if_neg (by decide), printed, ih others]
      rfl

theorem trimEnd_word (front token : Text) (word : Word token) :
    trimEnd (front ++ token) = front ++ token := by
  rw [trimEnd, List.rdropWhile_eq_self_iff]
  intro some
  rw [List.getLast_append_of_ne_nil _ word.1, word.2 _ (List.getLast_mem word.1)]
  decide

theorem tabbed_ends (first : Text) (cells : List Text) (word : Word first)
    (words : ∀ cell ∈ cells, Word (skipSpace cell)) :
    ∃ front token, tabbed (first :: cells) = front ++ token ∧ Word token := by
  rcases List.eq_nil_or_concat cells with rfl | ⟨cells, last, rfl⟩
  · exact ⟨[], first, by rw [tabbed, List.flatMap_nil, List.append_nil]; rfl, word⟩
  · rw [List.concat_eq_append] at words ⊢
    have split : last.takeWhile isSpace ++ skipSpace last = last :=
      List.takeWhile_append_dropWhile
    refine ⟨first ++ (cells.flatMap fun cell => '\t' :: cell) ++ '\t' :: last.takeWhile isSpace,
      skipSpace last, ?_, words last (List.mem_append_right _ List.mem_cons_self)⟩
    rw [tabbed, List.flatMap_append, List.flatMap_singleton,
      List.append_assoc, List.append_assoc, List.cons_append, split]

theorem tabbed_forall (good : Char → Prop) (tab : good '\t') (cells : List Text)
    (each : ∀ cell ∈ cells, ∀ c ∈ cell, good c) : ∀ c ∈ tabbed cells, good c := by
  intro c member
  cases cells with
  | nil => cases member
  | cons first rest =>
      rcases List.mem_append.mp member with inFirst | inRest
      · exact each first List.mem_cons_self c inFirst
      · obtain ⟨cell, memberCell, inCell⟩ := List.mem_flatMap.mp inRest
        rcases List.mem_cons.mp inCell with rfl | inside
        · exact tab
        · exact each cell (List.mem_cons_of_mem _ memberCell) c inside

/-- A printed line keeps its fields, without the blanks in front of them. -/
theorem normalizeLine_tabbed (first : Text) (cells : List Text) (word : Word first)
    (words : ∀ cell ∈ cells, Word (skipSpace cell))
    (plain : ∀ cell ∈ first :: cells, ∀ c ∈ cell, c ≠ '\x00' ∧ c ≠ '\r' ∧ c ≠ '#') :
    normalizeLine (tabbed (first :: cells)) = tabbed (first :: cells.map skipSpace) := by
  have clean := tabbed_forall (fun c => c ≠ '\x00' ∧ c ≠ '\r' ∧ c ≠ '#') (by decide) _ plain
  have whole : (tabbed (first :: cells)).takeWhile (· ≠ '\x00') = tabbed (first :: cells) :=
    List.takeWhile_eq_self_iff.mpr fun c member => decide_eq_true (clean c member).1
  have returns : (tabbed (first :: cells)).filter (· ≠ '\r') = tabbed (first :: cells) :=
    List.filter_eq_self.mpr fun c member => decide_eq_true (clean c member).2.1
  have comment : '#' ∉ tabbed (first :: cells) := fun member => (clean '#' member).2.2 rfl
  obtain ⟨front, token, ends, last⟩ := tabbed_ends first cells word words
  rw [normalizeLine, whole, returns, eraseComment, if_neg comment]
  have begins : skipSpace (tabbed (first :: cells)) = tabbed (first :: cells) :=
    skipSpace_word first _ word
  rw [begins, ends, trimEnd_word front token last, ← ends, tabbed, squeeze_word _ _ _ word,
    squeeze_cells cells words]
  rfl

theorem tabbed_length (cells : List Text) (short : ∀ cell ∈ cells, cell.length ≤ 14) :
    (tabbed cells).length ≤ 15 * cells.length := by
  have rest (cells : List Text) (short : ∀ cell ∈ cells, cell.length ≤ 14) :
      (cells.flatMap fun cell => '\t' :: cell).length ≤ 15 * cells.length := by
    induction cells with
    | nil => exact Nat.zero_le _
    | cons cell cells ih =>
        obtain ⟨one, others⟩ := List.forall_mem_cons.mp short
        have more := ih others
        rw [List.flatMap_cons, List.length_append, List.length_cons, List.length_cons]
        omega
  cases cells with
  | nil => exact Nat.zero_le _
  | cons first cells =>
      obtain ⟨one, others⟩ := List.forall_mem_cons.mp short
      have more := rest cells others
      rw [tabbed, List.length_append, List.length_cons]
      omega

end Normalized

/-- The place in the tables of a line with these fields. -/
def Fields.index (fields : Fields) : Index :=
  { high := ⟨fields.portID * 32 + fields.slaveID, by
      have port := fields.portID.isLt
      have slave := fields.slaveID.isLt
      unfold pathMax
      omega⟩
    low := ⟨fields.chipID * 64 + fields.channelID, by
      have chip := fields.chipID.isLt
      have channel := fields.channelID.isLt
      omega⟩ }

def Fields.named (fields : Fields) : Named :=
  ⟨fields.portID, fields.slaveID, fields.chipID, fields.channelID, fields.tacID⟩

theorem named_inRange (fields : Fields) : Named.InRange fields.named := by
  obtain ⟨port, slave, chip, channel, tac⟩ := fields
  constructor
  all_goals
    dsimp only [Fields.named]
    omega

theorem index_named (fields : Fields) :
    (fields.index.channelID : Int) = Named.channel fields.named := by
  dsimp only [Index.channelID, Fields.index, Named.channel, Fields.named]
  push_cast
  ring

structure Row (Number : Type) where
  line : Text
  fields : Fields
  write : Write Number

def Row.place (row : Row Number) : Place :=
  ⟨row.fields.index, Write.part row.write row.fields.tacID⟩

/-- The line is taken from the file as it was printed, and all its fields are read. -/
structure Row.Printed (loader : Loader Number) (row : Row Number) : Prop where
  begins : ∀ rest, skipSpace (row.line ++ rest) = row.line ++ rest
  nonempty : row.line ≠ []
  whole : '\n' ∉ row.line
  short : row.line.length < loader.bufferSize
  accepted : ∃ entry, loader.accepted row.line = some entry ∧ Entry.Stored entry ∧
    entry.named = row.fields.named ∧ entry.write = row.write

section Rows
variable (loader : Loader Number)

theorem row_loaded (config : SystemConfig Number) (row : Row Number)
    (printed : row.Printed loader) :
    ∃ next, loader.loadLine config row.line = some next ∧
      Write.Holds row.write row.fields.tacID (next.getChannelConfig row.fields.index) ∧
      ∀ place, place ≠ row.place → place.Same config next := by
  obtain ⟨entry, accepted, stored, named, write⟩ := printed.accepted
  obtain ⟨index, tacID, inside, number, tac, same⟩ :=
    inRange_reached entry stored (named ▸ named_inRange row.fields)
  have here : index = row.fields.index := by
    apply channelID_injective
    rw [named, ← index_named] at number
    exact_mod_cast number
  have tacs : tacID = row.fields.tacID := by
    rw [named] at tac
    exact Fin.ext (Int.ofNat.inj tac)
  subst here tacs
  obtain ⟨channel, applied, frame⟩ :=
    apply_inside row.write row.fields.tacID (config.getChannelConfig row.fields.index)
  refine ⟨(config.touchChannelConfig row.fields.index).setChannelConfig row.fields.index channel,
    ?_, ?_, ?_⟩
  · rw [loadLine_used loader config row.line printed.short entry accepted _ inside, write, ← same,
      applied]
    rfl
  · rw [get_set_touch, if_pos rfl]
    exact apply_holds _ _ _ _ applied
  · rintro ⟨other, part⟩ elsewhere
    rw [Place.Same, get_set_touch]
    by_cases there : other = row.fields.index
    · subst there
      rw [if_pos rfl]
      apply frame
      intro samePart
      dsimp only at samePart
      apply elsewhere
      rw [Row.place, samePart]
    · rw [if_neg there]
      exact same_refl _ _

theorem holds_kept (write : Write Number) (tacID : Fin 4) (before after : ChannelConfig Number)
    (same : (Write.part write tacID).Same before after) (held : Write.Holds write tacID before) :
    Write.Holds write tacID after := by
  cases write with
  | tac_T tac => exact held.imp fun _ value => Eq.trans same value
  | tac_E tac => exact held.imp fun _ value => Eq.trans same value
  | qac_Q qac => exact held.imp fun _ value => Eq.trans same value
  | eCal energy => exact held.imp fun _ value => Eq.trans same value
  | timeOffset t0 => exact Eq.trans same held
  | mapping position => exact Eq.trans same held

theorem rows_loaded (rows : List (Row Number)) (printed : ∀ row ∈ rows, row.Printed loader)
    (apart : rows.Pairwise fun row other => row.place ≠ other.place)
    (config : SystemConfig Number) :
    ∃ after, (rows.map Row.line).foldlM loader.loadLine config = some after ∧
      (∀ row ∈ rows,
        Write.Holds row.write row.fields.tacID (after.getChannelConfig row.fields.index)) ∧
      ∀ place : Place, (∀ row ∈ rows, place ≠ row.place) → place.Same config after := by
  induction rows generalizing config with
  | nil =>
      refine ⟨config, rfl, ?_, fun place _ => same_refl _ _⟩
      intro row member
      cases member
  | cons row rest ih =>
      obtain ⟨first, others⟩ := List.forall_mem_cons.mp printed
      obtain ⟨different, later⟩ := List.pairwise_cons.mp apart
      obtain ⟨next, loaded, held, frame⟩ := row_loaded loader config row first
      obtain ⟨after, rested, hold, frames⟩ := ih others later next
      refine ⟨after, ?_, ?_, ?_⟩
      · rw [List.map_cons, List.foldlM_cons, loaded]
        exact rested
      · intro other member
        rcases List.mem_cons.mp member with rfl | inRest
        · exact holds_kept _ _ _ _ (frames other.place different) held
        · exact hold other inRest
      · intro place elsewhere
        obtain ⟨notFirst, notRest⟩ := List.forall_mem_cons.mp elsewhere
        exact same_trans _ _ _ _ (frame place notFirst) (frames place notRest)

theorem linesOf_rows (rows : List (Row Number)) (printed : ∀ row ∈ rows, row.Printed loader) :
    linesOf (rows.flatMap fun row => row.line ++ ['\n']) = rows.map Row.line ∧
      skipSpace (rows.flatMap fun row => row.line ++ ['\n']) =
        rows.flatMap fun row => row.line ++ ['\n'] := by
  have lines : ∀ line ∈ rows.map Row.line, Line line :=
    List.forall_mem_map.mpr fun row member =>
      ⟨(printed row member).begins, (printed row member).nonempty, (printed row member).whole⟩
  have taken := linesOf_printed (rows.map Row.line) lines
  rwa [List.flatMap_map] at taken

theorem file_loaded (header : Text) (nonempty : header ≠ []) (whole : '\n' ∉ header)
    (short : header.length < loader.bufferSize) (skipped : loader.accepted header = none)
    (rows : List (Row Number)) (printed : ∀ row ∈ rows, row.Printed loader)
    (config : SystemConfig Number) :
    loader.load config (header ++ '\n' :: rows.flatMap fun row => row.line ++ ['\n']) =
      (rows.map Row.line).foldlM loader.loadLine config := by
  obtain ⟨lines, begins⟩ := linesOf_rows loader rows printed
  rw [Loader.load, linesOf_cons _ _ nonempty whole begins, lines, List.foldlM_cons,
    loadLine_skipped loader config header short skipped]
  rfl

end Rows

/-! The lines of the two calibrations -/

def TacConfig.map (f : Number → Number) (tac : TacConfig Number) : TacConfig Number :=
  ⟨f tac.t0, f tac.a0, f tac.a1, f tac.a2⟩

def QacConfig.map (f : Number → Number) (qac : QacConfig Number) : QacConfig Number :=
  ⟨f qac.p0, f qac.p1, f qac.p2, f qac.p3, f qac.p4, f qac.p5, f qac.p6, f qac.p7, f qac.p8,
    f qac.p9⟩

def tdcRow (print : Number → Text) (denoted : Number → Number) (gid : Nat)
    (entry : TacConfig Number) : Row Number :=
  { line := tabbed (tdcCells print gid entry)
    fields := tdcFields gid
    write :=
      if bStr gid = 'T' then .tac_T (TacConfig.map denoted entry)
      else .tac_E (TacConfig.map denoted entry) }

def qdcRow (print : Number → Text) (denoted : Number → Number) (gid : Nat)
    (entry : QacConfig Number) : Row Number :=
  { line := tabbed (qdcCells print gid entry)
    fields := qdcFields gid
    write := .qac_Q (QacConfig.map denoted entry) }

section Cells
variable {print : Number → Text} {scanFloat : ScanFloat Number} {denoted : Number → Number}
variable (prints : Prints print scanFloat denoted)

structure Cell (cell : Text) : Prop where
  word : Word (skipSpace cell)
  plain : ∀ c ∈ cell, c ≠ '\x00' ∧ c ≠ '\r' ∧ c ≠ '#' ∧ c ≠ '\n'
  short : cell.length ≤ 14

include prints in
theorem printed_cell (x : Number) : Cell (print x) := by
  refine ⟨(prints.reads x).1, ?_, prints.short x⟩
  intro c member
  rw [← List.takeWhile_append_dropWhile (p := isSpace) (l := print x)] at member
  rcases List.mem_append.mp member with blank | solid
  · rw [prints.padded x c blank]
    decide
  · have spaceless := (prints.reads x).1.2 c solid
    obtain ⟨comment, null⟩ := prints.plain x c solid
    refine ⟨null, ?_, comment, ?_⟩
    · rintro rfl
      cases spaceless
    · rintro rfl
      cases spaceless

theorem skipSpace_token (token : Text) (word : Word token) : skipSpace token = token := by
  have whole := skipSpace_word token [] word
  rwa [List.append_nil] at whole

theorem decimal_cell (n : Nat) (small : n < 10 ^ 14) : Cell (decimal n) := by
  refine ⟨?_, ?_, ?_⟩
  · rw [skipSpace_token _ (decimal_word n)]
    exact decimal_word n
  · intro c member
    have digit := decimal_digits n c member
    refine ⟨?_, ?_, ?_, ?_⟩
    all_goals
      rintro rfl
      cases digit
  · have longest : (decimal (10 ^ 14 - 1)).length = 14 := by decide
    have length := decimal_length_mono n (10 ^ 14 - 1) (by omega)
    omega

theorem cells_line (first : Text) (cells : List Text) (word : Word first)
    (each : ∀ cell ∈ first :: cells, Cell cell) : Line (tabbed (first :: cells)) where
  begins := by
    intro rest
    rw [tabbed, List.append_assoc]
    exact skipSpace_word first _ word
  nonempty := List.append_ne_nil_of_left_ne_nil word.1 _
  whole := by
    intro newline
    exact tabbed_forall (fun c => c ≠ '\n') (by decide) _
      (fun cell member c inCell => ((each cell member).plain c inCell).2.2.2) _ newline rfl

theorem normalizeLine_cells (first : Text) (cells : List Text) (word : Word first)
    (each : ∀ cell ∈ first :: cells, Cell cell) :
    normalizeLine (tabbed (first :: cells)) = tabbed ((first :: cells).map skipSpace) := by
  rw [normalizeLine_tabbed first cells word, List.map_cons, skipSpace_token first word]
  · exact fun cell member => (each cell (List.mem_cons_of_mem _ member)).word
  · intro cell member c inCell
    obtain ⟨null, back, comment, _⟩ := (each cell member).plain c inCell
    exact ⟨null, back, comment⟩

theorem fields_cells (fields : Fields) : ∀ cell ∈ fields.cells, Cell cell := by
  obtain ⟨port, slave, chip, channel, tac⟩ := fields
  intro cell member
  simp only [Fields.cells, List.mem_cons, List.not_mem_nil, or_false] at member
  rcases member with rfl | rfl | rfl | rfl | rfl
  all_goals
    apply decimal_cell
    omega

theorem branch_cell (gid : Nat) : Cell [bStr gid] := by
  unfold bStr
  split_ifs
  all_goals
    constructor
    · exact ⟨List.cons_ne_nil _ _, List.forall_mem_singleton.mpr rfl⟩
    · exact List.forall_mem_singleton.mpr (by decide)
    · decide

include prints in
theorem tdc_cells (gid : Nat) (entry : TacConfig Number) :
    ∀ cell ∈ tdcCells print gid entry, Cell cell := by
  intro cell member
  rcases List.mem_append.mp member with field | value
  · exact fields_cells _ cell field
  · simp only [List.mem_cons, List.not_mem_nil, or_false] at value
    rcases value with rfl | rfl | rfl | rfl | rfl
    · exact branch_cell gid
    all_goals exact printed_cell prints _

include prints in
theorem qdc_cells (gid : Nat) (entry : QacConfig Number) :
    ∀ cell ∈ qdcCells print gid entry, Cell cell := by
  intro cell member
  rcases List.mem_append.mp member with field | value
  · exact fields_cells _ cell field
  · simp only [List.mem_cons, List.not_mem_nil, or_false] at value
    rcases value with rfl | rfl | rfl | rfl | rfl | rfl | rfl | rfl | rfl | rfl
    all_goals exact printed_cell prints _

end Cells

section Scanned
variable {print : Number → Text} {scanFloat : ScanFloat Number} {denoted : Number → Number}
variable (prints : Prints print scanFloat denoted)

theorem skipSpace_decimal (n : Nat) : skipSpace (decimal n) = decimal n :=
  skipSpace_token _ (decimal_word n)

theorem branch_word (gid : Nat) : Word [bStr gid] := by
  have word := (branch_cell gid).word
  unfold bStr at word ⊢
  split_ifs at word ⊢ <;> exact word

theorem skipSpace_branch (gid : Nat) : skipSpace [bStr gid] = [bStr gid] :=
  skipSpace_token _ (branch_word gid)

include prints in
theorem printed_word (x : Number) :
    Word (skipSpace (print x)) := (prints.reads x).1

include prints in
theorem print_tabbed (x : Number) (second : Text)
    (rest : List Text) (word : Word second) :
    scanFloatField scanFloat (tabbed (skipSpace (print x) :: second :: rest)) =
      some (denoted x, tabbed (second :: rest)) :=
  scanFloatField_tabbed scanFloat _ _ (prints.reads x) second rest word

include prints in
theorem print_last (x : Number) :
    scanFloatField scanFloat (tabbed [skipSpace (print x)]) = some (denoted x, []) :=
  scanFloatField_last scanFloat _ _ (prints.reads x)

theorem map_bind {Source Target Result : Type} {source : Option Source} {value : Source}
    {next : Source → Option Target} {f : Target → Result} {result : Option Result}
    (found : source = some value) (rest : (next value).map f = result) :
    (source.bind next).map f = result := by
  rw [found, Option.bind_some, rest]

theorem cells_tokens (fields : Fields) : fields.cells.map skipSpace = fields.cells := by
  simp only [Fields.cells, List.map_cons, List.map_nil, skipSpace_decimal]

include prints in
theorem scanTDC_row (gid : Nat) (entry : TacConfig Number) :
    (scanTDC scanFloat (tabbed ((tdcCells print gid entry).map skipSpace))).map
        (fun entry => (entry.named, entry.write)) =
      some ((tdcFields gid).named, (tdcRow print denoted gid entry).write) := by
  rw [tdcCells, List.map_append, cells_tokens, List.map_cons, skipSpace_branch]
  iterate 4 refine map_bind (scanField_tabbed _ _ _ (decimal_word _)) ?_
  refine map_bind (scanField_tabbed _ _ _ (branch_word gid)) ?_
  refine map_bind (scanCharField_tabbed _ _ _ (printed_word prints _)) ?_
  iterate 3 refine map_bind (print_tabbed prints _ _ _ (printed_word prints _)) ?_
  exact map_bind (print_last prints _) rfl

include prints in
theorem scanQDC_row (gid : Nat) (entry : QacConfig Number) :
    (scanQDC scanFloat (tabbed ((qdcCells print gid entry).map skipSpace))).map
        (fun entry => (entry.named, entry.write)) =
      some ((qdcFields gid).named, (qdcRow print denoted gid entry).write) := by
  rw [qdcCells, List.map_append, cells_tokens]
  iterate 4 refine map_bind (scanField_tabbed _ _ _ (decimal_word _)) ?_
  refine map_bind (scanField_tabbed _ _ _ (printed_word prints _)) ?_
  iterate 9 refine map_bind (print_tabbed prints _ _ _ (printed_word prints _)) ?_
  exact map_bind (print_last prints _) rfl

theorem cells_printed (loader : Loader Number) (row : Row Number) (first : Text)
    (cells : List Text) (line : row.line = tabbed (first :: cells)) (word : Word first)
    (each : ∀ cell ∈ first :: cells, Cell cell) (few : cells.length < 20)
    (buffer : 300 < loader.bufferSize)
    (stored : ∀ entry, loader.accepted row.line = some entry → Entry.Stored entry)
    (scanned : (loader.scan (tabbed ((first :: cells).map skipSpace))).map
      (fun entry => (entry.named, entry.write)) = some (row.fields.named, row.write)) :
    row.Printed loader := by
  obtain ⟨entry, found, same⟩ := Option.map_eq_some_iff.mp scanned
  have normalized : normalizeLine row.line = tabbed ((first :: cells).map skipSpace) := by
    rw [line, normalizeLine_cells first cells word each]
  have printed : Line row.line := line ▸ cells_line first cells word each
  have some : tabbed ((first :: cells).map skipSpace) ≠ [] := by
    rw [List.map_cons, skipSpace_token first word, tabbed]
    exact List.append_ne_nil_of_left_ne_nil word.1 _
  refine ⟨printed.begins, printed.nonempty, printed.whole, ?_, entry, ?_, ?_, ?_, ?_⟩
  · have length := tabbed_length (first :: cells) fun cell member => (each cell member).short
    rw [List.length_cons] at length
    rw [line]
    omega
  · rw [Loader.accepted, normalized, if_neg some, found]
  · apply stored
    rw [Loader.accepted, normalized, if_neg some, found]
  · exact congrArg Prod.fst same
  · exact congrArg Prod.snd same

include prints in
theorem tdcRow_printed (gid : Nat) (entry : TacConfig Number) :
    (tdcRow print denoted gid entry).Printed (Table.tdcCalibration.loader scanFloat) := by
  apply cells_printed _ _ (decimal (tdcFields gid).portID) ((tdcCells print gid entry).drop 1) rfl
  · exact decimal_word _
  · exact tdc_cells prints gid entry
  · exact (by decide : 9 < 20)
  · exact (by decide : 300 < pathMax)
  · exact accepted_stored scanFloat _ .tdcCalibration
  · exact scanTDC_row prints gid entry

include prints in
theorem qdcRow_printed (gid : Nat) (entry : QacConfig Number) :
    (qdcRow print denoted gid entry).Printed (Table.qdcCalibration.loader scanFloat) := by
  apply cells_printed _ _ (decimal (qdcFields gid).portID) ((qdcCells print gid entry).drop 1) rfl
  · exact decimal_word _
  · exact qdc_cells prints gid entry
  · exact (by decide : 14 < 20)
  · exact (by decide : 300 < pathMax)
  · exact accepted_stored scanFloat _ .qdcCalibration
  · exact scanQDC_row prints gid entry

end Scanned

def tdcPlace (gid : Nat) : Place :=
  ⟨(tdcFields gid).index,
    if gid % 2 = 0 then .tac_T (tdcFields gid).tacID else .tac_E (tdcFields gid).tacID⟩

def qdcPlace (gid : Nat) : Place := ⟨(qdcFields gid).index, .qac_Q (qdcFields gid).tacID⟩

theorem index_fields (left right : Fields) (same : left.index = right.index) :
    left.portID = right.portID ∧ left.slaveID = right.slaveID ∧ left.chipID = right.chipID ∧
      left.channelID = right.channelID := by
  have high := congrArg (fun index => (index.high : Nat)) same
  have low := congrArg (fun index => (index.low : Nat)) same
  dsimp only [Fields.index] at high low
  have leftSlave := left.slaveID.isLt
  have rightSlave := right.slaveID.isLt
  have leftChannel := left.channelID.isLt
  have rightChannel := right.channelID.isLt
  refine ⟨Fin.ext ?_, Fin.ext ?_, Fin.ext ?_, Fin.ext ?_⟩ <;> omega

theorem tdc_number (gid : Nat) (inside : gid < maxNTac) :
    gid = (((((tdcFields gid).portID * 32 + (tdcFields gid).slaveID) * 64 +
      (tdcFields gid).chipID) * 64 + (tdcFields gid).channelID) * 4 +
        (tdcFields gid).tacID) * 2 + gid % 2 := by
  simp only [tdcFields, Fin.val_ofNat, Nat.shiftRight_eq_div_pow]
  simp only [maxNTac, maxNAsic] at inside
  omega

theorem qdc_number (gid : Nat) (inside : gid < maxNQac) :
    gid = ((((qdcFields gid).portID * 32 + (qdcFields gid).slaveID) * 64 +
      (qdcFields gid).chipID) * 64 + (qdcFields gid).channelID) * 4 + (qdcFields gid).tacID := by
  simp only [qdcFields, Fin.val_ofNat, Nat.shiftRight_eq_div_pow]
  simp only [maxNQac, maxNAsic] at inside
  omega

theorem tdcPlace_injective (left right : Fin maxNTac)
    (same : tdcPlace left = tdcPlace right) : left = right := by
  obtain ⟨port, slave, chip, channel⟩ := index_fields _ _ (congrArg Place.index same)
  have parts := congrArg Place.part same
  have rest : (tdcFields left).tacID = (tdcFields right).tacID ∧
      (left : Nat) % 2 = (right : Nat) % 2 := by
    dsimp only [tdcPlace] at parts
    split_ifs at parts with leftT rightT rightE
    · exact ⟨Part.tac_T.inj parts, by rw [leftT, rightT]⟩
    · exact ⟨Part.tac_E.inj parts, by omega⟩
  apply Fin.ext
  rw [tdc_number left left.isLt, tdc_number right right.isLt, port, slave, chip, channel, rest.1,
    rest.2]

theorem qdcPlace_injective (left right : Fin maxNQac)
    (same : qdcPlace left = qdcPlace right) : left = right := by
  obtain ⟨port, slave, chip, channel⟩ := index_fields _ _ (congrArg Place.index same)
  have tac := Part.qac_Q.inj (congrArg Place.part same)
  apply Fin.ext
  rw [qdc_number left left.isLt, qdc_number right right.isLt, port, slave, chip, channel, tac]

theorem bStr_eq_T (gid : Nat) : bStr gid = 'T' ↔ gid % 2 = 0 := by
  unfold bStr
  split_ifs with even
  · exact iff_of_true rfl even
  · exact iff_of_false (by decide) even

theorem tdcRow_place (print : Number → Text) (denoted : Number → Number) (gid : Nat)
    (entry : TacConfig Number) : (tdcRow print denoted gid entry).place = tdcPlace gid := by
  dsimp only [Row.place, tdcRow, tdcPlace]
  by_cases even : gid % 2 = 0
  · rw [if_pos even, if_pos ((bStr_eq_T gid).mpr even)]
    rfl
  · rw [if_neg even, if_neg (mt (bStr_eq_T gid).mp even)]
    rfl

/-- A written table sets the place of each valid entry, and no other. -/
theorem table_loaded (loader : Loader Number) (header : Text) (nonempty : header ≠ [])
    (whole : '\n' ∉ header) (short : header.length < loader.bufferSize)
    (skipped : loader.accepted header = none) {count : Nat}
    (cells : Nat → Coefficients → List Text) (row : Nat → Coefficients → Row Number)
    (place : Nat → Place) (line : ∀ gid entry, (row gid entry).line = tabbed (cells gid entry))
    (printed : ∀ gid entry, (row gid entry).Printed loader)
    (placed : ∀ gid entry, (row gid entry).place = place gid)
    (injective : ∀ left right : Fin count, place left = place right → left = right)
    (calibrationTable : Fin count → CalibrationEntry Coefficients)
    (config : SystemConfig Number) :
    ∃ after, loader.load config (writeTable header cells calibrationTable) = some after ∧
      (∀ gid, (calibrationTable gid).valid = true →
        Write.Holds (row gid (calibrationTable gid).coefficients).write
          (row gid (calibrationTable gid).coefficients).fields.tacID
          (after.getChannelConfig (place gid).index)) ∧
      ∀ other : Place, (∀ gid, (calibrationTable gid).valid = true → other ≠ place gid) →
        other.Same config after := by
  let written : List (Fin count) :=
    (List.finRange count).filter fun gid => (calibrationTable gid).valid
  have valid (gid : Fin count) : gid ∈ written ↔ (calibrationTable gid).valid = true := by
    rw [List.mem_filter]
    exact and_iff_right (List.mem_finRange gid)
  let rows := written.map fun (gid : Fin count) => row gid (calibrationTable gid).coefficients
  have text : writeTable header cells calibrationTable =
      header ++ '\n' :: rows.flatMap fun row => row.line ++ ['\n'] := by
    rw [writeTable, List.flatMap_map]
    simp only [line]
    rfl
  have rowsPrinted : ∀ row ∈ rows, row.Printed loader := by
    intro one member
    obtain ⟨gid, _, rfl⟩ := List.mem_map.mp member
    exact printed _ _
  have apart : rows.Pairwise fun one other => one.place ≠ other.place := by
    rw [List.pairwise_map]
    apply ((List.nodup_finRange count).filter _).imp
    intro left right differ same
    rw [placed, placed] at same
    exact differ (injective left right same)
  obtain ⟨after, loaded, hold, frame⟩ := rows_loaded loader rows rowsPrinted apart config
  refine ⟨after, ?_, ?_, ?_⟩
  · rw [text, file_loaded loader header nonempty whole short skipped rows rowsPrinted config]
    exact loaded
  · intro gid isValid
    rw [← placed gid (calibrationTable gid).coefficients]
    exact hold _ (List.mem_map.mpr ⟨gid, (valid gid).mpr isValid, rfl⟩)
  · intro other elsewhere
    apply frame
    intro one member
    obtain ⟨gid, inside, rfl⟩ := List.mem_map.mp member
    rw [placed]
    exact elsewhere gid ((valid gid).mp inside)

def Part.tac (part : TableLoaders.Part) (channel : ChannelConfig Number) :
    Option (TacConfig Number) :=
  match part with
  | .tac_T tacID => some (channel.tac_T tacID)
  | .tac_E tacID => some (channel.tac_E tacID)
  | _ => none

theorem tdc_holds (print : Number → Text) (denoted : Number → Number) (gid : Nat)
    (entry : TacConfig Number) (channel : ChannelConfig Number)
    (held : Write.Holds (tdcRow print denoted gid entry).write (tdcFields gid).tacID channel) :
    Part.tac (tdcPlace gid).part channel = some (TacConfig.map denoted entry) := by
  dsimp only [tdcRow, tdcPlace] at held ⊢
  by_cases even : gid % 2 = 0
  · rw [if_pos ((bStr_eq_T gid).mpr even)] at held
    rw [if_pos even]
    obtain ⟨_, value⟩ := held
    exact congrArg some value
  · rw [if_neg (mt (bStr_eq_T gid).mp even)] at held
    rw [if_neg even]
    obtain ⟨_, value⟩ := held
    exact congrArg some value

/-- The tables of both calibrations, written and loaded into a new configuration:
the place of each valid entry has its coefficients, and every other place is that
of the null entry. -/
theorem calibration_round_trip [Zero Number] (print : Number → Text)
    (scanFloat : ScanFloat Number) (denoted : Number → Number)
    (prints : Prints print scanFloat denoted)
    (tdcTable : Fin maxNTac → CalibrationEntry (TacConfig Number))
    (qdcTable : Fin maxNQac → CalibrationEntry (QacConfig Number)) :
    (∃ after, loadTDCCalibration scanFloat newSystemConfig
        (writeTDCCalibrationTable print tdcTable) = some after ∧
      (∀ gid, (tdcTable gid).valid = true →
        Part.tac (tdcPlace gid).part (after.getChannelConfig (tdcPlace gid).index) =
          some (TacConfig.map denoted (tdcTable gid).coefficients)) ∧
      ∀ place : Place, (∀ gid, (tdcTable gid).valid = true → place ≠ tdcPlace gid) →
        place.Same newSystemConfig after) ∧
    ∃ after, loadQDCCalibration scanFloat newSystemConfig
        (writeQDCCalibrationTable print qdcTable) = some after ∧
      (∀ gid, (qdcTable gid).valid = true →
        (after.getChannelConfig (qdcPlace gid).index).qac_Q (qdcFields gid).tacID =
          QacConfig.map denoted (qdcTable gid).coefficients) ∧
      ∀ place : Place, (∀ gid, (qdcTable gid).valid = true → place ≠ qdcPlace gid) →
        place.Same newSystemConfig after := by
  constructor
  · have skipped : (Table.tdcCalibration.loader scanFloat).accepted tdcHeader = none := by
      have empty : normalizeLine tdcHeader = [] := by decide +kernel
      rw [Loader.accepted, empty]
      rfl
    obtain ⟨after, loaded, hold, frame⟩ := table_loaded (Table.tdcCalibration.loader scanFloat)
      tdcHeader (by decide) (by decide) (by exact (by decide : tdcHeader.length < pathMax)) skipped
      (tdcCells print) (tdcRow print denoted) tdcPlace (fun _ _ => rfl) (tdcRow_printed prints)
      (tdcRow_place print denoted) tdcPlace_injective tdcTable newSystemConfig
    exact ⟨after, loaded, fun gid valid => tdc_holds print denoted gid _ _ (hold gid valid), frame⟩
  · have skipped : (Table.qdcCalibration.loader scanFloat).accepted qdcHeader = none := by
      have empty : normalizeLine qdcHeader = [] := by decide +kernel
      rw [Loader.accepted, empty]
      rfl
    obtain ⟨after, loaded, hold, frame⟩ := table_loaded (Table.qdcCalibration.loader scanFloat)
      qdcHeader (by decide) (by decide) (by exact (by decide : qdcHeader.length < pathMax)) skipped
      (qdcCells print) (qdcRow print denoted) qdcPlace (fun _ _ => rfl) (qdcRow_printed prints)
      (fun _ _ => rfl) qdcPlace_injective qdcTable newSystemConfig
    refine ⟨after, loaded, ?_, frame⟩
    intro gid valid
    obtain ⟨_, value⟩ := hold gid valid
    exact value

/-- Numbers of one digit, as `%8.7e` prints them. -/
def printDigit (n : Fin 10) : Text := Nat.digitChar n :: ".0000000e+00".toList

/-- `%f` on these. -/
def scanDigit : ScanFloat (Fin 10)
  | [] => none
  | first :: rest =>
      if first.isDigit = true ∧ rest.take 12 = ".0000000e+00".toList then
        some (Fin.ofNat 10 (first.toNat - 48), rest.drop 12)
      else none

theorem prints_digits : Prints printDigit scanDigit id where
  padded := by
    intro x c member
    have unpadded : ∀ x : Fin 10, (printDigit x).takeWhile isSpace = [] := by decide
    rw [unpadded] at member
    cases member
  plain := by
    intro x c member
    have plain : ∀ x : Fin 10,
        (skipSpace (printDigit x)).all (fun c => c ≠ '#' ∧ c ≠ '\x00') = true := by decide
    exact of_decide_eq_true (List.all_eq_true.mp (plain x) c member)
  reads := by
    intro x
    have solid : ∀ x : Fin 10, skipSpace (printDigit x) = printDigit x := by decide
    have spaceless : ∀ x : Fin 10, (printDigit x).all (fun c => !isSpace c) = true := by decide
    have digits : ∀ x : Fin 10, (Nat.digitChar x).isDigit = true ∧
        Fin.ofNat 10 ((Nat.digitChar x).toNat - 48) = x := by decide
    rw [solid]
    refine ⟨⟨List.cons_ne_nil _ _, fun c member => ?_⟩, ?_⟩
    · exact (Bool.not_eq_true' _).mp (List.all_eq_true.mp (spaceless x) c member)
    intro rest _
    rw [printDigit, List.cons_append, scanDigit, List.take_left' (by rfl),
      List.drop_left' (by rfl), if_pos ⟨(digits x).1, rfl⟩, (digits x).2]
    rfl
  short := by decide

/-- Both branches of a channel of port 2, slave 1, chip 3, and the last gid of all. -/
def tdcSample (gid : Fin maxNTac) : CalibrationEntry (TacConfig (Fin 10)) :=
  ⟨decide (gid.val = 2131500 ∨ gid.val = 2131501 ∨ gid.val = 33554431),
    ⟨Fin.ofNat 10 gid, 2, 3, 4⟩⟩

/-- A channel of port 1, slave 2, chip 4. -/
def qdcSample (gid : Fin maxNQac) : CalibrationEntry (QacConfig (Fin 10)) :=
  ⟨decide (gid.val = 558119), ⟨Fin.ofNat 10 gid, 8, 7, 6, 5, 4, 3, 2, 1, 0⟩⟩

theorem sample_places :
    tdcPlace 2131500 = ⟨Fields.index ⟨2, 1, 3, 5, 2⟩, .tac_T 2⟩ ∧
      tdcPlace 2131501 = ⟨Fields.index ⟨2, 1, 3, 5, 2⟩, .tac_E 2⟩ ∧
      tdcPlace 33554431 = ⟨Fields.index ⟨31, 31, 63, 63, 3⟩, .tac_E 3⟩ ∧
      qdcFields 558119 = ⟨1, 2, 4, 9, 3⟩ := by decide +kernel

/-- The T entry of the last channel was not written, and is null. -/
theorem calibration_round_trip_sample :
    (∃ after, loadTDCCalibration scanDigit newSystemConfig
        (writeTDCCalibrationTable printDigit tdcSample) = some after ∧
      (after.getChannelConfig (Fields.index ⟨2, 1, 3, 5, 2⟩)).tac_T 2 = ⟨0, 2, 3, 4⟩ ∧
      (after.getChannelConfig (Fields.index ⟨2, 1, 3, 5, 2⟩)).tac_E 2 = ⟨1, 2, 3, 4⟩ ∧
      (after.getChannelConfig (Fields.index ⟨31, 31, 63, 63, 3⟩)).tac_E 3 = ⟨1, 2, 3, 4⟩ ∧
      Place.Same (tdcPlace 33554430) newSystemConfig after) ∧
    ∃ after, loadQDCCalibration scanDigit newSystemConfig
        (writeQDCCalibrationTable printDigit qdcSample) = some after ∧
      (after.getChannelConfig (Fields.index ⟨1, 2, 4, 9, 3⟩)).qac_Q 3 =
        ⟨9, 8, 7, 6, 5, 4, 3, 2, 1, 0⟩ := by
  obtain ⟨⟨afterTDC, loadedTDC, holdTDC, others⟩, afterQDC, loadedQDC, holdQDC, _⟩ :=
    calibration_round_trip printDigit scanDigit id prints_digits tdcSample qdcSample
  obtain ⟨placeT, placeE, placeLast, fields⟩ := sample_places
  have branchT := holdTDC ⟨2131500, by decide⟩ rfl
  have branchE := holdTDC ⟨2131501, by decide⟩ rfl
  have last := holdTDC ⟨33554431, by decide⟩ rfl
  have charge := holdQDC ⟨558119, by decide⟩ rfl
  dsimp only at branchT branchE last charge
  rw [placeT] at branchT
  rw [placeE] at branchE
  rw [placeLast] at last
  rw [qdcPlace, fields] at charge
  have unwritten := others (tdcPlace 33554430) fun gid valid same => by
    have equal := tdcPlace_injective ⟨33554430, by decide⟩ gid same
    subst equal
    cases valid
  exact ⟨⟨afterTDC, loadedTDC, Option.some.inj branchT, Option.some.inj branchE,
    Option.some.inj last, unwritten⟩, afterQDC, loadedQDC, charge⟩

end GramsTof.CalibrationTable
