import GramsTof.ConfigPaths

/-!
The vendored `inih`: `ini_parse_stream` with the options of its header, and
`INIReader` over it. A file is the text `fgets` reads it from, a character for
each byte, without a NUL. `std::map` and `std::set` are sorted lists without
duplicates.
-/

namespace GramsTof.IniReader

open ConfigPaths

/-- `isspace` of the C locale -/
def isSpace (c : Char) : Bool := c == ' ' || ('\t' ≤ c && c ≤ '\r')

def rstrip (text : Text) : Text := text.rdropWhile isSpace

def lskip (text : Text) : Text := text.dropWhile isSpace

/-- `fgets` with room for `room` characters: what it stores and what is left. -/
def fgets : Nat → Text → Text × Text
  | 0, rest => ([], rest)
  | _ + 1, [] => ([], [])
  | room + 1, c :: rest =>
      if c = '\n' then ([c], rest)
      else
        let (stored, left) := fgets room rest
        (c :: stored, left)

/-- `INI_MAX_LINE` without the NUL at its end. -/
def lineRoom : Nat := 199

/-- `MAX_SECTION` and `MAX_NAME` without it. -/
def nameRoom : Nat := 49

/-- `ini_find_chars_or_comment`: the text in front of the place found, and the
text from there on. An inline comment starts with a semicolon after a space. -/
def findCharsOrComment (chars : Text) : Bool → Text → Text × Text
  | _, [] => ([], [])
  | wasSpace, c :: rest =>
      if chars.contains c || (wasSpace && c == ';') then ([], c :: rest)
      else
        let (front, found) := findCharsOrComment chars (isSpace c) rest
        (c :: front, found)

structure Entry where
  section_ : Text
  name : Text
  value : Text
  deriving DecidableEq, Repr

structure Parser where
  section_ : Text
  prevName : Text
  lineno : Nat
  error : Nat
  calls : List Entry
  deriving DecidableEq, Repr

/-- Only the first error is kept. -/
def Parser.fail (parser : Parser) : Parser :=
  if parser.error = 0 then { parser with error := parser.lineno } else parser

def Parser.call (parser : Parser) (name value : Text) : Parser :=
  { parser with calls := parser.calls ++ [⟨parser.section_, name, value⟩] }

def withoutBom (lineno : Nat) (line : Text) : Text :=
  let mark := [Char.ofNat 0xEF, Char.ofNat 0xBB, Char.ofNat 0xBF]
  if lineno = 1 ∧ line.take 3 = mark then line.drop 3 else line

/-- A line that was read, by its first character. -/
def Parser.line (parser : Parser) (line : Text) : Parser :=
  let start := lskip (withoutBom parser.lineno line)
  let indented := start.length < line.length
  match rstrip start with
  | [] => parser
  | c :: rest =>
      if c = ';' ∨ c = '#' then parser
      else if parser.prevName ≠ [] ∧ indented = true then
        -- a continuation of the value before
        parser.call parser.prevName (rstrip (findCharsOrComment [] false (c :: rest)).1)
      else if c = '[' then
        match findCharsOrComment [']'] false rest with
        | (name, ']' :: _) => { parser with section_ := name.take nameRoom, prevName := [] }
        | _ => parser.fail
      else
        match findCharsOrComment ['=', ':'] false (c :: rest) with
        | (front, found :: behind) =>
            if found = '=' ∨ found = ':' then
              let name := rstrip front
              let value := rstrip (lskip (findCharsOrComment [] false behind).1)
              { parser with prevName := name.take nameRoom }.call name value
            else parser.fail
        | _ => parser.fail

/-- `ini_parse_stream`. A line that fills the buffer is cut, and the rest of it
discarded. -/
def parseStream : Nat → Parser → Text → Parser
  | 0, parser, _ => parser
  | fuel + 1, parser, stream =>
      if stream = [] then parser
      else
        let (line, rest) := fgets lineRoom stream
        let parser := { parser with lineno := parser.lineno + 1 }
        if line.length = lineRoom ∧ line.getLast? ≠ some '\n' then
          let discarded := rest.dropWhile (· ≠ '\n')
          let parser := if rest = [] then parser else parser.fail
          parseStream fuel (parser.line line) (discarded.drop 1)
        else parseStream fuel (parser.line line) rest

/-- `ini_parse`; `none` is a file that cannot be opened. -/
def iniParse (file : Option Text) : Int × List Entry :=
  match file with
  | none => (-1, [])
  | some content =>
      let parser := parseStream (content.length + 1) ⟨[], [], 0, 0, []⟩ content
      (parser.error, parser.calls)

/-- `std::map<std::string, std::string>` in the order of its keys. -/
abbrev Values := List (Text × Text)

def Values.find (values : Values) (key : Text) : Option Text :=
  (List.find? (fun entry => entry.1 == key) values).map Prod.snd

def Values.set (key value : Text) : Values → Values
  | [] => [(key, value)]
  | entry :: rest =>
      if key < entry.1 then (key, value) :: entry :: rest
      else if key = entry.1 then (key, value) :: rest
      else entry :: Values.set key value rest

/-- `tolower` of the C locale -/
def tolower (c : Char) : Char := if 'A' ≤ c ∧ c ≤ 'Z' then Char.ofNat (c.toNat + 32) else c

def lower (text : Text) : Text := text.map tolower

def makeKey (section_ name : Text) : Text := lower (section_ ++ '=' :: name)

/-- Values of one key are joined by line ends, unless nothing stood there. -/
def valueHandler (values : Values) (call : Entry) : Values :=
  let key := makeKey call.section_ call.name
  match values.find key with
  | some (c :: old) => values.set key (c :: old ++ '\n' :: call.value)
  | _ => values.set key call.value

structure INIReader where
  error : Int
  values : Values

def INIReader.read (file : Option Text) : INIReader :=
  { error := (iniParse file).1, values := (iniParse file).2.foldl valueHandler [] }

def INIReader.parseError (reader : INIReader) : Int := reader.error

def INIReader.get (reader : INIReader) (section_ name defaultValue : Text) : Text :=
  (reader.values.find (makeKey section_ name)).getD defaultValue

def insertSection (section_ : Text) : List Text → List Text
  | [] => [section_]
  | first :: rest =>
      if section_ < first then section_ :: first :: rest
      else if section_ = first then first :: rest
      else first :: insertSection section_ rest

def INIReader.sections (reader : INIReader) : List Text :=
  reader.values.foldl (fun sections entry =>
    if '=' ∈ entry.1 then insertSection (entry.1.takeWhile (· ≠ '=')) sections else sections) []

def INIReader.getKeys (reader : INIReader) (section_ : Text) : List Text :=
  reader.values.filterMap fun entry =>
    let keyStart := makeKey section_ []
    if entry.1.take keyStart.length = keyStart then some (entry.1.drop keyStart.length) else none

theorem fgets_takes (room : Nat) (stream : Text) :
    (fgets room stream).1 ++ (fgets room stream).2 = stream := by
  induction stream generalizing room with
  | nil => cases room <;> rfl
  | cons c rest ih =>
      cases room with
      | zero => rfl
      | succ room =>
          simp only [fgets]
          split_ifs
          · rfl
          · exact congrArg (c :: ·) (ih room)

theorem fgets_progress (room : Nat) (stream : Text) (some : stream ≠ []) :
    (fgets (room + 1) stream).2.length < stream.length := by
  cases stream with
  | nil => exact absurd rfl some
  | cons c rest =>
      have taken := congrArg List.length (fgets_takes room rest)
      rw [List.length_append] at taken
      simp only [fgets]
      split_ifs
      · exact Nat.lt_succ_self _
      · change (fgets room rest).2.length < rest.length + 1
        omega

/-- The lines are read to the end: more fuel than characters changes nothing. -/
theorem parse_stream_fuel (fuel more : Nat) (parser : Parser) (stream : Text)
    (enough : stream.length < fuel) :
    parseStream (fuel + more) parser stream = parseStream fuel parser stream := by
  induction fuel generalizing parser stream with
  | zero => exact absurd enough (Nat.not_lt_zero _)
  | succ fuel ih =>
      rw [Nat.succ_add, parseStream, parseStream]
      by_cases done : stream = []
      · rw [if_pos done, if_pos done]
      · have shorter := fgets_progress 198 stream done
        change (fgets lineRoom stream).2.length < _ at shorter
        have discarded : ((fgets lineRoom stream).2.dropWhile (· ≠ '\n')).length ≤
            (fgets lineRoom stream).2.length := (List.dropWhile_sublist _).length_le
        rw [if_neg done, if_neg done]
        simp only
        split_ifs
        · exact ih _ _ (by rw [List.length_drop]; omega)
        · exact ih _ _ (by rw [List.length_drop]; omega)
        · exact ih _ _ (by omega)

theorem tolower_tolower (c : Char) : tolower (tolower c) = tolower c := by
  have table : ∀ n < 91, 65 ≤ n → tolower (Char.ofNat (n + 32)) = Char.ofNat (n + 32) := by decide
  by_cases upper : 'A' ≤ c ∧ c ≤ 'Z'
  · have once : tolower c = Char.ofNat (c.toNat + 32) := if_pos upper
    rw [once]
    exact table c.toNat (Nat.lt_succ_of_le upper.2) upper.1
  · have same : tolower c = c := if_neg upper
    rw [same, same]

theorem lower_lower (text : Text) : lower (lower text) = lower text := by
  rw [lower, lower, List.map_map]
  exact List.map_congr_left fun c _ => tolower_tolower c

theorem lower_append (front rest : Text) : lower (front ++ rest) = lower front ++ lower rest :=
  List.map_append

/-- Every key of the map is in lower case. -/
def LowerKeys (values : Values) : Prop := ∀ entry ∈ values, lower entry.1 = entry.1

theorem set_lower (values : Values) (key value : Text) (kept : LowerKeys values)
    (lowered : lower key = key) : LowerKeys (values.set key value) := by
  induction values with
  | nil => exact List.forall_mem_cons.mpr ⟨lowered, fun _ member => by cases member⟩
  | cons entry rest ih =>
      obtain ⟨first, later⟩ := List.forall_mem_cons.mp kept
      rw [Values.set]
      split_ifs
      · exact List.forall_mem_cons.mpr ⟨lowered, kept⟩
      · exact List.forall_mem_cons.mpr ⟨lowered, later⟩
      · exact List.forall_mem_cons.mpr ⟨first, ih later⟩

theorem handled_lower (calls : List Entry) (values : Values) (kept : LowerKeys values) :
    LowerKeys (calls.foldl valueHandler values) := by
  induction calls generalizing values with
  | nil => exact kept
  | cons call rest ih =>
      rw [List.foldl_cons]
      apply ih
      unfold valueHandler
      simp only
      split
      · exact set_lower _ _ _ kept (lower_lower _)
      · exact set_lower _ _ _ kept (lower_lower _)

/-- Every key listed for a section is found under it, so the default of `Get`
is never taken for one. -/
theorem listed_key_found (file : Option Text) (section_ key : Text)
    (listed : key ∈ (INIReader.read file).getKeys section_) :
    ∃ value, (INIReader.read file).values.find (makeKey section_ key) = some value := by
  have lowered : LowerKeys (INIReader.read file).values :=
    handled_lower _ [] fun _ member => by cases member
  obtain ⟨entry, member, cut⟩ := List.mem_filterMap.mp listed
  simp only [Option.ite_none_right_eq_some, Option.some.injEq] at cut
  obtain ⟨start, rfl⟩ := cut
  have joined := List.take_append_drop (makeKey section_ []).length entry.1
  rw [start] at joined
  generalize entry.1.drop (makeKey section_ []).length = rest at joined ⊢
  have whole : makeKey section_ rest = entry.1 := by
    have same := lowered entry member
    rw [← joined, lower_append, makeKey, lower_lower] at same
    calc makeKey section_ rest = lower ((section_ ++ ['=']) ++ rest) := by
          rw [makeKey, List.append_assoc]
          rfl
      _ = makeKey section_ [] ++ lower rest := lower_append _ _
      _ = makeKey section_ [] ++ rest := same
      _ = entry.1 := joined
  have found : ((INIReader.read file).values.find? fun other => other.1 == entry.1).isSome := by
    rw [List.find?_isSome]
    exact ⟨entry, member, beq_self_eq_true _⟩
  obtain ⟨other, same⟩ := Option.isSome_iff_exists.mp found
  exact ⟨other.2, by rw [whole, Values.find, same]; rfl⟩

end GramsTof.IniReader
