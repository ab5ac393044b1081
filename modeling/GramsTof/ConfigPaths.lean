import Mathlib.Data.List.DropRight
import GramsTof.TextReplace

/-!
The path a configuration entry stands for, as its three readers compute it:
`GRAMS_TOF_Config`, the analysis (`SystemConfig`), and the acquisition
(`petsys.config`). The entry is the value as the respective parser gives it, and
no text holds a NUL.
-/

namespace GramsTof.ConfigPaths

open TextReplace

abbrev Text := List Char

structure Environment where
  home : Option Text
  tofdata : Option Text

inductive PathFault where
  | tofdataUnset
  | nullPointer
  | pastBuffer
  | typeError
  | badTemplate
  deriving DecidableEq, Repr

/-- `is_iequal` compares the characters in upper case. -/
def iequal (left right : Char) : Bool := decide (left.toUpper = right.toUpper)

/-- What `std::string::find` and `replace` make of the first occurrence. -/
def replaceFirst (pattern value text : Text) : Text := replace equal 1 pattern value text

/-- `boost::ireplace_all` -/
def ireplaceAll (pattern value text : Text) : Text := replace iequal text.length pattern value text

def cdirVariable : Text := "%CDIR%".toList

def pwdVariable : Text := "%PWD%".toList

def homeVariable : Text := "%HOME%".toList

def tofdataVariable : Text := "$TOFDATA".toList

def upToSlash (path : Text) : Text := path.rdropWhile (· ≠ '/')

def stripSlashes (path : Text) : Text := path.rdropWhile (· = '/')

/-- `std::filesystem::path::parent_path` -/
def parentPath (path : Text) : Text :=
  if stripSlashes path = [] then path
  else
    let head := upToSlash path
    if head = [] then []
    else if stripSlashes head = [] then ['/'] else stripSlashes head

/-- `dirname` of libgen -/
def dirname (path : Text) : Text :=
  let trimmed := if stripSlashes path = [] then path else stripSlashes path
  let head := upToSlash trimmed
  if head = [] then ['.']
  else if stripSlashes head = [] then (if head.length = 2 then head else ['/'])
  else stripSlashes head

/-- `os.path.dirname` -/
def osPathDirname (path : Text) : Text :=
  let head := upToSlash path
  if stripSlashes head = [] then head else stripSlashes head

namespace Config

def substituteVariables (configDir : Text) (env : Environment) (value : Text) :
    Except PathFault Text :=
  let result := replaceFirst cdirVariable configDir value
  let result := replaceFirst pwdVariable ['.'] result
  let result :=
    match env.home with
    | some home => replaceFirst homeVariable home result
    | none => result
  if found equal tofdataVariable result = [] then .ok result
  else
    match env.tofdata with
    | some tofdata => .ok (replaceFirst tofdataVariable tofdata result)
    | none => .error .tofdataUnset

/-- `load` keeps the directory of the file for the entries. -/
def path (configFile : Text) (env : Environment) (entry : Text) : Except PathFault Text :=
  substituteVariables (parentPath configFile) env entry

end Config

namespace SystemConfig

def pathMax : Nat := 4096

def size (text : Text) : Nat := (text.map Char.utf8Size).sum

/-- `strncpy` leaves a text of `pathMax` bytes or more without an end. -/
def replaceVariables (env : Environment) (entry cdir : Text) : Except PathFault Text :=
  match env.home with
  | none => .error .nullPointer
  | some home =>
      let tmp := ireplaceAll pwdVariable ['.'] entry
      let tmp := ireplaceAll cdirVariable cdir tmp
      let tmp := ireplaceAll homeVariable home tmp
      if pathMax ≤ size tmp then .error .pastBuffer else .ok tmp

/-- `fromFile` copies the name of the file to a buffer of `pathMax` bytes. -/
def path (configFile : Text) (env : Environment) (entry : Text) : Except PathFault Text :=
  if pathMax ≤ size configFile then .error .pastBuffer
  else replaceVariables env entry (dirname configFile)

end SystemConfig

namespace Petsys

variable (expandTemplate : Text → Except PathFault Text)

/-- `re.sub` of a pattern without special characters. Escapes in the template
are expanded, and wrong ones refused, whether or not the pattern occurs. -/
def reSub (pattern template text : Text) (count : Nat) : Except PathFault Text := do
  let value ← expandTemplate template
  return replace equal count pattern value text

/-- `re.I`, which stands where `re.sub` takes a count. -/
def ignoreCase : Nat := 2

def replaceVariables (env : Environment) (entry cdir : Text) : Except PathFault Text := do
  let tmp ← reSub expandTemplate pwdVariable ['.'] entry ignoreCase
  let tmp ← reSub expandTemplate cdirVariable cdir tmp ignoreCase
  match env.home with
  | none => throw .typeError
  | some home => reSub expandTemplate homeVariable home tmp ignoreCase

def path (configFile : Text) (env : Environment) (entry : Text) : Except PathFault Text :=
  replaceVariables expandTemplate env entry (osPathDirname configFile)

end Petsys

/-- A search that ignores case comes across the variable at most once, and then
in upper case. -/
def Plain (pattern text : Text) : Prop :=
  found iequal pattern text = [] ∨ found iequal pattern text = [pattern]

instance (pattern text : Text) : Decidable (Plain pattern text) :=
  inferInstanceAs (Decidable (_ ∨ _))

theorem plain_found (pattern text : Text) (plain : Plain pattern text) :
    found equal pattern text = found iequal pattern text ∧
      (found iequal pattern text).length ≤ 1 ∧
      ∀ count value, replace equal count pattern value text =
        replace iequal count pattern value text := by
  have spelled : ∀ spelling ∈ found iequal pattern text, spelling = pattern := by
    rcases plain with none | one
    · rw [none]
      exact fun _ member => absurd member List.not_mem_nil
    · rw [one]
      exact fun _ member => List.mem_singleton.mp member
  have reflexive : ∀ c, iequal c c = true := fun c => decide_eq_true rfl
  refine ⟨(spelled_same reflexive pattern [] 0 0 text spelled).1, ?_, fun count value =>
    (spelled_same reflexive pattern value count 0 text spelled).2⟩
  rcases plain with none | one
  · rw [none]
    exact Nat.zero_le 1
  · rw [one]
    exact Nat.le_refl 1

/-- For such a text the three ways to replace agree. -/
theorem plain_replaced (pattern value text : Text) (plain : Plain pattern text) :
    ireplaceAll pattern value text = replaceFirst pattern value text ∧
      replace equal 2 pattern value text = replaceFirst pattern value text := by
  obtain ⟨same, once, spelled⟩ := plain_found pattern text plain
  have enough := same ▸ once
  constructor
  · rw [ireplaceAll, ← spelled, replaceFirst, ← replace_enough _ text.length value text
      (Nat.le_refl _) (found_length text)]
    exact replace_enough _ 1 value text (Nat.le_refl _) enough
  · exact (replace_enough 1 2 value text enough (by decide)).symm

/-- The variables replaced in the order of the consumers. -/
def expansion (configFile home entry : Text) : Text :=
  replaceFirst homeVariable home
    (replaceFirst cdirVariable (dirname configFile) (replaceFirst pwdVariable ['.'] entry))

/-- Every variable is there at most once, in upper case, when its turn comes;
it makes no difference whether `%CDIR%` or `%PWD%` has the first turn; where
`%CDIR%` occurs, the three agree on the directory of the file; and there is no
`$TOFDATA`, no escape of a template, and no text too long for the analysis. -/
structure Unambiguous (expandTemplate : Text → Except PathFault Text) (configFile home entry : Text) :
    Prop where
  pwdPlain : Plain pwdVariable entry
  cdirPlain : Plain cdirVariable (replaceFirst pwdVariable ['.'] entry)
  homePlain : Plain homeVariable
    (replaceFirst cdirVariable (dirname configFile) (replaceFirst pwdVariable ['.'] entry))
  order : replaceFirst pwdVariable ['.'] (replaceFirst cdirVariable (dirname configFile) entry) =
    replaceFirst cdirVariable (dirname configFile) (replaceFirst pwdVariable ['.'] entry)
  directory : (found equal cdirVariable entry = [] ∧
      found equal cdirVariable (replaceFirst pwdVariable ['.'] entry) = []) ∨
    (parentPath configFile = dirname configFile ∧ osPathDirname configFile = dirname configFile)
  tofdata : found equal tofdataVariable (expansion configFile home entry) = []
  directoryTemplate : expandTemplate (osPathDirname configFile) = .ok (osPathDirname configFile)
  homeTemplate : expandTemplate home = .ok home
  shortFile : SystemConfig.size configFile < SystemConfig.pathMax
  short : SystemConfig.size (expansion configFile home entry) < SystemConfig.pathMax

section Agreement

variable {expandTemplate : Text → Except PathFault Text} {configFile home entry : Text}

theorem config_path (env : Environment) (set : env.home = some home)
    (plain : Unambiguous expandTemplate configFile home entry) :
    Config.path configFile env entry = .ok (expansion configFile home entry) := by
  have directory : replaceFirst cdirVariable (parentPath configFile) entry =
      replaceFirst cdirVariable (dirname configFile) entry := by
    rcases plain.directory with absent | agree
    · exact (replace_absent 1 _ _ absent.1).trans (replace_absent 1 _ _ absent.1).symm
    · rw [agree.1]
  rw [Config.path, Config.substituteVariables, directory, plain.order, set]
  exact if_pos plain.tofdata

theorem system_config_path (env : Environment) (set : env.home = some home)
    (plain : Unambiguous expandTemplate configFile home entry) :
    SystemConfig.path configFile env entry = .ok (expansion configFile home entry) := by
  have long := Nat.not_le.mpr plain.short
  rw [SystemConfig.path, if_neg (Nat.not_le.mpr plain.shortFile), SystemConfig.replaceVariables, set]
  simp only [(plain_replaced _ _ _ plain.pwdPlain).1, (plain_replaced _ _ _ plain.cdirPlain).1,
    (plain_replaced _ _ _ plain.homePlain).1]
  exact if_neg long

theorem petsys_path (literal : ∀ text, '\\' ∉ text → expandTemplate text = .ok text)
    (env : Environment) (set : env.home = some home)
    (plain : Unambiguous expandTemplate configFile home entry) :
    Petsys.path expandTemplate configFile env entry = .ok (expansion configFile home entry) := by
  have dot := literal ['.'] (by decide)
  have directory : replaceFirst cdirVariable (osPathDirname configFile)
      (replaceFirst pwdVariable ['.'] entry) =
      replaceFirst cdirVariable (dirname configFile) (replaceFirst pwdVariable ['.'] entry) := by
    rcases plain.directory with absent | agree
    · exact (replace_absent 1 _ _ absent.2).trans (replace_absent 1 _ _ absent.2).symm
    · rw [agree.2]
  simp only [Petsys.path, Petsys.replaceVariables, Petsys.reSub, Petsys.ignoreCase, dot,
    plain.directoryTemplate, plain.homeTemplate, set, bind, Except.bind, pure, Except.pure,
    (plain_replaced _ _ _ plain.pwdPlain).2, (plain_replaced _ _ _ plain.cdirPlain).2, directory,
    (plain_replaced _ _ _ plain.homePlain).2]
  rfl

end Agreement

theorem up_to_slash (directory file : Text) (plain : '/' ∉ file) :
    upToSlash (directory ++ '/' :: file) = directory ++ ['/'] := by
  have skipped : ∀ c ∈ file.reverse, decide (c ≠ '/') = true := by
    intro c member
    exact decide_eq_true fun slash => plain (slash ▸ List.mem_reverse.mp member)
  rw [upToSlash, List.rdropWhile, List.reverse_append, List.reverse_cons, List.append_assoc,
    List.dropWhile_append_of_pos skipped]
  simp

theorem strip_slashes_last (front : Text) (last : Char) (other : last ≠ '/') :
    stripSlashes (front ++ [last]) = front ++ [last] := by
  rw [stripSlashes, List.rdropWhile_concat_neg]
  exact fun slash => other (of_decide_eq_true slash)

theorem directories_agree (front file : Text) (last : Char) (other : last ≠ '/')
    (plain : '/' ∉ file) (named : file ≠ []) :
    parentPath (front ++ [last] ++ '/' :: file) = front ++ [last] ∧
      dirname (front ++ [last] ++ '/' :: file) = front ++ [last] ∧
      osPathDirname (front ++ [last] ++ '/' :: file) = front ++ [last] := by
  obtain ⟨start, final, rfl⟩ := (List.eq_nil_or_concat' file).resolve_left named
  -- the name ends in no slash, so nothing is stripped behind it
  have kept : final ≠ '/' := fun slash => plain (by simp [slash])
  have whole : stripSlashes (front ++ [last] ++ '/' :: (start ++ [final])) =
      front ++ [last] ++ '/' :: (start ++ [final]) := by
    have layout : front ++ [last] ++ '/' :: (start ++ [final]) =
        (front ++ [last] ++ '/' :: start) ++ [final] := by
      simp
    rw [layout, strip_slashes_last _ final kept]
  have head := up_to_slash (front ++ [last]) (start ++ [final]) plain
  have stripped : stripSlashes (front ++ [last] ++ ['/']) = front ++ [last] := by
    rw [stripSlashes, List.rdropWhile_concat_pos _ _ _ (by decide)]
    exact strip_slashes_last front last other
  have full : front ++ [last] ++ '/' :: (start ++ [final]) ≠ [] := by simp
  have some : front ++ [last] ++ ['/'] ≠ [] := by simp
  have directory : front ++ [last] ≠ [] := by simp
  refine ⟨?_, ?_, ?_⟩
  · rw [parentPath, whole, if_neg full]
    simp only [head, stripped, if_neg some, if_neg directory]
  · rw [dirname, whole, if_neg full]
    simp only [head, stripped, if_neg some, if_neg directory]
  · rw [osPathDirname, head, stripped]
    exact if_neg directory

theorem iequal_percent (c : Char) (other : c ≠ '%') : iequal '%' c = false := by
  have self : '%'.toUpper = '%' := by decide
  rw [iequal, self]
  apply decide_eq_false
  intro same
  change '%' = dite ('a'.val ≤ c.val ∧ c.val ≤ 'z'.val) _ _ at same
  split_ifs at same with letter
  · have value := congrArg Char.val same
    have low : ('a' : Char).val ≤ c.val := letter.1
    have high : c.val ≤ ('z' : Char).val := letter.2
    have number := congrArg UInt32.toNat value
    rw [UInt32.le_iff_toNat_le] at low high
    simp at number low high
    omega
  · exact other same.symm

theorem percent_absent (pattern text : Text) (plain : '%' ∉ text) :
    found iequal ('%' :: pattern) text = [] :=
  found_from_none '%' 0 text fun c member => iequal_percent c fun same => plain (same ▸ member)

theorem iequal_reflexive (c : Char) : iequal c c = true := decide_eq_true rfl

theorem pwd_absent (rest : Text) (plain : '%' ∉ rest) :
    found iequal pwdVariable (cdirVariable ++ rest) = [] := by
  have last : startsWith iequal pwdVariable ('%' :: rest) = false := by
    rw [← Bool.not_eq_true]
    intro here
    have later : startsWith iequal "PWD%".toList rest = true := (Bool.and_eq_true_iff.mp here).2
    obtain ⟨c, member, like⟩ := starts_with_member rest later '%' (by decide)
    rw [iequal_percent c fun same => plain (same ▸ member)] at like
    cases like
  -- the search fails at each letter of `%CDIR` by computation
  have skipped : found iequal pwdVariable (cdirVariable ++ rest) =
      foundFrom iequal pwdVariable 0 ('%' :: rest) := rfl
  rw [skipped, foundFrom, last]
  exact percent_absent "PWD%".toList rest plain

/-- What the entries of the shipped file look like: `%CDIR%`, and a name in the
directory of the file. -/
theorem leading_directory (expandTemplate : Text → Except PathFault Text)
    (literal : ∀ text, '\\' ∉ text → expandTemplate text = .ok text)
    (front file rest home : Text) (last : Char) (other : last ≠ '/') (plainFile : '/' ∉ file)
    (named : file ≠ []) (plain : ∀ c ∈ ['%', '$', '\\'], c ∉ front ++ [last] ++ rest)
    (plainHome : '\\' ∉ home)
    (shortFile : SystemConfig.size (front ++ [last] ++ '/' :: file) < SystemConfig.pathMax)
    (short : SystemConfig.size (front ++ [last] ++ rest) < SystemConfig.pathMax) :
    Unambiguous expandTemplate (front ++ [last] ++ '/' :: file) home (cdirVariable ++ rest) ∧
      expansion (front ++ [last] ++ '/' :: file) home (cdirVariable ++ rest) =
        front ++ [last] ++ rest := by
  obtain ⟨parent, libgen, python⟩ := directories_agree front file last other plainFile named
  have percent := plain '%' (by decide)
  have noPercent : '%' ∉ rest := fun member => percent (List.mem_append_right _ member)
  have pwdLoose := pwd_absent rest noPercent
  have pwdNone := (plain_found _ _ (Or.inl pwdLoose)).1.trans pwdLoose
  have pwdKept : replaceFirst pwdVariable ['.'] (cdirVariable ++ rest) = cdirVariable ++ rest :=
    replace_absent 1 _ _ pwdNone
  have replaced : replaceFirst cdirVariable (front ++ [last]) (cdirVariable ++ rest) =
      front ++ [last] ++ rest := by
    have reflexive : ∀ c, equal c c = true := fun c : Char => decide_eq_true rfl
    exact (replace_front reflexive 0 '%' "CDIR%".toList _ rest).trans
      (congrArg _ (replace_never _ _))
  -- what `%CDIR%` was replaced by has no percent sign, so nothing more is found
  have absent : ∀ pattern, found iequal ('%' :: pattern) (front ++ [last] ++ rest) = [] :=
    fun pattern => percent_absent pattern _ percent
  have absentEqual : ∀ pattern, found equal ('%' :: pattern) (front ++ [last] ++ rest) = [] :=
    fun pattern => (plain_found _ _ (Or.inl (absent pattern))).1.trans (absent pattern)
  have homeKept : replaceFirst homeVariable home (front ++ [last] ++ rest) = front ++ [last] ++ rest :=
    replace_absent 1 _ _ (absentEqual "HOME%".toList)
  have expanded : expansion (front ++ [last] ++ '/' :: file) home (cdirVariable ++ rest) =
      front ++ [last] ++ rest := by
    rw [expansion, libgen, pwdKept, replaced, homeKept]
  refine ⟨⟨Or.inl pwdLoose, ?_, ?_, ?_, Or.inr ⟨parent.trans libgen.symm, python.trans libgen.symm⟩,
    ?_, ?_, literal home plainHome, shortFile, ?_⟩, expanded⟩
  · rw [pwdKept]
    refine Or.inr ((found_front iequal_reflexive '%' "CDIR%".toList rest).trans ?_)
    rw [percent_absent _ rest noPercent]
    rfl
  · rw [libgen, pwdKept, replaced]
    exact Or.inl (absent "HOME%".toList)
  · rw [libgen, pwdKept, replaced]
    exact replace_absent 1 _ _ (absentEqual "PWD%".toList)
  · rw [expanded]
    exact found_from_none '$' 0 _ fun c member =>
      decide_eq_false fun same => plain '$' (by decide) (same ▸ member)
  · rw [python]
    exact literal _ fun member => plain '\\' (by decide) (List.mem_append_left _ member)
  · rw [expanded]
    exact short

/-- An unambiguous entry stands for one path with all three. -/
theorem paths_agree (expandTemplate : Text → Except PathFault Text)
    (literal : ∀ text, '\\' ∉ text → expandTemplate text = .ok text) (configFile home entry : Text)
    (env : Environment) (set : env.home = some home)
    (plain : Unambiguous expandTemplate configFile home entry) :
    Config.path configFile env entry = .ok (expansion configFile home entry) ∧
      SystemConfig.path configFile env entry = .ok (expansion configFile home entry) ∧
      Petsys.path expandTemplate configFile env entry = .ok (expansion configFile home entry) :=
  ⟨config_path env set plain, system_config_path env set plain, petsys_path literal env set plain⟩

theorem paths_agree_shipped :
    Config.path "/opt/tof/config/config.ini".toList ⟨some "/root".toList, none⟩
        "%CDIR%/map_channel.tsv".toList = .ok "/opt/tof/config/map_channel.tsv".toList ∧
      SystemConfig.path "/opt/tof/config/config.ini".toList ⟨some "/root".toList, none⟩
        "%CDIR%/map_channel.tsv".toList = .ok "/opt/tof/config/map_channel.tsv".toList ∧
      Petsys.path .ok "/opt/tof/config/config.ini".toList ⟨some "/root".toList, none⟩
        "%CDIR%/map_channel.tsv".toList = .ok "/opt/tof/config/map_channel.tsv".toList := by
  have letters : ∀ c ∈ ['%', '$', '\\'],
      c ∉ "/opt/tof/confi".toList ++ ['g'] ++ "/map_channel.tsv".toList :=
    List.forall_mem_cons.mpr ⟨by decide, List.forall_mem_cons.mpr
      ⟨by decide, List.forall_mem_singleton.mpr (by decide)⟩⟩
  obtain ⟨plain, expanded⟩ := leading_directory .ok (fun _ _ => rfl) "/opt/tof/confi".toList
    "config.ini".toList "/map_channel.tsv".toList "/root".toList 'g' (by decide) (by decide)
    (by decide) letters (by decide) (by decide) (by decide)
  have agree := paths_agree .ok (fun _ _ => rfl) "/opt/tof/config/config.ini".toList "/root".toList
    "%CDIR%/map_channel.tsv".toList ⟨some "/root".toList, none⟩ rfl plain
  have whole : expansion "/opt/tof/config/config.ini".toList "/root".toList
      "%CDIR%/map_channel.tsv".toList = "/opt/tof/config/map_channel.tsv".toList := expanded
  rw [whole] at agree
  exact agree

/-- Each reader alone: only the first knows `$TOFDATA`, only the second gives a
file without a directory one, and only it ignores case. -/
theorem readers_differ :
    (Config.path "/opt/config.ini".toList ⟨some "/root".toList, some "/data".toList⟩
        "$TOFDATA/tdc.tsv".toList = .ok "/data/tdc.tsv".toList ∧
      SystemConfig.path "/opt/config.ini".toList ⟨some "/root".toList, some "/data".toList⟩
        "$TOFDATA/tdc.tsv".toList = .ok "$TOFDATA/tdc.tsv".toList) ∧
    (Config.path "config.ini".toList ⟨some "/root".toList, none⟩ "%CDIR%/tdc.tsv".toList =
        .ok "/tdc.tsv".toList ∧
      SystemConfig.path "config.ini".toList ⟨some "/root".toList, none⟩ "%CDIR%/tdc.tsv".toList =
        .ok "./tdc.tsv".toList) ∧
    (Config.path "/opt/config.ini".toList ⟨some "/root".toList, none⟩ "%cdir%/tdc.tsv".toList =
        .ok "%cdir%/tdc.tsv".toList ∧
      SystemConfig.path "/opt/config.ini".toList ⟨some "/root".toList, none⟩
        "%cdir%/tdc.tsv".toList = .ok "/opt/tdc.tsv".toList) := by
  decide +kernel

end GramsTof.ConfigPaths
