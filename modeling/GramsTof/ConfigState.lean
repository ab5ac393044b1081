import GramsTof.IniReader

/-!
The members of `GRAMS_TOF_Config` and the functions that write them:
`loadDefaultConfig`, `setConfigFile` and `load`. A call that throws still
leaves a state behind, so each returns its outcome and the members after it.
The files are what `fopen` finds under a name.
-/

namespace GramsTof.ConfigState

open ConfigPaths IniReader

/-- A map of maps, as `getString` sees it: a section that is there, and a key
in it. -/
abbrev Data := Text → Option (Text → Option Text)

def Data.empty : Data := fun _ => none

/-- `data_[section][key] = value` -/
def Data.assign (data : Data) (section_ key value : Text) : Data := fun other =>
  if other = section_ then
    some fun name => if name = key then some value else (data section_).bind fun keys => keys name
  else data other

structure Config where
  data : Data
  configDir : Text
  configFilePath : Text
  tofdataDir : Text
  loaded : Bool

def fresh : Config :=
  { data := .empty, configDir := [], configFilePath := [], tofdataDir := [], loaded := false }

structure Process extends Environment where
  glib : Option Text

abbrev Files := Text → Option Text

inductive ConfigError where
  | loadFailed (filename : Text)
  | substitution (fault : PathFault)
  deriving DecidableEq, Repr

def ConfigError.what : ConfigError → String
  | .loadFailed filename => "Failed to load config file: " ++ String.ofList filename
  | .substitution _ => "TOFDATA environment variable not set."

/-- The entries in the order of the two nested loops of `load`, with the values
as read. -/
def entries (reader : INIReader) : List Entry :=
  reader.sections.flatMap fun section_ => (reader.getKeys section_).map fun key =>
    ⟨section_, key, reader.get section_ key []⟩

/-- The value is computed before the place for it is made. -/
def fill (configDir : Text) (env : Environment) : Data → List Entry → Option PathFault × Data
  | data, [] => (none, data)
  | data, entry :: rest =>
      match Config.substituteVariables configDir env entry.value with
      | .error fault => (some fault, data)
      | .ok value => fill configDir env (data.assign entry.section_ entry.name value) rest

def load (files : Files) (env : Environment) (config : Config) (filename : Text) :
    Except PathFault Bool × Config :=
  let config := { config with configDir := parentPath filename }
  let reader := INIReader.read (files filename)
  if reader.parseError < 0 then (.ok false, config)
  else
    match fill config.configDir env .empty (entries reader) with
    | (some fault, data) => (.error fault, { config with data := data })
    | (none, data) => (.ok true, { config with data := data })

def setConfigFile (files : Files) (env : Environment) (config : Config) (filename : Text) :
    Except ConfigError Unit × Config :=
  -- cleared before anything of the new file is read
  let config := if config.loaded then { config with data := .empty } else config
  match load files env config filename with
  | (.error fault, config) => (.error (.substitution fault), config)
  | (.ok false, config) => (.error (.loadFailed filename), config)
  | (.ok true, config) =>
      (.ok (), { config with configFilePath := filename, loaded := true })

/-- `std::filesystem::path::operator/` -/
def appendPath (front rest : Text) : Text :=
  if rest.head? = some '/' then rest
  else if front = [] ∨ front.getLast? = some '/' then front ++ rest
  else front ++ '/' :: rest

def relativeConfigPath : Text := appendPath "config".toList "config.ini".toList

def defaultConfigPath (glib : Text) : Text := appendPath glib relativeConfigPath

def loadDefaultConfig (files : Files) (env : Process) (config : Config) :
    Except PathFault Bool × Config :=
  if config.loaded then (.ok true, config)
  else match env.glib, env.tofdata with
    | none, _ => (.ok false, config)
    | some _, none => (.ok false, config)
    | some glib, some tofdata =>
        let config := { config with tofdataDir := tofdata }
        match load files env.toEnvironment config (defaultConfigPath glib) with
        | (.ok true, config) =>
            (.ok true, { config with configFilePath := defaultConfigPath glib, loaded := true })
        | other => other

inductive KeyError where
  | missingSection (section_ : Text)
  | missingKey (key : Text)
  | emptyPath
  deriving DecidableEq, Repr

namespace Config

def getString (config : Config) (section_ key : Text) : Except KeyError Text :=
  match config.data section_ with
  | none => .error (.missingSection section_)
  | some keys =>
      match keys key with
      | none => .error (.missingKey key)
      | some value => .ok value

/-- `fs::absolute` refuses the empty path. -/
def getAbsolutePath (config : Config) (currentPath section_ key : Text) : Except KeyError Text :=
  match config.getString section_ key with
  | .error fault => .error fault
  | .ok pathStr => if pathStr = [] then .error .emptyPath else .ok (appendPath currentPath pathStr)

def getTOFDataDir (config : Config) : Text := config.tofdataDir
def getSTG0Dir (config : Config) : Text := config.tofdataDir ++ "/stg0".toList
def getSTG1Dir (config : Config) : Text := config.tofdataDir ++ "/stg1".toList
def getDiscDir (config : Config) : Text := config.tofdataDir ++ "/disc".toList
def getQDCDir (config : Config) : Text := config.tofdataDir ++ "/qdc".toList
def getTDCDir (config : Config) : Text := config.tofdataDir ++ "/tdc".toList
def getCalibrationDir (config : Config) : Text := config.tofdataDir ++ "/calibration".toList

end Config

def substitutes (configDir : Text) (env : Environment) (entry : Entry) : Bool :=
  (ConfigPaths.Config.substituteVariables configDir env entry.value).isOk

def place (configDir : Text) (env : Environment) (data : Data) (entry : Entry) : Data :=
  match ConfigPaths.Config.substituteVariables configDir env entry.value with
  | .error _ => data
  | .ok value => data.assign entry.section_ entry.name value

/-- The entries in front of the first whose substitution throws, as `data_`
holds them. -/
def placedBefore (configDir : Text) (env : Environment) (entries : List Entry) : Data :=
  (entries.takeWhile (substitutes configDir env)).foldl (place configDir env) .empty

theorem fill_places (configDir : Text) (env : Environment) (data : Data) (entries : List Entry) :
    (fill configDir env data entries).2 =
      (entries.takeWhile (substitutes configDir env)).foldl (place configDir env) data ∧
    ((fill configDir env data entries).1 = none ↔
      ∀ entry ∈ entries, substitutes configDir env entry = true) := by
  induction entries generalizing data with
  | nil => exact ⟨rfl, iff_of_true rfl fun _ member => by cases member⟩
  | cons entry rest ih =>
      rw [fill, List.takeWhile_cons, List.forall_mem_cons, substitutes]
      cases substituted : ConfigPaths.Config.substituteVariables configDir env entry.value with
      | error fault => simp [Except.isOk, Except.toBool]
      | ok value =>
          obtain ⟨filled, complete⟩ := ih (data.assign entry.section_ entry.name value)
          simp only [Except.isOk, Except.toBool, if_true, List.foldl_cons, place, substituted,
            true_and]
          exact ⟨filled, complete⟩

def Kept (before after : Config) : Prop :=
  after.data = before.data ∧ after.configDir = before.configDir ∧
    after.configFilePath = before.configFilePath ∧ after.loaded = before.loaded

/-- The members already are what a failed call makes of them. -/
structure AlreadyThere (files : Files) (env : Environment) (config : Config)
    (filename : Text) : Prop where
  configDir : config.configDir = parentPath filename
  unreadable : files filename = none → config.loaded = true → config.data = .empty
  substitution : files filename ≠ none → config.data =
    placedBefore (parentPath filename) env (entries (INIReader.read (files filename)))

theorem parse_error_iff (file : Option Text) :
    (INIReader.read file).parseError < 0 ↔ file = none := by
  cases file with
  | none => exact iff_of_true (by decide) rfl
  | some content =>
      refine iff_of_false ?_ (by simp)
      change ¬ ((parseStream _ _ content).error : Int) < 0
      omega

theorem load_outcome (files : Files) (env : Environment) (config : Config) (filename : Text) :
    (load files env config filename).2 =
      { config with
        configDir := parentPath filename
        data :=
          if files filename = none then config.data
          else placedBefore (parentPath filename) env
            (entries (INIReader.read (files filename))) } ∧
    ((load files env config filename).1 = .ok true ↔ files filename ≠ none ∧
      ∀ entry ∈ entries (INIReader.read (files filename)),
        substitutes (parentPath filename) env entry = true) := by
  unfold load
  simp only
  by_cases missing : files filename = none
  · rw [if_pos ((parse_error_iff _).mpr missing), if_pos missing]
    exact ⟨rfl, iff_of_false (by simp) fun readable => readable.1 missing⟩
  · rw [if_neg (mt (parse_error_iff _).mp missing), if_neg missing]
    obtain ⟨filled, complete⟩ := fill_places (parentPath filename) env .empty
      (entries (INIReader.read (files filename)))
    rw [placedBefore, ← filled, ← complete]
    cases outcome : fill (parentPath filename) env .empty
        (entries (INIReader.read (files filename))) with
    | mk fault data =>
        cases fault with
        | none => exact ⟨rfl, iff_of_true rfl ⟨missing, rfl⟩⟩
        | some fault => exact ⟨rfl, iff_of_false (by simp) (by simp)⟩

/-- A failed call has set `configDir_`, and `data_` holds what was placed
before the failure. -/
theorem set_config_file_failed (files : Files) (env : Environment) (config : Config)
    (filename : Text) (fault : ConfigError)
    (failed : (setConfigFile files env config filename).1 = .error fault) :
    (setConfigFile files env config filename).2 =
      { config with
        configDir := parentPath filename
        data :=
          if files filename = none then (if config.loaded then .empty else config.data)
          else placedBefore (parentPath filename) env
            (entries (INIReader.read (files filename))) } := by
  unfold setConfigFile at failed ⊢
  simp only at failed ⊢
  generalize cleared : (if config.loaded then { config with data := Data.empty } else config) =
    start at failed ⊢
  have left : (load files env start filename).2 =
      { config with
        configDir := parentPath filename
        data :=
          if files filename = none then (if config.loaded then .empty else config.data)
          else placedBefore (parentPath filename) env
            (entries (INIReader.read (files filename))) } := by
    rw [(load_outcome files env start filename).1, ← cleared]
    obtain ⟨data, configDir, configFilePath, tofdataDir, loaded⟩ := config
    cases loaded <;> rfl
  cases outcome : load files env start filename with
  | mk result after =>
      rw [outcome] at failed left
      cases result with
      | error fault => exact left
      | ok success =>
          cases success with
          | true => cases failed
          | false => exact left

/-- A failed configuration change leaves the configuration as it was exactly
if it already was as the failed call leaves it. -/
theorem failed_change_kept_iff (files : Files) (env : Environment) (config : Config)
    (filename : Text) (fault : ConfigError)
    (failed : (setConfigFile files env config filename).1 = .error fault) :
    Kept config (setConfigFile files env config filename).2 ↔
      AlreadyThere files env config filename := by
  rw [set_config_file_failed files env config filename fault failed, Kept]
  simp only [and_true]
  constructor
  · rintro ⟨data, configDir⟩
    refine ⟨configDir.symm, ?_, ?_⟩
    · intro missing loaded
      rw [if_pos missing, if_pos loaded] at data
      exact data.symm
    · intro readable
      rw [if_neg readable] at data
      exact data.symm
  · rintro ⟨configDir, unreadable, substitution⟩
    refine ⟨?_, configDir.symm⟩
    by_cases missing : files filename = none
    · rw [if_pos missing]
      by_cases loaded : config.loaded = true
      · rw [if_pos loaded, unreadable missing loaded]
      · rw [if_neg loaded]
    · rw [if_neg missing, substitution missing]

def configured : Config :=
  { data := Data.empty.assign "main".toList "map".toList "/etc/map.tsv".toList
    configDir := "/etc".toList
    configFilePath := "/etc/config.ini".toList
    tofdataDir := []
    loaded := true }

/-- Two entries, the second of which needs `TOFDATA`. -/
def needsTofdata : Files := fun filename =>
  if filename = "/tmp/config.ini".toList then
    some "[main]\nmap = %CDIR%/map.tsv\nlut = $TOFDATA/lut\n".toList
  else none

theorem needs_tofdata_failed :
    (setConfigFile needsTofdata ⟨none, none⟩ configured "/tmp/config.ini".toList).1 =
      .error (.substitution .tofdataUnset) := by decide +kernel

/-- The first entry of the new file has replaced what was loaded. -/
theorem failed_change_kept_iff_configured :
    Kept configured
        (setConfigFile needsTofdata ⟨none, none⟩ configured "/tmp/config.ini".toList).2 ↔
      AlreadyThere needsTofdata ⟨none, none⟩ configured "/tmp/config.ini".toList :=
  failed_change_kept_iff needsTofdata ⟨none, none⟩ configured "/tmp/config.ini".toList
    (.substitution .tofdataUnset) needs_tofdata_failed

/-- A file that cannot be opened empties the configuration in use. -/
theorem unreadable_file_empties :
    ¬ ∀ files env config filename fault,
      (setConfigFile files env config filename).1 = .error fault →
      Kept config (setConfigFile files env config filename).2 := by
  intro kept
  have wrong := kept (fun _ => none) ⟨none, none⟩ configured "/tmp/config.ini".toList
    (.loadFailed "/tmp/config.ini".toList) rfl
  have emptied := congrFun wrong.1 "main".toList
  cases emptied

/-- What the rest of the program reads from the configuration. -/
structure Observed where
  data : Data
  configDir : Text
  configFilePath : Text
  tofdataDir : Text
  stg0Dir : Text
  stg1Dir : Text
  discDir : Text
  tdcDir : Text
  qdcDir : Text
  calibrationDir : Text

def Config.observe (config : Config) : Observed :=
  { data := config.data
    configDir := config.configDir
    configFilePath := config.configFilePath
    tofdataDir := config.getTOFDataDir
    stg0Dir := config.getSTG0Dir
    stg1Dir := config.getSTG1Dir
    discDir := config.getDiscDir
    tdcDir := config.getTDCDir
    qdcDir := config.getQDCDir
    calibrationDir := config.getCalibrationDir }

theorem observe_tofdata (config : Config) (tofdata : Text) :
    config.observe = { config with tofdataDir := tofdata }.observe ↔
      config.tofdataDir = tofdata := by
  constructor
  · exact fun same => congrArg Observed.tofdataDir same
  · intro same
    rw [← same]

theorem load_tofdata (files : Files) (env : Environment) (config : Config) (filename : Text)
    (tofdata : Text) :
    load files env { config with tofdataDir := tofdata } filename =
      ((load files env config filename).1,
        { (load files env config filename).2 with tofdataDir := tofdata }) := by
  unfold load
  simp only
  split_ifs
  · rfl
  · cases fill (parentPath filename) env .empty (entries (INIReader.read (files filename))) with
    | mk fault data => cases fault <;> rfl

/-- On a new instance the two ways to load a file differ in the directory
member alone. -/
theorem load_paths_differ (files : Files) (env : Process) (glib tofdata : Text)
    (glibSet : env.glib = some glib) (tofdataSet : env.tofdata = some tofdata) :
    (loadDefaultConfig files env fresh).2 =
      { (setConfigFile files env.toEnvironment fresh (defaultConfigPath glib)).2 with
        tofdataDir := tofdata } := by
  have unloaded : ¬ fresh.loaded = true := by decide
  unfold loadDefaultConfig setConfigFile
  simp only [glibSet, tofdataSet, if_neg unloaded]
  rw [load_tofdata files env.toEnvironment fresh (defaultConfigPath glib) tofdata]
  cases load files env.toEnvironment fresh (defaultConfigPath glib) with
  | mk result config =>
      cases result with
      | error fault => rfl
      | ok success => cases success <;> rfl

theorem set_config_tofdata (files : Files) (env : Environment) (config : Config)
    (filename : Text) :
    (setConfigFile files env config filename).2.tofdataDir = config.tofdataDir := by
  unfold setConfigFile
  simp only
  generalize cleared : (if config.loaded then { config with data := Data.empty } else config) =
    start
  have kept : (load files env start filename).2.tofdataDir = config.tofdataDir := by
    rw [(load_outcome files env start filename).1, ← cleared]
    split_ifs <;> rfl
  cases outcome : load files env start filename with
  | mk result after =>
      rw [outcome] at kept
      cases result with
      | error fault => exact kept
      | ok success => cases success <;> exact kept

/-- Both ways leave the same configuration exactly if `TOFDATA` is the empty
string, since `setConfigFile` never reads it. -/
theorem load_paths_agree_iff (files : Files) (env : Process) (glib tofdata : Text)
    (glibSet : env.glib = some glib) (tofdataSet : env.tofdata = some tofdata) :
    (setConfigFile files env.toEnvironment fresh (defaultConfigPath glib)).2.observe =
      (loadDefaultConfig files env fresh).2.observe ↔ tofdata = [] := by
  rw [load_paths_differ files env glib tofdata glibSet tofdataSet, observe_tofdata,
    set_config_tofdata]
  exact eq_comm

theorem load_paths_agree_iff_empty :
    (setConfigFile (fun _ => some "[main]\nmap = m.tsv\n".toList) ⟨none, some []⟩ fresh
        (defaultConfigPath "/opt".toList)).2.observe =
      (loadDefaultConfig (fun _ => some "[main]\nmap = m.tsv\n".toList)
        ⟨⟨none, some []⟩, some "/opt".toList⟩ fresh).2.observe ↔ ([] : Text) = [] :=
  load_paths_agree_iff (fun _ => some "[main]\nmap = m.tsv\n".toList)
    ⟨⟨none, some []⟩, some "/opt".toList⟩ "/opt".toList [] rfl rfl

/-- With a directory in `TOFDATA` the paths differ: `getTOFDataDir` is empty
after `setConfigFile`. -/
theorem explicit_file_loses_tofdata :
    ¬ ∀ files (env : Process) glib tofdata, env.glib = some glib → env.tofdata = some tofdata →
      (setConfigFile files env.toEnvironment fresh (defaultConfigPath glib)).2.observe =
        (loadDefaultConfig files env fresh).2.observe := by
  intro agree
  have wrong := agree (fun _ => some []) ⟨⟨none, some "/data".toList⟩, some "/opt".toList⟩
    "/opt".toList "/data".toList rfl rfl
  have dirs := congrArg Observed.tofdataDir wrong
  exact absurd dirs (by decide +kernel)

end GramsTof.ConfigState
