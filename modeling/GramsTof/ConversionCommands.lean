import GramsTof.CalibrationCommands

/-!
The handlers of RUN_CONVERT_RAW_TO_RAW and RUN_CONVERT_RAW_TO_SINGLES up to the
call of the analyzer, and `RawReader::openFile` up to the header of the data
file. In which order the arguments of a call are evaluated is left to the
compiler.
-/

namespace GramsTof.ConversionCommands

open ConfigPaths ConfigState CopyOrLink Timestamps CalibrationCommands

/-- The calls of the analyzer. `fileType` is the number before its cast to
`FILE_TYPE`, `fileSplitTime` the one before its cast to `double`. -/
inductive Call where
  | rawToRaw (configFile inputFilePrefix outputFileName : Text) (eventFractionToWrite : Int)
  | rawToSingles (configFile inputFilePrefix outputFileName : Text)
      (fileType eventFractionToWrite fileSplitTime : Int)
  deriving DecidableEq, Repr

def Call.inputFilePrefix : Call → Text
  | .rawToRaw _ inputFilePrefix _ _ => inputFilePrefix
  | .rawToSingles _ inputFilePrefix _ _ _ _ => inputFilePrefix

def fileRoot : Int := 2

def runStem : Pattern := ⟨"run".toList, plain_text _ (by decide)⟩

def paths (outputFirst : Bool) (input output : FileSystem → Option Text × FileSystem)
    (fs : FileSystem) : Option (Text × Text) × FileSystem :=
  if outputFirst then
    match output fs with
    | (none, fs) => (none, fs)
    | (some outputFileName, fs) =>
        match input fs with
        | (none, fs) => (none, fs)
        | (some inputFilePrefix, fs) => (some (inputFilePrefix, outputFileName), fs)
  else
    match input fs with
    | (none, fs) => (none, fs)
    | (some inputFilePrefix, fs) =>
        match output fs with
        | (none, fs) => (none, fs)
        | (some outputFileName, fs) => (some (inputFilePrefix, outputFileName), fs)

/-- A handler; `none` is an exception. -/
def prepare (machine : Machine) (outputFirst : Bool) (fs : FileSystem) (outputExt : Text)
    (input : Text → FileSystem → Option Text × FileSystem) (call : Text → Text → Call) :
    Option Call × FileSystem :=
  match latestTimestamp machine fs machine.config.getSTG0Dir runStem emptyPattern with
  | none => (none, fs)
  | some timestamp =>
      match paths outputFirst (input timestamp)
        (fun fs => makeFilePathWithTimestamp machine fs machine.config.getSTG1Dir runStem timestamp
          outputExt) fs with
      | (none, fs) => (none, fs)
      | (some (inputFilePrefix, outputFileName), fs) => (some (call inputFilePrefix outputFileName), fs)

/-- The first argument is read if there are two. -/
def convertRawToRaw (machine : Machine) (outputFirst : Bool) (argv : List Int) (fs : FileSystem) :
    Option Call × FileSystem :=
  prepare machine outputFirst fs "stg1.root".toList
    (fun timestamp fs => makeFilePathWithTimestamp machine fs machine.config.getSTG0Dir runStem
      timestamp [])
    fun inputFilePrefix outputFileName =>
      .rawToRaw machine.config.configFilePath inputFilePrefix outputFileName
        (if argv.length > 1 then argv.headD 0 else 1024)

def convertRawToSingles (machine : Machine) (outputFirst : Bool) (argv : List Int)
    (fs : FileSystem) : Option Call × FileSystem :=
  prepare machine outputFirst fs "root_singles".toList
    (fun timestamp fs =>
      (fileByTimestamp machine fs machine.config.getSTG0Dir runStem timestamp, fs))
    fun inputFilePrefix outputFileName =>
      .rawToSingles machine.config.configFilePath inputFilePrefix outputFileName
        ((argv[0]?).getD fileRoot) ((argv[1]?).getD 1024) ((argv[2]?).getD 0)

inductive OpenFault where
  | pastBuffer
  | noIndex
  | noData
  deriving DecidableEq, Repr

structure Opened where
  indexFile : Text
  dataFile : Text
  deriving DecidableEq, Repr

def openable (fs : FileSystem) (path : Text) : Bool :=
  match status fs path with
  | .found _ => true
  | _ => false

/-- The names are printed to a buffer of 1024 bytes. -/
def openFile (fs : FileSystem) (fnPrefix : Text) : Except OpenFault Opened :=
  if 1024 < SystemConfig.size fnPrefix + 6 then .error .pastBuffer
  else
    let indexFile := if openable fs (fnPrefix ++ ".tmpf".toList) then some (fnPrefix ++ ".tmpf".toList)
      else if openable fs (fnPrefix ++ ".idxf".toList) then some (fnPrefix ++ ".idxf".toList)
      else none
    match indexFile with
    | none => .error .noIndex
    | some indexFile =>
        if openable fs (fnPrefix ++ ".rawf".toList) then
          .ok ⟨indexFile, fnPrefix ++ ".rawf".toList⟩
        else .error .noData

/-- Both calls are made, with one prefix, whose index and data file `openFile`
opens. -/
def SameRun (machine : Machine) (outputFirst : Bool) (rawArgv singlesArgv : List Int)
    (fs : FileSystem) : Prop :=
  ∃ raw singles rawFs singlesFs inputFilePrefix,
    convertRawToRaw machine outputFirst rawArgv fs = (some raw, rawFs) ∧
    convertRawToSingles machine outputFirst singlesArgv fs = (some singles, singlesFs) ∧
    raw.inputFilePrefix = inputFilePrefix ∧ singles.inputFilePrefix = inputFilePrefix ∧
    ∀ after ∈ [rawFs, singlesFs], openFile after inputFilePrefix =
      .ok ⟨inputFilePrefix ++ ".idxf".toList, inputFilePrefix ++ ".rawf".toList⟩

def runName (timestamp : Text) : Text := runStem.text ++ '_' :: timestamp

def runPrefix (machine : Machine) (timestamp : Text) : Text :=
  appendPath machine.config.getSTG0Dir (runName timestamp)

/-- The latest run of the directory is complete. -/
structure CompleteRun (machine : Machine) (fs : FileSystem) (timestamp : Text) : Prop where
  latest : latestTimestamp machine fs machine.config.getSTG0Dir runStem emptyPattern =
    some timestamp
  data : openable fs (runPrefix machine timestamp ++ ".rawf".toList) = true
  index : openable fs (runPrefix machine timestamp ++ ".idxf".toList) = true

/-- The files once the output directory is there. -/
def withOutput (machine : Machine) (fs : FileSystem) : FileSystem :=
  match status fs machine.config.getSTG1Dir with
  | .missing => (createDirectories fs machine.directoryRefused machine.config.getSTG1Dir).2
  | _ => fs

def OutputReady (machine : Machine) (fs : FileSystem) : Prop :=
  match status fs machine.config.getSTG1Dir with
  | .found _ => True
  | .missing => (createDirectories fs machine.directoryRefused machine.config.getSTG1Dir).1 = true
  | .tooManyLinks => False

/-- The first file of the directory whose name begins like the run's bears that
name and no extension. -/
def BareFirst (machine : Machine) (fs : FileSystem) (timestamp : Text) : Prop :=
  ∃ skipped rest,
    machine.iteration fs machine.config.getSTG0Dir = skipped ++ runName timestamp :: rest ∧
    looping fs machine.config.getSTG0Dir (runName timestamp) = false ∧
    regularFile fs machine.config.getSTG0Dir (runName timestamp) = true ∧
    ∀ name ∈ skipped, looping fs machine.config.getSTG0Dir name = false ∧
      (regularFile fs machine.config.getSTG0Dir name = true →
        matchesTimestamp runStem timestamp emptyPattern name = false)

structure Agrees (machine : Machine) (outputFirst : Bool) (fs : FileSystem) (timestamp : Text) :
    Prop where
  output : OutputReady machine fs
  fits : SystemConfig.size (runPrefix machine timestamp) + 6 ≤ 1024
  finished : openable (withOutput machine fs) (runPrefix machine timestamp ++ ".tmpf".toList) = false
  bare : BareFirst machine (if outputFirst then withOutput machine fs else fs) timestamp

section Kept
variable {fs after : FileSystem} (kept : ∀ path node, fs path = some node → after path = some node)
include kept

theorem status_kept (path : Text) (node : Node) (found : status fs path = .found node) :
    status after path = .found node := by
  have within : ∀ links path, statusWithin fs links path = .found node →
      statusWithin after links path = .found node := by
    intro links
    induction links with
    | zero => exact fun path wrong => by cases wrong
    | succ links ih =>
        intro path leads
        rw [statusWithin] at leads
        split at leads
        · cases leads
        · rename_i target there
          rw [statusWithin, kept path _ there]
          exact ih _ leads
        · rename_i last noLink there
          rw [statusWithin, kept path _ there]
          cases last with
          | link target => exact absurd rfl (noLink target)
          | _ => exact leads
  exact within 41 path found

theorem openable_kept (path : Text) (opens : openable fs path = true) :
    openable after path = true := by
  unfold openable at opens ⊢
  split at opens
  · rename_i node found
    rw [status_kept kept path node found]
  · cases opens

end Kept

theorem makeDirectories_keeps (refused : Text → Bool) (dirs : List Text) (fs : FileSystem)
    (path : Text) (node : Node) (there : fs path = some node) :
    (makeDirectories refused fs dirs).2 path = some node := by
  induction dirs generalizing fs with
  | nil => exact there
  | cons dir rest ih =>
      rw [makeDirectories]
      split_ifs with stops
      · exact there
      · apply ih
        rw [not_or, not_not] at stops
        rw [CopyOrLink.set, if_neg, there]
        -- a directory is made where nothing was
        rintro rfl
        rw [stops.2] at there
        cases there

theorem createDirectories_keeps (refused : Text → Bool) (fs : FileSystem) (dir path : Text)
    (node : Node) (there : fs path = some node) :
    (createDirectories fs refused dir).2 path = some node := by
  unfold createDirectories
  dsimp only
  split
  · exact makeDirectories_keeps refused _ fs path node there
  · split_ifs
    · exact makeDirectories_keeps refused _ fs path node there
    · exact there

theorem withOutput_keeps (machine : Machine) (fs : FileSystem) (path : Text) (node : Node)
    (there : fs path = some node) : withOutput machine fs path = some node := by
  unfold withOutput
  cases status fs machine.config.getSTG1Dir with
  | missing => exact createDirectories_keeps _ fs _ path node there
  | _ => exact there

/-- Where the input is only looked for, both orders give the same files. -/
theorem paths_iff (outputFirst : Bool) (input output : FileSystem → Option Text × FileSystem)
    (found : FileSystem → Option Text) (fs out : FileSystem) (made : Option Text)
    (looks : input fs = (found fs, fs)) (looksBehind : input out = (found out, out))
    (makes : output fs = (made, out)) (inputFilePrefix outputFileName : Text)
    (after : FileSystem) :
    paths outputFirst input output fs = (some (inputFilePrefix, outputFileName), after) ↔
      found (if outputFirst then out else fs) = some inputFilePrefix ∧
        made = some outputFileName ∧ out = after := by
  unfold paths
  cases outputFirst with
  | true =>
      cases made <;> cases there : found out <;> simp [makes, looksBehind, there, and_assoc]
  | false =>
      cases made <;> cases there : found fs <;> simp [makes, looks, there, and_assoc]

theorem output_path (machine : Machine) (fs : FileSystem) (timestamp ext : Text) :
    ∃ made, makeFilePathWithTimestamp machine fs machine.config.getSTG1Dir runStem timestamp ext =
        (made, withOutput machine fs) ∧
      (OutputReady machine fs ↔ ∃ path, made = some path) := by
  unfold makeFilePathWithTimestamp withOutput OutputReady
  dsimp only
  cases status fs machine.config.getSTG1Dir with
  | found node => exact ⟨_, rfl, by simp⟩
  | tooManyLinks => exact ⟨_, rfl, by simp⟩
  | missing =>
      dsimp only
      cases created : createDirectories fs machine.directoryRefused machine.config.getSTG1Dir with
      | mk success fs =>
          cases success with
          | true => exact ⟨_, rfl, by simp⟩
          | false => exact ⟨_, rfl, by simp⟩

theorem latest_directory (machine : Machine) (fs : FileSystem) (dir timestamp : Text)
    (stem suffix : Pattern) (latest : latestTimestamp machine fs dir stem suffix = some timestamp) :
    status fs dir = .found .directory := by
  unfold latestTimestamp directory at latest
  split_ifs at latest with looping there
  · exact there
  · cases latest

theorem raw_input (machine : Machine) (fs : FileSystem) (timestamp : Text) (node : Node)
    (there : status fs machine.config.getSTG0Dir = .found node) :
    makeFilePathWithTimestamp machine fs machine.config.getSTG0Dir runStem timestamp [] =
      (some (runPrefix machine timestamp), fs) := by
  unfold makeFilePathWithTimestamp
  rw [there]
  simp [runPrefix, runName]

theorem searched_iff {Name : Type} (stops : Name → Bool) (entry : Name → Entry)
    (accepts : Entry → Bool) (names : List Name) (found : Entry) :
    ((names.takeWhile fun name => !stops name).map entry).find? accepts = some found ↔
      ∃ skipped name rest, names = skipped ++ name :: rest ∧ stops name = false ∧
        entry name = found ∧ accepts found = true ∧
        ∀ other ∈ skipped, stops other = false ∧ accepts (entry other) = false := by
  induction names with
  | nil => simp
  | cons first rest ih =>
      cases stop : stops first with
      | true =>
          rw [List.takeWhile_cons_of_neg (by simp [stop])]
          constructor
          · exact fun wrong => by cases wrong
          · rintro ⟨skipped, name, behind, same, goesOn, _, _, before⟩
            cases skipped with
            | nil =>
                cases same
                rw [stop] at goesOn
                cases goesOn
            | cons head tail =>
                cases same
                have passed := (before first List.mem_cons_self).1
                rw [stop] at passed
                cases passed
      | false =>
          rw [List.takeWhile_cons_of_pos (by simp [stop]), List.map_cons, List.find?_cons]
          cases accepted : accepts (entry first) with
          | true =>
              constructor
              · intro same
                cases same
                exact ⟨[], first, rest, rfl, stop, rfl, accepted, fun other member => by cases member⟩
              · rintro ⟨skipped, name, behind, same, _, here, _, before⟩
                cases skipped with
                | nil =>
                    cases same
                    rw [here]
                | cons head tail =>
                    cases same
                    have passed := (before first List.mem_cons_self).2
                    rw [accepted] at passed
                    cases passed
          | false =>
              rw [ih]
              constructor
              · rintro ⟨skipped, name, behind, same, goesOn, here, taken, before⟩
                refine ⟨first :: skipped, name, behind, by rw [same]; rfl, goesOn, here, taken, ?_⟩
                exact List.forall_mem_cons.mpr ⟨⟨stop, accepted⟩, before⟩
              · rintro ⟨skipped, name, behind, same, goesOn, here, taken, before⟩
                cases skipped with
                | nil =>
                    cases same
                    rw [here, taken] at accepted
                    cases accepted
                | cons head tail =>
                    cases same
                    exact ⟨tail, name, behind, rfl, goesOn, here, taken,
                      (List.forall_mem_cons.mp before).2⟩

theorem run_matches (timestamp : Text) :
    matchesTimestamp runStem timestamp emptyPattern (runName timestamp) = true := by
  have taken : takeAtoms (runStem.atoms ++ [.literal '_'] ++ textAtoms timestamp ++
      emptyPattern.atoms) (runName timestamp) = some [] := by
    have own := take_text timestamp []
    rw [List.append_nil] at own
    rw [take_atoms_append, take_atoms_append, take_atoms_append, runName, take_pattern,
      Option.bind_some]
    rw [takeAtoms, if_pos (by decide : (Atom.literal '_').accepts '_' = true), takeAtoms,
      Option.bind_some, own]
    rfl
  rw [matchesTimestamp, taken]
  rfl

/-- What matches begins like the pattern, and so not with a slash. -/
theorem matches_relative (timestamp name : Text)
    (taken : matchesTimestamp runStem timestamp emptyPattern name = true) :
    name.head? ≠ some '/' := by
  cases name with
  | nil => exact fun wrong => by cases wrong
  | cons c rest =>
      rw [matchesTimestamp, take_atoms_append, take_atoms_append, take_atoms_append] at taken
      rintro ⟨⟩
      cases taken

theorem appendPath_injective (dir first second : Text) (relative : first.head? ≠ some '/')
    (relativeSecond : second.head? ≠ some '/') (same : appendPath dir first = appendPath dir second) :
    first = second := by
  unfold appendPath at same
  rw [if_neg relative, if_neg relativeSecond] at same
  split_ifs at same
  · exact List.append_cancel_left same
  · exact List.cons.inj (List.append_cancel_left same) |>.2

theorem runName_relative (timestamp : Text) : (runName timestamp).head? ≠ some '/' :=
  matches_relative timestamp _ (run_matches timestamp)

theorem fileByTimestamp_iff (machine : Machine) (fs : FileSystem) (dir : Text) (stem : Pattern)
    (timestamp path : Text) (there : status fs dir = .found .directory) :
    fileByTimestamp machine fs dir stem timestamp = some path ↔
      ∃ skipped name rest, machine.iteration fs dir = skipped ++ name :: rest ∧
        looping fs dir name = false ∧ regularFile fs dir name = true ∧
        matchesTimestamp stem timestamp emptyPattern name = true ∧ appendPath dir name = path ∧
        ∀ other ∈ skipped, looping fs dir other = false ∧ (regularFile fs dir other = true →
          matchesTimestamp stem timestamp emptyPattern other = false) := by
  have search := searched_iff (looping fs dir) (fun name => ⟨name, regularFile fs dir name⟩)
    (fun entry => entry.regular && matchesTimestamp stem timestamp emptyPattern entry.filename)
    (machine.iteration fs dir)
  have found : fileByTimestamp machine fs dir stem timestamp =
      ((((machine.iteration fs dir).takeWhile fun name => !looping fs dir name).map
        fun name => (⟨name, regularFile fs dir name⟩ : Entry)).find? fun entry =>
          entry.regular && matchesTimestamp stem timestamp emptyPattern entry.filename).map
            fun entry => appendPath dir entry.filename := by
    unfold fileByTimestamp getFileByTimestamp directory
    rw [if_pos there]
    dsimp only
    split
    · rename_i none
      rw [none]
      rfl
    · rename_i entry some
      rw [some]
      rfl
  rw [found, Option.map_eq_some_iff]
  constructor
  · rintro ⟨entry, first, leads⟩
    obtain ⟨skipped, name, rest, same, goesOn, rfl, accepted, before⟩ := (search entry).mp first
    rw [Bool.and_eq_true] at accepted
    exact ⟨skipped, name, rest, same, goesOn, accepted.1, accepted.2, leads,
      fun other member => ⟨(before other member).1, by simpa using (before other member).2⟩⟩
  · rintro ⟨skipped, name, rest, same, goesOn, regular, taken, leads, before⟩
    refine ⟨⟨name, regularFile fs dir name⟩, (search _).mpr ?_, leads⟩
    exact ⟨skipped, name, rest, same, goesOn, rfl, by rw [regular, taken]; rfl,
      fun other member => ⟨(before other member).1, by simpa using (before other member).2⟩⟩

theorem singles_input_iff (machine : Machine) (fs : FileSystem) (timestamp : Text)
    (there : status fs machine.config.getSTG0Dir = .found .directory) :
    fileByTimestamp machine fs machine.config.getSTG0Dir runStem timestamp =
        some (runPrefix machine timestamp) ↔ BareFirst machine fs timestamp := by
  rw [fileByTimestamp_iff machine fs _ runStem timestamp _ there]
  constructor
  · rintro ⟨skipped, name, rest, same, goesOn, regular, taken, leads, before⟩
    have bare : name = runName timestamp := appendPath_injective _ name _
      (matches_relative timestamp name taken) (runName_relative timestamp) leads
    subst bare
    exact ⟨skipped, rest, same, goesOn, regular, before⟩
  · rintro ⟨skipped, rest, same, goesOn, regular, before⟩
    exact ⟨skipped, _, rest, same, goesOn, regular, run_matches timestamp, rfl, before⟩

theorem openFile_iff (fs : FileSystem) (fnPrefix : Text)
    (index : openable fs (fnPrefix ++ ".idxf".toList) = true)
    (data : openable fs (fnPrefix ++ ".rawf".toList) = true) :
    openFile fs fnPrefix = .ok ⟨fnPrefix ++ ".idxf".toList, fnPrefix ++ ".rawf".toList⟩ ↔
      SystemConfig.size fnPrefix + 6 ≤ 1024 ∧ openable fs (fnPrefix ++ ".tmpf".toList) = false := by
  unfold openFile
  by_cases long : 1024 < SystemConfig.size fnPrefix + 6
  · rw [if_pos long]
    constructor
    · exact fun wrong => by cases wrong
    · exact fun fits => absurd fits.1 (by omega)
  · rw [if_neg long, index, data]
    cases openable fs (fnPrefix ++ ".tmpf".toList) with
    | true =>
        constructor
        · intro same
          have names := List.append_cancel_left (congrArg Opened.indexFile (Except.ok.inj same))
          cases names
        · exact fun fits => by cases fits.2
    | false =>
        constructor
        · exact fun _ => ⟨by omega, rfl⟩
        · exact fun _ => rfl

theorem prepare_iff (machine : Machine) (outputFirst : Bool) (fs : FileSystem)
    (timestamp outputExt : Text) (input : Text → FileSystem → Option Text × FileSystem)
    (found : FileSystem → Option Text) (call : Text → Text → Call)
    (latest : latestTimestamp machine fs machine.config.getSTG0Dir runStem emptyPattern =
      some timestamp)
    (looks : input timestamp fs = (found fs, fs))
    (looksBehind : input timestamp (withOutput machine fs) =
      (found (withOutput machine fs), withOutput machine fs))
    (keepsPrefix : ∀ inputFilePrefix outputFileName,
      (call inputFilePrefix outputFileName).inputFilePrefix = inputFilePrefix)
    (after : FileSystem) (inputFilePrefix : Text) :
    (∃ made, prepare machine outputFirst fs outputExt input call = (some made, after) ∧
        made.inputFilePrefix = inputFilePrefix) ↔
      OutputReady machine fs ∧ withOutput machine fs = after ∧
        found (if outputFirst then withOutput machine fs else fs) = some inputFilePrefix := by
  obtain ⟨made, makes, ready⟩ := output_path machine fs timestamp outputExt
  have both := paths_iff outputFirst (input timestamp) (fun fs =>
    makeFilePathWithTimestamp machine fs machine.config.getSTG1Dir runStem timestamp outputExt)
    found fs _ made looks looksBehind makes
  unfold prepare
  rw [latest]
  dsimp only
  rw [ready]
  split
  · rename_i stopped none
    constructor
    · rintro ⟨_, wrong, _⟩
      cases wrong
    · rintro ⟨⟨output, rfl⟩, _, there⟩
      rw [(both inputFilePrefix output _).mpr ⟨there, rfl, rfl⟩] at none
      cases none
  · rename_i passedPrefix outputFileName last some
    obtain ⟨there, rfl, rfl⟩ := (both passedPrefix outputFileName last).mp some
    constructor
    · rintro ⟨_, ⟨⟩, same⟩
      rw [keepsPrefix] at same
      exact ⟨⟨_, rfl⟩, rfl, same ▸ there⟩
    · rintro ⟨_, rfl, other⟩
      rw [there] at other
      cases other
      exact ⟨_, rfl, keepsPrefix _ _⟩

/-- The two commands open the same run exactly under `Agrees`. -/
theorem same_run_iff (machine : Machine) (outputFirst : Bool) (rawArgv singlesArgv : List Int)
    (fs : FileSystem) (timestamp : Text) (complete : CompleteRun machine fs timestamp) :
    SameRun machine outputFirst rawArgv singlesArgv fs ↔
      Agrees machine outputFirst fs timestamp := by
  have there := latest_directory machine fs _ timestamp _ _ complete.latest
  have stays := status_kept (withOutput_keeps machine fs) _ _ there
  have raw := prepare_iff machine outputFirst fs timestamp "stg1.root".toList
    (fun timestamp fs => makeFilePathWithTimestamp machine fs machine.config.getSTG0Dir runStem
      timestamp [])
    (fun _ => some (runPrefix machine timestamp))
    (fun inputFilePrefix outputFileName =>
      .rawToRaw machine.config.configFilePath inputFilePrefix outputFileName
        (if rawArgv.length > 1 then rawArgv.headD 0 else 1024))
    complete.latest (raw_input machine fs timestamp _ there)
    (raw_input machine _ timestamp _ stays) (fun _ _ => rfl)
  have singles := prepare_iff machine outputFirst fs timestamp "root_singles".toList
    (fun timestamp fs =>
      (fileByTimestamp machine fs machine.config.getSTG0Dir runStem timestamp, fs))
    (fun fs => fileByTimestamp machine fs machine.config.getSTG0Dir runStem timestamp)
    (fun inputFilePrefix outputFileName =>
      .rawToSingles machine.config.configFilePath inputFilePrefix outputFileName
        ((singlesArgv[0]?).getD fileRoot) ((singlesArgv[1]?).getD 1024)
        ((singlesArgv[2]?).getD 0))
    complete.latest rfl rfl (fun _ _ => rfl)
  have opens := openFile_iff (withOutput machine fs) (runPrefix machine timestamp)
    (openable_kept (withOutput_keeps machine fs) _ complete.index)
    (openable_kept (withOutput_keeps machine fs) _ complete.data)
  have bare : fileByTimestamp machine (if outputFirst then withOutput machine fs else fs)
      machine.config.getSTG0Dir runStem timestamp = some (runPrefix machine timestamp) ↔
        BareFirst machine (if outputFirst then withOutput machine fs else fs) timestamp := by
    apply singles_input_iff
    split_ifs
    · exact stays
    · exact there
  constructor
  · rintro ⟨rawCall, singlesCall, rawFs, singlesFs, inputFilePrefix, rawMade, singlesMade, rawPrefix,
      singlesPrefix, opened⟩
    obtain ⟨ready, rfl, same⟩ := (raw rawFs inputFilePrefix).mp ⟨rawCall, rawMade, rawPrefix⟩
    cases same
    obtain ⟨_, rfl, found⟩ := (singles singlesFs _).mp ⟨singlesCall, singlesMade, singlesPrefix⟩
    obtain ⟨fits, finished⟩ := opens.mp (opened _ List.mem_cons_self)
    exact ⟨ready, fits, finished, bare.mp found⟩
  · rintro ⟨ready, fits, finished, first⟩
    obtain ⟨rawCall, rawMade, rawPrefix⟩ := (raw _ _).mpr ⟨ready, rfl, rfl⟩
    obtain ⟨singlesCall, singlesMade, singlesPrefix⟩ :=
      (singles _ _).mpr ⟨ready, rfl, bare.mpr first⟩
    have opened := opens.mpr ⟨fits, finished⟩
    refine ⟨rawCall, singlesCall, _, _, _, rawMade, singlesMade, rawPrefix, singlesPrefix, ?_⟩
    simpa using opened

def oneRun : FileSystem := fun path =>
  if path = "/d/stg0".toList ∨ path = "/d/stg1".toList then some .directory
  else if path = "/d/stg0/run_2025-01-01_00-00-00.0Z.rawf".toList ∨
      path = "/d/stg0/run_2025-01-01_00-00-00.0Z.idxf".toList then some (.file [])
  else none

def inFlight : Machine :=
  { config :=
      { data := Data.empty
        configDir := "/".toList
        configFilePath := "/config.ini".toList
        tofdataDir := "/d".toList
        loaded := true }
    currentPath := "/".toList
    iteration := fun fs dir =>
      ["run_2025-01-01_00-00-00.0Z.rawf".toList, "run_2025-01-01_00-00-00.0Z.idxf".toList].filter
        fun name => (fs (appendPath dir name)).isSome
    directoryRefused := fun _ => false
    linkRefused := noRefusals }

theorem one_run_complete : CompleteRun inFlight oneRun "2025-01-01_00-00-00.0Z".toList where
  latest := by decide +kernel
  data := by decide +kernel
  index := by decide +kernel

theorem same_run_iff_one :
    SameRun inFlight false [] [] oneRun ↔
      Agrees inFlight false oneRun "2025-01-01_00-00-00.0Z".toList :=
  same_run_iff inFlight false [] [] oneRun _ one_run_complete

/-- The singles are read from the data file's name with an extension behind it. -/
theorem conversions_open_differently :
    ¬ ∀ machine outputFirst rawArgv singlesArgv fs timestamp, CompleteRun machine fs timestamp →
      SameRun machine outputFirst rawArgv singlesArgv fs := by
  intro always
  obtain ⟨raw, singles, rawFs, singlesFs, inputFilePrefix, rawMade, singlesMade, rawPrefix,
    singlesPrefix, _⟩ := always inFlight false [] [] oneRun _ one_run_complete
  have bare : (convertRawToRaw inFlight false [] oneRun).1.map Call.inputFilePrefix =
      some "/d/stg0/run_2025-01-01_00-00-00.0Z".toList := by decide +kernel
  have full : (convertRawToSingles inFlight false [] oneRun).1.map Call.inputFilePrefix =
      some "/d/stg0/run_2025-01-01_00-00-00.0Z.rawf".toList := by decide +kernel
  rw [rawMade, Option.map_some, rawPrefix] at bare
  rw [singlesMade, Option.map_some, singlesPrefix, bare] at full
  exact absurd full (by decide)

end GramsTof.ConversionCommands
