import GramsTof.CommandDefs
import GramsTof.ConversionCommands
import Mathlib.Data.List.GetD

/-!
The handlers of `GRAMS_TOF_CommandDispatch` that take optional arguments, up to
the call each makes with them. A `float` or a `double` is kept as the number it
is rounded from.
-/

namespace GramsTof.OptionalArguments

open CommandDefs ConfigPaths ConfigState CopyOrLink Timestamps CalibrationCommands

inductive PythonCall where
  | makeBiasCalibrationTable (scriptModule outputFile : Text)
      (portIDs slaveIDs slotIDs : List Int) (filenames : List Text)
  | makeSimpleBiasSettingsTable (scriptPath configPath : Text) (offset prebd bd overvoltage : ℚ)
      (outputPath : Text)
  | makeSimpleDiscSettingsTable (scriptPath configPath : Text) (vthT1 vthT2 vthE : Int)
      (outputPath : Text)
  | readTemperatureSensors (scriptPath : Text) (acqTime interval : ℚ) (fileName : Text)
      (startup debug : Bool)
  | acquireThresholdCalibration (scriptPath configFile outFilePrefix : Text)
      (noiseReads darkReads : Int) (extBias : Bool) (mode : Text)
  | acquireSipmData (scriptPath configPath fileNamePrefix : Text) (acquisitionTime : ℚ)
      (mode : Text) (hwTrigger : Bool) (paramTable : Text)
  deriving DecidableEq, Repr

inductive Call where
  | python (call : PythonCall)
  | calibration (call : CalibrationCommands.Call)
  | conversion (call : ConversionCommands.Call)
  deriving DecidableEq, Repr

/-- `argv.size() > tested ? convert(argv[read]) : otherwise`; no handler reads
behind the argument it tests for. -/
def choose {α : Type} (argv : List Int) (tested read : Nat) (convert : Int → α) (otherwise : α) :
    α :=
  if argv.length > tested then convert (argv.getD read 0) else otherwise

/-- `static_cast<bool>` -/
def asBool (arg : Int) : Bool := arg != 0

def makeBiasCalibTable (machine : Machine) (argv : List Int) (fs : FileSystem) :
    Option PythonCall × FileSystem :=
  match machine.config.getString "main".toList "bias_calibration_table".toList with
  | .error _ => (none, fs)
  | .ok outputFile =>
      (some (.makeBiasCalibrationTable "scripts.make_bias_calibration_table".toList outputFile
        [choose argv 0 0 id 0] [choose argv 1 1 id 0] [choose argv 2 2 id 0] []), fs)

def makeSimpleBiasSetTable (machine : Machine) (argv : List Int) (fs : FileSystem) :
    Option PythonCall × FileSystem :=
  match machine.config.getString "main".toList "bias_settings_table".toList with
  | .error _ => (none, fs)
  | .ok outputPath =>
      (some (.makeSimpleBiasSettingsTable "scripts.make_simple_bias_settings_table".toList
        machine.config.configFilePath (choose argv 0 0 Int.cast 0.75) (choose argv 1 1 Int.cast 20)
        (choose argv 2 2 Int.cast 24.9) (choose argv 3 3 Int.cast 5) outputPath), fs)

def makeSimpleDiscSetTable (machine : Machine) (argv : List Int) (fs : FileSystem) :
    Option PythonCall × FileSystem :=
  match machine.config.getString "main".toList "disc_settings_table".toList with
  | .error _ => (none, fs)
  | .ok outputPath =>
      (some (.makeSimpleDiscSettingsTable "scripts.make_simple_disc_settings_table".toList
        machine.config.configFilePath (choose argv 0 0 id 20) (choose argv 1 1 id 20)
        (choose argv 2 2 id 15) outputPath), fs)

def readTemperatureSensors (argv : List Int) (fs : FileSystem) : Option PythonCall × FileSystem :=
  (some (.readTemperatureSensors "scripts.read_temperature_sensors".toList
    (choose argv 0 0 Int.cast 0) (choose argv 1 1 Int.cast 60) "/dev/null".toList
    (choose argv 2 2 asBool true) (choose argv 3 3 asBool false)), fs)

/-- The three handlers differ in the mode. -/
def acquireThreshold (machine : Machine) (now : Int) (mode : Text) (argv : List Int)
    (fs : FileSystem) : Option PythonCall × FileSystem :=
  match makeFilePathWithTimestamp machine fs machine.config.getCalibrationDir discStem
    (getCurrentTimestamp now) [] with
  | (none, fs) => (none, fs)
  | (some outFilePrefix, fs) =>
      (some (.acquireThresholdCalibration "scripts.acquire_threshold_calibration".toList
        machine.config.configFilePath outFilePrefix (choose argv 0 0 id 4) (choose argv 1 1 id 4)
        (choose argv 2 2 asBool false) mode), fs)

def acquireThresholdCalibration (machine : Machine) (now : Int) (argv : List Int)
    (fs : FileSystem) : Option PythonCall × FileSystem :=
  acquireThreshold machine now "all".toList argv fs

def acquireThresholdCalibrationBN (machine : Machine) (now : Int) (argv : List Int)
    (fs : FileSystem) : Option PythonCall × FileSystem :=
  acquireThreshold machine now "baseline_noise".toList argv fs

def acquireThresholdCalibrationD (machine : Machine) (now : Int) (argv : List Int)
    (fs : FileSystem) : Option PythonCall × FileSystem :=
  acquireThreshold machine now "dark".toList argv fs

def acquireSipmData (machine : Machine) (now : Int) (argv : List Int) (fs : FileSystem) :
    Option PythonCall × FileSystem :=
  match makeFilePathWithTimestamp machine fs machine.config.getSTG0Dir ConversionCommands.runStem
    (getCurrentTimestamp now) [] with
  | (none, fs) => (none, fs)
  | (some fileNamePrefix, fs) =>
      (some (.acquireSipmData "scripts.acquire_sipm_data".toList machine.config.configFilePath
        fileNamePrefix (choose argv 0 0 Int.cast 60) "qdc".toList (choose argv 1 1 asBool false)
        []), fs)

def calls {α : Type} (wrap : α → Call) (made : Option α × FileSystem) : Option Call × FileSystem :=
  (made.1.map wrap, made.2)

/-- The command table up to the calls, without the handlers that read no
argument; `now` is the clock. -/
def handle (machine : Machine) (now : Int) (outputFirst : Bool) (argv : List Int)
    (fs : FileSystem) : TOFCommandCode → Option Call × FileSystem
  | .runMakeBiasCalibTable => calls .python (makeBiasCalibTable machine argv fs)
  | .runMakeSimpleBiasSetTable => calls .python (makeSimpleBiasSetTable machine argv fs)
  | .runMakeSimpleDiscSetTable => calls .python (makeSimpleDiscSetTable machine argv fs)
  | .runReadTemperatureSensors => calls .python (readTemperatureSensors argv fs)
  | .runAcquireThresholdCalibration =>
      calls .python (acquireThresholdCalibration machine now argv fs)
  | .runAcquireThresholdCalibrationBN =>
      calls .python (acquireThresholdCalibrationBN machine now argv fs)
  | .runAcquireThresholdCalibrationD =>
      calls .python (acquireThresholdCalibrationD machine now argv fs)
  | .runAcquireSiPMData => calls .python (acquireSipmData machine now argv fs)
  | .runProcessTDCCalibration =>
      calls (fun made => .calibration made.2) (prepare machine (tdcCalibration machine argv) fs)
  | .runProcessQDCCalibration =>
      calls (fun made => .calibration made.2) (prepare machine (qdcCalibration machine argv) fs)
  | .runConvertRawToRaw =>
      calls .conversion (ConversionCommands.convertRawToRaw machine outputFirst argv fs)
  | .runConvertRawToSingles =>
      calls .conversion (ConversionCommands.convertRawToSingles machine outputFirst argv fs)
  | _ => (none, fs)

inductive Value where
  | int (number : Int)
  | ints (numbers : List Int)
  | longLong (number : Int)
  | fileType (number : Int)
  | float (number : ℚ)
  | double (number : ℚ)
  | bool (set : Bool)
  deriving DecidableEq, Repr

/-- The optional parameters of a call in the order of their positions. -/
def Call.optional : Call → List Value
  | .python (.makeBiasCalibrationTable _ _ portIDs slaveIDs slotIDs _) =>
      [.ints portIDs, .ints slaveIDs, .ints slotIDs]
  | .python (.makeSimpleBiasSettingsTable _ _ offset prebd bd overvoltage _) =>
      [.float offset, .float prebd, .float bd, .float overvoltage]
  | .python (.makeSimpleDiscSettingsTable _ _ vthT1 vthT2 vthE _) =>
      [.int vthT1, .int vthT2, .int vthE]
  | .python (.readTemperatureSensors _ acqTime interval _ startup debug) =>
      [.double acqTime, .double interval, .bool startup, .bool debug]
  | .python (.acquireThresholdCalibration _ _ _ noiseReads darkReads extBias _) =>
      [.int noiseReads, .int darkReads, .bool extBias]
  | .python (.acquireSipmData _ _ _ acquisitionTime _ hwTrigger _) =>
      [.double acquisitionTime, .bool hwTrigger]
  | .calibration (.threshold _ _ _ _) => []
  | .calibration (.tdc _ _ _ _ doSorting keepTemporary nominalM) =>
      [.bool doSorting, .bool keepTemporary, .float nominalM]
  | .calibration (.qdc _ _ _ _ doSorting keepTemporary nominalM) =>
      [.bool doSorting, .bool keepTemporary, .float nominalM]
  | .conversion (.rawToRaw _ _ _ eventFractionToWrite) => [.longLong eventFractionToWrite]
  | .conversion (.rawToSingles _ _ _ fileType eventFractionToWrite fileSplitTime) =>
      [.fileType fileType, .longLong eventFractionToWrite, .double fileSplitTime]

structure Parameter where
  convert : Int → Value
  otherwise : Value

def Parameter.value (parameter : Parameter) (argument : Option Int) : Value :=
  argument.elim parameter.otherwise parameter.convert

def flag (otherwise : Bool) : Parameter := ⟨fun arg => .bool (asBool arg), .bool otherwise⟩

def whole (otherwise : Int) : Parameter := ⟨.int, .int otherwise⟩

def vector (otherwise : Int) : Parameter := ⟨fun arg => .ints [arg], .ints [otherwise]⟩

def large (otherwise : Int) : Parameter := ⟨.longLong, .longLong otherwise⟩

def single (otherwise : ℚ) : Parameter := ⟨fun arg => .float arg, .float otherwise⟩

def precise (otherwise : ℚ) : Parameter := ⟨fun arg => .double arg, .double otherwise⟩

/-- The types and defaults the handlers name, by position. -/
def parameters : TOFCommandCode → List Parameter
  | .runMakeBiasCalibTable => [vector 0, vector 0, vector 0]
  | .runMakeSimpleBiasSetTable => [single 0.75, single 20, single 24.9, single 5]
  | .runMakeSimpleDiscSetTable => [whole 20, whole 20, whole 15]
  | .runReadTemperatureSensors => [precise 0, precise 60, flag true, flag false]
  | .runAcquireThresholdCalibration => [whole 4, whole 4, flag false]
  | .runAcquireThresholdCalibrationBN => [whole 4, whole 4, flag false]
  | .runAcquireThresholdCalibrationD => [whole 4, whole 4, flag false]
  | .runAcquireSiPMData => [precise 60, flag false]
  | .runProcessTDCCalibration => [flag true, flag false, single 200]
  | .runProcessQDCCalibration => [flag true, flag false, single 200]
  | .runConvertRawToRaw => [large 1024]
  | .runConvertRawToSingles =>
      [⟨.fileType, .fileType ConversionCommands.fileRoot⟩, large 1024, precise 0]
  | _ => []

/-- Each parameter of the call is the argument at its position, if there is one. -/
def Obeys (command : TOFCommandCode) (argv : List Int) : Prop :=
  ∀ machine now outputFirst fs call after,
    handle machine now outputFirst argv fs command = (some call, after) →
      ∀ (position : Nat) (parameter : Parameter),
        (parameters command)[position]? = some parameter →
          call.optional[position]? = some (parameter.value argv[position]?)

theorem choose_value {α : Type} (argv : List Int) (position : Nat) (convert : Int → α)
    (otherwise : α) :
    choose argv position position convert otherwise = (argv[position]?).elim otherwise convert := by
  unfold choose
  split
  · next there => rw [List.getElem?_eq_getElem there, List.getD_eq_getElem _ _ there]; rfl
  · next absent => rw [List.getElem?_eq_none (Nat.le_of_not_gt absent)]; rfl

/-- A test and an index that match choose what is meant, in any type. -/
theorem parameter_value {α : Type} (wrap : α → Value) (argv : List Int) (position : Nat)
    (convert : Int → α) (otherwise : α) :
    (Parameter.mk (fun arg => wrap (convert arg)) (wrap otherwise)).value argv[position]? =
      wrap (choose argv position position convert otherwise) := by
  rw [choose_value]
  cases argv[position]? <;> rfl

section Kinds
variable (argv : List Int) (position : Nat)

theorem flag_value (otherwise : Bool) : (flag otherwise).value argv[position]? =
    .bool (choose argv position position asBool otherwise) :=
  parameter_value _ _ _ _ _

theorem whole_value (otherwise : Int) : (whole otherwise).value argv[position]? =
    .int (choose argv position position id otherwise) :=
  parameter_value _ _ _ _ _

theorem vector_value (otherwise : Int) : (vector otherwise).value argv[position]? =
    .ints [choose argv position position id otherwise] :=
  parameter_value (fun arg => .ints [arg]) _ _ _ _

theorem single_value (otherwise : ℚ) : (single otherwise).value argv[position]? =
    .float (choose argv position position Int.cast otherwise) :=
  parameter_value _ _ _ _ _

theorem precise_value (otherwise : ℚ) : (precise otherwise).value argv[position]? =
    .double (choose argv position position Int.cast otherwise) :=
  parameter_value _ _ _ _ _

end Kinds

def expected (command : TOFCommandCode) (argv : List Int) : List Value :=
  (parameters command).mapIdx fun position parameter => parameter.value argv[position]?

theorem prepare_call (machine : Machine) (calibration : Calibration) (fs after : FileSystem)
    (timestamp : Text) (call : CalibrationCommands.Call)
    (made : prepare machine calibration fs = (some (timestamp, call), after)) :
    ∃ input output tmp,
      call = calibration.call machine.config.configFilePath input output tmp := by
  unfold prepare at made
  dsimp only at made
  split at made
  · cases made
  · split at made
    · cases made
    · split at made
      · cases made
      · split at made
        · cases made
        · cases made
          exact ⟨_, _, _, rfl⟩

theorem conversion_call (machine : Machine) (outputFirst : Bool) (fs after : FileSystem)
    (outputExt : Text) (input : Text → FileSystem → Option Text × FileSystem)
    (build : Text → Text → ConversionCommands.Call) (call : ConversionCommands.Call)
    (made : ConversionCommands.prepare machine outputFirst fs outputExt input build =
      (some call, after)) :
    ∃ inputFilePrefix outputFileName, call = build inputFilePrefix outputFileName := by
  unfold ConversionCommands.prepare at made
  split at made
  · cases made
  · split at made
    · cases made
    · cases made
      exact ⟨_, _, rfl⟩

theorem made_call {α : Type} {wrap : α → Call} {made : Option α × FileSystem} {call : Call}
    {after : FileSystem} (wrapped : calls wrap made = (some call, after)) :
    ∃ inner, made = (some inner, after) ∧ call = wrap inner := by
  obtain ⟨found, fs⟩ := made
  cases found with
  | none => cases wrapped
  | some inner =>
    cases wrapped
    exact ⟨inner, rfl, rfl⟩

attribute [local simp] Call.optional expected parameters

section Handlers
variable {machine : Machine} {now : Int} {argv : List Int} {fs after : FileSystem}
  {call : PythonCall}

theorem make_bias_calib_table_optional
    (made : makeBiasCalibTable machine argv fs = (some call, after)) :
    (Call.python call).optional = expected .runMakeBiasCalibTable argv := by
  unfold makeBiasCalibTable at made
  split at made
  · cases made
  · cases made
    simp [vector_value]

theorem make_simple_bias_set_table_optional
    (made : makeSimpleBiasSetTable machine argv fs = (some call, after)) :
    (Call.python call).optional = expected .runMakeSimpleBiasSetTable argv := by
  unfold makeSimpleBiasSetTable at made
  split at made
  · cases made
  · cases made
    simp [single_value]

theorem make_simple_disc_set_table_optional
    (made : makeSimpleDiscSetTable machine argv fs = (some call, after)) :
    (Call.python call).optional = expected .runMakeSimpleDiscSetTable argv := by
  unfold makeSimpleDiscSetTable at made
  split at made
  · cases made
  · cases made
    simp [whole_value]

theorem read_temperature_sensors_optional
    (made : readTemperatureSensors argv fs = (some call, after)) :
    (Call.python call).optional = expected .runReadTemperatureSensors argv := by
  cases made
  simp [precise_value, flag_value]

theorem acquire_threshold_optional (mode : Text)
    (made : acquireThreshold machine now mode argv fs = (some call, after)) :
    (Call.python call).optional = expected .runAcquireThresholdCalibration argv := by
  unfold acquireThreshold at made
  split at made
  · cases made
  · cases made
    simp [whole_value, flag_value]

theorem acquire_sipm_data_optional
    (made : acquireSipmData machine now argv fs = (some call, after)) :
    (Call.python call).optional = expected .runAcquireSiPMData argv := by
  unfold acquireSipmData at made
  split at made
  · cases made
  · cases made
    simp [precise_value, flag_value]

end Handlers

theorem sorting_arguments (argv : List Int) :
    [.bool (doSorting argv), .bool (keepTmp argv), .float (nominalM argv)] =
      expected .runProcessTDCCalibration argv := by
  have sorts : (flag true).value argv[0]? = .bool (doSorting argv) := by
    unfold doSorting
    cases argv[0]? <;> rfl
  have keeps : (flag false).value argv[1]? = .bool (keepTmp argv) := by
    unfold keepTmp
    cases argv[1]? <;> rfl
  have nominal : (single 200).value argv[2]? = .float (nominalM argv) := by
    unfold nominalM
    cases argv[2]? <;> rfl
  simp [sorts, keeps, nominal]

theorem singles_arguments (argv : List Int) :
    [.fileType ((argv[0]?).getD ConversionCommands.fileRoot), .longLong ((argv[1]?).getD 1024),
      .double (((argv[2]?).getD 0 : Int) : ℚ)] = expected .runConvertRawToSingles argv := by
  have fraction : (large 1024).value argv[1]? = .longLong ((argv[1]?).getD 1024) := by
    cases argv[1]? <;> rfl
  have time : (precise 0).value argv[2]? = .double (((argv[2]?).getD 0 : Int) : ℚ) := by
    cases argv[2]? <;> rfl
  have format : (Parameter.mk .fileType (.fileType ConversionCommands.fileRoot)).value argv[0]? =
      .fileType ((argv[0]?).getD ConversionCommands.fileRoot) := by
    cases argv[0]? <;> rfl
  simp [format, fraction, time]

theorem handle_optional (machine : Machine) (now : Int) (outputFirst : Bool) (argv : List Int)
    (fs after : FileSystem) (command : TOFCommandCode) (call : Call)
    (matched : command ≠ .runConvertRawToRaw)
    (made : handle machine now outputFirst argv fs command = (some call, after)) :
    call.optional = expected command argv := by
  unfold handle at made
  split at made
  · obtain ⟨_, inner, rfl⟩ := made_call made
    exact make_bias_calib_table_optional inner
  · obtain ⟨_, inner, rfl⟩ := made_call made
    exact make_simple_bias_set_table_optional inner
  · obtain ⟨_, inner, rfl⟩ := made_call made
    exact make_simple_disc_set_table_optional inner
  · obtain ⟨_, inner, rfl⟩ := made_call made
    exact read_temperature_sensors_optional inner
  · obtain ⟨_, inner, rfl⟩ := made_call made
    exact acquire_threshold_optional _ inner
  · obtain ⟨_, inner, rfl⟩ := made_call made
    exact acquire_threshold_optional _ inner
  · obtain ⟨_, inner, rfl⟩ := made_call made
    exact acquire_threshold_optional _ inner
  · obtain ⟨_, inner, rfl⟩ := made_call made
    exact acquire_sipm_data_optional inner
  · obtain ⟨⟨_, _⟩, inner, rfl⟩ := made_call made
    obtain ⟨_, _, _, rfl⟩ := prepare_call _ _ _ _ _ _ inner
    exact sorting_arguments argv
  · obtain ⟨⟨_, _⟩, inner, rfl⟩ := made_call made
    obtain ⟨_, _, _, rfl⟩ := prepare_call _ _ _ _ _ _ inner
    exact sorting_arguments argv
  · exact absurd rfl matched
  · obtain ⟨_, inner, rfl⟩ := made_call made
    obtain ⟨_, _, rfl⟩ := conversion_call _ _ _ _ _ _ _ _ inner
    exact singles_arguments argv
  · cases made

/-- The one whose test is for the second argument and whose index is the first. -/
theorem raw_to_raw_optional (machine : Machine) (now : Int) (outputFirst : Bool) (argv : List Int)
    (fs after : FileSystem) (call : Call)
    (made : handle machine now outputFirst argv fs .runConvertRawToRaw = (some call, after)) :
    call.optional = [.longLong (choose argv 1 0 id 1024)] := by
  obtain ⟨_, inner, rfl⟩ := made_call made
  obtain ⟨_, _, rfl⟩ := conversion_call _ _ _ _ _ _ _ _ inner
  cases argv <;> rfl

theorem choose_mismatched_iff (argv : List Int) :
    choose argv 1 0 id 1024 = (argv[0]?).getD 1024 ↔ ∀ arg, argv = [arg] → arg = 1024 := by
  match argv with
  | [] => simp [choose]
  | [arg] => simp [choose, eq_comm]
  | first :: second :: rest => simp [choose]

theorem raw_to_raw_made (argv : List Int) (one : argv.length ≤ 1) :
    ∃ call after, handle ConversionCommands.inFlight 0 false argv ConversionCommands.oneRun
      .runConvertRawToRaw = (some call, after) := by
  have same : ConversionCommands.convertRawToRaw ConversionCommands.inFlight false argv
      ConversionCommands.oneRun = ConversionCommands.convertRawToRaw ConversionCommands.inFlight
        false [] ConversionCommands.oneRun := by
    unfold ConversionCommands.convertRawToRaw
    rw [if_neg (Nat.not_lt.mpr one), if_neg (by decide)]
  have there : (ConversionCommands.convertRawToRaw ConversionCommands.inFlight false []
      ConversionCommands.oneRun).1.isSome = true := by decide +kernel
  obtain ⟨call, found⟩ := Option.isSome_iff_exists.mp there
  refine ⟨.conversion call, (ConversionCommands.convertRawToRaw ConversionCommands.inFlight false
    [] ConversionCommands.oneRun).2, ?_⟩
  unfold handle calls
  rw [same, found]
  rfl

/-- The arguments of RUN_CONVERT_RAW_TO_RAW are passed on as meant unless there is one only. -/
theorem obeys_iff (command : TOFCommandCode) (argv : List Int) :
    Obeys command argv ↔
      ∀ arg, command = .runConvertRawToRaw → argv = [arg] → arg = 1024 := by
  constructor
  · rintro obeys arg rfl rfl
    obtain ⟨call, after, made⟩ := raw_to_raw_made [arg] le_rfl
    have read := obeys _ _ _ _ _ _ made 0 (large 1024) rfl
    rw [raw_to_raw_optional _ _ _ _ _ _ _ made] at read
    injection read with passed
    injection passed with same
    exact same.symm
  · intro allowed machine now outputFirst fs call after made position parameter named
    have meant : call.optional = expected command argv := by
      by_cases matched : command = .runConvertRawToRaw
      · subst matched
        rw [raw_to_raw_optional _ _ _ _ _ _ _ made,
          (choose_mismatched_iff argv).mpr fun arg => allowed arg rfl]
        cases argv <;> rfl
      · exact handle_optional _ _ _ _ _ _ _ _ matched made
    rw [meant, expected, List.getElem?_mapIdx, named]
    rfl

/-- A fraction of 512 asked for with one argument is not taken. -/
theorem lone_fraction_ignored : ¬ ∀ command argv, Obeys command argv := by
  intro always
  obtain ⟨call, after, made⟩ := raw_to_raw_made [512] le_rfl
  have read := always .runConvertRawToRaw [512] _ _ _ _ _ _ made 0 (large 1024) rfl
  rw [raw_to_raw_optional _ _ _ _ _ _ _ made] at read
  exact absurd read (by decide)

end GramsTof.OptionalArguments
