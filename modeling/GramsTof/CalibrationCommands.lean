import GramsTof.CopyOrLink
import GramsTof.Timestamps

/-!
The handlers of RUN_PROCESS_THRESHOLD_CALIBRATION, RUN_PROCESS_TDC_CALIBRATION
and RUN_PROCESS_QDC_CALIBRATION. They differ in their names, directories and
arguments only. What the analyzer does is an argument: how it ends, whether it
has written its table, and the files it leaves.
-/

namespace GramsTof.CalibrationCommands

open ConfigPaths ConfigState CopyOrLink Timestamps

/-- What a command finds. `iteration` is the order a `directory_iterator`
gives the names of a directory in. -/
structure Machine where
  config : Config
  currentPath : Text
  iteration : FileSystem → Text → List Text
  directoryRefused : Text → Bool
  linkRefused : Refusals

/-- The status of an entry; a link in a circle throws. -/
def looping (fs : FileSystem) (dir name : Text) : Bool :=
  status fs (appendPath dir name) = .tooManyLinks

def regularFile (fs : FileSystem) (dir name : Text) : Bool :=
  match status fs (appendPath dir name) with
  | .found (.file _) => true
  | _ => false

def directory (machine : Machine) (fs : FileSystem) (dir : Text) : Option (List Entry) :=
  if status fs dir = .found .directory then
    some (((machine.iteration fs dir).takeWhile fun name => !looping fs dir name).map
      fun name => ⟨name, regularFile fs dir name⟩)
  else none

/-- All entries are looked at. -/
def latestTimestamp (machine : Machine) (fs : FileSystem) (dir : Text) (stem suffix : Pattern) :
    Option Text :=
  if (machine.iteration fs dir).any (looping fs dir) then none
  else (getLatestTimestamp (directory machine fs dir) stem suffix).toOption

/-- The first match is returned, so that what is behind it may throw. -/
def fileByTimestamp (machine : Machine) (fs : FileSystem) (dir : Text) (stem : Pattern)
    (timestamp : Text) : Option Text :=
  (getFileByTimestamp (directory machine fs dir) stem timestamp emptyPattern).toOption.map
    (appendPath dir)

/-- A directory and those above it, up to the root. -/
def upwards : Nat → Text → List Text
  | 0, _ => []
  | depth + 1, path =>
      if stripSlashes path = [] then [] else path :: upwards depth (parentPath path)

def makeDirectories (refused : Text → Bool) : FileSystem → List Text → Bool × FileSystem
  | fs, [] => (true, fs)
  | fs, path :: rest =>
      if refused path ∨ fs path ≠ none then (false, fs)
      else makeDirectories refused (set fs path (some .directory)) rest

/-- `fs::create_directories` -/
def createDirectories (fs : FileSystem) (refused : Text → Bool) (dir : Text) : Bool × FileSystem :=
  let all := upwards dir.length dir
  match all.dropWhile fun path => status fs path = .missing with
  | [] => makeDirectories refused fs all.reverse
  | path :: _ =>
      if status fs path = .found .directory then
        makeDirectories refused fs (all.takeWhile fun path => status fs path = .missing).reverse
      else (false, fs)

/-- `none` is an exception. -/
def makeFilePathWithTimestamp (machine : Machine) (fs : FileSystem) (dir : Text) (stem : Pattern)
    (timestamp ext : Text) : Option Text × FileSystem :=
  let dotExt := if ext = [] then [] else if ext.head? = some '.' then ext else '.' :: ext
  let path := appendPath dir (stem.text ++ '_' :: (timestamp ++ dotExt))
  match status fs dir with
  | .tooManyLinks => (none, fs)
  | .found _ => (some path, fs)
  | .missing =>
      match createDirectories fs machine.directoryRefused dir with
      | (false, fs) => (none, fs)
      | (true, fs) => (some path, fs)

/-- The calls of the analyzer. `nominalM` is the number before its cast to
`float`. -/
inductive Call where
  | threshold (configFile inputFilePrefix outFileName rootFileName : Text)
  | tdc (configFile inputFilePrefix outputFilePrefix tmpFilePrefix : Text)
      (doSorting keepTemporary : Bool) (nominalM : Int)
  | qdc (configFile inputFilePrefix outputFilePrefix tmpFilePrefix : Text)
      (doSorting keepTemporary : Bool) (nominalM : Int)
  deriving DecidableEq, Repr

def Call.table : Call → Text
  | .threshold _ _ outFileName _ => outFileName
  | .tdc _ _ outputFilePrefix _ _ _ _ => outputFilePrefix ++ ".tsv".toList
  | .qdc _ _ outputFilePrefix _ _ _ _ => outputFilePrefix ++ ".tsv".toList

inductive Ended where
  | returned (success : Bool)
  | thrown
  deriving DecidableEq, Repr

structure Run where
  ended : Ended
  wroteTable : Bool
  after : FileSystem

/-- `GRAMS_TOF_Analyzer::safeRun` -/
def Run.safeRun (run : Run) : Bool :=
  match run.ended with
  | .returned success => success
  | .thrown => false

abbrev Analyzer := Call → FileSystem → Run

/-- What the three handlers differ in. -/
structure Calibration where
  stem : Pattern
  suffix : Pattern
  tableDir : Text
  tableExt : Text
  tmpExt : Text
  key : Text
  call : Text → Text → Text → Text → Call

/-- Up to the call of the analyzer: its time stamp and arguments. The input
and the temporary files are where the time stamp was found, so that the order
of the arguments does not matter. -/
def prepare (machine : Machine) (calibration : Calibration) (fs : FileSystem) :
    Option (Text × Call) × FileSystem :=
  let dir := machine.config.getCalibrationDir
  match latestTimestamp machine fs dir calibration.stem calibration.suffix with
  | none => (none, fs)
  | some timestamp =>
      match makeFilePathWithTimestamp machine fs dir calibration.stem timestamp [] with
      | (none, fs) => (none, fs)
      | (some input, fs) =>
          match makeFilePathWithTimestamp machine fs calibration.tableDir calibration.stem
            timestamp calibration.tableExt with
          | (none, fs) => (none, fs)
          | (some output, fs) =>
              match makeFilePathWithTimestamp machine fs dir calibration.stem timestamp
                calibration.tmpExt with
              | (none, fs) => (none, fs)
              | (some tmp, fs) =>
                  (some (timestamp,
                    calibration.call machine.config.configFilePath input output tmp), fs)

/-- From the return of the analyzer on. -/
def relink (machine : Machine) (calibration : Calibration) (timestamp : Text) (run : Run) :
    Bool × FileSystem :=
  match fileByTimestamp machine run.after calibration.tableDir calibration.stem timestamp with
  | none => (false, run.after)
  | some src =>
      match machine.config.getAbsolutePath machine.currentPath "main".toList calibration.key with
      | .error _ => (false, run.after)
      | .ok dst =>
          -- linked whatever the analyzer has returned
          match copyOrLink run.after machine.linkRefused src dst with
          | (.error _, fs) => (false, fs)
          | (.ok (), fs) => (run.safeRun, fs)

def processCalibration (machine : Machine) (analyzer : Analyzer) (calibration : Calibration)
    (fs : FileSystem) : Bool × FileSystem :=
  match prepare machine calibration fs with
  | (none, fs) => (false, fs)
  | (some (timestamp, call), fs) => relink machine calibration timestamp (analyzer call fs)

def discStem : Pattern := ⟨"disc_calibration".toList, plain_text _ (by decide)⟩

def qdcStem : Pattern := ⟨"qdc_calibration".toList, plain_text _ (by decide)⟩

def noiseSuffix : Pattern := ⟨"_noise.tsv".toList, plain_text _ (by decide)⟩

def doSorting (argv : List Int) : Bool :=
  match argv[0]? with
  | none => true
  | some arg => arg != 0

def keepTmp (argv : List Int) : Bool :=
  match argv[1]? with
  | none => false
  | some arg => arg != 0

def nominalM (argv : List Int) : Int := (argv[2]?).getD 200

def thresholdCalibration (machine : Machine) : Calibration :=
  { stem := discStem
    suffix := noiseSuffix
    tableDir := machine.config.getDiscDir
    tableExt := "tsv".toList
    tmpExt := "root".toList
    key := "disc_calibration_table".toList
    call := .threshold }

def tdcCalibration (machine : Machine) (argv : List Int) : Calibration :=
  { stem := tdcStem
    suffix := emptyPattern
    tableDir := machine.config.getTDCDir
    tableExt := []
    tmpExt := []
    key := "tdc_calibration_table".toList
    call := fun configFile input output tmp =>
      .tdc configFile input output tmp (doSorting argv) (keepTmp argv) (nominalM argv) }

def qdcCalibration (machine : Machine) (argv : List Int) : Calibration :=
  { stem := qdcStem
    suffix := emptyPattern
    tableDir := machine.config.getQDCDir
    tableExt := []
    tmpExt := []
    key := "qdc_calibration_table".toList
    call := fun configFile input output tmp =>
      .qdc configFile input output tmp (doSorting argv) (keepTmp argv) (nominalM argv) }

inductive Command where
  | threshold
  | tdc
  | qdc
  deriving DecidableEq, Repr

def Command.calibration (machine : Machine) (argv : List Int) : Command → Calibration
  | .threshold => thresholdCalibration machine
  | .tdc => tdcCalibration machine argv
  | .qdc => qdcCalibration machine argv

/-- The arguments of RUN_PROCESS_THRESHOLD_CALIBRATION are not read. -/
def runProcessThresholdCalibration (machine : Machine) (analyzer : Analyzer) (_argv : List Int)
    (fs : FileSystem) : Bool × FileSystem :=
  processCalibration machine analyzer (thresholdCalibration machine) fs

def runProcessTdcCalibration (machine : Machine) (analyzer : Analyzer) (argv : List Int)
    (fs : FileSystem) : Bool × FileSystem :=
  processCalibration machine analyzer (tdcCalibration machine argv) fs

def runProcessQdcCalibration (machine : Machine) (analyzer : Analyzer) (argv : List Int)
    (fs : FileSystem) : Bool × FileSystem :=
  processCalibration machine analyzer (qdcCalibration machine argv) fs

def handle (machine : Machine) (analyzer : Analyzer) (argv : List Int) (fs : FileSystem) :
    Command → Bool × FileSystem
  | .threshold => runProcessThresholdCalibration machine analyzer argv fs
  | .tdc => runProcessTdcCalibration machine analyzer argv fs
  | .qdc => runProcessQdcCalibration machine analyzer argv fs

theorem handle_calibration (machine : Machine) (analyzer : Analyzer) (argv : List Int)
    (fs : FileSystem) (command : Command) :
    handle machine analyzer argv fs command =
      processCalibration machine analyzer (command.calibration machine argv) fs := by
  cases command <;> rfl

/-- The analyzer is called and leaves this run behind. -/
def Reaches (machine : Machine) (analyzer : Analyzer) (calibration : Calibration)
    (fs : FileSystem) (timestamp : Text) (call : Call) (run : Run) : Prop :=
  ∃ prepared, prepare machine calibration fs = (some (timestamp, call), prepared) ∧
    run = analyzer call prepared

def Points (fs : FileSystem) (dst path : Text) : Prop :=
  ∃ target, fs dst = some (.link target) ∧ linkedPath dst target = path

/-- The table a command writes, in a run that has written it. -/
def Written (machine : Machine) (call : Call) (run : Run) (path : Text) : Prop :=
  run.wroteTable = true ∧ path = appendPath machine.currentPath call.table

/-- A command that returns false leaves the link as it was, and one that
returns true has it point to the table it has written. -/
def Activates (machine : Machine) (analyzer : Analyzer) (command : Command) (argv : List Int)
    (fs : FileSystem) (dst : Text) : Prop :=
  ((handle machine analyzer argv fs command).1 = false →
    (handle machine analyzer argv fs command).2 dst = fs dst) ∧
  ((handle machine analyzer argv fs command).1 = true →
    ∃ timestamp call run table,
      Reaches machine analyzer (command.calibration machine argv) fs timestamp call run ∧
      Written machine call run table ∧
      Points (handle machine analyzer argv fs command).2 dst table)

/-- The table that is found may be linked: the old link is in nobody's way. -/
def Linkable (machine : Machine) (run : Run) (src dst : Text) : Prop :=
  (Replaces run.after machine.linkRefused src dst ∨ Adds run.after machine.linkRefused src dst) ∧
    machine.linkRefused.create = false

/-- The old link may be removed, and the new one not be made. -/
def Loses (machine : Machine) (run : Run) (src dst : Text) : Prop :=
  Replaces run.after machine.linkRefused src dst ∧ machine.linkRefused.create = true

/-- What a call of the analyzer has to do, for the command to have the link
right: `found` is the file `getFileByTimestamp` returns. -/
structure RunActivates (machine : Machine) (fs : FileSystem) (dst : Text) (call : Call)
    (run : Run) (found : Option Text) : Prop where
  unlinked : (∀ src, found = some src →
    ¬ Linkable machine run src dst ∧ ¬ Loses machine run src dst) → run.after dst = fs dst
  lost : ∀ src, found = some src → Loses machine run src dst → fs dst = none
  failed : ∀ src, found = some src → Linkable machine run src dst → run.safeRun = false →
    fs dst = some (.link src)
  passed : ∀ src, found = some src → Linkable machine run src dst → run.safeRun = true →
    Written machine call run (linkedPath dst src)

/-- A command that stops before the analyzer has not touched the link, and
where it does not stop the run is one that has the link right. -/
def LinkSafe (machine : Machine) (analyzer : Analyzer) (calibration : Calibration)
    (fs : FileSystem) (dst : Text) : Prop :=
  match prepare machine calibration fs with
  | (none, stopped) => stopped dst = fs dst
  | (some (timestamp, call), prepared) =>
      RunActivates machine fs dst call (analyzer call prepared)
        (fileByTimestamp machine (analyzer call prepared).after calibration.tableDir
          calibration.stem timestamp)

theorem relink_cases (machine : Machine) (calibration : Calibration) (timestamp : Text) (run : Run)
    (dst : Text)
    (configured : machine.config.getAbsolutePath machine.currentPath "main".toList calibration.key =
      .ok dst) :
    (fileByTimestamp machine run.after calibration.tableDir calibration.stem timestamp = none ∧
      relink machine calibration timestamp run = (false, run.after)) ∨
    ∃ src, fileByTimestamp machine run.after calibration.tableDir calibration.stem timestamp =
        some src ∧
      (Linkable machine run src dst ∧ relink machine calibration timestamp run =
          (run.safeRun, set run.after dst (some (.link src))) ∨
        Loses machine run src dst ∧ relink machine calibration timestamp run =
          (false, set run.after dst none) ∨
        ¬ Linkable machine run src dst ∧ ¬ Loses machine run src dst ∧
          relink machine calibration timestamp run = (false, run.after)) := by
  unfold relink
  cases found : fileByTimestamp machine run.after calibration.tableDir calibration.stem
      timestamp with
  | none => exact Or.inl ⟨rfl, rfl⟩
  | some src =>
      refine Or.inr ⟨src, rfl, ?_⟩
      simp only [configured]
      -- the three outcomes of `copyOrLink`, by what may be removed and made
      by_cases linkable : Linkable machine run src dst
      · left
        rw [link_made run.after machine.linkRefused src dst linkable.1 linkable.2]
        exact ⟨linkable, rfl⟩
      by_cases loses : Loses machine run src dst
      · right; left
        rw [link_lost run.after machine.linkRefused src dst loses.1 loses.2]
        exact ⟨loses, rfl⟩
      · right; right
        have notReplaced : ¬ Replaces run.after machine.linkRefused src dst := by
          intro replaces
          cases denied : machine.linkRefused.create with
          | true => exact loses ⟨replaces, denied⟩
          | false => exact linkable ⟨Or.inl replaces, denied⟩
        have notAdded : ¬ Adds run.after machine.linkRefused src dst ∨
            machine.linkRefused.create = true := by
          cases denied : machine.linkRefused.create with
          | true => exact Or.inr rfl
          | false => exact Or.inl fun adds => linkable ⟨Or.inr adds, denied⟩
        obtain ⟨fault, untouched⟩ :=
          link_untouched run.after machine.linkRefused src dst notReplaced notAdded
        rw [untouched]
        exact ⟨linkable, loses, rfl⟩

theorem lost_not_linkable (machine : Machine) (run : Run) (src dst : Text)
    (loses : Loses machine run src dst) : ¬ Linkable machine run src dst := by
  intro linkable
  have denied := loses.2
  rw [linkable.2] at denied
  cases denied

def Promised (machine : Machine) (fs : FileSystem) (dst : Text) (call : Call) (run : Run)
    (result : Bool × FileSystem) : Prop :=
  (result.1 = false → result.2 dst = fs dst) ∧
    (result.1 = true → ∃ table, Written machine call run table ∧ Points result.2 dst table)

theorem linked_promised_iff (machine : Machine) (fs : FileSystem) (dst src : Text) (call : Call)
    (run : Run) :
    Promised machine fs dst call run
        (run.safeRun, set run.after dst (some (.link src))) ↔
      (run.safeRun = false → fs dst = some (.link src)) ∧
      (run.safeRun = true → Written machine call run (linkedPath dst src)) := by
  unfold Promised
  simp only [set_here]
  constructor
  · rintro ⟨kept, active⟩
    refine ⟨fun failed => (kept failed).symm, ?_⟩
    intro passed
    obtain ⟨table, written, target, link, leads⟩ := active passed
    simp only [set_here, Option.some.injEq, Node.link.injEq] at link
    rw [link, leads]
    exact written
  · rintro ⟨failed, passed⟩
    refine ⟨fun false => (failed false).symm, ?_⟩
    intro true
    exact ⟨linkedPath dst src, passed true, src, set_here _ _ _, rfl⟩

theorem untouched_promised_iff (machine : Machine) (fs after : FileSystem) (dst : Text)
    (call : Call) (run : Run) :
    Promised machine fs dst call run (false, after) ↔ after dst = fs dst := by
  constructor
  · exact fun promised => promised.1 rfl
  · intro same
    refine ⟨fun _ => same, ?_⟩
    intro wrong
    cases wrong

theorem relink_promised_iff (machine : Machine) (calibration : Calibration) (fs : FileSystem)
    (timestamp dst : Text) (call : Call) (run : Run)
    (configured : machine.config.getAbsolutePath machine.currentPath "main".toList calibration.key =
      .ok dst) :
    Promised machine fs dst call run (relink machine calibration timestamp run) ↔
      RunActivates machine fs dst call run
        (fileByTimestamp machine run.after calibration.tableDir calibration.stem timestamp) := by
  -- no match, or a match whose link is made, lost or left as it was
  rcases relink_cases machine calibration timestamp run dst configured with
    ⟨nothing, ended⟩ | ⟨src, found, linked | lost | kept⟩
  · rw [ended, untouched_promised_iff, nothing]
    constructor
    · intro same
      refine ⟨fun _ => same, ?_, ?_, ?_⟩
      · rintro _ ⟨⟩
      · rintro _ ⟨⟩
      · rintro _ ⟨⟩
    · intro safe
      apply safe.unlinked
      rintro _ ⟨⟩
  · obtain ⟨linkable, ended⟩ := linked
    rw [ended, linked_promised_iff, found]
    constructor
    · rintro ⟨failed, passed⟩
      refine ⟨fun none => absurd linkable (none src rfl).1, ?_, ?_, ?_⟩
      · rintro _ ⟨⟩ loses
        exact absurd linkable (lost_not_linkable machine run src dst loses)
      · rintro _ ⟨⟩ _
        exact failed
      · rintro _ ⟨⟩ _
        exact passed
    · exact fun safe => ⟨safe.failed src rfl linkable, safe.passed src rfl linkable⟩
  · obtain ⟨loses, ended⟩ := lost
    have notLinkable := lost_not_linkable machine run src dst loses
    rw [ended, untouched_promised_iff, set_here, found]
    constructor
    · intro absent
      refine ⟨fun none => absurd loses (none src rfl).2, ?_, ?_, ?_⟩
      · exact fun _ _ _ => absent.symm
      · rintro _ ⟨⟩ linkable
        exact absurd linkable notLinkable
      · rintro _ ⟨⟩ linkable
        exact absurd linkable notLinkable
    · exact fun safe => (safe.lost src rfl loses).symm
  · obtain ⟨notLinkable, notLost, ended⟩ := kept
    rw [ended, untouched_promised_iff, found]
    constructor
    · intro same
      refine ⟨fun _ => same, ?_, ?_, ?_⟩
      · rintro _ ⟨⟩ loses
        exact absurd loses notLost
      · rintro _ ⟨⟩ linkable
        exact absurd linkable notLinkable
      · rintro _ ⟨⟩ linkable
        exact absurd linkable notLinkable
    · intro safe
      apply safe.unlinked
      rintro _ ⟨⟩
      exact ⟨notLinkable, notLost⟩

/-- A failed calibration does not become the active table, and a successful
one does, exactly under `LinkSafe`, for each of the three commands. -/
theorem calibration_activates_iff (machine : Machine) (analyzer : Analyzer) (command : Command)
    (argv : List Int) (fs : FileSystem) (dst : Text)
    (configured : machine.config.getAbsolutePath machine.currentPath "main".toList
      (command.calibration machine argv).key = .ok dst) :
    Activates machine analyzer command argv fs dst ↔
      LinkSafe machine analyzer (command.calibration machine argv) fs dst := by
  unfold Activates
  rw [handle_calibration]
  generalize command.calibration machine argv = calibration at configured ⊢
  unfold LinkSafe processCalibration
  cases prepared : prepare machine calibration fs with
  | mk arguments fsBefore =>
  cases arguments with
  -- the handler returned before the analyzer
  | none =>
      simp only
      constructor
      · exact fun kept => kept.1 trivial
      · intro same
        refine ⟨fun _ => same, ?_⟩
        intro wrong
        cases wrong
  | some arguments =>
      obtain ⟨timestamp, call⟩ := arguments
      simp only
      rw [← relink_promised_iff machine calibration fs timestamp dst call (analyzer call fsBefore)
        configured, Promised]
      apply and_congr_right
      intro _
      apply imp_congr_right
      intro _
      constructor
      · -- there is only one run this can have been
        rintro ⟨_, _, _, table, ⟨_, same, rfl⟩, written, points⟩
        rw [prepared] at same
        cases same
        exact ⟨table, written, points⟩
      · rintro ⟨table, written, points⟩
        exact ⟨timestamp, call, analyzer call fsBefore, table, ⟨fsBefore, prepared, rfl⟩, written,
          points⟩

/-- Directories and the link to a table, with a run to process. -/
def recorded : FileSystem := fun path =>
  if path = "/d/calibration".toList ∨ path = "/d/tdc".toList then some .directory
  else if path = "/d/calibration/tdc_calibration_2025-01-01_00-00-00.0Z.rawf".toList then
    some (.file [])
  else if path = "/d/old.tsv".toList then some (.file [])
  else if path = "/tdc.tsv".toList then some (.link "/d/old.tsv".toList)
  else none

def listed (fs : FileSystem) (dir : Text) : List Text :=
  if dir = "/d/calibration".toList then ["tdc_calibration_2025-01-01_00-00-00.0Z.rawf".toList]
  else ["tdc_calibration_2025-01-01_00-00-00.0Z.tsv".toList].filter fun name =>
    (fs (appendPath dir name)).isSome

def flight : Machine :=
  { config :=
      { data := Data.empty.assign "main".toList "tdc_calibration_table".toList "tdc.tsv".toList
        configDir := "/".toList
        configFilePath := "/config.ini".toList
        tofdataDir := "/d".toList
        loaded := true }
    currentPath := "/".toList
    iteration := listed
    directoryRefused := fun _ => false
    linkRefused := noRefusals }

def writing : Analyzer := fun call fs =>
  { ended := .returned true, wroteTable := true, after := set fs call.table (some (.file [])) }

def throwing : Analyzer := fun _ fs => { ended := .thrown, wroteTable := false, after := fs }

theorem calibration_activates_iff_writing :
    Activates flight writing .tdc [] recorded "/tdc.tsv".toList ↔
      LinkSafe flight writing (Command.tdc.calibration flight []) recorded "/tdc.tsv".toList :=
  calibration_activates_iff flight writing .tdc [] recorded "/tdc.tsv".toList (by decide)

/-- The partial table of an earlier run, which has failed. -/
def partialTable : FileSystem :=
  set recorded "/d/tdc/tdc_calibration_2025-01-01_00-00-00.0Z.tsv".toList (some (.file []))

/-- The analyzer throws, the command returns false, and the link now points to
the partial table. -/
theorem failed_calibration_linked :
    ¬ ∀ machine analyzer command argv fs dst,
      machine.config.getAbsolutePath machine.currentPath "main".toList
        (Command.calibration machine argv command).key = .ok dst →
      Activates machine analyzer command argv fs dst := by
  intro activates
  have kept := activates flight throwing .tdc [] partialTable "/tdc.tsv".toList (by decide)
  have relinked : (handle flight throwing [] partialTable .tdc).2 "/tdc.tsv".toList =
      some (.link "/d/tdc/tdc_calibration_2025-01-01_00-00-00.0Z.tsv".toList) := by
    decide +kernel
  have same := kept.1 (by decide +kernel)
  rw [relinked] at same
  exact absurd same (by decide +kernel)

example : (handle flight writing [1, 0, 200] recorded .tdc).1 = true ∧
    (handle flight writing [1, 0, 200] recorded .tdc).2 "/tdc.tsv".toList =
      some (.link "/d/tdc/tdc_calibration_2025-01-01_00-00-00.0Z.tsv".toList) := by
  decide +kernel

end GramsTof.CalibrationCommands
