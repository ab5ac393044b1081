import GramsTof.ScanText
import Mathlib.Data.Finset.Sort
import Mathlib.Data.Prod.Lex

/-!
`runProcessThresholdCalibration` up to the rows it writes, without its plots. Files
can be opened. What `stod` reads, the random numbers that are added, and the fit of
a profile are arguments; a profile is the list of its fills. An access beyond the
tokens of a line, and one through a null pointer, end the model.
-/

namespace GramsTof.ThresholdCalibration

open PaddedDigits ScanText

abbrev ChannelKey := Int ×ₗ Int ×ₗ Int ×ₗ Int

def channelKey (portID slaveID chipID channelID : Int) : ChannelKey :=
  toLex (portID, toLex (slaveID, toLex (chipID, channelID)))

inductive Stop where
  | threw (message : Text)
  | fault
  deriving DecidableEq, Repr

variable {Number : Type}

structure Row (Number : Type) where
  key : ChannelKey
  baseline_T : Int
  baseline_E : Int
  zero_T1 : Number
  zero_T2 : Number
  zero_E : Number
  noise_T1 : Number
  noise_T2 : Number
  noise_E : Number
  deriving DecidableEq

/-- `refused` is `false`. -/
inductive Outcome (Number : Type) where
  | refused
  | wrote (rows : List (Row Number))
  deriving DecidableEq

abbrev Profile (Number : Type) := List (Int × Number)

/-- `jitter` adds the random number of its place; `fit` is `getBaselineAndNoise`. -/
structure Numerics (Number : Type) where
  stod : Text → Option Number
  jitter : Nat → Number → Number
  fit : Profile Number → Number × Number

/-- The items that `getline` takes one after the other. -/
def getlines (delim : Char) : Text → List Text
  | [] => []
  | c :: rest =>
      if c = delim then [] :: getlines delim rest
      else
        match getlines delim rest with
        | [] => [[c]]
        | item :: items => (c :: item) :: items

/-- `\s*#.*`, everywhere; `.` does not match at the end of a line. -/
def eraseComments (comment : Bool) : Text → Text
  | [] => []
  | c :: rest =>
      if comment = true ∧ c ≠ '\n' ∧ c ≠ '\r' then eraseComments true rest
      else if (skipSpace (c :: rest)).head? = some '#' then eraseComments (c = '#') rest
      else c :: eraseComments false rest

def normalizeAndSplit (line : Text) : List Text :=
  let line := eraseComments false line
  let line := skipSpace line
  let line := trimEnd line
  let line := squeeze false line
  let line := line.filter (· ≠ '\r')
  let line := line.filter (· ≠ '\n')
  getlines '\t' line

/-- What stands behind a number is left. -/
def stoi (s : Text) : Option Int :=
  match (scanInteger s).1 with
  | none => none
  | some number =>
      if -2 ^ 31 ≤ written number ∧ written number < 2 ^ 31 then some (written number) else none

def location (lineNo : Nat) (file : Text) : Text :=
  " at line ".toList ++ decimal lineNo ++ " in ".toList ++ file

def safeStoi (s : Text) (lineNo : Nat) (file : Text) : Except Stop Int :=
  if s = [] then .error (.threw ("stoi: empty string".toList ++ location lineNo file))
  else
    match stoi s with
    | none => .error (.threw ("stoi: invalid integer '".toList ++ s ++ "'".toList ++
        location lineNo file))
    | some n => .ok n

def safeStod (stod : Text → Option Number) (s : Text) (lineNo : Nat) (file : Text) :
    Except Stop Number :=
  if s = [] then .error (.threw ("stod: empty string".toList ++ location lineNo file))
  else
    match stod s with
    | none => .error (.threw ("stod: invalid double '".toList ++ s ++ "'".toList ++
        location lineNo file))
    | some x => .ok x

def tokenAt (tokens : List Text) (i : Nat) : Except Stop Text :=
  match tokens[i]? with
  | none => .error .fault
  | some token => .ok token

def intAt (tokens : List Text) (i lineNo : Nat) (file : Text) : Except Stop Int :=
  tokenAt tokens i >>= fun token => safeStoi token lineNo file

structure Baseline where
  lineNo : Nat
  baselineSettings : ChannelKey → Option (Int × Int)
  activeChannels : Finset ChannelKey

def baselineLine (file : Text) (baseline : Baseline) (line : Text) : Except Stop Baseline := do
  let lineNo := baseline.lineNo + 1
  let tokens := normalizeAndSplit line
  if tokens = [] then return { baseline with lineNo := lineNo }
  let portID ← intAt tokens 0 lineNo file
  let slaveID ← intAt tokens 1 lineNo file
  let chipID ← intAt tokens 2 lineNo file
  let channelID ← intAt tokens 3 lineNo file
  let baseline_T ← intAt tokens 4 lineNo file
  let baseline_E ← intAt tokens 5 lineNo file
  let ck := channelKey portID slaveID chipID channelID
  return { baseline with
    lineNo := lineNo
    baselineSettings := Function.update baseline.baselineSettings ck (some (baseline_T, baseline_E))
    activeChannels := insert ck baseline.activeChannels }

def loadBaseline (file text : Text) : Except Stop Baseline :=
  (getlines '\n' text).foldlM (baselineLine file) ⟨0, fun _ => none, ∅⟩

def thresholds : List Text := ["vth_t1".toList, "vth_t2".toList, "vth_e".toList]

/-- `none` is a null pointer, also where there is no entry yet. `randoms` counts the
calls of `rand`. -/
structure Noise (Number : Type) where
  lineNo : Nat
  randoms : Nat
  noiseProfiles : ChannelKey × Text → Option (Profile Number)

def newProfiles (activeChannels : Finset ChannelKey) : ChannelKey × Text → Option (Profile Number) :=
  fun (ck, threshold) => if ck ∈ activeChannels ∧ threshold ∈ thresholds then some [] else none

def noiseLine (numerics : Numerics Number) (file : Text) (noise : Noise Number) (line : Text) :
    Except Stop (Noise Number) := do
  let lineNo := noise.lineNo + 1
  let tokens := normalizeAndSplit line
  if tokens = [] then return { noise with lineNo := lineNo }
  if tokens.length < 7 then return { noise with lineNo := lineNo }
  let portID ← intAt tokens 0 lineNo file
  let slaveID ← intAt tokens 1 lineNo file
  let chipID ← intAt tokens 2 lineNo file
  let channelID ← intAt tokens 3 lineNo file
  let threshold ← tokenAt tokens 4
  let thresholdValue ← intAt tokens 5 lineNo file
  let token ← tokenAt tokens 6
  let x ← safeStod numerics.stod token lineNo file
  let v := numerics.jitter noise.randoms x
  let key := (channelKey portID slaveID chipID channelID, threshold)
  match noise.noiseProfiles key with
  | none => .error .fault
  | some profile =>
      return { noise with
        lineNo := lineNo
        randoms := noise.randoms + 1
        noiseProfiles := Function.update noise.noiseProfiles key
          (some (profile ++ [(thresholdValue, v)])) }

def loadNoise (numerics : Numerics Number) (activeChannels : Finset ChannelKey) (file text : Text) :
    Except Stop (Noise Number) :=
  (getlines '\n' text).foldlM (noiseLine numerics file) ⟨0, 0, newProfiles activeChannels⟩

/-- The profile a channel has for a threshold. -/
def profileAt (noise : Noise Number) (ck : ChannelKey) (threshold : Text) :
    Except Stop (Profile Number) :=
  match noise.noiseProfiles (ck, threshold) with
  | none => .error .fault
  | some profile => .ok profile

def outputRow (numerics : Numerics Number) (baseline : Baseline) (noise : Noise Number)
    (ck : ChannelKey) : Except Stop (Row Number) := do
  let (zero_T1, noise_T1) := numerics.fit (← profileAt noise ck "vth_t1".toList)
  let (zero_T2, noise_T2) := numerics.fit (← profileAt noise ck "vth_t2".toList)
  let (zero_E, noise_E) := numerics.fit (← profileAt noise ck "vth_e".toList)
  let (baseline_T, baseline_E) := (baseline.baselineSettings ck).getD (0, 0)
  return ⟨ck, baseline_T, baseline_E, zero_T1, zero_T2, zero_E, noise_T1, noise_T2, noise_E⟩

def runProcessThresholdCalibration (numerics : Numerics Number)
    (configFile inputFilePrefix outFileName : Text) (baselineText noiseText : Text) :
    Except Stop (Outcome Number) := do
  if configFile = [] ∨ inputFilePrefix = [] ∨ outFileName = [] then return .refused
  let baseline ← loadBaseline (inputFilePrefix ++ "_baseline.tsv".toList) baselineText
  let noise ← loadNoise numerics baseline.activeChannels
    (inputFilePrefix ++ "_noise.tsv".toList) noiseText
  let rows ← (baseline.activeChannels.sort).mapM (outputRow numerics baseline noise)
  return .wrote rows

/-! What the lines of the files say -/

def baselineEntry (line : Text) : Option (ChannelKey × Int × Int) :=
  match ((normalizeAndSplit line).take 6).mapM stoi with
  | some [portID, slaveID, chipID, channelID, baseline_T, baseline_E] =>
      some (channelKey portID slaveID chipID channelID, baseline_T, baseline_E)
  | _ => none

def baselineEntries (text : Text) : List (ChannelKey × Int × Int) :=
  (getlines '\n' text).filterMap baselineEntry

/-- A blank line, or one with all its numbers. -/
def Readable (line : Text) : Prop :=
  normalizeAndSplit line = [] ∨ (baselineEntry line).isSome = true

/-- A line that ends before its sixth number, with nothing else in it. -/
def Truncated (line : Text) : Prop :=
  normalizeAndSplit line ≠ [] ∧ (normalizeAndSplit line).length < 6 ∧
    ∀ token ∈ normalizeAndSplit line, (stoi token).isSome = true

/-- An empty text is no number. -/
def doubleOf (stod : Text → Option Number) (s : Text) : Option Number :=
  if s = [] then none else stod s

def noiseEntry (stod : Text → Option Number) (line : Text) :
    Option ((ChannelKey × Text) × Int × Number) :=
  match normalizeAndSplit line with
  | portID :: slaveID :: chipID :: channelID :: threshold :: thresholdValue :: v :: _ => do
      let portID ← stoi portID
      let slaveID ← stoi slaveID
      let chipID ← stoi chipID
      let channelID ← stoi channelID
      let thresholdValue ← stoi thresholdValue
      let v ← doubleOf stod v
      some ((channelKey portID slaveID chipID channelID, threshold), thresholdValue, v)
  | _ => none

def Known (baselineText : Text) (key : ChannelKey × Text) : Prop :=
  key.1 ∈ (baselineEntries baselineText).map Prod.fst ∧ key.2 ∈ thresholds

/-- A line that is skipped, or fills a profile that exists. -/
def Usable (stod : Text → Option Number) (baselineText line : Text) : Prop :=
  (normalizeAndSplit line).length < 7 ∨
    ∃ entry, noiseEntry stod line = some entry ∧ Known baselineText entry.1

def Unknown (stod : Text → Option Number) (baselineText line : Text) : Prop :=
  ∃ entry, noiseEntry stod line = some entry ∧ ¬ Known baselineText entry.1

/-- The first line that is not good is a bad one. -/
def Meets (good bad : Text → Prop) (lines : List Text) : Prop :=
  ∃ before line behind, lines = before ++ line :: behind ∧ (∀ other ∈ before, good other) ∧ bad line

/-- A row for every channel of the baseline file, with its last baselines. -/
structure RowsRight (baselineText : Text) (rows : List (Row Number)) : Prop where
  distinct : (rows.map Row.key).Nodup
  channels : ∀ ck, ck ∈ rows.map Row.key ↔ ck ∈ (baselineEntries baselineText).map Prod.fst
  last : ∀ row ∈ rows,
    (baselineEntries baselineText).reverse.lookup row.key = some (row.baseline_T, row.baseline_E)

/-- An error is reported, or the right rows are written. -/
def Total (baselineText : Text) : Except Stop (Outcome Number) → Prop
  | .error (.threw _) => True
  | .error .fault => False
  | .ok .refused => True
  | .ok (.wrote rows) => RowsRight baselineText rows

/-! Reading the numbers of a line -/

section Bind
variable {Result Next : Type} (next : Result → Except Stop Next)

theorem ok_bind (value : Result) : (Except.ok value >>= next) = next value := rfl

theorem stop_bind (stop : Stop) : (Except.error stop >>= next) = .error stop := rfl

end Bind

theorem mapM_length {Item Result : Type} (read : Item → Option Result) (items : List Item)
    (results : List Result) (done : items.mapM read = some results) :
    results.length = items.length := by
  induction items generalizing results with
  | nil =>
      cases done
      rfl
  | cons item rest ih =>
      rw [List.mapM_cons] at done
      obtain ⟨result, _, done⟩ := Option.bind_eq_some_iff.mp done
      obtain ⟨more, ok, done⟩ := Option.bind_eq_some_iff.mp done
      cases done
      exact congrArg Nat.succ (ih more ok)

theorem mapM_none {Item Result : Type} (read : Item → Option Result) (items : List Item)
    (item : Item) (member : item ∈ items) (failed : read item = none) :
    items.mapM read = none := by
  induction items with
  | nil => cases member
  | cons first rest ih =>
      rw [List.mapM_cons]
      rcases List.mem_cons.mp member with rfl | member
      · rw [failed]
        rfl
      · rw [ih member]
        cases read first <;> rfl

theorem safeStoi_cases (s : Text) (lineNo : Nat) (file : Text) :
    (∃ n, stoi s = some n ∧ safeStoi s lineNo file = .ok n) ∨
      stoi s = none ∧ ∃ message, safeStoi s lineNo file = .error (.threw message) := by
  unfold safeStoi
  by_cases empty : s = []
  · right
    rw [if_pos empty, empty]
    exact ⟨rfl, _, rfl⟩
  · rw [if_neg empty]
    cases stoi s with
    | none => exact Or.inr ⟨rfl, _, rfl⟩
    | some n => exact Or.inl ⟨n, rfl, rfl⟩

def readInts (lineNo : Nat) (file : Text) : Nat → List Text → Except Stop (List Int)
  | 0, _ => .ok []
  | count + 1, tokens => do
      let n ← intAt tokens 0 lineNo file
      let more ← readInts lineNo file count tokens.tail
      .ok (n :: more)

theorem intAt_tail (tokens : List Text) (i lineNo : Nat) (file : Text) :
    intAt tokens (i + 1) lineNo file = intAt tokens.tail i lineNo file := by
  cases tokens <;> rfl

theorem readInts_cases (lineNo : Nat) (file : Text) (count : Nat) (tokens : List Text) :
    (∃ ints, (tokens.take count).mapM stoi = some ints ∧ ints.length = count ∧
        readInts lineNo file count tokens = .ok ints) ∨
      (tokens.length < count ∧ (∀ token ∈ tokens, (stoi token).isSome = true) ∧
        readInts lineNo file count tokens = .error .fault) ∨
      ∃ token ∈ tokens.take count, stoi token = none ∧
        ∃ message, readInts lineNo file count tokens = .error (.threw message) := by
  induction count generalizing tokens with
  | zero => exact Or.inl ⟨[], rfl, rfl, rfl⟩
  | succ count ih =>
      cases tokens with
      | nil =>
          refine Or.inr (Or.inl ⟨Nat.succ_pos _, ?_, rfl⟩)
          intro token member
          cases member
      | cons first rest =>
          have read : readInts lineNo file (count + 1) (first :: rest) =
              (safeStoi first lineNo file >>= fun n =>
                readInts lineNo file count rest >>= fun more => .ok (n :: more)) := rfl
          rw [read]
          rcases safeStoi_cases first lineNo file with ⟨n, number, ok⟩ | ⟨none, message, threw⟩
          · rw [ok]
            rcases ih rest with ⟨ints, numbers, length, more⟩ | ⟨short, numbers, fault⟩ |
              ⟨token, member, none, message, threw⟩
            · left
              refine ⟨n :: ints, ?_, congrArg Nat.succ length, ?_⟩
              · rw [List.take_succ_cons, List.mapM_cons, number, numbers]
                rfl
              · rw [more]
                rfl
            · right
              left
              rw [List.forall_mem_cons, number, ok_bind, fault, stop_bind]
              exact ⟨Nat.succ_lt_succ short, ⟨rfl, numbers⟩, rfl⟩
            · right
              right
              refine ⟨token, List.mem_cons_of_mem _ member, none, message, ?_⟩
              rw [threw]
              rfl
          · right
            right
            refine ⟨first, List.mem_cons_self, none, message, ?_⟩
            rw [threw]
            rfl

section Lines
variable (file : Text) (baseline : Baseline) (line : Text)

/-- What a line with all its numbers makes of the baselines. -/
def Baseline.add (entry : ChannelKey × Int × Int) : Baseline :=
  { lineNo := baseline.lineNo + 1
    baselineSettings := Function.update baseline.baselineSettings entry.1 (some entry.2)
    activeChannels := insert entry.1 baseline.activeChannels }

theorem baselineLine_ints (some : normalizeAndSplit line ≠ []) :
    baselineLine file baseline line =
      (readInts (baseline.lineNo + 1) file 6 (normalizeAndSplit line) >>= fun ints =>
        match ints with
        | [portID, slaveID, chipID, channelID, baseline_T, baseline_E] =>
            .ok (baseline.add
              (channelKey portID slaveID chipID channelID, baseline_T, baseline_E))
        | _ => .error .fault) := by
  unfold baselineLine
  dsimp only
  rw [if_neg some]
  simp only [readInts, intAt_tail, bind_assoc]
  rfl

theorem baselineLine_cases :
    (normalizeAndSplit line = [] ∧
        baselineLine file baseline line = .ok { baseline with lineNo := baseline.lineNo + 1 }) ∨
      (∃ entry, baselineEntry line = some entry ∧
        baselineLine file baseline line = .ok (baseline.add entry)) ∨
      (Truncated line ∧ baselineLine file baseline line = .error .fault) ∨
      ¬ Readable line ∧ ¬ Truncated line ∧
        ∃ message, baselineLine file baseline line = .error (.threw message) := by
  by_cases blank : normalizeAndSplit line = []
  · left
    refine ⟨blank, ?_⟩
    unfold baselineLine
    dsimp only
    rw [if_pos blank]
    rfl
  · right
    rw [baselineLine_ints file baseline line blank]
    rcases readInts_cases (baseline.lineNo + 1) file 6 (normalizeAndSplit line) with
      ⟨ints, numbers, length, ok⟩ | ⟨short, numbers, fault⟩ | ⟨token, member, none, message, threw⟩
    · left
      obtain ⟨portID, slaveID, chipID, channelID, baseline_T, baseline_E, rfl⟩ :
          ∃ portID slaveID chipID channelID baseline_T baseline_E,
            ints = [portID, slaveID, chipID, channelID, baseline_T, baseline_E] := by
        match ints, length with
        | [portID, slaveID, chipID, channelID, baseline_T, baseline_E], _ =>
            exact ⟨_, _, _, _, _, _, rfl⟩
      refine ⟨(channelKey portID slaveID chipID channelID, baseline_T, baseline_E), ?_, ?_⟩
      · rw [baselineEntry, numbers]
      · rw [ok]
        rfl
    · right
      left
      rw [fault, stop_bind]
      exact ⟨⟨blank, short, numbers⟩, rfl⟩
    · right
      right
      have missing : baselineEntry line = Option.none := by
        rw [baselineEntry, mapM_none stoi _ token member none]
      refine ⟨?_, ?_, message, ?_⟩
      · rintro (empty | entry)
        · exact blank empty
        · rw [missing] at entry
          cases entry
      · rintro ⟨_, _, numbers⟩
        have number := numbers token (List.mem_of_mem_take member)
        rw [none] at number
        cases number
      · rw [threw]
        rfl

theorem truncated_not_readable (truncated : Truncated line) : ¬ Readable line := by
  obtain ⟨nonempty, short, _⟩ := truncated
  rintro (blank | entry)
  · exact nonempty blank
  · unfold baselineEntry at entry
    split at entry
    · rename_i numbers
      have length := mapM_length _ _ _ numbers
      rw [List.length_take] at length
      simp only [List.length_cons, List.length_nil] at length
      omega
    · cases entry

end Lines

/-! A loop over lines that can end early -/

section Loop
variable {State : Type} (step : State → Text → Except Stop State)
variable (good bad : Text → Prop) (Held : List Text → State → Prop)

theorem meets_cons (line : Text) (lines : List Text) :
    Meets good bad (line :: lines) ↔ bad line ∨ good line ∧ Meets good bad lines := by
  constructor
  · rintro ⟨before, other, behind, split, goods, isBad⟩
    cases before with
    | nil =>
        cases split
        exact Or.inl isBad
    | cons first before =>
        cases split
        have first := goods line List.mem_cons_self
        exact Or.inr ⟨first, before, other, behind, rfl,
          fun other member => goods other (List.mem_cons_of_mem _ member), isBad⟩
  · rintro (isBad | ⟨isGood, before, other, behind, rfl, goods, isBad⟩)
    · exact ⟨[], line, lines, rfl, List.forall_mem_nil _, isBad⟩
    · exact ⟨line :: before, other, behind, rfl, List.forall_mem_cons.mpr ⟨isGood, goods⟩, isBad⟩

/-- `Held` is what the loop keeps, about the lines it has read. -/
theorem loop_cases
    (steps : ∀ done state line, Held done state →
      (good line ∧ ∃ next, step state line = .ok next ∧ Held (done ++ [line]) next) ∨
        (bad line ∧ step state line = .error .fault) ∨
        ¬ good line ∧ ¬ bad line ∧ ∃ message, step state line = .error (.threw message))
    (apart : ∀ line, bad line → ¬ good line)
    (lines done : List Text) (state : State) (held : Held done state) :
    ((∀ line ∈ lines, good line) ∧ ¬ Meets good bad lines ∧
        ∃ final, lines.foldlM step state = .ok final ∧ Held (done ++ lines) final) ∨
      (¬ (∀ line ∈ lines, good line) ∧ Meets good bad lines ∧
        lines.foldlM step state = .error .fault) ∨
      ¬ (∀ line ∈ lines, good line) ∧ ¬ Meets good bad lines ∧
        ∃ message, lines.foldlM step state = .error (.threw message) := by
  induction lines generalizing done state with
  | nil =>
      left
      refine ⟨List.forall_mem_nil _, ?_, state, rfl, ?_⟩
      · rintro ⟨before, line, behind, split, _⟩
        cases before <;> cases split
      · rw [List.append_nil]
        exact held
  | cons line lines ih =>
      rw [meets_cons, List.forall_mem_cons, List.foldlM_cons]
      rcases steps done state line held with ⟨isGood, next, ok, kept⟩ | ⟨isBad, fault⟩ |
        ⟨notGood, notBad, message, threw⟩
      · have notBad : ¬ bad line := fun isBad => apart line isBad isGood
        rw [ok, ok_bind, List.append_cons]
        rcases ih (done ++ [line]) next kept with ⟨goods, none, final⟩ | ⟨notGoods, met, fault⟩ |
          ⟨notGoods, none, threw⟩
        · left
          exact ⟨⟨isGood, goods⟩, fun met => met.elim notBad fun met => none met.2, final⟩
        · right
          left
          exact ⟨fun goods => notGoods goods.2, Or.inr ⟨isGood, met⟩, fault⟩
        · right
          right
          exact ⟨fun goods => notGoods goods.2, fun met => met.elim notBad fun met => none met.2,
            threw⟩
      · right
        left
        rw [fault, stop_bind]
        exact ⟨fun goods => apart line isBad goods.1, Or.inl isBad, rfl⟩
      · right
        right
        refine ⟨fun goods => notGood goods.1, ?_, message, ?_⟩
        · exact fun met => met.elim notBad fun met => notGood met.1
        · rw [threw, stop_bind]

end Loop

/-! The baselines -/

/-- What the baselines are after the lines `done`. -/
structure BaselineHeld (done : List Text) (baseline : Baseline) : Prop where
  channels : ∀ ck, ck ∈ baseline.activeChannels ↔
    ck ∈ (done.filterMap baselineEntry).map Prod.fst
  settings : ∀ ck, baseline.baselineSettings ck =
    (done.filterMap baselineEntry).reverse.lookup ck

theorem baseline_empty : BaselineHeld [] ⟨0, fun _ => none, ∅⟩ := by
  constructor
  · intro ck
    exact ⟨fun member => absurd member (Finset.notMem_empty _), fun member => nomatch member⟩
  · intro ck
    rfl

theorem baseline_skip (done : List Text) (baseline : Baseline) (line : Text) (lineNo : Nat)
    (none : baselineEntry line = none) (held : BaselineHeld done baseline) :
    BaselineHeld (done ++ [line]) { baseline with lineNo := lineNo } := by
  have same : (done ++ [line]).filterMap baselineEntry = done.filterMap baselineEntry := by
    rw [List.filterMap_append, List.filterMap_cons_none none, List.filterMap_nil, List.append_nil]
  constructor
  · rw [same]
    exact held.channels
  · rw [same]
    exact held.settings

theorem baseline_add (done : List Text) (baseline : Baseline) (line : Text)
    (entry : ChannelKey × Int × Int) (read : baselineEntry line = some entry)
    (held : BaselineHeld done baseline) :
    BaselineHeld (done ++ [line]) (baseline.add entry) := by
  have more : (done ++ [line]).filterMap baselineEntry =
      done.filterMap baselineEntry ++ [entry] := by
    rw [List.filterMap_append, List.filterMap_cons_some read, List.filterMap_nil]
  constructor
  · intro ck
    rw [more, List.map_append, List.mem_append, ← held.channels]
    rw [Baseline.add, Finset.mem_insert, or_comm, List.map_singleton, List.mem_singleton]
  · intro ck
    rw [more, List.reverse_append, List.reverse_singleton, List.singleton_append]
    rw [List.lookup_cons, ← held.settings]
    have updated : (baseline.add entry).baselineSettings ck =
        if ck = entry.1 then some entry.2 else baseline.baselineSettings ck :=
      Function.update_apply _ _ _ _
    rw [updated]
    by_cases same : ck = entry.1
    · rw [if_pos same, beq_iff_eq.mpr same]
    · rw [if_neg same, beq_eq_false_iff_ne.mpr same]

theorem blank_entry (line : Text) (blank : normalizeAndSplit line = []) :
    baselineEntry line = none := by
  unfold baselineEntry
  rw [blank]
  rfl

theorem baseline_step (file : Text) (done : List Text) (baseline : Baseline) (line : Text)
    (held : BaselineHeld done baseline) :
    (Readable line ∧ ∃ next, baselineLine file baseline line = .ok next ∧
        BaselineHeld (done ++ [line]) next) ∨
      (Truncated line ∧ baselineLine file baseline line = .error .fault) ∨
      ¬ Readable line ∧ ¬ Truncated line ∧
        ∃ message, baselineLine file baseline line = .error (.threw message) := by
  rcases baselineLine_cases file baseline line with ⟨blank, ok⟩ | ⟨entry, read, ok⟩ | stopped
  · left
    exact ⟨Or.inl blank, _, ok, baseline_skip done baseline line _ (blank_entry line blank) held⟩
  · left
    refine ⟨Or.inr ?_, _, ok, baseline_add done baseline line entry read held⟩
    rw [read]
    rfl
  · right
    exact stopped

/-! The noise -/

/-- An exception stands where there is no value. -/
def Throws {Result : Type} : Option Result → Except Stop Result → Prop
  | some value, result => result = .ok value
  | none, result => ∃ message, result = .error (.threw message)

theorem throws_bind {Result Next : Type} (value : Option Result) (result : Except Stop Result)
    (next : Result → Option Next) (continued : Result → Except Stop Next)
    (first : Throws value result) (others : ∀ x, Throws (next x) (continued x)) :
    Throws (value >>= next) (result >>= continued) := by
  cases value with
  | none =>
      obtain ⟨message, rfl⟩ := first
      exact ⟨message, rfl⟩
  | some x =>
      cases first
      exact others x

theorem safeStoi_throws (s : Text) (lineNo : Nat) (file : Text) :
    Throws (stoi s) (safeStoi s lineNo file) := by
  rcases safeStoi_cases s lineNo file with ⟨n, number, ok⟩ | ⟨none, message, threw⟩
  · rw [number, ok]
    rfl
  · rw [none]
    exact ⟨message, threw⟩

theorem safeStod_throws (stod : Text → Option Number) (s : Text) (lineNo : Nat) (file : Text) :
    Throws (doubleOf stod s) (safeStod stod s lineNo file) := by
  unfold safeStod doubleOf
  by_cases empty : s = []
  · rw [if_pos empty, if_pos empty]
    exact ⟨_, rfl⟩
  · rw [if_neg empty, if_neg empty]
    cases stod s with
    | none => exact ⟨_, rfl⟩
    | some x => rfl

def readNoise (stod : Text → Option Number) (lineNo : Nat) (file : Text) (tokens : List Text) :
    Except Stop ((ChannelKey × Text) × Int × Number) := do
  let portID ← intAt tokens 0 lineNo file
  let slaveID ← intAt tokens 1 lineNo file
  let chipID ← intAt tokens 2 lineNo file
  let channelID ← intAt tokens 3 lineNo file
  let threshold ← tokenAt tokens 4
  let thresholdValue ← intAt tokens 5 lineNo file
  let token ← tokenAt tokens 6
  let x ← safeStod stod token lineNo file
  return ((channelKey portID slaveID chipID channelID, threshold), thresholdValue, x)

theorem readNoise_throws (stod : Text → Option Number) (lineNo : Nat) (file line : Text)
    (long : ¬ (normalizeAndSplit line).length < 7) :
    Throws (noiseEntry stod line) (readNoise stod lineNo file (normalizeAndSplit line)) := by
  unfold noiseEntry
  obtain ⟨more, length⟩ := Nat.exists_eq_add_of_le' (Nat.le_of_not_lt long)
  match normalizeAndSplit line, length with
  | portID :: slaveID :: chipID :: channelID :: threshold :: thresholdValue :: v :: _, _ =>
      refine throws_bind _ _ _ _ (safeStoi_throws portID lineNo file) fun portID => ?_
      refine throws_bind _ _ _ _ (safeStoi_throws slaveID lineNo file) fun slaveID => ?_
      refine throws_bind _ _ _ _ (safeStoi_throws chipID lineNo file) fun chipID => ?_
      refine throws_bind _ _ _ _ (safeStoi_throws channelID lineNo file) fun channelID => ?_
      refine throws_bind _ _ _ _ (safeStoi_throws thresholdValue lineNo file)
        fun thresholdValue => ?_
      refine throws_bind _ _ _ _ (safeStod_throws stod v lineNo file) fun v => ?_
      rfl

/-- `Fill`, through the pointer that the map has. -/
def Noise.fill (numerics : Numerics Number) (noise : Noise Number)
    (entry : (ChannelKey × Text) × Int × Number) : Except Stop (Noise Number) :=
  match noise.noiseProfiles entry.1 with
  | none => .error .fault
  | some profile =>
      .ok
        { lineNo := noise.lineNo + 1
          randoms := noise.randoms + 1
          noiseProfiles := Function.update noise.noiseProfiles entry.1
            (some (profile ++ [(entry.2.1, numerics.jitter noise.randoms entry.2.2)])) }

theorem noiseLine_long (numerics : Numerics Number) (file : Text) (noise : Noise Number)
    (line : Text) (long : ¬ (normalizeAndSplit line).length < 7) :
    noiseLine numerics file noise line =
      (readNoise numerics.stod (noise.lineNo + 1) file (normalizeAndSplit line) >>=
        noise.fill numerics) := by
  have nonempty : normalizeAndSplit line ≠ [] := by
    intro blank
    rw [blank] at long
    exact long (Nat.succ_pos 6)
  unfold noiseLine readNoise
  dsimp only
  rw [if_neg nonempty, if_neg long]
  simp only [bind_assoc, pure_bind]
  rfl

theorem noiseLine_short (numerics : Numerics Number) (file : Text) (noise : Noise Number)
    (line : Text) (short : (normalizeAndSplit line).length < 7) :
    noiseLine numerics file noise line = .ok { noise with lineNo := noise.lineNo + 1 } := by
  unfold noiseLine
  dsimp only
  by_cases blank : normalizeAndSplit line = []
  · rw [if_pos blank]
    rfl
  · rw [if_neg blank, if_pos short]
    rfl

/-- There is a profile for each channel and threshold, and no other. -/
def NoiseHeld (activeChannels : Finset ChannelKey) (noise : Noise Number) : Prop :=
  ∀ ck threshold, (noise.noiseProfiles (ck, threshold)).isSome = true ↔
    ck ∈ activeChannels ∧ threshold ∈ thresholds

theorem newProfiles_held (activeChannels : Finset ChannelKey) :
    NoiseHeld activeChannels (⟨0, 0, newProfiles activeChannels⟩ : Noise Number) := by
  intro ck threshold
  change (if ck ∈ activeChannels ∧ threshold ∈ thresholds then some [] else none).isSome = true ↔ _
  by_cases known : ck ∈ activeChannels ∧ threshold ∈ thresholds
  · rw [if_pos known]
    exact ⟨fun _ => known, fun _ => rfl⟩
  · rw [if_neg known]
    exact ⟨fun none => absurd none Bool.false_ne_true, fun both => absurd both known⟩

theorem fill_cases (numerics : Numerics Number) (activeChannels : Finset ChannelKey)
    (noise : Noise Number) (entry : (ChannelKey × Text) × Int × Number)
    (held : NoiseHeld activeChannels noise) :
    ((entry.1.1 ∈ activeChannels ∧ entry.1.2 ∈ thresholds) ∧
        ∃ next, noise.fill numerics entry = .ok next ∧ NoiseHeld activeChannels next) ∨
      ¬ (entry.1.1 ∈ activeChannels ∧ entry.1.2 ∈ thresholds) ∧
        noise.fill numerics entry = .error .fault := by
  obtain ⟨⟨ck, threshold⟩, thresholdValue, v⟩ := entry
  rw [← held ck threshold, Noise.fill]
  cases found : noise.noiseProfiles (ck, threshold) with
  | none => exact Or.inr ⟨Bool.false_ne_true, rfl⟩
  | some profile =>
      left
      refine ⟨rfl, _, rfl, ?_⟩
      intro other name
      rw [← held other name]
      change (Function.update noise.noiseProfiles (ck, threshold) _ (other, name)).isSome = true ↔ _
      rw [Function.update_apply]
      by_cases same : (other, name) = (ck, threshold)
      · rw [if_pos same, same, found]
        exact Iff.rfl
      · rw [if_neg same]

theorem unknown_not_usable (stod : Text → Option Number) (baselineText line : Text)
    (unknown : Unknown stod baselineText line) : ¬ Usable stod baselineText line := by
  obtain ⟨entry, read, unknown⟩ := unknown
  rintro (short | ⟨other, same, known⟩)
  · unfold noiseEntry at read
    split at read
    · rename_i tokens
      rw [tokens] at short
      simp only [List.length_cons] at short
      omega
    · cases read
  · rw [read] at same
    cases same
    exact unknown known

theorem noise_step (numerics : Numerics Number) (file baselineText : Text)
    (activeChannels : Finset ChannelKey)
    (channels : ∀ ck, ck ∈ activeChannels ↔ ck ∈ (baselineEntries baselineText).map Prod.fst)
    (noise : Noise Number) (line : Text) (held : NoiseHeld activeChannels noise) :
    (Usable numerics.stod baselineText line ∧
        ∃ next, noiseLine numerics file noise line = .ok next ∧ NoiseHeld activeChannels next) ∨
      (Unknown numerics.stod baselineText line ∧
        noiseLine numerics file noise line = .error .fault) ∨
      ¬ Usable numerics.stod baselineText line ∧ ¬ Unknown numerics.stod baselineText line ∧
        ∃ message, noiseLine numerics file noise line = .error (.threw message) := by
  by_cases short : (normalizeAndSplit line).length < 7
  · left
    exact ⟨Or.inl short, _, noiseLine_short numerics file noise line short, held⟩
  · rw [noiseLine_long numerics file noise line short]
    have read := readNoise_throws numerics.stod (noise.lineNo + 1) file line short
    cases found : noiseEntry numerics.stod line with
    | none =>
        rw [found] at read
        obtain ⟨message, threw⟩ := read
        right
        right
        refine ⟨?_, ?_, message, ?_⟩
        · rintro (length | ⟨entry, some, _⟩)
          · exact short length
          · rw [found] at some
            cases some
        · rintro ⟨entry, some, _⟩
          rw [found] at some
          cases some
        · rw [threw, stop_bind]
    | some entry =>
        rw [found] at read
        have ok : readNoise numerics.stod (noise.lineNo + 1) file (normalizeAndSplit line) =
            .ok entry := read
        rw [ok, ok_bind]
        rcases fill_cases numerics activeChannels noise entry held with
          ⟨known, next, ok, kept⟩ | ⟨unknown, fault⟩
        · rw [channels] at known
          exact Or.inl ⟨Or.inr ⟨entry, found, known⟩, next, ok, kept⟩
        · rw [channels] at unknown
          exact Or.inr (Or.inl ⟨⟨entry, found, unknown⟩, fault⟩)

/-! The rows -/

theorem profileAt_ok (activeChannels : Finset ChannelKey) (noise : Noise Number)
    (held : NoiseHeld activeChannels noise) (ck : ChannelKey) (threshold : Text)
    (active : ck ∈ activeChannels) (known : threshold ∈ thresholds) :
    ∃ profile, profileAt noise ck threshold = .ok profile := by
  obtain ⟨profile, found⟩ := Option.isSome_iff_exists.mp ((held ck threshold).mpr ⟨active, known⟩)
  refine ⟨profile, ?_⟩
  rw [profileAt, found]

theorem outputRow_ok (numerics : Numerics Number) (baseline : Baseline) (noise : Noise Number)
    (held : NoiseHeld baseline.activeChannels noise) (ck : ChannelKey)
    (active : ck ∈ baseline.activeChannels) :
    ∃ row, outputRow numerics baseline noise ck = .ok row ∧ row.key = ck ∧
      (row.baseline_T, row.baseline_E) = (baseline.baselineSettings ck).getD (0, 0) := by
  obtain ⟨first, one⟩ := profileAt_ok _ noise held ck "vth_t1".toList active List.mem_cons_self
  obtain ⟨second, two⟩ := profileAt_ok _ noise held ck "vth_t2".toList active
    (List.mem_cons_of_mem _ List.mem_cons_self)
  obtain ⟨third, three⟩ := profileAt_ok _ noise held ck "vth_e".toList active
    (List.mem_cons_of_mem _ (List.mem_cons_of_mem _ List.mem_cons_self))
  unfold outputRow
  rw [one, two, three]
  exact ⟨_, rfl, rfl, rfl⟩

theorem rows_ok (numerics : Numerics Number) (baseline : Baseline) (noise : Noise Number)
    (held : NoiseHeld baseline.activeChannels noise) (channels : List ChannelKey)
    (active : ∀ ck ∈ channels, ck ∈ baseline.activeChannels) :
    ∃ rows, channels.mapM (outputRow numerics baseline noise) = .ok rows ∧
      rows.map Row.key = channels ∧ ∀ row ∈ rows,
        (row.baseline_T, row.baseline_E) = (baseline.baselineSettings row.key).getD (0, 0) := by
  induction channels with
  | nil => exact ⟨[], rfl, rfl, List.forall_mem_nil _⟩
  | cons ck channels ih =>
      obtain ⟨activeFirst, activeRest⟩ := List.forall_mem_cons.mp active
      obtain ⟨row, ok, key, last⟩ := outputRow_ok numerics baseline noise held ck activeFirst
      obtain ⟨rows, oks, keys, lasts⟩ := ih activeRest
      refine ⟨row :: rows, ?_, ?_, ?_⟩
      · rw [List.mapM_cons, ok, oks]
        rfl
      · rw [List.map_cons, key, keys]
      · rw [List.forall_mem_cons, key]
        exact ⟨last, lasts⟩

theorem rows_right (numerics : Numerics Number) (baselineText : Text) (baseline : Baseline)
    (noise : Noise Number) (loaded : BaselineHeld (getlines '\n' baselineText) baseline)
    (held : NoiseHeld baseline.activeChannels noise) :
    ∃ rows, baseline.activeChannels.sort.mapM (outputRow numerics baseline noise) = .ok rows ∧
      RowsRight baselineText rows := by
  obtain ⟨rows, ok, keys, lasts⟩ := rows_ok numerics baseline noise held
    baseline.activeChannels.sort fun ck member => (Finset.mem_sort _).mp member
  refine ⟨rows, ok, ?_, ?_, ?_⟩
  · rw [keys]
    exact Finset.sort_nodup _ _
  · intro ck
    rw [keys, Finset.mem_sort]
    exact loaded.channels ck
  · intro row member
    have active : row.key ∈ baseline.activeChannels := by
      rw [← Finset.mem_sort (· ≤ ·), ← keys]
      exact List.mem_map_of_mem member
    obtain ⟨entry, listed, key⟩ := List.mem_map.mp ((loaded.channels _).mp active)
    have some : ((baselineEntries baselineText).reverse.lookup row.key).isSome = true := by
      rw [List.lookup_isSome_iff]
      exact ⟨entry, List.mem_reverse.mpr listed, beq_iff_eq.mpr key.symm⟩
    obtain ⟨baselines, found⟩ := Option.isSome_iff_exists.mp some
    have last := lasts row member
    rw [loaded.settings] at last
    rw [last, found]
    exact congrArg _ (found ▸ rfl)

/-! The whole run -/

def writeRows (numerics : Numerics Number) (baseline : Baseline) (noise : Noise Number) :
    Except Stop (Outcome Number) :=
  baseline.activeChannels.sort.mapM (outputRow numerics baseline noise) >>= fun rows =>
    .ok (.wrote rows)

section Run
variable (numerics : Numerics Number)
variable (configFile inputFilePrefix outFileName baselineText noiseText : Text)

theorem loadBaseline_cases (file : Text) :
    ((∀ line ∈ getlines '\n' baselineText, Readable line) ∧
        ¬ Meets Readable Truncated (getlines '\n' baselineText) ∧
        ∃ baseline, loadBaseline file baselineText = .ok baseline ∧
          BaselineHeld (getlines '\n' baselineText) baseline) ∨
      (¬ (∀ line ∈ getlines '\n' baselineText, Readable line) ∧
        Meets Readable Truncated (getlines '\n' baselineText) ∧
        loadBaseline file baselineText = .error .fault) ∨
      ¬ (∀ line ∈ getlines '\n' baselineText, Readable line) ∧
        ¬ Meets Readable Truncated (getlines '\n' baselineText) ∧
        ∃ message, loadBaseline file baselineText = .error (.threw message) :=
  loop_cases (baselineLine file) Readable Truncated BaselineHeld
    (fun done baseline line held => baseline_step file done baseline line held)
    truncated_not_readable _ [] _ baseline_empty

theorem loadNoise_cases (file : Text) (activeChannels : Finset ChannelKey)
    (channels : ∀ ck, ck ∈ activeChannels ↔ ck ∈ (baselineEntries baselineText).map Prod.fst) :
    (¬ Meets (Usable numerics.stod baselineText) (Unknown numerics.stod baselineText)
          (getlines '\n' noiseText) ∧
        ((∃ noise, loadNoise numerics activeChannels file noiseText = .ok noise ∧
            NoiseHeld activeChannels noise) ∨
          ∃ message, loadNoise numerics activeChannels file noiseText =
            .error (.threw message))) ∨
      Meets (Usable numerics.stod baselineText) (Unknown numerics.stod baselineText)
          (getlines '\n' noiseText) ∧
        loadNoise numerics activeChannels file noiseText = .error .fault := by
  rcases loop_cases (noiseLine numerics file) (Usable numerics.stod baselineText)
    (Unknown numerics.stod baselineText) (fun _ noise => NoiseHeld activeChannels noise)
    (fun _ noise line held =>
      noise_step numerics file baselineText activeChannels channels noise line held)
    (unknown_not_usable numerics.stod baselineText) (getlines '\n' noiseText) []
    _ (newProfiles_held activeChannels) with
    ⟨_, none, loaded⟩ | ⟨_, met, fault⟩ | ⟨_, none, threw⟩
  · exact Or.inl ⟨none, Or.inl loaded⟩
  · exact Or.inr ⟨met, fault⟩
  · exact Or.inl ⟨none, Or.inr threw⟩

theorem run_complete
    (complete : ¬ (configFile = [] ∨ inputFilePrefix = [] ∨ outFileName = [])) :
    runProcessThresholdCalibration numerics configFile inputFilePrefix outFileName baselineText
        noiseText =
      (loadBaseline (inputFilePrefix ++ "_baseline.tsv".toList) baselineText >>= fun baseline =>
        loadNoise numerics baseline.activeChannels (inputFilePrefix ++ "_noise.tsv".toList)
            noiseText >>=
          writeRows numerics baseline) := by
  unfold runProcessThresholdCalibration
  rw [if_neg complete]
  rfl

/-- Errors are reported and rows written, unless a baseline line ends too early or a
noise line has no profile. -/
theorem total_iff :
    Total baselineText (runProcessThresholdCalibration numerics configFile inputFilePrefix
        outFileName baselineText noiseText) ↔
      (configFile = [] ∨ inputFilePrefix = [] ∨ outFileName = []) ∨
        ¬ Meets Readable Truncated (getlines '\n' baselineText) ∧
          ((∀ line ∈ getlines '\n' baselineText, Readable line) →
            ¬ Meets (Usable numerics.stod baselineText) (Unknown numerics.stod baselineText)
              (getlines '\n' noiseText)) := by
  by_cases missing : configFile = [] ∨ inputFilePrefix = [] ∨ outFileName = []
  · unfold runProcessThresholdCalibration
    rw [if_pos missing]
    exact ⟨fun _ => Or.inl missing, fun _ => trivial⟩
  · rw [run_complete numerics _ _ _ _ _ missing, or_iff_right missing]
    rcases loadBaseline_cases baselineText (inputFilePrefix ++ "_baseline.tsv".toList) with
      ⟨readable, none, baseline, ok, loaded⟩ | ⟨unreadable, met, fault⟩ |
      ⟨unreadable, none, message, threw⟩
    · rw [ok, ok_bind]
      rcases loadNoise_cases numerics baselineText noiseText
        (inputFilePrefix ++ "_noise.tsv".toList) baseline.activeChannels loaded.channels with
        ⟨fine, ⟨noise, okNoise, held⟩ | ⟨message, threw⟩⟩ | ⟨met, fault⟩
      · obtain ⟨rows, okRows, right⟩ := rows_right numerics baselineText baseline noise loaded held
        rw [okNoise, ok_bind, writeRows, okRows, ok_bind]
        exact ⟨fun _ => ⟨none, fun _ => fine⟩, fun _ => right⟩
      · rw [threw, stop_bind]
        exact ⟨fun _ => ⟨none, fun _ => fine⟩, fun _ => trivial⟩
      · rw [fault, stop_bind]
        exact ⟨fun total => total.elim, fun both => absurd met (both.2 readable)⟩
    · rw [fault, stop_bind]
      exact ⟨fun total => total.elim, fun both => absurd met both.1⟩
    · rw [threw, stop_bind]
      exact ⟨fun _ => ⟨none, fun readable => absurd readable unreadable⟩, fun _ => trivial⟩

end Run

/-- A line of three numbers is indexed beyond its end; a noise line of an unknown channel
goes through a null pointer. -/
theorem short_line_faults :
    let numerics : Numerics Int := ⟨stoi, fun _ x => x, fun _ => (0, 0)⟩
    ¬ Total "0\t0\t0\n".toList (runProcessThresholdCalibration numerics "c".toList "p".toList
        "o".toList "0\t0\t0\n".toList []) ∧
      ¬ Total "0 0 0 0 20 20\n".toList (runProcessThresholdCalibration numerics "c".toList
        "p".toList "o".toList "0 0 0 0 20 20\n".toList "0 0 0 1 vth_t1 5 1\n".toList) := by
  constructor <;> exact fun total => total

end GramsTof.ThresholdCalibration
