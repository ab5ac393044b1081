import GramsTof.CalibrationMode

/-!
`sortData` of the TDC calibration: the records of a calibration run are split
by ASIC into temporary files, each as one entry for its T and one for its E
branch. The counter of its loop over the records of a step is an `int`; where it
overflows, or a name is printed past the end of its buffer, the model ends with a
fault. That the data and the index file open is assumed.
-/

namespace GramsTof.SortData

open RawFrame RingPointers CalibrationMode

structure CalibrationData (Value : Type) where
  gid : Nat
  coarse : Nat
  fine : Nat
  freq : Int
  phase : Value
  deriving DecidableEq, Repr

def maxNAsic : Nat := 32 * 32 * 64

def maxChannelsPerWorker : Nat := 64

/-- Divides without a rest. -/
def maxWorkFiles : Nat := maxNAsic * 64 / maxChannelsPerWorker

inductive SortFault where
  | couldNotOpen (fn : String)
  | pastBuffer
  | outOfBounds
  | overflow
  deriving DecidableEq, Repr

structure TmpFile (Value : Type) where
  name : String
  data : List (CalibrationData Value)

structure Sorting (Value : Type) where
  tmpDataFiles : Nat → Option (TmpFile Value)
  maxgAsicID : Nat

/-- `%02u` -/
def twoDigits (n : Nat) : String := if n < 10 then "0" ++ toString n else toString n

def tmpFileName (tmpFilePrefix : String) (gChannelID : Nat) : String :=
  let chipID := (gChannelID >>> 6) % 64
  let slaveID := (gChannelID >>> 12) % 32
  let portID := (gChannelID >>> 17) % 32
  tmpFilePrefix ++ "_" ++ twoDigits portID ++ "_" ++ twoDigits slaveID ++ "_" ++
    twoDigits chipID ++ "_data.tmp"

def tmpListName (tmpFilePrefix : String) : String := tmpFilePrefix ++ "_list.tmp"

/-- The size of `fName` and of `fn`, one byte of which is the NUL. -/
def nameSize : Nat := 1024

section Files

variable {Value : Type} (canOpen : String → Bool) (tmpFilePrefix : String)

/-- The two entries of a record. A channel has 22 bits, so that no shift leaves
an `unsigned`. -/
def branches (step1 : Value) (record : RawCalibrationData) : List (CalibrationData Value) :=
  let eWord := record.eventWord
  let gChannelID := getChannelID eWord
  let tacID := getTacID eWord
  [{ gid := gChannelID <<< 3 ||| tacID <<< 1 ||| 0x0
     coarse := getTCoarse eWord
     fine := getTFine eWord
     freq := record.freq
     phase := step1 },
   { gid := gChannelID <<< 3 ||| tacID <<< 1 ||| 0x1
     coarse := getECoarse eWord
     fine := getEFine eWord
     freq := record.freq
     phase := step1 }]

/-- The temporary file of an ASIC, opened if it was not yet. -/
def openFile (sorting : Sorting Value) (gChannelID : Nat) : Except SortFault (TmpFile Value) :=
  match sorting.tmpDataFiles (gChannelID >>> 6) with
  | some f => .ok f
  | none =>
      let fn := tmpFileName tmpFilePrefix gChannelID
      if nameSize ≤ fn.utf8ByteSize then .error .pastBuffer
      else if canOpen fn then .ok ⟨fn, []⟩ else .error (.couldNotOpen fn)

def sortRecord (step1 : Value) (sorting : Sorting Value) (record : RawCalibrationData) :
    Except SortFault (Sorting Value) := do
  let gChannelID := getChannelID record.eventWord
  let gAsicID := gChannelID >>> 6
  let sorting := { sorting with maxgAsicID := max sorting.maxgAsicID gAsicID }
  if maxWorkFiles ≤ gAsicID then throw .outOfBounds
  let f ← openFile canOpen tmpFilePrefix sorting gChannelID
  let f := { f with data := f.data ++ branches step1 record }
  return { sorting with tmpDataFiles := Function.update sorting.tmpDataFiles gAsicID (some f) }

/-- The loop over the records of a step; `i` is an `int`. -/
def sortRecords (step1 : Value) : Nat → List RawCalibrationData → Sorting Value →
    Except SortFault (Sorting Value)
  | _, [], sorting => .ok sorting
  | i, record :: rest, sorting => do
      let sorting ← sortRecord canOpen tmpFilePrefix step1 sorting record
      if 2 ^ 31 ≤ i + 1 then throw .overflow
      sortRecords step1 (i + 1) rest sorting

/-- What `fseek` and `fread` give for a line of the index file. -/
def readRecords (dataFile : List RawCalibrationData) (line : IndexLine Value) :
    List RawCalibrationData :=
  let nCalData := (line.endOffset - line.startOffset) / 16
  (dataFile.drop ((line.startOffset - 64) / 16)).take nCalData

def closeFiles (sorting : Sorting Value) : List (Nat × TmpFile Value) :=
  (List.range (sorting.maxgAsicID + 1)).filterMap fun gAsicID =>
    (sorting.tmpDataFiles gAsicID).map fun f => (gAsicID, f)

def sortData (dataFile : List RawCalibrationData) (indexFile : List (IndexLine Value)) :
    Except SortFault (List (Nat × TmpFile Value)) := do
  if nameSize ≤ (tmpListName tmpFilePrefix).utf8ByteSize then throw .pastBuffer
  if canOpen (tmpListName tmpFilePrefix) = false then
    throw (.couldNotOpen (tmpListName tmpFilePrefix))
  let sorting ← indexFile.foldlM (fun sorting line =>
    sortRecords canOpen tmpFilePrefix line.step1 0 (readRecords dataFile line) sorting)
    { tmpDataFiles := fun _ => none, maxgAsicID := 0 }
  return closeFiles sorting

end Files

def asicOf (record : RawCalibrationData) : Nat := getChannelID record.eventWord >>> 6

theorem asic_bounded (record : RawCalibrationData) : asicOf record < maxWorkFiles := by
  have narrow := (tac_channel_bounded record.eventWord).2
  rw [asicOf, Nat.shiftRight_eq_div_pow]
  show _ < 65536
  omega

def asicFileName (tmpFilePrefix : String) (gAsicID : Nat) : String :=
  tmpFilePrefix ++ "_" ++ twoDigits ((gAsicID >>> 11) % 32) ++ "_" ++
    twoDigits ((gAsicID >>> 6) % 32) ++ "_" ++ twoDigits (gAsicID % 64) ++ "_data.tmp"

theorem tmp_file_name (tmpFilePrefix : String) (gChannelID : Nat) :
    tmpFileName tmpFilePrefix gChannelID = asicFileName tmpFilePrefix (gChannelID >>> 6) := by
  rw [asicFileName, ← Nat.shiftRight_add, ← Nat.shiftRight_add]
  rfl

def shownNumber (digits : List Char) : Nat :=
  (digits.getD 0 '0').toNat * 10 + (digits.getD 1 '0').toNat - 528

theorem two_digits (n : Nat) (small : n < 64) :
    (twoDigits n).toList.length = 2 ∧ shownNumber (twoDigits n).toList = n := by
  have all : ∀ n < 64, (twoDigits n).toList.length = 2 ∧ shownNumber (twoDigits n).toList = n := by
    decide +kernel
  exact all n small

theorem tmp_file_name_size (tmpFilePrefix : String) (gChannelID : Nat) :
    (tmpFileName tmpFilePrefix gChannelID).utf8ByteSize = tmpFilePrefix.utf8ByteSize + 18 := by
  have digits : ∀ n < 64, (twoDigits n).utf8ByteSize = 2 := by decide +kernel
  have parts : "_".utf8ByteSize = 1 ∧ "_data.tmp".utf8ByteSize = 9 := by decide +kernel
  simp only [tmpFileName, String.utf8ByteSize_append, parts]
  rw [digits _ (by omega), digits _ (by omega), digits _ (by omega)]

theorem tmp_list_name_size (tmpFilePrefix : String) :
    (tmpListName tmpFilePrefix).utf8ByteSize = tmpFilePrefix.utf8ByteSize + 9 := by
  have part : "_list.tmp".utf8ByteSize = 9 := by decide +kernel
  rw [tmpListName, String.utf8ByteSize_append, part]

theorem asic_file_name_injective (tmpFilePrefix : String) (left right : Nat)
    (first : left < maxWorkFiles) (second : right < maxWorkFiles)
    (same : asicFileName tmpFilePrefix left = asicFileName tmpFilePrefix right) : left = right := by
  have digits : ∀ n, (twoDigits (n % 32)).toList.length = 2 ∧ (twoDigits (n % 64)).toList.length = 2 :=
    fun n => ⟨(two_digits _ (by omega)).1, (two_digits _ (by omega)).1⟩
  have shown : ∀ n m, n < 64 → m < 64 → (twoDigits n).toList = (twoDigits m).toList → n = m := by
    intro n m small small' equal
    rw [← (two_digits n small).2, ← (two_digits m small').2, equal]
  have chars := congrArg String.toList same
  simp only [asicFileName, String.toList_append, List.append_assoc] at chars
  have chars := List.append_cancel_left (List.append_cancel_left chars)
  obtain ⟨port, chars⟩ := List.append_inj chars ((digits _).1.trans (digits _).1.symm)
  obtain ⟨slave, chars⟩ := List.append_inj (List.append_cancel_left chars)
    ((digits _).1.trans (digits _).1.symm)
  have chip := List.append_inj_left (List.append_cancel_left chars)
    ((digits _).2.trans (digits _).2.symm)
  have port := shown _ _ (by omega) (by omega) port
  have slave := shown _ _ (by omega) (by omega) slave
  have chip := shown _ _ (by omega) (by omega) chip
  rw [Nat.shiftRight_eq_div_pow, Nat.shiftRight_eq_div_pow] at port slave
  have first : left < 65536 := first
  have second : right < 65536 := second
  omega

abbrev Emitted (Value : Type) := Value × RawCalibrationData

section Run

variable {Value : Type} (canOpen : String → Bool) (tmpFilePrefix : String)

def recordsOf (gAsicID : Nat) (records : List (Emitted Value)) : List (Emitted Value) :=
  records.filter fun record => asicOf record.2 = gAsicID

/-- The records of these lines, with the step values. -/
def emitted (dataFile : List RawCalibrationData) (lines : List (IndexLine Value)) :
    List (Emitted Value) :=
  lines.flatMap fun line => (readRecords dataFile line).map fun record => (line.step1, record)

/-- The state after these records: the files of their ASICs, with all of them. -/
structure Sorted (done : List (Emitted Value)) (sorting : Sorting Value) : Prop where
  files : ∀ gAsicID, sorting.tmpDataFiles gAsicID =
    if recordsOf gAsicID done = [] then none
    else some ⟨asicFileName tmpFilePrefix gAsicID,
      (recordsOf gAsicID done).flatMap fun record => branches record.1 record.2⟩
  reached : ∀ record ∈ done, asicOf record.2 ≤ sorting.maxgAsicID

theorem sorted_start :
    Sorted tmpFilePrefix ([] : List (Emitted Value)) ⟨fun _ => none, 0⟩ where
  files := fun _ => rfl
  reached := fun _ member => absurd member List.not_mem_nil

section Fitting
variable (opens : ∀ fn, canOpen fn = true) (fits : tmpFilePrefix.utf8ByteSize ≤ 1005)
include opens fits

theorem sort_record_sorted (done : List (Emitted Value))
    (sorting : Sorting Value) (sorted : Sorted tmpFilePrefix done sorting) (step1 : Value)
    (record : RawCalibrationData) :
    ∃ next, sortRecord canOpen tmpFilePrefix step1 sorting record = .ok next ∧
      Sorted tmpFilePrefix (done ++ [(step1, record)]) next := by
  have inside : ¬ maxWorkFiles ≤ getChannelID record.eventWord >>> 6 :=
    Nat.not_le.mpr (asic_bounded record)
  have mine := sorted.files (asicOf record)
  have shorter : ¬ nameSize ≤ (asicFileName tmpFilePrefix (asicOf record)).utf8ByteSize := by
    rw [asicOf, ← tmp_file_name, tmp_file_name_size, nameSize]
    omega
  have opened : openFile canOpen tmpFilePrefix
      { sorting with maxgAsicID := max sorting.maxgAsicID (asicOf record) }
        (getChannelID record.eventWord) =
      .ok ⟨asicFileName tmpFilePrefix (asicOf record),
        (recordsOf (asicOf record) done).flatMap fun record => branches record.1 record.2⟩ := by
    rw [openFile, tmp_file_name, ← asicOf]
    simp only [mine, opens, if_true, if_neg shorter]
    split_ifs with none
    · rw [none]
      rfl
    · rfl
  refine ⟨_, by rw [sortRecord, if_neg inside, ← asicOf, opened]; rfl, ?_, ?_⟩
  · intro gAsicID
    simp only [Function.update_apply]
    -- the file of this ASIC grows, the others stay
    by_cases same : gAsicID = asicOf record
    · have own : recordsOf gAsicID (done ++ [(step1, record)]) =
          recordsOf gAsicID done ++ [(step1, record)] := by
        rw [recordsOf, List.filter_append, List.filter_singleton, decide_eq_true same.symm]
        rfl
      rw [if_pos same, own, if_neg (List.append_ne_nil_of_right_ne_nil _ (List.cons_ne_nil _ _)),
        List.flatMap_append, List.flatMap_singleton, same]
    · have other : recordsOf gAsicID (done ++ [(step1, record)]) = recordsOf gAsicID done := by
        rw [recordsOf, List.filter_append, List.filter_singleton,
          decide_eq_false (Ne.symm same)]
        exact List.append_nil _
      rw [if_neg same, other]
      exact sorted.files gAsicID
  · intro other member
    rcases List.mem_append.mp member with old | new
    · exact (sorted.reached other old).trans (le_max_left _ _)
    · rw [List.mem_singleton.mp new]
      exact le_max_right _ _

/-- The records of a line, by induction on them; the counter must not reach
`2 ^ 31`. -/
theorem sort_records_sorted (step1 : Value)
    (records : List RawCalibrationData) (i : Nat) (started : i < 2 ^ 31)
    (done : List (Emitted Value)) (sorting : Sorting Value)
    (sorted : Sorted tmpFilePrefix done sorting) :
    if i + records.length < 2 ^ 31 then
      ∃ next, sortRecords canOpen tmpFilePrefix step1 i records sorting = .ok next ∧
        Sorted tmpFilePrefix (done ++ records.map fun record => (step1, record)) next
    else sortRecords canOpen tmpFilePrefix step1 i records sorting = .error .overflow := by
  induction records generalizing i done sorting with
  | nil =>
      rw [List.length_nil, Nat.add_zero, if_pos started]
      exact ⟨sorting, rfl, by rwa [List.map_nil, List.append_nil]⟩
  | cons record rest ih =>
      obtain ⟨next, ran, after⟩ :=
        sort_record_sorted canOpen tmpFilePrefix opens fits done sorting sorted step1 record
      have count : i + (record :: rest).length = i + 1 + rest.length := by
        rw [List.length_cons]
        omega
      rw [count, sortRecords, ran]
      -- the increment of the counter overflows, or the rest is sorted from it on
      by_cases last : 2 ^ 31 ≤ i + 1
      · rw [if_neg (by omega)]
        simp only [bind, Except.bind, if_pos last]
        rfl
      · have later := ih (i + 1) (by omega) _ next after
        rw [List.append_assoc] at later
        simp only [bind, Except.bind, if_neg last]
        exact later

theorem sort_lines_sorted (dataFile : List RawCalibrationData) (lines : List (IndexLine Value)) (done : List (Emitted Value)) (sorting : Sorting Value)
    (sorted : Sorted tmpFilePrefix done sorting) :
    if ∀ line ∈ lines, (readRecords dataFile line).length < 2 ^ 31 then
      ∃ next, lines.foldlM (fun sorting line => sortRecords canOpen tmpFilePrefix line.step1 0
          (readRecords dataFile line) sorting) sorting = .ok next ∧
        Sorted tmpFilePrefix (done ++ emitted dataFile lines) next
    else lines.foldlM (fun sorting line => sortRecords canOpen tmpFilePrefix line.step1 0
      (readRecords dataFile line) sorting) sorting = .error .overflow := by
  induction lines generalizing done sorting with
  | nil =>
      rw [if_pos fun _ member => absurd member List.not_mem_nil]
      exact ⟨sorting, rfl, by rwa [emitted, List.flatMap_nil, List.append_nil]⟩
  | cons line rest ih =>
      have first := sort_records_sorted canOpen tmpFilePrefix opens fits line.step1
        (readRecords dataFile line) 0 (by decide) done sorting sorted
      simp only [Nat.zero_add, List.forall_mem_cons, List.foldlM_cons] at first ⊢
      by_cases few : (readRecords dataFile line).length < 2 ^ 31
      · rw [if_pos few] at first
        obtain ⟨next, ran, after⟩ := first
        have later := ih _ next after
        rw [List.append_assoc] at later
        simp only [few, true_and, ran]
        exact later
      · rw [if_neg few] at first
        rw [if_neg fun all => few all.1, first]
        rfl

end Fitting

theorem sort_lines_none (dataFile : List RawCalibrationData) (lines : List (IndexLine Value))
    (sorting : Sorting Value) (none : ∀ line ∈ lines, readRecords dataFile line = []) :
    lines.foldlM (fun sorting line => sortRecords canOpen tmpFilePrefix line.step1 0
      (readRecords dataFile line) sorting) sorting = .ok sorting := by
  induction lines with
  | nil => rfl
  | cons line rest ih =>
      obtain ⟨empty, others⟩ := List.forall_mem_cons.mp none
      rw [List.foldlM_cons, empty]
      exact ih others

/-- With a longer prefix the first record of all is printed past the buffer. -/
theorem sort_lines_long (long : 1005 < tmpFilePrefix.utf8ByteSize)
    (dataFile : List RawCalibrationData) (lines : List (IndexLine Value))
    (sorting next : Sorting Value) (unopened : ∀ gAsicID, sorting.tmpDataFiles gAsicID = none)
    (ran : lines.foldlM (fun sorting line => sortRecords canOpen tmpFilePrefix line.step1 0
      (readRecords dataFile line) sorting) sorting = .ok next) :
    ∀ line ∈ lines, readRecords dataFile line = [] := by
  induction lines with
  | nil => exact List.forall_mem_nil _
  | cons line rest ih =>
      rw [List.foldlM_cons] at ran
      cases records : readRecords dataFile line with
      | nil =>
          rw [records] at ran
          exact List.forall_mem_cons.mpr ⟨records, ih ran⟩
      | cons record others =>
          have printed : nameSize ≤
              (tmpFileName tmpFilePrefix (getChannelID record.eventWord)).utf8ByteSize := by
            rw [tmp_file_name_size, nameSize]
            omega
          have inside : ¬ maxWorkFiles ≤ getChannelID record.eventWord >>> 6 :=
            Nat.not_le.mpr (asic_bounded record)
          have failed : sortRecord canOpen tmpFilePrefix line.step1 sorting record =
              .error .pastBuffer := by
            rw [sortRecord, if_neg inside, openFile]
            simp only [unopened, if_pos printed]
            rfl
          rw [records, sortRecords, failed] at ran
          cases ran

/-- The entries of a record: the gid counts channel, TAC and branch. -/
def entriesOf (record : Emitted Value) : List (CalibrationData Value) :=
  let word := record.2.eventWord
  [⟨8 * getChannelID word + 2 * getTacID word, getTCoarse word, getTFine word, record.2.freq,
      record.1⟩,
    ⟨8 * getChannelID word + 2 * getTacID word + 1, getECoarse word, getEFine word, record.2.freq,
      record.1⟩]

theorem branches_entries (record : Emitted Value) : branches record.1 record.2 = entriesOf record := by
  have tac := (tac_channel_bounded record.2.eventWord).1
  have even : getTacID record.2.eventWord <<< 1 ||| 1 = getTacID record.2.eventWord <<< 1 + 1 :=
    (Nat.shiftLeft_add_eq_or_of_lt (by decide) _).symm
  have doubled := Nat.shiftLeft_eq (getTacID record.2.eventWord) 1
  have first : getChannelID record.2.eventWord <<< 3 ||| getTacID record.2.eventWord <<< 1 ||| 0 =
      8 * getChannelID record.2.eventWord + 2 * getTacID record.2.eventWord := by
    rw [Nat.or_zero, ← Nat.shiftLeft_add_eq_or_of_lt (by omega), Nat.shiftLeft_eq]
    omega
  have second : getChannelID record.2.eventWord <<< 3 ||| getTacID record.2.eventWord <<< 1 ||| 1 =
      8 * getChannelID record.2.eventWord + 2 * getTacID record.2.eventWord + 1 := by
    rw [Nat.or_assoc, even, ← Nat.shiftLeft_add_eq_or_of_lt (by omega), Nat.shiftLeft_eq]
    omega
  simp only [branches, entriesOf, first, second]

/-- The files hold the records of their ASICs, each as two entries; every
record has a file, and no two ASICs share one. -/
structure Splits (records : List (Emitted Value)) (files : List (Nat × TmpFile Value)) : Prop where
  distinct : files.Pairwise fun left right => left.1 ≠ right.1 ∧ left.2.name ≠ right.2.name
  content : ∀ file ∈ files, file.2.data = (recordsOf file.1 records).flatMap entriesOf
  every : ∀ record ∈ records, ∃ file ∈ files, file.1 = asicOf record.2

theorem close_files_split (records : List (Emitted Value)) (sorting : Sorting Value)
    (sorted : Sorted tmpFilePrefix records sorting) : Splits records (closeFiles sorting) := by
  have held : ∀ gAsicID file, (sorting.tmpDataFiles gAsicID).map (fun f => (gAsicID, f)) =
      some file → gAsicID < maxWorkFiles ∧ file.1 = gAsicID ∧
        file.2 = ⟨asicFileName tmpFilePrefix gAsicID,
          (recordsOf gAsicID records).flatMap entriesOf⟩ := by
    intro gAsicID file here
    rw [sorted.files] at here
    split_ifs at here with none
    · cases here
    obtain rfl := Option.some.inj here
    obtain ⟨record, member⟩ := List.exists_mem_of_ne_nil _ none
    have mine := of_decide_eq_true (List.mem_filter.mp member).2
    refine ⟨mine ▸ asic_bounded record.2, rfl, ?_⟩
    simp only [branches_entries]
  refine ⟨?_, ?_, ?_⟩
  · rw [closeFiles, List.pairwise_filterMap]
    refine List.nodup_range.imp fun {left right} apart => ?_
    intro first isFirst second isSecond
    obtain ⟨boundFirst, asicFirst, nameFirst⟩ := held left first isFirst
    obtain ⟨boundSecond, asicSecond, nameSecond⟩ := held right second isSecond
    rw [asicFirst, asicSecond, nameFirst, nameSecond]
    exact ⟨apart, fun same => apart
      (asic_file_name_injective tmpFilePrefix left right boundFirst boundSecond same)⟩
  · intro file member
    obtain ⟨gAsicID, _, here⟩ := List.mem_filterMap.mp member
    obtain ⟨_, asic, content⟩ := held gAsicID file here
    rw [content, asic]
  · intro record member
    have mine : record ∈ recordsOf (asicOf record.2) records :=
      List.mem_filter.mpr ⟨member, by rw [decide_eq_true_eq]⟩
    obtain ⟨file, here⟩ : ∃ file, sorting.tmpDataFiles (asicOf record.2) = some file :=
      ⟨_, (sorted.files (asicOf record.2)).trans (if_neg (List.ne_nil_of_mem mine))⟩
    refine ⟨(asicOf record.2, file), List.mem_filterMap.mpr ⟨asicOf record.2, ?_, ?_⟩, rfl⟩
    · exact List.mem_range.mpr (Nat.lt_succ_of_le (sorted.reached record member))
    · rw [here]
      rfl

theorem sort_data_listed (opens : ∀ fn, canOpen fn = true)
    (fits : tmpFilePrefix.utf8ByteSize ≤ 1014) (dataFile : List RawCalibrationData)
    (lines : List (IndexLine Value)) :
    sortData canOpen tmpFilePrefix dataFile lines =
      (lines.foldlM (fun sorting line => sortRecords canOpen tmpFilePrefix line.step1 0
        (readRecords dataFile line) sorting) ⟨fun _ => none, 0⟩).map closeFiles := by
  have shorter : ¬ nameSize ≤ (tmpListName tmpFilePrefix).utf8ByteSize := by
    rw [tmp_list_name_size, nameSize]
    omega
  rw [sortData, if_neg shorter, if_neg (by rw [opens]; decide)]
  cases lines.foldlM (fun sorting line => sortRecords canOpen tmpFilePrefix line.step1 0
    (readRecords dataFile line) sorting) (⟨fun _ => none, 0⟩ : Sorting Value) <;> rfl

/-- All lines are sorted, unless one has too many records for an `int`. -/
theorem sort_data_outcome (opens : ∀ fn, canOpen fn = true)
    (fits : tmpFilePrefix.utf8ByteSize ≤ 1005) (dataFile : List RawCalibrationData)
    (lines : List (IndexLine Value)) :
    if ∀ line ∈ lines, (readRecords dataFile line).length < 2 ^ 31 then
      ∃ files, sortData canOpen tmpFilePrefix dataFile lines = .ok files ∧
        Splits (emitted dataFile lines) files
    else sortData canOpen tmpFilePrefix dataFile lines = .error .overflow := by
  have sorted := sort_lines_sorted canOpen tmpFilePrefix opens fits dataFile lines []
    ⟨fun _ => none, 0⟩ (sorted_start tmpFilePrefix)
  rw [sort_data_listed canOpen tmpFilePrefix opens (by omega)]
  split_ifs at sorted ⊢ with few
  · obtain ⟨sorting, ran, after⟩ := sorted
    refine ⟨closeFiles sorting, ?_, close_files_split tmpFilePrefix _ sorting after⟩
    rw [ran]
    rfl
  · rw [sorted]
    rfl

/-- What the sorting asks of the records of a line: their number is an `int`, and
the names of their files fit. -/
def Sortable (count : Nat) : Prop :=
  count < 2 ^ 31 ∧ (count ≠ 0 → tmpFilePrefix.utf8ByteSize ≤ 1005)

theorem sort_data_long (opens : ∀ fn, canOpen fn = true)
    (long : 1005 < tmpFilePrefix.utf8ByteSize) (fits : tmpFilePrefix.utf8ByteSize ≤ 1014)
    (dataFile : List RawCalibrationData) (lines : List (IndexLine Value)) :
    (∃ files, sortData canOpen tmpFilePrefix dataFile lines = .ok files ∧
      Splits (emitted dataFile lines) files) ↔ ∀ line ∈ lines, readRecords dataFile line = [] := by
  rw [sort_data_listed canOpen tmpFilePrefix opens fits]
  constructor
  · rintro ⟨files, ran, _⟩
    cases sorted : lines.foldlM (fun sorting line => sortRecords canOpen tmpFilePrefix line.step1 0
      (readRecords dataFile line) sorting) (⟨fun _ => none, 0⟩ : Sorting Value) with
    | error fault =>
        rw [sorted] at ran
        cases ran
    | ok sorting =>
        exact sort_lines_long canOpen tmpFilePrefix long dataFile lines _ sorting (fun _ => rfl)
          sorted
  · intro none
    have silent : emitted dataFile lines = [] := by
      refine List.flatMap_eq_nil_iff.mpr fun line member => ?_
      rw [none line member, List.map_nil]
    rw [sort_lines_none canOpen tmpFilePrefix dataFile lines _ none, silent]
    exact ⟨_, rfl, close_files_split tmpFilePrefix _ _ (sorted_start tmpFilePrefix)⟩

theorem sort_data_iff (opens : ∀ fn, canOpen fn = true) (dataFile : List RawCalibrationData)
    (lines : List (IndexLine Value)) :
    (∃ files, sortData canOpen tmpFilePrefix dataFile lines = .ok files ∧
      Splits (emitted dataFile lines) files) ↔
        tmpFilePrefix.utf8ByteSize ≤ 1014 ∧
          ∀ line ∈ lines, Sortable tmpFilePrefix (readRecords dataFile line).length := by
  by_cases fits : tmpFilePrefix.utf8ByteSize ≤ 1005
  · have outcome := sort_data_outcome canOpen tmpFilePrefix opens fits dataFile lines
    have listed : tmpFilePrefix.utf8ByteSize ≤ 1014 := by omega
    simp only [Sortable, fits, implies_true, and_true, listed, true_and]
    split_ifs at outcome with few
    · exact iff_of_true outcome few
    · refine iff_of_false (fun both => ?_) few
      obtain ⟨files, ran, _⟩ := both
      rw [outcome] at ran
      cases ran
  · by_cases listed : tmpFilePrefix.utf8ByteSize ≤ 1014
    · rw [sort_data_long canOpen tmpFilePrefix opens (by omega) listed]
      simp only [listed, true_and]
      refine forall₂_congr fun line member => ?_
      rw [Sortable, ← List.length_eq_zero_iff]
      omega
    · refine iff_of_false (fun both => ?_) fun both => listed both.1
      obtain ⟨files, ran, _⟩ := both
      have longer : nameSize ≤ (tmpListName tmpFilePrefix).utf8ByteSize := by
        rw [tmp_list_name_size, nameSize]
        omega
      rw [sortData, if_pos longer] at ran
      cases ran

/-- The line of a step, and what it finds in the data file. -/
structure Recorded (printed : Value → Value) (pool : CalibrationPool)
    (dataFile : List RawCalibrationData) (step : CalibrationStep Value) (line : IndexLine Value) :
    Prop where
  value : line.step1 = printed step.step1
  found : readRecords dataFile line = (step.counting pool).records
  counts : ∀ word, step.words.count word < 2 ^ 31 →
    frequency (readRecords dataFile line) word = step.words.count word
  worker : ∀ word ∈ step.words, ∃! cpu_index, cpu_index < pool.n_cpu ∧
    word ∈ (step.counting pool).worker cpu_index

theorem line_recorded (printed : Value → Value) (pool : CalibrationPool)
    (step : CalibrationStep Value) (front rest : List RawCalibrationData) :
    Recorded printed pool (front ++ (step.counting pool).records ++ rest) step
      (lineOf printed pool front.length step) := by
  obtain ⟨counted, size⟩ := step_counting step pool
  have found : readRecords (front ++ (step.counting pool).records ++ rest)
      (lineOf printed pool front.length step) = (step.counting pool).records := by
    have start : (64 + 16 * front.length - 64) / 16 = front.length := by omega
    have long : (64 + 16 * (front.length + (step.counting pool).records.length) -
        (64 + 16 * front.length)) / 16 = (step.counting pool).records.length := by
      omega
    rw [readRecords, lineOf]
    simp only [start, long]
    rw [List.append_assoc, List.drop_left, List.take_left]
  refine ⟨rfl, found, fun word few => ?_, fun word came => ?_⟩
  · rw [found]
    exact records_frequency step.words _ counted word few
  · rw [← size]
    exact one_worker step.words _ counted word came

theorem lines_recorded (printed : Value → Value) (pool : CalibrationPool)
    (steps : List (CalibrationStep Value)) (front : List RawCalibrationData) :
    List.Forall₂ (Recorded printed pool
      (front ++ steps.flatMap fun step => (step.counting pool).records)) steps
      (linesFrom printed pool front.length steps) := by
  induction steps generalizing front with
  | nil => exact List.Forall₂.nil
  | cons step rest ih =>
      have later := ih (front ++ (step.counting pool).records)
      rw [List.length_append] at later
      rw [List.flatMap_cons, ← List.append_assoc]
      exact List.Forall₂.cons (line_recorded printed pool step front _) later

theorem recorded_lengths (printed : Value → Value) (pool : CalibrationPool)
    (dataFile : List RawCalibrationData) (good : Nat → Prop) (steps : List (CalibrationStep Value))
    (lines : List (IndexLine Value))
    (recorded : List.Forall₂ (Recorded printed pool dataFile) steps lines) :
    (∀ line ∈ lines, good (readRecords dataFile line).length) ↔
      ∀ step ∈ steps, good step.words.dedup.length := by
  induction recorded with
  | nil => exact iff_of_true (List.forall_mem_nil _) (List.forall_mem_nil _)
  | @cons step line _ _ here _ ih =>
      have length : (readRecords dataFile line).length = step.words.dedup.length := by
        rw [here.found]
        exact records_length step.words _ (step_counting step pool).1
      rw [List.forall_mem_cons, List.forall_mem_cons, length, ih]

theorem run_recorded (printed : Value → Value) (pool : CalibrationPool)
    (steps : List (CalibrationStep Value)) :
    List.Forall₂
      (Recorded printed pool
        (steps.foldl (CalibrationStep.write printed) (CalibrationWriter.start Value pool)).dataFile)
      steps
      (steps.foldl (CalibrationStep.write printed) (CalibrationWriter.start Value pool)).index := by
  obtain ⟨file, index⟩ := steps_written printed steps pool (CalibrationWriter.start Value pool) rfl
  rw [file, index]
  exact lines_recorded printed pool steps []

/-- A calibration run keeps all counts, and is sorted without loss exactly if
no step has more different words than an `int` counts and the names of the
temporary files fit their buffers. -/
theorem counts_kept_iff (printed : Value → Value) (opens : ∀ fn, canOpen fn = true)
    (pool : CalibrationPool) (steps : List (CalibrationStep Value)) :
    let writer := steps.foldl (CalibrationStep.write printed) (CalibrationWriter.start Value pool)
    List.Forall₂ (Recorded printed pool writer.dataFile) steps writer.index ∧
      ((∃ files, sortData canOpen tmpFilePrefix writer.dataFile writer.index = .ok files ∧
          Splits (emitted writer.dataFile writer.index) files) ↔
        tmpFilePrefix.utf8ByteSize ≤ 1014 ∧
          ∀ step ∈ steps, Sortable tmpFilePrefix step.words.dedup.length) := by
  have recorded := run_recorded printed pool steps
  refine ⟨recorded, ?_⟩
  rw [sort_data_iff canOpen tmpFilePrefix opens]
  exact and_congr_right fun _ =>
    recorded_lengths printed pool _ (Sortable tmpFilePrefix) steps _ recorded

end Run

def eventBlock (frameID : Nat) (word : Word) : CalibrationBlock Nat :=
  { blockType := 1
    rdPointer := 0
    wrPointer := 1
    slots := fun _ index =>
      [((3 : Word) <<< 36) ||| UInt64.ofNat frameID, 1, word].getD index 0
    step1 := 5 }

def boundaryBlock (blockType : Int) : CalibrationBlock Nat :=
  { blockType := blockType, rdPointer := 0, wrPointer := 0, slots := fun _ _ => 0, step1 := 5 }

def eventStep (count : Nat) (word : Nat → Word) : CalibrationStep Nat where
  step1 := 5
  first := boundaryBlock 0
  middle := (List.range count).map fun frameID => eventBlock frameID (word frameID)
  last := boundaryBlock 2
  opens := rfl
  runs := by
    intro block member
    obtain ⟨frameID, _, rfl⟩ := List.mem_map.mp member
    rfl
  closes := rfl
  valued := by
    intro block member
    rcases List.mem_append.mp member with begun | closed
    · rcases List.mem_cons.mp begun with rfl | middle
      · rfl
      · obtain ⟨frameID, _, rfl⟩ := List.mem_map.mp middle
        rfl
    · rw [List.mem_singleton.mp closed]
      rfl

theorem event_step_words (count : Nat) (word : Nat → Word) :
    (eventStep count word).words = (List.range count).map word := by
  have single : ∀ frameID, blockWords (eventBlock frameID (word frameID)).toBlock =
      [word frameID] := by
    intro frameID
    have slots : slotsBetween maxRawDataFrameQueueSize 0 1 = [0] := by decide
    have one : getNEvents [((3 : Word) <<< 36) ||| UInt64.ofNat frameID, 1] = 1 := by
      show field 1 0 0x7FFF = 1
      decide
    have events : slotEvents (eventBlock frameID (word frameID)).slots 0 = [word frameID] := by
      rw [slotEvents]
      show (List.range (getNEvents [((3 : Word) <<< 36) ||| UInt64.ofNat frameID, 1])).map _ = _
      rw [one]
      rfl
    rw [blockWords]
    show (slotsBetween maxRawDataFrameQueueSize 0 1).flatMap _ = _
    rw [slots, List.flatMap_singleton, events]
  rw [CalibrationStep.words, CalibrationStep.blocks, List.cons_append, List.flatMap_cons,
    List.flatMap_append, eventStep, List.flatMap_map]
  simp only [single]
  rw [← List.map_eq_flatMap]
  exact List.append_nil _

def oneWorker : CalibrationPool := ⟨1, by decide, [∅], rfl⟩

/-- An event that comes twice. -/
theorem counts_kept_iff_repeated :
    let writer := [eventStep 2 fun _ => 7].foldl (CalibrationStep.write id)
      (CalibrationWriter.start Nat oneWorker)
    ∃ files, sortData (fun _ => true) "calibration" writer.dataFile writer.index = .ok files ∧
      Splits (emitted writer.dataFile writer.index) files := by
  refine (counts_kept_iff (fun _ => true) "calibration" id (fun _ => rfl) oneWorker
    [eventStep 2 fun _ => 7]).2.mpr ⟨by decide +kernel, fun step member => ?_⟩
  rw [List.mem_singleton.mp member, event_step_words]
  exact ⟨by decide, fun _ => by decide +kernel⟩

theorem many_events (count : Nat) (narrow : count ≤ 2 ^ 64) :
    (eventStep count UInt64.ofNat).words.dedup.length = count := by
  have distinct : ((List.range count).map UInt64.ofNat).Nodup := by
    apply List.nodup_range.map_on
    intro left first right second same
    have small := List.mem_range.mp first
    have small' := List.mem_range.mp second
    have number := congrArg UInt64.toNat same
    rw [UInt64.toNat_ofNat', UInt64.toNat_ofNat', Nat.mod_eq_of_lt (by omega),
      Nat.mod_eq_of_lt (by omega)] at number
    exact number
  rw [event_step_words, distinct.dedup, List.length_map, List.length_range]

theorem many_words_overflow (step : CalibrationStep Nat)
    (many : 2 ^ 31 ≤ step.words.dedup.length) :
    let writer := [step].foldl (CalibrationStep.write id) (CalibrationWriter.start Nat oneWorker)
    sortData (fun _ => true) "calibration" writer.dataFile writer.index = .error .overflow := by
  intro writer
  have outcome := sort_data_outcome (fun _ => true) "calibration" (fun _ => rfl)
    (by decide +kernel) writer.dataFile writer.index
  have recorded := recorded_lengths id oneWorker _ (· < 2 ^ 31) _ _
    (run_recorded id oneWorker [step])
  rw [if_neg fun few => ?_] at outcome
  · exact outcome
  · exact Nat.not_lt.mpr many (recorded.mp few step List.mem_cons_self)

/-- A step of `2 ^ 31` different events. -/
theorem many_events_overflow :
    let writer := [eventStep (2 ^ 31) UInt64.ofNat].foldl (CalibrationStep.write id)
      (CalibrationWriter.start Nat oneWorker)
    sortData (fun _ => true) "calibration" writer.dataFile writer.index = .error .overflow :=
  many_words_overflow _ (Nat.le_of_eq (many_events (2 ^ 31) (by decide)).symm)

end GramsTof.SortData
