import GramsTof.PaddedDigits
import Mathlib.Data.List.DropRight

/-!
`DataFileWriter` of the conversion to singles, with the calls that
`runConvertRawToSingles` makes of it. An entry is the hit with what the fields of
its record are computed from; which part of the output a time belongs to, and
how a step value is printed, are arguments. The files can be opened and written,
and `rename` only fails where the directory of the new name is missing; the
`assert` behind it is compiled out. Names fit their buffers.
-/

namespace GramsTof.SinglesWriter

open PaddedDigits

variable {Value Data : Type}

inductive FileType where
  | text
  | binary
  | root
  | null
  deriving DecidableEq, Repr

/-- The fields of a hit but for `valid` are its data. -/
structure Hit (Data : Type) where
  valid : Bool
  data : Data
  deriving DecidableEq, Repr

structure EventBuffer (Data : Type) where
  tMin : Int
  hits : List (Hit Data)
  deriving DecidableEq, Repr

/-- A step of the run: its values, and the buffers that come out of the pipeline. -/
structure Step (Value Data : Type) where
  step1 : Value
  step2 : Value
  buffers : List (EventBuffer Data)
  deriving DecidableEq, Repr

structure Entry (Value Data : Type) where
  step1 : Value
  step2 : Value
  tMin : Int
  hit : Hit Data
  deriving DecidableEq, Repr

inductive Label (Value : Type) where
  | values (step1 step2 : Value)
  | printed (step1 step2 : Text)
  deriving DecidableEq, Repr

structure Range (Value : Type) where
  stepBegin : Nat
  stepEnd : Nat
  label : Label Value
  deriving DecidableEq, Repr

structure Part (Value Data : Type) where
  names : List Text
  data : List (Entry Value Data)
  index : List (Range Value)
  deriving DecidableEq, Repr

/-- What stands in front of the name of a file, up to the last slash. -/
def directoryOf (path : Text) : Text := path.rdropWhile (· ≠ '/')

/-- What `runConvertRawToSingles` is given, and the directories that exist.
`filePartIndex` is `(int)floor(buffer->getTMin() / fileSplitTime)`, `splits` is
`fileSplitTime > 0`, and `print` is `%e`. -/
structure Setting (Value : Type) where
  fName : Text
  requestedType : FileType
  eventFractionToWrite : Int
  splits : Bool
  filePartIndex : Int → Int
  print : Value → Text
  directories : Text → Bool
  opens : directories (directoryOf fName) = true

/-- The constructor takes the `long long` as an `int`. -/
def Setting.fraction (setting : Setting Value) : Int := setting.eventFractionToWrite.bmod (2 ^ 32)

def Setting.fileType (setting : Setting Value) : FileType :=
  if setting.fName = "/dev/null".toList then .null else setting.requestedType

/-- `parts` are the closed ones. -/
structure Writer (Value Data : Type) where
  eventCounter : Nat
  currentFilePartIndex : Int
  stepBegin : Nat
  data : List (Entry Value Data)
  index : List (Range Value)
  parts : List (Part Value Data)
  deriving DecidableEq, Repr

def opened : Writer Value Data :=
  { eventCounter := 0
    currentFilePartIndex := 0
    stepBegin := 0
    data := []
    index := []
    parts := [] }

/-- Where a data file ends after so many entries: `GetEntries`, or `ftell` behind
records of 16 bytes. -/
def Setting.position (setting : Setting Value) (entries : Nat) : Nat :=
  match setting.fileType with
  | .binary => 16 * entries
  | _ => entries

def Setting.label (setting : Setting Value) (step1 step2 : Value) : Label Value :=
  match setting.fileType with
  | .binary => .printed (setting.print step1) (setting.print step2)
  | _ => .values step1 step2

def Writer.closeStep (setting : Setting Value) (step1 step2 : Value) (writer : Writer Value Data) :
    Writer Value Data :=
  let stepEnd := setting.position writer.data.length
  match setting.fileType with
  | .root | .binary => { writer with
      index := writer.index ++ [⟨writer.stepBegin, stepEnd, setting.label step1 step2⟩]
      stepBegin := stepEnd }
  | .text | .null => writer

/-- `%08lld` -/
def padEight (n : Int) : Text :=
  if n < 0 then '-' :: (List.replicate (7 - (decimal n.natAbs).length) '0' ++ decimal n.natAbs)
  else List.replicate (8 - (decimal n.natAbs).length) '0' ++ decimal n.natAbs

/-- The names of the files while they are written. -/
def Setting.openNames (setting : Setting Value) : List Text :=
  match setting.fileType with
  | .binary => [setting.fName ++ ".ldat".toList, setting.fName ++ ".lidx".toList]
  | .null => []
  | _ => [setting.fName]

/-- What stands around the number of a part in the names `renameFile` gives. The
last dot is not looked for in a file name only. -/
def Setting.affixes (setting : Setting Value) : List (Text × Text) :=
  match setting.fileType with
  | .binary => [(setting.fName, ".ldat".toList), (setting.fName, ".lidx".toList)]
  | _ =>
      let dotted := setting.fName.rdropWhile (· ≠ '.')
      if dotted = [] then [(setting.fName, [])]
      else [(dotted.dropLast, '.' :: setting.fName.rtakeWhile (· ≠ '.'))]

def Setting.partNames (setting : Setting Value) (part : Int) : List Text :=
  setting.affixes.map fun affix => affix.1 ++ '_' :: padEight part ++ affix.2

/-- Whether `renameFile` succeeds. The two files of a binary part stay in their
directory. -/
def Setting.renames (setting : Setting Value) (part : Int) : Bool :=
  (setting.partNames part).all fun name => setting.directories (directoryOf name)

/-- `closeFile`, `renameFile` and `openFile`, which truncates a file that still
has its first name. -/
def Writer.nextPart (setting : Setting Value) (part : Int) (writer : Writer Value Data) :
    Writer Value Data :=
  { writer with
    parts := writer.parts ++
      if setting.renames writer.currentFilePartIndex then
        [⟨setting.partNames writer.currentFilePartIndex, writer.data, writer.index⟩]
      else []
    stepBegin := 0
    data := []
    index := []
    currentFilePartIndex := part }

/-- The loop of `addEvents` for one hit. -/
def Writer.addEvent (setting : Setting Value) (writer : Writer Value Data)
    (entry : Entry Value Data) : Writer Value Data :=
  let tmpCounter := writer.eventCounter
  let writer := { writer with eventCounter := writer.eventCounter + 1 }
  if setting.fraction ≤ ((tmpCounter % 1024 : Nat) : Int) then writer
  else if entry.hit.valid = false then writer
  else match setting.fileType with
    | .null => writer
    | _ => { writer with data := writer.data ++ [entry] }

/-- The entries the hits of a buffer would make. -/
def EventBuffer.entries (step1 step2 : Value) (buffer : EventBuffer Data) :
    List (Entry Value Data) :=
  buffer.hits.map fun hit => ⟨step1, step2, buffer.tMin, hit⟩

def Writer.addEvents (setting : Setting Value) (step1 step2 : Value) (writer : Writer Value Data)
    (buffer : EventBuffer Data) : Writer Value Data :=
  let filePartIndex := setting.filePartIndex buffer.tMin
  let writer :=
    if setting.splits = true ∧ writer.currentFilePartIndex < filePartIndex then
      (writer.closeStep setting step1 step2).nextPart setting filePartIndex
    else writer
  (buffer.entries step1 step2).foldl (Writer.addEvent setting) writer

/-- `processStep`, and `closeStep` behind it. -/
def Writer.step (setting : Setting Value) (writer : Writer Value Data) (step : Step Value Data) :
    Writer Value Data :=
  (step.buffers.foldl (Writer.addEvents setting step.step1 step.step2) writer).closeStep setting
    step.step1 step.step2

def Writer.deleted (setting : Setting Value) (writer : Writer Value Data) :
    List (Part Value Data) :=
  writer.parts ++ [⟨if setting.splits && setting.renames writer.currentFilePartIndex then
      setting.partNames writer.currentFilePartIndex
    else setting.openNames, writer.data, writer.index⟩]

/-- The parts of the output that a run leaves. -/
def runConvertRawToSingles (setting : Setting Value) (steps : List (Step Value Data)) :
    List (Part Value Data) :=
  (steps.foldl (Writer.step setting) opened).deleted setting

def Step.entries (step : Step Value Data) : List (Entry Value Data) :=
  step.buffers.flatMap (EventBuffer.entries step.step1 step.step2)

def hitsOf (steps : List (Step Value Data)) : List (Entry Value Data) :=
  steps.flatMap Step.entries

def callsOf (steps : List (Step Value Data)) : List (Value × Value × EventBuffer Data) :=
  steps.flatMap fun step => step.buffers.map fun buffer => (step.step1, step.step2, buffer)

/-- The part that a buffer goes to, behind one that went to the part `current`. -/
def Setting.partOf (setting : Setting Value) (current : Int) (buffer : EventBuffer Data) : Int :=
  if setting.splits = true ∧ current < setting.filePartIndex buffer.tMin then
    setting.filePartIndex buffer.tMin
  else current

def Setting.partBehind (setting : Setting Value) (current : Int)
    (calls : List (Value × Value × EventBuffer Data)) : Int :=
  calls.foldl (fun part call => setting.partOf part call.2.2) current

def Setting.numbered (setting : Setting Value) :
    Int → List (Value × Value × EventBuffer Data) → List (Int × Entry Value Data)
  | _, [] => []
  | current, (step1, step2, buffer) :: rest =>
      let part := setting.partOf current buffer
      (buffer.entries step1 step2).map (fun entry => (part, entry)) ++ setting.numbered part rest

/-- The valid ones among the first of every 1024. -/
def chosen (eventFractionToWrite : Int) (entries : List (Entry Value Data)) :
    List (Entry Value Data) :=
  (entries.zipIdx.filter fun pair =>
    pair.1.hit.valid && ((pair.2 % 1024 : Nat) : Int) < eventFractionToWrite).map Prod.fst

/-- Ranges that follow each other from `first` to `last`. -/
def Covers : Nat → List (Range Value) → Nat → Prop
  | first, [], last => first = last
  | first, range :: rest, last =>
      range.stepBegin = first ∧ range.stepBegin ≤ range.stepEnd ∧ Covers range.stepEnd rest last

/-- The ranges of the index cover the data, and every entry is in one with the
values of its own step. -/
structure Part.Indexed (setting : Setting Value) (part : Part Value Data) : Prop where
  covered : Covers 0 part.index (setting.position part.data.length)
  labelled : ∀ i entry, part.data[i]? = some entry → ∃ range ∈ part.index,
    range.stepBegin ≤ setting.position i ∧ setting.position (i + 1) ≤ range.stepEnd ∧
      range.label = setting.label entry.step1 entry.step2

section Positions
variable (setting : Setting Value)

theorem position_zero : setting.position 0 = 0 := by
  unfold Setting.position
  cases setting.fileType <;> rfl

theorem position_le {fewer more : Nat} (less : fewer ≤ more) :
    setting.position fewer ≤ setting.position more := by
  unfold Setting.position
  cases setting.fileType with
  | binary => exact Nat.mul_le_mul_left 16 less
  | _ => exact less

theorem covers_append (first last behind : Nat) (ranges : List (Range Value))
    (label : Label Value) (covers : Covers first ranges last) (grows : last ≤ behind) :
    Covers first (ranges ++ [⟨last, behind, label⟩]) behind := by
  induction ranges generalizing first with
  | nil => exact ⟨covers.symm, grows, rfl⟩
  | cons range rest ih => exact ⟨covers.1, covers.2.1, ih range.stepEnd covers.2.2⟩

end Positions

/-- What is left in the output of numbered hits: those the fraction and `left`
leave. -/
def Setting.selected (setting : Setting Value) (left : Int → Bool)
    (hits : List (Int × Entry Value Data)) : List (Entry Value Data) :=
  (hits.zipIdx.filter fun pair =>
    pair.1.2.hit.valid && decide (((pair.2 % 1024 : Nat) : Int) < setting.fraction) &&
      left pair.1.1).map fun pair => pair.1.2

/-- The parts whose files are there once the part `current` is written to. -/
def Setting.keeps (setting : Setting Value) (current part : Int) : Bool :=
  !decide (part < current) || setting.renames part

section Selected
variable (setting : Setting Value)

theorem selected_append (left : Int → Bool) (hits : List (Int × Entry Value Data)) (part : Int)
    (entry : Entry Value Data) :
    setting.selected left (hits ++ [(part, entry)]) =
      setting.selected left hits ++
        if (entry.hit.valid = true ∧ ((hits.length % 1024 : Nat) : Int) < setting.fraction) ∧
          left part = true then [entry] else [] := by
  unfold Setting.selected
  rw [List.zipIdx_append, List.filter_append, List.map_append]
  congr 1
  rw [Nat.zero_add, List.zipIdx_singleton]
  split_ifs with kept
  · obtain ⟨⟨valid, early⟩, here⟩ := kept
    rw [List.filter_cons_of_pos]
    · rfl
    · rw [valid, decide_eq_true early, here]
      rfl
  · rw [List.filter_cons_of_neg]
    · rfl
    · simp only [Bool.and_eq_true, decide_eq_true_eq]
      exact kept

theorem selected_congr {left right : Int → Bool} {hits : List (Int × Entry Value Data)}
    (same : ∀ pair ∈ hits, left pair.1 = right pair.1) :
    setting.selected left hits = setting.selected right hits := by
  unfold Setting.selected
  congr 1
  apply List.filter_congr
  intro pair member
  rw [same pair.1 (List.fst_mem_of_mem_zipIdx member)]

end Selected

/-- What holds while the entries of a step with these values are added; `done`
are the hits so far. -/
structure Inv (setting : Setting Value) (step1 step2 : Value)
    (done : List (Int × Entry Value Data)) (writer : Writer Value Data) : Prop where
  counted : writer.eventCounter = done.length
  bounded : ∀ pair ∈ done, pair.1 ≤ writer.currentFilePartIndex
  kept : writer.parts.flatMap Part.data ++ writer.data =
    setting.selected (setting.keeps writer.currentFilePartIndex) done
  renamed : writer.parts.flatMap Part.data =
    setting.selected (fun part => decide (part < writer.currentFilePartIndex) &&
      setting.renames part) done
  closed : ∀ part ∈ writer.parts, part.Indexed setting
  current : ∃ count ≤ writer.data.length, writer.stepBegin = setting.position count ∧
    Part.Indexed setting ⟨[], writer.data.take count, writer.index⟩ ∧
      ∀ entry ∈ writer.data.drop count, entry.step1 = step1 ∧ entry.step2 = step2

theorem opened_inv (setting : Setting Value) (step1 step2 : Value) :
    Inv setting step1 step2 ([] : List (Int × Entry Value Data)) opened where
  counted := rfl
  bounded := fun _ member => by cases member
  kept := rfl
  renamed := rfl
  closed := fun _ member => by cases member
  current := by
    refine ⟨0, Nat.le_refl _, (position_zero setting).symm, ⟨(position_zero setting).symm, ?_⟩, ?_⟩
    · intro i entry found
      cases found
    · intro entry member
      cases member

section Frame
variable (setting : Setting Value)

theorem closeStep_frame (step1 step2 : Value) (writer : Writer Value Data) :
    (writer.closeStep setting step1 step2).parts = writer.parts ∧
      (writer.closeStep setting step1 step2).currentFilePartIndex =
        writer.currentFilePartIndex := by
  unfold Writer.closeStep
  cases setting.fileType <;> exact ⟨rfl, rfl⟩

theorem addEvent_frame (entry : Entry Value Data) (writer : Writer Value Data) :
    (writer.addEvent setting entry).parts = writer.parts ∧
      (writer.addEvent setting entry).currentFilePartIndex = writer.currentFilePartIndex := by
  unfold Writer.addEvent
  dsimp only
  split_ifs
  · exact ⟨rfl, rfl⟩
  · exact ⟨rfl, rfl⟩
  · cases setting.fileType <;> exact ⟨rfl, rfl⟩

theorem entries_frame (entries : List (Entry Value Data)) (writer : Writer Value Data) :
    (entries.foldl (Writer.addEvent setting) writer).parts = writer.parts ∧
      (entries.foldl (Writer.addEvent setting) writer).currentFilePartIndex =
        writer.currentFilePartIndex := by
  induction entries generalizing writer with
  | nil => exact ⟨rfl, rfl⟩
  | cons entry rest ih =>
      have first := addEvent_frame setting entry writer
      have later := ih (writer.addEvent setting entry)
      exact ⟨later.1.trans first.1, later.2.trans first.2⟩

theorem addEvents_part (step1 step2 : Value) (writer : Writer Value Data)
    (buffer : EventBuffer Data) :
    (writer.addEvents setting step1 step2 buffer).currentFilePartIndex =
      setting.partOf writer.currentFilePartIndex buffer := by
  unfold Writer.addEvents Setting.partOf
  dsimp only
  rw [(entries_frame setting _ _).2]
  split_ifs <;> rfl

theorem buffers_part (step1 step2 : Value) (buffers : List (EventBuffer Data))
    (writer : Writer Value Data) :
    (buffers.foldl (Writer.addEvents setting step1 step2) writer).currentFilePartIndex =
      setting.partBehind writer.currentFilePartIndex
        (buffers.map fun buffer => (step1, step2, buffer)) := by
  induction buffers generalizing writer with
  | nil => rfl
  | cons buffer rest ih =>
      rw [List.foldl_cons, ih, addEvents_part]
      rfl

theorem steps_part (steps : List (Step Value Data)) (writer : Writer Value Data) :
    (steps.foldl (Writer.step setting) writer).currentFilePartIndex =
      setting.partBehind writer.currentFilePartIndex (callsOf steps) := by
  induction steps generalizing writer with
  | nil => rfl
  | cons step rest ih =>
      rw [List.foldl_cons, ih, Writer.step, (closeStep_frame setting _ _ _).2, buffers_part]
      exact List.foldl_append.symm

theorem numbered_append (current : Int) (calls more : List (Value × Value × EventBuffer Data)) :
    setting.numbered current (calls ++ more) =
      setting.numbered current calls ++
        setting.numbered (setting.partBehind current calls) more := by
  induction calls generalizing current with
  | nil => rfl
  | cons call rest ih =>
      rw [List.cons_append, Setting.numbered, ih, Setting.numbered, List.append_assoc]
      rfl

end Frame

section Kept
variable {setting : Setting Value} (indexes : setting.fileType = .root ∨ setting.fileType = .binary)
include indexes

theorem closeStep_eq (step1 step2 : Value) (writer : Writer Value Data) :
    writer.closeStep setting step1 step2 = { writer with
      index := writer.index ++ [⟨writer.stepBegin, setting.position writer.data.length,
        setting.label step1 step2⟩]
      stepBegin := setting.position writer.data.length } := by
  unfold Writer.closeStep
  rcases indexes with isRoot | isBinary
  · rw [isRoot]
  · rw [isBinary]

theorem closeStep_indexed (step1 step2 : Value) (done : List (Int × Entry Value Data))
    (writer : Writer Value Data) (inv : Inv setting step1 step2 done writer) :
    Part.Indexed setting ⟨[], writer.data, (writer.closeStep setting step1 step2).index⟩ := by
  obtain ⟨count, inside, begins, ⟨covered, labelled⟩, recent⟩ := inv.current
  rw [closeStep_eq indexes]
  have length : (writer.data.take count).length = count := List.length_take_of_le inside
  constructor
  · apply covers_append
    · rw [begins]
      rwa [length] at covered
    · rw [begins]
      exact position_le setting inside
  · intro i entry found
    by_cases earlier : i < count
    · obtain ⟨range, member, bounds⟩ := labelled i entry (by rw [List.getElem?_take, if_pos earlier]; exact found)
      exact ⟨range, List.mem_append_left _ member, bounds⟩
    · refine ⟨_, List.mem_append_right _ List.mem_cons_self, ?_, ?_, ?_⟩
      · rw [begins]
        exact position_le setting (Nat.not_lt.mp earlier)
      · exact position_le setting (List.getElem?_eq_some_iff.mp found).1
      · have member : entry ∈ writer.data.drop count := by
          apply List.mem_of_getElem? (i := i - count)
          rw [List.getElem?_drop, Nat.add_sub_cancel' (Nat.not_lt.mp earlier), found]
        rw [(recent entry member).1, (recent entry member).2]

theorem closeStep_inv (step1 step2 : Value) (done : List (Int × Entry Value Data))
    (writer : Writer Value Data) (inv : Inv setting step1 step2 done writer) (next1 next2 : Value) :
    Inv setting next1 next2 done (writer.closeStep setting step1 step2) := by
  have indexed := closeStep_indexed indexes step1 step2 done writer inv
  rw [closeStep_eq indexes] at indexed ⊢
  refine ⟨inv.counted, inv.bounded, inv.kept, inv.renamed, inv.closed, writer.data.length,
    Nat.le_refl _, rfl, ?_, ?_⟩
  · rwa [List.take_length]
  · intro entry member
    rw [List.drop_length] at member
    cases member

theorem addEvent_inv (done : List (Int × Entry Value Data)) (writer : Writer Value Data)
    (entry : Entry Value Data) (inv : Inv setting entry.step1 entry.step2 done writer) :
    Inv setting entry.step1 entry.step2 (done ++ [(writer.currentFilePartIndex, entry)])
      (writer.addEvent setting entry) := by
  have counted : writer.eventCounter + 1 =
      (done ++ [(writer.currentFilePartIndex, entry)]).length := by
    rw [inv.counted, List.length_append, List.length_singleton]
  have bounded : ∀ pair ∈ done ++ [(writer.currentFilePartIndex, entry)],
      pair.1 ≤ writer.currentFilePartIndex := by
    intro pair member
    rcases List.mem_append.mp member with old | new
    · exact inv.bounded pair old
    · rw [List.mem_singleton.mp new]
  -- the part that is written to is not renamed
  have renamed : writer.parts.flatMap Part.data =
      setting.selected (fun part => decide (part < writer.currentFilePartIndex) &&
        setting.renames part) (done ++ [(writer.currentFilePartIndex, entry)]) := by
    rw [selected_append, inv.renamed, if_neg (by simp), List.append_nil]
  have keeps : setting.keeps writer.currentFilePartIndex writer.currentFilePartIndex = true := by
    simp [Setting.keeps]
  by_cases kept : entry.hit.valid = true ∧
      ((writer.eventCounter % 1024 : Nat) : Int) < setting.fraction
  · have added : writer.addEvent setting entry =
        { writer with eventCounter := writer.eventCounter + 1, data := writer.data ++ [entry] } := by
      unfold Writer.addEvent
      dsimp only
      rw [if_neg (Int.not_le.mpr kept.2), if_neg (by rw [kept.1]; decide)]
      rcases indexes with isRoot | isBinary
      · rw [isRoot]
      · rw [isBinary]
    rw [added]
    obtain ⟨count, inside, begins, indexed, recent⟩ := inv.current
    refine ⟨counted, bounded, ?_, renamed, inv.closed, count, ?_, begins, ?_, ?_⟩
    · rw [selected_append, ← inv.counted, if_pos ⟨kept, keeps⟩, ← inv.kept, List.append_assoc]
    · rw [List.length_append]
      exact Nat.le_add_right_of_le inside
    · rwa [List.take_append_of_le_length inside]
    · intro other member
      rw [List.drop_append_of_le_length inside] at member
      rcases List.mem_append.mp member with old | new
      · exact recent other old
      · rw [List.mem_singleton.mp new]
        exact ⟨rfl, rfl⟩
  · have left : writer.addEvent setting entry =
        { writer with eventCounter := writer.eventCounter + 1 } := by
      unfold Writer.addEvent
      dsimp only
      split_ifs with late invalid
      · rfl
      · rfl
      · exact absurd ⟨by simpa using invalid, Int.not_le.mp late⟩ kept
    rw [left]
    refine ⟨counted, bounded, ?_, renamed, inv.closed, inv.current⟩
    rw [selected_append, ← inv.counted, if_neg fun both => kept both.1, List.append_nil]
    exact inv.kept

theorem entries_inv (step1 step2 : Value) (part : Int) (entries : List (Entry Value Data))
    (done : List (Int × Entry Value Data))
    (own : ∀ entry ∈ entries, entry.step1 = step1 ∧ entry.step2 = step2)
    (writer : Writer Value Data) (here : writer.currentFilePartIndex = part)
    (inv : Inv setting step1 step2 done writer) :
    Inv setting step1 step2 (done ++ entries.map fun entry => (part, entry))
      (entries.foldl (Writer.addEvent setting) writer) := by
  induction entries generalizing done writer with
  | nil => rwa [List.map_nil, List.append_nil]
  | cons entry rest ih =>
      obtain ⟨⟨rfl, rfl⟩, later⟩ := List.forall_mem_cons.mp own
      subst here
      have next := ih (done ++ [(writer.currentFilePartIndex, entry)]) later _
        (addEvent_frame setting entry writer).2 (addEvent_inv indexes done writer entry inv)
      rwa [List.append_assoc] at next

theorem nextPart_inv (step1 step2 : Value) (done : List (Int × Entry Value Data)) (part : Int)
    (writer : Writer Value Data) (grows : writer.currentFilePartIndex < part)
    (inv : Inv setting step1 step2 done writer) :
    Inv setting step1 step2 done
      ((writer.closeStep setting step1 step2).nextPart setting part) := by
  have indexed := closeStep_indexed indexes step1 step2 done writer inv
  have again := closeStep_inv indexes step1 step2 done writer inv step1 step2
  obtain ⟨parts, current⟩ := closeStep_frame setting step1 step2 writer
  have data : (writer.closeStep setting step1 step2).data = writer.data := by
    rw [closeStep_eq indexes]
  have left : ((writer.closeStep setting step1 step2).nextPart setting part).parts.flatMap
      Part.data = setting.selected setting.renames done := by
    rw [Writer.nextPart, List.flatMap_append, parts, data, current]
    cases renames : setting.renames writer.currentFilePartIndex with
    | true =>
        rw [if_pos rfl, List.flatMap_singleton, inv.kept]
        apply selected_congr
        intro pair member
        have within := inv.bounded pair member
        rw [Setting.keeps]
        by_cases before : pair.1 < writer.currentFilePartIndex
        · simp [before]
        · rw [show pair.1 = writer.currentFilePartIndex by omega, renames]
          simp
    | false =>
        rw [if_neg Bool.false_ne_true, List.flatMap_nil, List.append_nil, inv.renamed]
        apply selected_congr
        intro pair member
        have within := inv.bounded pair member
        by_cases before : pair.1 < writer.currentFilePartIndex
        · simp [before]
        · rw [show pair.1 = writer.currentFilePartIndex by omega, renames]
          simp
  have behind : ∀ pair ∈ done, pair.1 < part :=
    fun pair member => Int.lt_of_le_of_lt (inv.bounded pair member) grows
  refine ⟨again.counted, fun pair member => (behind pair member).le, ?_, ?_, ?_,
    (opened_inv setting step1 step2).current⟩
  · show _ ++ [] = _
    rw [List.append_nil, left]
    exact selected_congr setting fun pair member => by
      simp [Setting.keeps, Writer.nextPart, behind pair member]
  · rw [left]
    exact selected_congr setting fun pair member => by
      simp [Writer.nextPart, behind pair member]
  · intro closed member
    rcases List.mem_append.mp member with old | new
    · exact again.closed closed old
    · split_ifs at new
      · rw [List.mem_singleton.mp new]
        exact ⟨data ▸ indexed.covered, data ▸ indexed.labelled⟩
      · cases new

theorem addEvents_inv (step1 step2 : Value) (done : List (Int × Entry Value Data))
    (writer : Writer Value Data) (buffer : EventBuffer Data)
    (inv : Inv setting step1 step2 done writer) :
    Inv setting step1 step2
      (done ++ (buffer.entries step1 step2).map fun entry =>
        (setting.partOf writer.currentFilePartIndex buffer, entry))
      (writer.addEvents setting step1 step2 buffer) := by
  unfold Writer.addEvents Setting.partOf
  apply entries_inv indexes
  · intro entry member
    obtain ⟨hit, _, rfl⟩ := List.mem_map.mp member
    exact ⟨rfl, rfl⟩
  · split_ifs <;> rfl
  · split_ifs with next
    · exact nextPart_inv indexes step1 step2 done _ writer next.2 inv
    · exact inv

theorem buffers_inv (step1 step2 : Value) (buffers : List (EventBuffer Data))
    (done : List (Int × Entry Value Data)) (writer : Writer Value Data)
    (inv : Inv setting step1 step2 done writer) :
    Inv setting step1 step2
      (done ++ setting.numbered writer.currentFilePartIndex
        (buffers.map fun buffer => (step1, step2, buffer)))
      (buffers.foldl (Writer.addEvents setting step1 step2) writer) := by
  induction buffers generalizing done writer with
  | nil => rwa [List.map_nil, Setting.numbered, List.append_nil]
  | cons buffer rest ih =>
      have next := ih _ _ (addEvents_inv indexes step1 step2 done writer buffer inv)
      rwa [List.append_assoc, addEvents_part] at next

theorem steps_inv (steps : List (Step Value Data)) (done : List (Int × Entry Value Data))
    (writer : Writer Value Data) (inv : ∀ step1 step2, Inv setting step1 step2 done writer)
    (step1 step2 : Value) :
    Inv setting step1 step2
      (done ++ setting.numbered writer.currentFilePartIndex (callsOf steps))
      (steps.foldl (Writer.step setting) writer) := by
  induction steps generalizing done writer with
  | nil =>
      rw [callsOf, List.flatMap_nil, Setting.numbered, List.append_nil]
      exact inv step1 step2
  | cons step rest ih =>
      have added := buffers_inv indexes step.step1 step.step2 step.buffers done writer
        (inv step.step1 step.step2)
      have next := ih _ _ fun next1 next2 =>
        closeStep_inv indexes step.step1 step.step2 _ _ added next1 next2
      rw [(closeStep_frame setting step.step1 step.step2 _).2, buffers_part, List.append_assoc,
        ← numbered_append] at next
      exact next

/-- What a run leaves: every part that is there is indexed, also the one it ends
in, whose last step is closed like the others. -/
theorem run_indexed (steps : List (Step Value Data)) :
    (∀ part ∈ runConvertRawToSingles setting steps, part.Indexed setting) ∧
      (runConvertRawToSingles setting steps).flatMap Part.data =
        setting.selected (setting.keeps (setting.partBehind 0 (callsOf steps)))
          (setting.numbered 0 (callsOf steps)) := by
  have final (writer : Writer Value Data) (done : List (Int × Entry Value Data))
      (last : Part.Indexed setting ⟨[], writer.data, writer.index⟩)
      (closed : ∀ part ∈ writer.parts, part.Indexed setting) (left : Int → Bool)
      (kept : writer.parts.flatMap Part.data ++ writer.data = setting.selected left done) :
      (∀ part ∈ writer.deleted setting, part.Indexed setting) ∧
        (writer.deleted setting).flatMap Part.data = setting.selected left done := by
    constructor
    · intro part member
      rcases List.mem_append.mp member with old | new
      · exact closed part old
      · rw [List.mem_singleton.mp new]
        exact ⟨last.covered, last.labelled⟩
    · rw [← kept, Writer.deleted, List.flatMap_append, List.flatMap_singleton]
  rcases List.eq_nil_or_concat steps with rfl | ⟨earlier, step, rfl⟩
  · apply final
    · exact ⟨(position_zero setting).symm, fun i entry found => by cases found⟩
    · intro part member
      cases member
    · rfl
  · have begun := steps_inv indexes earlier [] opened (opened_inv setting) step.step1 step.step2
    have added := buffers_inv indexes step.step1 step.step2 step.buffers _ _ begun
    have closed := closeStep_inv indexes _ _ _ _ added step.step1 step.step2
    have indexed := closeStep_indexed indexes _ _ _ _ added
    have whole := steps_inv indexes (earlier ++ [step]) [] opened (opened_inv setting) step.step1
      step.step2
    have part := steps_part setting (earlier ++ [step]) (opened : Writer Value Data)
    rw [runConvertRawToSingles]
    apply final
    · rw [closeStep_eq indexes] at indexed
      rw [List.concat_eq_append, List.foldl_append, List.foldl_cons, List.foldl_nil, Writer.step,
        closeStep_eq indexes]
      exact indexed
    · rw [List.concat_eq_append]
      exact whole.closed
    · rw [List.concat_eq_append]
      have kept := whole.kept
      rw [part] at kept
      exact kept

end Kept

/-! The names of the parts -/

theorem padEight_injective (m n : Int) (counts : 0 ≤ m) (same : padEight m = padEight n)
    (also : 0 ≤ n) : m = n := by
  have number (k : Int) (positive : 0 ≤ k) :
      Nat.ofDigitChars 10 (padEight k) 0 = k.natAbs := by
    rw [padEight, if_neg (Int.not_lt.mpr positive), Nat.ofDigitChars_append,
      Nat.ofDigitChars_replicate_zero, Nat.mul_zero, decimal, Nat.ofDigitChars_ten_toDigits]
  have absolute : m.natAbs = n.natAbs := by
    rw [← number m counts, same, number n also]
  omega

/-- The parts are renamed with numbers that grow. -/
def Numbered (setting : Setting Value) (writer : Writer Value Data) : Prop :=
  ∃ numbers : List Int, writer.parts.map Part.names = numbers.map setting.partNames ∧
    (numbers ++ [writer.currentFilePartIndex]).Pairwise (· < ·) ∧
    (∀ number ∈ numbers ++ [writer.currentFilePartIndex], 0 ≤ number) ∧
    (setting.splits = false → numbers = [])

section Names
variable (setting : Setting Value)

theorem Numbered.of_frame {setting : Setting Value} {before after : Writer Value Data}
    (numbered : Numbered setting before)
    (frame : after.parts = before.parts ∧
      after.currentFilePartIndex = before.currentFilePartIndex) : Numbered setting after := by
  unfold Numbered
  rw [frame.1, frame.2]
  exact numbered

theorem nextPart_numbered (part : Int) (writer : Writer Value Data)
    (splits : setting.splits = true) (grows : writer.currentFilePartIndex < part)
    (numbered : Numbered setting writer) : Numbered setting (writer.nextPart setting part) := by
  obtain ⟨numbers, names, ordered, positive, _⟩ := numbered
  have current : 0 ≤ writer.currentFilePartIndex :=
    positive _ (List.mem_append_right _ List.mem_cons_self)
  have below : ∀ number ∈ numbers, number < writer.currentFilePartIndex :=
    fun number old => (List.pairwise_append.mp ordered).2.2 number old _ List.mem_cons_self
  refine ⟨numbers ++ if setting.renames writer.currentFilePartIndex then
    [writer.currentFilePartIndex] else [], ?_, ?_, ?_, ?_⟩
  · rw [Writer.nextPart, List.map_append, names, List.map_append]
    split_ifs <;> rfl
  · refine List.pairwise_append.mpr ⟨?_, List.pairwise_singleton _ _, ?_⟩
    · split_ifs
      · exact ordered
      · rw [List.append_nil]
        exact (List.pairwise_append.mp ordered).1
    · intro number member other last
      rw [List.mem_singleton.mp last]
      rcases List.mem_append.mp member with old | new
      · exact Int.lt_trans (below number old) grows
      · split_ifs at new
        · rwa [List.mem_singleton.mp new]
        · cases new
  · intro number member
    rcases List.mem_append.mp member with old | new
    · rcases List.mem_append.mp old with earlier | last
      · exact positive number (List.mem_append_left _ earlier)
      · split_ifs at last
        · rw [List.mem_singleton.mp last]
          exact current
        · cases last
    · rw [List.mem_singleton.mp new]
      exact Int.le_of_lt (Int.lt_of_le_of_lt current grows)
  · intro whole
    rw [splits] at whole
    cases whole

theorem addEvents_numbered (step1 step2 : Value) (writer : Writer Value Data)
    (buffer : EventBuffer Data) (numbered : Numbered setting writer) :
    Numbered setting (writer.addEvents setting step1 step2 buffer) := by
  unfold Writer.addEvents
  dsimp only
  refine Numbered.of_frame ?_ (entries_frame setting _ _)
  split_ifs with next
  · have closed := closeStep_frame setting step1 step2 writer
    apply nextPart_numbered setting _ _ next.1
    · rw [closed.2]
      exact next.2
    · exact numbered.of_frame closed
  · exact numbered

theorem steps_numbered (steps : List (Step Value Data)) (writer : Writer Value Data)
    (numbered : Numbered setting writer) :
    Numbered setting (steps.foldl (Writer.step setting) writer) := by
  induction steps generalizing writer with
  | nil => exact numbered
  | cons step rest ih =>
      apply ih
      refine Numbered.of_frame ?_ (closeStep_frame setting step.step1 step.step2 _)
      generalize step.buffers = buffers
      induction buffers generalizing writer with
      | nil => exact numbered
      | cons buffer others more =>
          exact more _ (addEvents_numbered setting step.step1 step.step2 writer buffer numbered)

theorem opened_numbered : Numbered setting (opened : Writer Value Data) := by
  refine ⟨[], rfl, List.pairwise_singleton _ _, ?_, fun _ => rfl⟩
  intro number member
  rw [List.mem_singleton.mp member]
  rfl

/-- Two names of parts are the same only for the same number and the same file
of the part. -/
theorem affixed_injective (m n : Int) (counts : 0 ≤ m) (also : 0 ≤ n) (front left right : Text)
    (width : left.length = right.length)
    (same : front ++ '_' :: padEight m ++ left = front ++ '_' :: padEight n ++ right) :
    m = n ∧ left = right := by
  obtain ⟨numbers, ends⟩ := List.append_inj' same width
  have digits := List.append_cancel_left numbers
  exact ⟨padEight_injective m n counts (List.cons.inj digits).2 also, ends⟩

theorem ldat_ne_lidx : (".ldat".toList : Text) ≠ ".lidx".toList := by decide

variable {setting} (indexes : setting.fileType = .root ∨ setting.fileType = .binary)
include indexes

theorem affixes_cases : (∃ front back, setting.affixes = [(front, back)]) ∨
    setting.affixes = [(setting.fName, ".ldat".toList), (setting.fName, ".lidx".toList)] := by
  unfold Setting.affixes
  rcases indexes with isRoot | isBinary
  · left
    rw [isRoot]
    dsimp only
    split_ifs
    · exact ⟨_, _, rfl⟩
    · exact ⟨_, _, rfl⟩
  · right
    rw [isBinary]

theorem partNames_nodup (number : Int) : (setting.partNames number).Nodup := by
  unfold Setting.partNames
  rcases affixes_cases indexes with ⟨front, back, one⟩ | two
  · rw [one]
    exact List.nodup_singleton _
  · rw [two, List.map_cons, List.map_cons, List.map_nil, List.nodup_cons]
    refine ⟨?_, List.nodup_singleton _⟩
    intro member
    exact ldat_ne_lidx (List.append_cancel_left (List.mem_singleton.mp member))

theorem partNames_disjoint (m n : Int) (counts : 0 ≤ m) (also : 0 ≤ n) (differ : m ≠ n) :
    (setting.partNames m).Disjoint (setting.partNames n) := by
  intro name left right
  obtain ⟨one, oneMember, rfl⟩ := List.mem_map.mp left
  obtain ⟨two, twoMember, same⟩ := List.mem_map.mp right
  rcases affixes_cases indexes with ⟨front, back, single⟩ | both
  · rw [single, List.mem_singleton] at oneMember twoMember
    subst oneMember twoMember
    exact differ (affixed_injective m n counts also front back back rfl same.symm).1
  · rw [both] at oneMember twoMember
    have shape (affix : Text × Text)
        (member : affix ∈ [(setting.fName, ".ldat".toList), (setting.fName, ".lidx".toList)]) :
        affix.1 = setting.fName ∧ affix.2.length = 5 := by
      rcases List.mem_cons.mp member with rfl | other
      · exact ⟨rfl, rfl⟩
      · rw [List.mem_singleton.mp other]
        exact ⟨rfl, rfl⟩
    have oneShape := shape one oneMember
    have twoShape := shape two twoMember
    rw [oneShape.1, twoShape.1] at same
    refine differ (affixed_injective m n counts also _ one.2 two.2 ?_ same.symm).1
    rw [oneShape.2, twoShape.2]

theorem numbers_nodup (numbers : List Int) (ordered : numbers.Pairwise (· < ·))
    (positive : ∀ number ∈ numbers, 0 ≤ number) : (numbers.flatMap setting.partNames).Nodup := by
  rw [List.nodup_flatMap]
  refine ⟨fun number _ => partNames_nodup indexes number, ?_⟩
  apply ordered.imp_of_mem
  intro m n member also less
  exact partNames_disjoint indexes m n (positive m member) (positive n also) (ne_of_lt less)

theorem openNames_nodup : setting.openNames.Nodup := by
  unfold Setting.openNames
  rcases indexes with isRoot | isBinary
  · rw [isRoot]
    exact List.nodup_singleton _
  · rw [isBinary, List.nodup_cons]
    refine ⟨?_, List.nodup_singleton _⟩
    intro member
    exact ldat_ne_lidx (List.append_cancel_left (List.mem_singleton.mp member))

theorem openNames_shorter (number : Int) :
    ∀ first ∈ setting.openNames, ∀ name ∈ setting.partNames number, first.length < name.length := by
  have longer (front back : Text) :
      (front ++ back).length < (front ++ '_' :: padEight number ++ back).length := by
    simp only [List.length_append, List.length_cons]
    omega
  unfold Setting.openNames Setting.partNames Setting.affixes
  rcases indexes with isRoot | isBinary
  · rw [isRoot]
    dsimp only
    intro first firstMember name nameMember
    rw [List.mem_singleton.mp firstMember]
    split_ifs at nameMember with bare
    · rw [List.mem_singleton.mp nameMember]
      have long := longer setting.fName []
      rwa [List.append_nil] at long
    · rw [List.mem_singleton.mp nameMember]
      -- the name is what stands before the last dot, the dot, and what stands behind it
      obtain ⟨front, dotted⟩ : ∃ front, setting.fName.rdropWhile (· ≠ '.') = front ++ ['.'] := by
        rcases List.eq_nil_or_concat (setting.fName.rdropWhile (· ≠ '.')) with none | ⟨front, c, all⟩
        · exact absurd none bare
        · have last := List.rdropWhile_last_not (fun c => decide (c ≠ '.')) setting.fName bare
          simp only [all, List.concat_eq_append, List.getLast_concat, decide_eq_true_eq,
            not_not] at last
          exact ⟨front, by rw [all, List.concat_eq_append, last]⟩
      have whole : setting.fName = front ++ '.' :: setting.fName.rtakeWhile (· ≠ '.') := by
        conv_lhs => rw [← @List.rdropWhile_append_rtakeWhile _ (fun c => decide (c ≠ '.')) setting.fName,
          dotted]
        rw [List.append_assoc]
        rfl
      rw [dotted, List.dropLast_concat]
      conv_lhs => rw [whole]
      exact longer front _
  · rw [isBinary]
    have widths : ∀ affix ∈ [(setting.fName, ".ldat".toList), (setting.fName, ".lidx".toList)],
        affix.1 = setting.fName ∧ affix.2.length = 5 := by
      intro affix member
      rcases List.mem_cons.mp member with rfl | other
      · exact ⟨rfl, rfl⟩
      · rw [List.mem_singleton.mp other]
        exact ⟨rfl, rfl⟩
    intro first firstMember name nameMember
    obtain ⟨affix, member, rfl⟩ := List.mem_map.mp nameMember
    obtain ⟨front, width⟩ := widths affix member
    have short : first.length = setting.fName.length + 5 := by
      rcases List.mem_cons.mp firstMember with rfl | other
      · rw [List.length_append]
        rfl
      · rw [List.mem_singleton.mp other, List.length_append]
        rfl
    simp only [List.length_append, List.length_cons, front, width]
    omega

theorem names_nodup (steps : List (Step Value Data)) :
    ((runConvertRawToSingles setting steps).flatMap Part.names).Nodup := by
  obtain ⟨numbers, names, ordered, positive, whole⟩ :=
    steps_numbered setting steps opened (opened_numbered setting)
  unfold runConvertRawToSingles Writer.deleted
  rw [List.flatMap_append, List.flatMap_singleton, List.flatMap_def, names, ← List.flatMap_def]
  have nodup := numbers_nodup indexes _ ordered positive
  rw [List.flatMap_append, List.flatMap_singleton] at nodup
  dsimp only
  split_ifs with renamed
  · exact nodup
  · refine List.nodup_append.mpr ⟨(List.nodup_append.mp nodup).1, openNames_nodup indexes, ?_⟩
    rintro name member _ first rfl
    obtain ⟨number, _, part⟩ := List.mem_flatMap.mp member
    exact Nat.lt_irrefl _ (openNames_shorter indexes number name first name part)

end Names

/-! What the output lacks -/

theorem filtered_same {Item Image : Type} (items : List Item) (image : Item → Image)
    (pred further : Item → Bool) (weaker : ∀ item ∈ items, pred item = true → further item = true)
    (same : (items.filter pred).map image = (items.filter further).map image) :
    ∀ item ∈ items, further item = true → pred item = true := by
  have twice : (items.filter further).filter pred = items.filter pred := by
    rw [List.filter_filter]
    apply List.filter_congr
    intro item member
    cases holds : pred item with
    | false => rfl
    | true => rw [weaker item member holds, Bool.and_self]
  have lengths : ((items.filter further).filter pred).length = (items.filter further).length := by
    have lengths := congrArg List.length same
    rwa [List.length_map, List.length_map, ← twice] at lengths
  intro item member holds
  exact List.length_filter_eq_length_iff.mp lengths item (List.mem_filter.mpr ⟨member, holds⟩)

section Lost
variable (setting : Setting Value)

theorem numbered_entries (current : Int) (calls : List (Value × Value × EventBuffer Data)) :
    (setting.numbered current calls).map Prod.snd =
      calls.flatMap fun call => call.2.2.entries call.1 call.2.1 := by
  induction calls generalizing current with
  | nil => rfl
  | cons call rest ih =>
      rw [Setting.numbered, List.map_append, ih, List.map_map, List.flatMap_cons]
      congr 1
      exact List.map_id _

theorem numbered_hits (steps : List (Step Value Data)) :
    (setting.numbered 0 (callsOf steps)).map Prod.snd = hitsOf steps := by
  rw [numbered_entries, callsOf, List.flatMap_assoc, hitsOf]
  apply List.flatMap_congr
  intro step _
  rw [List.flatMap_map, Step.entries]

theorem chosen_numbered (eventFractionToWrite : Int) (hits : List (Int × Entry Value Data)) :
    chosen eventFractionToWrite (hits.map Prod.snd) =
      (hits.zipIdx.filter fun pair => pair.1.2.hit.valid &&
        decide (((pair.2 % 1024 : Nat) : Int) < eventFractionToWrite)).map fun pair => pair.1.2 := by
  rw [chosen, List.zipIdx_map, List.filter_map, List.map_map]
  rfl

/-- The fraction as it is given and as an `int`: one lets more hits through. -/
theorem Setting.fraction_fits (narrow : -2 ^ 31 ≤ setting.eventFractionToWrite)
    (fits : setting.eventFractionToWrite < 2 ^ 31) :
    setting.fraction = setting.eventFractionToWrite :=
  Int.bmod_eq_of_le (by omega) (by omega)

theorem fraction_ordered :
    (∀ place : Nat, ((place % 1024 : Nat) : Int) < setting.fraction →
        ((place % 1024 : Nat) : Int) < setting.eventFractionToWrite) ∨
      ∀ place : Nat, ¬ ((place % 1024 : Nat) : Int) < setting.eventFractionToWrite := by
  by_cases low : setting.eventFractionToWrite < 0
  · right
    intro place
    omega
  · left
    intro place early
    by_cases narrow : setting.eventFractionToWrite < 2 ^ 31
    · have same : setting.fraction = setting.eventFractionToWrite :=
        setting.fraction_fits (by omega) narrow
      rwa [same] at early
    · have below := Nat.mod_lt place (show 0 < 1024 by decide)
      omega

/-- Every valid hit that the fraction leaves passes also as an `int`, and goes to
a part whose file is not truncated later; and no other passes. -/
def LosesNone (steps : List (Step Value Data)) : Prop :=
  ∀ place, ∀ pair ∈ (setting.numbered 0 (callsOf steps))[place]?, pair.2.hit.valid = true →
    (((place % 1024 : Nat) : Int) < setting.eventFractionToWrite ↔
      ((place % 1024 : Nat) : Int) < setting.fraction ∧
        (pair.1 < setting.partBehind 0 (callsOf steps) → setting.renames pair.1 = true))

theorem losesNone_iff (steps : List (Step Value Data)) :
    LosesNone setting steps ↔
      setting.selected (setting.keeps (setting.partBehind 0 (callsOf steps)))
        (setting.numbered 0 (callsOf steps)) =
          chosen setting.eventFractionToWrite (hitsOf steps) := by
  rw [← numbered_hits setting, chosen_numbered, Setting.selected, LosesNone]
  generalize setting.partBehind 0 (callsOf steps) = last
  generalize setting.numbered 0 (callsOf steps) = hits
  have keeps (part : Int) : setting.keeps last part = true ↔
      (part < last → setting.renames part = true) := by
    simp [Setting.keeps, imp_iff_not_or]
  have members (pair : (Int × Entry Value Data) × Nat) :
      pair ∈ hits.zipIdx ↔ hits[pair.2]? = some pair.1 := List.mem_zipIdx_iff_getElem?
  constructor
  · intro loses
    congr 1
    apply List.filter_congr
    intro pair member
    rw [Bool.eq_iff_iff]
    simp only [Bool.and_eq_true, decide_eq_true_eq, keeps]
    have same := loses pair.2 pair.1 ((members pair).mp member)
    constructor
    · rintro ⟨⟨valid, early⟩, left⟩
      exact ⟨valid, (same valid).mpr ⟨early, left⟩⟩
    · rintro ⟨valid, early⟩
      obtain ⟨narrow, left⟩ := (same valid).mp early
      exact ⟨⟨valid, narrow⟩, left⟩
  · intro same place pair here valid
    have member : (pair, place) ∈ hits.zipIdx := (members (pair, place)).mpr here
    rcases fraction_ordered setting with less | none
    · have all := filtered_same _ _ _ _ (fun item _ => by
        simp only [Bool.and_eq_true, decide_eq_true_eq]
        exact fun both => ⟨both.1.1, less item.2 both.1.2⟩) same (pair, place) member
      simp only [Bool.and_eq_true, decide_eq_true_eq, keeps] at all
      exact ⟨fun early => (all ⟨valid, early⟩).imp_left And.right,
        fun both => less place both.1⟩
    · have all := filtered_same _ _ _ _ (fun item _ => by
        simp only [Bool.and_eq_true, decide_eq_true_eq]
        exact fun both => absurd both.2 (none item.2)) same.symm (pair, place) member
      simp only [Bool.and_eq_true, decide_eq_true_eq, keeps] at all
      exact ⟨fun early => absurd early (none place),
        fun both => (all ⟨⟨valid, both.1⟩, both.2⟩).2⟩

theorem directory_appended (path back : Text) (plain : '/' ∉ back) :
    directoryOf (path ++ back) = directoryOf path := by
  induction back using List.reverseRecOn with
  | nil => rw [List.append_nil]
  | append_singleton front c ih =>
      rw [List.mem_append, not_or] at plain
      have other : c ≠ '/' := fun same => plain.2 (List.mem_singleton.mpr same.symm)
      rw [directoryOf, ← List.append_assoc, List.rdropWhile_concat_pos _ _ _ (by simp [other])]
      exact ih plain.1

theorem padEight_plain (n : Int) : '/' ∉ padEight n := by
  have digits : ∀ m : Nat, '/' ∉ decimal m := fun m member => by
    have digit := Nat.isDigit_of_mem_toDigits (by decide) (by decide) member
    revert digit
    decide
  unfold padEight
  split_ifs
  · simp [digits]
  · simp [digits]

/-- With a fraction that fits an `int`, and a file name whose last dot stands in
its last component, nothing is lost. -/
theorem plain_losesNone (narrow : -2 ^ 31 ≤ setting.eventFractionToWrite)
    (fits : setting.eventFractionToWrite < 2 ^ 31)
    (plain : ∀ affix ∈ setting.affixes, directoryOf affix.1 = directoryOf setting.fName ∧
      '/' ∉ affix.2) (steps : List (Step Value Data)) : LosesNone setting steps := by
  have same := setting.fraction_fits narrow fits
  have renames (part : Int) : setting.renames part = true := by
    apply List.all_eq_true.mpr
    intro name member
    obtain ⟨affix, among, rfl⟩ := List.mem_map.mp member
    obtain ⟨front, back⟩ := plain affix among
    have tail : '/' ∉ '_' :: padEight part ++ affix.2 := by
      simp [padEight_plain, back]
    rw [List.append_assoc, directory_appended _ _ tail, front]
    exact setting.opens
  intro place pair _ _
  rw [same]
  exact ⟨fun early => ⟨early, fun _ => renames pair.1⟩, And.left⟩

end Lost

/-- What a run leaves is as it should be: every part of the output is indexed, all
files have different names, and the parts together hold the chosen hits in their
order. -/
structure SinglesWritten (setting : Setting Value) (steps : List (Step Value Data)) : Prop where
  indexed : ∀ part ∈ runConvertRawToSingles setting steps, part.Indexed setting
  named : ((runConvertRawToSingles setting steps).flatMap Part.names).Nodup
  written : (runConvertRawToSingles setting steps).flatMap Part.data =
    chosen setting.eventFractionToWrite (hitsOf steps)

theorem singles_written_iff (setting : Setting Value)
    (indexes : setting.fileType = .root ∨ setting.fileType = .binary)
    (steps : List (Step Value Data)) : SinglesWritten setting steps ↔ LosesNone setting steps := by
  obtain ⟨indexed, left⟩ := run_indexed indexes steps
  rw [losesNone_iff, ← left]
  exact ⟨SinglesWritten.written, fun written => ⟨indexed, names_nodup indexes steps, written⟩⟩

/-- A run that splits its output, into the directories that exist. -/
def splitting (fName : Text) (directories : Text → Bool)
    (opens : directories (directoryOf fName) = true) : Setting Nat where
  fName := fName
  requestedType := .root
  eventFractionToWrite := 1024
  splits := true
  filePartIndex := fun tMin => tMin / 1000
  print := decimal
  directories := directories
  opens := opens

def twoSteps : List (Step Nat Nat) :=
  [⟨1, 2, [⟨0, [⟨true, 7⟩, ⟨false, 8⟩]⟩, ⟨1000, [⟨true, 9⟩]⟩]⟩, ⟨3, 4, [⟨1500, [⟨true, 5⟩]⟩]⟩]

theorem singles_written_split :
    let setting := splitting "out/run.root".toList (fun _ => true) rfl
    SinglesWritten setting twoSteps ∧
      (runConvertRawToSingles setting twoSteps).map Part.names =
        [["out/run_00000000.root".toList], ["out/run_00000001.root".toList]] :=
  ⟨(singles_written_iff _ (Or.inl rfl) twoSteps).mpr
    (plain_losesNone _ (by decide) (by decide) (by decide) twoSteps), by decide⟩

/-- The last dot of `./out` stands before the slash: the first part cannot be
renamed, and its file is written over. -/
theorem first_part_lost :
    let setting := splitting "./out".toList (fun path => path == "./".toList) rfl
    (runConvertRawToSingles setting twoSteps).map Part.names = [["./out".toList]] ∧
      ¬ SinglesWritten setting twoSteps := by
  intro setting
  refine ⟨by decide, fun right => ?_⟩
  have lengths := congrArg List.length right.written
  revert lengths
  decide

end GramsTof.SinglesWriter
