import GramsTof.RawFrame
import GramsTof.ScanText

/-!
`RawReader::getNextStep`, and the loop of `processStep` that reads the frames of
a step, as built by default: without `assert`. The files do not change any more
and reading them does not fail. What the frames are used for is left out, and
`queueTask`, `completeQueue` and the sinks return; of `dataFrame` the two header
words are kept, and a frame with more events than it has room for ends the model.
-/

namespace GramsTof.StepReading

open PaddedDigits RawFrame ScanText

def ullongMax : Nat := 2 ^ 64 - 1

/-- What is left of the index file, `indexIsTemp` and `stepEnd`. -/
structure Index where
  text : Text
  indexIsTemp : Bool
  stepEnd : Nat
  fits : stepEnd ≤ ullongMax
  deriving DecidableEq, Repr

/-- `getStepEnd`, which returns the end it leaves. -/
def Index.getStepEnd (index : Index) : Index :=
  if index.stepEnd < ullongMax then index
  else if index.indexIsTemp = false then index
  else
    match scanInteger index.text with
    | (none, rest) => { index with text := rest }
    | (some (negative, magnitude), rest) =>
        { index with
          text := skipSpace rest
          stepEnd := toUnsignedLong negative magnitude
          fits := toUnsignedLong_le negative magnitude }

/-- A data file, whose offsets are those of an `off_t`. -/
structure DataFile where
  bytes : List UInt8
  fits : bytes.length < 2 ^ 63

/-- `offset` is where the descriptor of the data file stands. -/
structure Reader where
  index : Index
  stepBegin : Nat
  dataFile : DataFile
  offset : Nat

variable {Number : Type}

/-- A line of the `.idxf` file. -/
def nextIndexed (scanFloat : ScanFloat Number) (reader : Reader) : Option Reader := do
  let (stepBegin, text) ← scanField reader.index.text
  let (stepEnd, text) ← scanField text
  let (_, text) ← scanField text
  let (_, text) ← scanField text
  let (_, text) ← scanFloatField scanFloat text
  let (_, text) ← scanFloatField scanFloat text
  some { reader with
    index := { reader.index with
      text := text
      stepEnd := toUnsignedLong stepEnd.1 stepEnd.2
      fits := toUnsignedLong_le _ _ }
    stepBegin := toUnsignedLong stepBegin.1 stepBegin.2 }

/-- The beginning of a step in the `.tmpf` file; its end follows, or is missing. -/
def nextTemporary (scanFloat : ScanFloat Number) (reader : Reader) : Option Reader := do
  let (_, text) ← scanFloatField scanFloat reader.index.text
  let (_, text) ← scanFloatField scanFloat text
  let (stepBegin, text) ← scanField text
  if toUnsignedLong stepBegin.1 stepBegin.2 < ullongMax then
    some { reader with
      index := { reader.index with text := text, stepEnd := ullongMax, fits := Nat.le_refl _ }
      stepBegin := toUnsignedLong stepBegin.1 stepBegin.2 }
  else none

/-- `none` is `false`. -/
def getNextStep (scanFloat : ScanFloat Number) (reader : Reader) : Option Reader :=
  if reader.index.indexIsTemp then nextTemporary scanFloat reader else nextIndexed scanFloat reader

inductive Part where
  | header
  | events (n : Nat)
  deriving DecidableEq, Repr

def Part.count : Part → Nat
  | .header => 16
  | .events n => 8 * n

/-- Where `processStep` is: at the head of its loop, or in `readFromDataFile` with
the bytes it has `got`. `overflown` is behind a copy past the end of `dataFrame`. -/
inductive Pc where
  | head
  | reading (part : Part) (got : List UInt8)
  | ended
  | overflown
  deriving DecidableEq, Repr

/-- `buffer` is what the file buffer holds between its two pointers, `header` the
bytes of the header words. -/
structure State where
  index : Index
  file : List UInt8
  offset : Nat
  buffer : List UInt8
  header : List UInt8
  currentPosition : Nat
  pc : Pc
  deriving DecidableEq, Repr

def dataFileBufferSize : Nat := 131072

def nEvents (header : List UInt8) : Nat := getNEvents (wordsOf header)

/-- Where the data file is read from: `lseek` refuses a position that is negative
as an `off_t`. -/
def Reader.begins (reader : Reader) : Nat :=
  if reader.stepBegin < 2 ^ 63 then reader.stepBegin else reader.offset

/-- The header words are not initialized. -/
def start (reader : Reader) (header : List UInt8) : State :=
  { index := reader.index
    file := reader.dataFile.bytes
    offset := reader.begins
    buffer := []
    header := header
    currentPosition := reader.stepBegin
    pc := .head }

/-- The header words over which these bytes were read. -/
def headerFrom (got header : List UInt8) : List UInt8 := got ++ header.drop got.length

/-- From the return of `readFromDataFile` to its next call or to the head. -/
def State.returned (state : State) (part : Part) (got : List UInt8) : State :=
  let state := { state with currentPosition := (state.currentPosition + got.length) % 2 ^ 64 }
  match part with
  | .header =>
      let state := { state with header := headerFrom got state.header }
      let n := nEvents state.header
      if maxRawDataFrameSize < n + 2 then { state with pc := .overflown }
      else if n = 0 then { state with pc := .head }
      else { state with pc := .reading (.events n) [] }
  | .events _ => { state with pc := .head }

def State.copy (state : State) (part : Part) (got : List UInt8) : State :=
  let countRemaining := part.count - got.length
  { state with
    buffer := state.buffer.drop countRemaining
    pc := .reading part (got ++ state.buffer.take countRemaining) }

/-- A pass of the loop in `readFromDataFile`. At the end of the file an end of
the step that is not known yet is asked for again, otherwise a second `read`
finds nothing either. -/
def State.fill (state : State) (part : Part) (got : List UInt8) : State :=
  if state.buffer = [] then
    let bytes := (state.file.drop state.offset).take dataFileBufferSize
    if bytes = [] then
      let index := state.index.getStepEnd
      if index.stepEnd = ullongMax then { state with index := index }
      else State.returned { state with index := index } part got
    else State.copy { state with buffer := bytes, offset := state.offset + bytes.length } part got
  else state.copy part got

def step (state : State) : State :=
  match state.pc with
  | .head =>
      let index := state.index.getStepEnd
      if state.currentPosition < index.stepEnd then
        { state with index := index, pc := .reading .header [] }
      else { state with index := index, pc := .ended }
  | .reading part got =>
      if part.count ≤ got.length then state.returned part got else state.fill part got
  | .ended | .overflown => state

def Ends (state : State) : Prop := ∃ count, (step^[count] state).pc = .ended

/-- The end `getStepEnd` comes to, however often it is called. -/
def Index.finalEnd (index : Index) : Nat := (Index.getStepEnd^[index.text.length + 1] index).stepEnd

/-- The events of the frames that begin in front of the end of the step, as it is
known then; `fuel` is more than the number of bytes. -/
def eventsRead : Nat → Index → List UInt8 → List UInt8 → Nat → List Nat
  | 0, _, _, _, _ => []
  | fuel + 1, index, bytes, header, position =>
      let index := index.getStepEnd
      if index.stepEnd ≤ position then []
      else
        let header := headerFrom (bytes.take 16) header
        let size := 16 + 8 * nEvents header
        nEvents header :: eventsRead fuel index (bytes.drop size) header (position + size)

/-- Whether the position of a frame, which may pass 0, comes to the end of the
step. -/
def stops : Nat → Index → List UInt8 → List UInt8 → Nat → Bool
  | 0, _, _, _, _ => false
  | fuel + 1, index, bytes, header, position =>
      let index := index.getStepEnd
      if index.stepEnd ≤ position then true
      else
        let header := headerFrom (bytes.take 16) header
        let size := 16 + 8 * nEvents header
        if maxRawDataFrameSize < nEvents header + 2 then false
        else if bytes.length < size then
          index.finalEnd < ullongMax && index.finalEnd ≤ (position + bytes.length) % 2 ^ 64
        else stops fuel index (bytes.drop size) header ((position + size) % 2 ^ 64)

/-- The bytes of the data file from where the step is read. -/
def Reader.available (reader : Reader) : List UInt8 := reader.dataFile.bytes.drop reader.begins

section Index

theorem settled_same (index : Index) (settled : index.stepEnd < ullongMax) :
    index.getStepEnd = index := if_pos settled

theorem getStepEnd_cases (index : Index) :
    index.getStepEnd = index ∨ index.getStepEnd.text.length < index.text.length := by
  unfold Index.getStepEnd
  split_ifs with settled permanent
  · exact Or.inl rfl
  · exact Or.inl rfl
  · have suffix := scanInteger_suffix index.text
    split
    · rename_i rest scanned
      rw [scanned] at suffix
      rcases suffix_shorter_or_same suffix with same | shorter
      · left
        dsimp only at same
        rw [same]
      · exact Or.inr shorter
    · rename_i negative magnitude rest scanned
      right
      have shorter := scanInteger_shorter index.text (by rw [scanned]; exact Option.some_ne_none _)
      rw [scanned] at shorter
      exact Nat.lt_of_le_of_lt (skipSpace_suffix rest).length_le shorter

theorem getStepEnd_fixed (calls : Nat) (index : Index) (enough : index.text.length ≤ calls) :
    Index.getStepEnd^[calls + 1] index = Index.getStepEnd^[calls] index := by
  induction calls generalizing index with
  | zero =>
      rcases getStepEnd_cases index with same | shorter
      · exact same
      · omega
  | succ calls ih =>
      rw [Function.iterate_succ_apply, Function.iterate_succ_apply _ calls]
      rcases getStepEnd_cases index with same | shorter
      · rw [same, Function.iterate_succ_apply, same]
      · exact ih index.getStepEnd (by omega)

theorem finalEnd_calls (calls : Nat) (index : Index) (enough : index.text.length ≤ calls) :
    (Index.getStepEnd^[calls] index).stepEnd = index.finalEnd := by
  have later : ∀ more, Index.getStepEnd^[index.text.length + more] index =
      Index.getStepEnd^[index.text.length] index := by
    intro more
    induction more with
    | zero => rfl
    | succ more ih =>
        rw [← Nat.add_assoc, getStepEnd_fixed _ index (Nat.le_add_right _ _), ih]
  obtain ⟨more, rfl⟩ := Nat.exists_eq_add_of_le enough
  rw [Index.finalEnd, later more, later 1]

@[simp] theorem finalEnd_getStepEnd (index : Index) :
    index.getStepEnd.finalEnd = index.finalEnd := by
  have shorter : index.getStepEnd.text.length ≤ index.text.length := by
    rcases getStepEnd_cases index with same | shorter
    · rw [same]
    · exact Nat.le_of_lt shorter
  rw [← finalEnd_calls index.text.length index.getStepEnd shorter,
    ← Function.iterate_succ_apply]
  rfl

theorem finalEnd_settled (index : Index) (settled : index.stepEnd < ullongMax) :
    index.finalEnd = index.stepEnd := by
  rw [Index.finalEnd, Function.iterate_fixed (settled_same index settled)]

/-- An index whose end is not known yet, but will be, has text left. -/
theorem unsettled_shorter (index : Index) (final : index.finalEnd < ullongMax)
    (unsettled : index.getStepEnd.stepEnd = ullongMax) :
    index.getStepEnd.text.length < index.text.length := by
  rcases getStepEnd_cases index with same | shorter
  · rw [Index.finalEnd, Function.iterate_fixed same, ← same, unsettled] at final
    exact absurd final (Nat.lt_irrefl _)
  · exact shorter

end Index

def Leads (state next : State) : Prop := ∃ count, step^[count] state = next

theorem Leads.trans {first second third : State} (before : Leads first second)
    (behind : Leads second third) : Leads first third := by
  obtain ⟨count, rfl⟩ := before
  obtain ⟨more, rfl⟩ := behind
  exact ⟨more + count, Function.iterate_add_apply step more count first⟩

theorem leads_step (state : State) : Leads state (step state) := ⟨1, rfl⟩

theorem leads_refl (state : State) : Leads state state := ⟨0, rfl⟩

theorem ended_stays (count : Nat) (state : State) (ended : state.pc = .ended) :
    (step^[count] state).pc = .ended := by
  have fixed : step state = state := by rw [step, ended]
  rw [Function.iterate_fixed fixed, ended]

theorem Leads.ends {state next : State} (leads : Leads state next) : Ends state ↔ Ends next := by
  obtain ⟨count, rfl⟩ := leads
  constructor
  · rintro ⟨more, ended⟩
    refine ⟨more, ?_⟩
    rw [← Function.iterate_add_apply, Nat.add_comm, Function.iterate_add_apply]
    exact ended_stays count _ ended
  · rintro ⟨more, ended⟩
    refine ⟨more + count, ?_⟩
    rw [Function.iterate_add_apply]
    exact ended

/-- What every step keeps and no end has keeps the loop from ending. -/
theorem never_ends (inv : State → Prop) (kept : ∀ state, inv state → inv (step state))
    (running : ∀ state, inv state → state.pc ≠ .ended) (state : State) (begins : inv state) :
    ¬ Ends state := by
  rintro ⟨count, ended⟩
  have still : inv (step^[count] state) := by
    induction count generalizing state with
    | zero => exact begins
    | succ count ih => exact ih (step state) (kept state begins) ended
  exact running _ still ended

theorem overflown_endless (state : State) (overflown : state.pc = .overflown) : ¬ Ends state := by
  refine never_ends (fun state => state.pc = .overflown) ?_ ?_ state overflown
  · intro state inv
    rw [step, inv]
    exact inv
  · intro state inv ended
    rw [inv] at ended
    cases ended

def State.stream (state : State) : List UInt8 := state.buffer ++ state.file.drop state.offset

theorem copy_stream (state : State) (part : Part) (got : List UInt8) :
    (state.copy part got).stream =
      state.stream.drop (min (part.count - got.length) state.buffer.length) := by
  simp only [State.copy, State.stream]
  rcases Nat.le_total (part.count - got.length) state.buffer.length with inside | all
  · rw [Nat.min_eq_left inside, List.drop_append_of_le_length inside]
  · rw [Nat.min_eq_right all, List.drop_left, List.drop_eq_nil_of_le all, List.nil_append]

structure Untouched (state next : State) : Prop where
  index : next.index = state.index
  header : next.header = state.header
  currentPosition : next.currentPosition = state.currentPosition

theorem fill_copies (state : State) (part : Part) (got : List UInt8)
    (left : state.stream ≠ []) :
    ∃ filled : State, state.fill part got = filled.copy part got ∧
      filled.stream = state.stream ∧ filled.buffer ≠ [] ∧ Untouched state filled := by
  unfold State.fill
  by_cases empty : state.buffer = []
  · rw [if_pos empty]
    have file : state.file.drop state.offset ≠ [] := by
      rw [State.stream, empty, List.nil_append] at left
      exact left
    have some : (state.file.drop state.offset).take dataFileBufferSize ≠ [] := by
      rw [Ne, List.take_eq_nil_iff]
      exact fun none => none.elim (by decide) file
    dsimp only
    rw [if_neg some]
    refine ⟨_, rfl, ?_, some, rfl, rfl, rfl⟩
    simp only [State.stream, empty, List.nil_append, List.length_take]
    rcases Nat.le_total dataFileBufferSize (state.file.drop state.offset).length with full | all
    · rw [Nat.min_eq_left full, ← List.drop_drop, List.take_append_drop]
    · rw [Nat.min_eq_right all, ← List.drop_drop, List.drop_length, List.append_nil,
        List.take_of_length_le all]
  · rw [if_neg empty]
    exact ⟨state, rfl, rfl, empty, rfl, rfl, rfl⟩

theorem step_fill (state : State) (part : Part) (got : List UInt8)
    (reading : state.pc = .reading part got) (short : got.length < part.count) :
    step state = state.fill part got := by
  rw [step, reading]
  exact if_neg (Nat.not_le.mpr short)

theorem take_front (front rest : List UInt8) (count : Nat) :
    front.take count ++ ((front ++ rest).drop (min count front.length)).take
      (count - min count front.length) = (front ++ rest).take count := by
  rcases Nat.le_total count front.length with inside | all
  · rw [Nat.min_eq_left inside, Nat.sub_self, List.take_zero, List.append_nil,
      List.take_append_of_le_length inside]
  · rw [Nat.min_eq_right all, List.drop_left, List.take_of_length_le all, List.take_append,
      List.take_of_length_le all]

theorem reading_leads (state : State) (part : Part) (got : List UInt8)
    (reading : state.pc = .reading part got) :
    ∃ next, Leads state next ∧ Untouched state next ∧
      next.pc = .reading part (got ++ state.stream.take (part.count - got.length)) ∧
      next.stream = state.stream.drop (part.count - got.length) := by
  -- each pass leaves fewer bytes to be read
  induction remaining : part.count - got.length using Nat.strong_induction_on
    generalizing state got with
  | h amount ih =>
      by_cases last : amount = 0 ∨ state.stream = []
      · refine ⟨state, leads_refl state, ⟨rfl, rfl, rfl⟩, ?_, ?_⟩
        · rw [reading]
          rcases last with rfl | empty
          · simp
          · simp [empty]
        · rcases last with rfl | empty
          · simp
          · simp [empty]
      · rw [not_or] at last
        obtain ⟨filled, copies, stream, some, untouched⟩ := fill_copies state part got last.2
        have stepped := (step_fill state part got reading (by omega)).trans copies
        have taken := List.length_pos_iff.mpr some
        have count : (got ++ filled.buffer.take (part.count - got.length)).length =
            got.length + min amount filled.buffer.length := by
          rw [List.length_append, List.length_take, remaining]
        obtain ⟨next, leads, same, pc, rest⟩ := ih
          (part.count - (got ++ filled.buffer.take (part.count - got.length)).length)
          (by omega) (filled.copy part got) (got ++ filled.buffer.take (part.count - got.length)) rfl
          rfl
        refine ⟨next, (stepped ▸ leads_step state).trans leads, ?_, ?_, ?_⟩
        · exact ⟨same.index.trans untouched.index, same.header.trans untouched.header,
            same.currentPosition.trans untouched.currentPosition⟩
        · have less : part.count - (got.length + min amount filled.buffer.length) =
              amount - min amount filled.buffer.length := by omega
          rw [pc, copy_stream, count, List.append_assoc, ← stream, remaining, less, State.stream,
            take_front]
        · have all : min amount filled.buffer.length +
              (part.count - (got.length + min amount filled.buffer.length)) = amount := by omega
          rw [rest, copy_stream, count, List.drop_drop, ← stream, remaining, all]

theorem file_end_leads (state : State) (part : Part) (got : List UInt8)
    (reading : state.pc = .reading part got) (short : got.length < part.count)
    (empty : state.stream = []) (final : state.index.finalEnd < ullongMax) :
    ∃ index : Index, index.stepEnd = state.index.finalEnd ∧
      Leads state (State.returned { state with index := index } part got) := by
  -- each pass that finds no end consumes text of the index
  induction left : state.index.text.length using Nat.strong_induction_on generalizing state with
  | h amount ih =>
      obtain ⟨buffer, file⟩ := List.append_eq_nil_iff.mp empty
      have stepped := step_fill state part got reading short
      rw [State.fill, if_pos buffer, file, List.take_nil] at stepped
      dsimp only at stepped
      rw [if_pos rfl] at stepped
      by_cases unsettled : state.index.getStepEnd.stepEnd = ullongMax
      · rw [if_pos unsettled] at stepped
        have shorter := unsettled_shorter state.index final unsettled
        obtain ⟨index, known, leads⟩ := ih state.index.getStepEnd.text.length (by omega)
          { state with index := state.index.getStepEnd } reading empty
          (by rwa [finalEnd_getStepEnd]) rfl
        refine ⟨index, ?_, (stepped ▸ leads_step state).trans leads⟩
        rw [known, finalEnd_getStepEnd]
      · rw [if_neg unsettled] at stepped
        have settled : state.index.getStepEnd.stepEnd < ullongMax :=
          Nat.lt_of_le_of_ne state.index.getStepEnd.fits unsettled
        refine ⟨state.index.getStepEnd, ?_, stepped ▸ leads_step state⟩
        rw [← finalEnd_settled _ settled, finalEnd_getStepEnd]

theorem file_end_endless (state : State) (part : Part) (got : List UInt8)
    (reading : state.pc = .reading part got) (short : got.length < part.count)
    (empty : state.stream = []) (final : ¬ state.index.finalEnd < ullongMax) : ¬ Ends state := by
  refine never_ends (fun state => state.pc = .reading part got ∧ state.stream = [] ∧
    ¬ state.index.finalEnd < ullongMax) ?_ ?_ state ⟨reading, empty, final⟩
  · rintro state ⟨reading, empty, final⟩
    obtain ⟨buffer, file⟩ := List.append_eq_nil_iff.mp empty
    have unsettled : state.index.getStepEnd.stepEnd = ullongMax := by
      by_contra other
      have settled := Nat.lt_of_le_of_ne state.index.getStepEnd.fits other
      rw [← finalEnd_getStepEnd, finalEnd_settled _ settled] at final
      exact final settled
    have stepped := step_fill state part got reading short
    rw [State.fill, if_pos buffer, file, List.take_nil] at stepped
    dsimp only at stepped
    rw [if_pos rfl, if_pos unsettled] at stepped
    rw [stepped]
    refine ⟨reading, empty, ?_⟩
    rwa [finalEnd_getStepEnd]
  · rintro state ⟨reading, _⟩ ended
    rw [reading] at ended
    cases ended

/-- A call of `readFromDataFile`: all bytes it is to read are there, or it
returns those there are, or it does not return. -/
theorem part_cases (state : State) (part : Part) (reading : state.pc = .reading part []) :
    (part.count ≤ state.stream.length ∧ ∃ next, Untouched state next ∧
      next.stream = state.stream.drop part.count ∧
      Leads state (next.returned part (state.stream.take part.count))) ∨
    (state.stream.length < part.count ∧ state.index.finalEnd < ullongMax ∧ ∃ next : State,
      next.index.stepEnd = state.index.finalEnd ∧ next.header = state.header ∧
      next.currentPosition = state.currentPosition ∧ next.stream = [] ∧
      Leads state (next.returned part state.stream)) ∨
    (state.stream.length < part.count ∧ ¬ state.index.finalEnd < ullongMax ∧ ¬ Ends state) := by
  obtain ⟨next, leads, same, pc, rest⟩ := reading_leads state part [] reading
  simp only [List.length_nil, Nat.sub_zero, List.nil_append] at pc rest
  rcases Nat.lt_or_ge state.stream.length part.count with short | enough
  · right
    rw [List.take_of_length_le (Nat.le_of_lt short)] at pc
    rw [List.drop_eq_nil_of_le (Nat.le_of_lt short)] at rest
    by_cases final : state.index.finalEnd < ullongMax
    · left
      obtain ⟨index, known, returns⟩ := file_end_leads next part state.stream pc short rest
        (by rwa [same.index])
      refine ⟨short, final, { next with index := index }, ?_, same.header, same.currentPosition, rest,
        leads.trans returns⟩
      rw [← same.index]
      exact known
    · right
      refine ⟨short, final, ?_⟩
      rw [leads.ends]
      exact file_end_endless next part state.stream pc short rest (by rwa [same.index])
  · left
    refine ⟨enough, next, same, rest, leads.trans ?_⟩
    have stepped : step next = next.returned part (state.stream.take part.count) := by
      rw [step, pc]
      dsimp only
      rw [if_pos (by rw [List.length_take, Nat.min_eq_left enough])]
    exact stepped ▸ leads_step next

/-- Behind the end of the file, short of the end of the step. -/
structure Starved (state : State) : Prop where
  empty : state.stream = []
  settled : state.index.stepEnd < ullongMax
  short : state.currentPosition < state.index.stepEnd
  running : state.pc = .head ∨ state.pc = .overflown ∨ ∃ part, state.pc = .reading part []

theorem returned_starved (state : State) (starved : Starved state) (part : Part) :
    Starved (state.returned part []) := by
  obtain ⟨empty, settled, short, _⟩ := starved
  have stays : (state.currentPosition + 0) % 2 ^ 64 = state.currentPosition := by
    rw [ullongMax] at settled
    omega
  unfold State.returned
  dsimp only [List.length_nil]
  rw [stays]
  cases part with
  | header =>
      dsimp only
      split_ifs
      · exact ⟨empty, settled, short, Or.inr (Or.inl rfl)⟩
      · exact ⟨empty, settled, short, Or.inl rfl⟩
      · exact ⟨empty, settled, short, Or.inr (Or.inr ⟨_, rfl⟩)⟩
  | events n => exact ⟨empty, settled, short, Or.inl rfl⟩

theorem step_starved (state : State) (starved : Starved state) : Starved (step state) := by
  rcases starved.running with head | overflown | ⟨part, reading⟩
  · have stepped : step state = { state with pc := .reading .header [] } := by
      rw [step, head]
      dsimp only
      rw [settled_same _ starved.settled, if_pos starved.short]
    rw [stepped]
    exact ⟨starved.empty, starved.settled, starved.short, Or.inr (Or.inr ⟨_, rfl⟩)⟩
  · have stepped : step state = state := by rw [step, overflown]
    rwa [stepped]
  · by_cases none : part.count ≤ 0
    · have stepped : step state = state.returned part [] := by
        rw [step, reading]
        exact if_pos none
      rw [stepped]
      exact returned_starved state starved part
    · obtain ⟨buffer, file⟩ := List.append_eq_nil_iff.mp starved.empty
      have stepped := step_fill state part [] reading (Nat.not_le.mp none)
      rw [State.fill, if_pos buffer, file, List.take_nil] at stepped
      dsimp only at stepped
      rw [if_pos rfl, settled_same _ starved.settled, if_neg (Nat.ne_of_lt starved.settled)]
        at stepped
      rw [stepped]
      exact returned_starved state starved part

theorem starved_endless (state : State) (starved : Starved state) : ¬ Ends state := by
  refine never_ends Starved step_starved ?_ state starved
  intro state starved ended
  have running := starved.running
  rw [ended] at running
  rcases running with head | overflown | ⟨part, reading⟩
  · cases head
  · cases overflown
  · cases reading

structure AtHead (state : State) (index : Index) (bytes header : List UInt8) (position : Nat) :
    Prop where
  pc : state.pc = .head
  index : state.index = index
  stream : state.stream = bytes
  header : state.header = header
  currentPosition : state.currentPosition = position

theorem last_head_ends (state : State) (index : Index) (header : List UInt8) (position : Nat)
    (head : AtHead state index [] header position) (settled : index.stepEnd < ullongMax) :
    Ends state ↔ index.stepEnd ≤ position := by
  obtain ⟨pc, rfl, stream, _, rfl⟩ := head
  constructor
  · intro ends
    by_contra short
    exact starved_endless state ⟨stream, settled, Nat.not_le.mp short, Or.inl pc⟩ ends
  · intro reached
    refine ⟨1, ?_⟩
    have stepped : step state = { state with pc := .ended } := by
      rw [step, pc]
      dsimp only
      rw [settled_same _ settled, if_neg (Nat.not_lt.mpr reached)]
    rw [Function.iterate_one, stepped]

structure BehindHeader (state : State) (n : Nat) (index : Index) (bytes header : List UInt8)
    (position : Nat) : Prop where
  pc : state.pc = if n = 0 then .head else .reading (.events n) []
  index : state.index = index
  stream : state.stream = bytes
  header : state.header = header
  currentPosition : state.currentPosition = position % 2 ^ 64

theorem events_cases (state : State) (n : Nat) (index : Index) (bytes header : List UInt8)
    (position : Nat) (behind : BehindHeader state n index bytes header position) :
    (8 * n ≤ bytes.length ∧ ∃ next, Leads state next ∧
      AtHead next index (bytes.drop (8 * n)) header ((position + 8 * n) % 2 ^ 64)) ∨
    (bytes.length < 8 * n ∧ index.finalEnd < ullongMax ∧ ∃ next last, Leads state next ∧
      last.stepEnd = index.finalEnd ∧
      AtHead next last [] header ((position + bytes.length) % 2 ^ 64)) ∨
    (bytes.length < 8 * n ∧ ¬ index.finalEnd < ullongMax ∧ ¬ Ends state) := by
  obtain ⟨pc, rfl, rfl, rfl, at'⟩ := behind
  by_cases none : n = 0
  · left
    subst none
    exact ⟨Nat.zero_le _, state, leads_refl state, pc, rfl, rfl, rfl, at'⟩
  · rw [if_neg none] at pc
    rcases part_cases state (.events n) pc with ⟨enough, next, same, stream, leads⟩ |
      ⟨short, final, next, known, header, position', stream, leads⟩ | never
    · refine Or.inl ⟨enough, _, leads, rfl, same.index, stream, same.header, ?_⟩
      have long : (state.stream.take (8 * n)).length = 8 * n := List.length_take_of_le enough
      change (next.currentPosition + (state.stream.take (8 * n)).length) % 2 ^ 64 = _
      rw [same.currentPosition, at', long, Nat.mod_add_mod]
    · refine Or.inr (Or.inl ⟨short, final, _, next.index, leads, known, rfl, rfl, stream, header, ?_⟩)
      change (next.currentPosition + state.stream.length) % 2 ^ 64 = _
      rw [position', at', Nat.mod_add_mod]
    · exact Or.inr (Or.inr never)

theorem header_returned (state : State) (got : List UInt8) :
    maxRawDataFrameSize < nEvents (headerFrom got state.header) + 2 ∧
      (state.returned .header got).pc = .overflown ∨
    ¬ maxRawDataFrameSize < nEvents (headerFrom got state.header) + 2 ∧
      BehindHeader (state.returned .header got) (nEvents (headerFrom got state.header)) state.index
        state.stream (headerFrom got state.header) (state.currentPosition + got.length) := by
  unfold State.returned
  dsimp only
  split_ifs with large empty
  · exact Or.inl ⟨large, rfl⟩
  · exact Or.inr ⟨large, by rw [if_pos empty], rfl, rfl, rfl, rfl⟩
  · exact Or.inr ⟨large, by rw [if_neg empty], rfl, rfl, rfl, rfl⟩

/-- The loop ends where the frames, taken from the file one after the other,
come to the end of the step. -/
theorem head_ends_iff (fuel : Nat) (state : State) (index : Index) (bytes header : List UInt8)
    (position : Nat) (head : AtHead state index bytes header position)
    (enough : bytes.length < fuel) :
    Ends state ↔ stops fuel index bytes header position = true := by
  induction fuel generalizing state index bytes header position with
  | zero => exact absurd enough (Nat.not_lt_zero _)
  | succ fuel ih =>
      obtain ⟨pc, rfl, rfl, rfl, rfl⟩ := head
      rw [stops]
      dsimp only
      by_cases reached : state.index.getStepEnd.stepEnd ≤ state.currentPosition
      · rw [if_pos reached]
        refine iff_of_true ⟨1, ?_⟩ rfl
        rw [Function.iterate_one, step, pc]
        dsimp only
        rw [if_neg (Nat.not_lt.mpr reached)]
      rw [if_neg reached]
      have stepped : step state =
          { state with index := state.index.getStepEnd, pc := .reading .header [] } := by
        rw [step, pc]
        dsimp only
        rw [if_pos (Nat.not_le.mp reached)]
      have begins : Leads state
          { state with index := state.index.getStepEnd, pc := .reading .header [] } :=
        stepped ▸ leads_step state
      rw [begins.ends]
      generalize reading : ({ state with
        index := state.index.getStepEnd, pc := .reading .header [] } : State) = first
      have begun : first.pc = .reading .header [] := by rw [← reading]
      have stream : first.stream = state.stream := by rw [← reading]; rfl
      have firstHeader : first.header = state.header := by rw [← reading]
      have firstIndex : first.index = state.index.getStepEnd := by rw [← reading]
      have firstPosition : first.currentPosition = state.currentPosition := by rw [← reading]
      rw [← stream, ← firstHeader, ← firstIndex, ← firstPosition]
      rw [← stream] at enough
      have parts := part_cases first .header begun
      dsimp only [Part.count] at parts
      rcases parts with ⟨full, next, same, rest, leads⟩ |
        ⟨short, final, next, known, nextHeader, nextPosition, empty, leads⟩ | ⟨short, final, never⟩
      · rw [leads.ends]
        have long : (first.stream.take 16).length = 16 := List.length_take_of_le full
        have behind := header_returned next (first.stream.take 16)
        rw [same.index, same.header, same.currentPosition, rest, long] at behind
        rcases behind with ⟨large, overflown⟩ | ⟨small, behind⟩
        · rw [if_pos large]
          exact iff_of_false (overflown_endless _ overflown) Bool.false_ne_true
        rw [if_neg small]
        rcases events_cases _ _ _ _ _ _ behind with ⟨all, last, leads, head⟩ |
          ⟨short, final, last, index, leads, known, head⟩ | ⟨short, final, never⟩
        · rw [List.length_drop] at all
          rw [if_neg (by omega), leads.ends]
          rw [List.drop_drop, Nat.add_assoc] at head
          exact ih last _ _ _ _ head (by rw [List.length_drop]; omega)
        · have settled : index.stepEnd < ullongMax := by rwa [known]
          have position : first.currentPosition + 16 + (first.stream.drop 16).length =
              first.currentPosition + first.stream.length := by
            rw [List.length_drop]
            omega
          rw [List.length_drop] at short
          rw [position] at head
          rw [if_pos (by omega), leads.ends, last_head_ends last index _ _ head settled, known]
          simp [final]
        · rw [List.length_drop] at short
          rw [if_pos (by omega)]
          exact iff_of_false never (by simp [final])
      · -- the end of the step is known from here on, and nothing is left to read
        rw [leads.ends]
        have settled : next.index.stepEnd < ullongMax := by rwa [known]
        have all : first.stream.take 16 = first.stream := List.take_of_length_le (Nat.le_of_lt short)
        have behind := header_returned next first.stream
        rw [nextHeader, nextPosition, empty] at behind
        rw [all]
        rcases behind with ⟨large, overflown⟩ | ⟨small, behind⟩
        · rw [if_pos large]
          exact iff_of_false (overflown_endless _ overflown) Bool.false_ne_true
        rw [if_neg small, if_pos (by omega)]
        rcases events_cases _ _ _ _ _ _ behind with ⟨none, last, leads, head⟩ |
          ⟨_, _, last, index, leads, same, head⟩ | ⟨_, wrong, _⟩
        · rw [List.drop_nil, Nat.le_zero.mp none, Nat.add_zero] at head
          rw [leads.ends, last_head_ends last _ _ _ head settled, known]
          simp [final]
        · rw [finalEnd_settled _ settled] at same
          rw [List.length_nil, Nat.add_zero] at head
          rw [leads.ends, last_head_ends last index _ _ head (by rwa [same]), same, known]
          simp [final]
        · rw [finalEnd_settled _ settled] at wrong
          exact absurd settled wrong
      · refine iff_of_false never ?_
        rw [Bool.not_eq_true]
        split_ifs with large
        · rfl
        · simp [final]
        · omega

theorem eventsRead_nil (fuel : Nat) (index : Index) (header : List UInt8) (position : Nat) :
    ∀ n ∈ eventsRead fuel index [] header position, n = nEvents header := by
  induction fuel generalizing index position with
  | zero => exact fun n member => by cases member
  | succ fuel ih =>
      intro n member
      have same : headerFrom ([].take 16) header = header := rfl
      rw [eventsRead] at member
      dsimp only at member
      rw [same, List.drop_nil] at member
      split_ifs at member
      · cases member
      · rcases List.mem_cons.mp member with first | later
        · exact first
        · exact ih _ _ n later

/-- Positions that do not pass 0 come to the end of the step where the file
does. -/
theorem stops_iff (fuel : Nat) (index : Index) (bytes header : List UInt8) (position : Nat)
    (enough : bytes.length < fuel) (narrow : position + bytes.length < ullongMax) :
    stops fuel index bytes header position = true ↔
      index.finalEnd ≤ position + bytes.length ∧
        ∀ n ∈ eventsRead fuel index bytes header position, n + 2 ≤ maxRawDataFrameSize := by
  induction fuel generalizing index bytes header position with
  | zero => exact absurd enough (Nat.not_lt_zero _)
  | succ fuel ih =>
      rw [stops, eventsRead]
      dsimp only
      by_cases reached : index.getStepEnd.stepEnd ≤ position
      · rw [if_pos reached, if_pos reached]
        have settled : index.getStepEnd.stepEnd < ullongMax := by omega
        have final := finalEnd_settled _ settled
        rw [finalEnd_getStepEnd] at final
        exact iff_of_true rfl ⟨by omega, fun n member => by cases member⟩
      rw [if_neg reached, if_neg reached, List.forall_mem_cons]
      by_cases large : maxRawDataFrameSize < nEvents (headerFrom (bytes.take 16) header) + 2
      · rw [if_pos large]
        exact iff_of_false Bool.false_ne_true fun all => absurd all.2.1 (Nat.not_le.mpr large)
      rw [if_neg large]
      by_cases short : bytes.length < 16 + 8 * nEvents (headerFrom (bytes.take 16) header)
      · rw [if_pos short, List.drop_eq_nil_of_le (Nat.le_of_lt short), finalEnd_getStepEnd]
        have fits : (position + bytes.length) % 2 ^ 64 = position + bytes.length := by
          rw [ullongMax] at narrow
          omega
        rw [fits, Bool.and_eq_true, decide_eq_true_eq, decide_eq_true_eq]
        constructor
        · rintro ⟨_, final⟩
          refine ⟨final, Nat.not_lt.mp large, fun n member => ?_⟩
          rw [eventsRead_nil fuel _ _ _ n member]
          exact Nat.not_lt.mp large
        · exact fun all => ⟨Nat.lt_of_le_of_lt all.1 narrow, all.1⟩
      · rw [if_neg short]
        have rest : (bytes.drop (16 + 8 * nEvents (headerFrom (bytes.take 16) header))).length =
            bytes.length - (16 + 8 * nEvents (headerFrom (bytes.take 16) header)) :=
          List.length_drop
        have fits : (position + (16 + 8 * nEvents (headerFrom (bytes.take 16) header))) % 2 ^ 64 =
            position + (16 + 8 * nEvents (headerFrom (bytes.take 16) header)) := by
          rw [ullongMax] at narrow
          omega
        rw [fits, ih _ _ _ _ (by omega) (by omega), finalEnd_getStepEnd, rest]
        have same : position + (16 + 8 * nEvents (headerFrom (bytes.take 16) header)) +
            (bytes.length - (16 + 8 * nEvents (headerFrom (bytes.take 16) header))) =
            position + bytes.length := by omega
        rw [same]
        constructor
        · exact fun all => ⟨all.1, Nat.not_lt.mp large, all.2⟩
        · exact fun all => ⟨all.1, all.2.2⟩

/-- The index names an end, the file reaches it, and no frame in front of it has
more events than there is room for. A step whose begin `lseek` refuses is read
from where the file stands, and counted from where it was to begin. -/
def Finishes (reader : Reader) (header : List UInt8) : Prop :=
  if reader.stepBegin < 2 ^ 63 then
    reader.index.finalEnd ≤ reader.stepBegin + reader.available.length ∧
      ∀ n ∈ eventsRead (reader.available.length + 1) reader.index reader.available header
        reader.stepBegin, n + 2 ≤ maxRawDataFrameSize
  else
    stops (reader.available.length + 1) reader.index reader.available header reader.stepBegin = true

theorem start_head (reader : Reader) (header : List UInt8) :
    AtHead (start reader header) reader.index reader.available header reader.stepBegin :=
  ⟨rfl, rfl, rfl, rfl, rfl⟩

/-- `processStep` ends exactly under `Finishes`, in particular for every step
that `getNextStep` has returned. -/
theorem process_step_ends_iff (reader : Reader) (header : List UInt8) :
    Ends (start reader header) ↔ Finishes reader header := by
  rw [head_ends_iff _ _ _ _ _ _ (start_head reader header) (Nat.lt_succ_self _), Finishes]
  split_ifs with seeks
  · apply stops_iff
    · exact Nat.lt_succ_self _
    · have fits := reader.dataFile.fits
      rw [Reader.available, Reader.begins, if_pos seeks, List.length_drop, ullongMax]
      omega
  · rfl

/-- A run that was broken off behind the header of its data file. -/
def brokenOff : Reader :=
  { index := ⟨"0\t0\t64\t".toList, true, 0, Nat.zero_le _⟩
    stepBegin := 0
    dataFile := ⟨List.replicate 64 0, by decide⟩
    offset := 64 }

/-- The step has no end, and it is asked for for ever. -/
theorem broken_off_endless :
    ¬ ∀ (scanFloat : ScanFloat Nat) before reader header, getNextStep scanFloat before = some reader →
      Ends (start reader header) := by
  intro always
  have next : ∃ reader, getNextStep scanDigits brokenOff = some reader ∧
      stops (reader.available.length + 1) reader.index reader.available (List.replicate 16 0)
        reader.stepBegin = false :=
    ⟨(getNextStep scanDigits brokenOff).get (by decide +kernel), (Option.some_get _).symm,
      by decide +kernel⟩
  obtain ⟨reader, returned, stopped⟩ := next
  have ends := always scanDigits brokenOff reader (List.replicate 16 0) returned
  rw [head_ends_iff _ _ _ _ _ _ (start_head reader _) (Nat.lt_succ_self _), stopped] at ends
  cases ends

end GramsTof.StepReading
