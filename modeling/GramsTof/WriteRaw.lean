import GramsTof.RawFrame
import GramsTof.RingPointers

/-!
The main loop of `write_raw` in standard mode: the frames of each block are
taken from the ring, accounted, and appended to the data file; a gap in the
frame IDs leaves a marker frame for its first ID. Runs of empty frames are left
out. Offsets in the data file are counted in words. The step values, the extreme
frame IDs and the output on `stderr` are left out.
-/

namespace GramsTof.WriteRaw

open RawFrame RingPointers

inductive FrameType where
  | unknown
  | someData
  | zeroData
  | someLost
  | allLost
  deriving DecidableEq, Repr

structure StepRange where
  stepBegin : Nat
  stepEnd : Nat
  firstFrameID : Int
  lastFrameID : Int
  deriving DecidableEq, Repr

structure Writer where
  dataFile : List Word
  index : List StepRange
  stepStartOffset : Nat
  stepEvents : Int
  stepMaxFrame : Int
  stepAllFrames : Int
  stepLostFramesN : Int
  stepLostFrames0 : Int
  lastFrameID : Int
  stepFirstFrameID : Int
  lastFrameType : FrameType
  deriving DecidableEq, Repr

/-- The state at the start of the program, after the file header. -/
def Writer.start (header : List Word) : Writer :=
  { dataFile := header
    index := []
    stepStartOffset := header.length
    stepEvents := 0
    stepMaxFrame := 0
    stepAllFrames := 0
    stepLostFramesN := 0
    stepLostFrames0 := 0
    lastFrameID := -1
    stepFirstFrameID := -1
    lastFrameType := .unknown }

/-- A block header, and the ring as it is while the block is written. -/
structure Block where
  blockType : Int
  rdPointer : Nat
  wrPointer : Nat
  slots : Slots

/-- The type of a frame under the names the source gives. -/
def frameTypeOf (data : List Word) : FrameType :=
  if getFrameLost data then
    if getNEvents data = 0 then .zeroData else .someData
  else
    if getNEvents data = 0 then .allLost else .someLost

/-- `lostFrameBuffer`, for the frame ID after the last one. -/
def lostFrameBuffer (lastFrameID : Int) : List Word :=
  [((2 : Word) <<< 36) ||| UInt64.ofNat (lastFrameID + 1).toNat, (1 : Word) <<< 16]

/-- Frame IDs were skipped: they count as lost, and the first one is written. -/
def Writer.skipTo (writer : Writer) (frameID : Int) : Writer :=
  let skippedFrames := (frameID - writer.lastFrameID) - 1
  { writer with
    stepAllFrames := writer.stepAllFrames + skippedFrames
    stepLostFrames0 := writer.stepLostFrames0 + skippedFrames
    dataFile := writer.dataFile ++ lostFrameBuffer writer.lastFrameID
    lastFrameType := .allLost }

def Writer.account (writer : Writer) (data : List Word) : Writer :=
  let nEvents : Int := getNEvents data
  let lost0 := getFrameLost data = true ∧ getNEvents data = 0
  let lostN := getFrameLost data = true ∧ getNEvents data ≠ 0
  { writer with
    lastFrameID := getFrameID data
    stepEvents := writer.stepEvents + nEvents
    stepMaxFrame := max writer.stepMaxFrame nEvents
    stepLostFrames0 := writer.stepLostFrames0 + if lost0 then 1 else 0
    stepLostFramesN := writer.stepLostFramesN + if lostN then 1 else 0
    stepAllFrames := writer.stepAllFrames + 1 }

/-- One turn of the loop over the frames of a block. -/
def writeFrame (blockType : Int) (writer : Writer) (data : List Word) : Writer :=
  let frameID : Int := getFrameID data
  let writer := if writer.stepFirstFrameID = -1 then { writer with stepFirstFrameID := frameID }
    else writer
  -- a reversal is only warned about
  let writer := if frameID ≤ writer.lastFrameID then writer
    else if 0 ≤ writer.lastFrameID ∧ frameID ≠ writer.lastFrameID + 1 then writer.skipTo frameID
    else writer
  let writer := writer.account data
  let frameType := frameTypeOf data
  if blockType = 1 ∧ writer.lastFrameType = .zeroData ∧ frameType = writer.lastFrameType then writer
  else if blockType = 1 ∧ writer.lastFrameType = .allLost ∧ frameType = writer.lastFrameType then
    writer
  else
    { writer with
      lastFrameType := frameType
      dataFile := writer.dataFile ++ data.take (getFrameSize data) }

/-- The loop over the ring; `fuel` bounds the frames a ring can hold. -/
def writeLoop (bs : Nat) (block : Block) : Nat → Nat → Nat → Writer → Writer
  | 0, _, _, writer => writer
  | fuel + 1, rdPointer, wrPointer, writer =>
      if rdPointer = wrPointer then writer
      else
        let data := slotFrame block.slots (rdPointer % bs)
        writeLoop bs block fuel ((rdPointer + 1) % (2 * bs)) wrPointer
          (writeFrame block.blockType writer data)

def Writer.openStep (writer : Writer) : Writer :=
  { writer with
    stepAllFrames := 0
    stepEvents := 0
    stepMaxFrame := 0
    stepLostFramesN := 0
    stepLostFrames0 := 0
    lastFrameID := -1
    stepFirstFrameID := -1
    lastFrameType := .unknown
    stepStartOffset := writer.dataFile.length }

def Writer.closeStep (writer : Writer) : Writer :=
  { writer with
    index := writer.index ++
      [⟨writer.stepStartOffset, writer.dataFile.length, writer.stepFirstFrameID,
        writer.lastFrameID⟩] }

def writeBlock (writer : Writer) (block : Block) : Writer :=
  let writer := if block.blockType = 0 then writer.openStep else writer
  let bs := maxRawDataFrameQueueSize
  let writer := writeLoop bs block (2 * bs) (block.rdPointer % (2 * bs))
    (block.wrPointer % (2 * bs)) writer
  if block.blockType = 2 then writer.closeStep else writer

/-- The marker is an empty lost frame with the first skipped ID. -/
theorem lost_frame_fields (lastFrameID : Int) (next : 0 ≤ lastFrameID + 1)
    (narrow : lastFrameID + 1 < 2 ^ 36) :
    (getFrameID (lostFrameBuffer lastFrameID) : Int) = lastFrameID + 1 ∧
    getFrameSize (lostFrameBuffer lastFrameID) = 2 ∧
    getNEvents (lostFrameBuffer lastFrameID) = 0 ∧
    getFrameLost (lostFrameBuffer lastFrameID) = true := by
  obtain ⟨skipped, first⟩ := Int.eq_ofNat_of_zero_le next
  have small : skipped < 2 ^ 36 := by omega
  have word : ((lostFrameBuffer lastFrameID).getD 0 0).toNat = 2 * 2 ^ 36 + skipped := by
    rw [lostFrameBuffer, first]
    exact header_number 2 skipped (by decide) small
  have none : field ((1 : Word) <<< 16) 0 0x7FFF = 0 := by decide
  have lost : ((1 : Word) <<< 16 &&& 0x18000 != 0) = true := by decide
  refine ⟨?_, ?_, none, lost⟩
  · rw [frame_id_number, word, first]
    omega
  · rw [frame_size_number, word]
    omega

def gapBefore (writer : Writer) (data : List Word) : Prop :=
  0 ≤ writer.lastFrameID ∧ (getFrameID data : Int) ≠ writer.lastFrameID + 1

instance (writer : Writer) (data : List Word) : Decidable (gapBefore writer data) :=
  inferInstanceAs (Decidable (_ ∧ _))

/-- A frame that continues a run of empty frames of its type is left out. -/
def Repeats (blockType : Int) (previous frameType : FrameType) : Prop :=
  blockType = 1 ∧ previous = frameType ∧ (frameType = .zeroData ∨ frameType = .allLost)

instance (blockType : Int) (previous frameType : FrameType) :
    Decidable (Repeats blockType previous frameType) := inferInstanceAs (Decidable (_ ∧ _ ∧ _))

def previousType (writer : Writer) (data : List Word) : FrameType :=
  if gapBefore writer data then .allLost else writer.lastFrameType

def skippedBefore (writer : Writer) (data : List Word) : Int :=
  if gapBefore writer data then (getFrameID data - writer.lastFrameID) - 1 else 0

/-- What a frame adds to the data file: a marker if IDs were skipped, and
itself unless it is left out. -/
def records (blockType : Int) (writer : Writer) (data : List Word) : List (List Word) :=
  (if gapBefore writer data then [lostFrameBuffer writer.lastFrameID] else []) ++
    if Repeats blockType (previousType writer data) (frameTypeOf data) then []
    else [data.take (getFrameSize data)]

theorem keep_or_leave (blockType : Int) (writer : Writer) (data : List Word) :
    (if blockType = 1 ∧ writer.lastFrameType = .zeroData ∧
        frameTypeOf data = writer.lastFrameType then writer
      else if blockType = 1 ∧ writer.lastFrameType = .allLost ∧
        frameTypeOf data = writer.lastFrameType then writer
      else
        { writer with
          lastFrameType := frameTypeOf data
          dataFile := writer.dataFile ++ data.take (getFrameSize data) }) =
      { writer with
        lastFrameType := frameTypeOf data
        dataFile := writer.dataFile ++
          if Repeats blockType writer.lastFrameType (frameTypeOf data) then []
          else data.take (getFrameSize data) } := by
  by_cases same : Repeats blockType writer.lastFrameType (frameTypeOf data)
  · obtain ⟨run, equal, kind⟩ := same
    rcases kind with kind | kind
    · simp [Repeats, run, equal, kind]
      rw [← kind, ← equal]
    · simp [Repeats, run, equal, kind]
      rw [← kind, ← equal]
  · have zero : ¬ (blockType = 1 ∧ writer.lastFrameType = .zeroData ∧
        frameTypeOf data = writer.lastFrameType) :=
      fun both => same ⟨both.1, both.2.2.symm, Or.inl (both.2.2.trans both.2.1)⟩
    have lost : ¬ (blockType = 1 ∧ writer.lastFrameType = .allLost ∧
        frameTypeOf data = writer.lastFrameType) :=
      fun both => same ⟨both.1, both.2.2.symm, Or.inr (both.2.2.trans both.2.1)⟩
    rw [if_neg zero, if_neg lost, if_neg same]

/-- A turn of the loop in the order of the IDs, field by field. The type of the
frame is kept in any case: a frame that is left out has the previous one's. -/
theorem write_frame_forward (blockType : Int) (writer : Writer) (data : List Word)
    (forward : writer.lastFrameID < getFrameID data) :
    writeFrame blockType writer data =
      { writer.account data with
        stepFirstFrameID := if writer.stepFirstFrameID = -1 then (getFrameID data : Int)
          else writer.stepFirstFrameID
        stepAllFrames := writer.stepAllFrames + skippedBefore writer data + 1
        stepLostFrames0 := writer.stepLostFrames0 + skippedBefore writer data +
          if getFrameLost data = true ∧ getNEvents data = 0 then 1 else 0
        lastFrameType := frameTypeOf data
        dataFile := writer.dataFile ++ (records blockType writer data).flatten } := by
  have onward : ¬ (getFrameID data : Int) ≤ writer.lastFrameID := by omega
  have gapIff : 0 ≤ writer.lastFrameID ∧ (getFrameID data : Int) ≠ writer.lastFrameID + 1 ↔
      gapBefore writer data := Iff.rfl
  unfold writeFrame
  by_cases opened : writer.stepFirstFrameID = -1 <;> by_cases gap : gapBefore writer data
  all_goals
    simp only [opened, onward, gapIff, gap, if_true, if_false, keep_or_leave]
    simp [records, previousType, skippedBefore, gap, Writer.account, Writer.skipTo, apply_ite]

def Block.frames (block : Block) : List (List Word) :=
  let bs := maxRawDataFrameQueueSize
  let first := block.rdPointer % (2 * bs)
  (List.range ((block.wrPointer % (2 * bs) + 2 * bs - first) % (2 * bs))).map fun offset =>
    slotFrame block.slots ((first + offset) % bs)

theorem block_frames_slots (block : Block) :
    block.frames = (slotsBetween maxRawDataFrameQueueSize block.rdPointer block.wrPointer).map
      (slotFrame block.slots) := by
  rw [Block.frames, slotsBetween, List.map_map]
  rfl

theorem write_loop_ring (bs : Nat) (block : Block) (fuel rdPointer wrPointer : Nat)
    (writer : Writer) :
    writeLoop bs block fuel rdPointer wrPointer writer =
      ringLoop (fun writer slot => writeFrame block.blockType writer (slotFrame block.slots slot))
        bs fuel rdPointer wrPointer writer := by
  induction fuel generalizing rdPointer writer with
  | zero => rfl
  | succ fuel ih => rw [writeLoop, ringLoop, ih]

theorem write_block_frames (writer : Writer) (block : Block) :
    writeBlock writer block =
      let opened := if block.blockType = 0 then writer.openStep else writer
      let written := block.frames.foldl (writeFrame block.blockType) opened
      if block.blockType = 2 then written.closeStep else written := by
  simp only [writeBlock]
  rw [write_loop_ring, ring_loop_between _ (by decide), block_frames_slots, List.foldl_map]

/-- A frame of a step and the type of its block. -/
abbrev Entry := Int × List Word

def writeEntry (writer : Writer) (entry : Entry) : Writer := writeFrame entry.1 writer entry.2

def Block.entries (block : Block) : List Entry :=
  block.frames.map fun data => (block.blockType, data)

/-- The blocks `acquire` sends for a step: frames whose headers count their
words, with increasing IDs. -/
structure Step where
  first : Block
  middle : List Block
  last : Block
  opens : first.blockType = 0
  runs : ∀ block ∈ middle, block.blockType = 1
  closes : last.blockType = 2
  counted : ∀ block ∈ first :: middle ++ [last], ∀ data ∈ block.frames,
    ∃ frame : Frame, data = frame.data
  increasing : ((first :: middle ++ [last]).flatMap Block.frames).Pairwise
    fun earlier later => getFrameID earlier < getFrameID later

def Step.blocks (step : Step) : List Block := step.first :: step.middle ++ [step.last]

def Step.frames (step : Step) : List (List Word) := step.blocks.flatMap Block.frames

def Step.entries (step : Step) : List Entry := step.blocks.flatMap Block.entries

def Step.write (step : Step) (writer : Writer) : Writer := step.blocks.foldl writeBlock writer

theorem step_entries_frames (step : Step) : step.entries.map Prod.snd = step.frames := by
  rw [Step.entries, Step.frames, List.map_flatMap]
  apply List.flatMap_congr
  intro block _
  rw [Block.entries, List.map_map]
  exact List.map_id _

theorem write_middle (writer : Writer) (blocks : List Block)
    (runs : ∀ block ∈ blocks, block.blockType = 1) :
    blocks.foldl writeBlock writer = (blocks.flatMap Block.entries).foldl writeEntry writer := by
  induction blocks generalizing writer with
  | nil => rfl
  | cons block rest ih =>
      have middle := runs block List.mem_cons_self
      rw [List.foldl_cons, List.flatMap_cons, List.foldl_append,
        ih _ fun other member => runs other (List.mem_cons_of_mem block member),
        write_block_frames, Block.entries, List.foldl_map, middle]
      rfl

theorem step_write (step : Step) (writer : Writer) :
    step.write writer = (step.entries.foldl writeEntry writer.openStep).closeStep := by
  have opens := step.opens
  have closes := step.closes
  rw [Step.write, Step.entries, Step.blocks, List.cons_append, List.foldl_cons, List.foldl_append,
    write_middle _ step.middle step.runs, List.foldl_cons, List.foldl_nil, List.flatMap_cons,
    List.flatMap_append, List.foldl_append, List.foldl_append, write_block_frames,
    write_block_frames, closes, opens, Block.entries, List.foldl_map, List.flatMap_singleton,
    Block.entries, List.foldl_map, opens, closes]
  rfl

end GramsTof.WriteRaw
