import GramsTof.RawFrame
import GramsTof.RingPointers
import GramsTof.TransitionSystem

/-!
The two buffers between `PFP_KX7::bufferSetThreadRoutine`, which has the driver fill
one, and `PFP_KX7::getNextFrame`, which cuts frames out of the other. The pointers
change under `bufferSetMutex`, the buffers do not. One acquisition is modelled, from
`setAcquistionOnOff(true)` on; a read behind the end of a buffer ends the model.
-/

namespace GramsTof.DmaBuffers

open RawFrame RingPointers TransitionSystem

def bufferSize : Nat := 262144 / 8

def nBuffer : Nat := 2

structure Slot where
  data : Nat → Word
  filled : Nat
  consumed : Nat

inductive Writer where
  /-- In front of the first lock. -/
  | locking
  /-- Waits for `bufferSetCondConsumed`. -/
  | waiting
  /-- In `read`. -/
  | reading (index : Nat)
  /-- In front of the second lock. -/
  | filled (index : Nat)
  /-- In front of `pthread_cond_signal`. -/
  | signalling
  deriving DecidableEq, Repr

inductive Reader where
  | outside
  | scanning
  /-- Waits for `bufferSetCondFilled`. -/
  | waiting
  /-- In front of `pthread_cond_signal`. -/
  | signalling (bufferWasEmpty : Bool)
  deriving DecidableEq, Repr

/-- A frame that was returned is a place in a buffer. -/
structure Lent where
  index : Nat
  position : Nat
  words : List Word

/-- What `read` made of a buffer. -/
structure Block where
  data : Nat → Word
  filled : Nat

/-- The last four fields are history: the frame that the caller has, the blocks handed
over by the writer, how many of them the reader has given back, and what
`getNextFrame` has returned. -/
structure State where
  bufferSet : Nat → Slot
  bufferSetWrPtr : Nat
  bufferSetRdPtr : Nat
  currentBuffer : Option Nat
  writer : Writer
  reader : Reader
  lent : Option Lent
  pushed : List Block
  released : Nat
  results : List (Option (List Word))

def started (memory : Nat → Nat → Word) : State :=
  { bufferSet := fun index => ⟨memory index, 0, 0⟩
    bufferSetWrPtr := 0
    bufferSetRdPtr := 0
    currentBuffer := none
    writer := .locking
    reader := .outside
    lent := none
    pushed := []
    released := 0
    results := [] }

inductive Action where
  | writerLocks
  /-- The driver writes a word while `read` runs. -/
  | dma (position : Nat) (word : Word)
  | readReturns (words : Nat)
  | writerPushes
  | writerSignals
  | call
  | readerLocks
  | readerScans
  | readerSignals
  /-- A thread may also wake up without a signal. -/
  | writerWakes
  | readerWakes

def isFull (state : State) : Bool :=
  state.bufferSetWrPtr % nBuffer == state.bufferSetRdPtr % nBuffer &&
    state.bufferSetWrPtr != state.bufferSetRdPtr

/-- The size of a frame, unless its header is bad. The bits of `frameSource` are
shifted out. -/
def frameSize (first second : Word) : Option Nat :=
  let frameSource := (first >>> 54) &&& 0x400
  let frameType := (first >>> 51) &&& 0x7
  let frameSize := (first >>> 36) &&& 0x7FFF
  let nEvents := second &&& 0xFFFF
  if frameType ≠ 0x1 ∨ frameSource ≠ 0 then none
  else if frameSize.toNat > maxRawDataFrameSize then none
  else if frameSize.toNat ≠ nEvents.toNat + 2 then none
  else some frameSize.toNat

def wordsAt (data : Nat → Word) (position size : Nat) : List Word :=
  (List.range size).map fun offset => data (position + offset)

def setSlot (state : State) (index : Nat) (slot : Slot) : State :=
  { state with bufferSet := Function.update state.bufferSet index slot }

/-- The loop of `getNextFrame` with a current buffer. -/
def scan (state : State) (index : Nat) : Option State :=
  let buffer := state.bufferSet index
  if buffer.consumed ≥ buffer.filled then
    some { state with
      currentBuffer := none
      bufferSetRdPtr := (state.bufferSetRdPtr + 1) % (2 * nBuffer)
      reader := .signalling (buffer.filled == 0)
      released := state.released + 1 }
  else if bufferSize ≤ buffer.consumed + 1 then none
  else
    match frameSize (buffer.data buffer.consumed) (buffer.data (buffer.consumed + 1)) with
    | none => some (setSlot state index { buffer with consumed := buffer.filled })
    | some size =>
        if bufferSize < buffer.consumed + size then none
        else
          let words := wordsAt buffer.data buffer.consumed size
          some { setSlot state index { buffer with consumed := buffer.consumed + size } with
            reader := .outside
            lent := some ⟨index, buffer.consumed, words⟩
            results := state.results ++ [some words] }

def step (state : State) : Action → Option State
  | .writerLocks =>
      match state.writer with
      | .locking =>
          if isFull state then some { state with writer := .waiting }
          else some { state with writer := .reading (state.bufferSetWrPtr % nBuffer) }
      | _ => none
  | .dma position word =>
      match state.writer with
      | .reading index =>
          let buffer := state.bufferSet index
          some (setSlot state index { buffer with data := Function.update buffer.data position word })
      | _ => none
  | .readReturns words =>
      match state.writer with
      | .reading index =>
          let buffer := state.bufferSet index
          some { setSlot state index { buffer with filled := words, consumed := 0 } with
            writer := .filled index }
      | _ => none
  | .writerPushes =>
      match state.writer with
      | .filled index =>
          let buffer := state.bufferSet index
          some { state with
            bufferSetWrPtr := (state.bufferSetWrPtr + 1) % (2 * nBuffer)
            writer := .signalling
            pushed := state.pushed ++ [⟨buffer.data, buffer.filled⟩] }
      | _ => none
  | .writerSignals =>
      match state.writer with
      | .signalling => some { state with
          writer := .locking
          reader := if state.reader = Reader.waiting then .scanning else state.reader }
      | _ => none
  | .call =>
      match state.reader with
      | .outside => some { state with reader := .scanning, lent := none }
      | _ => none
  | .readerLocks =>
      match state.reader, state.currentBuffer with
      | .scanning, none =>
          if state.bufferSetWrPtr = state.bufferSetRdPtr then
            some { state with reader := .waiting }
          else some { state with currentBuffer := some (state.bufferSetRdPtr % nBuffer) }
      | _, _ => none
  | .readerScans =>
      match state.reader, state.currentBuffer with
      | .scanning, some index => scan state index
      | _, _ => none
  | .readerSignals =>
      match state.reader with
      | .signalling bufferWasEmpty =>
          let state := { state with
            writer := if state.writer = Writer.waiting then .locking else state.writer }
          if bufferWasEmpty then
            some { state with reader := .outside, results := state.results ++ [none] }
          else some { state with reader := .scanning }
      | _ => none
  | .writerWakes =>
      match state.writer with
      | .waiting => some { state with writer := .locking }
      | _ => none
  | .readerWakes =>
      match state.reader with
      | .waiting => some { state with reader := .scanning }
      | _ => none

/-! What a block is cut into -/

def framesFrom (block : Block) : Nat → Nat → List (List Word)
  | 0, _ => []
  | fuel + 1, position =>
      if position ≥ block.filled then []
      else
        match frameSize (block.data position) (block.data (position + 1)) with
        | none => []
        | some size =>
            wordsAt block.data position size :: framesFrom block fuel (position + size)

/-- What `getNextFrame` returns of a block: behind a bad header, nothing. -/
def outcomes (block : Block) : List (Option (List Word)) :=
  if block.filled = 0 then [none] else (framesFrom block block.filled 0).map some

theorem frame_size_fields (first second : Word) (size : Nat)
    (good : frameSize first second = some size) :
    field first 36 0x7FFF = size ∧ field second 0 0xFFFF + 2 = size ∧
      size ≤ maxRawDataFrameSize := by
  unfold frameSize at good
  dsimp only at good
  split_ifs at good with _ large other
  cases good
  exact ⟨rfl, by simpa [field] using (not_not.mp other).symm, Nat.not_lt.mp large⟩

theorem frame_size_some (first second : Word) (size : Nat)
    (good : frameSize first second = some size) : 2 ≤ size ∧ size ≤ maxRawDataFrameSize := by
  obtain ⟨_, counted, short⟩ := frame_size_fields first second size good
  exact ⟨by omega, short⟩

/-- Every frame takes a word at least, so there are enough turns. -/
theorem frames_enough (block : Block) (fuel more position : Nat)
    (enough : block.filled ≤ position + fuel) (enough' : block.filled ≤ position + more) :
    framesFrom block fuel position = framesFrom block more position := by
  induction fuel generalizing more position with
  | zero =>
      cases more with
      | zero => rfl
      | succ more =>
          have done : block.filled ≤ position := enough
          rw [framesFrom, framesFrom, if_pos done]
  | succ fuel ih =>
      cases more with
      | zero =>
          have done : block.filled ≤ position := enough'
          rw [framesFrom, framesFrom, if_pos done]
      | succ more =>
          rw [framesFrom, framesFrom]
          cases header : frameSize (block.data position) (block.data (position + 1)) with
          | none => rfl
          | some size =>
              have some' := (frame_size_some _ _ size header).1
              have rest := ih more (position + size) (by omega) (by omega)
              dsimp only
              rw [rest]

def Block.rest (block : Block) (position : Nat) : List (List Word) :=
  framesFrom block block.filled position

theorem rest_done (block : Block) (position : Nat) (done : block.filled ≤ position) :
    block.rest position = [] :=
  frames_enough block block.filled 0 position (by omega) done

theorem rest_bad (block : Block) (position : Nat)
    (bad : frameSize (block.data position) (block.data (position + 1)) = none) :
    block.rest position = [] := by
  unfold Block.rest
  cases block.filled with
  | zero => rfl
  | succ fuel =>
      rw [framesFrom, bad]
      split_ifs <;> rfl

theorem rest_frame (block : Block) (position size : Nat) (inside : position < block.filled)
    (good : frameSize (block.data position) (block.data (position + 1)) = some size) :
    block.rest position = wordsAt block.data position size :: block.rest (position + size) := by
  have some' := (frame_size_some _ _ size good).1
  obtain ⟨fuel, filled⟩ : ∃ fuel, block.filled = fuel + 1 := ⟨block.filled - 1, by omega⟩
  have enough := frames_enough block fuel block.filled (position + size) (by omega) (by omega)
  rw [Block.rest, filled, framesFrom, if_neg (by omega), good]
  dsimp only
  rw [enough]
  rfl

/-- The header of a frame counts its words. -/
def Checked (words : List Word) : Prop :=
  frameSize (words.getD 0 0) (words.getD 1 0) = some words.length

instance (words : List Word) : Decidable (Checked words) := inferInstanceAs (Decidable (_ = _))

theorem frames_checked (block : Block) (fuel position : Nat) :
    ∀ words ∈ framesFrom block fuel position, Checked words := by
  induction fuel generalizing position with
  | zero => exact fun _ member => (by cases member)
  | succ fuel ih =>
      rw [framesFrom]
      split_ifs
      · exact fun _ member => (by cases member)
      · split
        · exact fun _ member => (by cases member)
        · rename_i size good
          refine List.forall_mem_cons.mpr ⟨?_, ih (position + size)⟩
          have two := (frame_size_some _ _ size good).1
          have first : (wordsAt block.data position size).getD 0 0 = block.data position := by
            simp [wordsAt, List.getD_eq_getElem?_getD, show 0 < size by omega]
          have second : (wordsAt block.data position size).getD 1 0 = block.data (position + 1) := by
            simp [wordsAt, List.getD_eq_getElem?_getD, show 1 < size by omega]
          rw [Checked, first, second, good, wordsAt, List.length_map, List.length_range]

theorem outcomes_checked (block : Block) (words : List Word)
    (member : some words ∈ outcomes block) : Checked words := by
  unfold outcomes at member
  split_ifs at member with empty
  · simp at member
  · obtain ⟨_, cut, ⟨⟩⟩ := List.mem_map.mp member
    exact frames_checked block block.filled 0 words cut

/-! What holds in every state -/

def Writer.index : Writer → Option Nat
  | .reading index => some index
  | .filled index => some index
  | _ => none

/-- Behind an empty block, the reader has still to return null. -/
def Reader.owed : Reader → List (Option (List Word))
  | .signalling true => [none]
  | _ => []

/-- Why a thread may be asleep. -/
structure Waits (state : State) : Prop where
  writer : state.writer = .waiting →
    state.pushed.length = state.released + nBuffer ∨
      ∃ bufferWasEmpty, state.reader = .signalling bufferWasEmpty
  reader : state.reader = .waiting →
    state.pushed.length = state.released ∨ state.writer = .signalling

structure Pointers (state : State) : Prop where
  write : state.bufferSetWrPtr = state.pushed.length % (2 * nBuffer)
  read : state.bufferSetRdPtr = state.released % (2 * nBuffer)
  ordered : state.released ≤ state.pushed.length
  bounded : state.pushed.length ≤ state.released + nBuffer
  writes : ∀ index ∈ state.writer.index,
    index = state.pushed.length % nBuffer ∧ state.pushed.length < state.released + nBuffer
  current : ∀ index ∈ state.currentBuffer,
    index = state.released % nBuffer ∧ state.released < state.pushed.length
  resting : ∀ bufferWasEmpty, state.reader = .signalling bufferWasEmpty →
    state.currentBuffer = none

/-- What was handed over and not given back is still there. -/
structure Contents (state : State) : Prop where
  kept : ∀ k block, state.released ≤ k → state.pushed[k]? = some block →
    (state.bufferSet (k % nBuffer)).data = block.data ∧
      (state.bufferSet (k % nBuffer)).filled = block.filled
  fresh : ∀ k block, state.released ≤ k → state.pushed[k]? = some block →
    state.released < k ∨ state.currentBuffer = none →
      (state.bufferSet (k % nBuffer)).consumed = 0
  begun : ∀ index, state.writer = .filled index → (state.bufferSet index).consumed = 0
  lent : ∀ lent ∈ state.lent, state.currentBuffer = some lent.index ∧
    wordsAt (state.bufferSet lent.index).data lent.position lent.words.length = lent.words
  inside : state.reader ≠ .outside → state.lent = none

/-- What was returned of the block at hand. -/
def PartOf (state : State) (part : List (Option (List Word))) : Prop :=
  match state.currentBuffer with
  | none => part = []
  | some index => ∀ block, state.pushed[state.released]? = some block →
      if block.filled = 0 then part = []
      else part ++ (block.rest (state.bufferSet index).consumed).map some = outcomes block

def Returned (state : State) : Prop :=
  ∃ part, state.results ++ state.reader.owed =
    (state.pushed.take state.released).flatMap outcomes ++ part ∧ PartOf state part

structure Inv (state : State) : Prop where
  waits : Waits state
  pointers : Pointers state
  contents : Contents state
  returned : Returned state

/-- The buffers of the two threads are different ones. -/
theorem buffers_apart (state : State) (pointers : Pointers state) (k index : Nat)
    (atLeast : state.released ≤ k) (below : k < state.pushed.length)
    (writing : state.writer.index = some index) : k % nBuffer ≠ index := by
  obtain ⟨rfl, room⟩ := pointers.writes index writing
  intro same
  have equal := slot_injective k state.pushed.length (Nat.le_of_lt below) (by omega) same
  omega

@[simp] theorem setSlot_same (state : State) (index : Nat) (slot : Slot) :
    (setSlot state index slot).bufferSet index = slot := Function.update_self ..

theorem setSlot_other (state : State) (index other : Nat) (slot : Slot) (apart : other ≠ index) :
    (setSlot state index slot).bufferSet other = state.bufferSet other :=
  Function.update_of_ne apart ..

section Writer
variable {state next : State} (inv : Inv state)
include inv

theorem full_pushed : isFull state = true ↔ state.pushed.length = state.released + nBuffer := by
  have pointers := inv.pointers
  have full := @full_iff nBuffer _ _ (by decide) pointers.ordered pointers.bounded
  rw [isFull, pointers.write, pointers.read, ← full, Bool.and_eq_true, beq_iff_eq, bne_iff_ne,
    and_comm]

theorem inv_writer_locks (stepped : step state .writerLocks = some next) : Inv next := by
  have pointers := inv.pointers
  simp only [step] at stepped
  split at stepped
  case h_2 => cases stepped
  case h_1 locking =>
    have writerReady : state.writer ≠ .signalling := by
      rw [locking]
      exact Writer.noConfusion
    have readerWaits (waits : state.reader = .waiting) : state.pushed.length = state.released :=
      (inv.waits.reader waits).resolve_right writerReady
    split_ifs at stepped with full
    · cases stepped
      exact
        { waits := ⟨fun _ => .inl ((full_pushed inv).mp full), fun waits => .inl (readerWaits waits)⟩
          pointers := { pointers with writes := fun _ writing => (by cases writing) }
          contents := { inv.contents with begun := fun _ filled => (by cases filled) }
          returned := inv.returned }
    · cases stepped
      have room : state.pushed.length < state.released + nBuffer :=
        Nat.lt_of_le_of_ne pointers.bounded fun same => full ((full_pushed inv).mpr same)
      refine
        { waits := ⟨fun waits => (by cases waits), fun waits => .inl (readerWaits waits)⟩
          pointers := { pointers with writes := ?_ }
          contents := { inv.contents with begun := fun _ filled => (by cases filled) }
          returned := inv.returned }
      rintro _ ⟨⟩
      exact ⟨by rw [pointers.write, slot_wrapped], room⟩

theorem inv_write (index : Nat) (slot : Slot) (writer : Writer)
    (writing : state.writer.index = some index) (still : writer.index = some index)
    (begun : ∀ other, writer = .filled other → slot.consumed = 0) :
    Inv { setSlot state index slot with writer := writer } := by
  have pointers := inv.pointers
  have contents := inv.contents
  have apart (k : Nat) (block : Block) (atLeast : state.released ≤ k)
      (pushed : state.pushed[k]? = some block) : k % nBuffer ≠ index :=
    buffers_apart state pointers k index atLeast (List.getElem?_eq_some_iff.mp pushed).1 writing
  have holds (other : Nat) (holding : state.currentBuffer = some other) : other ≠ index := by
    obtain ⟨rfl, some'⟩ := pointers.current other holding
    exact buffers_apart state pointers state.released index (Nat.le_refl _) some' writing
  have awake : writer ≠ .waiting := by
    rintro rfl
    cases still
  have notSignalling : state.writer ≠ .signalling := by
    intro signals
    rw [signals] at writing
    cases writing
  refine
    { waits := ⟨fun waits => absurd waits awake, fun waits =>
        .inl ((inv.waits.reader waits).resolve_right notSignalling)⟩
      pointers := { pointers with writes := fun other member => ?_ }
      contents :=
        { kept := fun k block atLeast pushed => ?_
          fresh := fun k block atLeast pushed untouched => ?_
          begun := fun other filled => ?_
          lent := fun lent member => ?_
          inside := contents.inside }
      returned := ?_ }
  · cases still.symm.trans member
    exact pointers.writes index writing
  · dsimp only
    rw [setSlot_other state index _ slot (apart k block atLeast pushed)]
    exact contents.kept k block atLeast pushed
  · dsimp only
    rw [setSlot_other state index _ slot (apart k block atLeast pushed)]
    exact contents.fresh k block atLeast pushed untouched
  · have zero := begun other filled
    dsimp only at filled
    rw [filled] at still
    cases still
    dsimp only
    rw [setSlot_same]
    exact zero
  · obtain ⟨holding, words⟩ := contents.lent lent member
    refine ⟨holding, ?_⟩
    dsimp only
    rw [setSlot_other state index _ slot (holds _ holding)]
    exact words
  · obtain ⟨part, results, rest⟩ := inv.returned
    refine ⟨part, results, ?_⟩
    unfold PartOf at rest ⊢
    dsimp only [setSlot] at rest ⊢
    cases holding : state.currentBuffer with
    | none =>
        rw [holding] at rest
        exact rest
    | some other =>
        rw [holding] at rest
        have same := setSlot_other state index other slot (holds other holding)
        unfold setSlot at same
        dsimp only at same rest ⊢
        rw [same]
        exact rest

theorem inv_dma (position : Nat) (word : Word)
    (stepped : step state (.dma position word) = some next) : Inv next := by
  simp only [step] at stepped
  split at stepped
  case h_2 => cases stepped
  case h_1 index reading =>
    cases stepped
    have writing : state.writer.index = some index := by rw [reading]; rfl
    have written := inv_write inv index
      { state.bufferSet index with data := Function.update (state.bufferSet index).data position word }
      state.writer writing writing fun other filled => by rw [reading] at filled; cases filled
    exact written

theorem inv_read_returns (words : Nat) (stepped : step state (.readReturns words) = some next) :
    Inv next := by
  simp only [step] at stepped
  split at stepped
  case h_2 => cases stepped
  case h_1 index reading =>
    cases stepped
    exact inv_write inv index { state.bufferSet index with filled := words, consumed := 0 }
      (.filled index) (by rw [reading]; rfl) rfl fun _ _ => rfl

theorem inv_writer_pushes (stepped : step state .writerPushes = some next) : Inv next := by
  have pointers := inv.pointers
  have contents := inv.contents
  simp only [step] at stepped
  split at stepped
  case h_2 => cases stepped
  case h_1 index filled =>
    cases stepped
    obtain ⟨place, room⟩ := pointers.writes index (by rw [filled]; rfl)
    -- the new block is what is in the buffer
    have old (k : Nat) (block : Block)
        (pushed : (state.pushed ++ [⟨(state.bufferSet index).data,
          (state.bufferSet index).filled⟩])[k]? = some block) :
        state.pushed[k]? = some block ∨ (k % nBuffer = index ∧
          block = ⟨(state.bufferSet index).data, (state.bufferSet index).filled⟩) := by
      rcases Nat.lt_or_ge k state.pushed.length with before | now
      · rw [List.getElem?_append_left before] at pushed
        exact .inl pushed
      · rw [List.getElem?_append_right now] at pushed
        obtain ⟨last, same⟩ := List.getElem?_eq_some_iff.mp pushed
        rw [List.length_singleton] at last
        have here : k = state.pushed.length := by omega
        subst here
        exact .inr ⟨place.symm, by rw [← same]; simp⟩
    refine
      { waits := ⟨fun waits => (by cases waits), fun _ => .inr rfl⟩
        pointers :=
          { write := ?_
            read := pointers.read
            ordered := ?_
            bounded := ?_
            writes := fun _ writing => (by cases writing)
            current := fun other holding => ?_
            resting := pointers.resting }
        contents :=
          { kept := fun k block atLeast pushed => ?_
            fresh := fun k block atLeast pushed untouched => ?_
            begun := fun _ filled => (by cases filled)
            lent := contents.lent
            inside := contents.inside }
        returned := ?_ }
    · dsimp only
      rw [pointers.write, add_wrapped, List.length_append, List.length_singleton]
    · dsimp only
      rw [List.length_append]
      exact Nat.le_add_right_of_le pointers.ordered
    · dsimp only
      rw [List.length_append, List.length_singleton]
      exact room
    · obtain ⟨same, some'⟩ := pointers.current other holding
      dsimp only
      rw [List.length_append]
      exact ⟨same, Nat.lt_add_right _ some'⟩
    · rcases old k block pushed with before | ⟨same, rfl⟩
      · exact contents.kept k block atLeast before
      · dsimp only
        rw [same]
        exact ⟨rfl, rfl⟩
    · rcases old k block pushed with before | ⟨same, rfl⟩
      · exact contents.fresh k block atLeast before untouched
      · dsimp only
        rw [same]
        exact contents.begun index filled
    · obtain ⟨part, results, rest⟩ := inv.returned
      refine ⟨part, ?_, ?_⟩
      · dsimp only
        rw [List.take_append_of_le_length pointers.ordered]
        exact results
      · unfold PartOf at rest ⊢
        dsimp only
        cases holding : state.currentBuffer with
        | none =>
            rw [holding] at rest
            exact rest
        | some other =>
            rw [holding] at rest
            obtain ⟨_, some'⟩ := pointers.current other holding
            dsimp only at rest ⊢
            rw [List.getElem?_append_left some']
            exact rest

theorem inv_wake (writer : Writer) (reader : Reader) (index : writer.index = state.writer.index)
    (filled : ∀ index, writer = .filled index → state.writer = .filled index)
    (waits : Waits { state with writer := writer, reader := reader })
    (same : reader = state.reader ∨ state.reader = .waiting ∧ reader = .scanning) :
    Inv { state with writer := writer, reader := reader } := by
  have pointers := inv.pointers
  have contents := inv.contents
  refine
    { waits := waits
      pointers :=
        { pointers with
          writes := fun other writing => pointers.writes other (index ▸ writing)
          resting := ?_ }
      contents :=
        { contents with
          begun := fun other filled' => contents.begun other (filled other filled')
          inside := ?_ }
      returned := ?_ }
  · intro empty signals
    rcases same with same | ⟨_, scanning⟩
    · exact pointers.resting empty (same ▸ signals)
    · exact absurd (scanning.symm.trans signals) Reader.noConfusion
  · intro within
    rcases same with same | ⟨waits, _⟩
    · exact contents.inside (same ▸ within)
    · exact contents.inside (waits ▸ Reader.noConfusion)
  · have owed : reader.owed = state.reader.owed := by
      rcases same with same | ⟨waits, scanning⟩
      · rw [same]
      · rw [waits, scanning]
        rfl
    obtain ⟨part, results, rest⟩ := inv.returned
    exact ⟨part, by dsimp only; rw [owed, results], rest⟩

theorem inv_writer_signals (stepped : step state .writerSignals = some next) : Inv next := by
  simp only [step] at stepped
  split at stepped
  case h_2 => cases stepped
  case h_1 signals =>
    cases stepped
    have index : Writer.locking.index = state.writer.index := by rw [signals]; rfl
    have up (reader : Reader) (awake : reader ≠ .waiting) :
        Waits { state with writer := .locking, reader := reader } :=
      ⟨fun waits => (by cases waits), fun waits => absurd waits awake⟩
    by_cases waits : state.reader = .waiting
    · rw [if_pos waits]
      exact inv_wake inv .locking .scanning index (fun _ filled => (by cases filled))
        (up _ Reader.noConfusion) (.inr ⟨waits, rfl⟩)
    · rw [if_neg waits]
      exact inv_wake inv .locking state.reader index (fun _ filled => (by cases filled))
        (up _ waits) (.inl rfl)

theorem inv_writer_wakes (stepped : step state .writerWakes = some next) : Inv next := by
  simp only [step] at stepped
  split at stepped
  case h_2 => cases stepped
  case h_1 asleep =>
    cases stepped
    refine inv_wake inv .locking state.reader (by rw [asleep]; rfl)
      (fun _ filled => (by cases filled)) ⟨fun waits => (by cases waits), fun waits => .inl ?_⟩
      (.inl rfl)
    refine (inv.waits.reader waits).resolve_right ?_
    rw [asleep]
    exact Writer.noConfusion

theorem inv_reader_wakes (stepped : step state .readerWakes = some next) : Inv next := by
  simp only [step] at stepped
  split at stepped
  case h_2 => cases stepped
  case h_1 asleep =>
    cases stepped
    refine inv_wake inv state.writer .scanning rfl (fun _ filled => filled)
      ⟨fun waits => .inl ?_, fun waits => (by cases waits)⟩ (.inr ⟨asleep, rfl⟩)
    refine (inv.waits.writer waits).resolve_right ?_
    rintro ⟨_, signals⟩
    rw [asleep] at signals
    cases signals

end Writer

section Reader
variable {state next : State} (inv : Inv state)
include inv

theorem inv_call (stepped : step state .call = some next) : Inv next := by
  simp only [step] at stepped
  split at stepped
  case h_2 => cases stepped
  case h_1 outside =>
    cases stepped
    have asleep (waits : state.writer = .waiting) : state.pushed.length = state.released + nBuffer := by
      refine (inv.waits.writer waits).resolve_right ?_
      rintro ⟨_, signals⟩
      rw [outside] at signals
      cases signals
    obtain ⟨part, results, rest⟩ := inv.returned
    rw [outside] at results
    exact
      { waits := ⟨fun waits => .inl (asleep waits), fun waits => (by cases waits)⟩
        pointers := { inv.pointers with resting := fun _ signals => (by cases signals) }
        contents :=
          { inv.contents with
            lent := fun _ lent => (by cases lent)
            inside := fun _ => rfl }
        returned := ⟨part, results, rest⟩ }

theorem inv_reader_locks (stepped : step state .readerLocks = some next) : Inv next := by
  have pointers := inv.pointers
  have contents := inv.contents
  simp only [step] at stepped
  split at stepped
  case h_2 => cases stepped
  case h_1 scanning free =>
    obtain ⟨part, results, rest⟩ := inv.returned
    rw [scanning] at results
    have nothing : part = [] := by
      unfold PartOf at rest
      rw [free] at rest
      exact rest
    have without : state.lent = none := contents.inside (by rw [scanning]; exact Reader.noConfusion)
    have asleep (waits : state.writer = .waiting) : state.pushed.length = state.released + nBuffer := by
      refine (inv.waits.writer waits).resolve_right ?_
      rintro ⟨_, signals⟩
      rw [scanning] at signals
      cases signals
    have empty := @empty_iff nBuffer _ _ (by decide) pointers.ordered pointers.bounded
    rw [← pointers.write, ← pointers.read] at empty
    split_ifs at stepped with same
    · cases stepped
      exact
        { waits := ⟨fun waits => .inl (asleep waits), fun _ => .inl (empty.mp same)⟩
          pointers := { pointers with resting := fun _ signals => (by cases signals) }
          contents := { contents with inside := fun _ => without }
          returned := ⟨part, results, rest⟩ }
    · cases stepped
      have some' : state.released < state.pushed.length :=
        Nat.lt_of_le_of_ne pointers.ordered fun equal => same (empty.mpr equal.symm)
      refine
        { waits := ⟨fun waits => .inl (asleep waits), inv.waits.reader⟩
          pointers :=
            { pointers with
              current := ?_
              resting := fun _ signals => absurd (scanning.symm.trans signals) Reader.noConfusion }
          contents :=
            { contents with
              fresh := fun k block atLeast pushed untouched =>
                contents.fresh k block atLeast pushed (.inr free)
              lent := fun _ lent => (by rw [without] at lent; cases lent) }
          returned := ⟨part, by rw [scanning]; exact results, ?_⟩ }
      · rintro _ ⟨⟩
        exact ⟨by rw [pointers.read, slot_wrapped], some'⟩
      · intro block pushed
        have zero := contents.fresh state.released block (Nat.le_refl _) pushed (.inr free)
        have place : state.bufferSetRdPtr % nBuffer = state.released % nBuffer := by
          rw [pointers.read, slot_wrapped]
        split_ifs with nothing'
        · exact nothing
        · dsimp only
          rw [nothing, place, zero, List.nil_append, outcomes, if_neg nothing']
          rfl

theorem inv_consume (index consumed : Nat) (scanning : state.reader = .scanning)
    (holding : state.currentBuffer = some index) (reader : Reader) (lent : Option Lent)
    (results part : List (Option (List Word)))
    (ready : reader = .scanning ∧ lent = none ∨ reader = .outside)
    (held : ∀ frame ∈ lent, frame.index = index ∧
      wordsAt (state.bufferSet index).data frame.position frame.words.length = frame.words)
    (returned : results = (state.pushed.take state.released).flatMap outcomes ++ part)
    (rest : ∀ block, state.pushed[state.released]? = some block →
      if block.filled = 0 then part = []
      else part ++ (block.rest consumed).map some = outcomes block) :
    Inv { setSlot state index { state.bufferSet index with consumed := consumed } with
      reader := reader, lent := lent, results := results } := by
  have pointers := inv.pointers
  have contents := inv.contents
  obtain ⟨place, some'⟩ := pointers.current index holding
  have notSignalling (bufferWasEmpty : Bool) : reader ≠ .signalling bufferWasEmpty := by
    rintro rfl
    rcases ready with ⟨same, _⟩ | same <;> cases same
  have nothingOwed : reader.owed = [] := by
    rcases ready with ⟨rfl, _⟩ | rfl <;> rfl
  have asleep (waits : state.writer = .waiting) : state.pushed.length = state.released + nBuffer := by
    refine (inv.waits.writer waits).resolve_right ?_
    rintro ⟨_, signals⟩
    rw [scanning] at signals
    cases signals
  refine
    { waits := ⟨fun waits => .inl (asleep waits), fun waits => ?_⟩
      pointers :=
        { pointers with resting := fun empty signals => absurd signals (notSignalling empty) }
      contents :=
        { kept := fun k block atLeast pushed => ?_
          fresh := fun k block atLeast pushed untouched => ?_
          begun := fun other filled => ?_
          lent := fun frame member => ?_
          inside := fun within => ?_ }
      returned := ⟨part, ?_, ?_⟩ }
  · dsimp only at waits
    rcases ready with ⟨same, _⟩ | same <;> rw [same] at waits <;> cases waits
  · dsimp only [setSlot]
    by_cases same : k % nBuffer = index
    · rw [same, Function.update_self, ← same]
      exact contents.kept k block atLeast pushed
    · rw [Function.update_of_ne same]
      exact contents.kept k block atLeast pushed
  · have later : state.released < k := by
      refine untouched.resolve_right fun free => ?_
      cases holding.symm.trans free
    have below : k < state.pushed.length := (List.getElem?_eq_some_iff.mp pushed).1
    have near : k < state.released + nBuffer := Nat.lt_of_lt_of_le below pointers.bounded
    have apart : k % nBuffer ≠ index := by
      rw [place]
      intro same
      have equal := slot_injective state.released k (Nat.le_of_lt later) near same.symm
      omega
    dsimp only
    rw [setSlot_other state index _ _ apart]
    exact contents.fresh k block atLeast pushed (.inl later)
  · have apart : other ≠ index := by
      rw [place]
      exact (buffers_apart state pointers state.released other (Nat.le_refl _) some'
        (by dsimp only [setSlot] at filled; rw [filled]; rfl)).symm
    dsimp only
    rw [setSlot_other state index _ _ apart]
    exact contents.begun other filled
  · obtain ⟨rfl, words⟩ := held frame member
    exact ⟨holding, by dsimp only [setSlot]; rw [Function.update_self]; exact words⟩
  · rcases ready with ⟨_, nothing⟩ | outside
    · exact nothing
    · exact absurd outside within
  · dsimp only [setSlot]
    rw [nothingOwed, List.append_nil]
    exact returned
  · unfold PartOf
    dsimp only [setSlot]
    rw [holding]
    dsimp only
    rw [Function.update_self]
    exact rest

/-- The buffer goes back to the writer. -/
theorem inv_finish (index : Nat) (scanning : state.reader = .scanning)
    (holding : state.currentBuffer = some index)
    (finished : (state.bufferSet index).filled ≤ (state.bufferSet index).consumed) :
    Inv { state with
      currentBuffer := none
      bufferSetRdPtr := (state.bufferSetRdPtr + 1) % (2 * nBuffer)
      reader := .signalling ((state.bufferSet index).filled == 0)
      released := state.released + 1 } := by
  have pointers := inv.pointers
  have contents := inv.contents
  obtain ⟨place, some'⟩ := pointers.current index holding
  have without : state.lent = none := contents.inside (by rw [scanning]; exact Reader.noConfusion)
  obtain ⟨part, results, rest⟩ := inv.returned
  have nothingOwed : Reader.scanning.owed = [] := rfl
  rw [scanning, nothingOwed, List.append_nil] at results
  unfold PartOf at rest
  rw [holding] at rest
  obtain ⟨block, pushed⟩ : ∃ block, state.pushed[state.released]? = some block :=
    ⟨_, List.getElem?_eq_getElem some'⟩
  have there := contents.kept state.released block (Nat.le_refl _) pushed
  rw [← place] at there
  have all := rest block pushed
  have bounded := pointers.bounded
  have more : state.pushed.take (state.released + 1) =
      state.pushed.take state.released ++ [block] := by
    rw [List.take_add_one, pushed]
    rfl
  refine
    { waits := ⟨fun _ => .inr ⟨_, rfl⟩, fun waits => (by cases waits)⟩
      pointers :=
        { write := pointers.write
          read := by dsimp only; rw [pointers.read, add_wrapped]
          ordered := some'
          bounded := by dsimp only; omega
          writes := fun other writing => ?_
          current := fun _ holding => (by cases holding)
          resting := fun _ _ => rfl }
      contents :=
        { kept := fun k block atLeast pushed =>
            contents.kept k block (Nat.le_of_succ_le atLeast) pushed
          fresh := fun k block atLeast pushed _ =>
            contents.fresh k block (Nat.le_of_succ_le atLeast) pushed (.inl atLeast)
          begun := contents.begun
          lent := fun _ lent => (by rw [without] at lent; cases lent)
          inside := fun _ => without }
      returned := ⟨[], ?_, rfl⟩ }
  · obtain ⟨same, room⟩ := pointers.writes other writing
    exact ⟨same, by dsimp only; omega⟩
  · dsimp only
    rw [more, List.flatMap_append, List.flatMap_singleton, List.append_nil, results]
    rw [there.2] at finished ⊢
    by_cases empty : block.filled = 0
    · rw [if_pos empty] at all
      rw [all, empty, outcomes, if_pos empty, List.append_nil]
      rfl
    · rw [if_neg empty, rest_done block _ finished, List.map_nil, List.append_nil] at all
      rw [all, beq_eq_false_iff_ne.mpr empty]
      exact List.append_nil _

theorem inv_reader_scans (stepped : step state .readerScans = some next) : Inv next := by
  have pointers := inv.pointers
  have contents := inv.contents
  simp only [step] at stepped
  split at stepped
  case h_2 => cases stepped
  case h_1 index scanning holding =>
    obtain ⟨place, some'⟩ := pointers.current index holding
    have without : state.lent = none := contents.inside (by rw [scanning]; exact Reader.noConfusion)
    obtain ⟨part, results, rest⟩ := inv.returned
    have nothingOwed : Reader.scanning.owed = [] := rfl
    rw [scanning, nothingOwed, List.append_nil] at results
    unfold PartOf at rest
    rw [holding] at rest
    dsimp only at rest
    obtain ⟨block, pushed⟩ : ∃ block, state.pushed[state.released]? = some block :=
      ⟨_, List.getElem?_eq_getElem some'⟩
    have there := contents.kept state.released block (Nat.le_refl _) pushed
    rw [← place] at there
    have all := rest block pushed
    have only (other : Block) (pushed' : state.pushed[state.released]? = some other) :
        other = block := Option.some.inj (pushed'.symm.trans pushed)
    unfold scan at stepped
    dsimp only at stepped
    split_ifs at stepped with finished last
    · cases stepped
      exact inv_finish inv index scanning holding finished
    · have inside : (state.bufferSet index).consumed < block.filled := by
        rw [← there.2]
        omega
      have some'' : block.filled ≠ 0 := by omega
      rw [if_neg some''] at all
      split at stepped
      · -- a bad header: what follows it is given up
        rename_i bad
        cases stepped
        rw [there.1] at bad
        rw [rest_bad block _ bad] at all
        have kept := inv_consume inv index (state.bufferSet index).filled scanning holding
          state.reader state.lent state.results part (.inl ⟨scanning, without⟩)
          (fun _ member => (by rw [without] at member; cases member)) results
          fun other pushed' => by
            rw [only other pushed', if_neg some'',
              rest_done block _ (Nat.le_of_eq there.2.symm)]
            exact all
        exact kept
      · rename_i size good
        split_ifs at stepped
        cases stepped
        rw [there.1] at good
        rw [rest_frame block _ size inside good] at all
        refine inv_consume inv index ((state.bufferSet index).consumed + size) scanning holding .outside
          (some ⟨index, (state.bufferSet index).consumed, wordsAt (state.bufferSet index).data _ size⟩)
          _ (part ++ [some (wordsAt block.data (state.bufferSet index).consumed size)])
          (.inr rfl) ?_ ?_ ?_
        · rintro _ ⟨⟩
          refine ⟨rfl, ?_⟩
          simp only [wordsAt, List.length_map, List.length_range]
        · rw [results, there.1, List.append_assoc]
        · intro other pushed'
          rw [only other pushed', if_neg some'', List.append_assoc]
          exact all

theorem inv_reader_signals (stepped : step state .readerSignals = some next) : Inv next := by
  have pointers := inv.pointers
  have contents := inv.contents
  simp only [step] at stepped
  split at stepped
  case h_2 => cases stepped
  case h_1 bufferWasEmpty signals =>
    have without : state.lent = none := contents.inside (by rw [signals]; exact Reader.noConfusion)
    obtain ⟨part, results, rest⟩ := inv.returned
    rw [signals] at results
    -- the woken writer has no buffer yet
    let writer := if state.writer = Writer.waiting then .locking else state.writer
    have awake : writer ≠ .waiting := by
      intro waits
      dsimp only [writer] at waits
      split_ifs at waits with asleep
      exact asleep waits
    have index : writer.index = state.writer.index := by
      dsimp only [writer]
      split_ifs with asleep
      · rw [asleep]
        rfl
      · rfl
    have filled (other : Nat) (filled : writer = .filled other) : state.writer = .filled other := by
      dsimp only [writer] at filled
      split_ifs at filled
      exact filled
    have kept (reader : Reader) (results' : List (Option (List Word)))
        (ready : reader = .scanning ∨ reader = .outside)
        (returned : results' = state.results ++ (Reader.signalling bufferWasEmpty).owed) :
        Inv { state with writer := writer, reader := reader, results := results' } := by
      have nothingOwed : reader.owed = [] := by
        rcases ready with rfl | rfl <;> rfl
      exact
        { waits := ⟨fun waits => absurd waits awake, fun waits =>
            (by dsimp only at waits; rcases ready with same | same <;> rw [same] at waits <;> cases waits)⟩
          pointers :=
            { pointers with
              writes := fun other writing => pointers.writes other (index ▸ writing)
              resting := fun empty signals =>
                (by dsimp only at signals; rcases ready with same | same <;> rw [same] at signals <;> cases signals) }
          contents :=
            { contents with
              begun := fun other filled' => contents.begun other (filled other filled')
              inside := fun _ => without }
          returned := ⟨part, by dsimp only; rw [nothingOwed, List.append_nil, returned, results], rest⟩ }
    cases bufferWasEmpty with
    | false =>
        cases stepped
        exact kept .scanning state.results (.inl rfl) (List.append_nil _).symm
    | true =>
        cases stepped
        exact kept .outside (state.results ++ [none]) (.inr rfl) rfl

end Reader

theorem inv_step (state : State) (action : Action) (next : State) (inv : Inv state)
    (stepped : step state action = some next) : Inv next := by
  cases action with
  | writerLocks => exact inv_writer_locks inv stepped
  | dma position word => exact inv_dma inv position word stepped
  | readReturns words => exact inv_read_returns inv words stepped
  | writerPushes => exact inv_writer_pushes inv stepped
  | writerSignals => exact inv_writer_signals inv stepped
  | call => exact inv_call inv stepped
  | readerLocks => exact inv_reader_locks inv stepped
  | readerScans => exact inv_reader_scans inv stepped
  | readerSignals => exact inv_reader_signals inv stepped
  | writerWakes => exact inv_writer_wakes inv stepped
  | readerWakes => exact inv_reader_wakes inv stepped

/-! What the caller of `getNextFrame` relies on -/

/-- The results are those of the blocks, in order: all of the blocks given back, and
some of the one at hand. -/
def InOrder (state : State) : Prop :=
  state.results <+: state.pushed.flatMap outcomes ∧
    (state.pushed.take state.released).flatMap outcomes <+:
      state.results ++ state.reader.owed

structure Good (state : State) : Prop where
  /-- The driver never writes to the buffer that is being read. -/
  apart : ∀ writes ∈ state.writer.index, ∀ reads ∈ state.currentBuffer, writes ≠ reads
  /-- The last frame returned stays what it was until the next call. -/
  stays : ∀ lent ∈ state.lent,
    wordsAt (state.bufferSet lent.index).data lent.position lent.words.length = lent.words
  inOrder : InOrder state
  /-- No signal is lost. -/
  waits : Waits state
  /-- The threads never wait for one another. -/
  awake : ¬ (state.writer = .waiting ∧ state.reader = .waiting)

theorem results_prefix (state : State) (pointers : Pointers state) (returned : Returned state) :
    state.results ++ state.reader.owed <+: state.pushed.flatMap outcomes := by
  obtain ⟨part, results, rest⟩ := returned
  rw [results]
  unfold PartOf at rest
  cases holding : state.currentBuffer with
  | none =>
      rw [holding] at rest
      rw [rest, List.append_nil]
      exact (List.take_prefix _ _).flatMap _
  | some index =>
      rw [holding] at rest
      obtain ⟨_, below⟩ := pointers.current index holding
      have pushed : state.pushed[state.released]? = some _ := List.getElem?_eq_getElem below
      have begun : part <+: outcomes state.pushed[state.released] := by
        have all := rest _ pushed
        split_ifs at all
        · rw [all]
          exact List.nil_prefix
        · exact ⟨_, all⟩
      have more : state.pushed.take (state.released + 1) =
          state.pushed.take state.released ++ [state.pushed[state.released]] := by
        rw [List.take_add_one, pushed]
        rfl
      have upTo : (state.pushed.take state.released).flatMap outcomes ++ part <+:
          (state.pushed.take (state.released + 1)).flatMap outcomes := by
        rw [more, List.flatMap_append, List.flatMap_singleton]
        exact List.prefix_append_right_inj _ |>.mpr begun
      exact upTo.trans ((List.take_prefix _ _).flatMap _)

theorem inv_good (state : State) (inv : Inv state) : Good state where
  apart := by
    intro writes writing reads reading
    obtain ⟨rfl, below⟩ := inv.pointers.current reads reading
    exact (buffers_apart state inv.pointers state.released writes (Nat.le_refl _) below writing).symm
  stays := fun lent member => (inv.contents.lent lent member).2
  inOrder := by
    have whole := results_prefix state inv.pointers inv.returned
    obtain ⟨part, results, _⟩ := inv.returned
    exact ⟨(List.prefix_append _ _).trans whole, part, results.symm⟩
  waits := inv.waits
  awake := by
    rintro ⟨writer, reader⟩
    have full := inv.waits.writer writer
    have empty := inv.waits.reader reader
    rw [reader] at full
    rw [writer] at empty
    rcases full with full | ⟨_, signals⟩
    · rcases empty with empty | signals
      · rw [empty] at full
        cases (Nat.left_eq_add.mp full)
      · cases signals
    · cases signals

end GramsTof.DmaBuffers
