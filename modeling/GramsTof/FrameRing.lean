import GramsTof.RawFrame
import GramsTof.RingPointers
import GramsTof.TransitionSystem
import Mathlib.Data.List.GetD

/-!
The ring of data frames in shared memory, between the worker of
`PETSYS::UDPFrameServer` and the consumer: `DAQD.acquire` with the `write_raw`
process it feeds. Both pointers belong to the frame server and change under its
lock; the slots do not, so copying a frame into a slot and reading one are
steps a word at a time. Replies of the front end and the monitor process are
left out, and the other commands a client may send.
-/

namespace GramsTof.FrameRing

open RawFrame RingPointers TransitionSystem

/-- What one `recv` of a data frame message brings: complete frames. -/
structure Datagram where
  first : Frame
  rest : List Frame

inductive Worker where
  | receiving
  | testing (frame : Frame) (rest : List Frame)
  | copying (slot : Option Nat) (frame : Frame) (rest : List Frame) (copied : Nat)
  | publishing (slot : Option Nat) (frame : Frame) (rest : List Frame)

/-- What `acquire` polls the pointers for, or what block it has sent to
`write_raw`. `current` and `stop` are `currentFrame` and `stopFrame`. -/
inductive Stage where
  | synchronize (required : Int)
  | first (required : Int)
  | startBlock (current stop : Int)
  | block (current stop : Int)
  | endBlock
  deriving DecidableEq, Repr

/-- The consumer. `writing` is the loop of `write_raw` over a block, with the
words of the slot at `readPointer` it has read. -/
inductive Consumer where
  | idle
  | pollWrite (stage : Stage)
  | pollRead (stage : Stage) (writePointer : Nat)
  | writing (stage : Stage) (readPointer writePointer : Nat) (words : List Word)
  | answered (stage : Stage) (readPointer : Nat)
  | releasing (stage : Stage) (readPointer : Nat)
  deriving DecidableEq, Repr

/-- The last four fields are history, no step depends on them: the frames
published, those published before the last synchronization took effect, those
`write_raw` has read since, and how many frames the server's read pointer has
passed. -/
structure State where
  slots : Slots
  dataFrameWritePointer : Nat
  dataFrameReadPointer : Nat
  worker : Worker
  consumer : Consumer
  published : List (List Word)
  skipped : List (List Word)
  taken : List (List Word)
  released : Nat

inductive Action where
  | receive (datagram : Datagram)
  /-- The next statement of the worker; `minimumFrameID` as it is then. -/
  | worker (minimumFrameID : Nat)
  | acquire (required : Int)
  | consumer

def isFull (writePointer readPointer : Nat) : Bool :=
  writePointer != readPointer &&
    writePointer % maxRawDataFrameQueueSize == readPointer % maxRawDataFrameQueueSize

/-- `FrameServer::parseDataFrame`: the size check. -/
def parseDataFrame (data : List Word) : Bool :=
  getFrameSize data == 2 + field (data.getD 1 0) 0 0xFFFF

def storeWord (slots : Slots) (slot index : Nat) (word : Word) : Slots :=
  fun other position => if other = slot ∧ position = index then word else slots other position

/-- The end of the worker's inner loop: the next frame of the datagram. -/
def nextFrame : List Frame → Worker
  | [] => .receiving
  | frame :: rest => .testing frame rest

def workerStep (state : State) (minimumFrameID : Nat) : Option State :=
  match state.worker with
  | .receiving => none
  | .testing frame rest =>
      let slot := if isFull state.dataFrameWritePointer state.dataFrameReadPointer then none
        else some (state.dataFrameWritePointer % maxRawDataFrameQueueSize)
      some { state with worker := .copying slot frame rest 0 }
  | .copying slot frame rest copied =>
      if copied < frame.data.length then
        let slots := match slot with
          | none => state.slots
          | some slot => storeWord state.slots slot copied (frame.data.getD copied 0)
        some { state with slots := slots, worker := .copying slot frame rest (copied + 1) }
      else
        let dataFrame := match slot with
          | none => frame.data
          | some slot => slotWords state.slots slot frame.data.length
        if parseDataFrame dataFrame = false then some { state with worker := .receiving }
        else if getFrameID dataFrame < minimumFrameID then
          some { state with worker := nextFrame rest }
        else some { state with worker := .publishing slot frame rest }
  | .publishing slot _ rest =>
      match slot with
      | none => some { state with worker := nextFrame rest }
      | some slot => some { state with
          dataFrameWritePointer :=
            (state.dataFrameWritePointer + 1) % (2 * maxRawDataFrameQueueSize)
          worker := nextFrame rest
          published := state.published ++ [slotFrame state.slots slot] }

def nFramesInBlock (bs writePointer readPointer : Nat) : Nat :=
  let frames := ((writePointer : Int) - (readPointer : Int)).natAbs
  if frames > bs then 2 * bs - frames else frames

/-- The frames of a block: no more than needed, and at most half the ring. -/
def cappedFrames (bs writePointer readPointer : Nat) (framesToTarget : Int) : Nat :=
  let frames := nFramesInBlock bs writePointer readPointer
  let frames := if (frames : Int) > framesToTarget then framesToTarget.toNat else frames
  if frames > bs / 2 then bs / 2 else frames

/-- The frames in the slots from `pointer` up to the write pointer. -/
def framesFrom (state : State) (pointer : Nat) : List (List Word) :=
  (List.range ((state.dataFrameWritePointer + 2 * maxRawDataFrameQueueSize - pointer) %
      (2 * maxRawDataFrameQueueSize))).map fun offset =>
    slotFrame state.slots ((pointer + offset) % maxRawDataFrameQueueSize)

/-- Where `acquire` goes on after a block: the next one, or the end of the step. -/
def nextBlock (current stop : Int) (readPointer : Nat) : Consumer :=
  if current < stop then .pollWrite (.block current stop)
  else .writing .endBlock readPointer readPointer []

/-- `setDataFrameReadPointer`. -/
def State.release (state : State) (readPointer : Nat) (consumer : Consumer) : State :=
  { state with
    dataFrameReadPointer := readPointer % (2 * maxRawDataFrameQueueSize)
    consumer := consumer
    released := state.skipped.length + state.taken.length }

def consumerStep (state : State) : Option State :=
  let bs := maxRawDataFrameQueueSize
  match state.consumer with
  | .idle => none
  -- `getDataFrameWriteReadPointer` takes the lock once for each pointer
  | .pollWrite stage =>
      some { state with
        consumer := .pollRead stage (state.dataFrameWritePointer % (2 * bs)) }
  | .pollRead stage writePointer =>
      let readPointer := state.dataFrameReadPointer % (2 * bs)
      match stage with
      | .synchronize required =>
          let discarded := (writePointer + 2 * bs - readPointer) % (2 * bs)
          some { state with
            consumer := .releasing (.synchronize required) writePointer
            skipped := state.skipped ++ state.taken ++
              (framesFrom state readPointer).take discarded
            taken := [] }
      | .first required =>
          if writePointer = readPointer then
            some { state with consumer := .pollWrite (.first required) }
          else
            let startFrame : Int := getFrameID [state.slots (readPointer % bs) 0]
            let stage := .startBlock startFrame (startFrame + required)
            some { state with consumer := .writing stage readPointer readPointer [] }
      | .block current stop =>
          if writePointer = readPointer then
            some { state with consumer := .pollWrite (.block current stop) }
          else
            let frames := cappedFrames bs writePointer readPointer (stop - current)
            let writePointer := (readPointer + frames) % (2 * bs)
            some { state with
              consumer := .writing (.block current stop) readPointer writePointer [] }
      | _ => none
  | .writing stage readPointer writePointer words =>
      if words = [] ∧ readPointer = writePointer then
        some { state with consumer := .answered stage readPointer }
      else if words = [] ∨ words.length < getFrameSize words then
        let word := state.slots (readPointer % bs) words.length
        some { state with consumer := .writing stage readPointer writePointer (words ++ [word]) }
      else
        some { state with
          consumer := .writing stage ((readPointer + 1) % (2 * bs)) writePointer []
          taken := state.taken ++ [words] }
  | .answered stage readPointer =>
      match stage with
      | .block _ stop =>
          let current : Int := getFrameID [state.slots ((readPointer + bs - 1) % bs) 0]
          some { state with consumer := .releasing (.block current stop) readPointer }
      | _ => some { state with consumer := .releasing stage readPointer }
  | .releasing stage readPointer =>
      match stage with
      | .synchronize required => some (state.release readPointer (.pollWrite (.first required)))
      | .startBlock current stop =>
          some (state.release readPointer (nextBlock current stop readPointer))
      | .block current stop =>
          some (state.release readPointer (nextBlock current stop readPointer))
      | _ => some (state.release readPointer .idle)

def step (state : State) : Action → Option State
  | .receive datagram =>
      match state.worker with
      | .receiving => some { state with worker := .testing datagram.first datagram.rest }
      | _ => none
  | .worker minimumFrameID => workerStep state minimumFrameID
  | .acquire required =>
      match state.consumer with
      | .idle => some { state with consumer := .pollWrite (.synchronize required) }
      | _ => none
  | .consumer => consumerStep state

/-- After `startAcquisition`; the slots hold anything. -/
def started (slots : Slots) : State :=
  { slots := slots
    dataFrameWritePointer := 0
    dataFrameReadPointer := 0
    worker := .receiving
    consumer := .idle
    published := []
    skipped := []
    taken := []
    released := 0 }

/-- The frames the consumer has passed, by `write_raw` or a synchronization. -/
def State.passed (state : State) : Nat := state.skipped.length + state.taken.length

/-- A slot that is being filled is the next one, and not among those the
server has not yet got back. -/
def Fills (state : State) (slot : Nat) : Prop :=
  slot = state.published.length % maxRawDataFrameQueueSize ∧
    state.published.length < state.released + maxRawDataFrameQueueSize

def Worker.Sound (state : State) : Worker → Prop
  | .copying (some slot) frame _ copied =>
      Fills state slot ∧ copied ≤ frame.data.length ∧
        Holds state.slots slot (frame.data.take copied)
  | .publishing (some slot) frame _ => Fills state slot ∧ Holds state.slots slot frame.data
  | _ => True

/-- The consumer's pointers are counts of frames, none of them ahead of the
publication; outside a block the server has got all passed slots back. -/
def Consumer.Sound (state : State) : Consumer → Prop
  | .idle => state.released = state.passed
  | .pollWrite _ => state.released = state.passed
  | .pollRead _ writePointer => state.released = state.passed ∧
      ∃ written, writePointer = written % (2 * maxRawDataFrameQueueSize) ∧
        state.passed ≤ written ∧ written ≤ state.published.length
  | .writing _ readPointer writePointer words =>
      readPointer = state.passed % (2 * maxRawDataFrameQueueSize) ∧
      ∃ stop, writePointer = stop % (2 * maxRawDataFrameQueueSize) ∧
        state.passed ≤ stop ∧ stop ≤ state.published.length ∧
        (words ≠ [] → state.passed < stop ∧ words <+: state.published.getD state.passed [])
  | .answered _ readPointer => readPointer = state.passed % (2 * maxRawDataFrameQueueSize)
  | .releasing _ readPointer => readPointer = state.passed % (2 * maxRawDataFrameQueueSize)

structure Ring (state : State) : Prop where
  write : state.dataFrameWritePointer =
    state.published.length % (2 * maxRawDataFrameQueueSize)
  read : state.dataFrameReadPointer = state.released % (2 * maxRawDataFrameQueueSize)
  ordered : state.released ≤ state.passed
  bounded : state.published.length ≤ state.released + maxRawDataFrameQueueSize
  kept : state.skipped ++ state.taken <+: state.published
  framed : ∀ words ∈ state.published, ∃ frame : Frame, words = frame.data
  held : ∀ position, state.released ≤ position → position < state.published.length →
    Holds state.slots (position % maxRawDataFrameQueueSize) (state.published.getD position [])
  worker : state.worker.Sound state
  consumer : state.consumer.Sound state

theorem started_ring (slots : Slots) : Ring (started slots) where
  write := rfl
  read := rfl
  ordered := Nat.le_refl 0
  bounded := Nat.zero_le _
  kept := List.nil_prefix
  framed := by intro words member; cases member
  held := by intro position _ inside; cases inside
  worker := trivial
  consumer := rfl

theorem queue_positive : 0 < maxRawDataFrameQueueSize := by decide

theorem Ring.passed_le {state : State} (ring : Ring state) :
    state.passed ≤ state.published.length := by
  have extent := ring.kept.length_le
  rwa [List.length_append] at extent

theorem Ring.full_iff {state : State} (ring : Ring state) :
    isFull state.dataFrameWritePointer state.dataFrameReadPointer = true ↔
      state.published.length = state.released + maxRawDataFrameQueueSize := by
  have ordered := Nat.le_trans ring.ordered ring.passed_le
  rw [← RingPointers.full_iff queue_positive ordered ring.bounded, ring.write, ring.read]
  simp [isFull]

theorem Ring.frames_from {state : State} (ring : Ring state) (position : Nat)
    (ordered : state.released ≤ position) (reached : position ≤ state.published.length) :
    framesFrom state (position % (2 * maxRawDataFrameQueueSize)) =
      state.published.drop position := by
  have bounded := ring.bounded
  rw [framesFrom, ring.write, distance_wrapped queue_positive reached (by omega)]
  apply List.ext_getElem (by simp)
  intro offset inside _
  simp only [List.length_map, List.length_range] at inside
  have place : position + offset < state.published.length := by omega
  have held := ring.held (position + offset) (by omega) place
  obtain ⟨frame, same⟩ := ring.framed _ (List.getElem_mem place)
  have slot : (position % (2 * maxRawDataFrameQueueSize) + offset) % maxRawDataFrameQueueSize =
      (position + offset) % maxRawDataFrameQueueSize := by
    rw [Nat.add_mod, slot_wrapped, ← Nat.add_mod]
  rw [List.getD_eq_getElem?_getD, List.getElem?_eq_getElem place, Option.getD_some, same] at held
  simp only [List.getElem_map, List.getElem_range, List.getElem_drop, slot, same]
  exact slot_frame_held _ _ frame held

theorem holds_store_other (slots : Slots) (slot other index : Nat) (word : Word)
    (words : List Word) (different : other ≠ slot) (held : Holds slots other words) :
    Holds (storeWord slots slot index word) other words := by
  intro position inside
  rw [storeWord, if_neg fun both => different both.1]
  exact held position inside

theorem holds_store_next (slots : Slots) (slot copied : Nat) (data : List Word)
    (more : copied < data.length) (held : Holds slots slot (data.take copied)) :
    Holds (storeWord slots slot copied (data.getD copied 0)) slot (data.take (copied + 1)) := by
  intro position inside
  rw [List.length_take] at inside
  have front : ∀ count, position < count → (data.take count).getD position 0 = data.getD position 0 :=
    fun count early => by
      rw [List.getD_eq_getElem?_getD, List.getElem?_take_of_lt early, List.getD_eq_getElem?_getD]
  rw [front (copied + 1) (by omega), storeWord]
  by_cases last : position = copied
  · rw [if_pos ⟨rfl, last⟩, last]
  · have before := held position (by rw [List.length_take]; omega)
    rw [if_neg fun both => last both.2, before, front copied (by omega)]

theorem Ring.move_worker {state : State} (ring : Ring state) (worker : Worker)
    (sound : worker.Sound state) : Ring { state with worker := worker } where
  write := ring.write
  read := ring.read
  ordered := ring.ordered
  bounded := ring.bounded
  kept := ring.kept
  framed := ring.framed
  held := ring.held
  worker := by cases worker <;> exact sound
  consumer := ring.consumer

theorem Ring.move_consumer {state : State} (ring : Ring state) (consumer : Consumer)
    (sound : consumer.Sound state) : Ring { state with consumer := consumer } where
  write := ring.write
  read := ring.read
  ordered := ring.ordered
  bounded := ring.bounded
  kept := ring.kept
  framed := ring.framed
  held := ring.held
  worker := ring.worker
  consumer := by cases consumer <;> exact sound

theorem next_frame_sound (state : State) (rest : List Frame) : (nextFrame rest).Sound state := by
  cases rest <;> exact trivial

theorem fills_other {state : State} (slot position : Nat)
    (fills : Fills state slot) (ordered : state.released ≤ position)
    (inside : position < state.published.length) :
    position % maxRawDataFrameQueueSize ≠ slot := by
  obtain ⟨next, room⟩ := fills
  intro same
  have equal := slot_injective position state.published.length (by omega) (by omega)
    (same.trans next)
  omega

theorem Ring.store {state : State} (ring : Ring state) (slot copied : Nat) (frame : Frame)
    (rest : List Frame) (fills : Fills state slot) (more : copied < frame.data.length)
    (held : Holds state.slots slot (frame.data.take copied)) :
    Ring { state with
      slots := storeWord state.slots slot copied (frame.data.getD copied 0)
      worker := .copying (some slot) frame rest (copied + 1) } where
  write := ring.write
  read := ring.read
  ordered := ring.ordered
  bounded := ring.bounded
  kept := ring.kept
  framed := ring.framed
  held := fun position ordered inside =>
    holds_store_other _ _ _ _ _ _ (fills_other slot position fills ordered inside)
      (ring.held position ordered inside)
  worker := ⟨fills, more, holds_store_next state.slots slot copied frame.data more held⟩
  consumer := ring.consumer

theorem Ring.publish {state : State} (ring : Ring state) (slot : Nat) (frame : Frame)
    (worker : Worker) (idle : ∀ state, worker.Sound state) (fills : Fills state slot)
    (held : Holds state.slots slot frame.data) :
    Ring { state with
      dataFrameWritePointer := (state.dataFrameWritePointer + 1) % (2 * maxRawDataFrameQueueSize)
      worker := worker
      published := state.published ++ [slotFrame state.slots slot] } := by
  have content := slot_frame_held state.slots slot frame held
  obtain ⟨next, room⟩ := fills
  have before : ∀ position < state.published.length,
      (state.published ++ [slotFrame state.slots slot]).getD position [] =
        state.published.getD position [] := fun position inside => by
    rw [List.getD_eq_getElem?_getD, List.getElem?_append_left inside, List.getD_eq_getElem?_getD]
  constructor
  · rw [ring.write, add_wrapped, List.length_append]
    rfl
  · exact ring.read
  · exact ring.ordered
  · rw [List.length_append]
    exact room
  · exact ring.kept.trans (List.prefix_append _ _)
  · intro words member
    rcases List.mem_append.mp member with old | new
    · exact ring.framed words old
    · exact ⟨frame, (List.mem_singleton.mp new).trans content⟩
  · intro position ordered inside
    rw [List.length_append, List.length_singleton] at inside
    -- the new frame is the one copied; the slots of the others are untouched
    by_cases last : position = state.published.length
    · subst last
      rw [List.getD_eq_getElem?_getD, List.getElem?_append_right (Nat.le_refl _), Nat.sub_self,
        List.getElem?_cons_zero, Option.getD_some, content, ← next]
      exact held
    · rw [before position (by omega)]
      exact ring.held position ordered (by omega)
  · exact idle _
  · have reached := ring.passed_le
    have sound := ring.consumer
    cases consumer : state.consumer with
    | idle => rw [consumer] at sound; exact sound
    | pollWrite stage => rw [consumer] at sound; exact sound
    | pollRead stage writePointer =>
        rw [consumer] at sound
        obtain ⟨all, written, pointer, ordered, bounded⟩ := sound
        exact ⟨all, written, pointer, ordered, by rw [List.length_append]; omega⟩
    | writing stage readPointer writePointer words =>
        rw [consumer] at sound
        obtain ⟨pointer, stop, ends, ordered, bounded, front⟩ := sound
        refine ⟨pointer, stop, ends, ordered, by rw [List.length_append]; omega, fun some => ?_⟩
        obtain ⟨within, read⟩ := front some
        refine ⟨within, ?_⟩
        have old := before state.passed (by omega)
        exact old.symm ▸ read
    | answered stage readPointer => rw [consumer] at sound; exact sound
    | releasing stage readPointer => rw [consumer] at sound; exact sound

theorem worker_step_ring {state : State} (ring : Ring state) (minimumFrameID : Nat)
    (after : State) (stepped : workerStep state minimumFrameID = some after) : Ring after := by
  have sound := ring.worker
  unfold workerStep at stepped
  cases worker : state.worker with
  | receiving => simp [worker] at stepped
  | testing frame rest =>
      simp only [worker, Option.some.injEq] at stepped
      subst stepped
      apply ring.move_worker _
      split_ifs with full
      · trivial
      · have room := mt ring.full_iff.mpr (by simpa using full)
        have bounded := ring.bounded
        refine ⟨⟨?_, by omega⟩, Nat.zero_le _, fun index inside => ?_⟩
        · rw [ring.write, slot_wrapped]
        · simp at inside
  | copying slot frame rest copied =>
      rw [worker] at sound
      simp only [worker] at stepped
      split_ifs at stepped with more rejected old
      · cases slot with
        | none =>
            cases stepped
            exact ring.move_worker _ trivial
        | some slot =>
            cases stepped
            exact ring.store slot copied frame rest sound.1 more sound.2.2
      · cases stepped
        exact ring.move_worker _ trivial
      · cases stepped
        exact ring.move_worker _ (next_frame_sound state rest)
      · cases stepped
        apply ring.move_worker _
        cases slot with
        | none => trivial
        | some slot =>
            obtain ⟨fills, _, held⟩ := sound
            rw [List.take_of_length_le (by omega)] at held
            exact ⟨fills, held⟩
  | publishing slot frame rest =>
      rw [worker] at sound
      simp only [worker] at stepped
      cases slot with
      | none =>
          cases stepped
          exact ring.move_worker _ (next_frame_sound state rest)
      | some slot =>
          cases stepped
          exact ring.publish slot frame (nextFrame rest) (fun state => next_frame_sound state rest)
            sound.1 sound.2

theorem capped_frames_le (bs writePointer readPointer : Nat) (framesToTarget : Int) :
    cappedFrames bs writePointer readPointer framesToTarget ≤
      nFramesInBlock bs writePointer readPointer := by
  unfold cappedFrames
  dsimp only
  split_ifs <;> omega

theorem front_whole (frame : Frame) (words : List Word) (some : words ≠ [])
    (front : words <+: frame.data) : getFrameSize words = frame.data.length := by
  obtain ⟨rest, layout⟩ := front
  cases words with
  | nil => exact absurd rfl some
  | cons head tail =>
      rw [frame.counted, ← layout]
      rfl

theorem prefix_next (words data : List Word) (front : words <+: data)
    (short : words.length < data.length) : words ++ [data.getD words.length 0] <+: data := by
  obtain ⟨rest, rfl⟩ := front
  cases rest with
  | nil => simp at short
  | cons head tail => exact ⟨tail, by simp⟩

theorem Ring.at_frame {state : State} (ring : Ring state)
    (within : state.passed < state.published.length) :
    ∃ frame : Frame, state.published[state.passed]? = some frame.data ∧
      Holds state.slots (state.passed % maxRawDataFrameQueueSize) frame.data := by
  obtain ⟨frame, same⟩ := ring.framed _ (List.getElem_mem within)
  have held := ring.held state.passed ring.ordered within
  rw [List.getD_eq_getElem _ _ within, same] at held
  exact ⟨frame, by rw [List.getElem?_eq_getElem within, same], held⟩

theorem Ring.read_word {state : State} (ring : Ring state) (words : List Word)
    (within : state.passed < state.published.length)
    (front : words <+: state.published.getD state.passed [])
    (more : words = [] ∨ words.length < getFrameSize words) :
    words ++ [state.slots (state.passed % maxRawDataFrameQueueSize) words.length] <+:
      state.published.getD state.passed [] := by
  obtain ⟨frame, here, held⟩ := ring.at_frame within
  rw [List.getD_eq_getElem?_getD, here, Option.getD_some] at front ⊢
  have long := frame.two_words
  have short : words.length < frame.data.length := by
    rcases more with none | short
    · rw [none, List.length_nil]
      omega
    · by_cases none : words = []
      · rw [none, List.length_nil]
        omega
      · rwa [front_whole frame words none front] at short
  rw [held words.length short]
  exact prefix_next words frame.data front short

theorem Ring.take_frame {state : State} (ring : Ring state) (stage : Stage)
    (stop : Nat) (words : List Word) (some : words ≠ []) (within : state.passed < stop)
    (bounded : stop ≤ state.published.length)
    (front : words <+: state.published.getD state.passed [])
    (whole : ¬ words.length < getFrameSize words) :
    Ring { state with
      consumer := .writing stage ((state.passed % (2 * maxRawDataFrameQueueSize) + 1) %
        (2 * maxRawDataFrameQueueSize)) (stop % (2 * maxRawDataFrameQueueSize)) []
      taken := state.taken ++ [words] } := by
  obtain ⟨frame, here, held⟩ := ring.at_frame (Nat.lt_of_lt_of_le within bounded)
  rw [List.getD_eq_getElem?_getD, here, Option.getD_some] at front
  have size := front_whole frame words some front
  -- a front of the frame that is not shorter is the frame
  have same : words = frame.data :=
    front.eq_of_length (Nat.le_antisymm front.length_le (by omega))
  have next : state.skipped.length + (state.taken ++ [words]).length = state.passed + 1 := by
    rw [List.length_append]
    rfl
  constructor
  · exact ring.write
  · exact ring.read
  · show state.released ≤ state.skipped.length + (state.taken ++ [words]).length
    exact next.symm ▸ Nat.le_succ_of_le ring.ordered
  · exact ring.bounded
  · obtain ⟨rest, layout⟩ := ring.kept
    have position : (state.skipped ++ state.taken).length = state.passed := List.length_append
    rw [← layout, List.getElem?_append_right (by omega), position, Nat.sub_self] at here
    obtain ⟨later, rfl⟩ : ∃ later, rest = frame.data :: later := by
      cases rest with
      | nil => cases here
      | cons first later => exact ⟨later, by rw [Option.some.inj here]⟩
    refine ⟨later, ?_⟩
    rw [← layout, same]
    simp
  · exact ring.framed
  · exact ring.held
  · exact ring.worker
  · refine ⟨?_, stop, rfl, ?_, bounded, fun none => absurd rfl none⟩
    · show _ = (state.skipped.length + (state.taken ++ [words]).length) % _
      rw [add_wrapped, next]
    · show state.skipped.length + (state.taken ++ [words]).length ≤ stop
      rw [next]
      exact within

theorem Ring.release {state : State} (ring : Ring state) (consumer : Consumer)
    (sound : consumer.Sound { state with released := state.passed }) :
    Ring (state.release (state.passed % (2 * maxRawDataFrameQueueSize)) consumer) where
  write := ring.write
  read := Nat.mod_mod _ _
  ordered := Nat.le_refl _
  bounded := Nat.le_trans ring.bounded (Nat.add_le_add_right ring.ordered _)
  kept := ring.kept
  framed := ring.framed
  held := fun position ordered inside =>
    ring.held position (Nat.le_trans ring.ordered ordered) inside
  worker := by
    have more : state.released + maxRawDataFrameQueueSize ≤
      state.passed + maxRawDataFrameQueueSize := Nat.add_le_add_right ring.ordered _
    have sound := ring.worker
    show state.worker.Sound _
    cases worker : state.worker with
    | receiving => trivial
    | testing frame rest => trivial
    | copying slot frame rest copied =>
        cases slot with
        | none => trivial
        | some slot =>
            rw [worker] at sound
            exact ⟨⟨sound.1.1, Nat.lt_of_lt_of_le sound.1.2 more⟩, sound.2⟩
    | publishing slot frame rest =>
        cases slot with
        | none => trivial
        | some slot =>
            rw [worker] at sound
            exact ⟨⟨sound.1.1, Nat.lt_of_lt_of_le sound.1.2 more⟩, sound.2⟩
  consumer := by cases consumer <;> exact sound

/-- `__synchronizeDataToConfig` passes the frames published when it read the
write pointer. -/
theorem Ring.skip {state : State} (ring : Ring state) (required : Int) (written : Nat)
    (all : state.released = state.passed) (ordered : state.passed ≤ written)
    (bounded : written ≤ state.published.length) :
    Ring { state with
      consumer := .releasing (.synchronize required) (written % (2 * maxRawDataFrameQueueSize))
      skipped := state.skipped ++ state.taken ++ (state.published.drop state.passed).take
        (written - state.passed)
      taken := [] } := by
  have position : (state.skipped ++ state.taken).length = state.passed := List.length_append
  have front : state.skipped ++ state.taken = state.published.take state.passed := by
    rw [← position]
    exact List.prefix_iff_eq_take.mp ring.kept
  -- what is passed stays a front of what was published
  have skipped : state.skipped ++ state.taken ++
      (state.published.drop state.passed).take (written - state.passed) =
        state.published.take written := by
    rw [front, ← List.take_add, Nat.add_sub_cancel' ordered]
  rw [skipped]
  have extent : (state.published.take written).length + ([] : List (List Word)).length =
      written := by
    rw [List.length_take, List.length_nil]
    omega
  constructor
  · exact ring.write
  · exact ring.read
  · show state.released ≤ (state.published.take written).length + ([] : List (List Word)).length
    omega
  · exact ring.bounded
  · rw [List.append_nil]
    exact List.take_prefix _ _
  · exact ring.framed
  · exact ring.held
  · exact ring.worker
  · show _ = ((state.published.take written).length + ([] : List (List Word)).length) % _
    rw [extent]

theorem Ring.read_pointer {state : State} (ring : Ring state)
    (all : state.released = state.passed) :
    state.dataFrameReadPointer % (2 * maxRawDataFrameQueueSize) =
      state.passed % (2 * maxRawDataFrameQueueSize) := by
  rw [ring.read, Nat.mod_mod, all]

/-- A block of frames starts where the consumer is and ends inside what is
published. -/
theorem start_block_sound (state : State) (stage : Stage) (stop : Nat)
    (ordered : state.passed ≤ stop) (bounded : stop ≤ state.published.length) :
    Consumer.Sound state (.writing stage (state.passed % (2 * maxRawDataFrameQueueSize))
      (stop % (2 * maxRawDataFrameQueueSize)) []) :=
  ⟨rfl, stop, rfl, ordered, bounded, fun none => absurd rfl none⟩

section ConsumerStep
variable {state after : State} (ring : Ring state) (stepped : consumerStep state = some after)
include ring stepped

theorem poll_write_ring (stage : Stage) (consumer : state.consumer = .pollWrite stage) :
    Ring after := by
  have sound := ring.consumer
  rw [consumer] at sound
  simp only [consumerStep, consumer, Option.some.injEq] at stepped
  subst stepped
  refine ring.move_consumer _ ⟨sound, state.published.length, ?_, ring.passed_le, Nat.le_refl _⟩
  rw [ring.write, Nat.mod_mod]

theorem poll_read_ring (stage : Stage) (writePointer : Nat)
    (consumer : state.consumer = .pollRead stage writePointer) : Ring after := by
  have sound := ring.consumer
  have reached := ring.passed_le
  rw [consumer] at sound
  obtain ⟨all, written, rfl, ordered, bounded⟩ := sound
  have near := ring.bounded
  simp only [consumerStep, consumer, ring.read_pointer all] at stepped
  cases stage with
  | synchronize required =>
      simp only [Option.some.injEq] at stepped
      subst stepped
      rw [ring.frames_from state.passed ring.ordered reached,
        distance_wrapped queue_positive ordered (by omega)]
      exact ring.skip required written all ordered bounded
  | first required =>
      split_ifs at stepped with empty
      · cases stepped
        exact ring.move_consumer _ all
      · cases stepped
        exact ring.move_consumer _
          (start_block_sound state _ state.passed (Nat.le_refl _) reached)
  | block current stop =>
      split_ifs at stepped with empty
      · cases stepped
        exact ring.move_consumer _ all
      · cases stepped
        have frames := capped_frames_le maxRawDataFrameQueueSize
          (written % (2 * maxRawDataFrameQueueSize))
          (state.passed % (2 * maxRawDataFrameQueueSize)) (stop - current)
        -- the pointers are less than a full ring apart, so the distance is the true one
        have counted : nFramesInBlock maxRawDataFrameQueueSize
            (written % (2 * maxRawDataFrameQueueSize))
            (state.passed % (2 * maxRawDataFrameQueueSize)) = written - state.passed :=
          unsigned_distance queue_positive ordered (by omega)
        rw [counted] at frames
        rw [add_wrapped]
        exact ring.move_consumer _ (start_block_sound state _ _ (Nat.le_add_right _ _) (by omega))
  | startBlock current stop => cases stepped
  | endBlock => cases stepped

theorem writing_ring (stage : Stage) (readPointer writePointer : Nat) (words : List Word)
    (consumer : state.consumer = .writing stage readPointer writePointer words) : Ring after := by
  have sound := ring.consumer
  rw [consumer] at sound
  obtain ⟨rfl, stop, rfl, ordered, bounded, front⟩ := sound
  simp only [consumerStep, consumer] at stepped
  split_ifs at stepped with done more
  · cases stepped
    exact ring.move_consumer _ rfl
  · cases stepped
    have within : state.passed < stop := by
      by_cases none : words = []
      · refine Nat.lt_of_le_of_ne ordered fun same => done ⟨none, by rw [same]⟩
      · exact (front none).1
    have read : words <+: state.published.getD state.passed [] := by
      by_cases none : words = []
      · exact none ▸ List.nil_prefix
      · exact (front none).2
    have next := ring.read_word words (Nat.lt_of_lt_of_le within bounded) read more
    rw [slot_wrapped]
    exact ring.move_consumer _ ⟨rfl, stop, rfl, ordered, bounded, fun _ => ⟨within, next⟩⟩
  · cases stepped
    have some : words ≠ [] := fun none => more (Or.inl none)
    obtain ⟨within, read⟩ := front some
    exact ring.take_frame stage stop words some within bounded read
      fun short => more (Or.inr short)

theorem releasing_ring (stage : Stage) (readPointer : Nat)
    (consumer : state.consumer = .releasing stage readPointer) : Ring after := by
  have sound := ring.consumer
  rw [consumer] at sound
  obtain rfl := sound
  simp only [consumerStep, consumer] at stepped
  have next : ∀ current stop, (nextBlock current stop
      (state.passed % (2 * maxRawDataFrameQueueSize))).Sound
        { state with released := state.passed } := by
    intro current stop
    unfold nextBlock
    split_ifs
    · rfl
    · exact ⟨rfl, state.passed, rfl, Nat.le_refl _, ring.passed_le, fun none => absurd rfl none⟩
  cases stage with
  | synchronize required => cases stepped; exact ring.release _ rfl
  | first required => cases stepped; exact ring.release _ rfl
  | startBlock current stop => cases stepped; exact ring.release _ (next current stop)
  | block current stop => cases stepped; exact ring.release _ (next current stop)
  | endBlock => cases stepped; exact ring.release _ rfl

theorem consumer_step_ring : Ring after := by
  cases consumer : state.consumer with
  | idle => simp [consumerStep, consumer] at stepped
  | pollWrite stage => exact poll_write_ring ring stepped stage consumer
  | pollRead stage writePointer => exact poll_read_ring ring stepped stage writePointer consumer
  | writing stage readPointer writePointer words =>
      exact writing_ring ring stepped stage readPointer writePointer words consumer
  | answered stage readPointer =>
      have sound := ring.consumer
      rw [consumer] at sound
      simp only [consumerStep, consumer] at stepped
      cases stage <;> cases stepped <;> exact ring.move_consumer _ sound
  | releasing stage readPointer => exact releasing_ring ring stepped stage readPointer consumer

end ConsumerStep

theorem step_ring (state : State) (action : Action) (after : State) (ring : Ring state)
    (stepped : step state action = some after) : Ring after := by
  cases action with
  | receive datagram =>
      unfold step at stepped
      cases worker : state.worker <;> simp only [worker, reduceCtorEq, Option.some.injEq] at stepped
      subst stepped
      exact ring.move_worker _ trivial
  | worker minimumFrameID => exact worker_step_ring ring minimumFrameID after stepped
  | acquire required =>
      have sound := ring.consumer
      unfold step at stepped
      cases consumer : state.consumer <;>
        simp only [consumer, reduceCtorEq, Option.some.injEq] at stepped
      subst stepped
      rw [consumer] at sound
      exact ring.move_consumer _ sound
  | consumer => exact consumer_step_ring ring stepped

def State.position (state : State) : Nat :=
  match state.consumer with
  | .writing _ readPointer _ _ => readPointer
  | .answered _ readPointer => readPointer
  | .releasing _ readPointer => readPointer
  | _ => state.dataFrameReadPointer

/-- The frames published and not yet passed, as they lie in the slots. -/
def State.waiting (state : State) : List (List Word) := framesFrom state state.position

def State.occupancy (state : State) : Nat :=
  (state.dataFrameWritePointer + 2 * maxRawDataFrameQueueSize - state.dataFrameReadPointer) %
    (2 * maxRawDataFrameQueueSize)

/-- Every frame published since the synchronization has been read once, in
order and as it was published, or waits in its slot; at most the slots are
occupied; and the number of frames `acquire` computes from the pointers it has
polled is what lies between them. -/
structure Delivered (state : State) : Prop where
  once : state.published = state.skipped ++ state.taken ++ state.waiting
  bounded : state.occupancy ≤ maxRawDataFrameQueueSize
  counted : ∀ stage writePointer, state.consumer = .pollRead stage writePointer →
    nFramesInBlock maxRawDataFrameQueueSize writePointer
        (state.dataFrameReadPointer % (2 * maxRawDataFrameQueueSize)) =
      (writePointer + 2 * maxRawDataFrameQueueSize - state.dataFrameReadPointer) %
        (2 * maxRawDataFrameQueueSize)

theorem Ring.position_passed {state : State} (ring : Ring state) :
    state.position = state.passed % (2 * maxRawDataFrameQueueSize) := by
  have sound := ring.consumer
  unfold State.position
  cases consumer : state.consumer with
  | idle =>
      rw [consumer] at sound
      exact ring.read.trans (by rw [sound])
  | pollWrite stage =>
      rw [consumer] at sound
      exact ring.read.trans (by rw [sound])
  | pollRead stage writePointer =>
      rw [consumer] at sound
      exact ring.read.trans (by rw [sound.1])
  | writing stage readPointer writePointer words => rw [consumer] at sound; exact sound.1
  | answered stage readPointer => rw [consumer] at sound; exact sound
  | releasing stage readPointer => rw [consumer] at sound; exact sound

theorem ring_delivered (state : State) (ring : Ring state) : Delivered state where
  once := by
    rw [State.waiting, ring.position_passed,
      ring.frames_from state.passed ring.ordered ring.passed_le]
    have position : (state.skipped ++ state.taken).length = state.passed := List.length_append
    have front := List.prefix_iff_eq_take.mp ring.kept
    rw [position] at front
    rw [front, List.take_append_drop]
  bounded := by
    have ordered := Nat.le_trans ring.ordered ring.passed_le
    have bounded := ring.bounded
    rw [State.occupancy, ring.write, ring.read,
      distance_wrapped queue_positive ordered ring.bounded]
    omega
  counted := by
    intro stage writePointer consumer
    have sound := ring.consumer
    rw [consumer] at sound
    obtain ⟨all, written, rfl, ordered, bounded⟩ := sound
    have near := ring.bounded
    rw [ring.read, Nat.mod_mod, all, distance_wrapped queue_positive ordered (by omega)]
    exact unsigned_distance queue_positive ordered (by omega)

/-- What was read stays read: but for the synchronization at the start of a
call of `acquire`, no step forgets a frame or skips one. -/
def ReadsOn (state : State) (action : Action) : Prop :=
  ∀ next ∈ step state action,
    (∀ required writePointer, state.consumer ≠ .pollRead (.synchronize required) writePointer) →
    next.skipped = state.skipped ∧ state.taken <+: next.taken

theorem worker_step_reads_on (state : State) (minimumFrameID : Nat) (next : State)
    (stepped : workerStep state minimumFrameID = some next) :
    next.skipped = state.skipped ∧ next.taken = state.taken := by
  unfold workerStep at stepped
  split at stepped
  · cases stepped
  · cases stepped; exact ⟨rfl, rfl⟩
  · dsimp only at stepped
    split_ifs at stepped <;> cases stepped <;> exact ⟨rfl, rfl⟩
  · split at stepped <;> cases stepped <;> exact ⟨rfl, rfl⟩

theorem consumer_step_reads_on (state : State) (next : State)
    (running : ∀ required writePointer,
      state.consumer ≠ .pollRead (.synchronize required) writePointer)
    (stepped : consumerStep state = some next) :
    next.skipped = state.skipped ∧ state.taken <+: next.taken := by
  have same : state.taken <+: state.taken := List.prefix_rfl
  unfold consumerStep at stepped
  cases consumer : state.consumer with
  | idle => simp [consumer] at stepped
  | pollWrite stage =>
      simp only [consumer] at stepped
      cases stepped
      exact ⟨rfl, same⟩
  | pollRead stage writePointer =>
      simp only [consumer] at stepped
      cases stage with
      | synchronize required => exact absurd consumer (running required writePointer)
      | first required =>
          simp only at stepped
          split_ifs at stepped <;> cases stepped <;> exact ⟨rfl, same⟩
      | block current stop =>
          simp only at stepped
          split_ifs at stepped <;> cases stepped <;> exact ⟨rfl, same⟩
      | startBlock current stop => cases stepped
      | endBlock => cases stepped
  | writing stage readPointer writePointer words =>
      simp only [consumer] at stepped
      split_ifs at stepped
      · cases stepped; exact ⟨rfl, same⟩
      · cases stepped; exact ⟨rfl, same⟩
      · cases stepped; exact ⟨rfl, List.prefix_append _ _⟩
  | answered stage readPointer =>
      simp only [consumer] at stepped
      cases stage <;> cases stepped <;> exact ⟨rfl, same⟩
  | releasing stage readPointer =>
      simp only [consumer] at stepped
      cases stage <;> cases stepped <;> exact ⟨rfl, same⟩

theorem reads_on (state : State) (action : Action) : ReadsOn state action := by
  intro next stepped running
  have same : state.taken <+: state.taken := List.prefix_rfl
  cases action with
  | receive datagram =>
      unfold step at stepped
      cases worker : state.worker <;> simp [worker] at stepped
      subst stepped
      exact ⟨rfl, same⟩
  | worker minimumFrameID =>
      obtain ⟨skipped, taken⟩ := worker_step_reads_on state minimumFrameID next stepped
      exact ⟨skipped, taken ▸ List.prefix_rfl⟩
  | acquire required =>
      unfold step at stepped
      cases consumer : state.consumer <;> simp [consumer] at stepped
      subst stepped
      exact ⟨rfl, same⟩
  | consumer => exact consumer_step_reads_on state next running stepped

end GramsTof.FrameRing
