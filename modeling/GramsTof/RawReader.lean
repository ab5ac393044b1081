import GramsTof.RawFrame

/-!
`PETSYS::RawReader::processStep` up to the pool: the frames of a step are read
from the data file, accounted, and their events collected in buffers that are
queued when they are full or cover too much time. `assert`, and a write past
the capacity of a buffer, end the model with a fault. Offsets in the data file
are counted in words. Decoding and the printed report are left out.
-/

namespace GramsTof.RawReader

open RawFrame

/-- Both members are `u_int64_t`. -/
structure UndecodedHit where
  frameID : Nat
  eventWord : Word
  deriving DecidableEq, Repr

/-- `hits` is the used part. `bufferTMax` has no value before `setTMax`. -/
structure EventBuffer where
  bufferSeqN : Nat
  bufferTMin : Int
  bufferTMax : Option Int
  capacity : Nat
  hits : List UndecodedHit
  deriving DecidableEq, Repr

/-- The constructor. Its parameter `seqN` is an `unsigned`. -/
def EventBuffer.create (initialCapacity seqN : Nat) (tMin : Int) : EventBuffer :=
  { bufferSeqN := seqN % 2 ^ 32
    bufferTMin := tMin
    bufferTMax := none
    capacity := (initialCapacity / 1024 + 1) * 1024
    hits := [] }

def EventBuffer.getFree (buffer : EventBuffer) : Nat := buffer.capacity - buffer.hits.length

inductive ReadFault where
  | shortRead
  | oversizedFrame
  | pastCapacity
  deriving DecidableEq, Repr

/-- The variables of `processStep`, and the buffers given to `queueTask`. -/
structure Reader where
  outBuffer : Option EventBuffer
  seqN : Nat
  currentBufferFirstFrame : Int
  lastFrameID : Int
  lastFrameWasLost0 : Bool
  nFrames : Int
  nFramesLost0 : Int
  nFramesLostN : Int
  nEventsNoLost : Int
  nEventsSomeLost : Int
  queued : List EventBuffer
  deriving DecidableEq, Repr

def Reader.start : Reader :=
  { outBuffer := none
    seqN := 0
    currentBufferFirstFrame := 0
    lastFrameID := -1
    lastFrameWasLost0 := false
    nFrames := 0
    nFramesLost0 := 0
    nFramesLostN := 0
    nEventsNoLost := 0
    nEventsSomeLost := 0
    queued := [] }

/-- `readFromDataFile` and the `assert` after it. -/
def readFromDataFile (file : List Word) (position count : Nat) : Except ReadFault (List Word) :=
  let words := (file.drop position).take count
  if words.length = count then .ok words else .error .shortRead

def Reader.account (reader : Reader) (header : List Word) : Reader :=
  let n : Int := getNEvents header
  let frameID : Int := getFrameID header
  let lastFrameID := if reader.lastFrameID = -1 then frameID - 1 else reader.lastFrameID
  let frameLost := getFrameLost header
  -- an `int`, of a difference of two `long long`
  let skippedFrames := ((frameID - lastFrameID) - 1).bmod (2 ^ 32)
  let reader := if frameID ≠ lastFrameID + 1 then
      { reader with
        nFrames := reader.nFrames + skippedFrames
        nFramesLost0 := reader.nFramesLost0 + if reader.lastFrameWasLost0 then skippedFrames else 0 }
    else reader
  { reader with
    nFrames := reader.nFrames + 1
    nFramesLost0 := reader.nFramesLost0 + if frameLost = true ∧ n = 0 then 1 else 0
    nFramesLostN := reader.nFramesLostN + if frameLost = true ∧ n ≠ 0 then 1 else 0
    nEventsSomeLost := reader.nEventsSomeLost + if frameLost then n else 0
    nEventsNoLost := reader.nEventsNoLost + if frameLost then 0 else n
    lastFrameWasLost0 := frameLost && n == 0
    lastFrameID := frameID }

def Reader.newBuffer (reader : Reader) (frameID : Int) (allocSize : Nat) : Reader :=
  { reader with
    currentBufferFirstFrame := frameID
    outBuffer := some (EventBuffer.create allocSize reader.seqN (frameID * 1024))
    seqN := reader.seqN + 1 }

def Reader.queueTask (reader : Reader) (buffer : EventBuffer) : Reader :=
  { reader with queued := reader.queued ++ [buffer] }

def Reader.chooseBuffer (reader : Reader) (frameID : Int) (n : Nat) : Reader :=
  let allocSize := max n 2048
  match reader.outBuffer with
  | none => reader.newBuffer frameID allocSize
  | some outBuffer =>
      if outBuffer.getFree < n ∨ frameID - reader.currentBufferFirstFrame > 2 ^ 32 then
        (reader.queueTask outBuffer).newBuffer frameID allocSize
      else reader

/-- The loop over the events of a frame, and the new fill level. -/
def EventBuffer.append (buffer : EventBuffer) (frameID firstFrame : Int) (events : List Word) :
    Except ReadFault EventBuffer :=
  if buffer.capacity < buffer.hits.length + events.length then .error .pastCapacity
  else .ok { buffer with
    hits := buffer.hits ++ events.map fun word => ⟨((frameID - firstFrame) % 2 ^ 64).toNat, word⟩
    bufferTMax := some ((frameID + 1) * 1024) }

def Reader.store (reader : Reader) (frameID : Int) (events : List Word) :
    Except ReadFault Reader := do
  let reader := reader.chooseBuffer frameID events.length
  match reader.outBuffer with
  | none => return reader
  | some outBuffer =>
      let outBuffer ← outBuffer.append frameID reader.currentBufferFirstFrame events
      return { reader with outBuffer := some outBuffer }

/-- One turn of the loop, with the position after it. -/
def readFrame (file : List Word) (position : Nat) (reader : Reader) :
    Except ReadFault (Nat × Reader) := do
  let header ← readFromDataFile file position 2
  let n := getNEvents header
  if maxRawDataFrameSize < n + 2 then throw .oversizedFrame
  let reader := reader.account header
  if n = 0 then return (position + 2, reader)
  let events ← readFromDataFile file (position + 2) n
  let reader ← reader.store (getFrameID header) events
  return (position + 2 + n, reader)

/-- The loop; every turn reads two words or more, which bounds `fuel`. -/
def readLoop (file : List Word) (stepEnd : Nat) : Nat → Nat → Reader → Except ReadFault Reader
  | 0, _, reader => .ok reader
  | fuel + 1, position, reader =>
      if position < stepEnd then do
        let (position, reader) ← readFrame file position reader
        readLoop file stepEnd fuel position reader
      else .ok reader

def Reader.finish (reader : Reader) : Reader :=
  match reader.outBuffer with
  | none => reader
  | some outBuffer => { reader.queueTask outBuffer with outBuffer := none }

def processStep (file : List Word) (stepBegin stepEnd : Nat) : Except ReadFault Reader := do
  let reader ← readLoop file stepEnd (stepEnd - stepBegin) stepBegin Reader.start
  return reader.finish

/-- What a turn does with a frame that is all there. -/
def Reader.take (reader : Reader) (data : List Word) : Except ReadFault Reader :=
  if getNEvents data = 0 then .ok (reader.account data)
  else (reader.account data).store (getFrameID data) (data.drop 2)

theorem read_inside (file : List Word) (position count : Nat)
    (inside : position + count ≤ file.length) :
    readFromDataFile file position count = .ok ((file.drop position).take count) := by
  have whole : ((file.drop position).take count).length = count := by
    rw [List.length_take, List.length_drop]
    omega
  rw [readFromDataFile, if_pos whole]

theorem header_fields (data : List Word) :
    getFrameID (data.take 2) = getFrameID data ∧ getNEvents (data.take 2) = getNEvents data ∧
      getFrameLost (data.take 2) = getFrameLost data := by
  have first : (data.take 2).getD 0 0 = data.getD 0 0 := by
    rw [List.getD_eq_getElem?_getD, List.getElem?_take_of_lt (by decide),
      List.getD_eq_getElem?_getD]
  have second : (data.take 2).getD 1 0 = data.getD 1 0 := by
    rw [List.getD_eq_getElem?_getD, List.getElem?_take_of_lt (by decide),
      List.getD_eq_getElem?_getD]
  exact ⟨by rw [getFrameID, first, getFrameID], by rw [getNEvents, second, getNEvents],
    by rw [getFrameLost, second, getFrameLost]⟩

theorem read_frame_at (front rest : List Word) (frame : Frame) (reader : Reader) :
    readFrame (front ++ frame.data ++ rest) front.length reader =
      (reader.take frame.data).map fun next => (front.length + frame.data.length, next) := by
  have long := frame.two_words
  have events := frame.events_length
  have counted := frame.counted
  have sized := frame.sized
  have bounded := frame.bounded
  have extent : (front ++ frame.data ++ rest).length =
      front.length + frame.data.length + rest.length := by
    simp only [List.length_append]
  have from' : (front ++ frame.data ++ rest).drop front.length = frame.data ++ rest := by
    rw [List.append_assoc, List.drop_left]
  obtain ⟨sameID, sameEvents, sameLost⟩ := header_fields frame.data
  have head : readFromDataFile (front ++ frame.data ++ rest) front.length 2 =
      .ok (frame.data.take 2) := by
    rw [read_inside _ _ _ (by omega), from', List.take_append_of_le_length long]
  have account : reader.account (frame.data.take 2) = reader.account frame.data := by
    simp only [Reader.account, sameID, sameEvents, sameLost]
  have tail : readFromDataFile (front ++ frame.data ++ rest) (front.length + 2)
      (getNEvents frame.data) = .ok (frame.data.drop 2) := by
    have later : (front ++ frame.data ++ rest).drop (front.length + 2) =
        frame.data.drop 2 ++ rest := by
      rw [← List.drop_drop, from', List.drop_append_of_le_length long]
    rw [read_inside _ _ _ (by omega), later]
    rw [Frame.events] at events
    rw [← events, List.take_left]
  rw [readFrame, head, Reader.take]
  simp only [bind, Except.bind, pure, Except.pure, sameID, sameEvents, account]
  have small : ¬ maxRawDataFrameSize < getNEvents frame.data + 2 := by omega
  rw [if_neg small]
  by_cases none : getNEvents frame.data = 0
  · rw [if_pos none, if_pos none]
    have two : frame.data.length = 2 := by omega
    rw [two]
    rfl
  · rw [if_neg none, if_neg none]
    simp only [tail]
    have next : front.length + 2 + getNEvents frame.data = front.length + frame.data.length := by
      omega
    rw [next]
    cases (reader.account frame.data).store (getFrameID frame.data) (frame.data.drop 2) <;> rfl

/-- Every one of these is a frame whose header counts its words. -/
def Counted (records : List (List Word)) : Prop :=
  ∀ data ∈ records, ∃ frame : Frame, data = frame.data

theorem Counted.tail {data : List Word} {rest : List (List Word)}
    (counted : Counted (data :: rest)) : Counted rest :=
  fun other member => counted other (List.mem_cons_of_mem data member)

theorem read_loop_frames (front rest : List Word) (records : List (List Word))
    (counted : Counted records) (fuel : Nat) (enough : records.length ≤ fuel) (reader : Reader) :
    readLoop (front ++ records.flatten ++ rest) (front.length + records.flatten.length) fuel
      front.length reader = records.foldlM Reader.take reader := by
  induction records generalizing front fuel reader with
  | nil =>
      cases fuel with
      | zero => rfl
      | succ fuel =>
          rw [readLoop, if_neg (by simp)]
          rfl
  | cons data later ih =>
      obtain ⟨fuel, rfl⟩ := Nat.exists_eq_succ_of_ne_zero
        (Nat.ne_of_gt (Nat.lt_of_lt_of_le (Nat.zero_lt_succ later.length) enough))
      obtain ⟨frame, rfl⟩ := counted data List.mem_cons_self
      have long := frame.two_words
      have layout : front ++ (frame.data :: later).flatten ++ rest =
          front ++ frame.data ++ (later.flatten ++ rest) := by
        simp only [List.flatten_cons, List.append_assoc]
      have extent : front.length + (frame.data :: later).flatten.length =
          (front ++ frame.data).length + later.flatten.length := by
        simp only [List.flatten_cons, List.length_append]
        omega
      rw [readLoop, if_pos (by rw [List.flatten_cons, List.length_append]; omega), layout,
        read_frame_at, List.foldlM_cons, extent]
      cases next : reader.take frame.data with
      | error fault => rfl
      | ok taken =>
          have remaining := ih (front ++ frame.data) counted.tail fuel
            (Nat.le_of_succ_le_succ enough) taken
          rw [List.append_assoc (front ++ frame.data), List.length_append] at remaining
          rw [List.length_append]
          exact remaining

theorem counted_length (records : List (List Word)) (counted : Counted records) :
    records.length ≤ records.flatten.length := by
  induction records with
  | nil => exact Nat.le_refl 0
  | cons data later ih =>
      obtain ⟨frame, rfl⟩ := counted data List.mem_cons_self
      have long := frame.two_words
      have remaining := ih counted.tail
      rw [List.flatten_cons, List.length_append, List.length_cons]
      omega

theorem process_step_frames (front rest : List Word) (records : List (List Word))
    (counted : Counted records) :
    processStep (front ++ records.flatten ++ rest) front.length
        (front.length + records.flatten.length) =
      (records.foldlM Reader.take Reader.start).map Reader.finish := by
  rw [processStep, Nat.add_sub_cancel_left, read_loop_frames front rest records counted _
    (counted_length records counted)]
  cases records.foldlM Reader.take Reader.start <;> rfl

theorem bind_ok {Fault Value Next : Type} {first : Except Fault Value}
    {rest : Value → Except Fault Next} {result : Next} (ran : first >>= rest = .ok result) :
    ∃ value, first = .ok value ∧ rest value = .ok result := by
  cases first with
  | error fault => cases ran
  | ok value => exact ⟨value, rfl, ran⟩

theorem account_buffers (reader : Reader) (data : List Word) :
    (reader.account data).outBuffer = reader.outBuffer ∧
      (reader.account data).queued = reader.queued ∧
      (reader.account data).seqN = reader.seqN ∧
      (reader.account data).currentBufferFirstFrame = reader.currentBufferFirstFrame := by
  unfold Reader.account
  dsimp only
  split_ifs <;> exact ⟨rfl, rfl, rfl, rfl⟩

theorem finish_all (reader : Reader) :
    reader.finish.queued = reader.queued ++ reader.outBuffer.toList := by
  unfold Reader.finish
  cases reader.outBuffer with
  | none => exact (List.append_nil _).symm
  | some buffer => rfl

/-- The buffers so far carry the numbers from 0, each as an `unsigned`. -/
structure Numbered (reader : Reader) : Prop where
  next : reader.seqN = (reader.queued ++ reader.outBuffer.toList).length
  numbers : (reader.queued ++ reader.outBuffer.toList).map EventBuffer.bufferSeqN =
    (List.range reader.seqN).map (· % 2 ^ 32)

end GramsTof.RawReader
