import GramsTof.RawReader
import GramsTof.WriteRaw

/-!
What `processStep` makes of a step that `write_raw` wrote. The data file is a
sequence of whole frames: the step's own but for left-out empty ones, and the
markers. Only frames with events put anything into the output buffers, and of
these no file lacks one, so the buffers hold what was acquired.
-/

namespace GramsTof.RawRoundTrip

open RawFrame WriteRaw RawReader

/-- The frames that appear in the file for these entries. -/
def written : Writer → List Entry → List (List Word)
  | _, [] => []
  | writer, entry :: rest =>
      records entry.1 writer entry.2 ++ written (writeEntry writer entry) rest

/-- The entries that are left come in the order of their IDs. -/
structure Forward (writer : Writer) (entries : List Entry) : Prop where
  counted : ∀ entry ∈ entries, ∃ frame : Frame, entry.2 = frame.data
  started : -1 ≤ writer.lastFrameID
  later : ∀ entry ∈ entries, writer.lastFrameID < getFrameID entry.2
  increasing : entries.Pairwise fun earlier later => getFrameID earlier.2 < getFrameID later.2

theorem write_entry_keeps (writer : Writer) (entry : Entry) :
    (writeEntry writer entry).lastFrameID = getFrameID entry.2 ∧
      (writeEntry writer entry).index = writer.index ∧
      (writeEntry writer entry).stepStartOffset = writer.stepStartOffset := by
  unfold writeEntry writeFrame
  dsimp only
  split_ifs <;> exact ⟨rfl, rfl, rfl⟩

theorem write_entry_last (writer : Writer) (entry : Entry) :
    (writeEntry writer entry).lastFrameID = getFrameID entry.2 :=
  (write_entry_keeps writer entry).1

theorem Forward.tail {writer : Writer} {entry : Entry} {rest : List Entry}
    (forward : Forward writer (entry :: rest)) : Forward (writeEntry writer entry) rest where
  counted := fun other member => forward.counted other (List.mem_cons_of_mem entry member)
  started := by
    rw [write_entry_last]
    omega
  later := by
    intro other member
    rw [write_entry_last]
    exact Int.ofNat_lt.mpr (List.rel_of_pairwise_cons forward.increasing member)
  increasing := forward.increasing.of_cons

theorem frame_taken_whole (frame : Frame) : frame.data.take (getFrameSize frame.data) = frame.data :=
  List.take_of_length_le (Nat.le_of_eq frame.counted)

theorem write_entry_file (writer : Writer) (entry : Entry) (rest : List Entry)
    (forward : Forward writer (entry :: rest)) :
    (writeEntry writer entry).dataFile =
      writer.dataFile ++ (records entry.1 writer entry.2).flatten := by
  rw [writeEntry, write_frame_forward _ _ _ (forward.later entry List.mem_cons_self)]

theorem write_entries_file (writer : Writer) (entries : List Entry)
    (forward : Forward writer entries) :
    (entries.foldl writeEntry writer).dataFile =
      writer.dataFile ++ (written writer entries).flatten := by
  induction entries generalizing writer with
  | nil => exact (List.append_nil _).symm
  | cons entry rest ih =>
      rw [List.foldl_cons, ih _ forward.tail, write_entry_file writer entry rest forward, written,
        List.flatten_append, List.append_assoc]

theorem marker_counted (writer : Writer) (data : List Word) (gap : gapBefore writer data)
    (forward : writer.lastFrameID < getFrameID data) :
    (getFrameID (lostFrameBuffer writer.lastFrameID) : Int) = writer.lastFrameID + 1 ∧
      ∃ frame : Frame, lostFrameBuffer writer.lastFrameID = frame.data := by
  have bounded := frame_id_bounded data
  have positive := gap.1
  obtain ⟨first, size, events, lost⟩ := lost_frame_fields writer.lastFrameID (by omega) (by omega)
  refine ⟨first, ⟨⟨lostFrameBuffer writer.lastFrameID, ?_, ?_, ?_⟩, rfl⟩⟩
  · rw [size]
    rfl
  · rw [size, events]
  · exact (by decide : 2 ≤ maxRawDataFrameSize)

theorem mem_records (writer : Writer) (entry : Entry) (rest : List Entry)
    (forward : Forward writer (entry :: rest)) (data : List Word)
    (member : data ∈ records entry.1 writer entry.2) :
    (gapBefore writer entry.2 ∧ data = lostFrameBuffer writer.lastFrameID) ∨ data = entry.2 := by
  obtain ⟨frame, same⟩ := forward.counted entry List.mem_cons_self
  rcases List.mem_append.mp member with marker | kept
  · split_ifs at marker with gap
    · exact Or.inl ⟨gap, List.mem_singleton.mp marker⟩
    · cases marker
  · split_ifs at kept with left
    · cases kept
    · rw [same, frame_taken_whole] at kept
      exact Or.inr ((List.mem_singleton.mp kept).trans same.symm)

theorem written_counted (writer : Writer) (entries : List Entry) (forward : Forward writer entries) :
    Counted (written writer entries) := by
  induction entries generalizing writer with
  | nil => intro data member; cases member
  | cons entry rest ih =>
      intro data member
      rcases List.mem_append.mp member with here | later
      · rcases mem_records writer entry rest forward data here with ⟨gap, rfl⟩ | rfl
        · exact (marker_counted writer entry.2 gap (forward.later entry List.mem_cons_self)).2
        · exact forward.counted entry List.mem_cons_self
      · exact ih _ forward.tail data later

/-- The IDs in the file: markers fall into the gaps. -/
theorem written_increasing (writer : Writer) (entries : List Entry)
    (forward : Forward writer entries) :
    (∀ data ∈ written writer entries, writer.lastFrameID < getFrameID data) ∧
      (written writer entries).Pairwise fun earlier later =>
        getFrameID earlier < getFrameID later := by
  induction entries generalizing writer with
  | nil => exact ⟨fun data member => (by cases member), List.Pairwise.nil⟩
  | cons entry rest ih =>
      obtain ⟨beyond, ordered⟩ := ih _ forward.tail
      rw [write_entry_last] at beyond
      have onward := forward.later entry List.mem_cons_self
      have here : ∀ data ∈ records entry.1 writer entry.2,
          writer.lastFrameID < getFrameID data ∧ getFrameID data ≤ getFrameID entry.2 := by
        intro data member
        rcases mem_records writer entry rest forward data member with ⟨gap, rfl⟩ | rfl
        · have first := (marker_counted writer entry.2 gap onward).1
          exact ⟨by omega, by omega⟩
        · exact ⟨onward, Nat.le_refl _⟩
      refine ⟨fun data member => ?_, List.pairwise_append.mpr ⟨?_, ordered, ?_⟩⟩
      · rcases List.mem_append.mp member with now | later
        · exact (here data now).1
        · exact Int.lt_trans onward (beyond data later)
      · unfold records
        split_ifs with gap left
        · exact List.pairwise_singleton _ _
        · obtain ⟨frame, same⟩ := forward.counted entry List.mem_cons_self
          have first := (marker_counted writer entry.2 gap onward).1
          have apart := gap.2
          apply List.pairwise_pair.mpr
          rw [same, frame_taken_whole, ← same]
          omega
        · exact List.Pairwise.nil
        · exact List.pairwise_singleton _ _
      · intro earlier now later after
        have bound := (here earlier now).2
        have reached := beyond later after
        omega

def busy (data : List Word) : Bool := getNEvents data != 0

theorem repeats_empty (blockType : Int) (previous : FrameType) (data : List Word)
    (left : Repeats blockType previous (frameTypeOf data)) : getNEvents data = 0 := by
  obtain ⟨_, _, kind⟩ := left
  by_contra some
  unfold frameTypeOf at kind
  split_ifs at kind <;> simp at kind

theorem written_busy (writer : Writer) (entries : List Entry) (forward : Forward writer entries) :
    (written writer entries).filter busy = (entries.map Prod.snd).filter busy := by
  induction entries generalizing writer with
  | nil => rfl
  | cons entry rest ih =>
      obtain ⟨frame, same⟩ := forward.counted entry List.mem_cons_self
      have marker : ∀ lastFrameID, busy (lostFrameBuffer lastFrameID) = false := fun _ => by
        have none : field ((1 : Word) <<< 16) 0 0x7FFF = 0 := by decide
        exact bne_eq_false_iff_eq.mpr none
      have here : (records entry.1 writer entry.2).filter busy = [entry.2].filter busy := by
        unfold records
        rw [same, frame_taken_whole, ← same]
        split_ifs with gap left left
        · have empty : busy entry.2 = false :=
            bne_eq_false_iff_eq.mpr (repeats_empty _ _ _ left)
          simp [marker, empty]
        · simp [List.filter_cons, marker]
        · have empty : busy entry.2 = false :=
            bne_eq_false_iff_eq.mpr (repeats_empty _ _ _ left)
          simp [empty]
        · rfl
      rw [written, List.filter_append, ih _ forward.tail, here, List.map_cons,
        ← List.filter_append]
      rfl

def frameEvents (data : List Word) : List (Int × Word) :=
  (data.drop 2).map fun word => ((getFrameID data : Int), word)

def bufferEvents (buffer : EventBuffer) : List (Int × Word) :=
  buffer.hits.map fun hit => (buffer.bufferTMin / 1024 + hit.frameID, hit.eventWord)

/-- How frames fill buffers one after another: the buffers so far, and of the
last one the first frame ID and the free places. -/
structure Packing where
  buffers : Nat
  last : Option (Int × Nat)
  deriving DecidableEq, Repr

def room (n : Nat) : Nat := (max n 2048 / 1024 + 1) * 1024

def Packing.add (packing : Packing) (data : List Word) : Packing :=
  let n := getNEvents data
  let frameID : Int := getFrameID data
  if n = 0 then packing
  else match packing.last with
    | none => ⟨packing.buffers + 1, some (frameID, room n - n)⟩
    | some (first, free) =>
        if free < n ∨ frameID - first > 2 ^ 32 then
          ⟨packing.buffers + 1, some (frameID, room n - n)⟩
        else ⟨packing.buffers, some (first, free - n)⟩

/-- The buffers a sequence of frames needs: one more for every frame that does
not fit behind the previous one, or is more than `2 ^ 32` IDs after the first. -/
def buffersNeeded (frames : List (List Word)) : Nat :=
  (frames.foldl Packing.add ⟨0, none⟩).buffers

def Reader.buffers (reader : Reader) : List EventBuffer :=
  reader.queued ++ reader.outBuffer.toList

structure Filled (done : List (List Word)) (reader : Reader) : Prop where
  events : (Reader.buffers reader).flatMap bufferEvents = done.flatMap frameEvents
  fits : ∀ buffer ∈ Reader.buffers reader, buffer.hits.length ≤ buffer.capacity
  numbered : ∀ i (inside : i < (Reader.buffers reader).length),
    ((Reader.buffers reader)[i]).bufferSeqN = i % 2 ^ 32
  next : reader.seqN = (Reader.buffers reader).length
  current : ∀ buffer ∈ reader.outBuffer,
    buffer.bufferTMin = reader.currentBufferFirstFrame * 1024 ∧
      0 ≤ reader.currentBufferFirstFrame ∧
      ∃ data ∈ done, reader.currentBufferFirstFrame ≤ getFrameID data
  packed : done.foldl Packing.add ⟨0, none⟩ =
    ⟨(Reader.buffers reader).length,
      reader.outBuffer.map fun buffer => (reader.currentBufferFirstFrame, buffer.getFree)⟩

theorem filled_start : Filled [] Reader.start where
  events := rfl
  fits := by intro buffer member; cases member
  numbered := by intro i inside; cases inside
  next := rfl
  current := by intro buffer member; cases member
  packed := rfl

theorem room_enough (n : Nat) : n ≤ room n := by
  unfold room
  omega

theorem Filled.account {done : List (List Word)} {reader : Reader} (filled : Filled done reader)
    (data : List Word) : Filled done (reader.account data) := by
  obtain ⟨sameOut, sameQueued, sameSeqN, sameFirst⟩ := account_buffers reader data
  have sameBuffers : Reader.buffers (reader.account data) = Reader.buffers reader := by
    rw [Reader.buffers, sameOut, sameQueued, Reader.buffers]
  constructor
  · rw [sameBuffers]
    exact filled.events
  · rw [sameBuffers]
    exact filled.fits
  · intro i inside
    simp only [sameBuffers] at inside ⊢
    exact filled.numbered i inside
  · rw [sameSeqN, sameBuffers]
    exact filled.next
  · rw [sameOut, sameFirst]
    exact filled.current
  · rw [sameBuffers, sameOut, sameFirst]
    exact filled.packed

theorem no_events_shown (frame : Frame) (none : getNEvents frame.data = 0) :
    frameEvents frame.data = [] := by
  have events := frame.events_length
  rw [none, Frame.events] at events
  rw [frameEvents, List.length_eq_zero_iff.mp events, List.map_nil]

theorem Filled.empty {done : List (List Word)} {reader : Reader} (filled : Filled done reader)
    (frame : Frame) (none : getNEvents frame.data = 0) : Filled (done ++ [frame.data]) reader where
  events := by
    rw [filled.events, List.flatMap_append, List.flatMap_singleton, no_events_shown frame none,
      List.append_nil]
  fits := filled.fits
  numbered := filled.numbered
  next := filled.next
  current := by
    intro buffer member
    obtain ⟨start, positive, data, here, reached⟩ := filled.current buffer member
    exact ⟨start, positive, data, List.mem_append_left _ here, reached⟩
  packed := by
    rw [List.foldl_append, filled.packed]
    simp [Packing.add, none]

structure Chosen (done : List (List Word)) (data : List Word) (reader : Reader)
    (buffer : EventBuffer) : Prop where
  out : reader.outBuffer = some buffer
  free : buffer.hits.length + getNEvents data ≤ buffer.capacity
  start : buffer.bufferTMin = reader.currentBufferFirstFrame * 1024
  positive : 0 ≤ reader.currentBufferFirstFrame
  reached : reader.currentBufferFirstFrame ≤ getFrameID data
  events : (Reader.buffers reader).flatMap bufferEvents = done.flatMap frameEvents
  fits : ∀ other ∈ Reader.buffers reader, other.hits.length ≤ other.capacity
  numbered : ∀ i (inside : i < (Reader.buffers reader).length),
    ((Reader.buffers reader)[i]).bufferSeqN = i % 2 ^ 32
  next : reader.seqN = (Reader.buffers reader).length
  packed : (done.foldl Packing.add ⟨0, none⟩).add data =
    ⟨(Reader.buffers reader).length,
      some (reader.currentBufferFirstFrame, buffer.getFree - getNEvents data)⟩

theorem new_buffer_chosen {done : List (List Word)} {reader : Reader}
    (filled : Filled done reader) (data : List Word) (queued : Reader)
    (all : queued.queued = Reader.buffers reader) (counted : queued.seqN = reader.seqN)
    (packed : (done.foldl Packing.add ⟨0, none⟩).add data =
      ⟨(Reader.buffers reader).length + 1,
        some ((getFrameID data : Int), room (getNEvents data) - getNEvents data)⟩) :
    ∃ buffer, Chosen done data
      (queued.newBuffer (getFrameID data) (max (getNEvents data) 2048)) buffer := by
  let created := EventBuffer.create (max (getNEvents data) 2048) queued.seqN
    ((getFrameID data : Int) * 1024)
  have buffers : Reader.buffers (queued.newBuffer (getFrameID data) (max (getNEvents data) 2048)) =
      Reader.buffers reader ++ [created] := by
    rw [← all]
    rfl
  refine ⟨created, rfl, ?_, rfl, Int.natCast_nonneg _, Int.le_refl _, ?_, ?_, ?_, ?_, ?_⟩
  · have enough := room_enough (getNEvents data)
    simpa [created, EventBuffer.create, room] using enough
  · rw [buffers, List.flatMap_append, filled.events]
    simp [created, EventBuffer.create, bufferEvents]
  · rw [buffers]
    intro other member
    rcases List.mem_append.mp member with old | new
    · exact filled.fits other old
    · rw [List.mem_singleton.mp new]
      exact Nat.zero_le _
  · simp only [buffers]
    intro i inside
    rw [List.length_append, List.length_singleton] at inside
    -- the new buffer has the next number
    by_cases last : i = (Reader.buffers reader).length
    · subst last
      rw [List.getElem_append_right (Nat.le_refl _)]
      simp [created, EventBuffer.create, counted, filled.next]
    · rw [List.getElem_append_left (by omega)]
      exact filled.numbered i (by omega)
  · rw [buffers, List.length_append]
    show queued.seqN + 1 = _
    rw [counted, filled.next]
    rfl
  · rw [packed, buffers, List.length_append]
    rfl

theorem Filled.choose {done : List (List Word)} {reader : Reader} (filled : Filled done reader)
    (data : List Word) (some : getNEvents data ≠ 0)
    (later : ∀ earlier ∈ done, getFrameID earlier < getFrameID data) :
    ∃ buffer, Chosen done data (reader.chooseBuffer (getFrameID data) (getNEvents data)) buffer := by
  have packed := filled.packed
  unfold Reader.chooseBuffer
  cases out : reader.outBuffer with
  | none =>
      refine new_buffer_chosen filled data reader ?_ rfl ?_
      · rw [Reader.buffers, out]
        exact (List.append_nil _).symm
      · rw [packed, out]
        simp [Packing.add, some]
  | some buffer =>
      obtain ⟨start, positive, earlier, member, bound⟩ := filled.current buffer out
      have fits := filled.fits buffer (by rw [Reader.buffers, out]; simp)
      rw [out, Option.map_some] at packed
      dsimp only
      -- a new buffer where the events do not fit or the times would not
      by_cases full : buffer.getFree < getNEvents data ∨
          (getFrameID data : Int) - reader.currentBufferFirstFrame > 2 ^ 32
      · rw [if_pos full]
        refine new_buffer_chosen filled data (reader.queueTask buffer) ?_ rfl ?_
        · rw [Reader.buffers, out]
          rfl
        · rw [packed]
          simp only [Packing.add, if_neg some, if_pos full]
      · rw [if_neg full]
        have free : ¬ buffer.getFree < getNEvents data := fun short => full (Or.inl short)
        unfold EventBuffer.getFree at free
        have order := later earlier member
        refine ⟨buffer, out, by omega, start, positive, by omega, filled.events, filled.fits,
          filled.numbered, filled.next, ?_⟩
        rw [packed]
        simp only [Packing.add, if_neg some, if_neg full]

theorem Chosen.append {done : List (List Word)} {data : List Word} {reader : Reader}
    {buffer : EventBuffer} (chosen : Chosen done data reader buffer)
    (sized : (data.drop 2).length = getNEvents data) :
    ∃ appended, buffer.append (getFrameID data) reader.currentBufferFirstFrame (data.drop 2) =
        .ok appended ∧
      Filled (done ++ [data]) { reader with outBuffer := some appended } := by
  have free := chosen.free
  have positive := chosen.positive
  have reached := chosen.reached
  have narrow := frame_id_bounded data
  have room : ¬ buffer.capacity < buffer.hits.length + (data.drop 2).length := by omega
  have relative : (((getFrameID data - reader.currentBufferFirstFrame) % 2 ^ 64).toNat : Int) =
      getFrameID data - reader.currentBufferFirstFrame := by
    omega
  refine ⟨_, by rw [EventBuffer.append, if_neg room], ?_⟩
  generalize added : ({ buffer with
    hits := buffer.hits ++ (data.drop 2).map fun word =>
      (⟨((getFrameID data - reader.currentBufferFirstFrame) % 2 ^ 64).toNat, word⟩ : UndecodedHit)
    bufferTMax := some (((getFrameID data : Int) + 1) * 1024) } : EventBuffer) = appended
  have before : Reader.buffers reader = reader.queued ++ [buffer] := by
    rw [Reader.buffers, chosen.out]
    rfl
  have after : Reader.buffers { reader with outBuffer := some appended } =
      reader.queued ++ [appended] := rfl
  have length : (Reader.buffers { reader with outBuffer := some appended }).length =
      (Reader.buffers reader).length := by
    rw [before, after, List.length_append, List.length_append]
    rfl
  -- the relative frame number undoes the subtraction of the first frame
  have hits : bufferEvents appended = bufferEvents buffer ++ frameEvents data := by
    rw [← added]
    simp only [bufferEvents, frameEvents, List.map_append, List.map_map]
    congr 1
    apply List.map_congr_left
    intro word _
    simp only [Function.comp_apply, relative, chosen.start]
    exact Prod.ext (by simp only; omega) rfl
  constructor
  · have events := chosen.events
    rw [before, List.flatMap_append, List.flatMap_singleton] at events
    rw [after, List.flatMap_append, List.flatMap_singleton, hits, ← List.append_assoc, events,
      List.flatMap_append, List.flatMap_singleton]
  · intro other member
    rw [after] at member
    rcases List.mem_append.mp member with old | new
    · exact chosen.fits other (by rw [before]; exact List.mem_append_left _ old)
    · rw [List.mem_singleton.mp new, ← added]
      simp only [List.length_append, List.length_map]
      omega
  · intro i inside
    have numbered := chosen.numbered i (by rw [← length]; exact inside)
    simp only [before] at numbered
    simp only [after] at inside ⊢
    rw [List.getElem_append] at numbered ⊢
    split_ifs at numbered ⊢ with old
    · exact numbered
    · simp only [List.getElem_singleton] at numbered ⊢
      rw [← added]
      exact numbered
  · rw [length]
    exact chosen.next
  · intro other member
    cases member
    rw [← added]
    exact ⟨chosen.start, positive, data, by simp, reached⟩
  · rw [List.foldl_append, List.foldl_cons, List.foldl_nil, chosen.packed, length, ← added]
    simp only [Option.map_some, EventBuffer.getFree, List.length_append, List.length_map, sized]
    congr 3
    omega

theorem Filled.take {done : List (List Word)} {reader : Reader} (filled : Filled done reader)
    (frame : Frame) (later : ∀ earlier ∈ done, getFrameID earlier < getFrameID frame.data) :
    ∃ next, reader.take frame.data = .ok next ∧ Filled (done ++ [frame.data]) next := by
  have accounted := filled.account frame.data
  have sized := frame.events_length
  unfold Reader.take
  by_cases none : getNEvents frame.data = 0
  · rw [if_pos none]
    exact ⟨_, rfl, accounted.empty frame none⟩
  · obtain ⟨buffer, chosen⟩ := accounted.choose frame.data none later
    obtain ⟨appended, stored, after⟩ := chosen.append sized
    have out := chosen.out
    rw [Frame.events] at sized
    rw [if_neg none, Reader.store, sized]
    generalize (reader.account frame.data).chooseBuffer (getFrameID frame.data)
      (getNEvents frame.data) = selected at out stored after ⊢
    rw [out]
    simp only [stored, bind, Except.bind, pure, Except.pure]
    exact ⟨_, rfl, after⟩

theorem filled_all (frames done : List (List Word)) (counted : Counted frames)
    (increasing : (done ++ frames).Pairwise fun earlier later =>
      getFrameID earlier < getFrameID later) (reader : Reader) (filled : Filled done reader) :
    ∃ last, frames.foldlM Reader.take reader = .ok last ∧ Filled (done ++ frames) last := by
  induction frames generalizing done reader with
  | nil => exact ⟨reader, rfl, by rwa [List.append_nil]⟩
  | cons data rest ih =>
      obtain ⟨frame, rfl⟩ := counted data List.mem_cons_self
      have before := (List.pairwise_append.mp increasing).2.2
      obtain ⟨next, taken, more⟩ := filled.take frame
        fun earlier member => before earlier member _ List.mem_cons_self
      have layout : done ++ frame.data :: rest = done ++ [frame.data] ++ rest := by simp
      rw [layout] at increasing ⊢
      obtain ⟨last, ran, whole⟩ := ih (done ++ [frame.data])
        counted.tail increasing next more
      refine ⟨last, ?_, whole⟩
      rw [List.foldlM_cons, taken]
      exact ran

theorem finish_queued (reader : Reader) : reader.finish.queued = Reader.buffers reader :=
  finish_all reader

theorem busy_events (frames : List (List Word)) (counted : Counted frames) :
    frames.flatMap frameEvents = (frames.filter busy).flatMap frameEvents := by
  induction frames with
  | nil => rfl
  | cons data rest ih =>
      obtain ⟨frame, rfl⟩ := counted data List.mem_cons_self
      have later := ih counted.tail
      rw [List.flatMap_cons, List.filter_cons, later]
      by_cases none : getNEvents frame.data = 0
      · simp [busy, none, no_events_shown frame none]
      · simp [busy, none]

theorem busy_packing (frames : List (List Word)) (packing : Packing) :
    frames.foldl Packing.add packing = (frames.filter busy).foldl Packing.add packing := by
  induction frames generalizing packing with
  | nil => rfl
  | cons data rest ih =>
      rw [List.foldl_cons, List.filter_cons, ih]
      by_cases none : getNEvents data = 0
      · simp [busy, none, Packing.add]
      · simp [busy, none]

theorem write_entries_range (entries : List Entry) (writer : Writer) :
    (entries.foldl writeEntry writer).index = writer.index ∧
      (entries.foldl writeEntry writer).stepStartOffset = writer.stepStartOffset := by
  induction entries generalizing writer with
  | nil => exact ⟨rfl, rfl⟩
  | cons entry rest ih =>
      have here := (write_entry_keeps writer entry).2
      obtain ⟨index, offset⟩ := ih (writeEntry writer entry)
      exact ⟨index.trans here.1, offset.trans here.2⟩

theorem step_forward (step : Step) (writer : Writer) : Forward writer.openStep step.entries where
  counted := by
    intro entry member
    obtain ⟨block, inside, here⟩ := List.mem_flatMap.mp member
    obtain ⟨data, frame, rfl⟩ := List.mem_map.mp here
    exact step.counted block inside data frame
  started := Int.le_refl _
  later := by
    intro entry _
    show (-1 : Int) < _
    omega
  increasing := by
    have increasing := step.increasing
    rw [show (step.first :: step.middle ++ [step.last]).flatMap Block.frames =
      step.entries.map Prod.snd from (step_entries_frames step).symm, List.pairwise_map] at increasing
    exact increasing

theorem step_counted (step : Step) : Counted step.frames := by
  intro data member
  obtain ⟨block, inside, here⟩ := List.mem_flatMap.mp member
  exact step.counted block inside data here

theorem step_read (writer : Writer) (step : Step) (rest : List Word) :
    ∃ range : StepRange, (step.write writer).index = writer.index ++ [range] ∧
      processStep ((step.write writer).dataFile ++ rest) range.stepBegin range.stepEnd =
        ((written writer.openStep step.entries).foldlM Reader.take Reader.start).map
          Reader.finish := by
  have forward := step_forward step writer
  have counted := written_counted _ _ forward
  obtain ⟨index, offset⟩ := write_entries_range step.entries writer.openStep
  have file := write_entries_file _ _ forward
  let closing := step.entries.foldl writeEntry writer.openStep
  refine ⟨⟨closing.stepStartOffset, closing.dataFile.length, closing.stepFirstFrameID,
    closing.lastFrameID⟩, ?_, ?_⟩
  · rw [step_write, Writer.closeStep, index]
    rfl
  · have ranged : (step.write writer).dataFile ++ rest =
        writer.dataFile ++ (written writer.openStep step.entries).flatten ++ rest := by
      rw [step_write, Writer.closeStep, file]
      rfl
    have extent : closing.dataFile.length =
        writer.dataFile.length + (written writer.openStep step.entries).flatten.length := by
      rw [show closing.dataFile = _ from file, List.length_append]
      rfl
    have opened : closing.stepStartOffset = writer.dataFile.length := offset
    rw [ranged, opened, extent]
    exact process_step_frames writer.dataFile rest _ counted

theorem step_processed (writer : Writer) (step : Step) (rest : List Word) :
    ∃ (range : StepRange) (result : Reader), (step.write writer).index = writer.index ++ [range] ∧
      processStep ((step.write writer).dataFile ++ rest) range.stepBegin range.stepEnd = .ok result ∧
      result.queued.flatMap bufferEvents = step.frames.flatMap frameEvents ∧
      (∀ buffer ∈ result.queued, buffer.hits.length ≤ buffer.capacity) ∧
      (∀ i (inside : i < result.queued.length), (result.queued[i]).bufferSeqN = i % 2 ^ 32) ∧
      result.queued.length = buffersNeeded step.frames := by
  have forward := step_forward step writer
  have counted := written_counted _ _ forward
  obtain ⟨range, index, processed⟩ := step_read writer step rest
  obtain ⟨last, read, filled⟩ := filled_all _ [] counted (written_increasing _ _ forward).2
    Reader.start filled_start
  rw [read] at processed
  rw [List.nil_append] at filled
  have same := written_busy _ _ forward
  rw [step_entries_frames] at same
  refine ⟨range, last.finish, index, processed, ?_, ?_, ?_, ?_⟩
  · rw [finish_queued, filled.events, busy_events _ counted, same,
      ← busy_events _ (step_counted step)]
  · rw [finish_queued]
    exact filled.fits
  · simp only [finish_queued]
    exact filled.numbered
  · have packed := filled.packed
    rw [busy_packing, same, ← busy_packing] at packed
    rw [finish_queued, buffersNeeded, packed]

/-- Each buffer's sequence number is one more than the previous one's. -/
def Consecutive (buffers : List EventBuffer) : Prop :=
  ∀ i (inside : i + 1 < buffers.length), (buffers[i + 1]).bufferSeqN = (buffers[i]).bufferSeqN + 1

theorem consecutive_iff (buffers : List EventBuffer)
    (numbered : ∀ i (inside : i < buffers.length), (buffers[i]).bufferSeqN = i % 2 ^ 32) :
    Consecutive buffers ↔ buffers.length ≤ 2 ^ 32 := by
  constructor
  · intro consecutive
    by_contra many
    have wraps := consecutive (2 ^ 32 - 1) (by omega)
    rw [numbered _ (by omega), numbered _ (by omega)] at wraps
    omega
  · intro few i inside
    rw [numbered _ inside, numbered _ (by omega)]
    omega

/-- The events of a step come back once each, in order, with their words and
frame IDs, and no buffer is overrun; the buffers are numbered consecutively
exactly for steps that need no more of them than an `unsigned` can count. -/
theorem step_round_trip (writer : Writer) (step : Step) (rest : List Word) :
    ∃ range result, (step.write writer).index = writer.index ++ [range] ∧
      processStep ((step.write writer).dataFile ++ rest) range.stepBegin range.stepEnd = .ok result ∧
      result.queued.flatMap bufferEvents = step.frames.flatMap frameEvents ∧
      (∀ buffer ∈ result.queued, buffer.hits.length ≤ buffer.capacity) ∧
      (Consecutive result.queued ↔ buffersNeeded step.frames ≤ 2 ^ 32) := by
  obtain ⟨range, result, index, processed, events, fits, numbered, needed⟩ :=
    step_processed writer step rest
  refine ⟨range, result, index, processed, events, fits, ?_⟩
  rw [consecutive_iff _ numbered, needed]

def Block.single (data : List Word) : Block := ⟨1, 0, 1, fun _ index => data.getD index 0⟩

theorem single_frames (frame : Frame) : (Block.single frame.data).frames = [frame.data] := by
  have content : slotFrame (Block.single frame.data).slots 0 = frame.data :=
    slot_frame_held _ 0 frame fun index inside => rfl
  have one : (1 % (2 * maxRawDataFrameQueueSize) + 2 * maxRawDataFrameQueueSize -
      0 % (2 * maxRawDataFrameQueueSize)) % (2 * maxRawDataFrameQueueSize) = 1 := by decide
  have first : (0 % (2 * maxRawDataFrameQueueSize) + 0) % maxRawDataFrameQueueSize = 0 := by decide
  have frames : (Block.single frame.data).frames =
      [slotFrame (Block.single frame.data).slots 0] := by
    simp only [Block.frames, Block.single, one, List.range_one, List.map_cons, List.map_nil, first]
  rw [frames, content]

def emptyBlock (blockType : Int) : Block := ⟨blockType, 0, 0, fun _ _ => 0⟩

theorem single_blocks_frames (frames : List (List Word)) (counted : Counted frames) :
    (emptyBlock 0 :: frames.map Block.single ++ [emptyBlock 2]).flatMap Block.frames = frames := by
  have middle : (frames.map Block.single).flatMap Block.frames = frames := by
    rw [List.flatMap_map]
    induction frames with
    | nil => rfl
    | cons data rest ih =>
        obtain ⟨frame, rfl⟩ := counted data List.mem_cons_self
        rw [List.flatMap_cons, single_frames,
          ih counted.tail]
        rfl
  rw [List.cons_append, List.flatMap_cons, List.flatMap_append, middle]
  exact List.append_nil _

/-- The step that sends the given frames one a block. -/
def Step.singly (frames : List (List Word)) (counted : Counted frames)
    (increasing : frames.Pairwise fun earlier later => getFrameID earlier < getFrameID later) :
    Step where
  first := emptyBlock 0
  middle := frames.map Block.single
  last := emptyBlock 2
  opens := rfl
  runs := by
    intro block member
    obtain ⟨data, _, rfl⟩ := List.mem_map.mp member
    rfl
  closes := rfl
  counted := by
    intro block member data inside
    have here := List.mem_flatMap.mpr ⟨block, member, inside⟩
    rw [single_blocks_frames frames counted] at here
    exact counted data here
  increasing := by
    rw [single_blocks_frames frames counted]
    exact increasing

theorem singly_frames (frames : List (List Word)) (counted : Counted frames)
    (increasing : frames.Pairwise fun earlier later => getFrameID earlier < getFrameID later) :
    (Step.singly frames counted increasing).frames = frames :=
  single_blocks_frames frames counted

/-- A frame of 2048 events: two of them do not fit into one buffer. -/
def longFrame (frameID : Nat) : List Word :=
  [((2050 : Word) <<< 36) ||| UInt64.ofNat frameID, 2048] ++ List.replicate 2048 0

theorem long_frame_fields (frameID : Nat) (narrow : frameID < 2 ^ 36) :
    getFrameID (longFrame frameID) = frameID ∧ getFrameSize (longFrame frameID) = 2050 ∧
      getNEvents (longFrame frameID) = 2048 ∧ (longFrame frameID).length = 2050 := by
  have word : ((longFrame frameID).getD 0 0).toNat = 2050 * 2 ^ 36 + frameID :=
    header_number 2050 frameID (by decide) narrow
  have events : field (2048 : Word) 0 0x7FFF = 2048 := by decide
  refine ⟨?_, ?_, events, ?_⟩
  · rw [frame_id_number, word]
    omega
  · rw [frame_size_number, word]
    omega
  · rw [longFrame, List.length_append, List.length_replicate]
    rfl

theorem long_frames_counted (count : Nat) (narrow : count ≤ 2 ^ 36) :
    Counted ((List.range count).map longFrame) := by
  intro data member
  obtain ⟨frameID, among, rfl⟩ := List.mem_map.mp member
  obtain ⟨_, size, events, length⟩ :=
    long_frame_fields frameID (Nat.lt_of_lt_of_le (List.mem_range.mp among) narrow)
  exact ⟨⟨longFrame frameID, by rw [length, size], by rw [size, events],
    by rw [length]; decide⟩, rfl⟩

theorem long_frames_increasing (count : Nat) (narrow : count ≤ 2 ^ 36) :
    ((List.range count).map longFrame).Pairwise fun earlier later =>
      getFrameID earlier < getFrameID later := by
  rw [List.pairwise_map]
  refine List.pairwise_lt_range.imp_of_mem fun {earlier later} first second order => ?_
  have narrowly := fun frameID (member : frameID ∈ List.range count) =>
    (long_frame_fields frameID (Nat.lt_of_lt_of_le (List.mem_range.mp member) narrow)).1
  rw [narrowly earlier first, narrowly later second]
  exact order

def longStep (count : Nat) (narrow : count ≤ 2 ^ 36) : Step :=
  Step.singly ((List.range count).map longFrame) (long_frames_counted count narrow)
    (long_frames_increasing count narrow)

/-- A full last buffer has 1024 places left, too few for 2048 events. -/
theorem add_long (packing : Packing) (data : List Word) (events : getNEvents data = 2048)
    (last : ∀ first free, packing.last = some (first, free) → free = 1024) :
    packing.add data = ⟨packing.buffers + 1, some (getFrameID data, 1024)⟩ := by
  obtain ⟨buffers, place⟩ := packing
  rw [Packing.add, events]
  cases place with
  | none => rfl
  | some place =>
      obtain ⟨first, free⟩ := place
      obtain rfl := last first free rfl
      rfl

theorem long_step_buffers (count : Nat) (narrow : count ≤ 2 ^ 36) :
    buffersNeeded (longStep count narrow).frames = count := by
  have packed : ∀ count ≤ 2 ^ 36,
      (((List.range count).map longFrame).foldl Packing.add ⟨0, none⟩).buffers = count ∧
        ∀ first free, (((List.range count).map longFrame).foldl Packing.add ⟨0, none⟩).last =
          some (first, free) → free = 1024 := by
    intro count
    induction count with
    | zero => exact fun _ => ⟨rfl, fun first free last => by cases last⟩
    | succ count ih =>
        intro narrow
        obtain ⟨buffers, last⟩ := ih (by omega)
        obtain ⟨_, _, events, _⟩ := long_frame_fields count (by omega)
        rw [List.range_succ, List.map_append, List.foldl_append, List.map_singleton,
          List.foldl_cons, List.foldl_nil, add_long _ _ events last]
        refine ⟨congrArg Nat.succ buffers, fun first free last => ?_⟩
        cases last
        rfl
  rw [longStep, singly_frames]
  exact (packed count narrow).1

/-- With one buffer more than an `unsigned` counts, the last number is 0 again. -/
theorem long_step_renumbered :
    ∃ range result,
      ((longStep (2 ^ 32 + 1) (by decide)).write (Writer.start (List.replicate 8 0))).index =
        [range] ∧
      processStep ((longStep (2 ^ 32 + 1) (by decide)).write
        (Writer.start (List.replicate 8 0))).dataFile range.stepBegin range.stepEnd = .ok result ∧
      ¬ Consecutive result.queued := by
  obtain ⟨range, result, index, processed, _, _, numbered, needed⟩ :=
    step_processed (Writer.start (List.replicate 8 0)) (longStep (2 ^ 32 + 1) (by decide)) []
  rw [List.append_nil] at processed
  refine ⟨range, result, index, processed, ?_⟩
  rw [consecutive_iff _ numbered, needed, long_step_buffers]
  decide

end GramsTof.RawRoundTrip
