import GramsTof.RawRoundTrip

/-!
The frame totals of a step at its two ends: what `write_raw` counted while it
wrote the step, and what `processStep` counts and infers from the file. Where
IDs are missing, the reader takes the missing frames for lost ones exactly if
the frame before them was lost as a whole.
-/

namespace GramsTof.FrameAccounting

open RawFrame WriteRaw RawReader RawRoundTrip

/-- All frames, those that lost all their events, those that lost some. -/
structure Totals where
  frames : Int
  lost0 : Int
  lostN : Int
  deriving DecidableEq, Repr

def writerTotals (writer : Writer) : Totals :=
  ⟨writer.stepAllFrames, writer.stepLostFrames0, writer.stepLostFramesN⟩

def readerTotals (reader : Reader) : Totals :=
  ⟨reader.nFrames, reader.nFramesLost0, reader.nFramesLostN⟩

/-- `acquire` opens and closes a step with blocks that hold no frame. -/
structure AcquiredStep extends Step where
  firstEmpty : first.frames = []
  lastEmpty : last.frames = []

/-- The frame continues a run of empty frames, and is left out. -/
def Continues (previous data : List Word) : Prop :=
  getFrameID data = getFrameID previous + 1 ∧ Repeats 1 (frameTypeOf previous) (frameTypeOf data)

instance (previous data : List Word) : Decidable (Continues previous data) :=
  inferInstanceAs (Decidable (_ ∧ _))

/-- The reader counts the frames up to this one as the writer did: neither the
`leftOut` ones before it nor a gap exceed an `int`, and behind a gap comes no
normal empty frame, which would be left out as if it were lost. -/
def Inferable (leftOut : Nat) (previous data : List Word) : Prop :=
  if getFrameID data = getFrameID previous + 1 then
    Continues previous data ∨ leftOut < 2 ^ 31
  else
    frameTypeOf data ≠ .allLost ∧ leftOut < 2 ^ 31 ∧
      getFrameID data < getFrameID previous + 2 + 2 ^ 31

instance (leftOut : Nat) (previous data : List Word) :
    Decidable (Inferable leftOut previous data) := by
  unfold Inferable
  infer_instance

/-- The frames behind `previous`, with the number of frames left out before
them; none may be left out at the end. -/
def Accountable : Nat → List Word → List (List Word) → Prop
  | leftOut, _, [] => leftOut = 0
  | leftOut, previous, data :: rest =>
      Inferable leftOut previous data ∧
        Accountable (if Continues previous data then leftOut + 1 else 0) data rest

def StepAccountable : List (List Word) → Prop
  | [] => True
  | first :: rest => Accountable 0 first rest

theorem zero_data_iff (data : List Word) :
    frameTypeOf data = .zeroData ↔ getFrameLost data = true ∧ getNEvents data = 0 := by
  unfold frameTypeOf
  split_ifs with lost none none <;> simp [lost, none]

theorem all_lost_iff (data : List Word) :
    frameTypeOf data = .allLost ↔ getFrameLost data = false ∧ getNEvents data = 0 := by
  unfold frameTypeOf
  split_ifs with lost none none <;> simp [lost, none]

def skippedFrames (reader : Reader) (data : List Word) : Int :=
  if reader.lastFrameID = -1 then 0
  else ((getFrameID data - reader.lastFrameID) - 1).bmod (2 ^ 32)

/-- The accounting of a frame, whatever becomes of its events. -/
structure Accounted (reader : Reader) (data : List Word) (next : Reader) : Prop where
  last : next.lastFrameID = getFrameID data
  wasLost0 : next.lastFrameWasLost0 = true ↔ frameTypeOf data = .zeroData
  frames : next.nFrames = reader.nFrames + skippedFrames reader data + 1
  lost0 : next.nFramesLost0 = reader.nFramesLost0 +
    (if reader.lastFrameWasLost0 then skippedFrames reader data else 0) +
    if frameTypeOf data = .zeroData then 1 else 0
  lostN : next.nFramesLostN = reader.nFramesLostN +
    if getFrameLost data = true ∧ getNEvents data ≠ 0 then 1 else 0

theorem account_accounted (reader : Reader) (data : List Word) :
    Accounted reader data (reader.account data) := by
  constructor
  · rfl
  · simp [Reader.account, zero_data_iff]
  · simp only [Reader.account, skippedFrames]
    split_ifs with started skipped skipped <;> simp_all
  · simp only [Reader.account, skippedFrames, zero_data_iff]
    split_ifs <;> simp_all
  · simp only [Reader.account]
    split_ifs <;> simp_all

theorem choose_totals (reader : Reader) (frameID : Int) (n : Nat) :
    (reader.chooseBuffer frameID n).lastFrameID = reader.lastFrameID ∧
      (reader.chooseBuffer frameID n).lastFrameWasLost0 = reader.lastFrameWasLost0 ∧
      readerTotals (reader.chooseBuffer frameID n) = readerTotals reader := by
  unfold Reader.chooseBuffer
  cases reader.outBuffer with
  | none => exact ⟨rfl, rfl, rfl⟩
  | some buffer =>
      dsimp only
      split_ifs <;> exact ⟨rfl, rfl, rfl⟩

theorem store_totals (reader next : Reader) (frameID : Int) (events : List Word)
    (stored : reader.store frameID events = .ok next) :
    next.lastFrameID = reader.lastFrameID ∧ next.lastFrameWasLost0 = reader.lastFrameWasLost0 ∧
      readerTotals next = readerTotals reader := by
  have chosen := choose_totals reader frameID events.length
  unfold Reader.store at stored
  generalize reader.chooseBuffer frameID events.length = selected at stored chosen
  cases out : selected.outBuffer with
  | none =>
      simp only [out] at stored
      cases stored
      exact chosen
  | some buffer =>
      simp only [out] at stored
      obtain ⟨filled, _, returned⟩ := bind_ok stored
      cases returned
      exact chosen

theorem take_accounted (reader next : Reader) (data : List Word)
    (taken : reader.take data = .ok next) : Accounted reader data next := by
  have accounted := account_accounted reader data
  unfold Reader.take at taken
  split_ifs at taken with none
  · cases taken
    exact accounted
  · obtain ⟨last, wasLost0, totals⟩ := store_totals _ _ _ _ taken
    obtain ⟨frames, lost0, lostN⟩ := Totals.mk.inj totals
    exact ⟨last.trans accounted.last, by rw [wasLost0]; exact accounted.wasLost0,
      frames.trans accounted.frames, lost0.trans accounted.lost0, lostN.trans accounted.lostN⟩

/-- The writer after a frame, as far as it counts. -/
structure Counts (writer : Writer) (data : List Word) (next : Writer) : Prop where
  last : next.lastFrameID = getFrameID data
  kind : next.lastFrameType = frameTypeOf data
  frames : next.stepAllFrames = writer.stepAllFrames + skippedBefore writer data + 1
  lost0 : next.stepLostFrames0 = writer.stepLostFrames0 + skippedBefore writer data +
    if frameTypeOf data = .zeroData then 1 else 0
  lostN : next.stepLostFramesN = writer.stepLostFramesN +
    if getFrameLost data = true ∧ getNEvents data ≠ 0 then 1 else 0

theorem write_counts (blockType : Int) (writer : Writer) (data : List Word)
    (forward : writer.lastFrameID < getFrameID data) :
    Counts writer data (writeFrame blockType writer data) := by
  rw [write_frame_forward blockType writer data forward]
  exact ⟨rfl, rfl, rfl, by simp only [zero_data_iff], rfl⟩

def leftOut (writer : Writer) (reader : Reader) : Int := writer.lastFrameID - reader.lastFrameID

def missed (writer : Writer) (reader : Reader) : Int :=
  writer.stepAllFrames - reader.nFrames - leftOut writer reader

/-- Frames the reader counts, or will count, as lost, and the writer did not. -/
def overcounted (writer : Writer) (reader : Reader) : Int :=
  reader.nFramesLost0 + (if reader.lastFrameWasLost0 then leftOut writer reader else 0) -
    writer.stepLostFrames0

def Exact (writer : Writer) (reader : Reader) : Prop :=
  missed writer reader = 0 ∧ overcounted writer reader = 0

/-- The two ends behind the same frame. Both errors only grow, the second as
long as the first is zero. -/
structure Tracks (writer : Writer) (reader : Reader) : Prop where
  started : 0 ≤ reader.lastFrameID
  behind : 0 ≤ leftOut writer reader
  lostN : reader.nFramesLostN = writer.stepLostFramesN
  missed : 0 ≤ missed writer reader
  overcounted : FrameAccounting.missed writer reader = 0 → 0 ≤ overcounted writer reader
  lostRun : writer.lastFrameType = .zeroData → reader.lastFrameWasLost0 = true
  emptyRun : Exact writer reader → writer.lastFrameType = .allLost →
    reader.lastFrameWasLost0 = false

theorem truncated (skipped : Int) (positive : 0 ≤ skipped) :
    skipped.bmod (2 ^ 32) ≤ skipped ∧ (skipped.bmod (2 ^ 32) = skipped ↔ skipped < 2 ^ 31) := by
  rw [Int.bmod_def]
  split_ifs <;> omega

theorem totals_agree_iff (writer : Writer) (reader : Reader) (tracks : Tracks writer reader) :
    readerTotals reader = writerTotals writer ↔ Exact writer reader ∧ leftOut writer reader = 0 := by
  have behind := tracks.behind
  have less := tracks.missed
  have same := tracks.lostN
  simp only [readerTotals, writerTotals, Totals.mk.injEq, Exact, missed, overcounted] at *
  split_ifs <;> omega

/-- What a frame makes of the two ends. -/
structure Tracked (writer : Writer) (reader : Reader) (previous data : List Word)
    (next : Reader) : Prop where
  tracks : Tracks (writeFrame 1 writer data) next
  exact_iff : Exact (writeFrame 1 writer data) next ↔
    Exact writer reader ∧ Inferable (leftOut writer reader).toNat previous data
  leftOut : Inferable (leftOut writer reader).toNat previous data →
    (FrameAccounting.leftOut (writeFrame 1 writer data) next).toNat =
      if Continues previous data then (FrameAccounting.leftOut writer reader).toNat + 1 else 0

section Frame

variable {writer : Writer} {reader next : Reader} {previous data : List Word}

theorem tracked_errors (tracks : Tracks writer reader) (loss surplus : Int)
    (started : 0 ≤ next.lastFrameID) (behind : 0 ≤ leftOut (writeFrame 1 writer data) next)
    (lostN : next.nFramesLostN = (writeFrame 1 writer data).stepLostFramesN)
    (misses : missed (writeFrame 1 writer data) next = missed writer reader + loss)
    (lossy : 0 ≤ loss) (surplusful : 0 ≤ surplus)
    (overcounts : loss = 0 → overcounted (writeFrame 1 writer data) next =
      overcounted writer reader + surplus)
    (inferable : Exact writer reader →
      (Inferable (leftOut writer reader).toNat previous data ↔ loss = 0 ∧ surplus = 0))
    (lostRun : (writeFrame 1 writer data).lastFrameType = .zeroData → next.lastFrameWasLost0 = true)
    (emptyRun : Exact writer reader → loss = 0 → surplus = 0 →
      (writeFrame 1 writer data).lastFrameType = .allLost → next.lastFrameWasLost0 = false)
    (remaining : Inferable (leftOut writer reader).toNat previous data →
      (leftOut (writeFrame 1 writer data) next).toNat =
        if Continues previous data then (leftOut writer reader).toNat + 1 else 0) :
    Tracked writer reader previous data next := by
  have less := tracks.missed
  have more := tracks.overcounted
  have exact_iff : Exact (writeFrame 1 writer data) next ↔
      Exact writer reader ∧ loss = 0 ∧ surplus = 0 := by
    simp only [Exact]
    omega
  refine ⟨⟨started, behind, lostN, by omega, ?_, lostRun, ?_⟩, ?_, remaining⟩
  · intro none
    have counted := overcounts (by omega)
    omega
  · intro exact
    obtain ⟨before, none, few⟩ := exact_iff.mp exact
    exact emptyRun before none few
  · rw [exact_iff]
    exact and_congr_right fun exact => (inferable exact).symm

theorem tracked_continued (tracks : Tracks writer reader)
    (last : writer.lastFrameID = getFrameID previous)
    (kind : writer.lastFrameType = frameTypeOf previous) (run : Continues previous data) :
    Tracked writer reader previous data reader := by
  have adjacent := run.1
  have counts := write_counts 1 writer data (by omega)
  obtain ⟨_, same, empty⟩ := run.2
  have inferable : Inferable (leftOut writer reader).toNat previous data := by
    rw [Inferable, if_pos adjacent]
    exact Or.inl run
  -- nothing is written: the frame joins those left out
  have noGap : skippedBefore writer data = 0 := if_neg fun gap => gap.2 (by omega)
  have after := counts.last
  have frames := counts.frames
  have lost0 := counts.lost0
  rw [noGap] at frames lost0
  have behind := tracks.behind
  have lostRun := tracks.lostRun
  rw [kind, same] at lostRun
  have emptyRun := tracks.emptyRun
  rw [kind, same] at emptyRun
  have sum : leftOut (writeFrame 1 writer data) reader = leftOut writer reader + 1 := by
    simp only [leftOut]
    omega
  have noEvents : getNEvents data = 0 := by
    rcases empty with empty | empty
    · exact ((zero_data_iff data).mp empty).2
    · exact ((all_lost_iff data).mp empty).2
  refine tracked_errors tracks 0
    (if frameTypeOf data = .allLost ∧ reader.lastFrameWasLost0 = true then 1 else 0)
    tracks.started (by omega) ?_ ?_ (by decide) ?_ (fun _ => ?_) (fun exact => ?_) ?_ ?_ ?_
  · rw [counts.lostN, tracks.lostN, if_neg fun lost => lost.2 noEvents]
    omega
  · simp only [missed, sum]
    omega
  · split_ifs <;> omega
  · simp only [overcounted, sum, lost0]
    rcases empty with empty | empty
    · simp only [empty, lostRun empty, if_true]
      simp only [reduceCtorEq, false_and, if_false]
      omega
    · simp only [empty, true_and, reduceCtorEq, if_false]
      split_ifs <;> omega
  · refine iff_of_true inferable ⟨rfl, if_neg fun surplus => ?_⟩
    rw [emptyRun exact surplus.1] at surplus
    cases surplus.2
  · rw [counts.kind]
    exact lostRun
  · intro exact _ _ empty
    rw [counts.kind] at empty
    exact emptyRun exact empty
  · intro _
    rw [sum, if_pos run]
    omega

/-- Right behind what was written, the reader counts what was left out, in an `int`. -/
theorem skipped_behind (tracks : Tracks writer reader)
    (adjacent : getFrameID data = writer.lastFrameID + 1) :
    skippedFrames reader data = (leftOut writer reader).bmod (2 ^ 32) := by
  have started := tracks.started
  rw [skippedFrames, if_neg (by omega)]
  congr 1
  simp only [leftOut]
  omega

theorem tracked_kept (tracks : Tracks writer reader)
    (last : writer.lastFrameID = getFrameID previous)
    (adjacent : getFrameID data = getFrameID previous + 1) (ends : ¬ Continues previous data)
    (taken : reader.take data = .ok next) : Tracked writer reader previous data next := by
  have counts := write_counts 1 writer data (by omega)
  have accounted := take_accounted reader next data taken
  have noGap : skippedBefore writer data = 0 := if_neg fun gap => gap.2 (by omega)
  have started := tracks.started
  have behind := tracks.behind
  have after := counts.last
  have reached := accounted.last
  have level : leftOut (writeFrame 1 writer data) next = 0 := by
    simp only [leftOut]
    omega
  have next_id : (getFrameID data : Int) = writer.lastFrameID + 1 := by omega
  have skipped := skipped_behind tracks next_id
  have sum : (getFrameID data : Int) = reader.lastFrameID + leftOut writer reader + 1 := by
    simp only [leftOut]
    omega
  have inferable : Inferable (leftOut writer reader).toNat previous data ↔
      leftOut writer reader < 2 ^ 31 := by
    rw [Inferable, if_pos adjacent]
    simp only [ends, false_or]
    omega
  obtain ⟨fewer, all⟩ := truncated _ behind
  refine tracked_errors tracks (leftOut writer reader - (leftOut writer reader).bmod (2 ^ 32)) 0
    (by omega) (by omega) ?_ ?_ (by omega) (by decide) (fun whole => ?_) (fun exact => ?_) ?_ ?_ ?_
  · rw [counts.lostN, accounted.lostN, tracks.lostN]
  · simp only [missed, level, counts.frames, accounted.frames, skipped, noGap]
    omega
  · simp only [overcounted, level, counts.lost0, accounted.lost0, skipped, noGap]
    split_ifs <;> omega
  · rw [inferable]
    omega
  · rw [counts.kind]
    exact accounted.wasLost0.mpr
  · intro _ _ _ empty
    rw [counts.kind] at empty
    rw [← Bool.not_eq_true, accounted.wasLost0, empty]
    decide
  · intro _
    rw [level, if_neg ends]
    rfl

theorem take_marker (tracks : Tracks writer reader) (gap : gapBefore writer data)
    (forward : writer.lastFrameID < getFrameID data) {marked : Reader}
    (taken : reader.take (lostFrameBuffer writer.lastFrameID) = .ok marked) :
    marked.lastFrameID = writer.lastFrameID + 1 ∧ marked.lastFrameWasLost0 = true ∧
      marked.nFrames = reader.nFrames + (leftOut writer reader).bmod (2 ^ 32) + 1 ∧
      marked.nFramesLost0 = reader.nFramesLost0 +
        (if reader.lastFrameWasLost0 then (leftOut writer reader).bmod (2 ^ 32) else 0) + 1 ∧
      marked.nFramesLostN = reader.nFramesLostN := by
  have bounded := frame_id_bounded data
  have positive := gap.1
  have started := tracks.started
  obtain ⟨first, _, events, lost⟩ := lost_frame_fields writer.lastFrameID (by omega) (by omega)
  have accounted := take_accounted reader marked _ taken
  have kind := (zero_data_iff (lostFrameBuffer writer.lastFrameID)).mpr ⟨lost, events⟩
  have skipped := skipped_behind tracks first
  have frames := accounted.frames
  have lost0 := accounted.lost0
  have lostN := accounted.lostN
  rw [skipped] at frames lost0
  rw [if_pos kind] at lost0
  rw [if_neg fun some => some.2 events, Int.add_zero] at lostN
  exact ⟨accounted.last.trans first, accounted.wasLost0.mpr kind, frames, lost0, lostN⟩

theorem tracked_gap (tracks : Tracks writer reader)
    (last : writer.lastFrameID = getFrameID previous) (gap : gapBefore writer data)
    (forward : writer.lastFrameID < getFrameID data) (busy : frameTypeOf data ≠ .allLost)
    {marked : Reader} (marker : reader.take (lostFrameBuffer writer.lastFrameID) = .ok marked)
    (taken : marked.take data = .ok next) : Tracked writer reader previous data next := by
  have counts := write_counts 1 writer data forward
  have accounted := take_accounted marked next data taken
  obtain ⟨first, marks, framesBefore, lostBefore, lostNBefore⟩ :=
    take_marker tracks gap forward marker
  have positive := gap.1
  have apart := gap.2
  have behind := tracks.behind
  have after := counts.last
  have reached := accounted.last
  have level : leftOut (writeFrame 1 writer data) next = 0 := by
    simp only [leftOut]
    omega
  have between : skippedBefore writer data = getFrameID data - writer.lastFrameID - 1 := if_pos gap
  -- behind the marker the reader still misses the rest of the gap
  have skipped : skippedFrames marked data =
      ((getFrameID data : Int) - writer.lastFrameID - 2).bmod (2 ^ 32) := by
    rw [skippedFrames, if_neg (by omega), first]
    congr 1
    omega
  have ends : ¬ Continues previous data := fun run => apart (by have := run.1; omega)
  have inferable : Inferable (leftOut writer reader).toNat previous data ↔
      leftOut writer reader < 2 ^ 31 ∧ (getFrameID data : Int) - writer.lastFrameID - 2 < 2 ^ 31 := by
    rw [Inferable, if_neg (by omega)]
    simp only [busy, ne_eq, not_false_eq_true, true_and]
    omega
  obtain ⟨fewer, all⟩ := truncated _ behind
  obtain ⟨narrower, whole⟩ := truncated ((getFrameID data : Int) - writer.lastFrameID - 2) (by omega)
  refine tracked_errors tracks
    (leftOut writer reader - (leftOut writer reader).bmod (2 ^ 32) +
      (getFrameID data - writer.lastFrameID - 2 -
        ((getFrameID data : Int) - writer.lastFrameID - 2).bmod (2 ^ 32))) 0
    (by omega) (by omega) ?_ ?_ (by omega) (by decide) (fun none => ?_) (fun exact => ?_) ?_ ?_ ?_
  · rw [counts.lostN, accounted.lostN, lostNBefore, tracks.lostN]
  · simp only [missed, level, counts.frames, accounted.frames, skipped, between, framesBefore]
    omega
  · simp only [overcounted, level, counts.lost0, accounted.lost0, skipped, between, lostBefore,
      marks, if_true]
    split_ifs <;> omega
  · rw [inferable]
    omega
  · rw [counts.kind]
    exact accounted.wasLost0.mpr
  · intro _ _ _ empty
    rw [counts.kind] at empty
    exact absurd empty busy
  · intro _
    rw [level, if_neg ends]
    rfl

/-- The reader takes a normal empty frame behind a gap for a lost one. -/
theorem tracked_gap_empty (tracks : Tracks writer reader)
    (last : writer.lastFrameID = getFrameID previous) (gap : gapBefore writer data)
    (forward : writer.lastFrameID < getFrameID data) (empty : frameTypeOf data = .allLost)
    (marker : reader.take (lostFrameBuffer writer.lastFrameID) = .ok next) :
    Tracked writer reader previous data next := by
  have counts := write_counts 1 writer data forward
  obtain ⟨first, marks, framesBefore, lostBefore, lostNBefore⟩ :=
    take_marker tracks gap forward marker
  obtain ⟨_, noEvents⟩ := (all_lost_iff data).mp empty
  have positive := gap.1
  have apart := gap.2
  have behind := tracks.behind
  have after := counts.last
  -- only the marker is written, the frame itself is left out
  have remaining : leftOut (writeFrame 1 writer data) next =
      getFrameID data - writer.lastFrameID - 1 := by
    simp only [leftOut]
    omega
  have between : skippedBefore writer data = getFrameID data - writer.lastFrameID - 1 := if_pos gap
  have never : ¬ Inferable (leftOut writer reader).toNat previous data := by
    rw [Inferable, if_neg (by omega)]
    exact fun inferable => inferable.1 empty
  obtain ⟨fewer, all⟩ := truncated _ behind
  refine tracked_errors tracks (leftOut writer reader - (leftOut writer reader).bmod (2 ^ 32)) 1
    (by omega) (by omega) ?_ ?_ (by omega) (by decide) (fun none => ?_) (fun exact => ?_) ?_ ?_ ?_
  · rw [counts.lostN, lostNBefore, tracks.lostN, if_neg fun lost => lost.2 noEvents, Int.add_zero]
  · simp only [missed, remaining, counts.frames, between, framesBefore]
    omega
  · simp only [overcounted, remaining, counts.lost0, between, lostBefore, marks, if_true, empty,
      reduceCtorEq, if_false]
    split_ifs <;> omega
  · exact iff_of_false never fun both => by cases both.2
  · rw [counts.kind, empty]
    exact fun other => by cases other
  · intro _ _ surplus
    cases surplus
  · exact fun inferable => absurd inferable never

theorem track_frame (tracks : Tracks writer reader)
    (last : writer.lastFrameID = getFrameID previous)
    (kind : writer.lastFrameType = frameTypeOf previous)
    (forward : writer.lastFrameID < getFrameID data) (frame : Frame) (same : data = frame.data)
    (read : (records 1 writer data).foldlM Reader.take reader = .ok next) :
    Tracked writer reader previous data next := by
  have take_whole : data.take (getFrameSize data) = data := same ▸ frame_taken_whole frame
  rw [records, take_whole] at read
  by_cases gap : gapBefore writer data
  · have type : previousType writer data = .allLost := if_pos gap
    rw [if_pos gap, type] at read
    by_cases empty : frameTypeOf data = .allLost
    · rw [if_pos ⟨rfl, empty.symm, Or.inr empty⟩, List.append_nil, List.foldlM_cons] at read
      obtain ⟨marked, marker, returned⟩ := bind_ok read
      cases returned
      exact tracked_gap_empty tracks last gap forward empty marker
    · rw [if_neg fun run => empty run.2.1.symm, List.singleton_append, List.foldlM_cons] at read
      obtain ⟨marked, marker, remaining⟩ := bind_ok read
      obtain ⟨after, result, returned⟩ := bind_ok remaining
      cases returned
      exact tracked_gap tracks last gap forward empty marker result
  · have adjacent : getFrameID data = getFrameID previous + 1 := by
      by_contra apart
      exact gap ⟨by omega, by omega⟩
    have type : previousType writer data = frameTypeOf previous := (if_neg gap).trans kind
    rw [if_neg gap, type, List.nil_append] at read
    by_cases run : Continues previous data
    · rw [if_pos run.2] at read
      cases read
      exact tracked_continued tracks last kind run
    · rw [if_neg fun repeats => run ⟨adjacent, repeats⟩, List.foldlM_cons] at read
      obtain ⟨after, result, returned⟩ := bind_ok read
      cases returned
      exact tracked_kept tracks last adjacent run result

end Frame

def running (frames : List (List Word)) : List Entry := frames.map fun data => (1, data)

theorem run_totals (frames : List (List Word)) (writer : Writer) (reader result : Reader)
    (previous : List Word) (tracks : Tracks writer reader)
    (last : writer.lastFrameID = getFrameID previous)
    (kind : writer.lastFrameType = frameTypeOf previous) (forward : Forward writer (running frames))
    (read : (written writer (running frames)).foldlM Reader.take reader = .ok result) :
    readerTotals result = writerTotals ((running frames).foldl writeEntry writer) ↔
      Exact writer reader ∧ Accountable (leftOut writer reader).toNat previous frames := by
  induction frames generalizing writer reader previous with
  | nil =>
      cases read
      have behind := tracks.behind
      rw [running, List.map_nil, List.foldl_nil, totals_agree_iff writer _ tracks, Accountable]
      exact and_congr_right fun _ => by omega
  | cons data rest ih =>
      have unfolded : running (data :: rest) = (1, data) :: running rest := rfl
      rw [unfolded] at forward read ⊢
      obtain ⟨frame, same⟩ := forward.counted (1, data) List.mem_cons_self
      have onward := forward.later (1, data) List.mem_cons_self
      rw [written, List.foldlM_append] at read
      obtain ⟨next, here, remains⟩ := bind_ok read
      have tracked := track_frame tracks last kind onward frame same here
      have counts := write_counts 1 writer data onward
      -- the rest starts where this frame has left writer and reader
      have later := ih (writeFrame 1 writer data) next data tracked.tracks counts.last
        counts.kind forward.tail remains
      have remaining := tracked.leftOut
      rw [List.foldl_cons, Accountable]
      apply later.trans
      rw [tracked.exact_iff]
      constructor
      · rintro ⟨⟨exact, inferable⟩, accountable⟩
        rw [remaining inferable] at accountable
        exact ⟨exact, inferable, accountable⟩
      · rintro ⟨exact, inferable, accountable⟩
        rw [← remaining inferable] at accountable
        exact ⟨⟨exact, inferable⟩, accountable⟩

theorem first_tracked (writer : Writer) (next : Reader) (data : List Word)
    (taken : Reader.start.take data = .ok next) :
    Tracks (writeFrame 1 writer.openStep data) next ∧
      Exact (writeFrame 1 writer.openStep data) next ∧
      leftOut (writeFrame 1 writer.openStep data) next = 0 := by
  have forward : writer.openStep.lastFrameID < getFrameID data := by
    show (-1 : Int) < _
    omega
  have counts := write_counts 1 writer.openStep data forward
  have accounted := take_accounted Reader.start next data taken
  have noGap : skippedBefore writer.openStep data = 0 :=
    if_neg fun gap => absurd gap.1 (by decide : ¬ (0 : Int) ≤ -1)
  have skipped : skippedFrames Reader.start data = 0 := if_pos rfl
  have level : leftOut (writeFrame 1 writer.openStep data) next = 0 := by
    rw [leftOut, counts.last, accounted.last, Int.sub_self]
  have missedNone : missed (writeFrame 1 writer.openStep data) next = 0 := by
    rw [missed, level, counts.frames, accounted.frames, noGap, skipped]
    rfl
  have overcountedNone : overcounted (writeFrame 1 writer.openStep data) next = 0 := by
    rw [overcounted, level, counts.lost0, accounted.lost0, noGap, skipped]
    show 0 + 0 + _ + _ - (0 + 0 + _) = _
    split_ifs <;> rfl
  refine ⟨⟨?_, ?_, ?_, ?_, fun _ => ?_, ?_, fun _ => ?_⟩, ⟨missedNone, overcountedNone⟩, level⟩
  · rw [accounted.last]
    exact Int.natCast_nonneg _
  · rw [level]
  · rw [counts.lostN, accounted.lostN]
    rfl
  · rw [missedNone]
  · rw [overcountedNone]
  · rw [counts.kind]
    exact accounted.wasLost0.mpr
  · intro empty
    rw [counts.kind] at empty
    rw [← Bool.not_eq_true, accounted.wasLost0, empty]
    decide

theorem frames_totals (writer : Writer) (frames : List (List Word))
    (forward : Forward writer.openStep (running frames)) (result : Reader)
    (read : (written writer.openStep (running frames)).foldlM Reader.take Reader.start =
      .ok result) :
    readerTotals result = writerTotals ((running frames).foldl writeEntry writer.openStep) ↔
      StepAccountable frames := by
  cases frames with
  | nil =>
      cases read
      exact iff_of_true rfl trivial
  | cons data rest =>
      have unfolded : running (data :: rest) = (1, data) :: running rest := rfl
      rw [unfolded] at forward read ⊢
      obtain ⟨frame, (same : data = frame.data)⟩ := forward.counted (1, data) List.mem_cons_self
      have whole : records 1 writer.openStep data = [data] := by
        have noGap : ¬ gapBefore writer.openStep data :=
          fun gap => absurd gap.1 (by decide : ¬ (0 : Int) ≤ -1)
        have type : previousType writer.openStep data = .unknown := if_neg noGap
        have take_whole : data.take (getFrameSize data) = data := same ▸ frame_taken_whole frame
        rw [records, if_neg noGap, type, if_neg fun repeats => ?_, take_whole]
        · rfl
        · obtain ⟨_, unknown, empty⟩ := repeats
          rw [← unknown] at empty
          exact absurd empty (by decide)
      rw [written, whole, List.singleton_append, List.foldlM_cons] at read
      obtain ⟨next, taken, remains⟩ := bind_ok read
      have onward := forward.later (1, data) List.mem_cons_self
      have counts := write_counts 1 writer.openStep data onward
      obtain ⟨tracks, exact, level⟩ := first_tracked writer next data taken
      have later := run_totals rest (writeFrame 1 writer.openStep data) next result data tracks
        counts.last counts.kind forward.tail remains
      rw [level] at later
      exact later.trans (and_iff_right exact)

theorem acquired_entries (step : AcquiredStep) : step.entries = running step.frames := by
  have middle : ∀ blocks : List Block, (∀ block ∈ blocks, block.blockType = 1) →
      blocks.flatMap Block.entries = running (blocks.flatMap Block.frames) := by
    intro blocks runs
    rw [running, List.map_flatMap]
    apply List.flatMap_congr
    intro block member
    rw [Block.entries, runs block member]
  rw [Step.entries, Step.frames, Step.blocks, List.cons_append, List.flatMap_cons,
    List.flatMap_cons, List.flatMap_append, List.flatMap_append, middle step.middle step.runs,
    Block.entries, step.firstEmpty, List.flatMap_singleton, List.flatMap_singleton, Block.entries,
    step.lastEmpty, List.map_nil, List.nil_append, List.map_nil, List.append_nil, List.nil_append,
    List.append_nil]

/-- Both ends count the same for exactly the steps in which no normal empty
frame follows a gap, no empty frame is left out at the end, and neither a gap
nor a run of frames that were left out is too long for an `int`. -/
theorem totals_equal_iff (writer : Writer) (step : AcquiredStep) (rest : List Word) :
    ∃ range result, (step.write writer).index = writer.index ++ [range] ∧
      processStep ((step.write writer).dataFile ++ rest) range.stepBegin range.stepEnd = .ok result ∧
      (readerTotals result = writerTotals (step.write writer) ↔ StepAccountable step.frames) := by
  have forward := step_forward step.toStep writer
  have counted := written_counted _ _ forward
  obtain ⟨range, index, processed⟩ := step_read writer step.toStep rest
  obtain ⟨result, read, _⟩ := filled_all _ [] counted (written_increasing _ _ forward).2
    Reader.start filled_start
  rw [read] at processed
  refine ⟨range, result.finish, index, processed, ?_⟩
  have finished : readerTotals result.finish = readerTotals result := by
    unfold Reader.finish
    cases result.outBuffer <;> rfl
  rw [acquired_entries] at forward read
  rw [finished, step_write, acquired_entries]
  exact frames_totals writer step.frames forward result read

/-- A frame with one event, a normal empty frame behind a gap, and another
frame with an event: ID 1 is missing, but ID 2 counts as lost as well. -/
def gapFrames : List (List Word) :=
  [[(3 : Word) <<< 36, 1, 7], [(2 : Word) <<< 36 ||| 2, 0], [(3 : Word) <<< 36 ||| 3, 1, 7]]

theorem gap_frames_counted : Counted gapFrames := by
  intro data member
  have each : ∀ data ∈ gapFrames, data.length = getFrameSize data ∧
      getFrameSize data = 2 + getNEvents data ∧ data.length ≤ maxRawDataFrameSize := by
    decide
  obtain ⟨counted, sized, bounded⟩ := each data member
  exact ⟨⟨data, counted, sized, bounded⟩, rfl⟩

def gapStep : AcquiredStep :=
  { Step.singly gapFrames gap_frames_counted (by decide) with
    firstEmpty := by decide
    lastEmpty := by decide }

theorem empty_frame_counted_lost :
    (gapStep.write (Writer.start (List.replicate 8 0))).index = [⟨8, 16, 0, 3⟩] ∧
      (processStep (gapStep.write (Writer.start (List.replicate 8 0))).dataFile 8 16).map
        readerTotals = .ok ⟨4, 2, 0⟩ ∧
      writerTotals (gapStep.write (Writer.start (List.replicate 8 0))) = ⟨4, 1, 0⟩ := by
  decide +kernel

end GramsTof.FrameAccounting
