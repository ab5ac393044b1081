import GramsTof.CountedMap
import GramsTof.WriteRaw

/-!
`write_raw` in calibration mode: instead of frames, the data file gets for each
step every event word with the number of times it came. The words are counted
by one thread a CPU, each in a map of its own; a thread takes the words whose
hash falls to it. The threads share nothing they write, so that a batch is what
they do one after another.
-/

namespace GramsTof.CalibrationMode

open RawFrame RingPointers CountedMap WriteRaw

/-- `CalibrationData`, as the reading program calls it. -/
structure RawCalibrationData where
  eventWord : Word
  freq : Int
  deriving DecidableEq, Repr

structure CalibrationPool where
  n_cpu : Nat
  positive : 0 < n_cpu
  calEventSet : List (Counts Word)
  sized : calEventSet.length = n_cpu

def eventHash (word : Word) : Nat :=
  let g := getChannelID word
  let channelID := g % 64
  let asicID := (g >>> 6) % 64
  let slaveID := (g >>> 12) % 32
  let portID := (g >>> 17) % 32
  channelID ^^^ asicID ^^^ slaveID ^^^ portID

def slotEvents (slots : Slots) (slot : Nat) : List Word :=
  (List.range (getNEvents (slotWords slots slot 2))).map fun i => slots slot (i + 2)

/-- The body of the loop over the events; the counter is an `unsigned`. -/
def countEvent (n_cpu cpu_index : Nat) (set : Counts Word) (word : Word) : Counts Word :=
  if eventHash word % n_cpu = cpu_index then increment (2 ^ 32) set word else set

def threadRoutine (slots : Slots) (n_cpu start finish cpu_index : Nat) (set : Counts Word) :
    Counts Word :=
  let bs := maxRawDataFrameQueueSize
  ringLoop (fun set index => (slotEvents slots index).foldl (countEvent n_cpu cpu_index) set)
    bs (2 * bs) start finish set

def CalibrationPool.clear (pool : CalibrationPool) : CalibrationPool :=
  { pool with
    calEventSet := pool.calEventSet.map fun _ => ∅
    sized := (List.length_map _).trans pool.sized }

def CalibrationPool.processBatch (pool : CalibrationPool) (slots : Slots) (start finish : Nat) :
    CalibrationPool :=
  { pool with
    calEventSet := pool.calEventSet.mapIdx (threadRoutine slots pool.n_cpu start finish)
    sized := List.length_mapIdx.trans pool.sized }

/-- What `writeOut` writes; `freq` is an `int`. The maps are cleared with it. -/
def CalibrationPool.records (pool : CalibrationPool) : List RawCalibrationData :=
  pool.calEventSet.flatMap fun set =>
    set.toList.map fun entry => ⟨entry.1, (entry.2 : Int).bmod (2 ^ 32)⟩

/-- A line of the index file. The frame IDs and the second step value are left
out. -/
structure IndexLine (Value : Type) where
  startOffset : Nat
  endOffset : Nat
  step1 : Value

/-- The files behind the header of 64 bytes, and the pool. -/
structure CalibrationWriter (Value : Type) where
  dataFile : List RawCalibrationData
  index : List (IndexLine Value)
  stepStartOffset : Nat
  pool : CalibrationPool

/-- A record takes 16 bytes. -/
def CalibrationWriter.ftell {Value : Type} (writer : CalibrationWriter Value) : Nat :=
  64 + 16 * writer.dataFile.length

def CalibrationWriter.start (Value : Type) (pool : CalibrationPool) : CalibrationWriter Value :=
  ⟨[], [], 64, pool⟩

structure CalibrationBlock (Value : Type) extends Block where
  step1 : Value

section Writer

variable {Value : Type} (printed : Value → Value)

/-- One turn of the main loop; `printed` is what `%f` keeps of a step value. -/
def writeBlock (writer : CalibrationWriter Value) (block : CalibrationBlock Value) :
    CalibrationWriter Value :=
  let writer := if block.blockType = 0 then
      { writer with pool := writer.pool.clear, stepStartOffset := writer.ftell }
    else writer
  let bs := maxRawDataFrameQueueSize
  let rdPointer := block.rdPointer % (2 * bs)
  let wrPointer := block.wrPointer % (2 * bs)
  let writer :=
    { writer with pool := writer.pool.processBatch block.slots rdPointer wrPointer }
  if block.blockType = 2 then
    let closed :=
      { writer with
        dataFile := writer.dataFile ++ writer.pool.records
        pool := writer.pool.clear }
    { closed with
      index := closed.index ++ [⟨closed.stepStartOffset, closed.ftell, printed block.step1⟩] }
  else writer

/-- The blocks of a step, all with its values. -/
structure CalibrationStep (Value : Type) where
  step1 : Value
  first : CalibrationBlock Value
  middle : List (CalibrationBlock Value)
  last : CalibrationBlock Value
  opens : first.blockType = 0
  runs : ∀ block ∈ middle, block.blockType = 1
  closes : last.blockType = 2
  valued : ∀ block ∈ first :: middle ++ [last], block.step1 = step1

def CalibrationStep.blocks (step : CalibrationStep Value) : List (CalibrationBlock Value) :=
  step.first :: step.middle ++ [step.last]

def CalibrationStep.write (writer : CalibrationWriter Value) (step : CalibrationStep Value) :
    CalibrationWriter Value :=
  step.blocks.foldl (writeBlock printed) writer

/-- The frames of a block are counted, between its pointers as they lie in the ring. -/
def CalibrationPool.takeBlock (pool : CalibrationPool) (block : Block) : CalibrationPool :=
  pool.processBatch block.slots (block.rdPointer % (2 * maxRawDataFrameQueueSize))
    (block.wrPointer % (2 * maxRawDataFrameQueueSize))

/-- The pool at the end of a step, before it is written out. -/
def CalibrationStep.counting (step : CalibrationStep Value) (pool : CalibrationPool) :
    CalibrationPool :=
  step.blocks.foldl (fun pool block => pool.processBatch block.slots
    (block.rdPointer % (2 * maxRawDataFrameQueueSize))
    (block.wrPointer % (2 * maxRawDataFrameQueueSize))) pool.clear

end Writer

def blockWords (block : Block) : List Word :=
  (slotsBetween maxRawDataFrameQueueSize block.rdPointer block.wrPointer).flatMap
    (slotEvents block.slots)

def CalibrationStep.words {Value : Type} (step : CalibrationStep Value) : List Word :=
  step.blocks.flatMap fun block => blockWords block.toBlock

def countsOf (n_cpu : Nat) (words : List Word) (cpu_index : Nat) : Counts Word :=
  (words.filter fun word => eventHash word % n_cpu = cpu_index).foldl (increment (2 ^ 32)) ∅

/-- Since it was cleared, the pool has counted these words. -/
def Counted (words : List Word) (pool : CalibrationPool) : Prop :=
  pool.calEventSet = (List.range pool.n_cpu).map (countsOf pool.n_cpu words)

theorem clear_counted (pool : CalibrationPool) : Counted [] pool.clear := by
  rw [Counted, CalibrationPool.clear]
  apply List.ext_getElem (by simp [pool.sized])
  intro worker _ _
  simp [countsOf]

theorem thread_counts (slots : Slots) (n_cpu cpu_index rdPointer wrPointer : Nat)
    (set : Counts Word) :
    threadRoutine slots n_cpu (rdPointer % (2 * maxRawDataFrameQueueSize))
        (wrPointer % (2 * maxRawDataFrameQueueSize)) cpu_index set =
      (((slotsBetween maxRawDataFrameQueueSize rdPointer wrPointer).flatMap
        (slotEvents slots)).filter fun word => eventHash word % n_cpu = cpu_index).foldl
          (increment (2 ^ 32)) set := by
  rw [threadRoutine, ring_loop_between _ (by decide), List.foldl_filter, List.foldl_flatMap]
  simp only [decide_eq_true_eq]
  rfl

theorem process_counted (block : Block) (words : List Word) (pool : CalibrationPool)
    (counted : Counted words pool) :
    Counted (words ++ blockWords block) (pool.takeBlock block) := by
  rw [Counted, CalibrationPool.takeBlock, CalibrationPool.processBatch]
  apply List.ext_getElem (by simp [pool.sized])
  intro worker inside _
  rw [Counted] at counted
  simp only [counted, List.getElem_mapIdx, List.getElem_map, List.getElem_range]
  rw [thread_counts, countsOf, ← List.foldl_append, ← List.filter_append]
  rfl

theorem counting_counted (blocks : List Block) (words : List Word) (pool : CalibrationPool)
    (counted : Counted words pool) :
    Counted (words ++ blocks.flatMap blockWords)
      (blocks.foldl CalibrationPool.takeBlock pool) := by
  induction blocks generalizing words pool with
  | nil => rwa [List.flatMap_nil, List.append_nil]
  | cons block rest ih =>
      rw [List.flatMap_cons, ← List.append_assoc, List.foldl_cons]
      exact ih _ _ (process_counted block words pool counted)

theorem step_counting {Value : Type} (step : CalibrationStep Value) (pool : CalibrationPool) :
    Counted step.words (step.counting pool) ∧ (step.counting pool).n_cpu = pool.n_cpu := by
  have cleared := counting_counted (step.blocks.map CalibrationBlock.toBlock) [] pool.clear
    (clear_counted pool)
  rw [List.flatMap_map, List.foldl_map] at cleared
  refine ⟨cleared, ?_⟩
  have same : ∀ (blocks : List (CalibrationBlock Value)) (pool : CalibrationPool),
      (blocks.foldl (fun pool block => pool.takeBlock block.toBlock) pool).n_cpu = pool.n_cpu := by
    intro blocks
    induction blocks with
    | nil => exact fun _ => rfl
    | cons block rest ih => exact fun pool => ih _
  exact same _ _

def CalibrationPool.worker (pool : CalibrationPool) (cpu_index : Nat) : Counts Word :=
  pool.calEventSet.getD cpu_index ∅

theorem counted_worker (words : List Word) (pool : CalibrationPool) (counted : Counted words pool)
    (cpu_index : Nat) (inside : cpu_index < pool.n_cpu) :
    pool.worker cpu_index = countsOf pool.n_cpu words cpu_index := by
  rw [CalibrationPool.worker, counted, List.getD_eq_getElem?_getD, List.getElem?_map,
    List.getElem?_range inside]
  rfl

theorem counted_member (n_cpu cpu_index : Nat) (words : List Word) (word : Word) :
    word ∈ countsOf n_cpu words cpu_index ↔ word ∈ words ∧ eventHash word % n_cpu = cpu_index := by
  rw [countsOf, mem_increments, List.mem_filter, decide_eq_true_eq]
  simp only [Std.TreeMap.not_mem_emptyc, false_or]

/-- Every word that came is counted by exactly one worker. -/
theorem one_worker (words : List Word) (pool : CalibrationPool) (counted : Counted words pool)
    (word : Word) (came : word ∈ words) :
    ∃! cpu_index, cpu_index < pool.n_cpu ∧ word ∈ pool.worker cpu_index := by
  have inside := Nat.mod_lt (eventHash word) pool.positive
  refine ⟨eventHash word % pool.n_cpu, ⟨inside, ?_⟩, ?_⟩
  · rw [counted_worker words pool counted _ inside, counted_member]
    exact ⟨came, rfl⟩
  · rintro other ⟨within, member⟩
    rw [counted_worker words pool counted _ within, counted_member] at member
    exact member.2.symm

theorem mem_counted_records (words : List Word) (pool : CalibrationPool)
    (counted : Counted words pool) (record : RawCalibrationData) :
    record ∈ pool.records ↔ record.eventWord ∈ words ∧
      record.freq = ((words.count record.eventWord % 2 ^ 32 : Nat) : Int).bmod (2 ^ 32) := by
  obtain ⟨word, freq⟩ := record
  rw [CalibrationPool.records, counted, List.mem_flatMap]
  simp only [List.mem_map, List.mem_range, Prod.exists, RawCalibrationData.mk.injEq]
  have entries := fun cpu_index => counted_entries (2 ^ 32) (by decide)
    (words.filter fun word => eventHash word % pool.n_cpu = cpu_index) word
  have own : (words.filter fun other => eventHash other % pool.n_cpu =
      eventHash word % pool.n_cpu).count word = words.count word :=
    List.count_filter (by rw [decide_eq_true_eq])
  constructor
  · rintro ⟨_, ⟨cpu_index, _, rfl⟩, _, count, member, rfl, rfl⟩
    obtain ⟨taken, number⟩ := (entries cpu_index count).mp member
    obtain ⟨came, hash⟩ := List.mem_filter.mp taken
    rw [decide_eq_true_eq] at hash
    rw [← hash, own] at number
    exact ⟨came, by rw [number]⟩
  · rintro ⟨came, number⟩
    refine ⟨_, ⟨eventHash word % pool.n_cpu, Nat.mod_lt _ pool.positive, rfl⟩, word, _,
      (entries _ _).mpr ⟨List.mem_filter.mpr ⟨came, by rw [decide_eq_true_eq]⟩, rfl⟩, rfl, ?_⟩
    rw [own]
    exact number.symm

theorem counted_records_distinct (words : List Word) (pool : CalibrationPool)
    (counted : Counted words pool) : (pool.records.map RawCalibrationData.eventWord).Nodup := by
  have keys : pool.records.map RawCalibrationData.eventWord =
      (List.range pool.n_cpu).flatMap fun cpu_index =>
        (countsOf pool.n_cpu words cpu_index).toList.map Prod.fst := by
    rw [CalibrationPool.records, counted, List.map_flatMap, List.flatMap_map]
    apply List.flatMap_congr
    intro cpu_index _
    rw [List.map_map]
    rfl
  rw [keys, List.nodup_flatMap]
  refine ⟨fun cpu_index _ => counted_distinct _ _, ?_⟩
  refine List.nodup_range.imp fun {left right} apart => ?_
  intro word first second
  simp only [Std.TreeMap.map_fst_toList_eq_keys, Std.TreeMap.mem_keys, counted_member] at first second
  exact apart (first.2.symm.trans second.2)

def frequency (records : List RawCalibrationData) (word : Word) : Int :=
  ((records.filter fun record => record.eventWord = word).map RawCalibrationData.freq).sum

theorem records_frequency (words : List Word) (pool : CalibrationPool)
    (counted : Counted words pool) (word : Word) (few : words.count word < 2 ^ 31) :
    frequency pool.records word = words.count word := by
  have number : ((words.count word % 2 ^ 32 : Nat) : Int).bmod (2 ^ 32) = words.count word := by
    rw [Nat.mod_eq_of_lt (by omega), Int.bmod_def]
    split_ifs <;> omega
  have mine : ∀ record, record ∈ pool.records.filter (fun record => record.eventWord = word) ↔
      word ∈ words ∧ record = ⟨word, words.count word⟩ := by
    rintro ⟨other, freq⟩
    rw [List.mem_filter, mem_counted_records words pool counted, decide_eq_true_eq]
    constructor
    · rintro ⟨⟨came, equal⟩, rfl⟩
      exact ⟨came, congrArg (RawCalibrationData.mk other) (equal.trans number)⟩
    · rintro ⟨came, equal⟩
      obtain ⟨rfl, rfl⟩ := RawCalibrationData.mk.inj equal
      exact ⟨⟨came, number.symm⟩, rfl⟩
  rw [frequency]
  by_cases came : word ∈ words
  · have one : pool.records.filter (fun record => record.eventWord = word) =
        [⟨word, words.count word⟩] := by
      refine List.perm_singleton.mp ((List.perm_ext_iff_of_nodup ?_ (List.nodup_singleton _)).mpr
        fun record => ?_)
      · exact (counted_records_distinct words pool counted).of_map.filter _
      · rw [mine, List.mem_singleton]
        exact and_iff_right came
    rw [one]
    exact List.sum_singleton
  · have none : pool.records.filter (fun record => record.eventWord = word) = [] :=
      List.eq_nil_iff_forall_not_mem.mpr fun record member => came ((mine record).mp member).1
    rw [none, List.count_eq_zero_of_not_mem came]
    rfl

theorem records_length (words : List Word) (pool : CalibrationPool)
    (counted : Counted words pool) : pool.records.length = words.dedup.length := by
  rw [← List.length_map RawCalibrationData.eventWord]
  refine List.Perm.length_eq ((List.perm_ext_iff_of_nodup
    (counted_records_distinct words pool counted) words.nodup_dedup).mpr fun word => ?_)
  rw [List.mem_map, List.mem_dedup]
  constructor
  · rintro ⟨record, member, rfl⟩
    exact ((mem_counted_records words pool counted record).mp member).1
  · intro came
    have listed : ∀ freq, freq = ((words.count word % 2 ^ 32 : Nat) : Int).bmod (2 ^ 32) →
        ⟨word, freq⟩ ∈ pool.records :=
      fun freq number => (mem_counted_records words pool counted ⟨word, freq⟩).mpr ⟨came, number⟩
    exact ⟨_, listed _ rfl, rfl⟩

/-- Only the number of CPUs matters for what a step writes. -/
theorem counted_records_unique (words : List Word) (left right : CalibrationPool)
    (first : Counted words left) (second : Counted words right) (same : left.n_cpu = right.n_cpu) :
    left.records = right.records := by
  rw [CalibrationPool.records, CalibrationPool.records, first, second, same]

section Steps

variable {Value : Type} (printed : Value → Value)

/-- The line of a step written behind `before` records. -/
def lineOf (pool : CalibrationPool) (before : Nat) (step : CalibrationStep Value) :
    IndexLine Value :=
  ⟨64 + 16 * before, 64 + 16 * (before + (step.counting pool).records.length),
    printed step.step1⟩

theorem write_middle_blocks (blocks : List (CalibrationBlock Value))
    (runs : ∀ block ∈ blocks, block.blockType = 1) (writer : CalibrationWriter Value) :
    blocks.foldl (writeBlock printed) writer =
      { writer with
        pool := blocks.foldl (fun pool block => pool.takeBlock block.toBlock) writer.pool } := by
  induction blocks generalizing writer with
  | nil => rfl
  | cons block rest ih =>
      have middle := runs block List.mem_cons_self
      have turn : writeBlock printed writer block =
          { writer with pool := writer.pool.takeBlock block.toBlock } := by
        rw [writeBlock, middle]
        rfl
      rw [List.foldl_cons, turn, ih fun other member => runs other (List.mem_cons_of_mem _ member),
        List.foldl_cons]

theorem step_written (step : CalibrationStep Value) (writer : CalibrationWriter Value) :
    (step.write printed writer).dataFile =
        writer.dataFile ++ (step.counting writer.pool).records ∧
      (step.write printed writer).index =
        writer.index ++ [lineOf printed writer.pool writer.dataFile.length step] ∧
      (step.write printed writer).pool.n_cpu = writer.pool.n_cpu := by
  have opens := step.opens
  have closes := step.closes
  have value := step.valued step.last (by simp)
  have counting : step.counting writer.pool =
      ((step.middle.foldl (fun pool block => pool.takeBlock block.toBlock)
        (writer.pool.clear.takeBlock step.first.toBlock)).takeBlock step.last.toBlock) := by
    rw [CalibrationStep.counting, CalibrationStep.blocks, List.cons_append, List.foldl_cons,
      List.foldl_append]
    rfl
  have written : step.write printed writer =
      { dataFile := writer.dataFile ++ (step.counting writer.pool).records
        index := writer.index ++ [lineOf printed writer.pool writer.dataFile.length step]
        stepStartOffset := writer.ftell
        pool := (step.counting writer.pool).clear } := by
    rw [CalibrationStep.write, CalibrationStep.blocks, List.cons_append, List.foldl_cons,
      List.foldl_append, write_middle_blocks printed step.middle step.runs, List.foldl_cons,
      List.foldl_nil, lineOf, counting, ← value]
    simp only [writeBlock, opens, closes, if_true, CalibrationWriter.ftell, List.length_append]
    rfl
  rw [written]
  exact ⟨rfl, rfl, (step_counting step writer.pool).2⟩

theorem counting_records (step : CalibrationStep Value) (left right : CalibrationPool)
    (same : left.n_cpu = right.n_cpu) :
    (step.counting left).records = (step.counting right).records := by
  obtain ⟨first, sizeFirst⟩ := step_counting step left
  obtain ⟨second, sizeSecond⟩ := step_counting step right
  exact counted_records_unique step.words _ _ first second
    (sizeFirst.trans (same.trans sizeSecond.symm))

def linesFrom (pool : CalibrationPool) : Nat → List (CalibrationStep Value) →
    List (IndexLine Value)
  | _, [] => []
  | before, step :: rest =>
      lineOf printed pool before step ::
        linesFrom pool (before + (step.counting pool).records.length) rest

theorem steps_written (steps : List (CalibrationStep Value)) (pool : CalibrationPool)
    (writer : CalibrationWriter Value) (same : writer.pool.n_cpu = pool.n_cpu) :
    (steps.foldl (CalibrationStep.write printed) writer).dataFile =
        writer.dataFile ++ steps.flatMap (fun step => (step.counting pool).records) ∧
      (steps.foldl (CalibrationStep.write printed) writer).index =
        writer.index ++ linesFrom printed pool writer.dataFile.length steps := by
  induction steps generalizing writer with
  | nil => exact ⟨(List.append_nil _).symm, (List.append_nil _).symm⟩
  | cons step rest ih =>
      obtain ⟨file, index, size⟩ := step_written printed step writer
      have records := counting_records step writer.pool pool same
      have line : lineOf printed writer.pool writer.dataFile.length step =
          lineOf printed pool writer.dataFile.length step := by
        rw [lineOf, records]
        rfl
      obtain ⟨files, lines⟩ := ih (step.write printed writer) (size.trans same)
      rw [List.foldl_cons, files, lines, file, index, records, line, List.flatMap_cons,
        linesFrom, List.length_append]
      exact ⟨List.append_assoc _ _ _, List.append_assoc _ _ _⟩

end Steps

end GramsTof.CalibrationMode
