import GramsTof.FrameRing

/-!
`UDPFrameServer::doWork` for datagrams of any bytes, from a start of the worker
until the acquisition is stopped. A pass of the inner loop is one step: of what
it uses, only the read pointer and the least frame ID belong to other threads.
The buffers and the slots hold anything at the start. A copy past the end of a
buffer ends the model.
-/

namespace GramsTof.DatagramFrames

open RawFrame FrameRing TransitionSystem

/-- What `recv` gives; a longer datagram is cut off. -/
structure Datagram where
  bytes : List UInt8
  fits : bytes.length ≤ 65536

/-- `broken` is behind a copy past the end of a buffer. -/
inductive Worker where
  | receiving
  | parsing
  | broken
  deriving DecidableEq, Repr

/-- A frame in the slot that was published, the word of the datagram its copy
began at, and the least frame ID it was compared with. -/
structure Publication where
  start : Nat
  words : List Word
  minimumFrameID : Nat
  deriving DecidableEq, Repr

/-- `firstByte` is `rxBuffer[0]`; what is behind it is read as far as the datagram
reaches. `position` is `p - dataBuffer`. The last three fields are history, of
the last datagram: its words, the passes over it and what they published. -/
structure State where
  firstByte : UInt8
  dataBuffer : Nat → Word
  devNull : Nat → Word
  slots : Slots
  dataFrameWritePointer : Nat
  worker : Worker
  nWords : Nat
  position : Nat
  datagram : List Word
  passes : Nat
  published : List Publication

/-- The head of the loop, with the pointer and the buffers as they are. -/
def start (firstByte : UInt8) (dataBuffer devNull : Nat → Word) (slots : Slots)
    (dataFrameWritePointer : Nat) : State :=
  { firstByte, dataBuffer, devNull, slots, dataFrameWritePointer
    worker := .receiving
    nWords := 0
    position := 0
    datagram := []
    passes := 0
    published := [] }

inductive Action where
  | receive (datagram : Datagram) (acquisitionMode : Int)
  | pass (dataFrameReadPointer minimumFrameID : Nat)

/-- `memcpy` to the front of a buffer. -/
def overwrite (buffer : Nat → Word) (words : List Word) : Nat → Word := fun index =>
  if index < words.length then words.getD index 0 else buffer index

/-- `rxBuffer[0]` once the datagram is in. -/
def State.received (state : State) (datagram : Datagram) : UInt8 :=
  datagram.bytes.headD state.firstByte

/-- The size of an empty datagram without its first byte wraps around. The
buffer of a reply has 2048 bytes. -/
def State.receive (state : State) (datagram : Datagram) (acquisitionMode : Int) : Option State :=
  match state.worker with
  | .receiving =>
      let firstByte := state.received datagram
      let state := start firstByte state.dataBuffer state.devNull state.slots
        state.dataFrameWritePointer
      if firstByte = 0x5A then
        if datagram.bytes = [] ∨ 2048 < datagram.bytes.length - 1 then
          some { state with worker := .broken }
        else some state
      else if firstByte = 0xA5 ∧ acquisitionMode ≠ 0 then
        if datagram.bytes = [] then some { state with worker := .broken }
        else
          let words := wordsOf datagram.bytes.tail
          some { state with
            dataBuffer := overwrite state.dataBuffer words
            nWords := words.length
            datagram := words
            worker := .parsing }
      else some state
  | _ => none

def State.frameSize (state : State) : Nat := getFrameSize [state.dataBuffer state.position]

/-- The slot `dataFrame` points into, `none` for `devNull`. -/
def State.slot (state : State) (dataFrameReadPointer : Nat) : Option Nat :=
  if isFull state.dataFrameWritePointer dataFrameReadPointer then none
  else some (state.dataFrameWritePointer % maxRawDataFrameQueueSize)

def State.target (state : State) : Option Nat → Nat → Word
  | none => state.devNull
  | some slot => state.slots slot

/-- `dataFrame->data` after the copy. -/
def State.frame (state : State) (slot : Option Nat) : Nat → Word :=
  overwrite (state.target slot)
    ((List.range state.frameSize).map fun i => state.dataBuffer (state.position + i))

def State.CopyFits (state : State) : Prop :=
  state.frameSize ≤ maxRawDataFrameSize ∧ state.position + state.frameSize ≤ maxRawDataFrameSize

instance (state : State) : Decidable state.CopyFits := inferInstanceAs (Decidable (_ ∧ _))

def State.store (state : State) (slot : Option Nat) (frame : Nat → Word) : State :=
  match slot with
  | none => { state with devNull := frame }
  | some slot => { state with slots := Function.update state.slots slot frame }

def frameWords (frame : Nat → Word) : List Word :=
  (List.range (getFrameSize [frame 0])).map frame

/-- The write pointer goes on if the frame is in a slot. -/
def State.publish (state : State) (slot : Option Nat) (publication : Publication) : State :=
  match slot with
  | none => state
  | some _ => { state with
      dataFrameWritePointer := (state.dataFrameWritePointer + 1) % (2 * maxRawDataFrameQueueSize)
      published := state.published ++ [publication] }

/-- A pass up to the copy, and where the loop goes on. -/
def State.passed (state : State) (slot : Option Nat) : State :=
  let behind := state.position + state.frameSize
  { state.store slot (state.frame slot) with
    position := behind
    passes := state.passes + 1
    worker := if behind < state.nWords then .parsing else .receiving }

def State.pass (state : State) (dataFrameReadPointer minimumFrameID : Nat) : Option State :=
  match state.worker with
  | .parsing =>
      if ¬ state.CopyFits then some { state with worker := .broken }
      else
        let slot := state.slot dataFrameReadPointer
        let frame := state.frame slot
        if parseDataFrame [frame 0, frame 1] = false then
          some { state.passed slot with worker := .receiving }
        else if getFrameID [frame 0] < minimumFrameID then some (state.passed slot)
        else some ((state.passed slot).publish slot
          ⟨state.position, frameWords frame, minimumFrameID⟩)
  | _ => none

def step (state : State) : Action → Option State
  | .receive datagram acquisitionMode => state.receive datagram acquisitionMode
  | .pass dataFrameReadPointer minimumFrameID => state.pass dataFrameReadPointer minimumFrameID

/-- The words of the datagram from `start` on are this well-formed frame. -/
structure Publication.WellFormed (datagram : List Word) (publication : Publication) : Prop where
  inside : publication.start + publication.words.length ≤ datagram.length
  words : publication.words = (datagram.drop publication.start).take publication.words.length
  counted : getFrameSize publication.words = publication.words.length
  sized : parseDataFrame publication.words = true
  bounded : publication.words.length ≤ maxRawDataFrameSize
  late : publication.minimumFrameID ≤ getFrameID publication.words

/-- What the worker has published of the last datagram are pieces of it, one
behind the other, and it has not passed over it more often than it has words. -/
structure Sound (state : State) : Prop where
  defined : state.worker ≠ .broken
  wellFormed : ∀ publication ∈ state.published, publication.WellFormed state.datagram
  ordered : state.published.Pairwise fun before behind =>
    before.start + before.words.length ≤ behind.start
  ended : state.passes ≤ max 1 state.datagram.length

/-- The queue is not full and the frame is new enough. -/
def State.publishes (state : State) (dataFrameReadPointer minimumFrameID : Nat) : Prop :=
  isFull state.dataFrameWritePointer dataFrameReadPointer = false ∧
    minimumFrameID ≤ getFrameID [state.frame (state.slot dataFrameReadPointer) 0]

/-- What `parseDataFrame` finds behind the copy. -/
def State.consistent (state : State) (dataFrameReadPointer : Nat) : Prop :=
  let frame := state.frame (state.slot dataFrameReadPointer)
  parseDataFrame [frame 0, frame 1] = true

/-- An empty datagram is not taken for a message by the byte before it, and a
reply fits its buffer. A pass copies within the buffers; where the size is 0 the
old header in the slot stops the loop; and a frame that is published ends
within the datagram. -/
def Harmless (state : State) : Action → Prop
  | .receive datagram acquisitionMode =>
      (state.received datagram = 0x5A → datagram.bytes ≠ [] ∧ datagram.bytes.length ≤ 2049) ∧
      (state.received datagram = 0xA5 → acquisitionMode ≠ 0 → datagram.bytes ≠ [])
  | .pass dataFrameReadPointer minimumFrameID =>
      state.CopyFits ∧ (state.consistent dataFrameReadPointer →
        (state.position < state.nWords → 0 < state.frameSize) ∧
        (state.publishes dataFrameReadPointer minimumFrameID →
          0 < state.frameSize ∧ state.position + state.frameSize ≤ state.nWords))

instance (state : State) (dataFrameReadPointer minimumFrameID : Nat) :
    Decidable (state.publishes dataFrameReadPointer minimumFrameID) :=
  inferInstanceAs (Decidable (_ ∧ _))

instance (state : State) (dataFrameReadPointer : Nat) :
    Decidable (state.consistent dataFrameReadPointer) :=
  inferInstanceAs (Decidable (parseDataFrame _ = true))

instance decidableHarmless (state : State) : (action : Action) → Decidable (Harmless state action)
  | .receive _ _ => inferInstanceAs (Decidable ((_ → _ ∧ _) ∧ (_ → _ → _)))
  | .pass _ _ => inferInstanceAs (Decidable (_ ∧ (_ → (_ → _) ∧ (_ → _ ∧ _))))

structure Passed (state next : State) : Prop where
  dataBuffer : next.dataBuffer = state.dataBuffer
  nWords : next.nWords = state.nWords
  datagram : next.datagram = state.datagram
  position : next.position = state.position + state.frameSize
  passes : next.passes = state.passes + 1
  slots : ∀ other, other ≠ state.dataFrameWritePointer % maxRawDataFrameQueueSize →
    next.slots other = state.slots other

inductive PassEnd (state next : State) (dataFrameReadPointer minimumFrameID : Nat) : Prop where
  | stopped (inconsistent : ¬ state.consistent dataFrameReadPointer)
      (worker : next.worker = .receiving) (published : next.published = state.published)
  | dropped (consistent : state.consistent dataFrameReadPointer)
      (unpublished : ¬ state.publishes dataFrameReadPointer minimumFrameID)
      (same : next = state.passed (state.slot dataFrameReadPointer))
  | published (consistent : state.consistent dataFrameReadPointer)
      (publishes : state.publishes dataFrameReadPointer minimumFrameID)
      (worker : next.worker = if next.position < state.nWords then .parsing else .receiving)
      (published : next.published = state.published ++ [⟨state.position,
        frameWords (state.frame (state.slot dataFrameReadPointer)), minimumFrameID⟩])

theorem slot_none_iff (state : State) (dataFrameReadPointer : Nat) :
    state.slot dataFrameReadPointer = none ↔
      isFull state.dataFrameWritePointer dataFrameReadPointer = true := by
  rw [State.slot]
  by_cases full : isFull state.dataFrameWritePointer dataFrameReadPointer = true
  · rw [if_pos full]
    exact iff_of_true rfl full
  · rw [if_neg full]
    exact iff_of_false (Option.some_ne_none _) full

theorem slot_some (state : State) (dataFrameReadPointer slot : Nat)
    (isSlot : state.slot dataFrameReadPointer = some slot) :
    slot = state.dataFrameWritePointer % maxRawDataFrameQueueSize := by
  rw [State.slot, Option.ite_none_left_eq_some] at isSlot
  exact (Option.some.inj isSlot.2).symm

theorem passed_fields (state : State) (slot : Option Nat)
    (own : ∀ place, slot = some place →
      place = state.dataFrameWritePointer % maxRawDataFrameQueueSize) :
    Passed state (state.passed slot) := by
  cases slot with
  | none => exact ⟨rfl, rfl, rfl, rfl, rfl, fun _ _ => rfl⟩
  | some place =>
      refine ⟨rfl, rfl, rfl, rfl, rfl, fun other apart => ?_⟩
      exact Function.update_of_ne (own place rfl ▸ apart) _ _

theorem passed_worker (state : State) (slot : Option Nat) :
    (state.passed slot).worker =
      if (state.passed slot).position < state.nWords then .parsing else .receiving := rfl

theorem passed_published (state : State) (slot : Option Nat) :
    (state.passed slot).published = state.published := by
  cases slot <;> rfl

theorem pass_cases (state next : State) (dataFrameReadPointer minimumFrameID : Nat)
    (stepped : state.pass dataFrameReadPointer minimumFrameID = some next) :
    state.worker = .parsing ∧ (¬ state.CopyFits ∧ next = { state with worker := .broken } ∨
      state.CopyFits ∧ Passed state next ∧
        PassEnd state next dataFrameReadPointer minimumFrameID) := by
  unfold State.pass at stepped
  split at stepped
  · rename_i parsing
    refine ⟨parsing, ?_⟩
    by_cases fits : state.CopyFits
    · right
      refine ⟨fits, ?_⟩
      rw [if_neg (not_not.mpr fits)] at stepped
      dsimp only at stepped
      generalize slotIs : state.slot dataFrameReadPointer = slot at stepped
      have passed := passed_fields state slot fun place same =>
        slot_some state dataFrameReadPointer place (slotIs.trans same)
      by_cases consistent : state.consistent dataFrameReadPointer
      · have parsed := consistent
        rw [State.consistent, slotIs] at parsed
        rw [parsed, if_neg (by decide)] at stepped
        split_ifs at stepped with old
        · cases stepped
          refine ⟨passed, .dropped consistent ?_ (by rw [slotIs])⟩
          rw [State.publishes, slotIs]
          exact fun publishes => absurd publishes.2 (Nat.not_le.mpr old)
        · cases slot with
          | none =>
              cases stepped
              refine ⟨passed, .dropped consistent ?_ (by rw [slotIs]; rfl)⟩
              rw [State.publishes, (slot_none_iff state _).mp slotIs]
              exact fun publishes => by cases publishes.1
          | some place =>
              cases stepped
              refine ⟨⟨rfl, rfl, rfl, rfl, rfl, passed.slots⟩, .published consistent ⟨?_, ?_⟩ rfl ?_⟩
              · rw [← Bool.not_eq_true, ← slot_none_iff, slotIs]
                exact Option.some_ne_none place
              · rw [slotIs]
                exact Nat.not_lt.mp old
              · rw [slotIs]
                rfl
      · have unparsed := consistent
        rw [State.consistent, slotIs, Bool.not_eq_true] at unparsed
        rw [unparsed, if_pos rfl] at stepped
        cases stepped
        exact ⟨⟨passed.dataBuffer, passed.nWords, passed.datagram, passed.position, passed.passes,
          passed.slots⟩, .stopped consistent rfl (passed_published state slot)⟩
    · rw [if_pos fits] at stepped
      exact Or.inl ⟨fits, (Option.some.inj stepped).symm⟩
  · cases stepped

section Copied
variable (state : State) (slot : Option Nat)

theorem frame_copied (i : Nat) (inside : i < state.frameSize) :
    state.frame slot i = state.dataBuffer (state.position + i) := by
  simp [State.frame, overwrite, inside]

theorem frame_counted (some : 0 < state.frameSize) :
    getFrameSize [state.frame slot 0] = state.frameSize := by
  rw [frame_copied state slot 0 some]
  rfl

theorem frame_words (some : 0 < state.frameSize) :
    frameWords (state.frame slot) =
      (List.range state.frameSize).map fun i => state.dataBuffer (state.position + i) := by
  rw [frameWords, frame_counted state slot some]
  exact List.map_congr_left fun i member => frame_copied state slot i (List.mem_range.mp member)

theorem consistent_two (data : List Word) (consistent : parseDataFrame data = true) :
    2 ≤ getFrameSize data := by
  rw [parseDataFrame, beq_iff_eq] at consistent
  omega

theorem frame_two (some : 0 < state.frameSize)
    (consistent : parseDataFrame [state.frame slot 0, state.frame slot 1] = true) :
    2 ≤ state.frameSize := by
  have two := consistent_two _ consistent
  rw [← frame_counted state slot some]
  exact two

theorem piece_words (datagram : List Word)
    (copied : ∀ i < datagram.length, state.dataBuffer i = datagram.getD i 0)
    (inside : state.position + state.frameSize ≤ datagram.length) :
    (List.range state.frameSize).map (fun i => state.dataBuffer (state.position + i)) =
      (datagram.drop state.position).take state.frameSize := by
  apply List.ext_getElem
  · simp
    omega
  · intro i _ _
    simp only [List.getElem_map, List.getElem_range, List.getElem_take, List.getElem_drop]
    rw [copied _ (by simp_all; omega), List.getD_eq_getElem _ _ (by simp_all; omega)]

theorem published_wellFormed (datagram : List Word) (minimumFrameID : Nat)
    (copied : ∀ i < datagram.length, state.dataBuffer i = datagram.getD i 0)
    (fits : state.CopyFits) (some : 0 < state.frameSize)
    (consistent : parseDataFrame [state.frame slot 0, state.frame slot 1] = true)
    (late : minimumFrameID ≤ getFrameID [state.frame slot 0])
    (inside : state.position + state.frameSize ≤ datagram.length) :
    (⟨state.position, frameWords (state.frame slot), minimumFrameID⟩ : Publication).WellFormed
      datagram := by
  have two := frame_two state slot some consistent
  have words := frame_words state slot some
  have long : (frameWords (state.frame slot)).length = state.frameSize := by
    rw [words, List.length_map, List.length_range]
  have first : (frameWords (state.frame slot)).getD 0 0 = state.frame slot 0 := by
    rw [words, frame_copied state slot 0 some]
    simp [some]
  have second : (frameWords (state.frame slot)).getD 1 0 = state.frame slot 1 := by
    rw [words, frame_copied state slot 1 two]
    simp [show 1 < state.frameSize from two]
  have counted : getFrameSize (frameWords (state.frame slot)) = getFrameSize [state.frame slot 0] := by
    rw [getFrameSize, first]
    rfl
  refine ⟨?_, ?_, ?_, ?_, ?_, ?_⟩
  · rwa [long]
  · rw [long, words, piece_words state datagram copied inside]
  · rw [counted, long, frame_counted state slot some]
  · rw [parseDataFrame, counted, second]
    exact consistent
  · rw [long]
    exact fits.1
  · rw [getFrameID, first]
    exact late

end Copied

/-- What holds between two passes besides. -/
structure Inv (state : State) : Prop extends Sound state where
  counted : state.nWords = state.datagram.length
  copied : ∀ i < state.datagram.length, state.dataBuffer i = state.datagram.getD i 0
  behind : ∀ publication ∈ state.published,
    publication.start + publication.words.length ≤ state.position
  going : state.worker = .parsing → state.position < state.nWords ∨ state.passes = 0
  advanced : state.worker = .parsing → 2 * state.passes ≤ state.position

theorem start_inv (firstByte : UInt8) (dataBuffer devNull : Nat → Word) (slots : Slots)
    (dataFrameWritePointer : Nat) :
    Inv (start firstByte dataBuffer devNull slots dataFrameWritePointer) where
  defined := by rintro ⟨⟩
  wellFormed := fun _ member => by cases member
  ordered := List.Pairwise.nil
  ended := Nat.zero_le _
  counted := rfl
  copied := fun _ wrong => absurd wrong (Nat.not_lt_zero _)
  behind := fun _ member => by cases member
  going := fun wrong => by cases wrong
  advanced := fun wrong => by cases wrong

theorem receive_inv (state next : State) (datagram : Datagram) (acquisitionMode : Int)
    (stepped : state.receive datagram acquisitionMode = some next)
    (harmless : Harmless state (.receive datagram acquisitionMode)) : Inv next := by
  obtain ⟨reply, data⟩ := harmless
  unfold State.receive at stepped
  split at stepped
  · dsimp only at stepped
    split_ifs at stepped with isReply long isData empty
    · have fits := reply isReply
      rcases long with empty | long
      · exact absurd empty fits.1
      · omega
    · cases stepped
      exact start_inv _ _ _ _ _
    · exact absurd empty (data isData.1 isData.2)
    · cases stepped
      exact {
        defined := by rintro ⟨⟩
        wellFormed := fun _ member => by cases member
        ordered := List.Pairwise.nil
        ended := Nat.zero_le _
        counted := rfl
        copied := fun i inside => if_pos inside
        behind := fun _ member => by cases member
        going := fun _ => Or.inr rfl
        advanced := fun _ => Nat.zero_le _ }
    · cases stepped
      exact start_inv _ _ _ _ _
  · cases stepped

/-- Before a pass the words have not all been passed over. -/
theorem Inv.passes_left {state : State} (inv : Inv state) (parsing : state.worker = .parsing) :
    state.passes + 1 ≤ max 1 state.datagram.length := by
  have advanced := inv.advanced parsing
  have counted := inv.counted
  rcases inv.going parsing with inside | first
  · omega
  · omega

theorem pass_inv (state next : State) (dataFrameReadPointer minimumFrameID : Nat)
    (inv : Inv state) (stepped : state.pass dataFrameReadPointer minimumFrameID = some next)
    (harmless : Harmless state (.pass dataFrameReadPointer minimumFrameID)) : Inv next := by
  obtain ⟨fits, safe⟩ := harmless
  obtain ⟨parsing, ⟨wrong, _⟩ | ⟨_, passed, ended⟩⟩ := pass_cases state next _ _ stepped
  · exact absurd fits wrong
  have left := inv.passes_left parsing
  have counted : next.nWords = next.datagram.length := by
    rw [passed.nWords, passed.datagram, inv.counted]
  have copied : ∀ i < next.datagram.length, next.dataBuffer i = next.datagram.getD i 0 := by
    rw [passed.datagram, passed.dataBuffer]
    exact inv.copied
  have behind : ∀ publication ∈ state.published,
      publication.start + publication.words.length ≤ next.position := by
    intro publication member
    rw [passed.position]
    exact Nat.le_add_right_of_le (inv.behind publication member)
  have passes : next.passes ≤ max 1 next.datagram.length := by
    rwa [passed.passes, passed.datagram]
  -- where the loop goes on, the frame had its header
  have advanced : ∀ (consistent : state.consistent dataFrameReadPointer), next.worker =
      (if next.position < state.nWords then .parsing else .receiving) → next.worker = .parsing →
        next.position < next.nWords ∧ 2 * next.passes ≤ next.position := by
    intro consistent worker going
    rw [worker] at going
    split_ifs at going with inside
    have some := (safe consistent).1 (by rw [passed.position] at inside; omega)
    have two := frame_two state _ some consistent
    have before := inv.advanced parsing
    rw [passed.nWords, passed.passes]
    rw [passed.position] at inside ⊢
    omega
  cases ended with
  | stopped inconsistent worker published =>
      refine ⟨⟨?_, ?_, ?_, passes⟩, counted, copied, ?_, ?_, ?_⟩
      · rw [worker]
        rintro ⟨⟩
      · rw [published, passed.datagram]
        exact inv.wellFormed
      · rw [published]
        exact inv.ordered
      · rw [published]
        exact behind
      · rw [worker]
        rintro ⟨⟩
      · rw [worker]
        rintro ⟨⟩
  | dropped consistent unpublished same =>
      have worker : next.worker = if next.position < state.nWords then .parsing else .receiving := by
        rw [same]
        exact passed_worker state _
      have published : next.published = state.published := by
        rw [same]
        exact passed_published state _
      refine ⟨⟨?_, ?_, ?_, passes⟩, counted, copied, ?_, ?_, ?_⟩
      · rw [worker]
        split_ifs <;> rintro ⟨⟩
      · rw [published, passed.datagram]
        exact inv.wellFormed
      · rw [published]
        exact inv.ordered
      · rw [published]
        exact behind
      · exact fun going => Or.inl (advanced consistent worker going).1
      · exact fun going => (advanced consistent worker going).2
  | published consistent publishes worker published =>
      obtain ⟨some, inside⟩ := (safe consistent).2 publishes
      have wellFormed := published_wellFormed state (state.slot dataFrameReadPointer)
        state.datagram minimumFrameID inv.copied fits some consistent publishes.2
        (inv.counted ▸ inside)
      have long : (frameWords (state.frame (state.slot dataFrameReadPointer))).length =
          state.frameSize := by
        rw [frame_words state _ some, List.length_map, List.length_range]
      refine ⟨⟨?_, ?_, ?_, passes⟩, counted, copied, ?_, ?_, ?_⟩
      · rw [worker]
        split_ifs <;> rintro ⟨⟩
      · rw [published, passed.datagram]
        intro publication member
        rcases List.mem_append.mp member with old | new
        · exact inv.wellFormed publication old
        · rw [List.mem_singleton.mp new]
          exact wellFormed
      · rw [published, List.pairwise_append]
        refine ⟨inv.ordered, List.pairwise_singleton _ _, ?_⟩
        intro before member publication new
        rw [List.mem_singleton.mp new]
        exact inv.behind before member
      · rw [published]
        intro publication member
        rcases List.mem_append.mp member with old | new
        · exact behind publication old
        · rw [List.mem_singleton.mp new, passed.position, long]
      · exact fun going => Or.inl (advanced consistent worker going).1
      · exact fun going => (advanced consistent worker going).2

theorem step_inv (state : State) (action : Action) (next : State) (inv : Inv state)
    (stepped : step state action = some next) (harmless : Harmless state action) : Inv next := by
  cases action with
  | receive datagram acquisitionMode =>
      exact receive_inv state next datagram acquisitionMode stepped harmless
  | pass dataFrameReadPointer minimumFrameID =>
      exact pass_inv state next _ _ inv stepped harmless

/-- A frame of size 0 that is not published, while an old header in its place
keeps the loop going. -/
structure Stuck (dataFrameReadPointer minimumFrameID : Nat) (state : State) : Prop where
  parsing : state.worker = .parsing
  inside : state.position < state.nWords
  fits : state.CopyFits
  empty : state.frameSize = 0
  consistent : state.consistent dataFrameReadPointer
  unpublished : ¬ state.publishes dataFrameReadPointer minimumFrameID

theorem empty_frame (state : State) (slot : Option Nat) (empty : state.frameSize = 0) :
    state.frame slot = state.target slot := by
  rw [State.frame, empty]
  rfl

theorem pass_total (state : State) (dataFrameReadPointer minimumFrameID : Nat)
    (parsing : state.worker = .parsing) :
    ∃ next, state.pass dataFrameReadPointer minimumFrameID = some next := by
  rw [State.pass, parsing]
  dsimp only
  split_ifs
  · exact ⟨_, rfl⟩
  · exact ⟨_, rfl⟩
  · exact ⟨_, rfl⟩
  · exact ⟨_, rfl⟩

theorem stuck_passed (state : State) (dataFrameReadPointer minimumFrameID : Nat)
    (stuck : Stuck dataFrameReadPointer minimumFrameID state) :
    Stuck dataFrameReadPointer minimumFrameID (state.passed (state.slot dataFrameReadPointer)) := by
  generalize slotIs : state.slot dataFrameReadPointer = slot
  have passed := passed_fields state slot fun place same =>
    slot_some state dataFrameReadPointer place (slotIs.trans same)
  have position : (state.passed slot).position = state.position := by
    rw [passed.position, stuck.empty, Nat.add_zero]
  have empty : (state.passed slot).frameSize = 0 := by
    rw [State.frameSize, position, passed.dataBuffer]
    exact stuck.empty
  have sameSlot : (state.passed slot).slot dataFrameReadPointer = slot := by
    refine Eq.trans ?_ slotIs
    cases slot <;> rfl
  have sameFrame : (state.passed slot).frame slot = state.frame slot := by
    rw [empty_frame _ _ empty]
    cases slot with
    | none => rfl
    | some place => exact Function.update_self _ _ _
  refine ⟨?_, ?_, ?_, empty, ?_, ?_⟩
  · rw [passed_worker, position, if_pos stuck.inside]
  · rw [position, passed.nWords]
    exact stuck.inside
  · rw [State.CopyFits, empty, position]
    have fits := stuck.fits
    rwa [State.CopyFits, stuck.empty] at fits
  · have consistent := stuck.consistent
    rw [State.consistent, slotIs] at consistent
    rw [State.consistent, sameSlot, sameFrame]
    exact consistent
  · have unpublished := stuck.unpublished
    rw [State.publishes, slotIs] at unpublished
    rw [State.publishes, sameSlot, sameFrame]
    cases slot <;> exact unpublished

theorem stuck_pass (state : State) (dataFrameReadPointer minimumFrameID : Nat)
    (stuck : Stuck dataFrameReadPointer minimumFrameID state) :
    state.pass dataFrameReadPointer minimumFrameID =
      some (state.passed (state.slot dataFrameReadPointer)) := by
  obtain ⟨next, stepped⟩ := pass_total state dataFrameReadPointer minimumFrameID stuck.parsing
  obtain ⟨_, ⟨wrong, _⟩ | ⟨_, _, ended⟩⟩ := pass_cases state next _ _ stepped
  · exact absurd stuck.fits wrong
  cases ended with
  | stopped inconsistent _ _ => exact absurd stuck.consistent inconsistent
  | dropped _ _ same => rw [stepped, same]
  | published _ publishes _ _ => exact absurd publishes stuck.unpublished

theorem stuck_run (count : Nat) (state : State) (dataFrameReadPointer minimumFrameID : Nat)
    (stuck : Stuck dataFrameReadPointer minimumFrameID state) :
    ∃ more final, run step state more = some final ∧ final.passes = state.passes + count ∧
      final.datagram = state.datagram := by
  induction count generalizing state with
  | zero => exact ⟨[], state, rfl, rfl, rfl⟩
  | succ count ih =>
      obtain ⟨more, final, ran, passes, datagram⟩ := ih _ (stuck_passed state _ _ stuck)
      have passed := passed_fields state (state.slot dataFrameReadPointer) fun place same =>
        slot_some state dataFrameReadPointer place same
      refine ⟨.pass dataFrameReadPointer minimumFrameID :: more, final, ?_, ?_, ?_⟩
      · rw [run, step, stuck_pass state _ _ stuck]
        exact ran
      · rw [passes, passed.passes]
        omega
      · rw [datagram, passed.datagram]

theorem receive_broken (state next : State) (datagram : Datagram) (acquisitionMode : Int)
    (stepped : state.receive datagram acquisitionMode = some next)
    (harmful : ¬ Harmless state (.receive datagram acquisitionMode)) : ¬ Sound next := by
  intro sound
  apply harmful
  unfold State.receive at stepped
  split at stepped
  · dsimp only at stepped
    split_ifs at stepped with isReply long isData empty
    · cases stepped
      exact absurd rfl sound.defined
    · refine ⟨fun _ => ?_, fun isData => ?_⟩
      · rw [not_or] at long
        exact ⟨long.1, by omega⟩
      · rw [isReply] at isData
        cases isData
    · cases stepped
      exact absurd rfl sound.defined
    · exact ⟨fun reply => absurd reply isReply, fun _ _ => empty⟩
    · exact ⟨fun reply => absurd reply isReply, fun data acquires => absurd ⟨data, acquires⟩ isData⟩
  · cases stepped

theorem published_unsound (state next : State) (dataFrameReadPointer minimumFrameID : Nat)
    (inv : Inv state) (passed : Passed state next)
    (published : next.published = state.published ++ [⟨state.position,
      frameWords (state.frame (state.slot dataFrameReadPointer)), minimumFrameID⟩])
    (wrong : ¬ (0 < state.frameSize ∧ state.position + state.frameSize ≤ state.nWords)) :
    ¬ Sound next := by
  intro sound
  have wellFormed := sound.wellFormed _ (by rw [published]; exact List.mem_append_right _ List.mem_cons_self)
  rw [passed.datagram] at wellFormed
  have inside := wellFormed.inside
  dsimp only at inside
  by_cases some : 0 < state.frameSize
  · apply wrong
    rw [frame_words state _ some, List.length_map, List.length_range, ← inv.counted] at inside
    exact ⟨some, inside⟩
  · -- the header of the datagram counts no words, and the published frame has two
    have two := consistent_two _ wellFormed.sized
    have long := wellFormed.counted
    have same := wellFormed.words
    dsimp only at two long same
    have here : (frameWords (state.frame (state.slot dataFrameReadPointer))).getD 0 0 =
        state.dataBuffer state.position := by
      rw [inv.copied _ (by omega), same]
      simp only [List.getD_eq_getElem?_getD, List.getElem?_take, List.getElem?_drop, Nat.add_zero]
      rw [if_pos (by omega)]
    rw [getFrameSize, here] at two
    have empty : state.frameSize = 0 := by omega
    rw [State.frameSize, getFrameSize] at empty
    simp only [List.getD_cons_zero] at empty
    omega

theorem pass_unsound (state next : State) (dataFrameReadPointer minimumFrameID : Nat)
    (inv : Inv state) (stepped : state.pass dataFrameReadPointer minimumFrameID = some next)
    (harmful : ¬ Harmless state (.pass dataFrameReadPointer minimumFrameID)) :
    ∃ more final, run step next more = some final ∧ ¬ Sound final := by
  obtain ⟨parsing, ⟨_, rfl⟩ | ⟨fits, passed, ended⟩⟩ := pass_cases state next _ _ stepped
  · exact ⟨[], _, rfl, fun sound => sound.defined rfl⟩
  cases ended with
  | stopped inconsistent _ _ =>
      exact absurd ⟨fits, fun consistent => absurd consistent inconsistent⟩ harmful
  | dropped consistent unpublished same =>
      by_cases going : state.position < state.nWords ∧ state.frameSize = 0
      · have stuck : Stuck dataFrameReadPointer minimumFrameID state :=
          ⟨parsing, going.1, fits, going.2, consistent, unpublished⟩
        obtain ⟨more, final, ran, passes, datagram⟩ := stuck_run (state.datagram.length + 1) _ _ _
          (stuck_passed state _ _ stuck)
        refine ⟨more, final, same ▸ ran, fun sound => ?_⟩
        have ended := sound.ended
        have some : 0 < state.datagram.length := by
          rw [← inv.counted]
          exact Nat.zero_lt_of_lt going.1
        rw [same] at passed
        rw [passes, datagram, passed.datagram] at ended
        omega
      · exact absurd ⟨fits, fun _ => ⟨fun inside => by omega, fun publishes =>
          absurd publishes unpublished⟩⟩ harmful
  | published _ publishes _ published =>
      refine ⟨[], next, rfl, published_unsound state next _ _ inv passed published ?_⟩
      intro right
      exact harmful ⟨fits, fun _ => ⟨fun _ => right.1, fun _ => right⟩⟩

theorem step_unsound (state : State) (action : Action) (next : State) (inv : Inv state)
    (stepped : step state action = some next) (harmful : ¬ Harmless state action) :
    ∃ more final, run step next more = some final ∧ ¬ Sound final := by
  cases action with
  | receive datagram acquisitionMode =>
      exact ⟨[], next, rfl, receive_broken state next datagram acquisitionMode stepped harmful⟩
  | pass dataFrameReadPointer minimumFrameID =>
      exact pass_unsound state next _ _ inv stepped harmful

/-- No other slot is written than the one to be published next. -/
theorem own_slot (state : State) (action : Action) (next : State)
    (stepped : step state action = some next) (defined : next.worker ≠ .broken) (other : Nat)
    (apart : other ≠ state.dataFrameWritePointer % maxRawDataFrameQueueSize) :
    next.slots other = state.slots other := by
  cases action with
  | receive datagram acquisitionMode =>
      rw [step, State.receive] at stepped
      split at stepped
      · dsimp only at stepped
        split_ifs at stepped <;> cases stepped <;> rfl
      · cases stepped
  | pass dataFrameReadPointer minimumFrameID =>
      obtain ⟨_, ⟨_, rfl⟩ | ⟨_, passed, _⟩⟩ := pass_cases state next _ _ stepped
      · exact absurd rfl defined
      · exact passed.slots other apart

/-- From any buffers, slots and pointers on: where all steps are harmless, only
frames of the last datagram are published; the first step that is not can lead
to a state where they are not, or the loop has not ended. -/
theorem datagram_frames_published (firstByte : UInt8) (dataBuffer devNull : Nat → Word)
    (slots : Slots) (dataFrameWritePointer : Nat) (initial : State)
    (begins : initial = start firstByte dataBuffer devNull slots dataFrameWritePointer) :
    (∀ actions, Along step Harmless initial actions → Throughout step Sound initial actions) ∧
    (∀ actions state action next, run step initial actions = some state →
      step state action = some next → next.worker ≠ .broken →
      ∀ other, other ≠ state.dataFrameWritePointer % maxRawDataFrameQueueSize →
        next.slots other = state.slots other) ∧
    ∀ actions state action next, Along step Harmless initial actions →
      run step initial actions = some state → step state action = some next →
      ¬ Harmless state action → ∃ more final, run step next more = some final ∧ ¬ Sound final := by
  have begun : Inv initial := begins ▸ start_inv _ _ _ _ _
  refine ⟨fun actions => ?_, fun actions state action next _ => own_slot state action next, ?_⟩
  · exact throughout_along step (fun state inv => inv.toSound) step_inv actions initial begun
  · intro actions state action next along ran stepped harmful
    have inv := run_keeps step step_inv actions initial state begun along ran
    exact step_unsound state action next inv stepped harmful

def zeroed : State := start 0 (fun _ => 0) (fun _ => 0) (fun _ _ => 0) 0

/-- A frame without events, one with an event, and the loop over both. -/
def twoFrames : List Action :=
  [.receive ⟨[0xA5, 7, 0, 0, 0, 0x20, 0, 0, 0, 0, 0, 0, 0, 0, 0, 0, 0,
      8, 0, 0, 0, 0x30, 0, 0, 0, 1, 0, 0, 0, 0, 0, 0, 0, 0x2A, 0, 0, 0, 0, 0, 0, 0], by decide⟩ 1,
    .pass 0 0, .pass 0 0]

theorem two_frames_harmless : Along step Harmless zeroed twoFrames := by decide +kernel

/-- Both frames are published, from where they are in the datagram. -/
theorem datagram_frames_published_two :
    ∃ final, run step zeroed twoFrames = some final ∧ Sound final ∧
      final.published = [⟨0, [0x2000000007, 0], 0⟩, ⟨2, [0x3000000008, 1, 42], 0⟩] := by
  have ran : (run step zeroed twoFrames).map (fun state => state.published) =
      some [⟨0, [0x2000000007, 0], 0⟩, ⟨2, [0x3000000008, 1, 42], 0⟩] := by decide +kernel
  obtain ⟨final, reached, published⟩ := Option.map_eq_some_iff.mp ran
  obtain ⟨kept, _, _⟩ :=
    datagram_frames_published 0 (fun _ => 0) (fun _ => 0) (fun _ _ => 0) 0 zeroed rfl
  have throughout := kept twoFrames two_frames_harmless
  exact ⟨final, reached, throughout_last step twoFrames zeroed final throughout reached, published⟩

/-- A frame without events, and a datagram that ends behind its first byte. -/
def emptyAfterFrame : List Action :=
  [.receive ⟨[0xA5, 0, 0, 0, 0, 0x20, 0, 0, 0, 0, 0, 0, 0, 0, 0, 0, 0], by decide⟩ 1, .pass 0 0,
    .receive ⟨[0xA5], by decide⟩ 1, .pass 0 0]

/-- The frame of the first datagram is published for the second one too. -/
theorem stale_frame_published : ¬ ∀ actions, Throughout step Sound zeroed actions := by
  intro always
  have ran : (run step zeroed emptyAfterFrame).map (fun state =>
      (state.published.map fun publication => publication.words.length, state.datagram.length)) =
      some ([2], 0) := by decide +kernel
  obtain ⟨final, reached, shows⟩ := Option.map_eq_some_iff.mp ran
  have sound := throughout_last step emptyAfterFrame zeroed final (always emptyAfterFrame) reached
  obtain ⟨lengths, words⟩ := Prod.mk.inj shows
  obtain ⟨publication, only, two⟩ := List.map_eq_singleton_iff.mp lengths
  have inside := (sound.wellFormed publication (by rw [only]; exact List.mem_cons_self)).inside
  omega

end GramsTof.DatagramFrames
