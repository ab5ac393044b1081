import GramsTof.FrameRing

/-!
How many frames a call of `DAQD.acquire` hands to `write_raw`. The loop is left
when the ID of the last frame is no longer below that of the first plus the
number of frames asked for.
-/

namespace GramsTof.AcquiredFrames

open RawFrame RingPointers FrameRing TransitionSystem

/-- The ring with the frames asked for by the last call. -/
structure Call where
  state : State
  nRequiredFrames : Int

def callStep (call : Call) (action : Action) : Option Call :=
  (step call.state action).map fun next =>
    { state := next
      nRequiredFrames := match action with
        | .acquire required => required
        | _ => call.nRequiredFrames }

def uncalled (slots : Slots) : Call := { state := started slots, nRequiredFrames := 0 }

def frameIDAt (state : State) (position : Nat) : Int :=
  getFrameID (state.published.getD position [])

def startFrame (state : State) : Int := frameIDAt state state.skipped.length

def currentFrame (state : State) (count : Nat) : Int :=
  frameIDAt state (state.skipped.length + (count - 1))

/-- Each frame of the call and the next are related. -/
def Successive (related : Int → Int → Prop) (state : State) : Prop :=
  ∀ position, state.skipped.length ≤ position → position + 1 < state.published.length →
    related (frameIDAt state position) (frameIDAt state (position + 1))

def Contiguous : State → Prop := Successive fun id next => next = id + 1

def Increasing : State → Prop := Successive (· < ·)

def takenIDs (state : State) : List Int := state.taken.map fun words => (getFrameID words : Int)

def LoopEnded : Consumer → Prop
  | .idle => True
  | .writing .endBlock _ _ _ => True
  | .answered .endBlock _ => True
  | .releasing .endBlock _ => True
  | _ => False

def LoopGoesOn : Consumer → Prop
  | .pollWrite (.block _ _) => True
  | .pollRead (.block _ _) _ => True
  | _ => False

/-- The frames in the blocks are so many, from the first on. -/
def Takes (state : State) (count : Int) : Prop :=
  takenIDs state = (List.range count.toNat).map fun offset : Nat => startFrame state + offset

/-- No frame taken is at or behind the last one asked for. -/
def ShortOfTarget (call : Call) : Prop :=
  ∀ id ∈ takenIDs call.state, id < startFrame call.state + call.nRequiredFrames - 1

structure TakesRequired (call : Call) : Prop where
  exact : LoopEnded call.state.consumer → Contiguous call.state →
    Takes call.state call.nRequiredFrames
  stops : LoopGoesOn call.state.consumer → Increasing call.state → ShortOfTarget call

/-- What a call does: one frame more, and no end at a block whose last frame is
the last one asked for. -/
structure TakesOneMore (call : Call) : Prop where
  more : LoopEnded call.state.consumer → Contiguous call.state →
    Takes call.state (call.nRequiredFrames + 1) ∧ ¬ Takes call.state call.nRequiredFrames
  stops : LoopGoesOn call.state.consumer → Increasing call.state →
    (ShortOfTarget call ↔ ∀ id ∈ (takenIDs call.state).getLast?,
      id ≠ startFrame call.state + call.nRequiredFrames - 1)

/-- The loop in front of its test. -/
structure Opened (required : Int) (state : State) (current stop : Int) : Prop where
  some : state.skipped.length < state.published.length
  ordered : state.skipped.length ≤ state.released
  before : current = currentFrame state (state.released - state.skipped.length)
  target : stop = startFrame state + required

/-- A block up to the frame with the number `finish`, no larger than what is
left to the target. -/
structure InBlock (required : Int) (state : State) (current stop : Int) (finish : Nat) : Prop
    extends Opened required state current stop where
  short : current < stop
  nonempty : state.released < finish
  capped : (finish : Int) - state.released ≤ stop - current

def Finished (required : Int) (state : State) : Prop :=
  1 ≤ required → Contiguous state → (state.taken.length : Int) = required + 1

/-- Where the consumer is in a call for so many frames. -/
def Acquires (required : Int) (state : State) : Consumer → Prop
  | .idle => Finished required state
  | .pollWrite (.synchronize asked) => asked = required
  | .pollRead (.synchronize asked) _ => asked = required
  | .releasing (.synchronize asked) _ => asked = required ∧ state.taken = []
  | .pollWrite (.first asked) => asked = required ∧ state.taken = []
  | .pollRead (.first asked) _ => asked = required ∧ state.taken = []
  | .writing (.startBlock current stop) readPointer writePointer words =>
      (Opened required state current stop ∧ state.taken = []) ∧ readPointer = writePointer ∧
        words = []
  | .answered (.startBlock current stop) _ =>
      Opened required state current stop ∧ state.taken = []
  | .releasing (.startBlock current stop) _ =>
      Opened required state current stop ∧ state.taken = []
  | .pollWrite (.block current stop) => Opened required state current stop ∧ current < stop
  | .pollRead (.block current stop) _ => Opened required state current stop ∧ current < stop
  | .writing (.block current stop) _ writePointer _ =>
      ∃ finish, InBlock required state current stop finish ∧
        writePointer = finish % (2 * maxRawDataFrameQueueSize) ∧ state.passed ≤ finish ∧
        finish ≤ state.published.length
  | .answered (.block current stop) _ => InBlock required state current stop state.passed
  | .releasing (.block current stop) _ =>
      (∃ previous, InBlock required state previous stop state.passed) ∧
        current = currentFrame state state.taken.length
  | .writing .endBlock readPointer writePointer words =>
      Finished required state ∧ readPointer = writePointer ∧ words = []
  | .answered .endBlock _ => Finished required state
  | .releasing .endBlock _ => Finished required state
  | _ => False

structure Acquiring (call : Call) : Prop where
  ring : Ring call.state
  acquires : Acquires call.nRequiredFrames call.state call.state.consumer

theorem uncalled_acquiring (slots : Slots) : Acquiring (uncalled slots) where
  ring := started_ring slots
  acquires := fun asked => absurd asked (show ¬ (1 : Int) ≤ 0 by decide)

section Published
variable {state after : State}

/-- The worker publishes, and leaves the rest of what a call goes by alone. -/
structure Publishes (state after : State) : Prop where
  skipped : after.skipped = state.skipped
  taken : after.taken = state.taken
  released : after.released = state.released
  consumer : after.consumer = state.consumer
  published : state.published <+: after.published

theorem frame_id_at_kept (kept : state.published <+: after.published) (position : Nat)
    (inside : position < state.published.length) :
    frameIDAt after position = frameIDAt state position := by
  obtain ⟨rest, layout⟩ := kept
  unfold frameIDAt
  rw [← layout, List.getD_append _ _ _ _ inside]

theorem Publishes.start_frame (publishes : Publishes state after)
    (some : state.skipped.length < state.published.length) :
    startFrame after = startFrame state := by
  unfold startFrame
  rw [publishes.skipped]
  exact frame_id_at_kept publishes.published _ some

theorem Publishes.current_frame (publishes : Publishes state after) (count : Nat)
    (inside : state.skipped.length + (count - 1) < state.published.length) :
    currentFrame after count = currentFrame state count := by
  unfold currentFrame
  rw [publishes.skipped]
  exact frame_id_at_kept publishes.published _ inside

theorem Publishes.successive (publishes : Publishes state after) (related : Int → Int → Prop)
    (later : Successive related after) : Successive related state := by
  intro position ordered inside
  have whole := publishes.published.length_le
  have next := later position (publishes.skipped ▸ ordered) (by omega)
  rwa [frame_id_at_kept publishes.published _ (by omega),
    frame_id_at_kept publishes.published _ inside] at next

theorem Publishes.opened (publishes : Publishes state after) (required current stop : Int)
    (inside : state.released ≤ state.published.length)
    (opened : Opened required state current stop) : Opened required after current stop := by
  have whole := publishes.published.length_le
  have some := opened.some
  have ordered := opened.ordered
  constructor
  · rw [publishes.skipped]
    omega
  · rw [publishes.skipped, publishes.released]
    exact ordered
  · rw [publishes.skipped, publishes.released, publishes.current_frame _ (by omega)]
    exact opened.before
  · rw [publishes.start_frame some]
    exact opened.target

theorem Publishes.in_block (publishes : Publishes state after) (required current stop : Int)
    (finish : Nat) (inside : state.released ≤ state.published.length)
    (block : InBlock required state current stop finish) :
    InBlock required after current stop finish where
  toOpened := publishes.opened required current stop inside block.toOpened
  short := block.short
  nonempty := publishes.released ▸ block.nonempty
  capped := publishes.released ▸ block.capped

theorem Publishes.finished (publishes : Publishes state after) (required : Int)
    (finished : Finished required state) : Finished required after := by
  intro asked contiguous
  rw [publishes.taken]
  exact finished asked (publishes.successive _ contiguous)

theorem Publishes.passed (publishes : Publishes state after) : after.passed = state.passed := by
  rw [State.passed, publishes.skipped, publishes.taken, State.passed]

theorem Publishes.acquires (publishes : Publishes state after) (required : Int)
    (ring : Ring state) (acquires : Acquires required state state.consumer) :
    Acquires required after after.consumer := by
  have inside := Nat.le_trans ring.ordered ring.passed_le
  have whole := publishes.published.length_le
  rw [publishes.consumer]
  revert acquires
  cases state.consumer with
  | idle => exact publishes.finished required
  | pollWrite stage =>
      cases stage with
      | synchronize asked => exact id
      | first asked => exact fun ⟨same, empty⟩ => ⟨same, publishes.taken.trans empty⟩
      | block current stop =>
          exact fun ⟨opened, short⟩ => ⟨publishes.opened _ _ _ inside opened, short⟩
      | startBlock current stop => exact id
      | endBlock => exact id
  | pollRead stage writePointer =>
      cases stage with
      | synchronize asked => exact id
      | first asked => exact fun ⟨same, empty⟩ => ⟨same, publishes.taken.trans empty⟩
      | block current stop =>
          exact fun ⟨opened, short⟩ => ⟨publishes.opened _ _ _ inside opened, short⟩
      | startBlock current stop => exact id
      | endBlock => exact id
  | writing stage readPointer writePointer words =>
      cases stage with
      | synchronize asked => exact id
      | first asked => exact id
      | startBlock current stop =>
          exact fun ⟨⟨opened, empty⟩, rest⟩ =>
            ⟨⟨publishes.opened _ _ _ inside opened, publishes.taken.trans empty⟩, rest⟩
      | block current stop =>
          rintro ⟨finish, block, pointer, ordered, bounded⟩
          refine ⟨finish, publishes.in_block _ _ _ _ inside block, pointer, ?_, by omega⟩
          rw [publishes.passed]
          exact ordered
      | endBlock => exact fun ⟨finished, rest⟩ => ⟨publishes.finished required finished, rest⟩
  | answered stage readPointer =>
      cases stage with
      | synchronize asked => exact id
      | first asked => exact id
      | startBlock current stop =>
          exact fun ⟨opened, empty⟩ =>
            ⟨publishes.opened _ _ _ inside opened, publishes.taken.trans empty⟩
      | block current stop =>
          intro block
          show InBlock required after current stop after.passed
          rw [publishes.passed]
          exact publishes.in_block _ _ _ _ inside block
      | endBlock => exact publishes.finished required
  | releasing stage readPointer =>
      cases stage with
      | synchronize asked => exact fun ⟨same, empty⟩ => ⟨same, publishes.taken.trans empty⟩
      | first asked => exact id
      | startBlock current stop =>
          exact fun ⟨opened, empty⟩ =>
            ⟨publishes.opened _ _ _ inside opened, publishes.taken.trans empty⟩
      | block current stop =>
          rintro ⟨⟨previous, block⟩, last⟩
          refine ⟨⟨previous, ?_⟩, ?_⟩
          · rw [publishes.passed]
            exact publishes.in_block _ _ _ _ inside block
          · have reached := ring.passed_le
            have some := block.some
            unfold State.passed at reached
            rw [publishes.taken, publishes.current_frame _ (by omega)]
            exact last
      | endBlock => exact publishes.finished required

theorem worker_publishes (minimumFrameID : Nat)
    (stepped : workerStep state minimumFrameID = some after) : Publishes state after := by
  have same : state.published <+: state.published := List.prefix_rfl
  unfold workerStep at stepped
  split at stepped
  · cases stepped
  · cases stepped
    exact ⟨rfl, rfl, rfl, rfl, same⟩
  · dsimp only at stepped
    split_ifs at stepped <;> cases stepped <;> exact ⟨rfl, rfl, rfl, rfl, same⟩
  · split at stepped <;> cases stepped
    · exact ⟨rfl, rfl, rfl, rfl, same⟩
    · exact ⟨rfl, rfl, rfl, rfl, List.prefix_append _ _⟩

end Published

theorem capped_frames_positive (bs writePointer readPointer : Nat) (framesToTarget : Int)
    (room : 2 ≤ bs) (some : 0 < nFramesInBlock bs writePointer readPointer)
    (left : 0 < framesToTarget) : 0 < cappedFrames bs writePointer readPointer framesToTarget := by
  unfold cappedFrames
  dsimp only
  split_ifs <;> omega

theorem capped_frames_target (bs writePointer readPointer : Nat) (framesToTarget : Int)
    (left : 0 < framesToTarget) :
    (cappedFrames bs writePointer readPointer framesToTarget : Int) ≤ framesToTarget := by
  unfold cappedFrames
  dsimp only
  split_ifs <;> omega

theorem contiguous_numbered (state : State) (contiguous : Contiguous state) (count : Nat)
    (within : state.skipped.length + count < state.published.length) :
    frameIDAt state (state.skipped.length + count) = startFrame state + count := by
  induction count with
  | zero => exact (Int.add_zero _).symm
  | succ count ih =>
      have next := contiguous (state.skipped.length + count) (Nat.le_add_right _ _) within
      rw [Nat.add_succ, next, ih (by omega)]
      push_cast
      omega

/-- With contiguous IDs the loop is left one frame late. -/
theorem block_finished (required : Int) (state : State) (previous stop : Int)
    (block : InBlock required state previous stop state.passed)
    (inside : state.passed ≤ state.published.length)
    (left : ¬ currentFrame state state.taken.length < stop) : Finished required state := by
  intro _ contiguous
  have numbered := contiguous_numbered state contiguous
  have nonempty := block.nonempty
  have ordered := block.ordered
  have capped := block.capped
  have target := block.target
  have before := block.before
  have short := block.short
  unfold State.passed at nonempty capped inside
  unfold currentFrame at before left
  rw [numbered _ (by omega)] at before left
  omega

/-- Two counts with one pointer are equal, if both are in the ring. -/
theorem count_of_pointer (first left right : Nat) (leftOrdered : first ≤ left)
    (leftNear : left ≤ first + maxRawDataFrameQueueSize) (rightOrdered : first ≤ right)
    (rightNear : right ≤ first + maxRawDataFrameQueueSize)
    (same : left % (2 * maxRawDataFrameQueueSize) = right % (2 * maxRawDataFrameQueueSize)) :
    left = right := by
  rcases Nat.le_total left right with ordered | ordered
  · exact ((empty_iff queue_positive ordered (by omega)).mp same.symm).symm
  · exact (empty_iff queue_positive ordered (by omega)).mp same

theorem held_frame_id {state : State} (ring : Ring state) (position : Nat)
    (ordered : state.released ≤ position) (inside : position < state.published.length) :
    (getFrameID [state.slots (position % maxRawDataFrameQueueSize) 0] : Int) =
      frameIDAt state position := by
  obtain ⟨frame, same⟩ := ring.framed _ (List.getElem_mem inside)
  have held := ring.held position ordered inside
  have long := frame.two_words
  rw [List.getD_eq_getElem _ _ inside, same] at held
  rw [held 0 (by omega), frameIDAt, List.getD_eq_getElem _ _ inside, same]
  rfl

section Consumer
variable {state after : State} {required : Int}

theorem Opened.moved {current stop : Int} (opened : Opened required state current stop)
    (consumer : Consumer) (taken : List (List Word)) :
    Opened required { state with consumer := consumer, taken := taken } current stop :=
  ⟨opened.some, opened.ordered, opened.before, opened.target⟩

theorem InBlock.moved {current stop : Int} {finish : Nat}
    (block : InBlock required state current stop finish)
    (consumer : Consumer) (taken : List (List Word)) :
    InBlock required { state with consumer := consumer, taken := taken } current stop finish :=
  ⟨block.toOpened.moved consumer taken, block.short, block.nonempty, block.capped⟩

theorem last_frame_id (ring : Ring state) (current stop : Int)
    (block : InBlock required state current stop state.passed) :
    (getFrameID [state.slots ((state.passed % (2 * maxRawDataFrameQueueSize) +
        maxRawDataFrameQueueSize - 1) % maxRawDataFrameQueueSize) 0] : Int) =
      currentFrame state state.taken.length := by
  have nonempty := block.nonempty
  have ordered := block.ordered
  have reached := ring.passed_le
  have slot : (state.passed % (2 * maxRawDataFrameQueueSize) + maxRawDataFrameQueueSize - 1) %
      maxRawDataFrameQueueSize = (state.passed - 1) % maxRawDataFrameQueueSize := by
    unfold maxRawDataFrameQueueSize
    omega
  have place : state.passed - 1 = state.skipped.length + (state.taken.length - 1) := by
    unfold State.passed at nonempty ⊢
    omega
  rw [slot, held_frame_id ring _ (by omega) (by omega), place]
  rfl

theorem first_step_acquires (ring : Ring state) (writePointer : Nat)
    (consumer : state.consumer = .pollRead (.first required) writePointer)
    (empty : state.taken = [])
    (stepped : consumerStep state = some after) :
    Acquires required after after.consumer := by
  have sound := ring.consumer
  rw [consumer] at sound
  obtain ⟨all, written, rfl, ordered, bounded⟩ := sound
  simp only [consumerStep, consumer, ring.read_pointer all] at stepped
  split_ifs at stepped with same
  · cases stepped
    exact ⟨rfl, empty⟩
  · cases stepped
    have count : state.passed = state.skipped.length := by
      rw [State.passed, empty]
      rfl
    have some : state.passed < state.published.length := by
      refine Nat.lt_of_lt_of_le (Nat.lt_of_le_of_ne ordered fun equal => same ?_) bounded
      rw [equal]
    have start : (getFrameID [state.slots (state.passed % (2 * maxRawDataFrameQueueSize) %
        maxRawDataFrameQueueSize) 0] : Int) = startFrame state := by
      rw [slot_wrapped, held_frame_id ring _ (Nat.le_of_eq all) some, startFrame, count]
    rw [start]
    refine ⟨⟨⟨by rw [← count]; exact some, by rw [all, count], ?_, rfl⟩, empty⟩, rfl, rfl⟩
    show startFrame state = frameIDAt state _
    rw [all, count, Nat.sub_self]
    rfl

theorem block_step_acquires (ring : Ring state) (current stop : Int) (writePointer : Nat)
    (consumer : state.consumer = .pollRead (.block current stop) writePointer)
    (opened : Opened required state current stop) (short : current < stop)
    (stepped : consumerStep state = some after) :
    Acquires required after after.consumer := by
  have sound := ring.consumer
  rw [consumer] at sound
  obtain ⟨all, written, rfl, ordered, bounded⟩ := sound
  have near := ring.bounded
  simp only [consumerStep, consumer, ring.read_pointer all] at stepped
  split_ifs at stepped with same
  · cases stepped
    exact ⟨opened.moved _ _, short⟩
  · cases stepped
    have counted : nFramesInBlock maxRawDataFrameQueueSize
        (written % (2 * maxRawDataFrameQueueSize))
        (state.passed % (2 * maxRawDataFrameQueueSize)) = written - state.passed :=
      unsigned_distance queue_positive ordered (by omega)
    have apart : state.passed ≠ written := fun equal => same (by rw [equal])
    have few := capped_frames_le maxRawDataFrameQueueSize
      (written % (2 * maxRawDataFrameQueueSize)) (state.passed % (2 * maxRawDataFrameQueueSize))
      (stop - current)
    have positive := capped_frames_positive maxRawDataFrameQueueSize
      (written % (2 * maxRawDataFrameQueueSize)) (state.passed % (2 * maxRawDataFrameQueueSize))
      (stop - current) (by decide) (by omega) (by omega)
    have capped := capped_frames_target maxRawDataFrameQueueSize
      (written % (2 * maxRawDataFrameQueueSize)) (state.passed % (2 * maxRawDataFrameQueueSize))
      (stop - current) (by omega)
    rw [counted] at few
    rw [add_wrapped]
    generalize cappedFrames _ _ _ _ = frames at few positive capped ⊢
    refine ⟨state.passed + frames, ⟨opened.moved _ _, short, ?_, ?_⟩, rfl, Nat.le_add_right _ _, ?_⟩
    · show state.released < _
      omega
    · show ((state.passed + frames : Nat) : Int) - state.released ≤ _
      push_cast
      omega
    · show _ ≤ state.published.length
      omega

theorem writing_step_acquires (ring : Ring state) (stage : Stage)
    (readPointer writePointer : Nat) (words : List Word)
    (consumer : state.consumer = .writing stage readPointer writePointer words)
    (acquires : Acquires required state (.writing stage readPointer writePointer words))
    (stepped : consumerStep state = some after) :
    Acquires required after after.consumer := by
  have sound := ring.consumer
  have bounded := ring.bounded
  have released := ring.ordered
  rw [consumer] at sound
  obtain ⟨rfl, stop, rfl, ordered, inside, front⟩ := sound
  simp only [consumerStep, consumer] at stepped
  cases stage with
  | synchronize asked => exact acquires.elim
  | first asked => exact acquires.elim
  | startBlock current target =>
      obtain ⟨⟨opened, empty⟩, same, rfl⟩ := acquires
      rw [if_pos ⟨rfl, same⟩] at stepped
      cases stepped
      exact ⟨opened.moved _ _, empty⟩
  | endBlock =>
      obtain ⟨finished, same, rfl⟩ := acquires
      rw [if_pos ⟨rfl, same⟩] at stepped
      cases stepped
      exact finished
  | block current target =>
      obtain ⟨finish, block, pointer, behind, reached⟩ := acquires
      obtain rfl : finish = stop := count_of_pointer state.passed finish stop behind (by omega)
        ordered (by omega) pointer.symm
      split_ifs at stepped with done more
      · cases stepped
        obtain rfl : state.passed = finish := count_of_pointer state.passed _ finish
          (Nat.le_refl _) (Nat.le_add_right _ _) ordered (by omega) done.2
        exact block.moved _ _
      · cases stepped
        exact ⟨finish, block.moved _ _, rfl, behind, reached⟩
      · cases stepped
        obtain ⟨within, _⟩ := front fun empty => more (Or.inl empty)
        refine ⟨finish, block.moved _ _, rfl, ?_, reached⟩
        show state.skipped.length + (state.taken ++ [words]).length ≤ finish
        rw [List.length_append]
        exact within

theorem next_block_acquires (readPointer : Nat) (current stop : Int)
    (opened : Opened required (state.release readPointer (nextBlock current stop readPointer))
      current stop)
    (left : ¬ current < stop →
      Finished required (state.release readPointer (nextBlock current stop readPointer))) :
    Acquires required (state.release readPointer (nextBlock current stop readPointer))
      (nextBlock current stop readPointer) := by
  unfold nextBlock at opened left ⊢
  split_ifs with more
  · rw [if_pos more] at opened
    exact ⟨opened, more⟩
  · rw [if_neg more] at left
    exact ⟨left more, rfl, rfl⟩

theorem releasing_step_acquires (ring : Ring state) (stage : Stage) (readPointer : Nat)
    (consumer : state.consumer = .releasing stage readPointer)
    (acquires : Acquires required state (.releasing stage readPointer))
    (stepped : consumerStep state = some after) :
    Acquires required after after.consumer := by
  have reached := ring.passed_le
  simp only [consumerStep, consumer] at stepped
  cases stage with
  | synchronize asked =>
      cases stepped
      exact acquires
  | first asked => exact acquires.elim
  | startBlock current stop =>
      cases stepped
      obtain ⟨opened, empty⟩ := acquires
      have count : state.passed = state.skipped.length := by
        rw [State.passed, empty]
        rfl
      have same : state.released = state.passed :=
        Nat.le_antisymm ring.ordered (count ▸ opened.ordered)
      apply next_block_acquires
      · refine ⟨opened.some, Nat.le_add_right _ _, ?_, opened.target⟩
        show current = currentFrame state (state.passed - state.skipped.length)
        rw [← same]
        exact opened.before
      · intro late asked
        have before := opened.before
        have target := opened.target
        rw [same, count, Nat.sub_self] at before
        have start : currentFrame state 0 = startFrame state := rfl
        omega
  | block current stop =>
      cases stepped
      obtain ⟨⟨previous, block⟩, last⟩ := acquires
      apply next_block_acquires
      · refine ⟨block.some, Nat.le_add_right _ _, ?_, block.target⟩
        show current = currentFrame state (state.passed - state.skipped.length)
        rw [State.passed, Nat.add_sub_cancel_left]
        exact last
      · intro late
        rw [last] at late
        exact block_finished required state previous stop block reached late
  | endBlock =>
      cases stepped
      exact acquires

theorem consumer_acquires (ring : Ring state)
    (acquires : Acquires required state state.consumer)
    (stepped : consumerStep state = some after) : Acquires required after after.consumer := by
  cases consumer : state.consumer with
  | idle => simp [consumerStep, consumer] at stepped
  | pollWrite stage =>
      rw [consumer] at acquires
      simp only [consumerStep, consumer, Option.some.injEq] at stepped
      subst stepped
      cases stage with
      | synchronize asked => exact acquires
      | first asked => exact acquires
      | startBlock current stop => exact acquires.elim
      | block current stop => exact ⟨acquires.1.moved _ _, acquires.2⟩
      | endBlock => exact acquires.elim
  | pollRead stage writePointer =>
      rw [consumer] at acquires
      cases stage with
      | synchronize asked =>
          simp only [consumerStep, consumer, Option.some.injEq] at stepped
          subst stepped
          exact ⟨acquires, rfl⟩
      | first asked =>
          obtain ⟨rfl, empty⟩ := acquires
          exact first_step_acquires ring writePointer consumer empty stepped
      | startBlock current stop => exact acquires.elim
      | block current stop =>
          exact block_step_acquires ring current stop writePointer consumer acquires.1 acquires.2
            stepped
      | endBlock => exact acquires.elim
  | writing stage readPointer writePointer words =>
      rw [consumer] at acquires
      exact writing_step_acquires ring stage readPointer writePointer words consumer acquires
        stepped
  | answered stage readPointer =>
      have sound := ring.consumer
      rw [consumer] at acquires sound
      obtain rfl : readPointer = state.passed % (2 * maxRawDataFrameQueueSize) := sound
      simp only [consumerStep, consumer] at stepped
      cases stage with
      | synchronize asked => exact acquires.elim
      | first asked => exact acquires.elim
      | startBlock current stop =>
          cases stepped
          exact ⟨acquires.1.moved _ _, acquires.2⟩
      | block current stop =>
          cases stepped
          rw [last_frame_id ring current stop acquires]
          exact ⟨⟨current, acquires.moved _ _⟩, rfl⟩
      | endBlock =>
          cases stepped
          exact acquires
  | releasing stage readPointer =>
      rw [consumer] at acquires
      exact releasing_step_acquires ring stage readPointer consumer acquires stepped

end Consumer

theorem call_step_acquiring (call : Call) (action : Action) (after : Call)
    (acquiring : Acquiring call) (stepped : callStep call action = some after) :
    Acquiring after := by
  obtain ⟨ring, acquires⟩ := acquiring
  obtain ⟨next, taken, rfl⟩ := Option.map_eq_some_iff.mp stepped
  refine ⟨step_ring _ action next ring taken, ?_⟩
  cases action with
  | receive datagram =>
      unfold step at taken
      dsimp only at taken
      split at taken
      · cases taken
        have publishes : Publishes call.state
            { call.state with worker := .testing datagram.first datagram.rest } :=
          ⟨rfl, rfl, rfl, rfl, List.prefix_rfl⟩
        exact publishes.acquires _ ring acquires
      · cases taken
  | worker minimumFrameID => exact (worker_publishes minimumFrameID taken).acquires _ ring acquires
  | acquire required =>
      unfold step at taken
      dsimp only at taken
      split at taken
      · cases taken
        rfl
      · cases taken
  | consumer => exact consumer_acquires ring acquires taken

section Frames
variable {state : State}

theorem taken_ids (ring : Ring state) :
    takenIDs state = (List.range state.taken.length).map fun offset =>
      frameIDAt state (state.skipped.length + offset) := by
  obtain ⟨rest, layout⟩ := ring.kept
  refine List.ext_getElem (by simp [takenIDs]) fun offset inside _ => ?_
  have within : offset < state.taken.length := by simpa [takenIDs] using inside
  simp only [takenIDs, List.getElem_map, List.getElem_range, frameIDAt]
  rw [← layout, List.append_assoc, List.getD_append_right _ _ _ _ (Nat.le_add_right _ _),
    Nat.add_sub_cancel_left, List.getD_append _ _ _ _ within, List.getD_eq_getElem _ _ within]

theorem increasing_ordered (increasing : Increasing state) (first more : Nat)
    (within : state.skipped.length + (first + more) < state.published.length) :
    frameIDAt state (state.skipped.length + first) ≤
      frameIDAt state (state.skipped.length + (first + more)) := by
  induction more with
  | zero => exact le_rfl
  | succ more ih =>
      have next := increasing (state.skipped.length + (first + more)) (Nat.le_add_right _ _) within
      exact (ih (by omega)).trans next.le

theorem short_of_target_iff (ring : Ring state) (required current stop : Int)
    (opened : Opened required state current stop) (short : current < stop)
    (all : state.released = state.passed) (increasing : Increasing state) :
    ShortOfTarget ⟨state, required⟩ ↔ ∀ id ∈ (takenIDs state).getLast?,
      id ≠ startFrame state + required - 1 := by
  have reached := ring.passed_le
  have before := opened.before
  rw [all, State.passed, Nat.add_sub_cancel_left] at before
  rw [opened.target] at short
  unfold ShortOfTarget
  rw [taken_ids ring]
  rw [State.passed] at reached
  cases count : state.taken.length with
  | zero => simp
  | succ front =>
      rw [count] at before reached
      have last : current = frameIDAt state (state.skipped.length + front) := before
      rw [List.range_succ, List.map_append, List.map_singleton, List.getLast?_append]
      simp only [List.getLast?_singleton, Option.some_or, Option.mem_def, Option.some.injEq,
        forall_eq']
      constructor
      · intro ahead same
        have below := ahead _ (List.mem_append_right _ List.mem_cons_self)
        omega
      · intro apart id member
        have top : id ≤ frameIDAt state (state.skipped.length + front) := by
          rcases List.mem_append.mp member with early | final
          · obtain ⟨offset, listed, rfl⟩ := List.mem_map.mp early
            have inside := List.mem_range.mp listed
            obtain ⟨more, rfl⟩ := Nat.exists_eq_add_of_le inside.le
            exact increasing_ordered increasing offset more (by omega)
          · exact (List.mem_singleton.mp final).le
        omega

end Frames

theorem ended_finished {required : Int} {state : State} {consumer : Consumer}
    (ended : LoopEnded consumer) (acquires : Acquires required state consumer) :
    Finished required state := by
  cases consumer with
  | idle => exact acquires
  | pollWrite stage => exact ended.elim
  | pollRead stage writePointer => exact ended.elim
  | writing stage readPointer writePointer words =>
      cases stage <;> first | exact ended.elim | exact acquires.1
  | answered stage readPointer => cases stage <;> first | exact ended.elim | exact acquires
  | releasing stage readPointer => cases stage <;> first | exact ended.elim | exact acquires

theorem going_on_opened {required : Int} {state : State} (ring : Ring state)
    (goesOn : LoopGoesOn state.consumer) (acquires : Acquires required state state.consumer) :
    ∃ current stop, Opened required state current stop ∧ current < stop ∧
      state.released = state.passed := by
  have sound := ring.consumer
  cases consumer : state.consumer with
  | pollWrite stage =>
      rw [consumer] at goesOn acquires sound
      cases stage <;> first
        | exact goesOn.elim
        | exact ⟨_, _, acquires.1, acquires.2, sound⟩
  | pollRead stage writePointer =>
      rw [consumer] at goesOn acquires sound
      cases stage <;> first
        | exact goesOn.elim
        | exact ⟨_, _, acquires.1, acquires.2, sound.1⟩
  | _ =>
      rw [consumer] at goesOn
      exact goesOn.elim

theorem acquiring_takes (call : Call) (acquiring : Acquiring call)
    (asked : 1 ≤ call.nRequiredFrames) : TakesOneMore call where
  more := by
    intro ended contiguous
    have count := ended_finished ended acquiring.acquires asked contiguous
    have reached := acquiring.ring.passed_le
    rw [State.passed] at reached
    have numbered : takenIDs call.state = (List.range call.state.taken.length).map
        fun offset : Nat => startFrame call.state + offset := by
      rw [taken_ids acquiring.ring]
      refine List.map_congr_left fun offset member => ?_
      have inside := List.mem_range.mp member
      exact contiguous_numbered call.state contiguous offset (by omega)
    have length : (call.nRequiredFrames + 1).toNat = call.state.taken.length := by omega
    refine ⟨by rw [Takes, length, numbered], fun exact_ => ?_⟩
    have same := congrArg List.length (numbered.symm.trans exact_)
    simp only [List.length_map, List.length_range] at same
    omega
  stops := by
    intro goesOn increasing
    obtain ⟨current, stop, opened, short, all⟩ :=
      going_on_opened acquiring.ring goesOn acquiring.acquires
    exact short_of_target_iff acquiring.ring _ current stop opened short all increasing

/-- Whatever the worker does meanwhile, a call for one frame or more takes one
more than asked for, and goes on after a block that ends with the last frame
asked for. -/
theorem acquire_takes_one_more (slots : Slots) (actions : List Action) :
    Throughout callStep (fun call => 1 ≤ call.nRequiredFrames → TakesOneMore call)
      (uncalled slots) actions :=
  throughout_invariant callStep acquiring_takes call_step_acquiring actions (uncalled slots)
    (uncalled_acquiring slots)

def twoFrames : Datagram :=
  { first := ⟨[0x2000000007, 0], by decide, by decide, by decide⟩
    rest := [⟨[0x2000000008, 0], by decide, by decide, by decide⟩] }

/-- A call for one frame: it synchronizes, two frames come, and the consumer
goes on to the end of its loop. -/
def oneAsked : List Action :=
  [.acquire 1] ++ List.replicate 3 .consumer ++ [.receive twoFrames] ++
    List.replicate 10 (.worker 0) ++ List.replicate 21 .consumer

theorem two_frames_taken :
    ¬ ∀ slots actions, Throughout callStep
      (fun call => 1 ≤ call.nRequiredFrames → TakesRequired call) (uncalled slots) actions := by
  intro always
  have ends : ((run callStep (uncalled fun _ _ => 0) oneAsked).map fun call =>
      (call.state.consumer, call.state.skipped.length, call.state.published.length,
        frameIDAt call.state 0, frameIDAt call.state 1, call.nRequiredFrames)) =
      some (.writing .endBlock 2 2 [], 0, 2, 7, 8, 1) := by decide +kernel
  obtain ⟨call, ran, observed⟩ := Option.map_eq_some_iff.mp ends
  obtain ⟨consumer, skipped, published, first, second, required⟩ :
      call.state.consumer = .writing .endBlock 2 2 [] ∧ call.state.skipped.length = 0 ∧
        call.state.published.length = 2 ∧ frameIDAt call.state 0 = 7 ∧
        frameIDAt call.state 1 = 8 ∧ call.nRequiredFrames = 1 := by simpa using observed
  have acquiring := run_invariant callStep call_step_acquiring oneAsked _ call
    (uncalled_acquiring _) ran
  have asked : 1 ≤ call.nRequiredFrames := by rw [required]
  have ended : LoopEnded call.state.consumer := by
    rw [consumer]
    trivial
  have contiguous : Contiguous call.state := by
    intro position _ inside
    obtain rfl : position = 0 := by omega
    rw [second, first]
    rfl
  have expected := throughout_last callStep oneAsked _ call (always _ oneAsked) ran asked
  exact ((acquiring_takes call acquiring asked).more ended contiguous).2
    (expected.exact ended contiguous)

end GramsTof.AcquiredFrames
