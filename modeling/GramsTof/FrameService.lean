import GramsTof.AcquiredFrames

/-!
That the consumer gets on: in the loop of `acquire` its own steps read the frames
that wait and give their slots back, whatever the worker has done before. With
what holds throughout, every published frame is delivered.
-/

namespace GramsTof.FrameRing

open RawFrame RingPointers TransitionSystem AcquiredFrames

/-- The loop of `acquire` runs, up to the frame `stop`. -/
def InLoop (stop : Int) : Consumer → Prop
  | .pollWrite (.block _ target) => target = stop
  | .pollRead (.block _ target) _ => target = stop
  | .writing (.block _ target) _ _ _ => target = stop
  | .answered (.block _ target) _ => target = stop
  | .releasing (.block _ target) _ => target = stop
  | _ => False

/-- It polls, and no frame waits. -/
def InVain (stop : Int) (state : State) : Prop :=
  ∃ current, state.consumer = .pollWrite (.block current stop) ∧ state.waiting = []

/-- It is over: the last frame read is not before `stop`. -/
def AtTarget (stop : Int) (state : State) : Prop :=
  (∃ readPointer, state.consumer = .writing .endBlock readPointer readPointer []) ∧
    ∃ words ∈ state.taken.getLast?, stop ≤ (getFrameID words : Int)

/-- The frames at the front of those that waited are read, their slots are given
back, and no frame is left to read. -/
structure CaughtUp (stop : Int) (state next : State) : Prop where
  read : ∃ block, state.waiting = block ++ next.waiting ∧ next.taken = state.taken ++ block ∧
    next.dataFrameReadPointer = (state.position + block.length) % (2 * maxRawDataFrameQueueSize)
  settled : InVain stop next ∨ AtTarget stop next

def Action.isConsumer : Action → Bool
  | .consumer => true
  | _ => false

/-- From within the loop the consumer's own next steps catch up. -/
def Served (state : State) : Prop :=
  ∀ stop, InLoop stop state.consumer → ∃ actions next,
    (∀ action ∈ actions, action.isConsumer = true) ∧ run step state actions = some next ∧
      CaughtUp stop state next

/-- What the consumer has left to do before it polls in vain: for every waiting
frame a round of the loop, of which each word of the frame is a part. -/
def stepsLeft (state : State) : Nat :=
  7 * (maxRawDataFrameSize + 1) * (state.published.length - state.passed) +
    match state.consumer with
    | .pollWrite _ => 3 * (maxRawDataFrameSize + 1)
    | .pollRead _ writePointer =>
        -- what was polled may be out of date, and then another round is due
        if writePointer = state.dataFrameReadPointer % (2 * maxRawDataFrameQueueSize) then
          4 * (maxRawDataFrameSize + 1)
        else 2 * (maxRawDataFrameSize + 1)
    | .writing .endBlock _ _ _ => 0
    | .writing _ readPointer writePointer words =>
        if words = [] ∧ readPointer = writePointer then 6 * (maxRawDataFrameSize + 1)
        else 2 * maxRawDataFrameSize + 1 - words.length
    | .answered _ _ => 5 * (maxRawDataFrameSize + 1)
    | .releasing _ _ => 4 * (maxRawDataFrameSize + 1)
    | .idle => 0

section Service
variable {stop required : Int} {first state next : State}

/-- The consumer on its way from `first`. -/
structure Serves (stop required : Int) (first state : State) : Prop where
  ring : Ring state
  acquires : Acquires required state state.consumer
  published : state.published = first.published
  skipped : state.skipped = first.skipped
  taken : first.taken <+: state.taken
  loop : InLoop stop state.consumer ∨ AtTarget stop state ∧ state.released = state.passed

theorem consumer_step_published (stepped : consumerStep state = some next) :
    next.published = state.published := by
  unfold consumerStep at stepped
  cases consumer : state.consumer with
  | idle => simp [consumer] at stepped
  | pollWrite stage =>
      simp only [consumer] at stepped
      cases stepped
      rfl
  | pollRead stage writePointer =>
      simp only [consumer] at stepped
      cases stage with
      | synchronize asked => cases stepped; rfl
      | first asked =>
          simp only at stepped
          split_ifs at stepped <;> cases stepped <;> rfl
      | block current target =>
          simp only at stepped
          split_ifs at stepped <;> cases stepped <;> rfl
      | startBlock current target => cases stepped
      | endBlock => cases stepped
  | writing stage readPointer writePointer words =>
      simp only [consumer] at stepped
      split_ifs at stepped <;> cases stepped <;> rfl
  | answered stage readPointer =>
      simp only [consumer] at stepped
      cases stage <;> cases stepped <;> rfl
  | releasing stage readPointer =>
      simp only [consumer] at stepped
      cases stage <;> cases stepped <;> rfl

theorem Ring.waiting_eq (ring : Ring state) :
    state.waiting = state.published.drop state.passed := by
  rw [State.waiting, ring.position_passed,
    ring.frames_from state.passed ring.ordered ring.passed_le]

theorem Ring.waiting_nil_iff (ring : Ring state) :
    state.waiting = [] ↔ state.published.length ≤ state.passed := by
  rw [ring.waiting_eq, List.drop_eq_nil_iff]

/-- A block has frames, so its pointers differ until all are read. -/
theorem pointers_apart {finish : Nat} (ring : Ring state) (short : state.passed < finish)
    (reached : finish ≤ state.published.length) :
    state.passed % (2 * maxRawDataFrameQueueSize) ≠ finish % (2 * maxRawDataFrameQueueSize) := by
  have bounded := ring.bounded
  have ordered := ring.ordered
  intro same
  have equal := (empty_iff queue_positive short.le (by omega)).mp same.symm
  omega

theorem poll_write_left (ring : Ring state) (current : Int)
    (consumer : state.consumer = .pollWrite (.block current stop)) (waits : state.waiting ≠ [])
    (stepped : consumerStep state = some next) :
    InLoop stop next.consumer ∧ stepsLeft next < stepsLeft state := by
  have sound := ring.consumer
  rw [consumer] at sound
  have behind : state.passed < state.published.length :=
    Nat.lt_of_not_le (mt ring.waiting_nil_iff.mpr waits)
  have apart := pointers_apart ring behind (Nat.le_refl _)
  simp only [consumerStep, consumer] at stepped
  cases stepped
  refine ⟨rfl, ?_⟩
  have fresh : state.dataFrameWritePointer % (2 * maxRawDataFrameQueueSize) ≠
      state.dataFrameReadPointer % (2 * maxRawDataFrameQueueSize) := by
    rw [ring.read_pointer sound, ring.write, Nat.mod_mod]
    exact apart.symm
  simp only [stepsLeft, consumer, State.passed, if_neg fresh, maxRawDataFrameSize]
  omega

theorem poll_read_left (ring : Ring state) (current : Int) (writePointer : Nat)
    (consumer : state.consumer = .pollRead (.block current stop) writePointer)
    (acquires : Acquires required next next.consumer)
    (stepped : consumerStep state = some next) :
    InLoop stop next.consumer ∧ stepsLeft next < stepsLeft state := by
  have sound := ring.consumer
  rw [consumer] at sound
  obtain ⟨all, _⟩ := sound
  simp only [consumerStep, consumer, ring.read_pointer all] at stepped
  split_ifs at stepped with stale
  · cases stepped
    refine ⟨rfl, ?_⟩
    simp only [stepsLeft, consumer, ring.read_pointer all, if_pos stale]
    simp only [State.passed, maxRawDataFrameSize]
    omega
  · cases stepped
    refine ⟨rfl, ?_⟩
    obtain ⟨finish, block, pointer, _, reached⟩ := acquires
    have nonempty := block.nonempty
    have apart := pointers_apart ring (all ▸ nonempty) reached
    simp only [stepsLeft, consumer, ring.read_pointer all, if_neg stale, pointer, apart, and_false,
      if_false, List.length_nil]
    simp only [State.passed, maxRawDataFrameSize]
    omega

theorem writing_left (ring : Ring state) (after : Ring next) (current : Int)
    (readPointer writePointer : Nat) (words : List Word)
    (consumer : state.consumer = .writing (.block current stop) readPointer writePointer words)
    (stepped : consumerStep state = some next) :
    InLoop stop next.consumer ∧ stepsLeft next < stepsLeft state := by
  have sound := ring.consumer
  rw [consumer] at sound
  obtain ⟨_, finish, _, _, reached, front⟩ := sound
  simp only [consumerStep, consumer] at stepped
  split_ifs at stepped with done more
  · cases stepped
    refine ⟨rfl, ?_⟩
    simp only [stepsLeft, consumer, if_pos done, State.passed, maxRawDataFrameSize]
    omega
  · cases stepped
    refine ⟨rfl, ?_⟩
    have sound := after.consumer
    obtain ⟨_, _, _, _, within, read⟩ := sound
    obtain ⟨short, whole⟩ := read (by simp)
    have listed : state.passed < state.published.length := Nat.lt_of_lt_of_le short within
    obtain ⟨frame, here, _⟩ := ring.at_frame listed
    -- what is read is a front of a frame, and no frame is longer than the largest
    have long : words.length + 1 ≤ maxRawDataFrameSize := by
      have front := whole.length_le
      have same : state.published.getD state.passed [] = frame.data := by
        rw [List.getD_eq_getElem?_getD, here, Option.getD_some]
      have bounded := frame.bounded
      rw [← same] at bounded
      simp only [List.length_append, List.length_singleton] at front
      exact front.trans bounded
    simp only [stepsLeft, consumer, if_neg done, State.passed, List.append_eq_nil_iff,
      List.cons_ne_nil, and_false, false_and, if_false, List.length_append, List.length_singleton]
    omega
  · cases stepped
    refine ⟨rfl, ?_⟩
    have short := (front fun none => more (Or.inl none)).1
    simp only [State.passed] at short
    simp only [stepsLeft, consumer, if_neg done, State.passed, List.length_append,
      List.length_singleton, maxRawDataFrameSize]
    split_ifs <;> omega

/-- The slots are given back; the loop goes on or the last frame read decides. -/
theorem releasing_left (ring : Ring state) (current : Int) (readPointer : Nat)
    (consumer : state.consumer = .releasing (.block current stop) readPointer)
    (acquires : Acquires required state (.releasing (.block current stop) readPointer))
    (stepped : consumerStep state = some next) :
    (InLoop stop next.consumer ∨ AtTarget stop next ∧ next.released = next.passed) ∧
      stepsLeft next < stepsLeft state := by
  have reached := ring.passed_le
  simp only [consumerStep, consumer] at stepped
  cases stepped
  by_cases goesOn : current < stop
  · refine ⟨Or.inl ?_, ?_⟩
    · simp only [State.release, nextBlock, if_pos goesOn, InLoop]
    · simp only [stepsLeft, consumer, State.release, nextBlock, if_pos goesOn, State.passed,
        maxRawDataFrameSize]
      omega
  · refine ⟨Or.inr ⟨⟨⟨readPointer, ?_⟩, ?_⟩, rfl⟩, ?_⟩
    · simp only [State.release, nextBlock, if_neg goesOn]
    · obtain ⟨⟨previous, block⟩, last⟩ := acquires
      have nonempty := block.nonempty
      have ordered := block.ordered
      simp only [State.passed] at nonempty reached
      obtain ⟨words, final⟩ : ∃ words, state.taken.getLast? = some words :=
        Option.ne_none_iff_exists'.mp fun none => by
          rw [List.getLast?_eq_none_iff] at none
          rw [none, List.length_nil] at nonempty
          omega
      refine ⟨words, final, ?_⟩
      obtain ⟨rest, layout⟩ := ring.kept
      -- the last frame read is the one before the next
      have here : state.published.getD (state.skipped.length + (state.taken.length - 1)) [] =
          words := by
        rw [← layout, List.getD_append _ _ _ _ (by rw [List.length_append]; omega),
          List.getD_append_right _ _ _ _ (Nat.le_add_right _ _), Nat.add_sub_cancel_left,
          List.getD_eq_getElem?_getD, ← List.getLast?_eq_getElem?, final, Option.getD_some]
      rw [currentFrame, frameIDAt, here] at last
      omega
    · simp only [stepsLeft, consumer, State.release, nextBlock, if_neg goesOn, State.passed,
        maxRawDataFrameSize]
      omega

theorem serve_step (serves : Serves stop required first state)
    (unsettled : ¬ (InVain stop state ∨ AtTarget stop state))
    (stepped : consumerStep state = some next) :
    Serves stop required first next ∧ stepsLeft next < stepsLeft state := by
  obtain ⟨ring, acquires, published, skipped, taken, loop⟩ := serves
  have inLoop := loop.resolve_right fun target => unsettled (Or.inr target.1)
  have after := consumer_step_ring ring stepped
  have acquiring := consumer_acquires ring acquires stepped
  have running : ∀ asked writePointer,
      state.consumer ≠ .pollRead (.synchronize asked) writePointer := by
    intro asked writePointer consumer
    rw [consumer] at inLoop
    exact inLoop
  obtain ⟨kept, further⟩ := consumer_step_reads_on state next running stepped
  have progress : (InLoop stop next.consumer ∨ AtTarget stop next ∧ next.released = next.passed) ∧
      stepsLeft next < stepsLeft state := by
    cases consumer : state.consumer with
    | idle =>
        rw [consumer] at inLoop
        exact inLoop.elim
    | pollWrite stage =>
        rw [consumer] at inLoop
        cases stage <;> try exact inLoop.elim
        obtain rfl := inLoop
        have waits : state.waiting ≠ [] := fun none => unsettled (Or.inl ⟨_, consumer, none⟩)
        exact (poll_write_left ring _ consumer waits stepped).imp_left Or.inl
    | pollRead stage writePointer =>
        rw [consumer] at inLoop
        cases stage <;> try exact inLoop.elim
        obtain rfl := inLoop
        exact (poll_read_left ring _ writePointer consumer acquiring stepped).imp_left Or.inl
    | writing stage readPointer writePointer words =>
        rw [consumer] at inLoop
        cases stage <;> try exact inLoop.elim
        obtain rfl := inLoop
        exact (writing_left ring after _ _ _ words consumer stepped).imp_left Or.inl
    | answered stage readPointer =>
        rw [consumer] at inLoop
        cases stage <;> try exact inLoop.elim
        obtain rfl := inLoop
        simp only [consumerStep, consumer] at stepped
        cases stepped
        refine ⟨Or.inl rfl, ?_⟩
        simp only [stepsLeft, consumer, State.passed, maxRawDataFrameSize]
        omega
    | releasing stage readPointer =>
        rw [consumer] at inLoop acquires
        cases stage <;> try exact inLoop.elim
        obtain rfl := inLoop
        exact releasing_left ring _ readPointer consumer acquires stepped
  exact ⟨⟨after, acquiring, (consumer_step_published stepped).trans published, kept.trans skipped,
    taken.trans further, progress.1⟩, progress.2⟩

theorem consumer_goes_on (inLoop : InLoop stop state.consumer) :
    ∃ next, consumerStep state = some next := by
  unfold consumerStep
  cases consumer : state.consumer with
  | idle => simp [consumer, InLoop] at inLoop
  | pollWrite stage => exact ⟨_, rfl⟩
  | pollRead stage writePointer =>
      rw [consumer] at inLoop
      cases stage <;> first
        | exact inLoop.elim
        | (dsimp only; split_ifs <;> exact ⟨_, rfl⟩)
  | writing stage readPointer writePointer words => dsimp only; split_ifs <;> exact ⟨_, rfl⟩
  | answered stage readPointer => cases stage <;> exact ⟨_, rfl⟩
  | releasing stage readPointer => cases stage <;> exact ⟨_, rfl⟩

theorem Serves.settled (serves : Serves stop required first state) (begun : Ring first)
    (settled : InVain stop state ∨ AtTarget stop state) : CaughtUp stop first state where
  read := by
    have ring := serves.ring
    obtain ⟨block, further⟩ := serves.taken
    have all : state.released = state.passed := by
      rcases settled with ⟨current, consumer, _⟩ | ended
      · have sound := ring.consumer
        rw [consumer] at sound
        exact sound
      · refine (serves.loop.resolve_left fun inLoop => ?_).2
        obtain ⟨⟨readPointer, consumer⟩, _⟩ := ended
        rw [consumer] at inLoop
        exact inLoop
    have passed : state.passed = first.passed + block.length := by
      rw [State.passed, State.passed, serves.skipped, ← further, List.length_append, Nat.add_assoc]
    have front := ring.kept
    rw [serves.published, serves.skipped, ← further, ← List.append_assoc] at front
    have length : (first.skipped ++ first.taken).length = first.passed := List.length_append
    refine ⟨block, ?_, further.symm, ?_⟩
    · obtain ⟨rest, layout⟩ := front
      rw [ring.waiting_eq, begun.waiting_eq, serves.published, passed, ← layout, ← length,
        List.append_assoc, List.drop_left, ← List.drop_drop, List.drop_left, List.drop_left]
    · rw [ring.read, all, passed, begun.position_passed, add_wrapped]
  settled := settled

end Service

theorem acquiring_served (call : Call) (acquiring : Acquiring call) : Served call.state := by
  intro stop inLoop
  have serves : Serves stop call.nRequiredFrames call.state call.state :=
    ⟨acquiring.ring, acquiring.acquires, rfl, rfl, List.prefix_rfl, Or.inl inLoop⟩
  obtain ⟨actions, next, own, ran, arrived, settled⟩ :=
    @goal_reached State Action step (Serves stop call.nRequiredFrames call.state)
      (fun state => InVain stop state ∨ AtTarget stop state) (fun action => action.isConsumer = true)
      stepsLeft
      (by
        intro state action next serves unsettled due stepped
        cases action with
        | consumer => exact (serve_step serves unsettled stepped).1
        | _ => cases due)
      (by
        intro state serves unsettled
        obtain ⟨next, stepped⟩ := consumer_goes_on
          (serves.loop.resolve_right fun target => unsettled (Or.inr target.1))
        exact ⟨.consumer, next, rfl, stepped⟩)
      (by
        intro state action next serves unsettled due stepped
        cases action with
        | consumer => exact (serve_step serves unsettled stepped).2
        | _ => cases due)
      call.state serves
  exact ⟨actions, next, own, ran, arrived.settled acquiring.ring settled⟩

theorem throughout_served (actions : List Action) (call : Call) (acquiring : Acquiring call) :
    Throughout step Served call.state actions := by
  induction actions generalizing call with
  | nil => exact acquiring_served call acquiring
  | cons action rest ih =>
      refine ⟨acquiring_served call acquiring, fun next stepped => ?_⟩
      obtain ⟨after, called, rfl⟩ : ∃ after, callStep call action = some after ∧
          after.state = next := by
        unfold callStep
        rw [stepped]
        exact ⟨_, rfl, rfl⟩
      exact ih after (call_step_acquiring call action after acquiring called)

/-- In every interleaving of the worker and the consumer, from the start of the
acquisition on, every frame is delivered once, in order and unchanged; and from
every state in the loop of `acquire` the consumer alone reads those that wait. -/
theorem frames_delivered (slots : Slots) (actions : List Action) :
    Throughout step Delivered (started slots) actions ∧
      Along step ReadsOn (started slots) actions ∧
      Throughout step Served (started slots) actions :=
  ⟨throughout_invariant step ring_delivered step_ring actions (started slots) (started_ring slots),
    along_all step reads_on actions (started slots),
    throughout_served actions (uncalled slots) (uncalled_acquiring slots)⟩

def oneEventWords : List Word := [(3 : Word) <<< 36 ||| 7, 1, 42]

def noEventWords : List Word := [(2 : Word) <<< 36 ||| 8, 0]

theorem words_framed : ∀ words ∈ [oneEventWords, noEventWords],
    words.length = getFrameSize words ∧ getFrameSize words = 2 + getNEvents words ∧
      words.length ≤ maxRawDataFrameSize := by
  decide

def oneEvent : Frame :=
  let framed := words_framed oneEventWords List.mem_cons_self
  ⟨oneEventWords, framed.1, framed.2.1, framed.2.2⟩

def noEvent : Frame :=
  let framed := words_framed noEventWords (List.mem_cons_of_mem _ List.mem_cons_self)
  ⟨noEventWords, framed.1, framed.2.1, framed.2.2⟩

/-- A call of `acquire` has sent the opening of its step when the frames 7 and 8
are in the ring. -/
def untilLoop : List Action :=
  [.acquire 1, .consumer, .consumer, .consumer, .receive ⟨oneEvent, [noEvent]⟩] ++
    List.replicate 11 (.worker 0) ++ List.replicate 5 .consumer

theorem frames_delivered_two :
    ∃ state actions next, run step (started fun _ _ => 0) untilLoop = some state ∧
      state.waiting = [oneEvent.data, noEvent.data] ∧ state.taken = [] ∧
      (∀ action ∈ actions, action.isConsumer = true) ∧ run step state actions = some next ∧
      next.taken = [oneEvent.data, noEvent.data] ∧ next.dataFrameReadPointer = 2 := by
  have reached : ((run step (started fun _ _ => 0) untilLoop).map fun state =>
      (state.consumer, state.waiting, state.taken, state.position)) =
      some (.pollWrite (.block 7 8), [oneEvent.data, noEvent.data], [], 0) := by decide +kernel
  obtain ⟨state, ran, same⟩ := Option.map_eq_some_iff.mp reached
  obtain ⟨consumer, waiting, taken, position⟩ := by simpa only [Prod.mk.injEq] using same
  have served := throughout_last step untilLoop _ state
    (frames_delivered (fun _ _ => 0) untilLoop).2.2 ran
  obtain ⟨actions, next, own, went, ⟨block, front, read, returned⟩, settled⟩ :=
    served 8 (by rw [consumer]; rfl)
  rw [waiting] at front
  rw [taken, List.nil_append] at read
  rw [position, Nat.zero_add] at returned
  -- the first frame alone is short of the target
  have all : block = [oneEvent.data, noEvent.data] := by
    rcases settled with ⟨_, _, none⟩ | ⟨_, words, last, target⟩
    · rw [none, List.append_nil] at front
      exact front.symm
    · rw [read] at last
      match block, next.waiting, front with
      | [], _, _ => cases last
      | [first], [second], front =>
          cases front
          cases last
          revert target
          decide
      | [first, second], [], front => exact front.symm
  rw [all] at returned read
  exact ⟨state, actions, next, ran, waiting, taken, own, went, read, returned⟩

end GramsTof.FrameRing
