import GramsTof.TransitionSystem

/-!
The resources of `GRAMS_TOF_DAQManager`: the frame server and the DAQ cards
that `initialize` creates and `cleanup` deletes. The heap records every object
ever created and every `delete` carried out, in order, so that a second
`delete` or a lost object is visible. The shared memory segment and the
listening socket are kept only as far as `initialize` reads them.
-/

namespace GramsTof.DAQManager

open TransitionSystem

inductive Kind where
  | frameServer
  | daqCard
  deriving DecidableEq, Repr

/-- An object on the heap: which call of `initialize` created it, and how many
objects there were before. -/
structure Object where
  kind : Kind
  call : Nat
  serial : Nat
  deriving DecidableEq, Repr

structure Heap where
  created : List Object
  deleted : List Object
  deriving DecidableEq, Repr

def Heap.new (heap : Heap) (kind : Kind) (call : Nat) : Object × Heap :=
  let object := { kind := kind, call := call, serial := heap.created.length }
  (object, { heap with created := heap.created ++ [object] })

def Heap.delete (heap : Heap) (object : Object) : Heap :=
  { heap with deleted := heap.deleted ++ [object] }

def Heap.Live (heap : Heap) (object : Object) : Prop :=
  object ∈ heap.created ∧ object ∉ heap.deleted

instance (heap : Heap) (object : Object) : Decidable (heap.Live object) :=
  inferInstanceAs (Decidable (_ ∧ _))

/-- The members of the manager that `initialize` and `cleanup` use. -/
structure Manager where
  daqType : String
  daqCardList : List String
  daqCardPortBits : Nat
  shmfd : Int
  shmPtr : Option Nat
  frameServer : Option Object
  daqCards : List Object
  deriving DecidableEq, Repr

def Manager.construct (daqType : String) (daqCards : List String) : Manager :=
  { daqType := daqType, daqCardList := daqCards, daqCardPortBits := 5, shmfd := -1
    shmPtr := none, frameServer := none, daqCards := [] }

/-- How the fallible calls of one `initialize` turn out: the listening socket,
`shm_open` and `mmap`, the reply of the FPGA to `UDPFrameServer`, and one
answer for each `PFP_KX7::openCard`. -/
structure Answers where
  listening : Bool
  shm : Option (Nat × Nat)
  fpgaReplies : Bool
  openCard : List Bool
  deriving DecidableEq, Repr

/-- `FrameServer::allocateSharedMemory`: a failing `shm_open` leaves the old
pointer behind. -/
def Manager.allocateSharedMemory (manager : Manager) (shm : Option (Nat × Nat)) : Manager :=
  match shm with
  | none => { manager with shmfd := -1 }
  | some (fd, address) => { manager with shmfd := fd, shmPtr := some address }

/-- The loop over `daqCardList_`. A failure leaves with the cards opened so far
recorded. -/
def openCards (call : Nat) :
    List String → List Bool → List Object → Heap → Bool × List Object × Heap
  | [], _, cards, heap => (true, cards, heap)
  | _ :: paths, answers, cards, heap =>
      if answers.headD false then
        let (card, heap) := heap.new .daqCard call
        openCards call paths answers.tail (cards ++ [card]) heap
      else (false, cards, heap)

def cardList (manager : Manager) : List String :=
  if manager.daqCardList = [] then ["/dev/psdaq0"] else manager.daqCardList

/-- The two conditional assignments after the check of the number of cards. -/
def Manager.setDefaults (manager : Manager) : Manager :=
  { manager with
    daqCardList := cardList manager
    daqCardPortBits := if (cardList manager).length = 2 then 2 else manager.daqCardPortBits }

def Manager.initializeDAQ (manager : Manager) (heap : Heap) (call : Nat) (answers : Answers) :
    Bool × Manager × Heap :=
  if manager.daqCardList.length > 2 then (false, manager, heap)
  else
    let manager := manager.setDefaults
    if answers.listening = false then (false, manager, heap)
    else
      let manager := manager.allocateSharedMemory answers.shm
      if manager.shmfd = -1 ∨ manager.shmPtr = none then (false, manager, heap)
      else if manager.daqType = "GBE" then
        -- the assignment is made either way, over whatever was there
        if answers.fpgaReplies then
          let (server, heap) := heap.new .frameServer call
          (true, { manager with frameServer := some server }, heap)
        else (false, { manager with frameServer := none }, heap)
      else if manager.daqType = "PFP_KX7" then
        let (opened, cards, heap) :=
          openCards call manager.daqCardList answers.openCard manager.daqCards heap
        let manager := { manager with daqCards := cards }
        if opened = false then (false, manager, heap)
        else
          let (server, heap) := heap.new .frameServer call
          (true, { manager with frameServer := some server }, heap)
      else (false, manager, heap)

/-- The pointers `cleanup` deletes, in its order. -/
def Manager.held (manager : Manager) : List Object :=
  manager.frameServer.toList ++ manager.daqCards

/-- `cleanup` deletes what the members point to and leaves the members as they
are. -/
def Manager.cleanup (manager : Manager) (heap : Heap) : Heap :=
  manager.daqCards.foldl Heap.delete (match manager.frameServer with
    | some server => heap.delete server
    | none => heap)

inductive Operation where
  | initializeDAQ (answers : Answers)
  | run
  | stop
  | cleanup
  | destroy
  deriving DecidableEq, Repr

/-- The manager with its heap. `calls` counts the calls of `initialize`;
`returned` is what the last operation returned if it was one. -/
structure State where
  manager : Manager
  heap : Heap
  calls : Nat
  returned : Option Bool
  destroyed : Bool
  deriving DecidableEq, Repr

def start (daqType : String) (daqCards : List String) : State :=
  { manager := .construct daqType daqCards, heap := ⟨[], []⟩, calls := 0, returned := none
    destroyed := false }

def State.initializeDAQ (state : State) (answers : Answers) : State :=
  let result := state.manager.initializeDAQ state.heap (state.calls + 1) answers
  { state with
    manager := result.2.1
    heap := result.2.2
    calls := state.calls + 1
    returned := some result.1 }

/-- One operation. `run` and `stop` create and delete nothing; the destructor
is `stop` and `cleanup`, after which there is no manager. -/
def step (state : State) (operation : Operation) : Option State :=
  if state.destroyed then none
  else match operation with
    | .initializeDAQ answers => some (state.initializeDAQ answers)
    | .run => some { state with returned := none }
    | .stop => some { state with returned := none }
    | .cleanup =>
        some { state with heap := state.manager.cleanup state.heap, returned := none }
    | .destroy =>
        some { state with heap := state.manager.cleanup state.heap, returned := none
                          destroyed := true }

def State.held (state : State) : List Object :=
  if state.destroyed then [] else state.manager.held

/-- Nothing was deleted twice, nothing live is out of reach, and after an
`initialize` that returned true all pointers are to live objects of that call. -/
structure Sound (state : State) : Prop where
  once : state.heap.deleted.Nodup
  kept : ∀ object ∈ state.heap.created, object ∉ state.heap.deleted → object ∈ state.held
  ready : state.returned = some true →
    (∃ server ∈ state.manager.frameServer, state.heap.Live server ∧ server.call = state.calls) ∧
      ∀ card ∈ state.manager.daqCards, state.heap.Live card ∧ card.call = state.calls

def opensAll : List String → List Bool → Bool
  | [], _ => true
  | _ :: paths, answers => answers.headD false && opensAll paths answers.tail

/-- The checks of `initialize` before it looks at `daqType_`. -/
def Prepared (manager : Manager) (answers : Answers) : Prop :=
  manager.daqCardList.length ≤ 2 ∧ answers.listening = true ∧ answers.shm ≠ none

/-- `initialize` comes to one of its assignments to `frameServer_`. -/
def Assigns (manager : Manager) (answers : Answers) : Prop :=
  Prepared manager answers ∧ (manager.daqType = "GBE" ∨
    manager.daqType = "PFP_KX7" ∧ opensAll (cardList manager) answers.openCard = true)

def Creates (manager : Manager) (answers : Answers) : Prop :=
  Assigns manager answers ∧ (manager.daqType = "GBE" → answers.fpgaReplies = true)

/-- What an operation has to find so that it neither loses an object nor
deletes one again. -/
def Allowed (state : State) : Operation → Prop
  | .initializeDAQ answers =>
      (Assigns state.manager answers →
        ∀ server ∈ state.manager.frameServer, server ∈ state.heap.deleted) ∧
      (Creates state.manager answers → state.manager.daqCards = [])
  | .run => True
  | .stop => True
  | .cleanup => ∀ object ∈ state.manager.held, object ∉ state.heap.deleted
  | .destroy => ∀ object ∈ state.manager.held, object ∉ state.heap.deleted

@[simp] theorem allocate_daqType (manager : Manager) (shm : Option (Nat × Nat)) :
    (manager.allocateSharedMemory shm).daqType = manager.daqType := by
  cases shm <;> rfl

@[simp] theorem allocate_daqCardList (manager : Manager) (shm : Option (Nat × Nat)) :
    (manager.allocateSharedMemory shm).daqCardList = manager.daqCardList := by
  cases shm <;> rfl

@[simp] theorem allocate_frameServer (manager : Manager) (shm : Option (Nat × Nat)) :
    (manager.allocateSharedMemory shm).frameServer = manager.frameServer := by
  cases shm <;> rfl

@[simp] theorem allocate_daqCards (manager : Manager) (shm : Option (Nat × Nat)) :
    (manager.allocateSharedMemory shm).daqCards = manager.daqCards := by
  cases shm <;> rfl

theorem allocate_fails_iff (manager : Manager) (shm : Option (Nat × Nat)) :
    ((manager.allocateSharedMemory shm).shmfd = -1 ∨
      (manager.allocateSharedMemory shm).shmPtr = none) ↔ shm = none := by
  cases shm with
  | none => simp [Manager.allocateSharedMemory]
  | some segment =>
      have opened : ¬ (segment.1 : Int) = -1 := by omega
      simp [Manager.allocateSharedMemory, opened]

def cardsFrom (call start count : Nat) : List Object :=
  (List.range' start count).map fun serial => { kind := .daqCard, call := call, serial := serial }

theorem open_cards_spec (call : Nat) (paths : List String) (answers : List Bool)
    (cards : List Object) (heap : Heap) :
    ∃ count, openCards call paths answers cards heap =
      (opensAll paths answers, cards ++ cardsFrom call heap.created.length count,
        { heap with created := heap.created ++ cardsFrom call heap.created.length count }) := by
  induction paths generalizing answers cards heap with
  | nil => exact ⟨0, by simp [openCards, opensAll, cardsFrom]⟩
  | cons path rest ih =>
      by_cases opened : answers.headD false = true
      · obtain ⟨count, later⟩ := ih answers.tail (cards ++ [(heap.new .daqCard call).1])
          (heap.new .daqCard call).2
        refine ⟨count + 1, ?_⟩
        rw [openCards, if_pos opened, opensAll, opened]
        refine Eq.trans later ?_
        simp [Heap.new, cardsFrom, List.range'_succ]
      · exact ⟨0, by simp only [openCards, opensAll, opened]; simp [cardsFrom]⟩

/-- What one `initialize` can do: fail before it assigns `frameServer_`, lose
the assignment to a null pointer, or create a frame server. -/
theorem initialize_cases (manager : Manager) (heap : Heap) (call : Nat) (answers : Answers) :
    ∃ count after, (after.daqCards = manager.daqCards ++ cardsFrom call heap.created.length count) ∧
      ((¬ Assigns manager answers ∧ after.frameServer = manager.frameServer ∧
          manager.initializeDAQ heap call answers = (false, after,
            { heap with created := heap.created ++ cardsFrom call heap.created.length count })) ∨
        (Assigns manager answers ∧ ¬ Creates manager answers ∧ count = 0 ∧
          after.frameServer = none ∧
          manager.initializeDAQ heap call answers = (false, after, heap)) ∨
        (Creates manager answers ∧
          after.frameServer = some ⟨.frameServer, call, heap.created.length + count⟩ ∧
          manager.initializeDAQ heap call answers = (true, after,
            { heap with created := heap.created ++ cardsFrom call heap.created.length count ++
                [⟨.frameServer, call, heap.created.length + count⟩] }))) := by
  unfold Manager.initializeDAQ
  by_cases few : manager.daqCardList.length ≤ 2
  swap
  · refine ⟨0, manager, by simp [cardsFrom], Or.inl ⟨fun assigns => few assigns.1.1, rfl, ?_⟩⟩
    rw [if_pos (by omega)]
    simp [cardsFrom]
  rw [if_neg (by omega)]
  by_cases listening : answers.listening = true
  swap
  · refine ⟨0, manager.setDefaults, by simp [cardsFrom, Manager.setDefaults],
      Or.inl ⟨fun assigns => listening assigns.1.2.1, rfl, ?_⟩⟩
    simp [listening, cardsFrom]
  simp only [listening, Bool.true_eq_false, if_false, allocate_fails_iff]
  by_cases shm : answers.shm = none
  · refine ⟨0, manager.setDefaults.allocateSharedMemory answers.shm,
      by simp [cardsFrom, Manager.setDefaults],
      Or.inl ⟨fun assigns => assigns.1.2.2 shm, by simp [Manager.setDefaults], ?_⟩⟩
    simp [shm, cardsFrom]
  have prepared : Prepared manager answers := ⟨few, listening, shm⟩
  -- what the defaults and the shared memory leave of the manager
  generalize allocated : manager.setDefaults.allocateSharedMemory answers.shm = ready
  have sameType : ready.daqType = manager.daqType := by
    rw [← allocated, allocate_daqType, Manager.setDefaults]
  have sameList : ready.daqCardList = cardList manager := by
    rw [← allocated, allocate_daqCardList, Manager.setDefaults]
  have sameServer : ready.frameServer = manager.frameServer := by
    rw [← allocated, allocate_frameServer, Manager.setDefaults]
  have sameCards : ready.daqCards = manager.daqCards := by
    rw [← allocated, allocate_daqCards, Manager.setDefaults]
  rw [if_neg shm]
  by_cases gbe : ready.daqType = "GBE"
  · have assigns : Assigns manager answers := ⟨prepared, Or.inl (sameType ▸ gbe)⟩
    rw [if_pos gbe]
    cases replies : answers.fpgaReplies with
    | false =>
        have refused : ¬ Creates manager answers := by
          intro creates
          have replied := creates.2 (sameType ▸ gbe)
          rw [replies] at replied
          cases replied
        exact ⟨0, { ready with frameServer := none }, by simp [cardsFrom, sameCards],
          Or.inr (Or.inl ⟨assigns, refused, rfl, rfl, rfl⟩)⟩
    | true =>
        exact ⟨0, { ready with frameServer := some ⟨.frameServer, call, heap.created.length⟩ },
          by simp [cardsFrom, sameCards],
          Or.inr (Or.inr ⟨⟨assigns, fun _ => replies⟩, rfl, by simp [Heap.new, cardsFrom]⟩)⟩
  rw [if_neg gbe]
  by_cases pfp : ready.daqType = "PFP_KX7"
  swap
  · rw [if_neg pfp]
    refine ⟨0, ready, by simp [cardsFrom, sameCards], Or.inl ⟨?_, sameServer, by simp [cardsFrom]⟩⟩
    rintro ⟨_, gbeType | ⟨pfpType, _⟩⟩
    · exact gbe (sameType.trans gbeType)
    · exact pfp (sameType.trans pfpType)
  rw [if_pos pfp]
  obtain ⟨count, opening⟩ :=
    open_cards_spec call ready.daqCardList answers.openCard ready.daqCards heap
  rw [opening]
  generalize opened : cardsFrom call heap.created.length count = cards
  cases opens : opensAll ready.daqCardList answers.openCard with
  | false =>
      refine ⟨count, { ready with daqCards := ready.daqCards ++ cards }, by rw [opened, sameCards],
        Or.inl ⟨?_, sameServer, by rw [opened]; rfl⟩⟩
      rintro ⟨_, gbeType | ⟨_, all⟩⟩
      · exact gbe (sameType.trans gbeType)
      · rw [← sameList, opens] at all
        cases all
  | true =>
      have creates : Creates manager answers :=
        ⟨⟨prepared, Or.inr ⟨sameType ▸ pfp, sameList ▸ opens⟩⟩,
          fun gbeType => absurd (sameType.trans gbeType) gbe⟩
      have counted : cards.length = count := by simp [← opened, cardsFrom]
      refine ⟨count, { ready with
        daqCards := ready.daqCards ++ cards
        frameServer := some ⟨.frameServer, call, heap.created.length + count⟩ },
        by rw [opened, sameCards], Or.inr (Or.inr ⟨creates, rfl, ?_⟩)⟩
      simp [Heap.new, opened, counted]

theorem cards_from_mem (object : Object) (call start count : Nat)
    (member : object ∈ cardsFrom call start count) :
    object.call = call ∧ start ≤ object.serial ∧ object.serial < start + count := by
  obtain ⟨serial, inside, rfl⟩ := List.mem_map.mp member
  exact ⟨rfl, List.left_le_of_mem_range' inside, by simpa using (List.mem_range'_1.mp inside).2⟩

theorem cards_from_nodup (call start count : Nat) : (cardsFrom call start count).Nodup := by
  refine List.Nodup.map ?_ List.nodup_range'
  intro left right same
  exact congrArg Object.serial same

theorem delete_all (cards : List Object) (heap : Heap) :
    cards.foldl Heap.delete heap = { heap with deleted := heap.deleted ++ cards } := by
  induction cards generalizing heap with
  | nil => simp
  | cons card rest ih => simp [ih, Heap.delete]

theorem cleanup_eq (manager : Manager) (heap : Heap) :
    manager.cleanup heap = { heap with deleted := heap.deleted ++ manager.held } := by
  unfold Manager.cleanup Manager.held
  cases manager.frameServer <;> simp [delete_all, Heap.delete]

/-- What holds in every state of a run whose operations are all allowed. -/
structure Inv (state : State) : Prop where
  sound : Sound state
  numbered : ∀ object ∈ state.heap.created,
    object.serial < state.heap.created.length ∧ object.call ≤ state.calls
  deletedOnes : ∀ object ∈ state.heap.deleted, object ∈ state.heap.created
  heldOnes : ∀ object ∈ state.manager.held, object ∈ state.heap.created
  heldOnce : state.manager.held.Nodup

theorem start_inv (daqType : String) (daqCards : List String) : Inv (start daqType daqCards) where
  sound := ⟨List.nodup_nil, fun _ member => (nomatch member), fun returned => (nomatch returned)⟩
  numbered := fun _ member => nomatch member
  deletedOnes := fun _ member => nomatch member
  heldOnes := fun _ member => nomatch member
  heldOnce := List.nodup_nil

theorem new_not_created {state : State} (inv : Inv state) (object : Object)
    (new : state.heap.created.length ≤ object.serial) : object ∉ state.heap.created :=
  fun member => absurd (inv.numbered object member).1 (by omega)

theorem held_mem (manager : Manager) (object : Object) :
    object ∈ manager.held ↔ manager.frameServer = some object ∨ object ∈ manager.daqCards := by
  simp [Manager.held, Option.mem_toList]

theorem new_cards_numbered {state : State} (inv : Inv state) (count : Nat) (object : Object)
    (member : object ∈ state.heap.created ++
      cardsFrom (state.calls + 1) state.heap.created.length count) :
    object.serial < state.heap.created.length + count ∧ object.call ≤ state.calls + 1 := by
  rcases List.mem_append.mp member with old | new
  · have numbered := inv.numbered object old
    omega
  · obtain ⟨call, _, bound⟩ := cards_from_mem _ _ _ _ new
    omega

theorem new_cards_once {state : State} (inv : Inv state) (count : Nat) :
    (state.manager.held ++ cardsFrom (state.calls + 1) state.heap.created.length count).Nodup := by
  refine List.Nodup.append inv.heldOnce (cards_from_nodup _ _ _) fun object held new => ?_
  exact new_not_created inv object (cards_from_mem _ _ _ _ new).2.1 (inv.heldOnes object held)

theorem Sound.reachable {state : State} (sound : Sound state) (there : state.destroyed = false)
    (object : Object) (created : object ∈ state.heap.created)
    (undeleted : object ∉ state.heap.deleted) :
    state.manager.frameServer = some object ∨ object ∈ state.manager.daqCards := by
  have held := sound.kept object created undeleted
  rwa [State.held, there, if_neg Bool.false_ne_true, held_mem] at held

/-- An `initialize` that fails before it assigns `frameServer_`: every old
pointer is still there, and the cards opened on the way join them. -/
theorem failed_keeps (state : State) (inv : Inv state) (there : state.destroyed = false)
    (after : Manager) (count : Nat)
    (cards : after.daqCards = state.manager.daqCards ++
      cardsFrom (state.calls + 1) state.heap.created.length count)
    (server : after.frameServer = state.manager.frameServer) :
    Inv { state with
      manager := after
      heap := { state.heap with
        created := state.heap.created ++
          cardsFrom (state.calls + 1) state.heap.created.length count }
      calls := state.calls + 1
      returned := some false } := by
  have held : after.held = state.manager.held ++
      cardsFrom (state.calls + 1) state.heap.created.length count := by
    rw [Manager.held, server, cards, ← List.append_assoc]
    rfl
  refine ⟨⟨inv.sound.once, ?_, fun returned => by cases returned⟩, ?_, ?_, ?_, ?_⟩
  · intro object member undeleted
    simp only [State.held, there, Bool.false_eq_true, if_false]
    rw [held]
    rcases List.mem_append.mp member with old | new
    · have reached := inv.sound.reachable there object old undeleted
      exact List.mem_append_left _ ((held_mem _ _).mpr reached)
    · exact List.mem_append_right _ new
  · simpa [cardsFrom] using new_cards_numbered inv count
  · exact fun object member => List.mem_append_left _ (inv.deletedOnes object member)
  · intro object member
    simp only [held] at member
    rcases List.mem_append.mp member with old | new
    · exact List.mem_append_left _ (inv.heldOnes object old)
    · exact List.mem_append_right _ new
  · simpa only [held] using new_cards_once inv count

/-- An `initialize` whose frame server is not created: the null pointer
replaces a deleted server. -/
theorem refused_keeps (state : State) (inv : Inv state) (there : state.destroyed = false)
    (after : Manager) (cards : after.daqCards = state.manager.daqCards)
    (server : after.frameServer = none)
    (gone : ∀ server ∈ state.manager.frameServer, server ∈ state.heap.deleted) :
    Inv { state with manager := after, calls := state.calls + 1, returned := some false } := by
  have held : after.held = state.manager.daqCards := by
    simp [Manager.held, server, cards]
  have among : ∀ object ∈ state.manager.daqCards, object ∈ state.manager.held :=
    fun object member => List.mem_append_right _ member
  refine ⟨⟨inv.sound.once, ?_, fun returned => by cases returned⟩, ?_, inv.deletedOnes, ?_, ?_⟩
  · intro object member undeleted
    simp only [State.held, there, Bool.false_eq_true, if_false]
    rw [held]
    rcases inv.sound.reachable there object member undeleted with server | card
    · exact absurd (gone object server) undeleted
    · exact card
  · intro object member
    have numbered := inv.numbered object member
    exact ⟨numbered.1, Nat.le_succ_of_le numbered.2⟩
  · intro object member
    simp only [held] at member
    exact inv.heldOnes object (among object member)
  · simp only [held]
    exact (List.nodup_append.mp inv.heldOnce).2.1

/-- An `initialize` that creates a frame server over a deleted one and finds no
cards: all pointers are to objects of this call. -/
theorem created_keeps (state : State) (inv : Inv state) (there : state.destroyed = false)
    (after : Manager) (count : Nat)
    (cards : after.daqCards = cardsFrom (state.calls + 1) state.heap.created.length count)
    (server : after.frameServer =
      some ⟨.frameServer, state.calls + 1, state.heap.created.length + count⟩)
    (gone : ∀ server ∈ state.manager.frameServer, server ∈ state.heap.deleted)
    (none : state.manager.daqCards = []) :
    Inv { state with
      manager := after
      heap := { state.heap with
        created := state.heap.created ++
          cardsFrom (state.calls + 1) state.heap.created.length count ++
          [⟨.frameServer, state.calls + 1, state.heap.created.length + count⟩] }
      calls := state.calls + 1
      returned := some true } := by
  have held : after.held =
      ⟨.frameServer, state.calls + 1, state.heap.created.length + count⟩ ::
        cardsFrom (state.calls + 1) state.heap.created.length count := by
    simp [Manager.held, server, cards]
  have fresh : ∀ object : Object, state.heap.created.length ≤ object.serial →
      object ∉ state.heap.deleted :=
    fun object new member => new_not_created inv object new (inv.deletedOnes object member)
  refine ⟨⟨inv.sound.once, ?_, fun _ => ⟨⟨_, server, ⟨?_, fresh _ ?_⟩, rfl⟩, ?_⟩⟩, ?_, ?_, ?_, ?_⟩
  · intro object member undeleted
    simp only [State.held, there, Bool.false_eq_true, if_false]
    rw [held]
    rcases List.mem_append.mp member with member | new
    · rcases List.mem_append.mp member with old | card
      · -- an older object would be the deleted server or one of no cards
        rcases inv.sound.reachable there object old undeleted with server | card
        · exact absurd (gone object server) undeleted
        · rw [none] at card
          cases card
      · exact List.mem_cons_of_mem _ card
    · rw [List.mem_singleton.mp new]
      exact List.mem_cons_self
  · exact List.mem_append_right _ (List.mem_singleton_self _)
  · exact Nat.le_add_right _ _
  · intro card member
    simp only [cards] at member
    obtain ⟨call, new, _⟩ := cards_from_mem _ _ _ _ member
    exact ⟨⟨List.mem_append_left _ (List.mem_append_right _ member), fresh card new⟩, call⟩
  · intro object member
    rcases List.mem_append.mp member with old | new
    · have numbered := new_cards_numbered inv count object old
      simpa [cardsFrom] using ⟨Nat.lt_succ_of_lt numbered.1, numbered.2⟩
    · rw [List.mem_singleton.mp new]
      simp [cardsFrom]
  · intro object member
    exact List.mem_append_left _ (List.mem_append_left _ (inv.deletedOnes object member))
  · intro object member
    simp only [held] at member
    rcases List.mem_cons.mp member with rfl | card
    · exact List.mem_append_right _ (List.mem_singleton_self _)
    · exact List.mem_append_left _ (List.mem_append_right _ card)
  · simp only [held]
    refine List.nodup_cons.mpr ⟨fun member => ?_, cards_from_nodup _ _ _⟩
    exact absurd (cards_from_mem _ _ _ _ member).2.2 (Nat.lt_irrefl _)

theorem initialize_keeps (state : State) (answers : Answers) (inv : Inv state)
    (there : state.destroyed = false) (allowed : Allowed state (.initializeDAQ answers)) :
    Inv (state.initializeDAQ answers) := by
  obtain ⟨count, after, cards, outcome⟩ :=
    initialize_cases state.manager state.heap (state.calls + 1) answers
  unfold State.initializeDAQ
  rcases outcome with ⟨_, server, result⟩ | ⟨assigns, _, rfl, server, result⟩ |
    ⟨creates, server, result⟩
  · rw [result]
    exact failed_keeps state inv there after count cards server
  · rw [result]
    have sameCards : after.daqCards = state.manager.daqCards := by
      simpa [cardsFrom] using cards
    exact refused_keeps state inv there after sameCards server (allowed.1 assigns)
  · have none : state.manager.daqCards = [] := allowed.2 creates
    rw [none, List.nil_append] at cards
    rw [result]
    exact created_keeps state inv there after count cards server (allowed.1 creates.1) none

theorem cleanup_keeps (state : State) (destroyed : Bool) (inv : Inv state)
    (there : state.destroyed = false)
    (allowed : ∀ object ∈ state.manager.held, object ∉ state.heap.deleted) :
    Inv { state with heap := state.manager.cleanup state.heap, returned := none
                     destroyed := destroyed } := by
  rw [cleanup_eq]
  refine ⟨⟨?_, ?_, fun returned => by cases returned⟩, inv.numbered, ?_, inv.heldOnes, inv.heldOnce⟩
  · exact List.Nodup.append inv.sound.once inv.heldOnce fun object member held =>
      allowed object held member
  · intro object member undeleted
    have gone := not_or.mp (fun either => undeleted (List.mem_append.mpr either))
    have held := inv.sound.kept object member gone.1
    rw [State.held, there, if_neg Bool.false_ne_true] at held
    exact absurd held gone.2
  · intro object member
    rcases List.mem_append.mp member with old | held
    · exact inv.deletedOnes object old
    · exact inv.heldOnes object held

theorem idle_keeps (state : State) (inv : Inv state) : Inv { state with returned := none } :=
  ⟨⟨inv.sound.once, inv.sound.kept, fun returned => (nomatch returned)⟩, inv.numbered,
    inv.deletedOnes, inv.heldOnes, inv.heldOnce⟩

theorem step_there (state : State) (operation : Operation) (next : State)
    (stepped : step state operation = some next) : state.destroyed = false := by
  by_contra gone
  simp [step, gone] at stepped

theorem step_present (state : State) (operation : Operation) (next : State)
    (stepped : step state operation = some next) (stays : operation ≠ .destroy) :
    next.destroyed = false := by
  have there := step_there state operation next stepped
  have present : ¬ state.destroyed = true := by simp [there]
  unfold step at stepped
  rw [if_neg present] at stepped
  cases operation with
  | destroy => exact absurd rfl stays
  | initializeDAQ answers =>
      cases stepped
      exact there
  | run | stop | cleanup =>
      cases stepped
      exact there

theorem step_keeps (state : State) (operation : Operation) (next : State) (inv : Inv state)
    (stepped : step state operation = some next) (allowed : Allowed state operation) :
    Inv next := by
  have there := step_there state operation next stepped
  have present : ¬ state.destroyed = true := by simp [there]
  unfold step at stepped
  rw [if_neg present] at stepped
  cases operation with
  | initializeDAQ answers =>
      cases stepped
      exact initialize_keeps state answers inv there allowed
  | run =>
      cases stepped
      exact idle_keeps state inv
  | stop =>
      cases stepped
      exact idle_keeps state inv
  | cleanup =>
      cases stepped
      exact cleanup_keeps state state.destroyed inv there allowed
  | destroy =>
      cases stepped
      exact cleanup_keeps state true inv there allowed

theorem initialize_needs (state : State) (answers : Answers) (inv : Inv state)
    (there : state.destroyed = false) (sound : Sound (state.initializeDAQ answers)) :
    Allowed state (.initializeDAQ answers) := by
  unfold State.initializeDAQ at sound
  obtain ⟨count, after, cards, outcome⟩ :=
    initialize_cases state.manager state.heap (state.calls + 1) answers
  -- a lost server could only be kept by the list of cards
  have apart : ∀ server ∈ state.manager.frameServer, server ∉ after.daqCards := by
    intro server recorded member
    have created := inv.heldOnes server ((held_mem _ _).mpr (Or.inl recorded))
    rw [cards] at member
    rcases List.mem_append.mp member with old | new
    · have once := inv.heldOnce
      rw [Manager.held, show state.manager.frameServer = some server from recorded] at once
      exact (List.nodup_cons.mp once).1 old
    · exact new_not_created inv server (cards_from_mem _ _ _ _ new).2.1 created
  constructor
  · intro assigns server recorded
    by_contra undeleted
    have created := inv.heldOnes server ((held_mem _ _).mpr (Or.inl recorded))
    rcases outcome with ⟨refused, _, _⟩ | ⟨_, _, _, null, made⟩ | ⟨_, replaced, made⟩
    · exact refused assigns
    · rw [made] at sound
      rcases sound.reachable there server created undeleted with recordedNow | card
      · simp [null] at recordedNow
      · exact apart server recorded card
    · rw [made] at sound
      rcases sound.reachable there server
        (List.mem_append_left _ (List.mem_append_left _ created)) undeleted with recordedNow | card
      · rw [replaced, Option.some.injEq] at recordedNow
        exact new_not_created inv server (by rw [← recordedNow]; exact Nat.le_add_right _ _) created
      · exact apart server recorded card
  · intro creates
    rcases outcome with ⟨refused, _, _⟩ | ⟨_, refused, _⟩ | ⟨_, _, made⟩
    · exact absurd creates.1 refused
    · exact absurd creates refused
    · -- an old card in the list was not created by this call
      rw [made] at sound
      refine List.eq_nil_iff_forall_not_mem.mpr fun card member => ?_
      have ready := (sound.ready rfl).2 card (by rw [cards]; exact List.mem_append_left _ member)
      have older := inv.numbered card (inv.heldOnes card ((held_mem _ _).mpr (Or.inr member)))
      have same : card.call = state.calls + 1 := ready.2
      omega

theorem cleanup_needs (state next : State)
    (heap : next.heap = state.manager.cleanup state.heap) (sound : Sound next) :
    ∀ object ∈ state.manager.held, object ∉ state.heap.deleted := by
  intro object held member
  have once := sound.once
  rw [heap, cleanup_eq] at once
  exact (List.nodup_append.mp once).2.2 object member object held rfl

theorem step_needs (state : State) (operation : Operation) (next : State) (inv : Inv state)
    (stepped : step state operation = some next) (sound : Sound next) :
    Allowed state operation := by
  have there := step_there state operation next stepped
  have present : ¬ state.destroyed = true := by simp [there]
  unfold step at stepped
  rw [if_neg present] at stepped
  cases operation with
  | initializeDAQ answers =>
      cases stepped
      exact initialize_needs state answers inv there sound
  | run => trivial
  | stop => trivial
  | cleanup =>
      cases stepped
      exact cleanup_needs state _ rfl sound
  | destroy =>
      cases stepped
      exact cleanup_needs state _ rfl sound

/-- The resources of the manager are sound throughout a run exactly when
every operation of the run is allowed in the state it finds. -/
theorem lifecycle_sound_iff (daqType : String) (daqCards : List String)
    (operations : List Operation) :
    Throughout step Sound (start daqType daqCards) operations ↔
      Along step Allowed (start daqType daqCards) operations :=
  throughout_iff_along step (fun _ inv => inv.sound) step_keeps step_needs operations _
    (start_inv daqType daqCards)

/-- The first `initialize` comes from `main`, the second from START_DAQ: the
frame server of the first is lost. -/
theorem reinitialized_unsound :
    ¬ Throughout step Sound (start "GBE" ["/dev/psdaq0"])
      [.initializeDAQ ⟨true, some (5, 1), true, []⟩,
        .initializeDAQ ⟨true, some (6, 2), true, []⟩] := by
  intro sound
  have lost := (sound.2 _ rfl).2 _ rfl
  exact absurd (lost.kept ⟨.frameServer, 1, 0⟩ (by decide) (by decide)) (by decide)

end GramsTof.DAQManager
