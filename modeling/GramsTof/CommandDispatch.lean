import GramsTof.DAQManager

/-!
The handlers of START_DAQ, STOP_DAQ and RESET_DAQ, the destructor of
`GRAMS_TOF_CommandDispatch` and the DAQ thread they create, join and stop, as
one machine. The command thread takes one statement per step. A critical
section of one statement is one step, since the only other holder of
`daqMutex_` does the same. Threads are listed newest first; `daqThread_` can
only stand for the newest one.
-/

namespace GramsTof.CommandDispatch

open TransitionSystem

/-- Where a DAQ thread is in `runDAQThread`: before the test of
`frameServer_`, before the store to `globalUserStop`, in `pollSocket`, before
the store to `daqRunning_`, and after it. -/
inductive DaqThread where
  | created
  | clearing
  | polling
  | leaving
  | ended
  deriving DecidableEq, Repr

/-- The statement the command thread executes next. -/
inductive CommandPc where
  | idle
  | startCheck
  | startJoin
  | startInit
  | startFlag
  | startThread
  | stopCheck
  | stopStop
  | stopJoin
  | stopFlag
  | resetFlag
  | resetStop
  | resetJoin
  | resetCleanup
  | resetInit
  | resetRunning
  | resetThread
  | destroyCheck
  | destroyStop
  | destroyJoin
  | destroyed
  | terminated
  deriving DecidableEq, Repr

inductive Command where
  | startDaq
  | stopDaq
  | resetDaq
  | destroy
  deriving DecidableEq, Repr

def Command.entry : Command → CommandPc
  | .startDaq => .startCheck
  | .stopDaq => .stopCheck
  | .resetDaq => .resetFlag
  | .destroy => .destroyCheck

/-- `daqMutex_` is held between two statements. -/
def CommandPc.locked : CommandPc → Bool
  | .startJoin | .startInit | .startFlag | .startThread | .resetThread => true
  | _ => false

structure State where
  pc : CommandPc
  globalUserStop : Bool
  daqRunning : Bool
  joinable : Bool
  threads : List DaqThread
  daq : DAQManager.State
  deriving DecidableEq, Repr

def start (daq : DAQManager.State) : State :=
  { pc := .idle, globalUserStop := false, daqRunning := false, joinable := false, threads := []
    daq := daq }

/-- What a DAQ thread does: its next statement, or a return or an exception
that leaves `run` early. -/
inductive Move where
  | advance
  | leave
  deriving DecidableEq, Repr

inductive Action where
  | command (command : Command)
  | proceed
  | initialized (answers : DAQManager.Answers)
  | constructed (success : Bool)
  | daq (index : Nat) (move : Move)
  | signal
  deriving DecidableEq, Repr

/-- `if (daqThread_.joinable()) daqThread_.join()`: waits for the thread. -/
def State.join (state : State) (next : CommandPc) : Option State :=
  if state.joinable then
    if state.threads.head? = some .ended then some { state with joinable := false, pc := next }
    else none
  else some { state with pc := next }

/-- The destructors of the members; a joinable `std::thread` terminates. -/
def State.destroyMembers (state : State) : State :=
  { state with pc := if state.joinable then .terminated else .destroyed }

/-- A call of `initialize()` in a handler, which returns when it fails. -/
def State.initializeDAQ (state : State) (answers : DAQManager.Answers) (next : CommandPc) :
    State :=
  let daq := state.daq.initializeDAQ answers
  -- the mutex START_DAQ holds is released on the way out
  { state with daq := daq, pc := if daq.returned = some true then next else .idle }

/-- `daqThread_ = std::thread(...)`. An exception of the constructor is caught
by the handler; the assignment to a joinable `daqThread_` terminates. -/
def State.construct (state : State) (success : Bool) : State :=
  if success then
    -- the new thread runs before it is assigned
    { state with
      threads := .created :: state.threads
      pc := if state.joinable then .terminated else .idle
      joinable := true }
  else { state with pc := .idle }

def State.proceed (state : State) : Option State :=
  match state.pc with
  | .startCheck => some { state with pc := if state.daqRunning then .idle else .startJoin }
  | .startJoin => state.join .startInit
  | .startFlag => some { state with daqRunning := true, pc := .startThread }
  | .stopCheck => some { state with pc := if state.daqRunning then .stopStop else .idle }
  | .stopStop => some { state with globalUserStop := true, pc := .stopJoin }
  | .stopJoin => state.join .stopFlag
  | .stopFlag => some { state with daqRunning := false, pc := .idle }
  | .resetFlag => some { state with daqRunning := false, pc := .resetStop }
  | .resetStop => some { state with globalUserStop := true, pc := .resetJoin }
  | .resetJoin => state.join .resetCleanup
  | .resetCleanup =>
      (DAQManager.step state.daq .cleanup).map fun daq =>
        { state with daq := daq, pc := .resetInit }
  | .resetRunning => some { state with daqRunning := true, pc := .resetThread }
  | .destroyCheck =>
      some (if state.daqRunning then { state with pc := .destroyStop } else state.destroyMembers)
  | .destroyStop => some { state with globalUserStop := true, pc := .destroyJoin }
  | .destroyJoin => (state.join .destroyJoin).map State.destroyMembers
  | _ => none

def State.setThread (state : State) (index : Nat) (thread : DaqThread) : State :=
  { state with threads := state.threads.set index thread }

/-- One step of a DAQ thread. `polling` stays where it is as long as the loop
of `pollSocket` finds the flag false. -/
def State.daqStep (state : State) (index : Nat) (move : Move) : Option State :=
  match state.threads[index]?, move with
  | some .created, .advance =>
      some (state.setThread index
        (if state.daq.manager.frameServer.isSome then .clearing else .leaving))
  | some .clearing, .advance =>
      some { state.setThread index .polling with globalUserStop := false }
  | some .polling, .advance =>
      some (if state.globalUserStop then state.setThread index .leaving else state)
  | some .leaving, .advance =>
      -- the last critical section waits while START_DAQ or RESET_DAQ holds `daqMutex_`
      if state.pc.locked then none
      else some { state.setThread index .ended with daqRunning := false }
  | some .created, .leave => some (state.setThread index .leaving)
  | some .clearing, .leave => some (state.setThread index .leaving)
  | some .polling, .leave => some (state.setThread index .leaving)
  | _, _ => none

def step (state : State) : Action → Option State
  | .command command =>
      if state.pc = .idle then some { state with pc := command.entry } else none
  | .proceed => state.proceed
  | .initialized answers =>
      match state.pc with
      | .startInit => some (state.initializeDAQ answers .startFlag)
      | .resetInit => some (state.initializeDAQ answers .resetRunning)
      | _ => none
  | .constructed success =>
      match state.pc with
      | .startThread => some (state.construct success)
      | .resetThread => some (state.construct success)
      | _ => none
  | .daq index move => if state.pc = .terminated then none else state.daqStep index move
  | .signal => some { state with globalUserStop := true }

/-- A DAQ thread was created that has not yet stored false to `daqRunning_`. -/
def State.Alive (state : State) : Prop := ∃ thread ∈ state.threads, thread ≠ .ended

instance (state : State) : Decidable state.Alive :=
  inferInstanceAs (Decidable (∃ thread ∈ state.threads, thread ≠ .ended))

def CommandPc.joined : CommandPc → Bool
  | .startInit | .startFlag | .startThread | .stopFlag | .resetCleanup | .resetInit
  | .resetRunning | .resetThread | .destroyed => true
  | _ => false

/-- At most the newest thread runs, and only while `daqThread_` is joinable. -/
structure Inv (state : State) : Prop where
  older : ∀ thread ∈ state.threads.tail, thread = .ended
  owned : state.joinable = false → ¬ state.Alive
  joined : state.pc.joined = true → state.joinable = false

theorem start_inv (daq : DAQManager.State) : Inv (start daq) where
  older := fun _ member => (nomatch member)
  owned := fun _ ⟨_, member, _⟩ => (nomatch member)
  joined := fun _ => rfl

theorem Inv.single {state : State} (inv : Inv state) :
    (state.threads.filter (· ≠ .ended)).length ≤ 1 := by
  have older := inv.older
  cases threads : state.threads with
  | nil => simp
  | cons thread rest =>
      rw [threads, List.tail_cons] at older
      have none : rest.filter (· ≠ .ended) = [] := by
        rw [List.filter_eq_nil_iff]
        intro old member
        simp [older old member]
      rw [List.filter_cons, none]
      split <;> simp

def DaqThread.early : DaqThread → Bool
  | .created | .clearing => true
  | _ => false

/-- What a step of a DAQ thread changes, where the older threads have ended:
the newest thread moves on, and only its store to `globalUserStop` lowers that
flag; or it ends and lowers `daqRunning_`. -/
theorem daq_step_cases (state next : State) (index : Nat) (move : Move) (inv : Inv state)
    (stepped : state.daqStep index move = some next) :
    ∃ thread rest, state.threads = thread :: rest ∧ thread ≠ .ended ∧ next.pc = state.pc ∧
      next.joinable = state.joinable ∧ next.daq = state.daq ∧
      ((∃ later, later ≠ .ended ∧ next.threads = later :: rest ∧
          next.daqRunning = state.daqRunning ∧
          ((next.globalUserStop = state.globalUserStop ∧
              (later.early = true → thread.early = true)) ∨
            (thread.early = true ∧ next.globalUserStop = false))) ∨
        (state.pc.locked = false ∧ next.threads = .ended :: rest ∧ next.daqRunning = false ∧
          next.globalUserStop = state.globalUserStop)) := by
  obtain ⟨pc, flag, running, joinable, threads, daq⟩ := state
  unfold State.daqStep at stepped
  cases threads with
  | nil => simp at stepped
  | cons thread rest =>
      cases index with
      | succ index =>
          -- an older thread has ended and takes no step
          cases found : rest[index]? with
          | none => simp [found] at stepped
          | some old =>
              have ended : old = .ended := inv.older old (List.mem_of_getElem? found)
              simp [found, ended] at stepped
      | zero =>
          refine ⟨thread, rest, rfl, ?_⟩
          cases thread with
          | created =>
              cases move with
              | advance =>
                  simp only [List.getElem?_cons_zero, State.setThread, List.set_cons_zero]
                    at stepped
                  cases stepped
                  refine ⟨by simp, rfl, rfl, rfl,
                    Or.inl ⟨_, ?_, rfl, rfl, Or.inl ⟨rfl, fun _ => rfl⟩⟩⟩
                  split <;> simp
              | leave =>
                  cases stepped
                  exact ⟨by simp, rfl, rfl, rfl,
                    Or.inl ⟨.leaving, by simp, rfl, rfl, Or.inl ⟨rfl, fun _ => rfl⟩⟩⟩
          | clearing =>
              cases move with
              | advance =>
                  cases stepped
                  exact ⟨by simp, rfl, rfl, rfl,
                    Or.inl ⟨.polling, by simp, rfl, rfl, Or.inr ⟨rfl, rfl⟩⟩⟩
              | leave =>
                  cases stepped
                  exact ⟨by simp, rfl, rfl, rfl,
                    Or.inl ⟨.leaving, by simp, rfl, rfl, Or.inl ⟨rfl, fun _ => rfl⟩⟩⟩
          | polling =>
              cases move with
              | advance =>
                  simp only [List.getElem?_cons_zero, State.setThread, List.set_cons_zero]
                    at stepped
                  cases stepped
                  cases flag with
                  | true =>
                      exact ⟨by simp, rfl, rfl, rfl,
                        Or.inl ⟨.leaving, by simp, rfl, rfl, Or.inl ⟨rfl, id⟩⟩⟩
                  | false =>
                      exact ⟨by simp, rfl, rfl, rfl,
                        Or.inl ⟨.polling, by simp, rfl, rfl, Or.inl ⟨rfl, id⟩⟩⟩
              | leave =>
                  cases stepped
                  exact ⟨by simp, rfl, rfl, rfl,
                    Or.inl ⟨.leaving, by simp, rfl, rfl, Or.inl ⟨rfl, id⟩⟩⟩
          | leaving =>
              cases move with
              | advance =>
                  cases free : pc.locked with
                  | true => simp [free] at stepped
                  | false =>
                      simp only [List.getElem?_cons_zero, free, Bool.false_eq_true, if_false,
                        State.setThread, List.set_cons_zero] at stepped
                      cases stepped
                      exact ⟨by simp, rfl, rfl, rfl, Or.inr ⟨rfl, rfl, rfl, rfl⟩⟩
              | leave => simp at stepped
          | ended => cases move <;> simp at stepped

theorem alive_cons (state : State) (thread : DaqThread) (rest : List DaqThread)
    (threads : state.threads = thread :: rest) (older : ∀ old ∈ rest, old = .ended) :
    state.Alive ↔ thread ≠ .ended := by
  constructor
  · rintro ⟨found, member, running⟩ ended
    rw [threads] at member
    rcases List.mem_cons.mp member with rfl | old
    · exact running ended
    · exact running (older found old)
  · exact fun running => ⟨thread, by rw [threads]; exact List.mem_cons_self, running⟩

theorem join_cases (state next : State) (pc : CommandPc) (inv : Inv state)
    (stepped : state.join pc = some next) :
    ¬ state.Alive ∧ next = { state with joinable := false, pc := pc } := by
  unfold State.join at stepped
  by_cases joinable : state.joinable = true
  · rw [if_pos joinable] at stepped
    split at stepped
    · next ended =>
        cases stepped
        refine ⟨?_, rfl⟩
        rintro ⟨thread, member, running⟩
        cases threads : state.threads with
        | nil => simp [threads] at ended
        | cons first rest =>
            have older := inv.older
            rw [threads] at ended member older
            rcases List.mem_cons.mp member with rfl | old
            · exact running (Option.some.inj ended)
            · exact running (older thread old)
    · cases stepped
  · rw [if_neg joinable] at stepped
    cases stepped
    have free : state.joinable = false := by simpa using joinable
    refine ⟨inv.owned free, ?_⟩
    rw [← free]

/-- A statement of the command thread creates no thread, and forgets a thread
only after a join. -/
theorem proceed_frame (state next : State) (inv : Inv state)
    (stepped : state.proceed = some next) :
    next.threads = state.threads ∧
      (next.joinable = state.joinable ∨ ¬ state.Alive ∧ next.joinable = false) ∧
      (next.pc.joined = true → next.joinable = false) := by
  have kept := inv.joined
  unfold State.proceed at stepped
  cases pc : state.pc with
  | startJoin | stopJoin | resetJoin =>
      rw [pc] at stepped
      obtain ⟨gone, rfl⟩ := join_cases state next _ inv stepped
      exact ⟨rfl, Or.inr ⟨gone, rfl⟩, fun _ => rfl⟩
  | destroyJoin =>
      rw [pc] at stepped
      obtain ⟨middle, waited, rfl⟩ := Option.map_eq_some_iff.mp stepped
      obtain ⟨gone, rfl⟩ := join_cases state middle _ inv waited
      exact ⟨rfl, Or.inr ⟨gone, rfl⟩, fun _ => rfl⟩
  -- without a running thread the destructor goes on to the members
  | destroyCheck =>
      rw [pc] at stepped
      cases stepped
      cases state.daqRunning with
      | true => exact ⟨rfl, Or.inl rfl, fun joined => by cases joined⟩
      | false =>
          refine ⟨rfl, Or.inl rfl, fun joined => ?_⟩
          cases free : state.joinable with
          | true => simp [State.destroyMembers, free, CommandPc.joined] at joined
          | false => simpa [State.destroyMembers] using free
  | resetCleanup =>
      rw [pc] at stepped kept
      obtain ⟨daq, _, rfl⟩ := Option.map_eq_some_iff.mp stepped
      exact ⟨rfl, Or.inl rfl, fun _ => kept rfl⟩
  | startCheck | stopCheck =>
      rw [pc] at stepped
      cases stepped
      refine ⟨rfl, Or.inl rfl, fun joined => ?_⟩
      cases running : state.daqRunning <;> simp [running, CommandPc.joined] at joined
  | stopStop | resetFlag | resetStop | destroyStop | stopFlag =>
      rw [pc] at stepped
      cases stepped
      exact ⟨rfl, Or.inl rfl, fun joined => by cases joined⟩
  | startFlag | resetRunning =>
      rw [pc] at stepped kept
      cases stepped
      exact ⟨rfl, Or.inl rfl, fun _ => kept rfl⟩
  | idle | startInit | startThread | resetInit | resetThread | destroyed | terminated =>
      rw [pc] at stepped
      cases stepped

theorem alive_of_threads (left right : State) (same : left.threads = right.threads) :
    left.Alive ↔ right.Alive := by
  unfold State.Alive
  rw [same]

theorem Inv.frame {state next : State} (inv : Inv state) (threads : next.threads = state.threads)
    (joinable : next.joinable = state.joinable ∨ ¬ state.Alive ∧ next.joinable = false)
    (joined : next.pc.joined = true → next.joinable = false) : Inv next := by
  refine ⟨?_, ?_, joined⟩
  · rw [threads]
    exact inv.older
  · rw [alive_of_threads next state threads]
    rcases joinable with same | ⟨gone, _⟩
    · rw [same]
      exact inv.owned
    · exact fun _ => gone

theorem construct_keeps (state : State) (success : Bool) (inv : Inv state)
    (joined : state.joinable = false) : Inv (state.construct success) := by
  have none : ∀ thread ∈ state.threads, thread = .ended := by
    intro thread member
    by_contra running
    exact inv.owned joined ⟨thread, member, running⟩
  unfold State.construct
  cases success with
  | true =>
      -- nothing was joinable, so the assignment does not terminate
      refine ⟨none, fun free => (nomatch free), fun pc => ?_⟩
      simp [joined, CommandPc.joined] at pc
  | false => exact inv.frame rfl (Or.inl rfl) fun pc => by cases pc

theorem initialize_keeps (state : State) (answers : DAQManager.Answers) (target : CommandPc)
    (inv : Inv state) (joined : state.joinable = false) :
    Inv (state.initializeDAQ answers target) :=
  inv.frame rfl (Or.inl rfl) fun _ => joined

theorem daq_step_keeps (state next : State) (index : Nat) (move : Move) (inv : Inv state)
    (stepped : state.daqStep index move = some next) : Inv next := by
  obtain ⟨thread, rest, threads, running, pc, joinable, daq, outcome⟩ :=
    daq_step_cases state next index move inv stepped
  have older : ∀ old ∈ rest, old = .ended := by
    have ended := inv.older
    rwa [threads] at ended
  have alive := (alive_cons state thread rest threads older).mpr running
  have owned : state.joinable = true := by
    by_contra free
    exact inv.owned (by simpa using free) alive
  refine ⟨?_, ?_, ?_⟩
  · rcases outcome with ⟨later, _, moved, _⟩ | ⟨_, moved, _⟩
    · rw [moved]
      exact older
    · rw [moved]
      exact older
  · rw [joinable, owned]
    exact fun free => by cases free
  · rw [pc, joinable]
    exact inv.joined

theorem join_manager (state next : State) (pc : CommandPc) (stepped : state.join pc = some next) :
    next.daq = state.daq := by
  unfold State.join at stepped
  split at stepped
  · split at stepped
    · cases stepped
      rfl
    · cases stepped
  · cases stepped
    rfl

/-- The operation of the manager a step carries out. What `run` and `stop` of
the manager do is part of this machine. -/
def State.operation (state : State) : Action → Option DAQManager.Operation
  | .initialized answers => some (.initializeDAQ answers)
  | .proceed => if state.pc = .resetCleanup then some .cleanup else none
  | .command _ | .constructed _ | .daq _ _ | .signal => none

theorem proceed_manager (state next : State) (stepped : state.proceed = some next) :
    state.operation .proceed = none ∧ next.daq = state.daq ∨
      state.operation .proceed = some .cleanup ∧
        DAQManager.step state.daq .cleanup = some next.daq := by
  unfold State.operation
  unfold State.proceed at stepped
  cases pc : state.pc with
  | resetCleanup =>
      rw [pc] at stepped
      obtain ⟨daq, cleaned, rfl⟩ := Option.map_eq_some_iff.mp stepped
      exact Or.inr ⟨rfl, cleaned⟩
  | startJoin | stopJoin | resetJoin =>
      rw [pc] at stepped
      exact Or.inl ⟨rfl, join_manager state next _ stepped⟩
  | destroyJoin =>
      rw [pc] at stepped
      obtain ⟨middle, waited, rfl⟩ := Option.map_eq_some_iff.mp stepped
      exact Or.inl ⟨rfl, join_manager state middle _ waited⟩
  | destroyCheck =>
      rw [pc] at stepped
      cases stepped
      cases state.daqRunning <;> exact Or.inl ⟨rfl, rfl⟩
  | startCheck | stopCheck | startFlag | stopStop | stopFlag | resetFlag | resetStop
  | resetRunning | destroyStop =>
      rw [pc] at stepped
      cases stepped
      exact Or.inl ⟨rfl, rfl⟩
  | idle | startInit | startThread | resetInit | resetThread | destroyed | terminated =>
      rw [pc] at stepped
      cases stepped

theorem daq_step_manager (state next : State) (index : Nat) (move : Move)
    (stepped : state.daqStep index move = some next) : next.daq = state.daq := by
  unfold State.daqStep at stepped
  split at stepped
  case h_3 =>
    cases stepped
    cases state.globalUserStop <;> rfl
  case h_4 =>
    split at stepped
    · cases stepped
    · cases stepped
      rfl
  all_goals
    cases stepped
    try rfl

theorem command_step (state next : State) (command : Command)
    (stepped : step state (.command command) = some next) :
    state.pc = .idle ∧ next = { state with pc := command.entry } := by
  simp only [step] at stepped
  split at stepped
  · next idle =>
      cases stepped
      exact ⟨idle, rfl⟩
  · cases stepped

theorem initialized_step (state next : State) (answers : DAQManager.Answers)
    (stepped : step state (.initialized answers) = some next) :
    (state.pc = .startInit ∧ next = state.initializeDAQ answers .startFlag) ∨
      (state.pc = .resetInit ∧ next = state.initializeDAQ answers .resetRunning) := by
  simp only [step] at stepped
  split at stepped
  · next pc =>
      cases stepped
      exact Or.inl ⟨pc, rfl⟩
  · next pc =>
      cases stepped
      exact Or.inr ⟨pc, rfl⟩
  · cases stepped

theorem constructed_step (state next : State) (success : Bool)
    (stepped : step state (.constructed success) = some next) :
    (state.pc = .startThread ∨ state.pc = .resetThread) ∧ next = state.construct success := by
  simp only [step] at stepped
  split at stepped
  · next pc =>
      cases stepped
      exact ⟨Or.inl pc, rfl⟩
  · next pc =>
      cases stepped
      exact ⟨Or.inr pc, rfl⟩
  · cases stepped

theorem daq_step (state next : State) (index : Nat) (move : Move)
    (stepped : step state (.daq index move) = some next) :
    state.daqStep index move = some next := by
  simp only [step] at stepped
  split at stepped
  · cases stepped
  · exact stepped

/-- No handler creates a thread, or calls `initialize()`, before it has joined. -/
theorem construct_joined {state : State} (inv : Inv state)
    (pc : state.pc = .startThread ∨ state.pc = .resetThread) : state.joinable = false := by
  apply inv.joined
  rcases pc with pc | pc <;> rw [pc] <;> rfl

theorem initialize_joined {state : State} (inv : Inv state)
    (pc : state.pc = .startInit ∨ state.pc = .resetInit) : state.joinable = false := by
  apply inv.joined
  rcases pc with pc | pc <;> rw [pc] <;> rfl

theorem step_keeps (state : State) (action : Action) (next : State) (inv : Inv state)
    (stepped : step state action = some next) : Inv next := by
  cases action with
  | command command =>
      obtain ⟨idle, rfl⟩ := command_step state next command stepped
      refine inv.frame rfl (Or.inl rfl) ?_
      cases command <;> exact fun joined => by cases joined
  | proceed =>
      obtain ⟨threads, joinable, joined⟩ := proceed_frame state next inv stepped
      exact inv.frame threads joinable joined
  | initialized answers =>
      rcases initialized_step state next answers stepped with ⟨pc, rfl⟩ | ⟨pc, rfl⟩
      · exact initialize_keeps state answers _ inv (initialize_joined inv (Or.inl pc))
      · exact initialize_keeps state answers _ inv (initialize_joined inv (Or.inr pc))
  | constructed success =>
      obtain ⟨pc, rfl⟩ := constructed_step state next success stepped
      exact construct_keeps state success inv (construct_joined inv pc)
  | daq index move =>
      exact daq_step_keeps state next index move inv (daq_step state next index move stepped)
  | signal =>
      cases stepped
      exact inv.frame rfl (Or.inl rfl) inv.joined

theorem step_manager (state : State) (action : Action) (next : State)
    (present : state.daq.destroyed = false) (stepped : step state action = some next) :
    state.operation action = none ∧ next.daq = state.daq ∨
      ∃ operation, state.operation action = some operation ∧ operation ≠ .destroy ∧
        DAQManager.step state.daq operation = some next.daq := by
  cases action with
  | command command =>
      obtain ⟨_, rfl⟩ := command_step state next command stepped
      exact Or.inl ⟨rfl, rfl⟩
  | initialized answers =>
      have called : next.daq = state.daq.initializeDAQ answers := by
        rcases initialized_step state next answers stepped with ⟨_, rfl⟩ | ⟨_, rfl⟩ <;> rfl
      refine Or.inr ⟨.initializeDAQ answers, rfl, by simp, ?_⟩
      simp [DAQManager.step, present, called]
  | constructed success =>
      obtain ⟨_, rfl⟩ := constructed_step state next success stepped
      cases success <;> exact Or.inl ⟨rfl, rfl⟩
  | daq index move =>
      have moved := daq_step state next index move stepped
      exact Or.inl ⟨rfl, daq_step_manager state next index move moved⟩
  | signal =>
      cases stepped
      exact Or.inl ⟨rfl, rfl⟩
  | proceed =>
      rcases proceed_manager state next stepped with same | ⟨operation, cleaned⟩
      · exact Or.inl same
      · exact Or.inr ⟨.cleanup, operation, by simp, cleaned⟩

/-- Seen through its manager, the dispatcher is the machine of the manager. -/
theorem dispatch_refines : Refines step DAQManager.step State.daq State.operation
    fun state => state.daq.destroyed = false where
  kept := by
    intro state action next present stepped
    rcases step_manager state action next present stepped with
      ⟨_, same⟩ | ⟨operation, _, stays, called⟩
    · rw [same]
      exact present
    · exact DAQManager.step_present state.daq operation next.daq called stays
  idle := by
    intro state action next present stepped none
    rcases step_manager state action next present stepped with ⟨_, same⟩ | ⟨_, some, _⟩
    · exact same
    · rw [none] at some
      cases some
  taken := by
    intro state action next named present stepped some
    rcases step_manager state action next present stepped with
      ⟨none, _⟩ | ⟨operation, same, _, called⟩
    · rw [none] at some
      cases some
    · rw [some] at same
      cases same
      exact called

/-- Over every interleaving of the handlers and the DAQ threads, the manager's
resources stay sound exactly when the handlers call `initialize()` and
`cleanup()` only where the manager allows it. -/
theorem manager_sound_iff (daq : DAQManager.State) (inv : DAQManager.Inv daq)
    (present : daq.destroyed = false) (actions : List Action) :
    Throughout step (fun state => DAQManager.Sound state.daq) (start daq) actions ↔
      Along step (fun state action =>
        ∀ operation ∈ state.operation action, DAQManager.Allowed state.daq operation)
        (start daq) actions :=
  dispatch_refines.throughout_iff_along (fun _ inv => inv.sound) DAQManager.step_keeps
    DAQManager.step_needs actions (start daq) present inv

theorem one_thread (daq : DAQManager.State) (actions : List Action) (final : State)
    (ran : run step (start daq) actions = some final) :
    (final.threads.filter (· ≠ .ended)).length ≤ 1 :=
  (run_invariant step step_keeps actions (start daq) final (start_inv daq) ran).single

end GramsTof.CommandDispatch
