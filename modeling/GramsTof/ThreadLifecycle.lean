import GramsTof.CommandDispatch

/-!
What holds over whole runs of the command thread and the DAQ threads: when the
running flag tells the truth, when a stop request is kept, and when the thread
object is safe. Each of the three needs a condition on some steps that the
handlers do not ensure, and the runs that meet it are exactly the good ones
for the running flag and the thread object.
-/

namespace GramsTof.ThreadLifecycle

open TransitionSystem CommandDispatch

/-! The thread object. -/

def NotTerminated (state : State) : Prop := state.pc ≠ .terminated

instance (state : State) : Decidable (NotTerminated state) :=
  inferInstanceAs (Decidable (_ ≠ _))

/-- The destructor joins only when it reads `daqRunning_` as true. -/
def DestroysJoined (state : State) (action : Action) : Prop :=
  action = .proceed → state.pc = .destroyCheck → state.daqRunning = true ∨ state.joinable = false

theorem terminating_step (state : State) (action : Action) (next : State) (inv : Inv state)
    (stepped : step state action = some next) (alive : NotTerminated state)
    (ends : next.pc = .terminated) :
    action = .proceed ∧ state.pc = .destroyCheck ∧ state.daqRunning = false ∧
      state.joinable = true := by
  cases action with
  | command command =>
      obtain ⟨_, rfl⟩ := command_step state next command stepped
      cases command <;> cases ends
  | initialized answers =>
      rcases initialized_step state next answers stepped with ⟨_, rfl⟩ | ⟨_, rfl⟩
      · simp only [State.initializeDAQ] at ends
        split at ends <;> cases ends
      · simp only [State.initializeDAQ] at ends
        split at ends <;> cases ends
  | constructed success =>
      obtain ⟨pc, rfl⟩ := constructed_step state next success stepped
      have free := construct_joined inv pc
      cases success <;> simp [State.construct, free] at ends
  | daq index move =>
      have moved := daq_step state next index move stepped
      obtain ⟨_, _, _, _, same, _⟩ := daq_step_cases state next index move inv moved
      exact absurd (same ▸ ends) alive
  | signal =>
      cases stepped
      exact absurd ends alive
  | proceed =>
      simp only [step, State.proceed] at stepped
      cases pc : state.pc with
      | destroyCheck =>
          rw [pc] at stepped
          cases stepped
          cases running : state.daqRunning with
          | true => simp [running] at ends
          | false =>
              cases free : state.joinable with
              | true => exact ⟨rfl, rfl, rfl, rfl⟩
              | false => simp [running, State.destroyMembers, free] at ends
      | startJoin | stopJoin | resetJoin =>
          rw [pc] at stepped
          obtain ⟨_, rfl⟩ := join_cases state next _ inv stepped
          cases ends
      | destroyJoin =>
          rw [pc] at stepped
          obtain ⟨middle, waited, rfl⟩ := Option.map_eq_some_iff.mp stepped
          obtain ⟨_, rfl⟩ := join_cases state middle _ inv waited
          cases ends
      | resetCleanup =>
          rw [pc] at stepped
          obtain ⟨daq, _, rfl⟩ := Option.map_eq_some_iff.mp stepped
          cases ends
      | startCheck | stopCheck =>
          rw [pc] at stepped
          cases stepped
          cases running : state.daqRunning <;> simp [running] at ends
      | startFlag | stopStop | stopFlag | resetFlag | resetStop | resetRunning | destroyStop =>
          rw [pc] at stepped
          cases stepped
          cases ends
      | idle | startInit | startThread | resetInit | resetThread | destroyed | terminated =>
          rw [pc] at stepped
          cases stepped

structure Untroubled (state : State) : Prop where
  base : Inv state
  alive : NotTerminated state

/-- `std::terminate` is not reached in a run exactly when the destructor, if
it runs, either reads `daqRunning_` as true or finds nothing to join. -/
theorem not_terminated_iff (daq : DAQManager.State) (actions : List Action) :
    Throughout step NotTerminated (start daq) actions ↔
      Along step DestroysJoined (start daq) actions := by
  have begun : Untroubled (start daq) := ⟨start_inv daq, fun same => by cases same⟩
  refine throughout_iff_along step (fun _ untroubled => untroubled.alive) ?_ ?_ actions _ begun
  · rintro state action next ⟨inv, alive⟩ stepped joins
    refine ⟨step_keeps state action next inv stepped, fun ends => ?_⟩
    obtain ⟨proceeds, check, lowered, joinable⟩ :=
      terminating_step state action next inv stepped alive ends
    rcases joins proceeds check with running | free
    · rw [running] at lowered
      cases lowered
    · rw [free] at joinable
      cases joinable
  · rintro state action next ⟨inv, _⟩ stepped reached rfl check
    by_contra neither
    obtain ⟨running, free⟩ := not_or.mp neither
    simp only [step, State.proceed, check, running, Bool.false_eq_true, if_false] at stepped
    have next_eq := Option.some.inj stepped
    apply reached
    rw [← next_eq]
    simp [State.destroyMembers, free]

def startUp (success : Bool) : List Action :=
  [.command .startDaq, .proceed, .proceed, .initialized ⟨true, some (5, 1), true, []⟩, .proceed,
    .constructed success]

/-- The DAQ thread ends by itself and the dispatcher is destroyed after that. -/
theorem ended_thread_terminates :
    ¬ Throughout step NotTerminated (start (DAQManager.start "GBE" ["/dev/psdaq0"]))
      (startUp true ++ [.daq 0 .leave, .daq 0 .advance, .command .destroy, .proceed]) := by
  decide +kernel

/-! The running flag. -/

/-- At a command boundary `daqRunning_` says whether a DAQ thread exists,
START_DAQ is refused only while there is one, and there is at most one. -/
structure Truthful (state : State) : Prop where
  boundary : state.pc = .idle → (state.daqRunning = true ↔ state.Alive)
  refused : state.pc = .startCheck → state.daqRunning = true → state.Alive
  single : (state.threads.filter (· ≠ .ended)).length ≤ 1

instance (state : State) : Decidable (Truthful state) :=
  decidable_of_iff
    ((state.pc = .idle → (state.daqRunning = true ↔ state.Alive)) ∧
      (state.pc = .startCheck → state.daqRunning = true → state.Alive) ∧
      (state.threads.filter (· ≠ .ended)).length ≤ 1)
    ⟨fun ⟨boundary, refused, single⟩ => ⟨boundary, refused, single⟩,
      fun truthful => ⟨truthful.boundary, truthful.refused, truthful.single⟩⟩

-- `stopFlag` is in none of the three sets below: the joined thread has lowered
-- the flag, and STOP_DAQ is about to lower it again.

def tracksFlag : CommandPc → Bool
  | .idle | .startCheck | .stopCheck | .stopStop | .stopJoin | .resetFlag | .destroyCheck
  | .destroyStop | .destroyJoin => true
  | _ => false

def lowFlag : CommandPc → Bool
  | .startJoin | .startInit | .startFlag | .resetStop | .resetJoin | .resetCleanup | .resetInit
  | .resetRunning => true
  | _ => false

/-- The flag is set and the thread not yet created. -/
def setFlag : CommandPc → Bool
  | .startThread | .resetThread => true
  | _ => false

structure Agrees (state : State) : Prop where
  base : Inv state
  tracks : tracksFlag state.pc = true → (state.daqRunning = true ↔ state.Alive)
  lowered : lowFlag state.pc = true → state.daqRunning = false
  raised : setFlag state.pc = true → state.daqRunning = true

theorem agrees_truthful (state : State) (agrees : Agrees state) : Truthful state where
  boundary := fun pc => agrees.tracks (by rw [pc]; rfl)
  refused := fun pc => (agrees.tracks (by rw [pc]; rfl)).mp
  single := agrees.base.single

/-- `std::thread`'s constructor does not throw. -/
def Constructs (_ : State) (action : Action) : Prop := action ≠ .constructed false

instance (state : State) (action : Action) : Decidable (Constructs state action) :=
  inferInstanceAs (Decidable (_ ≠ _))

theorem daq_step_agrees (state next : State) (index : Nat) (move : Move) (agrees : Agrees state)
    (stepped : state.daqStep index move = some next) : Agrees next := by
  have base := daq_step_keeps state next index move agrees.base stepped
  obtain ⟨thread, rest, threads, running, pc, joinable, daq, outcome⟩ :=
    daq_step_cases state next index move agrees.base stepped
  have older : ∀ old ∈ rest, old = .ended := by
    have ended := agrees.base.older
    rwa [threads] at ended
  have alive := (alive_cons state thread rest threads older).mpr running
  rcases outcome with ⟨later, goes, moved, same, _⟩ | ⟨free, moved, fell, _⟩
  -- the thread goes on, and so does the flag
  · have aliveNext := (alive_cons next later rest moved older).mpr goes
    refine ⟨base, ?_, ?_, ?_⟩
    · intro tracked
      rw [pc] at tracked
      rw [same, agrees.tracks tracked]
      exact ⟨fun _ => aliveNext, fun _ => alive⟩
    · rw [pc, same]
      exact agrees.lowered
    · rw [pc, same]
      exact agrees.raised
  · refine ⟨base, fun _ => ?_, fun _ => fell, ?_⟩
    · rw [fell, alive_cons next .ended rest moved older]
      simp
    · -- where the flag is set for a thread to come, the mutex is held
      intro set
      rw [pc] at set
      cases held : state.pc <;> rw [held] at set free <;> cases set <;> cases free

theorem construct_agrees (state : State) (agrees : Agrees state) (pc : setFlag state.pc = true)
    (free : state.joinable = false) : Agrees (state.construct true) := by
  refine ⟨construct_keeps state true agrees.base free, fun _ => ?_, fun low => ?_, fun set => ?_⟩
  · have alive : (state.construct true).Alive :=
      ⟨.created, List.mem_cons_self, fun same => by cases same⟩
    exact ⟨fun _ => alive, fun _ => agrees.raised pc⟩
  · simp [State.construct, free, lowFlag] at low
  · simp [State.construct, free, setFlag] at set

theorem initialize_agrees (state : State) (answers : DAQManager.Answers) (target : CommandPc)
    (agrees : Agrees state) (low : lowFlag state.pc = true) (free : state.joinable = false)
    (unset : setFlag target = false) :
    Agrees (state.initializeDAQ answers target) := by
  have down := agrees.lowered low
  have gone := agrees.base.owned free
  refine ⟨initialize_keeps state answers target agrees.base free, fun _ => ?_, fun _ => down, ?_⟩
  · rw [alive_of_threads (state.initializeDAQ answers target) state rfl]
    exact ⟨fun up => absurd (down.symm.trans up) Bool.false_ne_true, fun alive => absurd alive gone⟩
  · intro set
    simp only [State.initializeDAQ] at set
    split at set
    · rw [unset] at set
      cases set
    · cases set

theorem Agrees.tracking {state : State} (base : Inv state)
    (up : lowFlag state.pc = false ∧ setFlag state.pc = false)
    (same : state.daqRunning = true ↔ state.Alive) : Agrees state where
  base := base
  tracks := fun _ => same
  lowered := fun low => absurd (up.1.symm.trans low) Bool.false_ne_true
  raised := fun set => absurd (up.2.symm.trans set) Bool.false_ne_true

theorem Agrees.low {state : State} (base : Inv state)
    (down : tracksFlag state.pc = false ∧ setFlag state.pc = false)
    (running : state.daqRunning = false) : Agrees state where
  base := base
  tracks := fun tracked => absurd (down.1.symm.trans tracked) Bool.false_ne_true
  lowered := fun _ => running
  raised := fun set => absurd (down.2.symm.trans set) Bool.false_ne_true

theorem Agrees.high {state : State} (base : Inv state)
    (set : tracksFlag state.pc = false ∧ lowFlag state.pc = false)
    (running : state.daqRunning = true) : Agrees state where
  base := base
  tracks := fun tracked => absurd (set.1.symm.trans tracked) Bool.false_ne_true
  lowered := fun low => absurd (set.2.symm.trans low) Bool.false_ne_true
  raised := fun _ => running

theorem Agrees.free {state : State} (base : Inv state)
    (other : tracksFlag state.pc = false ∧ lowFlag state.pc = false ∧ setFlag state.pc = false) :
    Agrees state where
  base := base
  tracks := fun tracked => absurd (other.1.symm.trans tracked) Bool.false_ne_true
  lowered := fun low => absurd (other.2.1.symm.trans low) Bool.false_ne_true
  raised := fun set => absurd (other.2.2.symm.trans set) Bool.false_ne_true

theorem destroyed_agrees (state : State) (base : Inv state.destroyMembers) :
    Agrees state.destroyMembers := by
  cases free : state.joinable <;>
    exact .free base (by simp [State.destroyMembers, free, tracksFlag, lowFlag, setFlag])

theorem proceed_agrees (state next : State) (agrees : Agrees state)
    (stepped : state.proceed = some next) : Agrees next := by
  obtain ⟨threads, joinable, joined⟩ := proceed_frame state next agrees.base stepped
  have base := agrees.base.frame threads joinable joined
  have alive := alive_of_threads next state threads
  have tracked := agrees.tracks
  have down := agrees.lowered
  have settled := agrees.base.joined
  unfold State.proceed at stepped
  cases pc : state.pc with
  | startCheck =>
      rw [pc] at stepped tracked
      cases running : state.daqRunning with
      | true =>
          simp only [running, if_true] at stepped
          cases stepped
          exact .tracking base ⟨rfl, rfl⟩ (by rw [alive, ← tracked rfl, running])
      | false =>
          simp only [running, Bool.false_eq_true, if_false] at stepped
          cases stepped
          exact .low base ⟨rfl, rfl⟩ rfl
  | stopCheck =>
      rw [pc] at stepped tracked
      cases running : state.daqRunning with
      | true =>
          simp only [running, if_true] at stepped
          cases stepped
          exact .tracking base ⟨rfl, rfl⟩ (by rw [alive, ← tracked rfl, running])
      | false =>
          simp only [running, Bool.false_eq_true, if_false] at stepped
          cases stepped
          exact .tracking base ⟨rfl, rfl⟩ (by rw [alive, ← tracked rfl, running])
  | stopStop | destroyStop =>
      rw [pc] at stepped tracked
      cases stepped
      exact .tracking base ⟨rfl, rfl⟩ (by rw [alive, ← tracked rfl])
  | stopFlag =>
      rw [pc] at stepped settled
      cases stepped
      have gone := agrees.base.owned (settled rfl)
      exact .tracking base ⟨rfl, rfl⟩ (by rw [alive]; simp [gone])
  -- the flag is down when it joins
  | startJoin | resetJoin =>
      rw [pc] at stepped down
      obtain ⟨_, rfl⟩ := join_cases state next _ agrees.base stepped
      exact .low base ⟨rfl, rfl⟩ (down rfl)
  | stopJoin =>
      rw [pc] at stepped
      obtain ⟨_, rfl⟩ := join_cases state next _ agrees.base stepped
      exact .free base ⟨rfl, rfl, rfl⟩
  | resetFlag =>
      rw [pc] at stepped
      cases stepped
      exact .low base ⟨rfl, rfl⟩ rfl
  | resetStop =>
      rw [pc] at stepped down
      cases stepped
      exact .low base ⟨rfl, rfl⟩ (down rfl)
  | resetCleanup =>
      rw [pc] at stepped down
      obtain ⟨daq, _, rfl⟩ := Option.map_eq_some_iff.mp stepped
      exact .low base ⟨rfl, rfl⟩ (down rfl)
  | startFlag | resetRunning =>
      rw [pc] at stepped
      cases stepped
      exact .high base ⟨rfl, rfl⟩ rfl
  | destroyCheck =>
      rw [pc] at stepped tracked
      cases running : state.daqRunning with
      | true =>
          simp only [running, if_true] at stepped
          cases stepped
          exact .tracking base ⟨rfl, rfl⟩ (by rw [alive, ← tracked rfl, running])
      | false =>
          simp only [running, Bool.false_eq_true, if_false] at stepped
          cases stepped
          exact destroyed_agrees state base
  -- the members of a joined manager are destroyed
  | destroyJoin =>
      rw [pc] at stepped
      obtain ⟨middle, _, rfl⟩ := Option.map_eq_some_iff.mp stepped
      exact destroyed_agrees middle base
  | idle | startInit | startThread | resetInit | resetThread | destroyed | terminated =>
      rw [pc] at stepped
      cases stepped

theorem step_agrees (state : State) (action : Action) (next : State) (agrees : Agrees state)
    (stepped : step state action = some next) (constructs : Constructs state action) :
    Agrees next := by
  have base := step_keeps state action next agrees.base stepped
  cases action with
  | command command =>
      obtain ⟨idle, rfl⟩ := command_step state next command stepped
      have same := agrees.tracks (by rw [idle]; rfl)
      cases command <;> exact .tracking base ⟨rfl, rfl⟩ same
  | proceed => exact proceed_agrees state next agrees stepped
  | initialized answers =>
      rcases initialized_step state next answers stepped with ⟨pc, rfl⟩ | ⟨pc, rfl⟩
      · exact initialize_agrees state answers _ agrees (by rw [pc]; rfl)
          (initialize_joined agrees.base (Or.inl pc)) rfl
      · exact initialize_agrees state answers _ agrees (by rw [pc]; rfl)
          (initialize_joined agrees.base (Or.inr pc)) rfl
  | constructed success =>
      obtain ⟨pc, rfl⟩ := constructed_step state next success stepped
      cases success with
      | false => exact absurd rfl constructs
      | true =>
          apply construct_agrees state agrees _ (construct_joined agrees.base pc)
          rcases pc with pc | pc <;> rw [pc] <;> rfl
  | daq index move =>
      exact daq_step_agrees state next index move agrees (daq_step state next index move stepped)
  | signal =>
      cases stepped
      exact ⟨base, agrees.tracks, agrees.lowered, agrees.raised⟩

theorem failed_construct_lies (state next : State) (agrees : Agrees state)
    (stepped : step state (.constructed false) = some next) : ¬ Truthful next := by
  obtain ⟨pc, rfl⟩ := constructed_step state next false stepped
  have set : setFlag state.pc = true := by
    rcases pc with pc | pc <;> rw [pc] <;> rfl
  intro truthful
  have alive := (truthful.boundary rfl).mp (agrees.raised set)
  exact agrees.base.owned (construct_joined agrees.base pc) alive

theorem start_agrees (daq : DAQManager.State) : Agrees (start daq) :=
  .tracking (start_inv daq) ⟨rfl, rfl⟩
    ⟨fun up => (nomatch up), fun ⟨_, member, _⟩ => (nomatch member)⟩

/-- The running flag tells the truth throughout a run exactly when no
construction of a thread fails in it. -/
theorem running_flag_truthful_iff (daq : DAQManager.State) (actions : List Action) :
    Throughout step Truthful (start daq) actions ↔ Along step Constructs (start daq) actions := by
  refine throughout_iff_along step agrees_truthful step_agrees ?_ actions _ (start_agrees daq)
  rintro state action next agrees stepped truthful rfl
  exact failed_construct_lies state next agrees stepped truthful

/-- The thread of START_DAQ cannot be created, and the flag stays true. -/
theorem failed_start_untruthful :
    ¬ Throughout step Truthful (start (DAQManager.start "GBE" ["/dev/psdaq0"]))
      (startUp false) := by
  decide +kernel

/-! The stop flag. -/

/-- STOP_DAQ or RESET_DAQ has called `stop()` and is in `join()`. -/
def waits : CommandPc → Bool
  | .stopJoin | .resetJoin => true
  | _ => false

def inside : DaqThread → Bool
  | .created | .clearing | .polling => true
  | _ => false

def StopKept (state : State) : Prop :=
  waits state.pc = true → (∃ thread ∈ state.threads, inside thread = true) →
    state.globalUserStop = true

instance (state : State) : Decidable (StopKept state) :=
  inferInstanceAs (Decidable (_ = _ → (∃ thread ∈ state.threads, _) → _ = _))

/-- A handler calls `stop()` only when no DAQ thread has yet to execute the
store at the start of `run`. -/
def StopHeard (state : State) (action : Action) : Prop :=
  action = .proceed → state.pc = .stopStop ∨ state.pc = .resetStop →
    ∀ thread ∈ state.threads, thread.early = false

instance (state : State) (action : Action) : Decidable (StopHeard state action) :=
  inferInstanceAs (Decidable (_ → _ → ∀ thread ∈ state.threads, _))

structure Heard (state : State) : Prop where
  base : Inv state
  flag : waits state.pc = true → state.globalUserStop = true
  past : waits state.pc = true → ∀ thread ∈ state.threads, thread.early = false

theorem heard_elsewhere {state : State} (base : Inv state) (other : waits state.pc = false) :
    Heard state where
  base := base
  flag := fun waiting => absurd (other.symm.trans waiting) Bool.false_ne_true
  past := fun waiting => absurd (other.symm.trans waiting) Bool.false_ne_true

theorem proceed_heard (state next : State) (heard : Heard state)
    (stepped : state.proceed = some next) (stops : StopHeard state .proceed) : Heard next := by
  obtain ⟨threads, joinable, joined⟩ := proceed_frame state next heard.base stepped
  have base := heard.base.frame threads joinable joined
  have early := stops rfl
  unfold State.proceed at stepped
  cases pc : state.pc with
  | stopStop =>
      rw [pc] at stepped early
      cases stepped
      exact ⟨base, fun _ => rfl, fun _ => early (Or.inl rfl)⟩
  | resetStop =>
      rw [pc] at stepped early
      cases stepped
      exact ⟨base, fun _ => rfl, fun _ => early (Or.inr rfl)⟩
  | startJoin | stopJoin | resetJoin =>
      rw [pc] at stepped
      obtain ⟨_, rfl⟩ := join_cases state next _ heard.base stepped
      exact heard_elsewhere base rfl
  | destroyJoin =>
      rw [pc] at stepped
      obtain ⟨middle, _, rfl⟩ := Option.map_eq_some_iff.mp stepped
      refine heard_elsewhere base ?_
      cases free : middle.joinable <;> simp [State.destroyMembers, free, waits]
  | resetCleanup =>
      rw [pc] at stepped
      obtain ⟨daq, _, rfl⟩ := Option.map_eq_some_iff.mp stepped
      exact heard_elsewhere base rfl
  | startCheck | stopCheck | destroyCheck =>
      rw [pc] at stepped
      cases stepped
      refine heard_elsewhere base ?_
      cases running : state.daqRunning <;> cases free : state.joinable <;>
        simp [State.destroyMembers, running, free, waits]
  | startFlag | stopFlag | resetFlag | resetRunning | destroyStop =>
      rw [pc] at stepped
      cases stepped
      exact heard_elsewhere base rfl
  | idle | startInit | startThread | resetInit | resetThread | destroyed | terminated =>
      rw [pc] at stepped
      cases stepped

theorem step_heard (state : State) (action : Action) (next : State) (heard : Heard state)
    (stepped : step state action = some next) (stops : StopHeard state action) : Heard next := by
  have base := step_keeps state action next heard.base stepped
  cases action with
  | command command =>
      obtain ⟨_, rfl⟩ := command_step state next command stepped
      cases command <;> exact heard_elsewhere base rfl
  | proceed => exact proceed_heard state next heard stepped stops
  | initialized answers =>
      rcases initialized_step state next answers stepped with ⟨_, rfl⟩ | ⟨_, rfl⟩
      · apply heard_elsewhere base
        simp only [State.initializeDAQ]
        split <;> rfl
      · apply heard_elsewhere base
        simp only [State.initializeDAQ]
        split <;> rfl
  | constructed success =>
      obtain ⟨_, rfl⟩ := constructed_step state next success stepped
      apply heard_elsewhere base
      cases success <;> cases free : state.joinable <;> simp [State.construct, free, waits]
  | signal =>
      cases stepped
      exact ⟨base, fun _ => rfl, heard.past⟩
  | daq index move =>
      have moved := daq_step state next index move stepped
      obtain ⟨thread, rest, threads, _, pc, _, _, outcome⟩ :=
        daq_step_cases state next index move heard.base moved
      have past := heard.past
      rw [threads] at past
      refine ⟨base, fun waiting => ?_, fun waiting other member => ?_⟩
      -- only an early thread lowers the flag, and there is none
      · rw [pc] at waiting
        rcases outcome with ⟨_, _, _, _, ⟨same, _⟩ | ⟨early, _⟩⟩ | ⟨_, _, _, same⟩
        · rw [same]
          exact heard.flag waiting
        · have late := past waiting thread List.mem_cons_self
          rw [early] at late
          cases late
        · rw [same]
          exact heard.flag waiting
      · rw [pc] at waiting
        rcases outcome with ⟨later, _, moved, _, flag⟩ | ⟨_, moved, _⟩
        · rw [moved] at member
          rcases List.mem_cons.mp member with rfl | old
          · have late := past waiting thread List.mem_cons_self
            rcases flag with ⟨_, back⟩ | ⟨early, _⟩
            · by_contra early
              exact absurd (late.symm.trans (back (by simpa using early))) Bool.false_ne_true
            · rw [early] at late
              cases late
          · exact past waiting other (List.mem_cons_of_mem _ old)
        · rw [moved] at member
          rcases List.mem_cons.mp member with rfl | old
          · rfl
          · exact past waiting other (List.mem_cons_of_mem _ old)

/-- The joined thread sees the flag: its own next statements end it. -/
theorem join_returns (state : State) (heard : Heard state) (waiting : waits state.pc = true) :
    ∃ count done, run step state (List.replicate count (.daq 0 .advance)) = some done ∧
      ¬ done.Alive := by
  have flag := heard.flag waiting
  have past := heard.past waiting
  have older := heard.base.older
  have running : state.pc ≠ .terminated := fun same => by rw [same] at waiting; cases waiting
  have free : state.pc.locked = false := by
    cases pc : state.pc <;> rw [pc] at waiting <;> first | rfl | cases waiting
  obtain ⟨pc, stop, up, joinable, threads, daq⟩ := state
  simp only at flag past older running free waiting
  have gone : ∀ rest : List DaqThread, (∀ old ∈ rest, old = .ended) →
      ¬ State.Alive ⟨pc, stop, false, joinable, .ended :: rest, daq⟩ := by
    rintro rest ended ⟨thread, member, running⟩
    rcases List.mem_cons.mp member with rfl | old
    · exact running rfl
    · exact running (ended thread old)
  cases threads with
  | nil => exact ⟨0, _, rfl, fun ⟨_, member, _⟩ => (nomatch member)⟩
  | cons thread rest =>
      cases thread with
      -- the two statements before the store are excluded by the condition
      | created => cases past .created List.mem_cons_self
      | clearing => cases past .clearing List.mem_cons_self
      | polling =>
          refine ⟨2, ⟨pc, stop, false, joinable, .ended :: rest, daq⟩, ?_, gone rest older⟩
          simp [run, step, State.daqStep, State.setThread, flag, running, free]
      | leaving =>
          refine ⟨1, ⟨pc, stop, false, joinable, .ended :: rest, daq⟩, ?_, gone rest older⟩
          simp [run, step, State.daqStep, State.setThread, running, free]
      | ended =>
          refine ⟨0, _, rfl, ?_⟩
          rintro ⟨other, member, running⟩
          rcases List.mem_cons.mp member with rfl | old
          · exact running rfl
          · exact running (older other old)

/-- In a run whose handlers call `stop()` only past that store, the flag stays
true until the thread waited for has left `pollSocket`, and the thread then
ends by its own next statements. -/
theorem stop_request_kept (daq : DAQManager.State) (actions : List Action) (final : State)
    (heard : Along step StopHeard (start daq) actions)
    (ran : run step (start daq) actions = some final) :
    StopKept final ∧ (waits final.pc = true →
      ∃ count done, run step final (List.replicate count (.daq 0 .advance)) = some done ∧
        ¬ done.Alive) := by
  have kept := run_keeps step step_heard actions (start daq) final
    (heard_elsewhere (start_inv daq) rfl) heard ran
  exact ⟨fun waiting _ => kept.flag waiting, join_returns final kept⟩

def stopPolling : List Action :=
  startUp true ++ [.daq 0 .advance, .daq 0 .advance, .command .stopDaq, .proceed, .proceed]

theorem stop_request_kept_polling :
    ∃ final, run step (start (DAQManager.start "GBE" ["/dev/psdaq0"])) stopPolling = some final ∧
      waits final.pc = true ∧ StopKept final ∧ (waits final.pc = true →
        ∃ count done, run step final (List.replicate count (.daq 0 .advance)) = some done ∧
          ¬ done.Alive) := by
  refine ⟨(run step (start (DAQManager.start "GBE" ["/dev/psdaq0"])) stopPolling).get
    (by decide +kernel), (Option.some_get _).symm, by decide +kernel, ?_⟩
  exact stop_request_kept _ _ _ (by decide +kernel) (Option.some_get _).symm

/-- A `stop()` before that store is lost as soon as the thread goes on. -/
theorem early_stop_lost (state : State) (thread : DaqThread) (rest : List DaqThread)
    (threads : state.threads = thread :: rest) (early : thread.early = true)
    (served : state.daq.manager.frameServer.isSome = true)
    (stops : state.pc = .stopStop ∨ state.pc = .resetStop) :
    ∃ actions final, run step state (.proceed :: actions) = some final ∧ ¬ StopKept final := by
  obtain ⟨pc, stop, up, joinable, list, daq⟩ := state
  simp only at threads served stops
  subst threads
  have lost : ∀ waiting, waits waiting = true →
      ¬ StopKept ⟨waiting, false, up, joinable, .polling :: rest, daq⟩ := by
    intro waiting waits kept
    have flag := kept waits ⟨.polling, List.mem_cons_self, rfl⟩
    cases flag
  cases thread with
  | created =>
      refine ⟨[.daq 0 .advance, .daq 0 .advance], ?_⟩
      rcases stops with rfl | rfl
      · exact ⟨_, by simp [run, step, State.proceed, State.daqStep, State.setThread, served],
          lost .stopJoin rfl⟩
      · exact ⟨_, by simp [run, step, State.proceed, State.daqStep, State.setThread, served],
          lost .resetJoin rfl⟩
  | clearing =>
      refine ⟨[.daq 0 .advance], ?_⟩
      rcases stops with rfl | rfl
      · exact ⟨_, rfl, lost .stopJoin rfl⟩
      · exact ⟨_, rfl, lost .resetJoin rfl⟩
  | polling => cases early
  | leaving => cases early
  | ended => cases early

/-- STOP_DAQ right after START_DAQ, with the new thread still before the store. -/
theorem stop_after_start_lost :
    ¬ Throughout step StopKept (start (DAQManager.start "GBE" ["/dev/psdaq0"]))
      (startUp true ++
        [.command .stopDaq, .proceed, .proceed, .daq 0 .advance, .daq 0 .advance]) := by
  decide +kernel

end GramsTof.ThreadLifecycle
