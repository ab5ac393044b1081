import GramsTof.TransitionSystem

/-!
`BaseThreadPool` for any `runTask`. One thread calls `queueTask` and
`completeQueue`, in any order and as often as it likes; the workers run
`thread_routine`. What a thread does between taking the lock and releasing it
or waiting is one step, and so is each `runTask`; waits may end spuriously. The
destructor is left out.
-/

namespace GramsTof.ThreadPool

open TransitionSystem

variable {Job : Type} {nWorkers : Nat}

/-- Where a worker is. `ready` is at the condition of the loop, `idle` waits for
`cond_queued`, `running` is in `runTask` and `finishing` behind it. -/
inductive Worker (Job : Type) where
  | ready
  | idle
  | running (job : Job)
  | finishing
  deriving DecidableEq, Repr

def Worker.isBusy : Worker Job → Bool
  | .ready | .idle => false
  | .running _ | .finishing => true

def Worker.isIdle : Worker Job → Bool
  | .idle => true
  | _ => false

def Worker.isRunning : Worker Job → Bool
  | .running _ => true
  | _ => false

/-- Where the calling thread is. `outside` is between two calls, and tells
whether the last one was `completeQueue`. -/
inductive Caller (Job : Type) (nWorkers : Nat) where
  | outside (completed : Bool)
  | queueing (job : Job)
  | blockedFull (job : Job)
  | draining
  | blockedDrain
  | checking (i : Nat)
  | blockedCompleted (i : Fin nWorkers)
  deriving DecidableEq, Repr

/-- What a signal of `cond_dequeued` does to the calling thread. -/
def Caller.dequeued : Caller Job nWorkers → Caller Job nWorkers
  | .blockedFull job => .queueing job
  | .blockedDrain => .draining
  | other => other

/-- The same for `cond_completed`; the loop goes on with the next worker. -/
def Caller.completed : Caller Job nWorkers → Caller Job nWorkers
  | .blockedCompleted i => .checking (i + 1)
  | other => other

def maxQueueSize (nCPU : Nat) : Nat := if nCPU / 4 < 1 then 1 else nCPU / 4

structure State (Job : Type) (nWorkers : Nat) where
  caller : Caller Job nWorkers
  queue : List Job
  workers : Fin nWorkers → Worker Job

def start : State Job nWorkers :=
  { caller := .outside false
    queue := []
    workers := fun _ => .ready }

def State.setWorker (state : State Job nWorkers) (i : Fin nWorkers) (worker : Worker Job) :
    State Job nWorkers :=
  { state with workers := Function.update state.workers i worker }

/-- `pthread_cond_signal(&cond_queued)`, which wakes the worker `woken`, or none
when none waits. -/
def State.signalQueued (state : State Job nWorkers) :
    Option (Fin nWorkers) → Option (State Job nWorkers)
  | some i => if (state.workers i).isIdle then some (state.setWorker i .ready) else none
  | none => if ∀ i, (state.workers i).isIdle = false then some state else none

/-- The loop of `completeQueue` over the workers, from worker `i` on: a busy
worker is waited for once. -/
def State.checkWorkers (state : State Job nWorkers) (i : Nat) : State Job nWorkers :=
  match (List.finRange nWorkers).find? fun j => i ≤ j.val && (state.workers j).isBusy with
  | some j => { state with caller := .blockedCompleted j }
  | none => { state with caller := .outside true }

/-- A step of the calling thread in `queueTask` or `completeQueue`. -/
def State.callerStep (state : State Job nWorkers)
    (woken : Option (Fin nWorkers)) : Option (State Job nWorkers) :=
  match state.caller with
  | .queueing job =>
      if maxQueueSize nWorkers ≤ state.queue.length then
        some { state with caller := .blockedFull job }
      else
        State.signalQueued { state with caller := .outside false, queue := state.queue ++ [job] }
          woken
  | .draining =>
      if state.queue.isEmpty then some (state.checkWorkers 0)
      else some { state with caller := .blockedDrain }
  | .checking i => some (state.checkWorkers i)
  | .outside _ | .blockedFull _ | .blockedDrain | .blockedCompleted _ => none

/-- The loop of `thread_routine` from its condition to the next task or wait. -/
def State.nextTask (state : State Job nWorkers) (i : Fin nWorkers) : State Job nWorkers :=
  match state.queue with
  | [] => state.setWorker i .idle
  | job :: queue =>
      { state with queue := queue, caller := state.caller.dequeued }.setWorker i (.running job)

def State.workerStep (state : State Job nWorkers) (i : Fin nWorkers) :
    Option (State Job nWorkers) :=
  match state.workers i with
  | .ready => some (state.nextTask i)
  | .running _ => some (state.setWorker i .finishing)
  | .finishing => some ({ state with caller := state.caller.completed }.nextTask i)
  | .idle => none

def State.call (state : State Job nWorkers) (caller : Caller Job nWorkers) :
    Option (State Job nWorkers) :=
  match state.caller with
  | .outside _ => some { state with caller := caller }
  | _ => none

def State.wakeCaller (state : State Job nWorkers) : Option (State Job nWorkers) :=
  match state.caller with
  | .blockedFull _ | .blockedDrain => some { state with caller := state.caller.dequeued }
  | .blockedCompleted _ => some { state with caller := state.caller.completed }
  | _ => none

def State.wakeWorker (state : State Job nWorkers) (i : Fin nWorkers) :
    Option (State Job nWorkers) :=
  match state.workers i with
  | .idle => some (state.setWorker i .ready)
  | _ => none

/-- Calls, steps of the threads, and spurious ends of their waits. -/
inductive Action (Job : Type) (nWorkers : Nat) where
  | queueTask (job : Job)
  | completeQueue
  | caller (woken : Option (Fin nWorkers))
  | worker (i : Fin nWorkers)
  | wakeCaller
  | wakeWorker (i : Fin nWorkers)

def step (state : State Job nWorkers) :
    Action Job nWorkers → Option (State Job nWorkers)
  | .queueTask job => state.call (.queueing job)
  | .completeQueue => state.call .draining
  | .caller woken => state.callerStep woken
  | .worker i => state.workerStep i
  | .wakeCaller => state.wakeCaller
  | .wakeWorker i => state.wakeWorker i

/-- When `completeQueue` has returned, no job is left and none is run. -/
def Completed (state : State Job nWorkers) : Prop :=
  state.caller = .outside true →
    state.queue = [] ∧ ∀ i, (state.workers i).isRunning = false

/-- The thread that waits for a worker is not woken while that one is still in
`runTask`, be it by another worker or spuriously. -/
def WokenInTime (state : State Job nWorkers) : Action Job nWorkers → Prop
  | .worker j => ∀ i, state.caller = .blockedCompleted i → state.workers j = .finishing →
      (state.workers i).isRunning = false
  | .wakeCaller => ∀ i, state.caller = .blockedCompleted i → (state.workers i).isRunning = false
  | _ => True

/-- The workers the calling thread has passed, or waits behind. -/
def Caller.passed : Caller Job nWorkers → Option Nat
  | .checking i => some i
  | .blockedCompleted i => some i
  | .outside true => some nWorkers
  | _ => none

def Drained (state : State Job nWorkers) : Prop :=
  state.caller.passed ≠ none → state.queue = []

/-- None of the workers that were passed is in `runTask`. -/
def Passed (state : State Job nWorkers) : Prop :=
  ∀ count, state.caller.passed = some count →
    ∀ i : Fin nWorkers, i.val < count → (state.workers i).isRunning = false

theorem checkWorkers_cases (state : State Job nWorkers) (i : Nat) :
    (∃ j : Fin nWorkers, i ≤ j ∧ (state.workers j).isBusy = true ∧
        (∀ k : Fin nWorkers, i ≤ k → k < j → (state.workers k).isBusy = false) ∧
        state.checkWorkers i = { state with caller := .blockedCompleted j }) ∨
      (∀ k : Fin nWorkers, i ≤ k → (state.workers k).isBusy = false) ∧
        state.checkWorkers i = { state with caller := .outside true } := by
  rw [State.checkWorkers]
  split
  · rename_i j found
    obtain ⟨here, place, inside, same, skipped⟩ := List.find?_eq_some_iff_getElem.mp found
    rw [Bool.and_eq_true, decide_eq_true_eq] at here
    refine Or.inl ⟨j, here.1, here.2, ?_, rfl⟩
    intro k above below
    have position : place = j := by
      rw [List.getElem_finRange] at same
      exact congrArg Fin.val same
    have idle := skipped k (position ▸ below)
    simpa [above] using idle
  · rename_i none
    refine Or.inr ⟨?_, rfl⟩
    intro k above
    have idle := List.find?_eq_none.mp none k (List.mem_finRange k)
    simpa [above] using idle

theorem running_busy (worker : Worker Job) (idle : worker.isBusy = false) :
    worker.isRunning = false := by
  cases worker with
  | running job => cases idle
  | _ => rfl

theorem dequeued_passed (caller : Caller Job nWorkers) : caller.dequeued.passed = caller.passed := by
  cases caller <;> rfl

theorem completed_passed (caller : Caller Job nWorkers) (passed : caller.completed.passed ≠ none) :
    caller.passed ≠ none := by
  cases caller with
  | blockedCompleted i => exact Option.some_ne_none _
  | _ => exact passed

theorem call_outside (state next : State Job nWorkers) (caller : Caller Job nWorkers)
    (called : state.call caller = some next) : next = { state with caller := caller } := by
  unfold State.call at called
  split at called
  · exact (Option.some.inj called).symm
  · cases called

theorem signalQueued_caller (state next : State Job nWorkers) (woken : Option (Fin nWorkers))
    (signalled : state.signalQueued woken = some next) : next.caller = state.caller := by
  cases woken with
  | none =>
      rw [State.signalQueued, Option.ite_none_right_eq_some] at signalled
      rw [← Option.some.inj signalled.2]
  | some i =>
      rw [State.signalQueued, Option.ite_none_right_eq_some] at signalled
      rw [← Option.some.inj signalled.2, State.setWorker]

theorem callerStep_cases (state next : State Job nWorkers) (woken : Option (Fin nWorkers))
    (stepped : state.callerStep woken = some next) :
    next.caller.passed = none ∨
      ∃ i, next = state.checkWorkers i ∧
        (state.caller = .draining ∧ i = 0 ∧ state.queue = [] ∨ state.caller = .checking i) := by
  unfold State.callerStep at stepped
  split at stepped
  · left
    split_ifs at stepped with full
    · cases stepped
      rfl
    · rw [signalQueued_caller _ _ _ stepped]
      rfl
  · split_ifs at stepped with empty
    · cases stepped
      exact Or.inr ⟨0, rfl, Or.inl ⟨‹_›, rfl, List.isEmpty_iff.mp empty⟩⟩
    · cases stepped
      exact Or.inl rfl
  · rename_i i checking
    cases stepped
    exact Or.inr ⟨i, rfl, Or.inr checking⟩
  all_goals cases stepped

theorem nextTask_cases (state : State Job nWorkers) (i : Fin nWorkers) :
    state.queue = [] ∧ state.nextTask i = state.setWorker i .idle ∨
      ∃ job queue, state.queue = job :: queue ∧ (state.nextTask i).caller = state.caller.dequeued := by
  unfold State.nextTask
  split
  · exact Or.inl ⟨‹_›, rfl⟩
  · rename_i job queue isQueue
    exact Or.inr ⟨job, queue, isQueue, rfl⟩

/-- All that a step can do: the calling thread is outside of the loop over the
workers, or goes on in it; a worker goes on; a wait ends. -/
inductive Takes (state : State Job nWorkers) : Action Job nWorkers → State Job nWorkers → Prop where
  | outside (action : Action Job nWorkers) (next : State Job nWorkers)
      (passedNone : next.caller.passed = none) : Takes state action next
  | checked (action : Action Job nWorkers) (i : Nat)
      (loop : state.caller = .draining ∧ i = 0 ∧ state.queue = [] ∨ state.caller = .checking i) :
      Takes state action (state.checkWorkers i)
  | looked (i : Fin nWorkers) : Takes state (.worker i) (state.nextTask i)
  | ended (i : Fin nWorkers) : Takes state (.worker i) (state.setWorker i .finishing)
  | finished (i : Fin nWorkers) (finishing : state.workers i = .finishing) :
      Takes state (.worker i) ({ state with caller := state.caller.completed }.nextTask i)
  | dequeued : Takes state .wakeCaller { state with caller := state.caller.dequeued }
  | completed : Takes state .wakeCaller { state with caller := state.caller.completed }
  | woken (i : Fin nWorkers) : Takes state (.wakeWorker i) (state.setWorker i .ready)

theorem step_takes (state : State Job nWorkers) (action : Action Job nWorkers)
    (next : State Job nWorkers) (stepped : step state action = some next) :
    Takes state action next := by
  cases action with
  | queueTask job =>
      rw [call_outside state next _ stepped]
      exact .outside _ _ rfl
  | completeQueue =>
      rw [call_outside state next _ stepped]
      exact .outside _ _ rfl
  | caller woken =>
      rcases callerStep_cases state next woken stepped with outside | ⟨i, rfl, loop⟩
      · exact .outside _ _ outside
      · exact .checked _ i loop
  | worker i =>
      rw [step, State.workerStep] at stepped
      split at stepped
      · cases stepped
        exact .looked i
      · cases stepped
        exact .ended i
      · rename_i finishing
        cases stepped
        exact .finished i finishing
      · cases stepped
  | wakeCaller =>
      rw [step, State.wakeCaller] at stepped
      split at stepped
      · cases stepped
        exact .dequeued
      · cases stepped
        exact .dequeued
      · cases stepped
        exact .completed
      · cases stepped
  | wakeWorker i =>
      rw [step, State.wakeWorker] at stepped
      split at stepped
      · cases stepped
        exact .woken i
      · cases stepped

theorem nextTask_drained (state : State Job nWorkers) (i : Fin nWorkers) (drained : Drained state) :
    Drained (state.nextTask i) := by
  rcases nextTask_cases state i with ⟨empty, next⟩ | ⟨job, queue, isQueue, caller⟩
  · rw [next]
    exact fun _ => empty
  · intro passed
    rw [caller, dequeued_passed] at passed
    rw [drained passed] at isQueue
    cases isQueue

theorem checkWorkers_drained (state : State Job nWorkers) (i : Nat) (empty : state.queue = []) :
    Drained (state.checkWorkers i) := by
  rcases checkWorkers_cases state i with ⟨_, _, _, _, next⟩ | ⟨_, next⟩
  · rw [next]
    exact fun _ => empty
  · rw [next]
    exact fun _ => empty

theorem step_drained (state : State Job nWorkers) (action : Action Job nWorkers)
    (next : State Job nWorkers) (drained : Drained state)
    (stepped : step state action = some next) : Drained next := by
  cases step_takes state action next stepped with
  | outside _ _ passedNone => exact fun passed => absurd passedNone passed
  | checked _ i loop =>
      apply checkWorkers_drained
      rcases loop with ⟨_, _, empty⟩ | checking
      · exact empty
      · apply drained
        rw [checking]
        exact Option.some_ne_none _
  | looked i => exact nextTask_drained state i drained
  | ended i => exact drained
  | finished i _ =>
      apply nextTask_drained
      exact fun passed => drained (completed_passed state.caller passed)
  | dequeued =>
      intro passed
      rw [dequeued_passed] at passed
      exact drained passed
  | completed => exact fun passed => drained (completed_passed state.caller passed)
  | woken i => exact drained

theorem Passed.set {state : State Job nWorkers} (passed : Passed state) (i : Fin nWorkers)
    (worker : Worker Job) (rests : worker.isRunning = false) : Passed (state.setWorker i worker) := by
  intro count behind j below
  simp only [State.setWorker, Function.update_apply]
  split_ifs
  · exact rests
  · exact passed count behind j below

theorem Passed.completed {state : State Job nWorkers} (passed : Passed state)
    (inTime : ∀ i, state.caller = .blockedCompleted i → (state.workers i).isRunning = false) :
    Passed { state with caller := state.caller.completed } := by
  intro count behind j below
  cases caller : state.caller with
  | blockedCompleted i =>
      rw [caller] at behind
      cases behind
      by_cases last : j.val = i.val
      · rw [Fin.ext last]
        exact inTime i caller
      · apply passed i.val
        · rw [caller]
          rfl
        · omega
  | _ =>
      rw [caller] at behind
      refine passed count ?_ j below
      rw [caller]
      exact behind

theorem checkWorkers_passed (state : State Job nWorkers) (i : Nat)
    (before : ∀ j : Fin nWorkers, j.val < i → (state.workers j).isRunning = false) :
    Passed (state.checkWorkers i) := by
  rcases checkWorkers_cases state i with ⟨j, above, _, skipped, next⟩ | ⟨all, next⟩
  · rw [next]
    rintro count ⟨⟩ k below
    by_cases earlier : k.val < i
    · exact before k earlier
    · exact running_busy _ (skipped k (by omega) below)
  · rw [next]
    rintro count ⟨⟩ k below
    by_cases earlier : k.val < i
    · exact before k earlier
    · exact running_busy _ (all k (by omega))

theorem nextTask_passed (state : State Job nWorkers) (i : Fin nWorkers) (drained : Drained state)
    (passed : Passed state) : Passed (state.nextTask i) := by
  rcases nextTask_cases state i with ⟨_, next⟩ | ⟨job, queue, isQueue, caller⟩
  · rw [next]
    exact passed.set i .idle rfl
  · -- a job was left, so the calling thread has not come to the workers yet
    intro count behind
    rw [caller, dequeued_passed] at behind
    have empty := drained (by rw [behind]; exact Option.some_ne_none _)
    rw [empty] at isQueue
    cases isQueue

theorem step_passed (state : State Job nWorkers) (action : Action Job nWorkers)
    (next : State Job nWorkers) (drained : Drained state) (passed : Passed state)
    (stepped : step state action = some next) (inTime : WokenInTime state action) :
    Passed next := by
  cases step_takes state action next stepped with
  | outside _ _ passedNone =>
      intro count behind
      rw [passedNone] at behind
      cases behind
  | checked _ i loop =>
      apply checkWorkers_passed
      rcases loop with ⟨_, rfl, _⟩ | checking
      · exact fun j below => absurd below (Nat.not_lt_zero _)
      · apply passed i
        rw [checking]
        rfl
  | looked i => exact nextTask_passed state i drained passed
  | ended i => exact passed.set i .finishing rfl
  | finished i finishing =>
      apply nextTask_passed
      · exact fun behind => drained (completed_passed state.caller behind)
      · exact passed.completed fun j waits => inTime j waits finishing
  | dequeued =>
      intro count behind
      rw [dequeued_passed] at behind
      exact passed count behind
  | completed => exact passed.completed inTime
  | woken i => exact passed.set i .ready rfl

theorem completed_of_passed (state : State Job nWorkers) (drained : Drained state)
    (passed : Passed state) : Completed state := by
  intro returned
  have behind : state.caller.passed = some nWorkers := by
    rw [returned]
    rfl
  refine ⟨drained ?_, fun i => passed nWorkers behind i i.isLt⟩
  rw [behind]
  exact Option.some_ne_none _

theorem busy_worker_ends (state : State Job nWorkers) (j : Fin nWorkers)
    (waits : state.caller = .blockedCompleted j) (empty : state.queue = [])
    (busy : (state.workers j).isBusy = true) :
    ∃ actions, run step state actions =
      some ({ state with caller := .checking (j + 1) }.setWorker j .idle) := by
  cases worker : state.workers j with
  | running job =>
      refine ⟨[.worker j, .worker j], ?_⟩
      simp [run, step, State.workerStep, worker, State.setWorker, State.nextTask, waits, empty,
        Caller.completed]
  | finishing =>
      refine ⟨[.worker j], ?_⟩
      simp [run, step, State.workerStep, worker, State.setWorker, State.nextTask, waits, empty,
        Caller.completed]
  | ready | idle =>
      rw [worker] at busy
      cases busy

/-- A worker that was passed in `runTask` can stay there until `completeQueue`
has returned. -/
theorem passed_running_returns (state : State Job nWorkers) (count : Nat) (i : Fin nWorkers)
    (checking : state.caller = .checking count) (empty : state.queue = []) (before : i.val < count)
    (runs : (state.workers i).isRunning = true) :
    ∃ actions final, run step state actions = some final ∧ ¬ Completed final := by
  -- the workers that are still to be looked at become fewer
  induction left : nWorkers - count using Nat.strong_induction_on generalizing state count with
  | h left ih =>
      have checked : step state (.caller none) = some (state.checkWorkers count) := by
        rw [step, State.callerStep, checking]
      rcases checkWorkers_cases state count with ⟨j, above, busy, _, next⟩ | ⟨_, next⟩
      · rw [next] at checked
        obtain ⟨ends, ended⟩ := busy_worker_ends { state with caller := .blockedCompleted j } j rfl
          empty busy
        have apart : i ≠ j := fun same => by omega
        obtain ⟨more, final, returned, wrong⟩ := ih (nWorkers - (j + 1)) (by omega)
          ({ state with caller := .checking (j + 1) }.setWorker j .idle) (j + 1) rfl empty
          (by omega) (by simpa [State.setWorker, apart] using runs) rfl
        refine ⟨.caller none :: (ends ++ more), final, ?_, wrong⟩
        rw [run, checked, Option.bind_some, run_append, ended]
        exact returned
      · rw [next] at checked
        refine ⟨[.caller none], { state with caller := .outside true }, ?_, ?_⟩
        · rw [run, checked]
          rfl
        · intro completed
          have rests := (completed rfl).2 i
          rw [runs] at rests
          cases rests

/-- A step that wakes the calling thread too early can be followed by steps
after which `completeQueue` has returned too early. -/
theorem woken_early_returns (state : State Job nWorkers) (action : Action Job nWorkers)
    (next : State Job nWorkers) (drained : Drained state) (stepped : step state action = some next)
    (early : ¬ WokenInTime state action) :
    ∃ actions final, run step next actions = some final ∧ ¬ Completed final := by
  have empty : ∀ i, state.caller = .blockedCompleted i → state.queue = [] := by
    intro i waits
    apply drained
    rw [waits]
    exact Option.some_ne_none _
  cases action with
  | worker j =>
      simp only [WokenInTime, not_forall, Bool.not_eq_false] at early
      obtain ⟨i, waits, finishing, runs⟩ := early
      have apart : i ≠ j := by
        rintro rfl
        rw [finishing] at runs
        cases runs
      have woken : next = { state with caller := .checking (i + 1) }.setWorker j .idle := by
        simpa [step, State.workerStep, finishing, State.nextTask, empty i waits, waits,
          Caller.completed, State.setWorker, eq_comm] using stepped
      apply passed_running_returns next (i + 1) i
      · rw [woken]
        rfl
      · rw [woken]
        exact empty i waits
      · exact Nat.lt_succ_self _
      · rw [woken]
        simpa [State.setWorker, apart] using runs
  | wakeCaller =>
      simp only [WokenInTime, not_forall, Bool.not_eq_false] at early
      obtain ⟨i, waits, runs⟩ := early
      have woken : next = { state with caller := .checking (i + 1) } := by
        simpa [step, State.wakeCaller, waits, Caller.completed, eq_comm] using stepped
      apply passed_running_returns next (i + 1) i
      · rw [woken]
      · rw [woken]
        exact empty i waits
      · exact Nat.lt_succ_self _
      · rw [woken]
        exact runs
  | _ => exact absurd trivial early

theorem start_drained : Drained (start : State Job nWorkers) := fun passed => absurd rfl passed

theorem start_passed : Passed (start : State Job nWorkers) := fun _ behind => by cases behind

/-- While the thread in `completeQueue` is woken in time, no job is left and
none is run when it returns; and from every step that wakes it early the threads
can go on to where it has returned early. -/
theorem complete_queue_waits (Job : Type) (nWorkers : Nat) :
    (∀ actions, Along step WokenInTime (start : State Job nWorkers) actions →
      Throughout step Completed (start : State Job nWorkers) actions) ∧
    ∀ actions state action next, run step (start : State Job nWorkers) actions = some state →
      step state action = some next → ¬ WokenInTime state action →
      ∃ more final, run step next more = some final ∧ ¬ Completed final := by
  constructor
  · intro actions
    have sound : ∀ state : State Job nWorkers, Drained state ∧ Passed state → Completed state :=
      fun state inv => completed_of_passed state inv.1 inv.2
    refine throughout_along step sound ?_ actions start ⟨start_drained, start_passed⟩
    rintro state action next ⟨drained, passed⟩ stepped inTime
    exact ⟨step_drained state action next drained stepped,
      step_passed state action next drained passed stepped inTime⟩
  · intro actions state action next ran stepped early
    have drained := run_invariant step step_drained actions start state start_drained ran
    exact woken_early_returns state action next drained stepped early

/-- Two jobs run. The thread waits for the first worker; the second one ends its
task and wakes it. -/
def endsSecond : List (Action Unit 2) :=
  [.queueTask (), .caller none, .worker 0, .queueTask (), .caller none, .worker 1, .completeQueue,
    .caller none, .worker 1, .worker 1, .caller none]

theorem completes_while_running :
    ¬ ∀ actions, Throughout step Completed (start : State Unit 2) actions := by
  intro always
  have ran : ∃ final, run step (start : State Unit 2) endsSecond = some final ∧
      final.caller = .outside true ∧ (final.workers 0).isRunning = true :=
    ⟨(run step start endsSecond).get (by decide +kernel), (Option.some_get _).symm,
      by decide +kernel, by decide +kernel⟩
  obtain ⟨final, reached, returned, runs⟩ := ran
  have waited := throughout_last step endsSecond start final (always endsSecond) reached
  rw [(waited returned).2 0] at runs
  cases runs

end GramsTof.ThreadPool
