import GramsTof.RawReader
import GramsTof.TransitionSystem

/-!
The threads that convert a step. The main thread gives the buffers of
`RawReader::processStep` to `queueTask`, calls `completeQueue` and deletes the
pool, which calls it once more and ends the workers. A worker passes its buffer
through the handlers, of which `WriteHelper`, an `OrderedEventHandler`, comes
last and is the only one to wait. A buffer is named by its place in the step;
every handler keeps its sequence number. What a thread does between taking a
lock and releasing it or waiting is one step; waits may end spuriously.
-/

namespace GramsTof.ConversionPool

/-- Where a worker is. `ready` is at the condition of the loop, `idle` waits for
`cond_queued`, `running` is before `WriteHelper::pushEvents`, `blocked` waits
there and `woken` is at the condition of that wait, `writing` is in
`DataFileWriter::addEvents`, `written` after it and `finishing` after `runTask`. -/
inductive Worker where
  | ready
  | idle
  | running (buffer : Nat)
  | blocked (buffer : Nat)
  | woken (buffer : Nat)
  | writing (buffer : Nat)
  | written (buffer : Nat)
  | finishing
  | exited
  deriving DecidableEq, Repr

def Worker.isBusy : Worker → Bool
  | .ready | .idle | .exited => false
  | _ => true

def Worker.held : Worker → Option Nat
  | .running buffer | .blocked buffer | .woken buffer | .writing buffer | .written buffer =>
      some buffer
  | _ => none

/-- The turn of the worker has come and is not passed on yet. -/
def Worker.serving : Worker → Bool
  | .writing _ | .written _ => true
  | _ => false

/-- What `pthread_cond_signal` does to the worker that owns the condition. -/
def Worker.signalled : Worker → Worker
  | .blocked buffer => .woken buffer
  | other => other

/-- What `pthread_cond_broadcast(&cond_queued)` does to a worker. -/
def Worker.released : Worker → Worker
  | .idle => .ready
  | other => other

/-- Where the main thread is. `deleting` tells the `completeQueue` of the
destructor from the one before. -/
inductive Main (nWorkers : Nat) where
  | queueing
  | blockedFull
  | draining (deleting : Bool)
  | blockedDrain (deleting : Bool)
  | checking (deleting : Bool) (i : Nat)
  | blockedCompleted (deleting : Bool) (i : Fin nWorkers)
  | terminating
  | joining
  | finished
  deriving DecidableEq, Repr

/-- What a signal of `cond_dequeued` does to the main thread. -/
def Main.dequeued {nWorkers : Nat} : Main nWorkers → Main nWorkers
  | .blockedFull => .queueing
  | .blockedDrain deleting => .draining deleting
  | other => other

/-- The same for `cond_completed`; the loop goes on with the next worker. -/
def Main.completed {nWorkers : Nat} : Main nWorkers → Main nWorkers
  | .blockedCompleted deleting i => .checking deleting (i + 1)
  | other => other

def maxQueueSize (nCPU : Nat) : Nat := if nCPU / 4 < 1 then 1 else nCPU / 4

/-- `pending` are the buffers the main thread still has to queue. `conds` is the
map `queue` of the handler, with the worker whose condition it points to, and
`calls` are the buffers for which `addEvents` was called. -/
structure State (nWorkers : Nat) where
  pending : List Nat
  main : Main nWorkers
  queue : List Nat
  terminate : Bool
  workers : Fin nWorkers → Worker
  expectedSeqN : Nat
  conds : Nat → Option (Fin nWorkers)
  calls : List Nat

variable {nWorkers : Nat}

def State.start (nWorkers count : Nat) : State nWorkers :=
  { pending := List.range count
    main := .queueing
    queue := []
    terminate := false
    workers := fun _ => .ready
    expectedSeqN := 0
    conds := fun _ => none
    calls := [] }

def State.setWorker (state : State nWorkers) (i : Fin nWorkers) (worker : Worker) :
    State nWorkers :=
  { state with workers := Function.update state.workers i worker }

/-- `pthread_cond_signal(&cond_queued)`, which wakes the worker `woken`, or none
when none waits. -/
def State.signalQueued (state : State nWorkers) : Option (Fin nWorkers) → Option (State nWorkers)
  | some i => if state.workers i = .idle then some (state.setWorker i .ready) else none
  | none => if ∀ i, state.workers i ≠ .idle then some state else none

/-- `queueTask`, for the next of the pending buffers. -/
def State.queueTask (state : State nWorkers) (buffer : Nat) (pending : List Nat)
    (woken : Option (Fin nWorkers)) : Option (State nWorkers) :=
  if maxQueueSize nWorkers ≤ state.queue.length then some { state with main := .blockedFull }
  else { state with pending := pending, queue := state.queue ++ [buffer] }.signalQueued woken

/-- The loop of `completeQueue` over the workers, from worker `i` on. -/
def State.checkWorkers (state : State nWorkers) (deleting : Bool) (i : Nat) : State nWorkers :=
  match (List.finRange nWorkers).find? fun j => i ≤ j.val && (state.workers j).isBusy with
  | some j => { state with main := .blockedCompleted deleting j }
  | none => { state with main := if deleting then .terminating else .draining true }

def State.mainStep (state : State nWorkers) (woken : Option (Fin nWorkers)) :
    Option (State nWorkers) :=
  match state.main with
  | .queueing =>
      match state.pending with
      | [] => some { state with main := .draining false }
      | buffer :: pending => state.queueTask buffer pending woken
  | .draining deleting =>
      if state.queue = [] then some (state.checkWorkers deleting 0)
      else some { state with main := .blockedDrain deleting }
  | .checking deleting i => some (state.checkWorkers deleting i)
  | .terminating =>
      some { state with
        terminate := true
        workers := fun i => (state.workers i).released
        main := .joining }
  | .joining =>
      if ∀ i, state.workers i = .exited then some { state with main := .finished } else none
  | .blockedFull | .blockedDrain _ | .blockedCompleted _ _ | .finished => none

/-- The loop of `thread_routine` from its condition to the next task or wait. -/
def State.nextTask (state : State nWorkers) (i : Fin nWorkers) : State nWorkers :=
  if state.terminate then state.setWorker i .exited
  else match state.queue with
    | [] => state.setWorker i .idle
    | job :: queue =>
        { state with queue := queue, main := state.main.dequeued }.setWorker i (.running job)

def State.completeTask (state : State nWorkers) (i : Fin nWorkers) : State nWorkers :=
  { state with main := state.main.completed }.nextTask i

section OrderedEventHandler
variable (getSeqN : Nat → Nat)

/-- `queue[mySeqN] = &cond` -/
def State.register (state : State nWorkers) (i : Fin nWorkers) (buffer : Nat) : State nWorkers :=
  { state with conds := Function.update state.conds (getSeqN buffer) (some i) }

/-- The condition of the wait in `pushEvents`, and what follows it up to the
call of `handleEvents`. -/
def State.awaitTurn (state : State nWorkers) (i : Fin nWorkers) (buffer : Nat) : State nWorkers :=
  if getSeqN buffer = state.expectedSeqN then
    { state with
      conds := Function.update state.conds (getSeqN buffer) none
      calls := state.calls ++ [buffer] }.setWorker i (.writing buffer)
  else state.setWorker i (.blocked buffer)

/-- The signal to the worker whose turn it is, if it waits already. -/
def State.signalExpected (state : State nWorkers) : State nWorkers :=
  match state.conds state.expectedSeqN with
  | some i => state.setWorker i (state.workers i).signalled
  | none => state

/-- The end of `pushEvents`; `expectedSeqN` is a `u_int64_t`. -/
def State.passTurn (state : State nWorkers) (i : Fin nWorkers) : State nWorkers :=
  { state with expectedSeqN := (state.expectedSeqN + 1) % 2 ^ 64 }.setWorker i .finishing
    |>.signalExpected

def State.workerStep (state : State nWorkers) (i : Fin nWorkers) : Option (State nWorkers) :=
  match state.workers i with
  | .ready => some (state.nextTask i)
  | .running buffer => some ((state.register getSeqN i buffer).awaitTurn getSeqN i buffer)
  | .woken buffer => some (state.awaitTurn getSeqN i buffer)
  | .writing buffer => some (state.setWorker i (.written buffer))
  | .written _ => some (state.passTurn i)
  | .finishing => some (state.completeTask i)
  | .idle | .blocked _ | .exited => none

end OrderedEventHandler

def State.wakeMain (state : State nWorkers) : Option (State nWorkers) :=
  match state.main with
  | .blockedFull | .blockedDrain _ => some { state with main := state.main.dequeued }
  | .blockedCompleted _ _ => some { state with main := state.main.completed }
  | _ => none

def State.wakeWorker (state : State nWorkers) (i : Fin nWorkers) : Option (State nWorkers) :=
  match state.workers i with
  | .idle => some (state.setWorker i .ready)
  | .blocked buffer => some (state.setWorker i (.woken buffer))
  | _ => none

/-- Steps of the threads, and spurious ends of their waits. -/
inductive Action (nWorkers : Nat) where
  | main (woken : Option (Fin nWorkers))
  | worker (i : Fin nWorkers)
  | wakeMain
  | wakeWorker (i : Fin nWorkers)

def Action.isSpurious : Action nWorkers → Bool
  | .wakeMain | .wakeWorker _ => true
  | _ => false

def step (getSeqN : Nat → Nat) (state : State nWorkers) : Action nWorkers → Option (State nWorkers)
  | .main woken => state.mainStep woken
  | .worker i => state.workerStep getSeqN i
  | .wakeMain => state.wakeMain
  | .wakeWorker i => state.wakeWorker i

end GramsTof.ConversionPool
