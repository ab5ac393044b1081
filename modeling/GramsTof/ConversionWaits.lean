import GramsTof.ConversionOrder

/-!
No wake-up is lost. A worker that waits for its turn is on record in the map and
its turn has not come; a worker that waits for a task and the main thread wait
only for what somebody will still do.
-/

namespace GramsTof.ConversionPool

open TransitionSystem TicketOrder

variable {nWorkers : Nat}

def Worker.waitsFor (worker : Worker) (buffer : Nat) : Prop :=
  worker = .blocked buffer ∨ worker = .woken buffer

/-- Every waiting worker can be signalled, and was when its turn came. -/
structure Turns (getSeqN : Nat → Nat) (state : State nWorkers) : Prop where
  registered : ∀ i buffer, (state.workers i).waitsFor buffer →
    state.conds (getSeqN buffer) = some i
  later : ∀ i buffer, state.workers i = .blocked buffer → getSeqN buffer ≠ state.expectedSeqN

section Turns
variable {getSeqN : Nat → Nat} {state : State nWorkers}

end Turns

section Numbered
variable {getSeqN : Nat → Nat} {count : Nat}
  (numbered : ∀ buffer < count, getSeqN buffer = buffer)
include numbered

end Numbered

/-- What the place of the main thread tells about the rest. -/
def Phase (state : State nWorkers) : Prop :=
  match state.main with
  | .queueing => state.terminate = false
  | .blockedFull => state.terminate = false ∧ state.queue ≠ []
  | .draining _ => state.terminate = false ∧ state.pending = []
  | .blockedDrain _ => state.terminate = false ∧ state.pending = [] ∧ state.queue ≠ []
  | .checking _ _ | .terminating =>
      state.terminate = false ∧ state.pending = [] ∧ state.queue = []
  | .blockedCompleted _ i =>
      state.terminate = false ∧ state.pending = [] ∧ state.queue = [] ∧
        (state.workers i).isBusy = true
  | .joining => state.terminate = true ∧ state.pending = [] ∧ state.queue = []
  | .finished =>
      state.terminate = true ∧ state.pending = [] ∧ state.queue = [] ∧
        ∀ i, state.workers i = .exited

/-- Not all workers wait for a task while there is one, and none does after the
end; the main thread waits only for what is still to happen. -/
structure Pool (state : State nWorkers) : Prop where
  awake : (∀ i, state.workers i = .idle) → state.queue = []
  stopped : state.terminate = true → ∀ i, state.workers i ≠ .idle
  exits : ∀ i, state.workers i = .exited → state.terminate = true
  phase : Phase state

section Pool
variable {state : State nWorkers}

end Pool

end GramsTof.ConversionPool
