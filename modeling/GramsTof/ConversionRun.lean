import GramsTof.ConversionWaits

/-!
Whole runs of the pool. What is left to do shrinks with every step of a thread,
and some thread can move until the main thread is done, so every run can be
finished, with all buffers written in order.
-/

namespace GramsTof.ConversionPool

open TransitionSystem TicketOrder

variable {nWorkers : Nat}

section Measure

def Worker.weight : Worker → Nat
  | .exited => 0
  | .idle => 1
  | .ready | .finishing => 2
  | .written _ => 4
  | .writing _ => 5
  | .blocked _ => 6
  | .woken _ => 7
  | .running _ => 8

def ahead (nWorkers : Nat) (deleting : Bool) : Nat := if deleting then 0 else 2 * nWorkers + 3

def Main.weight : Main nWorkers → Nat
  | .finished => 0
  | .joining => 1
  | .terminating => nWorkers + 2
  | .blockedCompleted deleting i => nWorkers + 2 + 2 * (nWorkers - i) + ahead nWorkers deleting
  | .checking deleting i => nWorkers + 3 + 2 * (nWorkers - i) + ahead nWorkers deleting
  | .blockedDrain deleting => 3 * nWorkers + 4 + ahead nWorkers deleting
  | .draining deleting => 3 * nWorkers + 5 + ahead nWorkers deleting
  | .blockedFull => 5 * nWorkers + 9
  | .queueing => 5 * nWorkers + 10

def left (state : State nWorkers) : Nat :=
  ∑ i, (state.workers i).weight + 8 * state.queue.length + 10 * state.pending.length +
    state.main.weight

end Measure

/-- What holds in every state of a run whose buffers carry their own numbers. -/
structure Sound (getSeqN : Nat → Nat) (count : Nat) (state : State nWorkers) : Prop where
  ordered : Ordered count (view state)
  turns : Turns getSeqN state
  pool : Pool state

section Numbered
variable {getSeqN : Nat → Nat} {count : Nat}
  (numbered : ∀ buffer < count, getSeqN buffer = buffer)
include numbered

end Numbered

end GramsTof.ConversionPool
