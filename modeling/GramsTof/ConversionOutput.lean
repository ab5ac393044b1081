import GramsTof.ConversionRun
import GramsTof.StepBuffers

/-!
What `DataFileWriter` gets of a step, whatever the threads do. Buffers whose
numbers are their places in the step are written in order, each once. With more
buffers than an `unsigned` counts the numbers start again, and a buffer that
carries one for the second time waits for ever.
-/

namespace GramsTof.ConversionPool

open TransitionSystem TicketOrder RawReader StepBuffers

variable {nWorkers : Nat}

/-- The buffer is in the queue of the pool, or a worker has it. -/
def State.Waiting (state : State nWorkers) (buffer : Nat) : Prop :=
  buffer ∈ state.queue ∨ ∃ i, (state.workers i).held = some buffer

/-- `addEvents` was called for one buffer after another, for each once and by
one worker at a time, for all of them in the end, and those that wait can
still be written without any spurious wake-up. -/
structure InOrder (getSeqN : Nat → Nat) (count : Nat) (state : State nWorkers) : Prop where
  once : state.calls = List.range state.calls.length
  increasing : (state.calls.map getSeqN).Pairwise (· < ·)
  alone : ∀ i j left right, state.workers i = .writing left → state.workers j = .writing right →
    i = j
  complete : state.main = .finished → state.calls = List.range count
  writable : ∀ buffer, state.Waiting buffer → ∃ actions final,
    (∀ action ∈ actions, action.isSpurious = false) ∧
      run (step getSeqN) state actions = some final ∧ buffer ∈ final.calls

def State.after (nWorkers count written : Nat) : State nWorkers :=
  { State.start nWorkers count with
    pending := List.range' written (count - written)
    expectedSeqN := written
    calls := List.range written }

/-- The number of a buffer of the step, an `unsigned`. -/
def getSeqN (buffers : List EventBuffer) (buffer : Nat) : Nat :=
  (buffers.map EventBuffer.bufferSeqN).getD buffer 0

end GramsTof.ConversionPool
