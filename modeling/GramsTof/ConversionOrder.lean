import GramsTof.ConversionPool
import GramsTof.TicketOrder

/-!
The buffers of a step are tickets: a worker takes the next one from the queue,
is served while `WriteHelper` writes it, and makes the next one expected. As
long as a buffer's sequence number is its place in the step, the pool follows
the ticket order.
-/

namespace GramsTof.ConversionPool

open TransitionSystem TicketOrder

variable {nWorkers : Nat}

def view (state : State nWorkers) : TicketOrder.State (Fin nWorkers) :=
  { rest := state.queue ++ state.pending
    held := fun i => (state.workers i).held
    serving := fun i => (state.workers i).serving
    expected := state.expectedSeqN
    served := state.calls }

section Numbered
variable {getSeqN : Nat → Nat} {count : Nat}
  (numbered : ∀ buffer < count, getSeqN buffer = buffer) (narrow : count < 2 ^ 64)
include numbered narrow

end Numbered

end GramsTof.ConversionPool
