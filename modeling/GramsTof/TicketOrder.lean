import GramsTof.TransitionSystem

/-!
Tickets that are handed out in order and served in order. A worker takes the
next ticket, is served when it is the expected one, and makes the next one
expected when it is done. Nothing here says what a worker is or how it waits.
-/

namespace GramsTof.TicketOrder

open TransitionSystem

universe u
variable {Worker : Type u}

/-- `rest` are the tickets not handed out yet, `served` those whose service has
begun. -/
structure State (Worker : Type u) where
  rest : List Nat
  held : Worker → Option Nat
  serving : Worker → Bool
  expected : Nat
  served : List Nat

inductive Action (Worker : Type u) where
  | take (worker : Worker)
  | start (worker : Worker)
  | finish (worker : Worker)

def step [DecidableEq Worker] (state : State Worker) :
    Action Worker → Option (State Worker)
  | .take worker =>
      match state.rest, state.held worker with
      | ticket :: rest, none =>
          some { state with rest := rest, held := Function.update state.held worker (some ticket) }
      | _, _ => none
  | .start worker =>
      if state.held worker = some state.expected ∧ state.serving worker = false then
        some { state with
          serving := Function.update state.serving worker true
          served := state.served ++ [state.expected] }
      else none
  | .finish worker =>
      if state.serving worker = true then
        some { state with
          held := Function.update state.held worker none
          serving := Function.update state.serving worker false
          expected := state.expected + 1 }
      else none

def State.start (Worker : Type u) (count : Nat) : State Worker :=
  ⟨List.range count, fun _ => none, fun _ => false, 0, []⟩

/-- Of `count` tickets the first `taken` are handed out; those from `expected`
on are held, each by one worker. -/
structure Ordered (count : Nat) (state : State Worker) : Prop where
  handed : ∃ taken, taken ≤ count ∧ state.expected ≤ taken ∧
    state.rest = List.range' taken (count - taken) ∧
    ∀ ticket, (∃ worker, state.held worker = some ticket) ↔
      state.expected ≤ ticket ∧ ticket < taken
  single : ∀ left right ticket, state.held left = some ticket → state.held right = some ticket →
    left = right
  turn : ∀ worker, state.serving worker = true → state.held worker = some state.expected
  waiting : (∀ worker, state.serving worker = false) → state.served = List.range state.expected
  busy : ∀ worker, state.serving worker = true →
    state.served = List.range (state.expected + 1)

variable [DecidableEq Worker]

end GramsTof.TicketOrder
