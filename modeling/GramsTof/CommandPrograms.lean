import Mathlib.Tactic

/-!
Programs that give commands to a machine. A command can fail, and what it brings is not
known; a program can catch an exception. `Meets` is what holds of a program however its
commands turn out, and has a rule for every way to build a program. Nothing here names a
machine.
-/

namespace GramsTof.CommandPrograms

inductive Program (Command : Type) (Answer : Command → Type) (Error Value : Type) : Type where
  | done (value : Value)
  | raise (error : Error)
  | ask (command : Command)
      (next : Except Error (Answer command) → Program Command Answer Error Value)

variable {Command : Type} {Answer : Command → Type} {Error Value Result Item : Type}

namespace Program

def give (command : Command) : Program Command Answer Error (Answer command) :=
  .ask command fun answer =>
    match answer with
    | .ok value => .done value
    | .error error => .raise error

def andThen (program : Program Command Answer Error Value)
    (next : Value → Program Command Answer Error Result) : Program Command Answer Error Result :=
  match program with
  | done value => next value
  | raise error => .raise error
  | ask command later => .ask command fun answer => (later answer).andThen next

instance : Monad (Program Command Answer Error) where
  pure := done
  bind := andThen

def attempt : Program Command Answer Error Value →
    Program Command Answer Error (Except Error Value)
  | done value => .done (.ok value)
  | raise error => .done (.error error)
  | ask command next => .ask command fun answer => (next answer).attempt

def forEach (items : List Item) (body : Item → Program Command Answer Error Unit) :
    Program Command Answer Error Unit :=
  match items with
  | [] => pure ()
  | item :: rest => do
      body item
      forEach rest body

end Program

/-- What a command does, given what is brought to it. -/
structure Machine (Command : Type) (Answer : Command → Type) (Error : Type) where
  State : Type
  Brought : Type
  act : State → (command : Command) → Brought → Except Error (Answer command) × State

variable (machine : Machine Command Answer Error)

/-- A run ends with a result, and with what is left to bring. -/
def Program.run : Program Command Answer Error Value → (Nat → machine.Brought) → machine.State →
    Except Error Value × machine.State
  | done value, _, state => (.ok value, state)
  | raise error, _, state => (.error error, state)
  | ask command next, brings, state =>
      let (answer, after) := machine.act state command (brings 0)
      (next answer).run (fun n => brings (n + 1)) after

/-- Every command of a run is given in a state that it is safe in. -/
def Program.Kept (safe : machine.State → Command → Prop) :
    Program Command Answer Error Value → (Nat → machine.Brought) → machine.State → Prop
  | done _, _, _ => True
  | raise _, _, _ => True
  | ask command next, brings, state =>
      safe state command ∧ (next (machine.act state command (brings 0)).1).Kept safe
        (fun n => brings (n + 1)) (machine.act state command (brings 0)).2

variable (safe : machine.State → Command → Prop)

/-- Whatever is brought, commands are safe and the result is as `post` says. -/
def Program.Meets (program : Program Command Answer Error Value)
    (post : Except Error Value → machine.State → Prop) (state : machine.State) : Prop :=
  match program with
  | done value => post (.ok value) state
  | raise error => post (.error error) state
  | ask command next =>
      safe state command ∧ ∀ brought, (next (machine.act state command brought).1).Meets post
        (machine.act state command brought).2

/-- What a result is to be, if it is a value and if it is an exception. -/
def Ending (State : Type) (ok : Value → State → Prop) (broken : Error → State → Prop) :
    Except Error Value → State → Prop
  | .ok value, state => ok value state
  | .error error, state => broken error state

section Rules
variable {machine safe} {ok ok' : Value → machine.State → Prop}
  {broken broken' : Error → machine.State → Prop} {after : Result → machine.State → Prop}
  {state : machine.State}

theorem meets_run {post : Except Error Value → machine.State → Prop}
    {program : Program Command Answer Error Value}
    (meets : program.Meets machine safe post state) (brings : Nat → machine.Brought) :
    post (program.run machine brings state).1 (program.run machine brings state).2 ∧
      program.Kept machine safe brings state := by
  induction program generalizing state brings with
  | done value => exact ⟨meets, trivial⟩
  | raise error => exact ⟨meets, trivial⟩
  | ask command next ih =>
      obtain ⟨allowed, later⟩ := meets
      obtain ⟨ends, kept⟩ := ih _ (later (brings 0)) fun n => brings (n + 1)
      exact ⟨ends, allowed, kept⟩

theorem meets_mono {program : Program Command Answer Error Value}
    (meets : program.Meets machine safe (Ending machine.State ok broken) state)
    (values : ∀ value state, ok value state → ok' value state)
    (errors : ∀ error state, broken error state → broken' error state) :
    program.Meets machine safe (Ending machine.State ok' broken') state := by
  induction program generalizing state with
  | done value => exact values _ _ meets
  | raise error => exact errors _ _ meets
  | ask command next ih => exact ⟨meets.1, fun brought => ih _ (meets.2 brought)⟩

theorem meets_bind {program : Program Command Answer Error Value}
    {next : Value → Program Command Answer Error Result}
    (first : program.Meets machine safe (Ending machine.State ok broken) state)
    (goes : ∀ value state, ok value state →
      (next value).Meets machine safe (Ending machine.State after broken) state) :
    (program >>= next).Meets machine safe (Ending machine.State after broken) state := by
  induction program generalizing state with
  | done value => exact goes value state first
  | raise error => exact first
  | ask command later ih => exact ⟨first.1, fun brought => ih _ (first.2 brought)⟩

theorem meets_give (command : Command) (allowed : safe state command)
    {post : Except Error (Answer command) → machine.State → Prop}
    (holds : ∀ brought, post (machine.act state command brought).1
      (machine.act state command brought).2) :
    (Program.give command).Meets machine safe post state := by
  refine ⟨allowed, fun brought => ?_⟩
  have ends := holds brought
  cases answered : (machine.act state command brought).1 with
  | ok value =>
      rw [answered] at ends
      exact ends
  | error error =>
      rw [answered] at ends
      exact ends

theorem meets_attempt {program : Program Command Answer Error Value}
    (meets : program.Meets machine safe (Ending machine.State ok broken) state) :
    program.attempt.Meets machine safe
      (Ending machine.State (Ending machine.State ok broken) broken') state := by
  induction program generalizing state with
  | done value => exact meets
  | raise error => exact meets
  | ask command next ih => exact ⟨meets.1, fun brought => ih _ (meets.2 brought)⟩

theorem meets_forEach {inv : machine.State → Prop}
    {body : Item → Program Command Answer Error Unit} (items : List Item)
    (each : ∀ item ∈ items, ∀ state, inv state →
      (body item).Meets machine safe (Ending machine.State (fun _ => inv) broken) state)
    (start : inv state) :
    (Program.forEach items body).Meets machine safe
      (Ending machine.State (fun _ => inv) broken) state := by
  induction items generalizing state with
  | nil => exact start
  | cons item rest ih =>
      refine meets_bind (each item (.head _) state start) fun _ _ holds => ?_
      exact ih (fun item' member => each item' (.tail _ member)) holds

end Rules

end GramsTof.CommandPrograms
