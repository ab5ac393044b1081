import Mathlib.Tactic

/-!
Runs of a machine given by an executable step function. An action the machine
cannot take in a state ends the run there. A condition on steps may be needed
to keep an invariant; `Along` says that every step of a run meets it, and
`Throughout` that every state passed is good. `Refines` relates two machines.
Nothing here names a machine.
-/

namespace GramsTof.TransitionSystem

universe u v
variable {State : Type u} {Action : Type v} (step : State → Action → Option State)

def run : State → List Action → Option State
  | state, [] => some state
  | state, action :: rest => (step state action).bind fun next => run next rest

/-- Every step the run takes meets `cond`. -/
def Along (cond : State → Action → Prop) : State → List Action → Prop
  | _, [] => True
  | state, action :: rest =>
      ∀ next ∈ step state action, cond state action ∧ Along cond next rest

/-- Every state the run passes is good. -/
def Throughout (good : State → Prop) : State → List Action → Prop
  | state, [] => good state
  | state, action :: rest => good state ∧ ∀ next ∈ step state action, Throughout good next rest

instance decidableAlong (cond : State → Action → Prop)
    [∀ state action, Decidable (cond state action)] :
    (state : State) → (actions : List Action) → Decidable (Along step cond state actions)
  | _, [] => inferInstanceAs (Decidable True)
  | state, action :: rest =>
      haveI := fun next => decidableAlong cond next rest
      inferInstanceAs (Decidable (∀ next ∈ step state action,
        cond state action ∧ Along step cond next rest))

instance decidableThroughout (good : State → Prop) [DecidablePred good] :
    (state : State) → (actions : List Action) → Decidable (Throughout step good state actions)
  | state, [] => inferInstanceAs (Decidable (good state))
  | state, action :: rest =>
      haveI := fun next => decidableThroughout good next rest
      inferInstanceAs (Decidable (good state ∧ ∀ next ∈ step state action,
        Throughout step good next rest))

theorem run_append (first second : List Action) (state : State) :
    run step state (first ++ second) =
      (run step state first).bind fun next => run step next second := by
  induction first generalizing state with
  | nil => rfl
  | cons action rest ih =>
      rw [List.cons_append, run, run, Option.bind_assoc]
      exact congrArg _ (funext ih)

theorem throughout_last {good : State → Prop} (actions : List Action) (state final : State)
    (passed : Throughout step good state actions) (ran : run step state actions = some final) :
    good final := by
  induction actions generalizing state with
  | nil =>
      cases ran
      exact passed
  | cons action rest ih =>
      obtain ⟨next, stepped, later⟩ := Option.bind_eq_some_iff.mp ran
      exact ih next (passed.2 next stepped) later

section Invariant
variable {inv good : State → Prop} {cond : State → Action → Prop}

theorem run_keeps
    (kept : ∀ state action next, inv state → step state action = some next →
      cond state action → inv next)
    (actions : List Action) (state final : State) (start : inv state)
    (along : Along step cond state actions) (ran : run step state actions = some final) :
    inv final := by
  induction actions generalizing state with
  | nil =>
      cases ran
      exact start
  | cons action rest ih =>
      obtain ⟨next, stepped, later⟩ := Option.bind_eq_some_iff.mp ran
      obtain ⟨met, remaining⟩ := along next stepped
      exact ih next (kept state action next start stepped met) remaining later

theorem run_invariant
    (kept : ∀ state action next, inv state → step state action = some next → inv next)
    (actions : List Action) (state final : State) (start : inv state)
    (ran : run step state actions = some final) : inv final := by
  induction actions generalizing state with
  | nil =>
      cases ran
      exact start
  | cons action rest ih =>
      obtain ⟨next, stepped, later⟩ := Option.bind_eq_some_iff.mp ran
      exact ih next (kept state action next start stepped) later

theorem throughout_invariant (sound : ∀ state, inv state → good state)
    (kept : ∀ state action next, inv state → step state action = some next → inv next)
    (actions : List Action) (state : State) (start : inv state) :
    Throughout step good state actions := by
  induction actions generalizing state with
  | nil => exact sound state start
  | cons action rest ih =>
      exact ⟨sound state start, fun next stepped => ih next (kept state action next start stepped)⟩

theorem throughout_along (sound : ∀ state, inv state → good state)
    (kept : ∀ state action next, inv state → step state action = some next →
      cond state action → inv next)
    (actions : List Action) (state : State) (start : inv state)
    (along : Along step cond state actions) : Throughout step good state actions := by
  induction actions generalizing state with
  | nil => exact sound state start
  | cons action rest ih =>
      refine ⟨sound state start, fun next stepped => ?_⟩
      obtain ⟨met, remaining⟩ := along next stepped
      exact ih next (kept state action next start stepped met) remaining

theorem along_all (all : ∀ state action, cond state action) (actions : List Action)
    (state : State) : Along step cond state actions := by
  induction actions generalizing state with
  | nil => trivial
  | cons action rest ih => exact fun next _ => ⟨all state action, ih next⟩

theorem along_members (actions : List Action) (state : State)
    (members : ∀ action ∈ actions, ∀ state, cond state action) : Along step cond state actions := by
  induction actions generalizing state with
  | nil => trivial
  | cons action rest ih =>
      exact fun next _ => ⟨members action List.mem_cons_self state,
        ih next fun other member => members other (List.mem_cons_of_mem action member)⟩

/-- Where `cond` is what a step needs to lead from a state of the invariant to
a good one, a run stays good exactly when all its steps meet `cond`. -/
theorem throughout_iff_along
    (sound : ∀ state, inv state → good state)
    (kept : ∀ state action next, inv state → step state action = some next →
      cond state action → inv next)
    (needed : ∀ state action next, inv state → step state action = some next →
      good next → cond state action)
    (actions : List Action) (state : State) (start : inv state) :
    Throughout step good state actions ↔ Along step cond state actions := by
  induction actions generalizing state with
  | nil => exact ⟨fun _ => trivial, fun _ => sound state start⟩
  | cons action rest ih =>
      constructor
      · rintro ⟨_, later⟩ next stepped
        have remaining := later next stepped
        have reached : good next := by
          cases rest with
          | nil => exact remaining
          | cons => exact remaining.1
        have met := needed state action next start stepped reached
        exact ⟨met, (ih next (kept state action next start stepped met)).mp remaining⟩
      · intro along
        refine ⟨sound state start, fun next stepped => ?_⟩
        obtain ⟨met, remaining⟩ := along next stepped
        exact (ih next (kept state action next start stepped met)).mpr remaining

end Invariant

section Progress
variable {step} {inv goal : State → Prop} {due : Action → Prop}

/-- Where some due action is left in every state short of the goal, and each
of them makes `left` smaller, due actions alone lead to the goal. -/
theorem goal_reached (left : State → Nat)
    (kept : ∀ state action next, inv state → ¬ goal state → due action →
      step state action = some next → inv next)
    (live : ∀ state, inv state → ¬ goal state →
      ∃ action next, due action ∧ step state action = some next)
    (descends : ∀ state action next, inv state → ¬ goal state → due action →
      step state action = some next → left next < left state)
    (state : State) (start : inv state) :
    ∃ actions final, (∀ action ∈ actions, due action) ∧ run step state actions = some final ∧
      inv final ∧ goal final := by
  induction bound : left state using Nat.strong_induction_on generalizing state with
  | h amount ih =>
      by_cases done : goal state
      · exact ⟨[], state, fun action member => (by cases member), rfl, start, done⟩
      · obtain ⟨action, next, now, stepped⟩ := live state start done
        have smaller : left next < amount := by
          rw [← bound]
          exact descends state action next start done now stepped
        obtain ⟨actions, final, later, ran, whole, reached⟩ :=
          ih (left next) smaller next (kept state action next start done now stepped) rfl
        refine ⟨action :: actions, final, ?_, ?_, whole, reached⟩
        · exact List.forall_mem_cons.mpr ⟨now, later⟩
        · rw [run, stepped]
          exact ran

end Progress

section Refinement
universe w x
variable {Abstract : Type w} {Label : Type x}

/-- Seen through `view`, a step is the abstract step that `label` names, or
none where it names none. -/
structure Refines (astep : Abstract → Label → Option Abstract) (view : State → Abstract)
    (label : State → Action → Option Label) (inv : State → Prop) : Prop where
  kept : ∀ state action next, inv state → step state action = some next → inv next
  idle : ∀ state action next, inv state → step state action = some next →
    label state action = none → view next = view state
  taken : ∀ state action next named, inv state → step state action = some next →
    label state action = some named → astep (view state) named = some (view next)

variable {step} {astep : Abstract → Label → Option Abstract} {view : State → Abstract}
  {label : State → Action → Option Label} {inv : State → Prop} {ainv good : Abstract → Prop}
  {cond : Abstract → Label → Prop}

/-- What is exact for the abstract machine is exact for the one that refines
it: seen through `view`, a run stays good exactly when the abstract steps it
takes meet `cond`. -/
theorem Refines.throughout_iff_along (refines : Refines step astep view label inv)
    (sound : ∀ state, ainv state → good state)
    (kept : ∀ state named next, ainv state → astep state named = some next →
      cond state named → ainv next)
    (needed : ∀ state named next, ainv state → astep state named = some next →
      good next → cond state named)
    (actions : List Action) (state : State) (start : inv state) (begun : ainv (view state)) :
    Throughout step (fun state => good (view state)) state actions ↔
      Along step (fun state action => ∀ named ∈ label state action, cond (view state) named)
        state actions := by
  refine @TransitionSystem.throughout_iff_along _ _ step
    (fun state => inv state ∧ ainv (view state)) _ _
    (fun state both => sound (view state) both.2) ?_ ?_ actions state ⟨start, begun⟩
  · rintro state action next ⟨here, abstract⟩ stepped met
    refine ⟨refines.kept state action next here stepped, ?_⟩
    cases names : label state action with
    | none =>
        rw [refines.idle state action next here stepped names]
        exact abstract
    | some named =>
        have taken := refines.taken state action next named here stepped names
        exact kept (view state) named (view next) abstract taken (met named names)
  · rintro state action next ⟨here, abstract⟩ stepped reached named names
    have taken := refines.taken state action next named here stepped names
    exact needed (view state) named (view next) abstract taken reached

end Refinement

end GramsTof.TransitionSystem
