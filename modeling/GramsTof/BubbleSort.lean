import Mathlib.Tactic

/-!
Bubble sort: the neighbours are swept through again until a sweep exchanges
none. `swap` says which neighbours are exchanged. Nothing here names what is
sorted.
-/

namespace GramsTof.BubbleSort

universe u
variable {Item : Type u} (swap : Item → Item → Bool)

/-- A sweep that has come to `current`, and whether it exchanges anything. -/
def sweepFrom : Item → List Item → List Item × Bool
  | current, [] => ([current], false)
  | current, next :: rest =>
      if swap current next then (next :: (sweepFrom current rest).1, true)
      else (current :: (sweepFrom next rest).1, (sweepFrom next rest).2)

def sweep : List Item → List Item × Bool
  | [] => ([], false)
  | first :: rest => sweepFrom swap first rest

/-- `none` says that the sweeps have not come to an end. -/
def sweeps : Nat → List Item → Option (List Item)
  | 0, _ => none
  | fuel + 1, items =>
      if (sweep swap items).2 then sweeps fuel (sweep swap items).1
      else some (sweep swap items).1

def inversions : List Item → Nat
  | [] => 0
  | first :: rest => rest.countP (swap first) + inversions rest

/-- Every sweep that goes on removes an inversion, so these are enough. -/
def bubbleSort (items : List Item) : Option (List Item) :=
  sweeps swap (inversions swap items + 1) items

theorem sweep_from_perm (current : Item) (rest : List Item) :
    (sweepFrom swap current rest).1.Perm (current :: rest) := by
  induction rest generalizing current with
  | nil => exact .refl _
  | cons next rest ih =>
      unfold sweepFrom
      split_ifs
      · exact ((ih current).cons next).trans (List.Perm.swap current next rest)
      · exact (ih next).cons current

theorem sweep_perm (items : List Item) : (sweep swap items).1.Perm items := by
  cases items with
  | nil => exact .refl _
  | cons first rest => exact sweep_from_perm swap first rest

theorem sweeps_perm (fuel : Nat) (items sorted : List Item)
    (ended : sweeps swap fuel items = some sorted) : sorted.Perm items := by
  induction fuel generalizing items with
  | zero => cases ended
  | succ fuel ih =>
      unfold sweeps at ended
      split_ifs at ended
      · exact (ih _ ended).trans (sweep_perm swap items)
      · cases ended
        exact sweep_perm swap items

theorem bubble_sort_perm (items sorted : List Item)
    (ended : bubbleSort swap items = some sorted) : sorted.Perm items :=
  sweeps_perm swap _ items sorted ended

section Ends
variable (asymmetric : ∀ left right, swap left right → ¬ swap right left)
include asymmetric

/-- An exchange of neighbours puts one pair right and leaves the others alone. -/
theorem sweep_from_inversions (current : Item) (rest : List Item) :
    inversions swap (sweepFrom swap current rest).1 +
        (if (sweepFrom swap current rest).2 then 1 else 0) ≤
      inversions swap (current :: rest) := by
  induction rest generalizing current with
  | nil => rfl
  | cons next rest ih =>
      have counted (item : Item) (from' : Item) :
          (sweepFrom swap from' rest).1.countP (swap item) =
            (from' :: rest).countP (swap item) :=
        (sweep_from_perm swap from' rest).countP_eq _
      unfold sweepFrom
      by_cases wrong : swap current next
      · have later := ih current
        have back : swap next current = false := Bool.eq_false_iff.mpr (asymmetric _ _ wrong)
        rw [if_pos wrong]
        simp only [inversions, counted, List.countP_cons, wrong, back] at later ⊢
        simp only [if_true, Bool.false_eq_true, if_false] at later ⊢
        omega
      · have later := ih next
        rw [if_neg wrong]
        simp only [inversions, counted] at later ⊢
        omega

theorem sweep_inversions (items : List Item) (exchanged : (sweep swap items).2 = true) :
    inversions swap (sweep swap items).1 < inversions swap items := by
  cases items with
  | nil => cases exchanged
  | cons first rest =>
      have fewer := sweep_from_inversions swap asymmetric first rest
      rw [show (sweepFrom swap first rest).2 = true from exchanged, if_pos rfl] at fewer
      exact fewer

theorem sweeps_end (fuel : Nat) (items : List Item) (enough : inversions swap items < fuel) :
    ∃ sorted, sweeps swap fuel items = some sorted := by
  induction fuel generalizing items with
  | zero => exact absurd enough (Nat.not_lt_zero _)
  | succ fuel ih =>
      unfold sweeps
      split_ifs with exchanged
      · have fewer := sweep_inversions swap asymmetric items exchanged
        exact ih _ (by omega)
      · exact ⟨_, rfl⟩

theorem bubble_sort_ends (items : List Item) : ∃ sorted, bubbleSort swap items = some sorted :=
  sweeps_end swap asymmetric _ items (Nat.lt_succ_self _)

end Ends

section Sorted

theorem sweep_from_chain (current : Item) (rest : List Item)
    (kept : (sweepFrom swap current rest).2 = false) :
    (sweepFrom swap current rest).1 = current :: rest ∧
      List.IsChain (fun left right => ¬ swap left right) (current :: rest) := by
  induction rest generalizing current with
  | nil => exact ⟨rfl, .singleton _⟩
  | cons next rest ih =>
      unfold sweepFrom at kept ⊢
      split_ifs at kept ⊢ with wrong
      obtain ⟨same, chain⟩ := ih next kept
      exact ⟨congrArg _ same, .cons_cons wrong chain⟩

theorem sweeps_chain (fuel : Nat) (items sorted : List Item)
    (ended : sweeps swap fuel items = some sorted) :
    List.IsChain (fun left right => ¬ swap left right) sorted := by
  induction fuel generalizing items with
  | zero => cases ended
  | succ fuel ih =>
      unfold sweeps at ended
      split_ifs at ended with exchanged
      · exact ih _ ended
      · cases ended
        cases items with
        | nil => exact .nil
        | cons first rest =>
            obtain ⟨same, chain⟩ :=
              sweep_from_chain swap first rest (Bool.eq_false_iff.mpr exchanged)
            show List.IsChain _ (sweepFrom swap first rest).1
            rw [same]
            exact chain

/-- Where being in order is transitive, all pairs are in order. -/
theorem bubble_sort_sorted
    (transitive : ∀ first second third, ¬ swap first second → ¬ swap second third →
      ¬ swap first third)
    (items sorted : List Item) (ended : bubbleSort swap items = some sorted) :
    sorted.Pairwise fun left right => ¬ swap left right := by
  have : IsTrans Item fun left right => ¬ swap left right := ⟨transitive⟩
  exact (sweeps_chain swap _ items sorted ended).pairwise

end Sorted

end GramsTof.BubbleSort
