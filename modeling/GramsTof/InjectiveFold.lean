import Mathlib.Tactic

/-!
What a fold tells of the list it ran through. A step that is injective in the
state keeps two runs apart once they are apart. Where it also separates short
lists of the same length, two long lists that differ in a short window only
are told apart. Nothing here names a checksum.
-/

namespace GramsTof.InjectiveFold

universe u v
variable {State : Type u} {Symbol : Type v} (step : State → Symbol → State)

/-- No symbol makes two states equal. -/
def Keeps : Prop := ∀ symbol, Function.Injective fun state => step state symbol

/-- From one state, two lists of the same length up to `width` lead apart. -/
def Separates (width : Nat) : Prop :=
  ∀ state (left right : List Symbol), left.length = right.length → left.length ≤ width →
    left.foldl step state = right.foldl step state → left = right

/-- Lists of the same length that agree outside `width` positions from `start`
on. -/
structure DifferWithin (start width : Nat) (left right : List Symbol) : Prop where
  length : left.length = right.length
  outside : ∀ i, ¬ (start ≤ i ∧ i < start + width) → left[i]? = right[i]?

theorem fold_injective (keeps : Keeps step) (symbols : List Symbol) :
    Function.Injective fun state => symbols.foldl step state := by
  induction symbols with
  | nil => exact Function.injective_id
  | cons symbol rest ih => exact ih.comp (keeps symbol)

theorem DifferWithin.before {start width : Nat} {left right : List Symbol}
    (within : DifferWithin start width left right) : left.take start = right.take start := by
  apply List.ext_getElem?
  intro i
  by_cases inside : i < start
  · rw [List.getElem?_take_of_lt inside, List.getElem?_take_of_lt inside]
    exact within.outside i (by omega)
  · rw [List.getElem?_take_eq_none (by omega), List.getElem?_take_eq_none (by omega)]

theorem DifferWithin.after {start width : Nat} {left right : List Symbol}
    (within : DifferWithin start width left right) :
    left.drop (start + width) = right.drop (start + width) := by
  apply List.ext_getElem?
  intro i
  rw [List.getElem?_drop, List.getElem?_drop]
  exact within.outside _ (by omega)

theorem split_window (symbols : List Symbol) (start width : Nat) :
    symbols = symbols.take start ++ ((symbols.drop start).take width ++
      symbols.drop (start + width)) := by
  rw [← List.drop_drop, List.take_append_drop, List.take_append_drop]

/-- A difference that lies in a window the step separates shows in the fold,
however much follows it. -/
theorem fold_differs {start width : Nat} {left right : List Symbol} (keeps : Keeps step)
    (separates : Separates step width) (within : DifferWithin start width left right)
    (differ : left ≠ right) (state : State) : left.foldl step state ≠ right.foldl step state := by
  intro same
  apply differ
  rw [split_window left start width, split_window right start width] at same ⊢
  rw [within.before, within.after] at same ⊢
  simp only [List.foldl_append] at same
  -- the common rest is taken back first, then the window is compared
  have reached := fold_injective step keeps _ same
  have window : (left.drop start).take width = (right.drop start).take width := by
    apply separates _ _ _ _ _ reached
    · rw [List.length_take, List.length_take, List.length_drop, List.length_drop, within.length]
    · exact List.length_take_le _ _
  rw [window]

end GramsTof.InjectiveFold
