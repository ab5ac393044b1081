import Mathlib.Tactic

/-!
Replacing a pattern in a text from left to right, at most a given number of
times. Two characters are compared by `same`, so that one definition covers
search that respects case and search that does not. The texts `found` are the
spellings of the pattern that such a scan comes across.
-/

namespace GramsTof.TextReplace

variable {α : Type*}

def startsWith (same : α → α → Bool) : List α → List α → Bool
  | [], _ => true
  | _ :: _, [] => false
  | p :: pattern, c :: text => same p c && startsWith same pattern text

/-- `skip` characters belong to the match before. -/
def replaceFrom (same : α → α → Bool) (pattern value : List α) : Nat → Nat → List α → List α
  | _, _, [] => []
  | count, skip + 1, _ :: text => replaceFrom same pattern value count skip text
  | 0, 0, c :: text => c :: text
  | count + 1, 0, c :: text =>
      if startsWith same pattern (c :: text) then
        value ++ replaceFrom same pattern value count (pattern.length - 1) text
      else c :: replaceFrom same pattern value (count + 1) 0 text

def replace (same : α → α → Bool) (count : Nat) (pattern value text : List α) : List α :=
  replaceFrom same pattern value count 0 text

def foundFrom (same : α → α → Bool) (pattern : List α) : Nat → List α → List (List α)
  | _, [] => []
  | skip + 1, _ :: text => foundFrom same pattern skip text
  | 0, c :: text =>
      if startsWith same pattern (c :: text) then
        (c :: text).take pattern.length :: foundFrom same pattern (pattern.length - 1) text
      else foundFrom same pattern 0 text

def found (same : α → α → Bool) (pattern text : List α) : List (List α) :=
  foundFrom same pattern 0 text

section Scan

variable {same : α → α → Bool} {pattern : List α}

theorem replace_from_absent (value : List α) (count skip : Nat) (text : List α)
    (absent : foundFrom same pattern skip text = []) :
    replaceFrom same pattern value count skip text = text.drop skip := by
  induction text generalizing skip with
  | nil => cases skip <;> cases count <;> rfl
  | cons c text ih =>
      cases skip with
      | succ skip => exact (by cases count <;> exact ih skip absent)
      | zero =>
          rw [foundFrom] at absent
          split_ifs at absent with here
          cases count with
          | zero => rfl
          | succ count => rw [replaceFrom, if_neg here, ih 0 absent, List.drop_zero, List.drop_zero]

theorem replace_absent (count : Nat) (value text : List α)
    (absent : found same pattern text = []) :
    replace same count pattern value text = text :=
  replace_from_absent value count 0 text absent

theorem replace_from_enough (value : List α) (few many skip : Nat) (text : List α)
    (enough : (foundFrom same pattern skip text).length ≤ few) (more : few ≤ many) :
    replaceFrom same pattern value few skip text = replaceFrom same pattern value many skip text := by
  induction text generalizing few many skip with
  | nil => cases skip <;> cases few <;> cases many <;> rfl
  | cons c text ih =>
      cases skip with
      | succ skip =>
          have later := ih few many skip enough more
          cases few <;> cases many <;> exact later
      | zero =>
          rw [foundFrom] at enough
          split_ifs at enough with here
          · -- a match uses up one of the count on both sides
            rw [List.length_cons] at enough
            obtain ⟨few, rfl⟩ := Nat.exists_eq_succ_of_ne_zero (show few ≠ 0 by omega)
            obtain ⟨many, rfl⟩ := Nat.exists_eq_succ_of_ne_zero (show many ≠ 0 by omega)
            rw [replaceFrom, replaceFrom, if_pos here, if_pos here,
              ih few many _ (Nat.le_of_succ_le_succ enough) (Nat.le_of_succ_le_succ more)]
          · cases many with
            | zero =>
                obtain rfl := Nat.le_zero.mp more
                rfl
            | succ many =>
                rw [replaceFrom, if_neg here, ← ih few (many + 1) 0 enough more]
                cases few with
                -- the smaller limit is used up: nothing more is found
                | zero =>
                    have absent := List.eq_nil_of_length_eq_zero (Nat.le_zero.mp enough)
                    rw [replace_from_absent value 0 0 text absent, List.drop_zero, replaceFrom]
                | succ few => rw [replaceFrom, if_neg here]

theorem replace_enough (few many : Nat) (value text : List α)
    (enough : (found same pattern text).length ≤ few) (more : few ≤ many) :
    replace same few pattern value text = replace same many pattern value text :=
  replace_from_enough value few many 0 text enough more

theorem found_from_length (skip : Nat) (text : List α) :
    (foundFrom same pattern skip text).length ≤ text.length := by
  induction text generalizing skip with
  | nil => cases skip <;> exact Nat.le_refl 0
  | cons c text ih =>
      cases skip with
      | succ skip => exact (ih skip).trans (Nat.le_succ _)
      | zero =>
          rw [foundFrom]
          split_ifs
          · exact Nat.succ_le_succ (ih _)
          · exact (ih 0).trans (Nat.le_succ _)

theorem found_length (text : List α) : (found same pattern text).length ≤ text.length :=
  found_from_length 0 text

theorem found_from_none (p : α) (skip : Nat) (text : List α)
    (none : ∀ c ∈ text, same p c = false) : foundFrom same (p :: pattern) skip text = [] := by
  induction text generalizing skip with
  | nil => cases skip <;> rfl
  | cons c text ih =>
      have later := fun skip => ih skip fun other member => none other (List.mem_cons_of_mem _ member)
      cases skip with
      | succ skip => exact later skip
      | zero =>
          have here : startsWith same (p :: pattern) (c :: text) = false := by
            rw [startsWith, none c List.mem_cons_self]
            rfl
          rw [foundFrom, here]
          exact later 0

theorem found_from_skipped (front text : List α) :
    foundFrom same pattern front.length (front ++ text) = foundFrom same pattern 0 text := by
  induction front with
  | nil => rfl
  | cons c front ih => exact ih

theorem replace_from_skipped (value : List α) (count : Nat) (front text : List α) :
    replaceFrom same pattern value count front.length (front ++ text) =
      replaceFrom same pattern value count 0 text := by
  induction front with
  | nil => rfl
  | cons c front ih => exact (by cases count <;> exact ih)

theorem starts_with_member (text : List α) (here : startsWith same pattern text = true) (p : α)
    (member : p ∈ pattern) : ∃ c ∈ text, same p c = true := by
  induction pattern generalizing text with
  | nil => cases member
  | cons first pattern ih =>
      cases text with
      | nil => cases here
      | cons c text =>
          rw [startsWith, Bool.and_eq_true] at here
          rcases List.mem_cons.mp member with rfl | later
          · exact ⟨c, List.mem_cons_self, here.1⟩
          · obtain ⟨other, inside, like⟩ := ih text here.2 later
            exact ⟨other, List.mem_cons_of_mem c inside, like⟩

theorem starts_with_self (reflexive : ∀ c, same c c = true) (pattern text : List α) :
    startsWith same pattern (pattern ++ text) = true := by
  induction pattern with
  | nil => rfl
  | cons p pattern ih =>
      rw [List.cons_append, startsWith, reflexive, ih]
      rfl

theorem found_front (reflexive : ∀ c, same c c = true) (p : α) (pattern text : List α) :
    found same (p :: pattern) (p :: pattern ++ text) =
      (p :: pattern) :: found same (p :: pattern) text := by
  have here := starts_with_self reflexive (p :: pattern) text
  rw [List.cons_append] at here
  rw [found, List.cons_append, foundFrom, if_pos here, ← List.cons_append, List.take_left,
    List.length_cons, Nat.add_sub_cancel, found_from_skipped]
  rfl

theorem replace_never (value text : List α) : replace same 0 pattern value text = text := by
  cases text <;> rfl

theorem replace_front (reflexive : ∀ c, same c c = true) (count : Nat) (p : α)
    (pattern value text : List α) :
    replace same (count + 1) (p :: pattern) value (p :: pattern ++ text) =
      value ++ replace same count (p :: pattern) value text := by
  have here := starts_with_self reflexive (p :: pattern) text
  rw [List.cons_append] at here
  rw [replace, List.cons_append, replaceFrom, if_pos here, List.length_cons, Nat.add_sub_cancel,
    replace_from_skipped]
  rfl

end Scan

section Spelling

variable [DecidableEq α] {same : α → α → Bool}

def equal (left right : α) : Bool := decide (left = right)

theorem starts_with_equal (pattern text : List α) :
    startsWith equal pattern text = true ↔ text.take pattern.length = pattern := by
  induction pattern generalizing text with
  | nil => simp [startsWith]
  | cons p pattern ih =>
      cases text with
      | nil => simp [startsWith]
      | cons c text =>
          rw [startsWith, Bool.and_eq_true, ih, equal, decide_eq_true_eq, List.length_cons,
            List.take_succ_cons, List.cons.injEq]
          exact and_congr_left fun _ => eq_comm

theorem starts_with_weaker (reflexive : ∀ c, same c c = true) (pattern text : List α)
    (here : startsWith equal pattern text = true) : startsWith same pattern text = true := by
  induction pattern generalizing text with
  | nil => rfl
  | cons p pattern ih =>
      cases text with
      | nil => cases here
      | cons c text =>
          rw [startsWith, Bool.and_eq_true, equal, decide_eq_true_eq] at here
          obtain ⟨rfl, later⟩ := here
          rw [startsWith, reflexive, ih text later]
          rfl

/-- If a looser search comes across the pattern only as it is spelled, the
search by equality finds and replaces the same. -/
theorem spelled_same (reflexive : ∀ c, same c c = true) (pattern value : List α) (count skip : Nat)
    (text : List α)
    (spelled : ∀ spelling ∈ foundFrom same pattern skip text, spelling = pattern) :
    foundFrom equal pattern skip text = foundFrom same pattern skip text ∧
      replaceFrom equal pattern value count skip text =
        replaceFrom same pattern value count skip text := by
  induction text generalizing count skip with
  | nil => cases skip <;> cases count <;> exact ⟨rfl, rfl⟩
  | cons c text ih =>
      cases skip with
      | succ skip =>
          have later := ih count skip spelled
          cases count <;> exact later
      | zero =>
          -- the two searches agree here, and then on the rest
          have agree : startsWith equal pattern (c :: text) = startsWith same pattern (c :: text) := by
            rw [Bool.eq_iff_iff]
            refine ⟨starts_with_weaker reflexive pattern _, fun here => ?_⟩
            rw [foundFrom, if_pos here] at spelled
            rw [starts_with_equal]
            exact spelled _ List.mem_cons_self
          rw [foundFrom] at spelled
          rw [foundFrom, foundFrom, agree]
          split_ifs at spelled ⊢ with here
          · have later := fun count => ih count _ fun spelling member =>
              spelled spelling (List.mem_cons_of_mem _ member)
            refine ⟨by rw [(later count).1], ?_⟩
            cases count with
            | zero => rfl
            | succ count => rw [replaceFrom, replaceFrom, agree, if_pos here, if_pos here, (later count).2]
          · have later := fun count => ih count 0 spelled
            refine ⟨(later count).1, ?_⟩
            cases count with
            | zero => rfl
            | succ count =>
                rw [replaceFrom, replaceFrom, agree, if_neg here, if_neg here, (later (count + 1)).2]

end Spelling

end GramsTof.TextReplace
