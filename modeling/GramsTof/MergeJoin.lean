import Mathlib.Order.Basic
import Mathlib.Data.List.Basic
import Mathlib.Tactic

/-!
The merge join of two lists by a key: the list whose next item has the smaller key
advances, and items of one key leave as a pair. On lists with increasing keys these are
all the pairs of one key. Nothing here names the items.
-/

namespace GramsTof.MergeJoin

universe u v w
variable {Left : Type u} {Right : Type v} {Key : Type w} [LinearOrder Key]
  (left : Left → Key) (right : Right → Key)

def join : List Left → List Right → List (Left × Right)
  | [], _ => []
  | _, [] => []
  | first :: rest, second :: others =>
      if left first < right second then join rest (second :: others)
      else if right second < left first then join (first :: rest) others
      else (first, second) :: join rest others
  termination_by items partners => items.length + partners.length

def Increasing {Item : Type u} (key : Item → Key) (items : List Item) : Prop :=
  items.Pairwise fun before after => key before < key after

instance {Item : Type u} (key : Item → Key) (items : List Item) :
    Decidable (Increasing key items) :=
  inferInstanceAs (Decidable (items.Pairwise fun before after => key before < key after))

@[simp] theorem join_no_left (partners : List Right) : join left right [] partners = [] := by
  rw [join]

@[simp] theorem join_no_right (items : List Left) : join left right items [] = [] := by
  cases items <;> rw [join]
  rintro ⟨⟩

variable {left right} {first : Left} {rest : List Left} {second : Right} {others : List Right}

theorem join_left (before : left first < right second) :
    join left right (first :: rest) (second :: others) = join left right rest (second :: others) := by
  rw [join, if_pos before]

theorem join_right (before : right second < left first) :
    join left right (first :: rest) (second :: others) = join left right (first :: rest) others := by
  rw [join, if_neg (lt_asymm before), if_pos before]

theorem join_pair (same : left first = right second) :
    join left right (first :: rest) (second :: others) =
      (first, second) :: join left right rest others := by
  rw [join, if_neg (not_lt_of_ge same.ge), if_neg (not_lt_of_ge same.le)]

variable (items : List Left) (partners : List Right)

theorem join_keys (pair : Left × Right) (member : pair ∈ join left right items partners) :
    left pair.1 = right pair.2 := by
  induction items, partners using join.induct left right with
  | case1 => simp at member
  | case2 => simp at member
  | case3 first rest second others before ih =>
      rw [join_left before] at member
      exact ih member
  | case4 first rest second others notBefore before ih =>
      rw [join_right before] at member
      exact ih member
  | case5 first rest second others notBefore notAfter ih =>
      have same : left first = right second := le_antisymm (not_lt.mp notAfter) (not_lt.mp notBefore)
      rw [join_pair same] at member
      rcases List.mem_cons.mp member with rfl | later
      · exact same
      · exact ih later

theorem join_swap :
    join right left partners items = (join left right items partners).map Prod.swap := by
  induction items, partners using join.induct left right with
  | case1 => simp
  | case2 => simp
  | case3 first rest second others before ih => rw [join_left before, join_right before, ih]
  | case4 first rest second others notBefore before ih =>
      rw [join_right before, join_left before, ih]
  | case5 first rest second others notBefore notAfter ih =>
      have same : left first = right second := le_antisymm (not_lt.mp notAfter) (not_lt.mp notBefore)
      rw [join_pair same, join_pair same.symm, ih]
      rfl

theorem join_firsts : ((join left right items partners).map Prod.fst).Sublist items := by
  induction items, partners using join.induct left right with
  | case1 => simp
  | case2 => simp
  | case3 first rest second others before ih =>
      rw [join_left before]
      exact ih.cons first
  | case4 first rest second others notBefore before ih =>
      rw [join_right before]
      exact ih
  | case5 first rest second others notBefore notAfter ih =>
      have same : left first = right second := le_antisymm (not_lt.mp notAfter) (not_lt.mp notBefore)
      rw [join_pair same]
      exact ih.cons_cons first

theorem join_seconds : ((join left right items partners).map Prod.snd).Sublist partners := by
  have firsts := @join_firsts _ _ _ _ right left partners items
  rw [join_swap, List.map_map] at firsts
  exact firsts

/-- What comes before everything on the left has no partner there. -/
theorem join_past (past : ∀ item ∈ items, right second < left item) :
    join left right items (second :: others) = join left right items others := by
  cases items with
  | nil => simp
  | cons first rest => exact join_right (past first List.mem_cons_self)

section Increasing
variable (lefts : Increasing left items) (rights : Increasing right partners)
include lefts

theorem join_increasing : Increasing (fun pair => left pair.1) (join left right items partners) := by
  have firsts := List.Pairwise.sublist (@join_firsts _ _ _ _ left right items partners) lefts
  rw [List.pairwise_map] at firsts
  exact firsts

include rights

theorem join_complete (item : Left) (partner : Right) (member : item ∈ items)
    (member' : partner ∈ partners) (same : left item = right partner) :
    (item, partner) ∈ join left right items partners := by
  induction items, partners using join.induct left right with
  | case1 => cases member
  | case2 => cases member'
  | case3 first rest second others before ih =>
      rw [join_left before]
      refine ih lefts.of_cons rights ((List.mem_cons.mp member).resolve_left ?_) member'
      rintro rfl
      rcases List.mem_cons.mp member' with rfl | later
      · exact absurd same before.ne
      · exact absurd same (lt_trans before ((List.pairwise_cons.mp rights).1 partner later)).ne
  | case4 first rest second others notBefore before ih =>
      rw [join_right before]
      refine ih lefts rights.of_cons member ((List.mem_cons.mp member').resolve_left ?_)
      rintro rfl
      rcases List.mem_cons.mp member with rfl | later
      · exact absurd same before.ne'
      · exact absurd same (lt_trans before ((List.pairwise_cons.mp lefts).1 item later)).ne'
  | case5 first rest second others notBefore notAfter ih =>
      have together : left first = right second :=
        le_antisymm (not_lt.mp notAfter) (not_lt.mp notBefore)
      rw [join_pair together]
      rcases List.mem_cons.mp member with rfl | later
      · rcases List.mem_cons.mp member' with rfl | later'
        · exact List.mem_cons_self
        · exact absurd (same.symm.trans together)
            ((List.pairwise_cons.mp rights).1 partner later').ne'
      · rcases List.mem_cons.mp member' with rfl | later'
        · exact absurd (same.trans together.symm) ((List.pairwise_cons.mp lefts).1 item later).ne'
        · exact List.mem_cons_of_mem _ (ih lefts.of_cons rights.of_cons later later')

end Increasing

/-- Without its first item the left side loses one pair at most. -/
theorem join_tail (all : Increasing left (first :: items)) :
    (join left right items partners).Sublist (join left right (first :: items) partners) ∧
      (join left right (first :: items) partners).length ≤
        (join left right items partners).length + 1 := by
  have later := (List.pairwise_cons.mp all).1
  induction partners with
  | nil => simp
  | cons second others ih =>
      rcases lt_trichotomy (left first) (right second) with before | same | after
      · rw [join_left before]
        exact ⟨List.Sublist.refl _, Nat.le_succ _⟩
      · rw [join_pair same, join_past items fun item member => same ▸ later item member]
        exact ⟨List.sublist_cons_self _ _, Nat.le_refl _⟩
      · have past (item : Left) (member : item ∈ items) : right second < left item :=
          lt_trans after (later item member)
        rw [join_right after, join_past items past]
        exact ih

theorem join_tail_right (all : Increasing right (second :: partners)) :
    (join left right items partners).Sublist (join left right items (second :: partners)) ∧
      (join left right items (second :: partners)).length ≤
        (join left right items partners).length + 1 := by
  have tail := @join_tail _ _ _ _ right left _ partners items all
  rw [join_swap items partners, join_swap items (second :: partners), List.length_map,
    List.length_map] at tail
  refine ⟨?_, tail.2⟩
  have back := tail.1.map Prod.swap
  simpa only [List.map_map, Prod.swap_swap_eq, List.map_id] using back

theorem join_tails (lefts : Increasing left (first :: items))
    (rights : Increasing right (second :: partners)) :
    (join left right items partners).Sublist
        (join left right (first :: items) (second :: partners)) ∧
      (join left right (first :: items) (second :: partners)).length ≤
        (join left right items partners).length + 1 := by
  rcases lt_trichotomy (left first) (right second) with before | same | after
  · rw [join_left before]
    exact join_tail_right items partners rights
  · rw [join_pair same]
    exact ⟨List.sublist_cons_self _ _, Nat.le_refl _⟩
  · rw [join_right after]
    exact join_tail items partners lefts

end GramsTof.MergeJoin
