import Mathlib.Tactic

/-!
Searches in a list that is sorted up to some slack. A scan looks from one item
at those behind it and ends early at one that is too far away; it may do so as
long as what it accepts is within a window of its item and the slack is what the
list needs. Greedy groups and pairs are built from such scans. Nothing here
names what is searched.
-/

namespace GramsTof.WindowScan

universe u v
variable {Item : Type u}

section Scan
variable (stops accepts : Item → Bool)

/-- What is accepted and what is left. From the first item on at which the scan
stops, everything is left. -/
def scan : List Item → List Item × List Item
  | [] => ([], [])
  | item :: rest =>
      if stops item then ([], item :: rest)
      else if accepts item then (item :: (scan rest).1, (scan rest).2)
      else ((scan rest).1, item :: (scan rest).2)

theorem scan_perm (items : List Item) :
    ((scan stops accepts items).1 ++ (scan stops accepts items).2).Perm items := by
  induction items with
  | nil => exact .refl _
  | cons item rest ih =>
      unfold scan
      split_ifs
      · exact .refl _
      · exact ih.cons item
      · exact List.perm_middle.trans (ih.cons item)

theorem scan_accepted_sublist (items : List Item) :
    (scan stops accepts items).1.Sublist items := by
  induction items with
  | nil => exact .refl _
  | cons item rest ih =>
      unfold scan
      split_ifs
      · exact List.nil_sublist _
      · exact ih.cons_cons item
      · exact ih.cons item

theorem scan_left_sublist (items : List Item) :
    (scan stops accepts items).2.Sublist items := by
  induction items with
  | nil => exact .refl _
  | cons item rest ih =>
      unfold scan
      split_ifs
      · exact .refl _
      · exact ih.cons item
      · exact ih.cons_cons item

theorem scan_accepts (items : List Item) :
    ∀ item ∈ (scan stops accepts items).1, accepts item = true := by
  induction items with
  | nil => exact fun _ member => (List.not_mem_nil member).elim
  | cons item rest ih =>
      unfold scan
      split_ifs with _ accepted
      · exact fun _ member => (List.not_mem_nil member).elim
      · exact List.forall_mem_cons.mpr ⟨accepted, ih⟩
      · exact ih

theorem scan_endless (items : List Item) :
    scan (fun _ => false) accepts items =
      (items.filter accepts, items.filter fun item => !accepts item) := by
  induction items with
  | nil => rfl
  | cons item rest ih =>
      unfold scan
      rw [ih, if_neg Bool.false_ne_true, List.filter_cons, List.filter_cons]
      cases accepts item <;> rfl

/-- Where nothing is accepted behind an item at which the scan stops, stopping
makes no difference. -/
theorem scan_harmless (items : List Item)
    (here : ∀ item ∈ items, stops item → ¬ accepts item)
    (behind : items.Pairwise fun item later => stops item → ¬ accepts later) :
    scan stops accepts items = scan (fun _ => false) accepts items := by
  induction items with
  | nil => rfl
  | cons item rest ih =>
      obtain ⟨first, later⟩ := List.pairwise_cons.mp behind
      obtain ⟨alone, others⟩ := List.forall_mem_cons.mp here
      rw [scan, scan, if_neg Bool.false_ne_true]
      split_ifs with stopped accepted accepted
      · exact absurd accepted (alone stopped)
      · have none : rest.filter accepts = [] :=
          List.filter_eq_nil_iff.mpr fun later member => first later member stopped
        have all : rest.filter (fun later => !accepts later) = rest :=
          List.filter_eq_self.mpr fun later member => by
            rw [Bool.not_eq_true', Bool.eq_false_iff]
            exact first later member stopped
        rw [scan_endless, none, all]
      · rw [ih others later]
      · rw [ih others later]

end Scan

section Groups
variable (stops accepts : Item → Item → Bool)

/-- Each item that is left makes a group of those it accepts among the rest. -/
def groups : List Item → List (List Item)
  | [] => []
  | seed :: rest =>
      (seed :: (scan (stops seed) (accepts seed) rest).1) ::
        groups (scan (stops seed) (accepts seed) rest).2
  termination_by items => items.length
  decreasing_by
    exact Nat.lt_succ_of_le (scan_left_sublist _ _ rest).length_le

theorem groups_nil : groups stops accepts ([] : List Item) = [] := by
  rw [groups]

theorem groups_cons (seed : Item) (rest : List Item) :
    groups stops accepts (seed :: rest) =
      (seed :: (scan (stops seed) (accepts seed) rest).1) ::
        groups stops accepts (scan (stops seed) (accepts seed) rest).2 := by
  rw [groups]

theorem groups_induction {motive : List Item → Prop} (nil : motive [])
    (cons : ∀ seed rest, motive (scan (stops seed) (accepts seed) rest).2 → motive (seed :: rest))
    (items : List Item) : motive items := by
  induction size : items.length using Nat.strong_induction_on generalizing items with
  | h size ih =>
      cases items with
      | nil => exact nil
      | cons seed rest =>
          have shorter := (scan_left_sublist (stops seed) (accepts seed) rest).length_le
          rw [List.length_cons] at size
          exact cons seed rest (ih _ (by omega) _ rfl)

theorem groups_perm (items : List Item) : (groups stops accepts items).flatten.Perm items := by
  induction items using groups_induction stops accepts with
  | nil => rw [groups_nil, List.flatten_nil]
  | cons seed rest ih =>
      rw [groups_cons, List.flatten_cons, List.cons_append]
      exact ((ih.append_left _).trans (scan_perm _ _ rest)).cons seed

theorem groups_form (items : List Item) (group : List Item)
    (member : group ∈ groups stops accepts items) :
    ∃ seed others, group = seed :: others ∧ group.Sublist items ∧
      ∀ other ∈ others, accepts seed other = true := by
  induction items using groups_induction stops accepts with
  | nil =>
      rw [groups_nil] at member
      cases member
  | cons seed rest ih =>
      rw [groups_cons] at member
      rcases List.mem_cons.mp member with rfl | later
      · exact ⟨seed, _, rfl, (scan_accepted_sublist _ _ rest).cons_cons seed,
          scan_accepts _ _ rest⟩
      · obtain ⟨first, others, rfl, inside, accepted⟩ := ih later
        exact ⟨first, others, rfl,
          (inside.trans (scan_left_sublist _ _ rest)).trans (List.sublist_cons_self seed rest),
          accepted⟩

end Groups

section Pairs
variable (stops accepts : Item → Item → Bool)

/-- Each item with those it accepts behind it. -/
def pairs : List Item → List (Item × Item)
  | [] => []
  | first :: rest =>
      (scan (stops first) (accepts first) rest).1.map (fun second => (first, second)) ++ pairs rest

theorem mem_pairs_endless (items : List Item) (first second : Item) :
    (first, second) ∈ pairs (fun _ _ => false) accepts items ↔
      [first, second].Sublist items ∧ accepts first second = true := by
  induction items with
  | nil => exact ⟨fun member => (List.not_mem_nil member).elim, fun both => by cases both.1⟩
  | cons item rest ih =>
      rw [pairs, scan_endless, List.mem_append, ih, List.mem_map]
      constructor
      · rintro (⟨other, member, same⟩ | ⟨inside, accepted⟩)
        · obtain ⟨inRest, accepted⟩ := List.mem_filter.mp member
          cases same
          exact ⟨(List.singleton_sublist.mpr inRest).cons_cons first, accepted⟩
        · exact ⟨inside.cons item, accepted⟩
      · rintro ⟨inside, accepted⟩
        cases inside with
        | cons _ inside => exact .inr ⟨inside, accepted⟩
        | cons_cons _ inside =>
            exact .inl ⟨second,
              List.mem_filter.mpr ⟨List.singleton_sublist.mp inside, accepted⟩, rfl⟩

theorem pairs_sound (items : List Item) (first second : Item)
    (member : (first, second) ∈ pairs stops accepts items) :
    [first, second].Sublist items ∧ accepts first second = true := by
  induction items with
  | nil => cases member
  | cons item rest ih =>
      rcases List.mem_append.mp member with here | there
      · obtain ⟨other, inside, made⟩ := List.mem_map.mp here
        cases made
        exact ⟨(List.singleton_sublist.mpr
          ((scan_accepted_sublist _ _ rest).subset inside)).cons_cons first,
          scan_accepts _ _ rest second inside⟩
      · obtain ⟨inside, accepted⟩ := ih there
        exact ⟨inside.cons item, accepted⟩

theorem pairs_nodup (items : List Item) (distinct : items.Nodup) :
    (pairs stops accepts items).Nodup := by
  induction items with
  | nil => exact .nil
  | cons item rest ih =>
      obtain ⟨absent, others⟩ := List.nodup_cons.mp distinct
      refine List.nodup_append.mpr ⟨?_, ih others, ?_⟩
      · refine List.Nodup.map (fun left right same => (Prod.mk.inj same).2) ?_
        exact (scan_accepted_sublist _ _ rest).nodup others
      · rintro pair here other there rfl
        obtain ⟨second, _, rfl⟩ := List.mem_map.mp here
        have inside := (pairs_sound stops accepts rest item second there).1
        exact absent (inside.subset List.mem_cons_self)

end Pairs

section Slack
variable {Time : Type v} [AddCommGroup Time] [LinearOrder Time] (key : Item → Time)

/-- No item is more than the slack ahead of one behind it. -/
def Misordered (slack : Time) (items : List Item) : Prop :=
  items.Pairwise fun earlier later => key earlier ≤ key later + slack

theorem Misordered.sublist {slack : Time} {items some : List Item}
    (misordered : Misordered key slack items) (inside : some.Sublist items) :
    Misordered key slack some :=
  List.Pairwise.sublist inside misordered

variable [IsOrderedAddMonoid Time]

theorem Misordered.widen {slack more : Time} {items : List Item}
    (misordered : Misordered key slack items) (wider : slack ≤ more) :
    Misordered key more items :=
  List.Pairwise.imp (fun near => near.trans (add_le_add_right wider _)) misordered

/-- Sorting by another key that is off by at most half of the slack is enough. -/
theorem misordered_of_sorted (other : Item → Time) (drift : Time) (items : List Item)
    (sorted : items.Pairwise fun earlier later => other earlier ≤ other later)
    (near : ∀ item ∈ items, |key item - other item| ≤ drift) :
    Misordered key (drift + drift) items := by
  refine List.Pairwise.imp_of_mem (fun {earlier later} first second ordered => ?_) sorted
  have above := (abs_le.mp (near earlier first)).2
  have below := (abs_le.mp (near later second)).1
  calc key earlier ≤ other earlier + drift := sub_le_iff_le_add'.mp above
    _ ≤ other later + drift := add_le_add_left ordered drift
    _ ≤ key later + drift + drift :=
        add_le_add_left (by rw [neg_le_sub_iff_le_add] at below; exact below) drift
    _ = key later + (drift + drift) := add_assoc _ _ _

variable (window slack : Time)

/-- The item is too far behind the first one. -/
def beyond (first item : Item) : Bool := decide (window + slack < key item - key first)

theorem beyond_not_near (first item later : Item) (stopped : beyond key window slack first item)
    (ordered : key item ≤ key later + slack) : ¬ |key first - key later| ≤ window := by
  intro near
  have far := of_decide_eq_true stopped
  have ahead : key later - key first ≤ window := by
    rw [abs_sub_comm] at near
    exact (abs_le.mp near).2
  have reached : key item - key first ≤ window + slack := by
    calc key item - key first ≤ key later + slack - key first := sub_le_sub_right ordered _
      _ = key later - key first + slack := by abel
      _ ≤ window + slack := add_le_add_left ahead slack
  exact absurd far (not_lt.mpr reached)

variable (accepts : Item → Item → Bool)
variable (near : ∀ first second, accepts first second = true → |key first - key second| ≤ window)
variable (positive : 0 ≤ slack)
include near positive

theorem window_scan (first : Item) (items : List Item) (misordered : Misordered key slack items) :
    scan (beyond key window slack first) (accepts first) items =
      scan (fun _ => false) (accepts first) items := by
  refine scan_harmless _ _ items (fun item _ stopped accepted => ?_) ?_
  · exact beyond_not_near key window slack first item item stopped
      (le_add_of_nonneg_right positive) (near first item accepted)
  · exact misordered.imp fun ordered stopped accepted =>
      beyond_not_near key window slack first _ _ stopped ordered (near first _ accepted)

/-- On a list sorted up to the slack, stopping early does not change the groups. -/
theorem window_groups (items : List Item) (misordered : Misordered key slack items) :
    groups (beyond key window slack) accepts items = groups (fun _ _ => false) accepts items := by
  induction items using groups_induction (fun _ _ => false) accepts with
  | nil => rw [groups_nil, groups_nil]
  | cons seed rest ih =>
      have behind := misordered.sublist key (List.sublist_cons_self seed rest)
      rw [groups_cons, groups_cons,
        window_scan key window slack accepts near positive seed rest behind,
        ih (behind.sublist key (scan_left_sublist _ _ rest))]

theorem window_pairs (items : List Item) (misordered : Misordered key slack items) :
    pairs (beyond key window slack) accepts items = pairs (fun _ _ => false) accepts items := by
  induction items with
  | nil => rfl
  | cons first rest ih =>
      have behind := misordered.sublist key (List.sublist_cons_self first rest)
      rw [pairs, pairs, window_scan key window slack accepts near positive first rest behind,
        ih behind]

omit positive in
/-- Members of two groups are in order up to the slack and two windows: the seeds
are in order up to the slack. -/
theorem groups_misordered (stops : Item → Item → Bool) (wide : 0 ≤ window) (items : List Item)
    (misordered : Misordered key slack items) :
    (groups stops accepts items).Pairwise fun left right =>
      ∀ first ∈ left, ∀ second ∈ right, key first ≤ key second + (slack + (window + window)) := by
  have reach (seed : Item) (others : List Item)
      (accepted : ∀ other ∈ others, accepts seed other = true) (member : Item)
      (inside : member ∈ seed :: others) : |key seed - key member| ≤ window := by
    rcases List.mem_cons.mp inside with rfl | other
    · rw [sub_self, abs_zero]
      exact wide
    · exact near seed member (accepted member other)
  induction items using groups_induction stops accepts with
  | nil =>
      rw [groups_nil]
      exact .nil
  | cons seed rest ih =>
      obtain ⟨ahead, behind⟩ := List.pairwise_cons.mp misordered
      have left := scan_left_sublist (stops seed) (accepts seed) rest
      rw [groups_cons]
      refine List.pairwise_cons.mpr ⟨?_, ih (Misordered.sublist key behind left)⟩
      intro group listed first inFirst second inSecond
      obtain ⟨seed', others, rfl, inside, accepted⟩ := groups_form _ _ _ group listed
      have before := (abs_le.mp (reach seed _ (scan_accepts _ _ rest) first inFirst)).1
      have after := (abs_le.mp (reach seed' others accepted second inSecond)).2
      have seeds := ahead seed' (left.subset (inside.subset List.mem_cons_self))
      rw [neg_le_sub_iff_le_add] at before
      calc key first ≤ key seed + window := before
        _ ≤ key seed' + slack + window := add_le_add_left seeds window
        _ ≤ key second + window + slack + window :=
            add_le_add_left (add_le_add_left (sub_le_iff_le_add'.mp after) slack) window
        _ = key second + (slack + (window + window)) := by abel

end Slack

end GramsTof.WindowScan
