import Mathlib.Data.List.Nodup
import Mathlib.Data.List.Lattice
import Mathlib.Data.Nat.Bitwise
import Mathlib.Tactic

/-!
A register of bits with named fields, whose places lie anywhere but not in one
another's. What is written to a field is what is read from it, and every other field
stays. Nothing here names the fields.
-/

namespace GramsTof.BitFields

/-! Numbers in bits, the highest first -/

def bitsOf (number width : Nat) : List Bool :=
  (List.range width).map fun i => number.testBit (width - 1 - i)

def numberOf : List Bool → Nat
  | [] => 0
  | bit :: rest => bit.toNat * 2 ^ rest.length + numberOf rest

@[simp] theorem bitsOf_length (number width : Nat) : (bitsOf number width).length = width := by
  simp [bitsOf]

theorem bitsOf_succ (number width : Nat) :
    bitsOf number (width + 1) = number.testBit width :: bitsOf number width := by
  rw [bitsOf, List.range_succ_eq_map, List.map_cons, List.map_map]
  refine congrArg _ (List.map_congr_left fun i _ => ?_)
  rw [Function.comp_apply]
  congr 1
  omega

theorem numberOf_bitsOf (number width : Nat) : numberOf (bitsOf number width) = number % 2 ^ width := by
  induction width with
  | zero => simp [bitsOf, numberOf, Nat.mod_one]
  | succ width ih =>
      rw [bitsOf_succ, numberOf, bitsOf_length, ih, Nat.mod_pow_succ, Nat.toNat_testBit, Nat.mul_comm,
        Nat.add_comm]

theorem numberOf_lt (bits : List Bool) : numberOf bits < 2 ^ bits.length := by
  induction bits with
  | nil => decide
  | cons bit rest ih =>
      rw [numberOf, List.length_cons, Nat.pow_succ]
      cases bit <;> simp <;> omega

theorem bitsOf_numberOf (bits : List Bool) : bitsOf (numberOf bits) bits.length = bits := by
  induction bits with
  | nil => rfl
  | cons bit rest ih =>
      have small := numberOf_lt rest
      have sum : numberOf (bit :: rest) = 2 ^ rest.length * bit.toNat + numberOf rest := by
        rw [numberOf, Nat.mul_comm]
      have top : (numberOf (bit :: rest)).testBit rest.length = bit := by
        rw [sum, Nat.testBit_two_pow_mul_add _ small, if_neg (Nat.lt_irrefl _), Nat.sub_self]
        cases bit <;> rfl
      have low : bitsOf (numberOf (bit :: rest)) rest.length = bitsOf (numberOf rest) rest.length := by
        refine List.map_congr_left fun i member => ?_
        have below : rest.length - 1 - i < rest.length := by
          have inside := List.mem_range.mp member
          omega
        rw [sum, Nat.testBit_two_pow_mul_add _ small, if_pos below]
      rw [List.length_cons, bitsOf_succ, top, low, ih]

/-! Places of a register -/

def write (places : List Nat) (bits register : List Bool) : List Bool :=
  (places.zip bits).foldl (fun register place => register.set place.1 place.2) register

def read (places : List Nat) (register : List Bool) : List Bool :=
  places.map fun place => register.getD place false

section Places
variable (places : List Nat) (bits register : List Bool)

@[simp] theorem write_length : (write places bits register).length = register.length := by
  induction places generalizing bits register with
  | nil => rfl
  | cons place rest ih =>
      cases bits with
      | nil => rfl
      | cons bit others => exact (ih others (register.set place bit)).trans List.length_set

theorem write_cons (place : Nat) (bit : Bool) :
    write (place :: places) (bit :: bits) register =
      write places bits (register.set place bit) := rfl

theorem write_outside (place : Nat) (outside : place ∉ places) :
    (write places bits register).getD place false = register.getD place false := by
  induction places generalizing bits register with
  | nil => rfl
  | cons first rest ih =>
      cases bits with
      | nil => rfl
      | cons bit others =>
          obtain ⟨apart, later⟩ := not_or.mp (mt List.mem_cons.mpr outside)
          rw [write_cons, ih others _ later, List.getD_eq_getElem?_getD, List.getD_eq_getElem?_getD,
            List.getElem?_set_ne (Ne.symm apart)]

theorem read_write (distinct : places.Nodup) (inside : ∀ place ∈ places, place < register.length)
    (enough : bits.length = places.length) : read places (write places bits register) = bits := by
  induction places generalizing bits register with
  | nil => exact (List.eq_nil_of_length_eq_zero enough).symm
  | cons first rest ih =>
      cases bits with
      | nil => cases enough
      | cons bit others =>
          obtain ⟨apart, distinct'⟩ := List.nodup_cons.mp distinct
          have fits : first < (register.set first bit).length := by
            rw [List.length_set]
            exact inside first List.mem_cons_self
          have later := ih others (register.set first bit) distinct'
            (fun place member => by
              rw [List.length_set]
              exact inside place (List.mem_cons_of_mem _ member)) (Nat.succ.inj enough)
          have head : (write rest others (register.set first bit)).getD first false = bit := by
            rw [write_outside rest others _ first apart, List.getD_eq_getElem _ _ fits,
              List.getElem_set_self]
          rw [write_cons, read, List.map_cons, head]
          exact congrArg _ later

theorem read_write_apart (others : List Nat) (apart : others.Disjoint places) :
    read others (write places bits register) = read others register :=
  List.map_congr_left fun place member => write_outside places bits register place (apart member)

end Places

/-! Fields -/

/-- The largest number that fits, in place of a larger one. -/
def clamp (value : Int) (width : Nat) : Nat := min value.toNat (2 ^ width - 1)

theorem clamp_lt (value : Int) (width : Nat) : clamp value width < 2 ^ width := by
  have power := Nat.two_pow_pos width
  rw [clamp]
  omega

/-- A fast test that the places below a bound differ; `taken` has a bit for each
place before. -/
def differ (size : Nat) : List Nat → Nat → Bool
  | [], _ => true
  | place :: rest, taken =>
      place < size && !taken.testBit place && differ size rest (taken ||| 2 ^ place)

theorem differ_sound (size : Nat) (places : List Nat) (taken : Nat)
    (passed : differ size places taken = true) :
    places.Nodup ∧ ∀ place ∈ places, place < size ∧ taken.testBit place = false := by
  induction places generalizing taken with
  | nil => exact ⟨List.nodup_nil, fun _ member => (by cases member)⟩
  | cons first rest ih =>
      rw [differ, Bool.and_eq_true, Bool.and_eq_true, decide_eq_true_iff, Bool.not_eq_true'] at passed
      obtain ⟨⟨inside, free⟩, later⟩ := passed
      obtain ⟨distinct, others⟩ := ih _ later
      refine ⟨List.nodup_cons.mpr ⟨fun again => ?_, distinct⟩, List.forall_mem_cons.mpr
        ⟨⟨inside, free⟩, fun place member => ?_⟩⟩
      · have taken' := (others first again).2
        rw [Nat.testBit_or, Nat.testBit_two_pow_self, Bool.or_true] at taken'
        cases taken'
      · obtain ⟨below, taken'⟩ := others place member
        rw [Nat.testBit_or, Bool.or_eq_false_iff] at taken'
        exact ⟨below, taken'.1⟩

universe u

/-- The fields of a register, no place in two of them. -/
structure Layout (Key : Type u) where
  size : Nat
  fields : List (Key × List Nat)
  inside : ∀ field ∈ fields, ∀ place ∈ field.2, place < size
  apart : (fields.flatMap Prod.snd).Nodup

def layoutOf {Key : Type u} (size : Nat) (fields : List (Key × List Nat))
    (passed : differ size (fields.flatMap Prod.snd) 0 = true) : Layout Key where
  size := size
  fields := fields
  inside := fun field member place among =>
    ((differ_sound size _ 0 passed).2 place (List.mem_flatMap.mpr ⟨field, member, among⟩)).1
  apart := (differ_sound size _ 0 passed).1

section Fields
variable {Key : Type u} [DecidableEq Key] (layout : Layout Key)

def Layout.places (key : Key) : Option (List Nat) := layout.fields.lookup key

def Layout.set (key : Key) (value : Int) (register : List Bool) : Option (List Bool) :=
  (layout.places key).map fun places =>
    write places (bitsOf (clamp value places.length) places.length) register

def Layout.get (key : Key) (register : List Bool) : Option Nat :=
  (layout.places key).map fun places => numberOf (read places register)

variable {layout} {key other : Key} {places : List Nat}

theorem Layout.places_mem (there : layout.places key = some places) :
    (key, places) ∈ layout.fields := by
  obtain ⟨before, after, split, _⟩ := List.lookup_eq_some_iff.mp there
  exact split ▸ List.mem_append_right before List.mem_cons_self

theorem Layout.places_distinct (there : layout.places key = some places) : places.Nodup :=
  (List.nodup_flatMap.mp layout.apart).1 (key, places) (places_mem there)

theorem Layout.places_apart {others : List Nat} (there : layout.places key = some places)
    (there' : layout.places other = some others) (differ : other ≠ key) :
    others.Disjoint places := by
  have disjoint := (List.nodup_flatMap.mp layout.apart).2
  have symmetric : Std.Symm (Function.onFun List.Disjoint (@Prod.snd Key (List Nat))) :=
    ⟨fun _ _ apart => List.Disjoint.symm apart⟩
  refine List.Pairwise.forall disjoint (places_mem there') (places_mem there) ?_
  intro same
  exact differ (congrArg Prod.fst same)

variable {value : Int} {register next : List Bool}

theorem Layout.set_length (written : layout.set key value register = some next) :
    next.length = register.length := by
  obtain ⟨places, _, rfl⟩ := Option.map_eq_some_iff.mp written
  exact write_length _ _ _

/-- A field holds what was set, as far as it fits. -/
theorem Layout.get_set (whole : register.length = layout.size)
    (written : layout.set key value register = some next) :
    layout.get key next = (layout.places key).map fun places => clamp value places.length := by
  obtain ⟨places, there, rfl⟩ := Option.map_eq_some_iff.mp written
  have inside : ∀ place ∈ places, place < register.length := fun place member =>
    whole ▸ layout.inside (key, places) (places_mem there) place member
  rw [Layout.get, there, Option.map_some, Option.map_some,
    read_write places _ register (places_distinct there) inside (bitsOf_length _ _),
    numberOf_bitsOf, Nat.mod_eq_of_lt (clamp_lt _ _)]

theorem Layout.get_set_other (differ : other ≠ key)
    (written : layout.set key value register = some next) :
    layout.get other next = layout.get other register := by
  obtain ⟨places, there, rfl⟩ := Option.map_eq_some_iff.mp written
  cases there' : layout.places other with
  | none =>
      rw [Layout.get, Layout.get, there']
      rfl
  | some others =>
      rw [Layout.get, Layout.get, there', Option.map_some, Option.map_some,
        read_write_apart places _ register others (places_apart there there' differ)]

variable (layout)

def Layout.setAll : List (Key × Int) → List Bool → Option (List Bool)
  | [], register => some register
  | (key, value) :: rest, register => (layout.set key value register).bind (setAll rest)

theorem Layout.set_all_append (first second : List (Key × Int)) (register : List Bool) :
    layout.setAll (first ++ second) register =
      (layout.setAll first register).bind (layout.setAll second) := by
  induction first generalizing register with
  | nil => rfl
  | cons setting rest ih =>
      rw [List.cons_append, Layout.setAll, Layout.setAll, Option.bind_assoc]
      exact congrArg _ (funext ih)

def lastSetting (settings : List (Key × Int)) (key : Key) : Option Int :=
  settings.reverse.lookup key

theorem last_setting_cons (setting : Key × Int) (rest : List (Key × Int)) (key : Key) :
    lastSetting (setting :: rest) key =
      (lastSetting rest key).or (if key = setting.1 then some setting.2 else none) := by
  obtain ⟨first, value⟩ := setting
  rw [lastSetting, List.reverse_cons, List.lookup_append, lastSetting, List.lookup_cons]
  by_cases same : key = first
  · rw [if_pos same, beq_iff_eq.mpr same]
  · rw [if_neg same, beq_false_of_ne same]
    rfl

variable {layout}

/-- Every field holds what was set last, and the others what they held. -/
theorem Layout.get_set_all (settings : List (Key × Int)) (whole : register.length = layout.size)
    (written : layout.setAll settings register = some next) (key : Key) :
    layout.get key next =
      match lastSetting settings key with
      | none => layout.get key register
      | some value => (layout.places key).map fun places => clamp value places.length := by
  induction settings generalizing register with
  | nil =>
      cases written
      rfl
  | cons setting rest ih =>
      obtain ⟨first, value⟩ := setting
      obtain ⟨middle, set, later⟩ := Option.bind_eq_some_iff.mp written
      have kept := ih ((set_length set).trans whole) later
      rw [kept, last_setting_cons]
      cases lastSetting rest key with
      | some last => rfl
      | none =>
          by_cases same : key = first
          · subst same
            rw [if_pos rfl]
            exact get_set whole set
          · rw [if_neg same]
            exact get_set_other same set

end Fields

end GramsTof.BitFields
