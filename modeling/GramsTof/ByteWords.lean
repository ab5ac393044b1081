import Mathlib.Tactic

/-!
Checked reads of a byte vector and big-endian words. A read outside the
vector is an explicit failure, never a default value, so that "no byte beyond
the end is read" is a statement about a result. Nothing here names a wire
format.
-/

namespace GramsTof.ByteWords

universe u v
variable {Value : Type u} {Result : Type v}

structure OutOfRange where
  index : Nat
  size : Nat
  deriving DecidableEq, Repr

abbrev Checked (Result : Type v) := Except OutOfRange Result

instance decidableEqChecked [DecidableEq Result] : DecidableEq (Checked Result)
  | .ok left, .ok right => decidable_of_iff (left = right) ⟨congrArg Except.ok, Except.ok.inj⟩
  | .error left, .error right =>
      decidable_of_iff (left = right) ⟨congrArg Except.error, Except.error.inj⟩
  | .ok _, .error _ => isFalse fun same => nomatch same
  | .error _, .ok _ => isFalse fun same => nomatch same

def load (values : List Value) (index : Nat) : Checked Value :=
  match values[index]? with
  | some value => .ok value
  | none => .error ⟨index, values.length⟩

theorem load_inside (values : List Value) (index : Nat) (inside : index < values.length) :
    load values index = .ok values[index] := by
  simp [load, inside]

theorem load_outside (values : List Value) (index : Nat) (outside : values.length ≤ index) :
    load values index = .error ⟨index, values.length⟩ := by
  simp [load, List.getElem?_eq_none outside]

@[simp] theorem ok_bind {Next : Type v} (value : Result) (next : Result → Checked Next) :
    (Except.ok value >>= next) = next value := rfl

@[simp] theorem error_bind {Next : Type v} (missed : OutOfRange)
    (next : Result → Checked Next) : (Except.error missed >>= next) = .error missed := rfl

@[simp] theorem pure_ok (value : Result) : (pure value : Checked Result) = .ok value := rfl

theorem mask_byte (n : Nat) : n &&& 255 = n % 256 :=
  Nat.and_two_pow_sub_one_eq_mod n 8

theorem or_shifted (bits high low : Nat) (fits : low < 2 ^ bits) :
    high * 2 ^ bits ||| low = high * 2 ^ bits + low := by
  have joined := Nat.shiftLeft_add_eq_or_of_lt fits high
  rw [Nat.shiftLeft_eq] at joined
  exact joined.symm

def join16 (high low : UInt8) : UInt16 :=
  (high.toUInt16 <<< 8) ||| low.toUInt16

def split16 (word : UInt16) : List UInt8 :=
  [((word >>> 8) &&& 0xFF).toUInt8, (word &&& 0xFF).toUInt8]

@[simp] theorem split16_length (word : UInt16) : (split16 word).length = 2 := rfl

theorem join16_toNat (high low : UInt8) :
    (join16 high low).toNat = high.toNat * 256 + low.toNat := by
  have highBound := high.toNat_lt
  have lowBound := low.toNat_lt
  have joined := or_shifted 8 high.toNat low.toNat (by omega)
  simp only [join16, UInt16.toNat_or, UInt16.toNat_shiftLeft, UInt8.toNat_toUInt16,
    Nat.shiftLeft_eq, UInt16.toNat_ofNat]
  norm_num at joined highBound ⊢
  rw [Nat.mod_eq_of_lt (by omega), joined]

theorem high_byte_toNat (word : UInt16) :
    ((word >>> 8) &&& 0xFF).toUInt8.toNat = word.toNat / 256 := by
  have bound := word.toNat_lt
  simp [Nat.shiftRight_eq_div_pow, mask_byte]
  omega

theorem low_byte_toNat (word : UInt16) : (word &&& 0xFF).toUInt8.toNat = word.toNat % 256 := by
  simp [mask_byte]

theorem join16_split (word : UInt16) :
    join16 ((word >>> 8) &&& 0xFF).toUInt8 (word &&& 0xFF).toUInt8 = word := by
  apply UInt16.toNat_inj.mp
  rw [join16_toNat, high_byte_toNat, low_byte_toNat]
  omega

theorem split16_join (high low : UInt8) : split16 (join16 high low) = [high, low] := by
  have highBound := high.toNat_lt
  have lowBound := low.toNat_lt
  have highSame : ((join16 high low >>> 8) &&& 0xFF).toUInt8 = high := by
    apply UInt8.toNat_inj.mp
    rw [high_byte_toNat, join16_toNat]
    omega
  have lowSame : (join16 high low &&& 0xFF).toUInt8 = low := by
    apply UInt8.toNat_inj.mp
    rw [low_byte_toNat, join16_toNat]
    omega
  simp [split16, highSame, lowSame]

def join32 (first second third fourth : UInt8) : UInt32 :=
  (first.toUInt32 <<< 24) ||| (second.toUInt32 <<< 16) ||| (third.toUInt32 <<< 8) |||
    fourth.toUInt32

def split32 (word : UInt32) : List UInt8 :=
  [((word >>> 24) &&& 0xFF).toUInt8, ((word >>> 16) &&& 0xFF).toUInt8,
    ((word >>> 8) &&& 0xFF).toUInt8, (word &&& 0xFF).toUInt8]

@[simp] theorem split32_length (word : UInt32) : (split32 word).length = 4 := rfl

theorem join32_toNat (first second third fourth : UInt8) :
    (join32 first second third fourth).toNat =
      ((first.toNat * 256 + second.toNat) * 256 + third.toNat) * 256 + fourth.toNat := by
  have firstBound := first.toNat_lt
  have secondBound := second.toNat_lt
  have thirdBound := third.toNat_lt
  have fourthBound := fourth.toNat_lt
  have two := or_shifted 24 first.toNat (second.toNat * 2 ^ 16) (by omega)
  have three := or_shifted 16 (first.toNat * 2 ^ 8 + second.toNat) (third.toNat * 2 ^ 8) (by omega)
  have four := or_shifted 8 ((first.toNat * 2 ^ 8 + second.toNat) * 2 ^ 8 + third.toNat)
    fourth.toNat (by omega)
  simp [join32, Nat.shiftLeft_eq] at two three four ⊢
  rw [Nat.mod_eq_of_lt (by omega), Nat.mod_eq_of_lt (by omega), Nat.mod_eq_of_lt (by omega), two,
    show first.toNat * 16777216 + second.toNat * 65536 =
      (first.toNat * 256 + second.toNat) * 65536 by ring, three,
    show (first.toNat * 256 + second.toNat) * 65536 + third.toNat * 256 =
      ((first.toNat * 256 + second.toNat) * 256 + third.toNat) * 256 by ring, four]

theorem byte_toNat (word shift : UInt32) (fits : shift.toNat < 32) :
    ((word >>> shift) &&& 0xFF).toUInt8.toNat = word.toNat / 2 ^ shift.toNat % 256 := by
  have bound := word.toNat_lt
  simp [Nat.shiftRight_eq_div_pow, mask_byte, Nat.mod_eq_of_lt fits]

theorem split32_toNat (word : UInt32) :
    ((word >>> 24) &&& 0xFF).toUInt8.toNat = word.toNat / 16777216 ∧
    ((word >>> 16) &&& 0xFF).toUInt8.toNat = word.toNat / 65536 % 256 ∧
    ((word >>> 8) &&& 0xFF).toUInt8.toNat = word.toNat / 256 % 256 ∧
    (word &&& 0xFF).toUInt8.toNat = word.toNat % 256 := by
  have bound := word.toNat_lt
  have top : ((word >>> 24) &&& 0xFF).toUInt8.toNat = word.toNat / 16777216 % 256 :=
    byte_toNat word 24 (by decide)
  refine ⟨by omega, byte_toNat word 16 (by decide), byte_toNat word 8 (by decide), ?_⟩
  simp [mask_byte]

theorem join32_split (word : UInt32) :
    join32 ((word >>> 24) &&& 0xFF).toUInt8 ((word >>> 16) &&& 0xFF).toUInt8
      ((word >>> 8) &&& 0xFF).toUInt8 (word &&& 0xFF).toUInt8 = word := by
  obtain ⟨first, second, third, fourth⟩ := split32_toNat word
  apply UInt32.toNat_inj.mp
  rw [join32_toNat, first, second, third, fourth]
  omega

theorem split32_join (first second third fourth : UInt8) :
    split32 (join32 first second third fourth) = [first, second, third, fourth] := by
  have firstBound := first.toNat_lt
  have secondBound := second.toNat_lt
  have thirdBound := third.toNat_lt
  have fourthBound := fourth.toNat_lt
  obtain ⟨one, two, three, four⟩ := split32_toNat (join32 first second third fourth)
  rw [join32_toNat] at one two three four
  simp only [split32, List.cons.injEq, and_true, ← UInt8.toNat_inj, one, two, three, four]
  omega

/-- A byte cut out of a signed word by an arithmetic shift and a mask is the
byte of its two's complement representation. -/
theorem signed_bytes (word : Int32) :
    [((word >>> 24) &&& 0xFF).toInt8.toUInt8, ((word >>> 16) &&& 0xFF).toInt8.toUInt8,
      ((word >>> 8) &&& 0xFF).toInt8.toUInt8, (word &&& 0xFF).toInt8.toUInt8] =
      split32 word.toUInt32 := by
  simp only [split32, List.cons.injEq, and_true, ← UInt8.toBitVec_inj]
  refine ⟨?_, ?_, ?_, ?_⟩ <;> apply BitVec.eq_of_getElem_eq <;> intro bit inside
  · simp [BitVec.getElem_signExtend, BitVec.getElem_sshiftRight,
      show bit < 32 by omega, show 24 + bit < 32 by omega]
  · simp [BitVec.getElem_signExtend, BitVec.getElem_sshiftRight,
      show bit < 32 by omega, show 16 + bit < 32 by omega]
  · simp [BitVec.getElem_signExtend, BitVec.getElem_sshiftRight,
      show bit < 32 by omega, show 8 + bit < 32 by omega]
  · simp [BitVec.getElem_signExtend, show bit < 32 by omega]

end GramsTof.ByteWords
