import GramsTof.CommandCodec
import GramsTof.InjectiveFold

/-!
What `computeCRC16_CCITT_8408` detects. A turn of its bit loop is linear over
exclusive or and loses nothing, so the state after a byte determines the state
before it; and the image of a byte under eight turns is never a byte again, so
two bytes in a row determine each other.
-/

namespace GramsTof.CrcBurst

open ByteWords CommandCodec InjectiveFold

theorem low_bit (word : UInt16) : word &&& 1 ≠ 0 ↔ word.toNat % 2 = 1 := by
  rw [ne_eq, ← UInt16.toNat_inj]
  simp [Nat.and_one_is_mod]

theorem low_bit_xor (left right : UInt16) :
    (left ^^^ right) &&& 1 ≠ 0 ↔ ¬ (left &&& 1 ≠ 0 ↔ right &&& 1 ≠ 0) := by
  have bits := @Nat.testBit_xor left.toNat right.toNat 0
  simp only [Nat.testBit_zero] at bits
  rw [low_bit, low_bit, low_bit, UInt16.toNat_xor]
  grind

theorem xor_cancel (left right poly : UInt16) :
    (left ^^^ poly) ^^^ (right ^^^ poly) = left ^^^ right := by
  calc (left ^^^ poly) ^^^ (right ^^^ poly)
      = (left ^^^ right) ^^^ (poly ^^^ poly) := by ac_rfl
    _ = left ^^^ right := by rw [UInt16.xor_self, UInt16.xor_zero]

theorem crc_bit_xor (left right : UInt16) :
    crcBit (left ^^^ right) = crcBit left ^^^ crcBit right := by
  have odd := low_bit_xor left right
  unfold crcBit
  rw [UInt16.shiftRight_xor]
  by_cases leftOdd : left &&& 1 ≠ 0
  · by_cases rightOdd : right &&& 1 ≠ 0
    · rw [if_neg (by tauto), if_pos leftOdd, if_pos rightOdd, xor_cancel]
    · rw [if_pos (by tauto), if_pos leftOdd, if_neg rightOdd]
      ac_rfl
  · by_cases rightOdd : right &&& 1 ≠ 0
    · rw [if_pos (by tauto), if_neg leftOdd, if_pos rightOdd]
      ac_rfl
    · rw [if_neg (by tauto), if_neg leftOdd, if_neg rightOdd]

/-- The polynomial has its top bit set, a shifted word has not. -/
theorem crc_bit_zero (word : UInt16) (zero : crcBit word = 0) : word = 0 := by
  have bound := word.toNat_lt
  have shifted : (word >>> 1).toNat = word.toNat / 2 := by simp [Nat.shiftRight_eq_div_pow]
  unfold crcBit at zero
  split_ifs at zero with odd
  · -- an odd word: the shifted half would be the polynomial
    have polynomial := congrArg UInt16.toNat (UInt16.xor_eq_zero_iff.mp zero)
    rw [shifted] at polynomial
    change _ = 0x8408 at polynomial
    omega
  · have even := mt (low_bit word).mpr odd
    have nothing := congrArg UInt16.toNat zero
    rw [shifted] at nothing
    change _ = 0 at nothing
    apply UInt16.toNat_inj.mp
    change _ = 0
    omega

theorem crc_bit_injective : Function.Injective crcBit := by
  intro left right same
  apply UInt16.xor_eq_zero_iff.mp
  apply crc_bit_zero
  rw [crc_bit_xor, same, UInt16.xor_self]

theorem crc_bits_xor (count : Nat) (left right : UInt16) :
    crcBit^[count] (left ^^^ right) = crcBit^[count] left ^^^ crcBit^[count] right := by
  induction count generalizing left right with
  | zero => rfl
  | succ count ih => rw [Function.iterate_succ_apply, crc_bit_xor, ih]; rfl

theorem crc_byte_keeps : Keeps crcByte := by
  intro byte left right same
  exact (UInt16.xor_left_inj _).mp (crc_bit_injective.iterate 8 same)

theorem byte_injective (left right : UInt8) (same : left.toUInt16 = right.toUInt16) :
    left = right := by
  have numbers := congrArg UInt16.toNat same
  exact UInt8.toNat_inj.mp numbers

/-- Eight turns take a byte other than 0 out of the low byte. -/
theorem byte_leaves : ∀ byte < 256, byte ≠ 0 → 256 ≤ (crcBit^[8] (UInt16.ofNat byte)).toNat := by
  decide +kernel

theorem byte_image (byte other : UInt8) (image : crcBit^[8] byte.toUInt16 = other.toUInt16) :
    byte = 0 := by
  by_contra some
  have bound := other.toNat_lt
  have leaves := byte_leaves byte.toNat byte.toNat_lt fun zero =>
    some (UInt8.toNat_inj.mp zero)
  rw [UInt16.ofNat_uInt8ToNat, image, UInt8.toNat_toUInt16] at leaves
  omega

/-- Two bytes in a row are determined by the states around them. -/
theorem byte_pair (crc : UInt16) (first second other another : UInt8)
    (same : crcByte (crcByte crc first) second = crcByte (crcByte crc other) another) :
    first = other ∧ second = another := by
  have between := crc_bit_injective.iterate 8 same
  -- the state before the second byte cancels, by linearity
  have split : crcBit^[8] (first ^^^ other).toUInt16 = (second ^^^ another).toUInt16 := by
    have moved : crcByte crc first ^^^ crcByte crc other =
        second.toUInt16 ^^^ another.toUInt16 := by
      apply UInt16.xor_eq_zero_iff.mp
      calc _ = (crcByte crc first ^^^ second.toUInt16) ^^^
            (crcByte crc other ^^^ another.toUInt16) := by ac_rfl
        _ = 0 := UInt16.xor_eq_zero_iff.mpr between
    rw [UInt8.toUInt16_xor, UInt8.toUInt16_xor, ← moved, crcByte, crcByte, ← crc_bits_xor]
    congr 1
    rw [UInt16.xor_comm crc, UInt16.xor_comm crc, xor_cancel]
  have firstSame : first = other := UInt8.xor_eq_zero_iff.mp (byte_image _ _ split)
  subst firstSame
  exact ⟨rfl, byte_injective _ _ ((UInt16.xor_right_inj _).mp between)⟩

theorem crc_byte_separates : Separates crcByte 2 := by
  intro crc left right length short same
  match left, right, length, short with
  | [], [], _, _ => rfl
  | [first], [other], _, _ =>
      have between := crc_bit_injective.iterate 8 same
      rw [byte_injective _ _ ((UInt16.xor_right_inj _).mp between)]
  | [first, second], [other, another], _, _ =>
      obtain ⟨rfl, rfl⟩ := byte_pair crc first second other another same
      rfl

/-- Strings of one length that differ inside a window of two bytes have
different CRCs. -/
theorem crc16_differs {start : Nat} {left right : List UInt8}
    (within : DifferWithin start 2 left right) (differ : left ≠ right) :
    crc16 left ≠ crc16 right :=
  fold_differs crcByte crc_byte_keeps crc_byte_separates within differ 0

theorem compute_crc_whole (data : List UInt8) :
    computeCRC16CCITT8408 data data.length = .ok (crc16 data) := by
  rw [compute_crc_inside data _ (Nat.le_refl _), List.take_length]

/-- A burst inside two adjacent bytes is detected, wherever it stands and
however long the strings are. -/
theorem crc_detects_burst (left right : List UInt8) (start : Nat)
    (length : left.length = right.length) (differ : left ≠ right)
    (burst : ∀ i, i ≠ start → i ≠ start + 1 → left[i]? = right[i]?) :
    ∃ leftCRC rightCRC, computeCRC16CCITT8408 left left.length = .ok leftCRC ∧
      computeCRC16CCITT8408 right right.length = .ok rightCRC ∧ leftCRC ≠ rightCRC := by
  have within : DifferWithin start 2 left right :=
    ⟨length, fun i outside => burst i (by omega) (by omega)⟩
  exact ⟨_, _, compute_crc_whole left, compute_crc_whole right, crc16_differs within differ⟩

theorem crc_detects_burst_argc :
    ∃ leftCRC rightCRC,
      computeCRC16CCITT8408 [0xEB, 0x90, 0x5B, 0x6A, 0x50, 0x10, 0, 0] 8 = .ok leftCRC ∧
      computeCRC16CCITT8408 [0xEB, 0x90, 0x5B, 0x6A, 0x50, 0x10, 0x84, 0x08] 8 = .ok rightCRC ∧
      leftCRC ≠ rightCRC := by
  refine crc_detects_burst [0xEB, 0x90, 0x5B, 0x6A, 0x50, 0x10, 0, 0]
    [0xEB, 0x90, 0x5B, 0x6A, 0x50, 0x10, 0x84, 0x08] 6 rfl (by decide) ?_
  intro i first second
  match i with
  | 0 | 1 | 2 | 3 | 4 | 5 => rfl
  | 6 => exact absurd rfl first
  | 7 => exact absurd rfl second
  | _ + 8 => rfl

end GramsTof.CrcBurst
