import Mathlib.Data.List.GetD
import Mathlib.Tactic

/-!
`read_mem_ctrl` and `write_mem_ctrl` of the DAQ connection. `sendCommand` is an
argument; `none` is an exception or a failed `assert`. The number of bytes of a
word is the exact quotient, not that of two floating point numbers.
-/

namespace GramsTof.MemoryControl

/-- `int(math.ceil(word_width / 8.0))` -/
def nBytesPerWord (wordWidth : Nat) : Nat := (wordWidth + 7) / 8

/-- `(word >> (8*i)) & 0xFF` -/
def byteOf (word i : Nat) : UInt8 := UInt8.ofNat (word >>> (8 * i))

/-- The command byte, the number of words less one, and the address. -/
def commandHead (code : UInt8) (nWords baseAddress : Nat) : List UInt8 :=
  [code, UInt8.ofInt (nWords - 1 : Int), UInt8.ofInt ((nWords - 1 : Int) >>> (8 : Nat)),
    UInt8.ofNat baseAddress, UInt8.ofNat (baseAddress >>> 8)]

def dataBytes (nBytes : Nat) (data : List Nat) : List UInt8 :=
  (List.range nBytes).flatMap fun i => data.map fun word => byteOf word i

def writeCommand (wordWidth baseAddress : Nat) (data : List Nat) : List UInt8 :=
  commandHead 0x01 data.length baseAddress ++ dataBytes (nBytesPerWord wordWidth) data

def writeMemCtrl (sendCommand : List UInt8 → Option (List UInt8)) (wordWidth baseAddress : Nat)
    (data : List Nat) : Option Unit := do
  let reply ← sendCommand (writeCommand wordWidth baseAddress data)
  guard (reply.length = 1)
  guard (reply.headD 0 = 0x00)

def value (nBytes : Nat) (byte : Nat → UInt8) : Nat :=
  (List.range nBytes).foldl (fun v i => v + (byte i).toNat <<< (8 * i)) 0

def wordsOf (nBytes nWords : Nat) (reply : List UInt8) : List Nat :=
  (List.range nWords).map fun j => value nBytes fun i => reply.getD (j * nBytes + i) 0

def readMemCtrl (sendCommand : List UInt8 → Option (List UInt8)) (wordWidth baseAddress : Nat)
    (nWords : Nat) : Option (List Nat) := do
  let reply ← sendCommand (commandHead 0x00 nWords baseAddress)
  guard (reply.length = 2 + nWords * nBytesPerWord wordWidth)
  return wordsOf (nBytesPerWord wordWidth) nWords reply.tail.dropLast

/-- The payload of the write, in a reply to the read, is read as the words. -/
def RoundTrip (wordWidth baseAddress : Nat) (data : List Nat) : Prop :=
  ∀ first last, readMemCtrl
      (fun _ => some (first :: ((writeCommand wordWidth baseAddress data).drop 5 ++ [last])))
      wordWidth baseAddress data.length =
    some data

/-- Taken word by word, or place by place, the bytes are the same sequence. -/
def OrderFree (nBytes : Nat) (data : List Nat) : Prop :=
  ∀ k < data.length * nBytes,
    byteOf (data.getD (k / nBytes) 0) (k % nBytes) =
      byteOf (data.getD (k % data.length) 0) (k / data.length)

/-! The bytes of a number -/

theorem byteOf_toNat (word i : Nat) : (byteOf word i).toNat = word / 256 ^ i % 256 := by
  rw [byteOf, UInt8.toNat_ofNat', Nat.shiftRight_eq_div_pow, Nat.pow_mul]

theorem value_succ (nBytes : Nat) (byte : Nat → UInt8) :
    value (nBytes + 1) byte = value nBytes byte + (byte nBytes).toNat * 256 ^ nBytes := by
  rw [value, List.range_succ, List.foldl_append, List.foldl_cons, List.foldl_nil,
    Nat.shiftLeft_eq, Nat.pow_mul]
  rfl

theorem value_lt (nBytes : Nat) (byte : Nat → UInt8) : value nBytes byte < 256 ^ nBytes := by
  induction nBytes with
  | zero => exact Nat.one_pos
  | succ nBytes ih =>
      have small : (byte nBytes).toNat ≤ 255 := Nat.le_of_lt_succ (byte nBytes).toNat_lt
      have scaled := Nat.mul_le_mul_right (256 ^ nBytes) small
      rw [value_succ, Nat.pow_succ]
      omega

theorem value_byteOf (word nBytes : Nat) : value nBytes (byteOf word) = word % 256 ^ nBytes := by
  induction nBytes with
  | zero => rw [Nat.pow_zero, Nat.mod_one]; rfl
  | succ nBytes ih =>
      rw [value_succ, ih, byteOf_toNat, Nat.pow_succ, Nat.mod_mul, Nat.mul_comm (256 ^ nBytes)]

theorem value_inj (nBytes : Nat) (left right : Nat → UInt8) :
    value nBytes left = value nBytes right ↔ ∀ i < nBytes, left i = right i := by
  induction nBytes with
  | zero => exact iff_of_true rfl fun i inside => absurd inside (Nat.not_lt_zero i)
  | succ nBytes ih =>
      rw [Nat.forall_lt_succ_right, ← ih, value_succ, value_succ]
      constructor
      · intro same
        have low := congrArg (· % 256 ^ nBytes) same
        have high := congrArg (· / 256 ^ nBytes) same
        rw [Nat.add_mul_mod_self_right, Nat.add_mul_mod_self_right,
          Nat.mod_eq_of_lt (value_lt _ _), Nat.mod_eq_of_lt (value_lt _ _)] at low
        have positive : 0 < 256 ^ nBytes := Nat.pow_pos (by omega)
        rw [Nat.add_mul_div_right _ _ positive, Nat.add_mul_div_right _ _ positive,
          Nat.div_eq_of_lt (value_lt _ _), Nat.div_eq_of_lt (value_lt _ _), Nat.zero_add,
          Nat.zero_add] at high
        exact ⟨low, UInt8.toNat_inj.mp high⟩
      · rintro ⟨low, high⟩
        rw [low, high]

/-! The payload -/

theorem dataBytes_length (nBytes : Nat) (data : List Nat) :
    (dataBytes nBytes data).length = nBytes * data.length := by
  rw [dataBytes, List.length_flatMap]
  simp only [List.length_map, List.map_const', List.sum_replicate, List.length_range, smul_eq_mul]

theorem dataBytes_succ (nBytes : Nat) (data : List Nat) :
    dataBytes (nBytes + 1) data = dataBytes nBytes data ++ data.map fun word => byteOf word nBytes := by
  rw [dataBytes, List.range_succ, List.flatMap_append, List.flatMap_singleton]
  rfl

theorem dataBytes_at (nBytes : Nat) (data : List Nat) (k : Nat) (inside : k < nBytes * data.length) :
    (dataBytes nBytes data).getD k 0 =
      byteOf (data.getD (k % data.length) 0) (k / data.length) := by
  induction nBytes with
  | zero => rw [Nat.zero_mul] at inside; exact absurd inside (Nat.not_lt_zero k)
  | succ nBytes ih =>
      rw [dataBytes_succ]
      by_cases before : k < nBytes * data.length
      · rw [List.getD_append _ _ _ _ (by rw [dataBytes_length]; exact before)]
        exact ih before
      · obtain ⟨r, rfl⟩ := Nat.exists_eq_add_of_le (Nat.le_of_not_lt before)
        rw [Nat.succ_mul] at inside
        have last : r < data.length := by omega
        rw [List.getD_append_right _ _ _ _ (by rw [dataBytes_length]; omega), dataBytes_length,
          Nat.add_sub_cancel_left, Nat.mul_comm nBytes, Nat.mul_add_mod, Nat.mod_eq_of_lt last,
          Nat.mul_add_div (by omega), Nat.div_eq_of_lt last, Nat.add_zero,
          List.getD_eq_getElem _ _ (by rwa [List.length_map]), List.getD_eq_getElem _ _ last,
          List.getElem_map]

theorem fits_bytes (wordWidth word : Nat) (fits : word < 2 ^ wordWidth) :
    word < 256 ^ nBytesPerWord wordWidth := by
  have wide : wordWidth ≤ 8 * nBytesPerWord wordWidth := by
    unfold nBytesPerWord
    omega
  calc word < 2 ^ wordWidth := fits
    _ ≤ 2 ^ (8 * nBytesPerWord wordWidth) := Nat.pow_le_pow_right (by omega) wide
    _ = 256 ^ nBytesPerWord wordWidth := by rw [Nat.pow_mul]

/-- The reply is read as the words that stand in it one after the other. -/
theorem roundTrip_wordsOf (wordWidth baseAddress : Nat) (data : List Nat) :
    RoundTrip wordWidth baseAddress data ↔
      wordsOf (nBytesPerWord wordWidth) data.length
        (dataBytes (nBytesPerWord wordWidth) data) = data := by
  have payload : (writeCommand wordWidth baseAddress data).drop 5 =
      dataBytes (nBytesPerWord wordWidth) data := rfl
  have read : ∀ first last, readMemCtrl
      (fun _ => some (first :: (dataBytes (nBytesPerWord wordWidth) data ++ [last])))
      wordWidth baseAddress data.length =
        some (wordsOf (nBytesPerWord wordWidth) data.length
          (dataBytes (nBytesPerWord wordWidth) data)) := by
    intro first last
    have length : (first :: (dataBytes (nBytesPerWord wordWidth) data ++ [last])).length =
        2 + data.length * nBytesPerWord wordWidth := by
      rw [List.length_cons, List.length_append, dataBytes_length, Nat.mul_comm]
      exact Nat.add_comm _ 2
    rw [readMemCtrl, Option.bind_eq_bind, Option.bind_some, length, guard, if_pos rfl, List.tail_cons,
      List.dropLast_concat]
    rfl
  rw [RoundTrip, payload]
  simp only [read, Option.some.injEq]
  exact ⟨fun all => all 0 0, fun same _ _ => same⟩

theorem wordsOf_at (nBytes nWords j : Nat) (reply : List UInt8) (inside : j < nWords) :
    (wordsOf nBytes nWords reply).getD j 0 =
      value nBytes fun i => reply.getD (j * nBytes + i) 0 := by
  have length : j < (wordsOf nBytes nWords reply).length := by
    rwa [wordsOf, List.length_map, List.length_range]
  rw [List.getD_eq_getElem _ 0 length]
  simp only [wordsOf, List.getElem_map, List.getElem_range]

theorem wordsOf_eq (nBytes : Nat) (data : List Nat) (reply : List UInt8) :
    wordsOf nBytes data.length reply = data ↔
      ∀ j < data.length, value nBytes (fun i => reply.getD (j * nBytes + i) 0) = data.getD j 0 := by
  constructor
  · intro same j inside
    rw [← wordsOf_at nBytes data.length j reply inside, same]
  · intro each
    have length : (wordsOf nBytes data.length reply).length = data.length := by
      rw [wordsOf, List.length_map, List.length_range]
    apply List.ext_getElem length
    intro j there inside
    rw [← List.getD_eq_getElem _ 0 there, ← List.getD_eq_getElem _ 0 inside, ← each j inside]
    exact wordsOf_at nBytes data.length j reply inside

theorem places (nBytes nWords : Nat) (good : Nat → Nat → Nat → Prop) :
    (∀ j < nWords, ∀ i < nBytes, good (j * nBytes + i) j i) ↔
      ∀ k < nWords * nBytes, good k (k / nBytes) (k % nBytes) := by
  constructor
  · intro each k inside
    have positive : 0 < nBytes := by
      rcases Nat.eq_zero_or_pos nBytes with rfl | positive
      · exact absurd inside (Nat.not_lt_zero k)
      · exact positive
    have here := each (k / nBytes) (Nat.div_lt_of_lt_mul (by rwa [Nat.mul_comm])) (k % nBytes)
      (Nat.mod_lt _ positive)
    rwa [Nat.mul_comm, Nat.div_add_mod] at here
  · intro each j word i byte
    have inside : j * nBytes + i < nWords * nBytes := by
      calc j * nBytes + i < (j + 1) * nBytes := by rw [Nat.succ_mul]; omega
        _ ≤ nWords * nBytes := Nat.mul_le_mul_right _ word
    have here := each (j * nBytes + i) inside
    rw [Nat.mul_comm j, Nat.mul_add_div (by omega), Nat.mul_add_mod, Nat.div_eq_of_lt byte,
      Nat.mod_eq_of_lt byte, Nat.add_zero] at here
    rwa [Nat.mul_comm j]

theorem roundTrip_orderFree (wordWidth baseAddress : Nat) (data : List Nat)
    (fits : ∀ word ∈ data, word < 2 ^ wordWidth) :
    RoundTrip wordWidth baseAddress data ↔ OrderFree (nBytesPerWord wordWidth) data := by
  rw [roundTrip_wordsOf, wordsOf_eq, OrderFree,
    ← places _ _ fun k j i => byteOf (data.getD j 0) i =
      byteOf (data.getD (k % data.length) 0) (k / data.length)]
  refine forall₂_congr fun j word => ?_
  have bounded : data.getD j 0 < 256 ^ nBytesPerWord wordWidth := by
    rw [List.getD_eq_getElem _ _ word]
    exact fits_bytes _ _ (fits _ (List.getElem_mem word))
  have whole : data.getD j 0 = value (nBytesPerWord wordWidth) (byteOf (data.getD j 0)) := by
    rw [value_byteOf, Nat.mod_eq_of_lt bounded]
  conv_lhs => rw [whole]
  rw [value_inj]
  refine forall₂_congr fun i byte => ?_
  have inside : j * nBytesPerWord wordWidth + i < nBytesPerWord wordWidth * data.length := by
    calc j * nBytesPerWord wordWidth + i
        < (j + 1) * nBytesPerWord wordWidth := by rw [Nat.succ_mul]; omega
      _ ≤ data.length * nBytesPerWord wordWidth := Nat.mul_le_mul_right _ word
      _ = nBytesPerWord wordWidth * data.length := Nat.mul_comm _ _
  rw [dataBytes_at _ _ _ inside]
  exact eq_comm

theorem orderFree_narrow (nBytes : Nat) (data : List Nat) (narrow : nBytes ≤ 1) :
    OrderFree nBytes data := by
  intro k inside
  have one : nBytes = 1 := by
    rcases Nat.eq_zero_or_pos nBytes with rfl | positive
    · exact absurd inside (Nat.not_lt_zero k)
    · omega
  rw [one, Nat.mul_one] at inside
  rw [one, Nat.div_one, Nat.mod_one, Nat.mod_eq_of_lt inside, Nat.div_eq_of_lt inside]

theorem orderFree_single (nBytes : Nat) (data : List Nat) (single : data.length ≤ 1) :
    OrderFree nBytes data := by
  intro k inside
  have one : data.length = 1 := by
    rcases Nat.eq_zero_or_pos data.length with none | positive
    · rw [none, Nat.zero_mul] at inside
      exact absurd inside (Nat.not_lt_zero k)
    · omega
  rw [one, Nat.one_mul] at inside
  rw [one, Nat.div_one, Nat.mod_one, Nat.mod_eq_of_lt inside, Nat.div_eq_of_lt inside]

/-- Of two words, the second one 1, the lowest byte becomes the first one's second. -/
theorem second_moved (nBytes more : Nat) (wide : 2 ≤ nBytes) :
    ¬ OrderFree nBytes (0 :: 1 :: List.replicate more 0) := by
  intro free
  have second := free 1 (by rw [List.length_cons, List.length_cons, List.length_replicate]; nlinarith)
  rw [Nat.div_eq_of_lt wide, Nat.mod_eq_of_lt wide,
    Nat.mod_eq_of_lt (by rw [List.length_cons, List.length_cons]; omega),
    Nat.div_eq_of_lt (by rw [List.length_cons, List.length_cons]; omega)] at second
  change byteOf 0 1 = byteOf 1 0 at second
  exact absurd second (by decide)

/-- The round trip holds where the order of the bytes does not matter; for all words of
a width and a number, if they have one byte or are no more than one. -/
theorem memory_round_trip_iff (wordWidth baseAddress : Nat) :
    (∀ data : List Nat, (∀ word ∈ data, word < 2 ^ wordWidth) →
      (RoundTrip wordWidth baseAddress data ↔ OrderFree (nBytesPerWord wordWidth) data)) ∧
    ∀ nWords, (∀ data : List Nat, data.length = nWords → (∀ word ∈ data, word < 2 ^ wordWidth) →
        RoundTrip wordWidth baseAddress data) ↔ wordWidth ≤ 8 ∨ nWords ≤ 1 := by
  refine ⟨roundTrip_orderFree wordWidth baseAddress, fun nWords => ⟨fun all => ?_, ?_⟩⟩
  · by_contra wide
    rw [not_or, Nat.not_le, Nat.not_le] at wide
    have two : 2 ≤ nBytesPerWord wordWidth := by
      unfold nBytesPerWord
      omega
    have fits : ∀ word ∈ 0 :: 1 :: List.replicate (nWords - 2) 0, word < 2 ^ wordWidth := by
      intro word member
      have small : word ≤ 1 := by
        rcases List.mem_cons.mp member with rfl | member
        · exact Nat.zero_le 1
        · rcases List.mem_cons.mp member with rfl | member
          · exact Nat.le_refl 1
          · rw [List.eq_of_mem_replicate member]
            exact Nat.zero_le 1
      exact Nat.lt_of_le_of_lt small (Nat.one_lt_two_pow (by omega))
    have length : (0 :: 1 :: List.replicate (nWords - 2) 0).length = nWords := by
      rw [List.length_cons, List.length_cons, List.length_replicate]
      omega
    exact second_moved _ _ two ((roundTrip_orderFree _ _ _ fits).mp (all _ length fits))
  · rintro (narrow | single) data length fits
    · have one : nBytesPerWord wordWidth ≤ 1 := by
        unfold nBytesPerWord
        omega
      exact (roundTrip_orderFree _ _ _ fits).mpr (orderFree_narrow _ _ one)
    · rw [← length] at single
      exact (roundTrip_orderFree _ _ _ fits).mpr (orderFree_single _ _ single)

/-- Two words of 16 bits, 0 and 1, come back as 256 and 0. -/
theorem words_transposed : ¬ RoundTrip 16 0 [0, 1] := by
  intro same
  exact absurd (same 0 0) (by decide)

end GramsTof.MemoryControl
