import GramsTof.ByteWords

/-!
The packet codec of `GRAMS_TOF_CommandCodec.cpp`, compiled for `TOF_BIG_ENDIAN`.
`parse` and `serialize` are translated statement by statement; a read of
`data` or `argv` past its end is a failure of the `Checked` result. Log output
is left out. `wire` is the layout table at the end of the source file, and the
theorems relate the two functions to it.
-/

namespace GramsTof.CommandCodec

open ByteWords

/-- `GRAMS_TOF_CommandCodec::Packet`. Nothing ties `argc` to `argv`. -/
structure Packet where
  code : UInt16
  argc : UInt16
  argv : List Int32
  deriving DecidableEq, Repr

def maxArgc : UInt16 := 32

/-- `SIZE_MAX` of the 64-bit target. -/
def sizeMax : Nat := 2 ^ 64 - 1

def read16 (data : List UInt8) (offset : Nat) : Checked UInt16 := do
  let high ← load data offset
  let low ← load data (offset + 1)
  return join16 high low

def read32 (data : List UInt8) (offset : Nat) : Checked Int32 := do
  let first ← load data offset
  let second ← load data (offset + 1)
  let third ← load data (offset + 2)
  let fourth ← load data (offset + 3)
  return (join32 first second third fourth).toInt32

def write16 (buf : List UInt8) (val : UInt16) : List UInt8 :=
  buf ++ [((val >>> 8) &&& 0xFF).toUInt8, (val &&& 0xFF).toUInt8]

def write32 (buf : List UInt8) (val : Int32) : List UInt8 :=
  buf ++ [((val >>> 24) &&& 0xFF).toInt8.toUInt8, ((val >>> 16) &&& 0xFF).toInt8.toUInt8,
    ((val >>> 8) &&& 0xFF).toInt8.toUInt8, (val &&& 0xFF).toInt8.toUInt8]

def crcBit (crc : UInt16) : UInt16 :=
  if crc &&& 1 ≠ 0 then (crc >>> 1) ^^^ 0x8408 else crc >>> 1

def crcByte (crc : UInt16) (byte : UInt8) : UInt16 :=
  (crcBit^[8]) (crc ^^^ byte.toUInt16)

def crcAt (data : List UInt8) (crc : UInt16) (i : Nat) : Checked UInt16 := do
  return crcByte crc (← load data i)

def computeCRC16CCITT8408 (data : List UInt8) (len : Nat) : Checked UInt16 :=
  (List.range len).foldlM (crcAt data) 0

/-- One turn of the argument loop of `parse`: `uint32_t arg` goes back into a
vector of `int32_t`. -/
def readArg (data : List UInt8) (i : Nat) : Checked Int32 := do
  let arg ← read32 data (8 + i * 4)
  return arg.toUInt32.toInt32

def parse (data : List UInt8) (outPacket : Packet) : Checked (Bool × Packet) := do
  if data.length < 12 then return (false, outPacket)
  let header1 ← read16 data 0
  let header2 ← read16 data 2
  if header1 ≠ 0xEB90 ∨ header2 ≠ 0x5B6A then return (false, outPacket)
  let code ← read16 data 4
  let argc ← read16 data 6
  if argc > maxArgc then return (false, outPacket)
  -- two overflow tests on `size_t`
  if argc.toNat > (sizeMax - 8) / 4 then return (false, outPacket)
  let payloadSize := 8 + argc.toNat * 4
  if payloadSize > sizeMax - 6 then return (false, outPacket)
  let expectedSize := payloadSize + 2 + 2 + 2
  if data.length < expectedSize then return (false, outPacket)
  let receivedCRC ← read16 data payloadSize
  let computedCRC ← computeCRC16CCITT8408 data payloadSize
  if receivedCRC ≠ computedCRC then return (false, outPacket)
  let footer1 ← read16 data (payloadSize + 2)
  let footer2 ← read16 data (payloadSize + 4)
  if footer1 ≠ 0xC5A4 ∨ footer2 ≠ 0xD279 then return (false, outPacket)
  let argv ← (List.range argc.toNat).mapM (readArg data)
  return (true, { code := code, argc := argc, argv := argv })

def writeArg (argv : List Int32) (buf : List UInt8) (i : Nat) : Checked (List UInt8) := do
  return write32 buf (← load argv i)

def chooseCrc (fixedCrc : Option UInt16) (buf : List UInt8) : Checked UInt16 :=
  match fixedCrc with
  | some crc => return crc
  | none => computeCRC16CCITT8408 buf buf.length

def serialize (pkt : Packet) (fixedCrc : Option UInt16) : Checked (List UInt8) := do
  -- the loop runs to `argc`, whatever the size of `argv`
  let head := write16 (write16 (write16 (write16 [] 0xEB90) 0x5B6A) pkt.code) pkt.argc
  let buf ← (List.range pkt.argc.toNat).foldlM (writeArg pkt.argv) head
  let crc ← chooseCrc fixedCrc buf
  return write16 (write16 (write16 buf crc) 0xC5A4) 0xD279

def getPacketSize (packet : Packet) : Nat := 14 + packet.argc.toNat * 4

/-- `argc` counts the values in `argv`, as every caller of `serialize` has to
ensure. -/
def Counted (pkt : Packet) : Prop := pkt.argc.toNat = pkt.argv.length

instance (pkt : Packet) : Decidable (Counted pkt) := inferInstanceAs (Decidable (_ = _))

def crc16 (bytes : List UInt8) : UInt16 := bytes.foldl crcByte 0

def argBytes (argv : List Int32) : List UInt8 := argv.flatMap fun arg => split32 arg.toUInt32

def payload (pkt : Packet) : List UInt8 :=
  split16 0xEB90 ++ split16 0x5B6A ++ split16 pkt.code ++ split16 pkt.argc ++ argBytes pkt.argv

/-- The layout table at the end of `GRAMS_TOF_CommandCodec.cpp`. -/
def wire (pkt : Packet) : List UInt8 :=
  payload pkt ++ split16 (crc16 (payload pkt)) ++ split16 0xC5A4 ++ split16 0xD279

theorem arg_bytes_length (argv : List Int32) : (argBytes argv).length = argv.length * 4 := by
  simp [argBytes]

theorem arg_bytes_append (left right : List Int32) :
    argBytes (left ++ right) = argBytes left ++ argBytes right := by
  simp [argBytes]

theorem payload_length (pkt : Packet) : (payload pkt).length = 8 + pkt.argv.length * 4 := by
  simp [payload, arg_bytes_length]; omega

theorem wire_length (pkt : Packet) : (wire pkt).length = 14 + pkt.argv.length * 4 := by
  simp [wire, payload_length]; omega

theorem compute_crc_inside (data : List UInt8) (len : Nat) (inside : len ≤ data.length) :
    computeCRC16CCITT8408 data len = .ok (crc16 (data.take len)) := by
  unfold computeCRC16CCITT8408
  induction len with
  | zero => rfl
  | succ len ih =>
      have here : len < data.length := by omega
      have extended : crc16 (data.take (len + 1)) = crcByte (crc16 (data.take len)) data[len] := by
        rw [← List.take_concat_get' data len here, crc16, List.foldl_append]
        rfl
      rw [List.range_succ, List.foldlM_append, ih (by omega), extended]
      simp [crcAt, load_inside data len here]

theorem write_args (head : List UInt8) (argv : List Int32) (count : Nat)
    (enough : count ≤ argv.length) :
    (List.range count).foldlM (writeArg argv) head =
      (.ok (head ++ argBytes (argv.take count)) : Checked (List UInt8)) := by
  induction count with
  | zero => simp [argBytes]
  | succ count ih =>
      have here : count < argv.length := by omega
      have extended : argBytes (argv.take (count + 1)) =
          argBytes (argv.take count) ++ split32 argv[count].toUInt32 := by
        rw [← List.take_concat_get' argv count here, arg_bytes_append]
        simp [argBytes]
      rw [List.range_succ, List.foldlM_append, ih (by omega), extended, ← signed_bytes]
      simp only [List.foldlM_cons, List.foldlM_nil, ok_bind, pure_ok, writeArg,
        load_inside argv count here, write32, List.append_assoc]

theorem write_args_fault (head : List UInt8) (argv : List Int32) (count : Nat)
    (short : argv.length < count) :
    (List.range count).foldlM (writeArg argv) head =
      (.error ⟨argv.length, argv.length⟩ : Checked (List UInt8)) := by
  induction count with
  | zero => omega
  | succ count ih =>
      rw [List.range_succ, List.foldlM_append]
      by_cases last : argv.length = count
      · subst last
        rw [write_args head argv _ (Nat.le_refl _)]
        simp [writeArg, load_outside]
      · rw [ih (by omega)]
        rfl

/-- The packet `serialize` writes: of a longer `argv` only `argc` values. -/
def written (pkt : Packet) : Packet := { pkt with argv := pkt.argv.take pkt.argc.toNat }

theorem written_counted (pkt : Packet) (enough : pkt.argc.toNat ≤ pkt.argv.length) :
    Counted (written pkt) := by
  simp [Counted, written, enough]

theorem serialize_written (pkt : Packet) (enough : pkt.argc.toNat ≤ pkt.argv.length) :
    serialize pkt none = .ok (wire (written pkt)) := by
  simp only [serialize, write_args _ _ _ enough, ok_bind, chooseCrc]
  rw [compute_crc_inside _ _ (Nat.le_refl _)]
  simp [wire, payload, written, write16, split16]

theorem serialize_counted (pkt : Packet) (counted : Counted pkt) :
    serialize pkt none = .ok (wire pkt) := by
  have same : written pkt = pkt := by
    rw [written, counted, List.take_length]
  rw [serialize_written pkt (Nat.le_of_eq counted), same]

theorem serialize_fault (pkt : Packet) (fixedCrc : Option UInt16)
    (short : pkt.argv.length < pkt.argc.toNat) :
    serialize pkt fixedCrc = .error ⟨pkt.argv.length, pkt.argv.length⟩ := by
  simp only [serialize, write_args_fault _ _ _ short, error_bind]

def word16 (data : List UInt8) (offset : Nat) : UInt16 :=
  join16 (data.getD offset 0) (data.getD (offset + 1) 0)

def word32 (data : List UInt8) (offset : Nat) : Int32 :=
  (join32 (data.getD offset 0) (data.getD (offset + 1) 0) (data.getD (offset + 2) 0)
    (data.getD (offset + 3) 0)).toInt32

theorem load_getD (data : List UInt8) (index : Nat) (inside : index < data.length) :
    load data index = .ok (data.getD index 0) := by
  simp [load, inside]

theorem read16_inside (data : List UInt8) (offset : Nat) (inside : offset + 2 ≤ data.length) :
    read16 data offset = .ok (word16 data offset) := by
  unfold read16
  rw [load_getD data offset (by omega), load_getD data (offset + 1) (by omega)]
  rfl

theorem read32_inside (data : List UInt8) (offset : Nat) (inside : offset + 4 ≤ data.length) :
    read32 data offset = .ok (word32 data offset) := by
  unfold read32
  rw [load_getD data offset (by omega), load_getD data (offset + 1) (by omega),
    load_getD data (offset + 2) (by omega), load_getD data (offset + 3) (by omega)]
  rfl

def args (data : List UInt8) (count : Nat) : List Int32 :=
  (List.range count).map fun i => word32 data (8 + i * 4)

theorem read_args (data : List UInt8) (count : Nat) (inside : 8 + count * 4 ≤ data.length) :
    (List.range count).mapM (readArg data) = (.ok (args data count) : Checked (List Int32)) := by
  induction count with
  | zero => rfl
  | succ count ih =>
      rw [args, List.range_succ, List.mapM_append, List.map_append, ih (by omega)]
      simp [readArg, read32_inside data (8 + count * 4) (by omega), args]

/-- The packet whose fields stand at the offsets `parse` reads. -/
def decoded (data : List UInt8) : Packet :=
  { code := word16 data 4, argc := word16 data 6, argv := args data (word16 data 6).toNat }

/-- The checks of `parse`, with the two overflow tests that no 16-bit `argc`
can fail left out. -/
structure Accepted (data : List UInt8) : Prop where
  atLeast : 12 ≤ data.length
  header : word16 data 0 = 0xEB90 ∧ word16 data 2 = 0x5B6A
  argc : word16 data 6 ≤ maxArgc
  size : 8 + (word16 data 6).toNat * 4 + 6 ≤ data.length
  crc : word16 data (8 + (word16 data 6).toNat * 4) =
    crc16 (data.take (8 + (word16 data 6).toNat * 4))
  footer : word16 data (8 + (word16 data 6).toNat * 4 + 2) = 0xC5A4 ∧
    word16 data (8 + (word16 data 6).toNat * 4 + 4) = 0xD279

theorem no_overflow (argc : UInt16) :
    ¬ argc.toNat > (sizeMax - 8) / 4 ∧ ¬ 8 + argc.toNat * 4 > sizeMax - 6 := by
  have bound := argc.toNat_lt
  unfold sizeMax
  omega

open Classical in
theorem parse_eq (data : List UInt8) (outPacket : Packet) :
    parse data outPacket =
      .ok (if Accepted data then (true, decoded data) else (false, outPacket)) := by
  unfold parse
  -- one case for each check, in the order of the source; a failed one is named in `Accepted`
  by_cases atLeast : 12 ≤ data.length
  swap
  · have rejected : ¬ Accepted data := fun accepted => atLeast accepted.atLeast
    simp [rejected, show data.length < 12 by omega]
  simp only [show ¬ data.length < 12 by omega, if_false]
  rw [read16_inside data 0 (by omega), read16_inside data 2 (by omega),
    read16_inside data 4 (by omega), read16_inside data 6 (by omega)]
  simp only [ok_bind, pure_ok]
  by_cases header : word16 data 0 = 0xEB90 ∧ word16 data 2 = 0x5B6A
  swap
  · have rejected : ¬ Accepted data := fun accepted => header accepted.header
    rw [if_pos (by tauto), if_neg rejected]
  rw [if_neg (by tauto)]
  by_cases argc : word16 data 6 ≤ maxArgc
  swap
  · have rejected : ¬ Accepted data := fun accepted => argc accepted.argc
    rw [if_pos (by simpa using argc), if_neg rejected]
  rw [if_neg (by simpa using argc), if_neg (no_overflow _).1, if_neg (no_overflow _).2]
  by_cases size : 8 + (word16 data 6).toNat * 4 + 6 ≤ data.length
  swap
  · have rejected : ¬ Accepted data := fun accepted => size accepted.size
    rw [if_pos (by omega), if_neg rejected]
  rw [if_neg (by omega), read16_inside data _ (by omega), compute_crc_inside data _ (by omega)]
  simp only [ok_bind]
  by_cases crc : word16 data (8 + (word16 data 6).toNat * 4) =
      crc16 (data.take (8 + (word16 data 6).toNat * 4))
  swap
  · have rejected : ¬ Accepted data := fun accepted => crc accepted.crc
    rw [if_pos crc, if_neg rejected]
  rw [if_neg (by simpa using crc), read16_inside data _ (by omega),
    read16_inside data _ (by omega)]
  simp only [ok_bind]
  by_cases footer : word16 data (8 + (word16 data 6).toNat * 4 + 2) = 0xC5A4 ∧
      word16 data (8 + (word16 data 6).toNat * 4 + 4) = 0xD279
  swap
  · have rejected : ¬ Accepted data := fun accepted => footer accepted.footer
    rw [if_pos (by tauto), if_neg rejected]
  rw [if_neg (by tauto), read_args data _ (by omega),
    if_pos ⟨atLeast, header, argc, size, crc, footer⟩]
  rfl

theorem getD_inside (data : List UInt8) (index : Nat) (inside : index < data.length) :
    data.getD index 0 = data[index] := by
  simp [inside]

theorem split16_word (data : List UInt8) (offset : Nat) (inside : offset + 2 ≤ data.length) :
    split16 (word16 data offset) = (data.drop offset).take 2 := by
  have here : offset < data.length := by omega
  have next : offset + 1 < data.length := by omega
  rw [word16, split16_join, List.drop_eq_getElem_cons here, List.drop_eq_getElem_cons next,
    getD_inside _ _ here, getD_inside _ _ next]
  rfl

theorem split32_word (data : List UInt8) (offset : Nat) (inside : offset + 4 ≤ data.length) :
    split32 (word32 data offset).toUInt32 = (data.drop offset).take 4 := by
  have one : offset < data.length := by omega
  have two : offset + 1 < data.length := by omega
  have three : offset + 2 < data.length := by omega
  have four : offset + 3 < data.length := by omega
  rw [word32, UInt32.toUInt32_toInt32, split32_join, List.drop_eq_getElem_cons one,
    List.drop_eq_getElem_cons two, List.drop_eq_getElem_cons three,
    List.drop_eq_getElem_cons four, getD_inside _ _ one, getD_inside _ _ two,
    getD_inside _ _ three, getD_inside _ _ four]
  rfl

theorem arg_bytes_args (data : List UInt8) (count : Nat) (inside : 8 + count * 4 ≤ data.length) :
    argBytes (args data count) = (data.drop 8).take (count * 4) := by
  induction count with
  | zero => simp [args, argBytes]
  | succ count ih =>
      have extended : args data (count + 1) = args data count ++ [word32 data (8 + count * 4)] := by
        simp [args, List.range_succ]
      rw [extended, arg_bytes_append, ih (by omega), Nat.succ_mul, List.take_add, List.drop_drop]
      simp [argBytes, split32_word data (8 + count * 4) (by omega)]

theorem accepted_wire (data : List UInt8) (accepted : Accepted data) :
    wire (decoded data) = data.take (14 + (word16 data 6).toNat * 4) := by
  obtain ⟨atLeast, header, argc, size, crc, footer⟩ := accepted
  have front : payload (decoded data) = data.take (8 + (word16 data 6).toNat * 4) := by
    simp only [payload, decoded]
    rw [← header.1, ← header.2, split16_word data 0 (by omega), split16_word data 2 (by omega),
      split16_word data 4 (by omega), split16_word data 6 (by omega),
      arg_bytes_args data _ (by omega), List.drop_zero, ← List.take_add, ← List.take_add,
      ← List.take_add, ← List.take_add]
  -- the trailer is the one in `data`, since the CRC and the footer were compared
  rw [wire, front, ← crc, ← footer.1, ← footer.2, split16_word data _ (by omega),
    split16_word data _ (by omega), split16_word data _ (by omega), ← List.take_add,
    ← List.take_add, ← List.take_add]
  congr 1
  omega

theorem decoded_counted (data : List UInt8) : Counted (decoded data) := by
  simp [Counted, decoded, args]

theorem getD_skip (front tail : List UInt8) (index : Nat) :
    (front ++ tail).getD (front.length + index) 0 = tail.getD index 0 := by
  simp [List.getD_eq_getElem?_getD, List.getElem?_append_right]

theorem word16_skip (front tail : List UInt8) (offset : Nat) :
    word16 (front ++ tail) (front.length + offset) = word16 tail offset := by
  simp only [word16, Nat.add_assoc, getD_skip]

theorem word32_skip (front tail : List UInt8) (offset : Nat) :
    word32 (front ++ tail) (front.length + offset) = word32 tail offset := by
  simp only [word32, Nat.add_assoc, getD_skip]

theorem word16_split (word : UInt16) (rest : List UInt8) :
    word16 (split16 word ++ rest) 0 = word := join16_split word

theorem word16_behind (word : UInt16) (rest : List UInt8) (offset : Nat) :
    word16 (split16 word ++ rest) (offset + 2) = word16 rest offset := by
  have skipped := word16_skip (split16 word) rest offset
  rwa [split16_length, Nat.add_comm] at skipped

theorem word32_split (word : Int32) (rest : List UInt8) :
    word32 (split32 word.toUInt32 ++ rest) 0 = word := by
  have same := congrArg UInt32.toInt32 (join32_split word.toUInt32)
  rwa [Int32.toInt32_toUInt32] at same

theorem word32_arg (argv : List Int32) (rest : List UInt8) (i : Nat) (inside : i < argv.length) :
    word32 (argBytes argv ++ rest) (i * 4) = argv[i] := by
  induction argv generalizing i with
  | nil => simp at inside
  | cons arg tail ih =>
      have bytes : argBytes (arg :: tail) ++ rest =
          split32 arg.toUInt32 ++ (argBytes tail ++ rest) := by
        simp [argBytes]
      rw [bytes]
      cases i with
      | zero => simpa using word32_split arg (argBytes tail ++ rest)
      | succ i =>
          have tailInside : i < tail.length := by simpa using inside
          have skipped := word32_skip (split32 arg.toUInt32) (argBytes tail ++ rest) (i * 4)
          rw [split32_length] at skipped
          have offset : (i + 1) * 4 = 4 + i * 4 := by omega
          rw [offset, skipped, ih i tailInside]
          rfl

def trailer (pkt : Packet) : List UInt8 :=
  split16 (crc16 (payload pkt)) ++ (split16 0xC5A4 ++ split16 0xD279)

theorem head_words (pkt : Packet) (rest : List UInt8) :
    word16 (payload pkt ++ rest) 0 = 0xEB90 ∧ word16 (payload pkt ++ rest) 2 = 0x5B6A ∧
    word16 (payload pkt ++ rest) 4 = pkt.code ∧ word16 (payload pkt ++ rest) 6 = pkt.argc := by
  have layout : payload pkt ++ rest = split16 0xEB90 ++ (split16 0x5B6A ++ (split16 pkt.code ++
      (split16 pkt.argc ++ (argBytes pkt.argv ++ rest)))) := by
    simp only [payload, List.append_assoc]
  rw [layout]
  refine ⟨word16_split _ _, ?_, ?_, ?_⟩
  · rw [word16_behind _ _ 0, word16_split]
  · rw [word16_behind _ _ 2, word16_behind _ _ 0, word16_split]
  · rw [word16_behind _ _ 4, word16_behind _ _ 2, word16_behind _ _ 0, word16_split]

theorem trailer_words (pkt : Packet) (rest : List UInt8) :
    word16 (trailer pkt ++ rest) 0 = crc16 (payload pkt) ∧
    word16 (trailer pkt ++ rest) 2 = 0xC5A4 ∧ word16 (trailer pkt ++ rest) 4 = 0xD279 := by
  simp only [trailer, List.append_assoc]
  refine ⟨word16_split _ _, ?_, ?_⟩
  · rw [word16_behind _ _ 0, word16_split]
  · rw [word16_behind _ _ 2, word16_behind _ _ 0, word16_split]

theorem args_wire (pkt : Packet) (rest : List UInt8) :
    args (payload pkt ++ rest) pkt.argv.length = pkt.argv := by
  -- the arguments start behind the eight bytes of header, code and argc
  have shifted : ∀ i, word32 (payload pkt ++ rest) (8 + i * 4) =
      word32 (argBytes pkt.argv ++ rest) (i * 4) := by
    intro i
    have skipped := word32_skip (split16 0xEB90 ++ split16 0x5B6A ++ split16 pkt.code ++
      split16 pkt.argc) (argBytes pkt.argv ++ rest) (i * 4)
    simpa only [payload, List.length_append, split16_length, List.append_assoc] using skipped
  apply List.ext_getElem
  · simp [args]
  · intro i left right
    simp only [args, List.getElem_map, List.getElem_range, shifted]
    exact word32_arg pkt.argv rest i right

theorem wire_trailer (pkt : Packet) : wire pkt = payload pkt ++ trailer pkt := by
  simp only [wire, trailer, List.append_assoc]

/-- The wire form of a valid packet is accepted, whatever follows it, and
`parse` reads the same packet back. -/
theorem wire_accepted (pkt : Packet) (counted : Counted pkt) (rest : List UInt8) :
    decoded (wire pkt ++ rest) = pkt ∧
      (Accepted (wire pkt ++ rest) ↔ pkt.argv.length ≤ 32) := by
  unfold Counted at counted
  have layout : wire pkt ++ rest = payload pkt ++ (trailer pkt ++ rest) := by
    rw [wire_trailer, List.append_assoc]
  obtain ⟨header1, header2, code, argc⟩ := head_words pkt (trailer pkt ++ rest)
  obtain ⟨crc, footer1, footer2⟩ := trailer_words pkt rest
  have extent : (payload pkt).length = 8 + pkt.argc.toNat * 4 := by
    rw [payload_length, counted]
  rw [layout]
  have same : decoded (payload pkt ++ (trailer pkt ++ rest)) = pkt := by
    simp only [decoded, code, argc, counted, args_wire]
  refine ⟨same, ?_⟩
  constructor
  · intro accepted
    have bound := accepted.argc
    rw [argc] at bound
    have : pkt.argc.toNat ≤ 32 := UInt16.le_iff_toNat_le.mp bound
    omega
  · intro bounded
    refine ⟨?_, ⟨header1, header2⟩, ?_, ?_, ?_, ?_⟩
    · simp only [List.length_append, extent, trailer, split16_length]
      omega
    · rw [argc, UInt16.le_iff_toNat_le, counted]
      exact bounded
    · rw [argc]
      simp only [List.length_append, extent, trailer, split16_length]
      omega
    · rw [argc, ← extent, List.take_left]
      simpa using (word16_skip (payload pkt) (trailer pkt ++ rest) 0).trans crc
    · rw [argc, ← extent]
      exact ⟨(word16_skip _ _ 2).trans footer1, (word16_skip _ _ 4).trans footer2⟩

structure Valid (pkt : Packet) : Prop where
  counted : Counted pkt
  bounded : pkt.argv.length ≤ 32

structure ValidPacket extends Packet where
  valid : Valid toPacket

theorem parse_wire (pkt : Packet) (valid : Valid pkt) (rest : List UInt8) (outPacket : Packet) :
    parse (wire pkt ++ rest) outPacket = .ok (true, pkt) := by
  obtain ⟨same, accepted⟩ := wire_accepted pkt valid.counted rest
  rw [parse_eq, if_pos (accepted.mpr valid.bounded), same]

theorem decoded_valid (data : List UInt8) (accepted : Accepted data) : Valid (decoded data) := by
  refine ⟨decoded_counted data, ?_⟩
  have bound : (word16 data 6).toNat ≤ 32 := UInt16.le_iff_toNat_le.mp accepted.argc
  simpa [decoded, args] using bound

/-- `parse` succeeds on the vectors that start with the wire form of a valid
packet, and on no others. -/
theorem parse_true_iff (data : List UInt8) (outPacket pkt : Packet) :
    parse data outPacket = .ok (true, pkt) ↔ Valid pkt ∧ ∃ rest, data = wire pkt ++ rest := by
  constructor
  · intro parsed
    rw [parse_eq] at parsed
    by_cases accepted : Accepted data
    · simp only [accepted, if_true, Except.ok.injEq, Prod.mk.injEq, true_and] at parsed
      subst pkt
      refine ⟨decoded_valid data accepted, data.drop (14 + (word16 data 6).toNat * 4), ?_⟩
      rw [accepted_wire data accepted, List.take_append_drop]
    · simp [accepted] at parsed
  · rintro ⟨valid, rest, rfl⟩
    exact parse_wire pkt valid rest outPacket

def ValidPacket.encode (pkt : ValidPacket) : List UInt8 := wire pkt.toPacket

/-- The packet at the front of a stream, and the bytes behind it. -/
def decodeFront (data : List UInt8) : Option (ValidPacket × List UInt8) :=
  match parsed : parse data ⟨0, 0, []⟩ with
  | .ok (true, pkt) =>
      some (⟨pkt, ((parse_true_iff data ⟨0, 0, []⟩ pkt).mp parsed).1⟩,
        data.drop (getPacketSize pkt))
  | _ => none

theorem wire_packet_size (pkt : Packet) (counted : Counted pkt) :
    (wire pkt).length = getPacketSize pkt := by
  rw [wire_length, ← counted]
  rfl

theorem decode_front_iff (data rest : List UInt8) (pkt : ValidPacket) :
    decodeFront data = some (pkt, rest) ↔ data = pkt.encode ++ rest := by
  constructor
  · intro decoded
    unfold decodeFront at decoded
    split at decoded
    · next found parsed =>
        cases decoded
        obtain ⟨valid, more, layout⟩ := (parse_true_iff data ⟨0, 0, []⟩ found).mp parsed
        have behind : data.drop (getPacketSize found) = more := by
          rw [← wire_packet_size found valid.counted, layout, List.drop_left]
        rw [behind]
        exact layout
    · cases decoded
  · rintro rfl
    have parsed := parse_wire pkt.toPacket pkt.valid rest ⟨0, 0, []⟩
    unfold decodeFront
    split
    · next found same =>
        cases parsed.symm.trans same
        have behind : (pkt.encode ++ rest).drop (getPacketSize pkt.toPacket) = rest := by
          rw [← wire_packet_size pkt.toPacket pkt.valid.counted]
          exact List.drop_left
        rw [behind]
    · next other => exact absurd parsed (other pkt.toPacket)

/-- No stream starts with the encodings of two different packets. -/
theorem encode_unambiguous (left right : ValidPacket) (more rest : List UInt8)
    (same : left.encode ++ more = right.encode ++ rest) : left = right ∧ more = rest := by
  have first := (decode_front_iff _ more left).mpr rfl
  have second := (decode_front_iff _ rest right).mpr same
  rw [first] at second
  cases second
  exact ⟨rfl, rfl⟩

/-- Encoding a counted packet never fails, and decoding it again gives the
packet back exactly when the decoder's argument limit admits it. -/
theorem parse_serialize_append (pkt : Packet) (counted : Counted pkt) (rest : List UInt8)
    (outPacket : Packet) :
    ∃ bytes, serialize pkt none = .ok bytes ∧
      parse (bytes ++ rest) outPacket =
        .ok (if pkt.argc ≤ 32 then (true, pkt) else (false, outPacket)) := by
  refine ⟨wire pkt, serialize_counted pkt counted, ?_⟩
  obtain ⟨same, accepted⟩ := wire_accepted pkt counted rest
  have limit : pkt.argc ≤ 32 ↔ pkt.argv.length ≤ 32 := by
    rw [UInt16.le_iff_toNat_le, counted]
    rfl
  rw [parse_eq, same]
  by_cases bounded : pkt.argv.length ≤ 32
  · rw [if_pos (accepted.mpr bounded), if_pos (limit.mpr bounded)]
  · rw [if_neg (fun wrong => bounded (accepted.mp wrong)),
      if_neg (fun wrong => bounded (limit.mp wrong))]

theorem parse_serialize_append_two_args :
    ∃ bytes, serialize ⟨0x5106, 2, [4, -1]⟩ none = .ok bytes ∧
      parse (bytes ++ [0xEB, 0x90]) ⟨0, 0, []⟩ = .ok (true, ⟨0x5106, 2, [4, -1]⟩) :=
  parse_serialize_append ⟨0x5106, 2, [4, -1]⟩ (by decide) [0xEB, 0x90] ⟨0, 0, []⟩

/-- `parse` never reads past the end of `data`. What it accepts is the start
of `data` as the encoder would write it; what it rejects leaves `outPacket`
alone. -/
theorem parse_exact (data : List UInt8) (outPacket : Packet) :
    ∃ success out, parse data outPacket = .ok (success, out) ∧
      (success = true → out.argc.toNat = out.argv.length ∧ out.argv.length ≤ 32 ∧
        getPacketSize out = 14 + 4 * out.argv.length ∧ getPacketSize out ≤ data.length ∧
        serialize out none = .ok (data.take (getPacketSize out))) ∧
      (success = false → out = outPacket) := by
  by_cases accepted : Accepted data
  · have valid := decoded_valid data accepted
    have counted : (decoded data).argc.toNat = (decoded data).argv.length := valid.counted
    have extent : getPacketSize (decoded data) = 14 + (word16 data 6).toNat * 4 := rfl
    have size := accepted.size
    refine ⟨true, decoded data, by rw [parse_eq, if_pos accepted], ?_, by simp⟩
    intro _
    refine ⟨counted, valid.bounded, ?_, by omega, ?_⟩
    · rw [getPacketSize, counted]
      omega
    · rw [serialize_counted _ valid.counted, accepted_wire data accepted, extent]
  · exact ⟨false, outPacket, by rw [parse_eq, if_neg accepted], by simp, fun _ => rfl⟩

end GramsTof.CommandCodec
