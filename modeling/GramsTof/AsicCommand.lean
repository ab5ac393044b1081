import GramsTof.AsicConfigCache
import GramsTof.BitFields

/-!
The bytes of `___doAsicCommand`: a command to the SPI slave behind an ASIC, and the
reply with what a register holds. What the front end makes of a command is stated by
`decode`.
-/

namespace GramsTof.AsicCommand

open BitFields AsicConfigCache

/-- Up to eight bits, filled up with zeros. -/
def byteOf (bits : Bits) : UInt8 :=
  UInt8.ofNat (numberOf (bits ++ List.replicate (8 - bits.length) false))

def bytesOf : Nat → Bits → List UInt8
  | 0, _ => []
  | nBytes + 1, bits => byteOf (bits.take 8) :: bytesOf nBytes (bits.drop 8)

/-- `bitarray.tobytes` -/
def toBytes (bits : Bits) : List UInt8 := bytesOf ((bits.length + 7) / 8) bits

/-- `bitarray.frombytes` -/
def fromBytes (bytes : List UInt8) : Bits := bytes.flatMap fun byte => bitsOf byte.toNat 8

/-- `info.asic_per_module`, for the variant of the firmware. -/
def asicPerModule (fwVariant : Nat) : Option Nat :=
  if fwVariant = 0x0000 then some 2
  else if fwVariant = 0x0001 then some 2
  else if fwVariant = 0x0002 then some 5
  else if fwVariant = 0x0011 then some 2
  else if fwVariant = 0x0111 then some 4
  else if fwVariant = 0x0211 then some 8
  else none

def maxChips : Nat := 64

/-- `value` is there for a write only. -/
structure Command where
  chipID : Nat
  register : Register
  value : Option Bits
  deriving DecidableEq

def Command.code (command : Command) : Nat :=
  match command.register, command.value with
  | .channelConfig _, some _ => 0b0000
  | .channelConfig _, none => 0b0001
  | .globalConfig, some _ => 0b1000
  | .globalConfig, none => 0b1001

def intToBin (value : Int) (width : Nat) : Bits := bitsOf (clamp value width) width

def Command.ccBits (command : Command) : Bits :=
  intToBin command.code 4 ++
    (match command.register with
      | .channelConfig channelID => intToBin channelID.val 7
      | .globalConfig => []) ++
    command.value.getD []

/-- None for a firmware that is not known, and for a value that has the wrong length. -/
def commandBytes (fwVariant : Nat) (command : Command) : Option (List UInt8) :=
  (asicPerModule fwVariant).bind fun chipPerModule =>
    let a := command.chipID / chipPerModule
    let b := command.chipID % chipPerModule
    let spiID := a * 256 + b
    let dataLength := command.register.dataLength
    if command.value.any fun value => value.length != dataLength then none
    else
      let ccBits := command.ccBits
      let nBytes := (ccBits.length + 7) / 8
      let paddedValue := ccBits ++ List.replicate (nBytes * 8 - dataLength) false
      let bitsToRead := if command.value.isNone then dataLength else 0
      some (UInt8.ofNat (spiID / 256) :: UInt8.ofNat spiID :: UInt8.ofNat ccBits.length ::
        UInt8.ofNat bitsToRead :: toBytes paddedValue)

inductive ReplyError where
  | badReply (expected actual : Nat)
  | badAck (value : Nat)
  | badCRC
  | generic (status : UInt8)
  deriving DecidableEq, Repr

def readReply (dataLength : Nat) : List UInt8 → Except ReplyError Bits
  | [] => .error (.badReply 1 0)
  | status :: data =>
      if status = 0xE3 then .error (.badAck 0)
      else if status = 0xE4 then .error .badCRC
      else if status = 0xE5 then .error (.badAck 1)
      else if status ≠ 0x00 then .error (.generic status)
      else
        -- the quotient is rounded down before `ceil`
        let expectedBytes := dataLength / 8
        if data.length + 1 < 1 + expectedBytes then
          .error (.badReply (2 + expectedBytes) (data.length + 1))
        else .ok ((fromBytes data).take dataLength)

/-! Bits and bytes -/

theorem byte_bits (bits : Bits) (short : bits.length ≤ 8) :
    bitsOf (byteOf bits).toNat 8 = bits ++ List.replicate (8 - bits.length) false := by
  have eight : (bits ++ List.replicate (8 - bits.length) false).length = 8 := by
    rw [List.length_append, List.length_replicate]
    omega
  have small := numberOf_lt (bits ++ List.replicate (8 - bits.length) false)
  have back := bitsOf_numberOf (bits ++ List.replicate (8 - bits.length) false)
  rw [eight] at small back
  rw [byteOf, UInt8.toNat_ofNat', Nat.mod_eq_of_lt small]
  exact back

theorem fromBytes_length (bytes : List UInt8) : (fromBytes bytes).length = 8 * bytes.length := by
  induction bytes with
  | nil => rfl
  | cons byte rest ih =>
      rw [fromBytes, List.flatMap_cons, List.length_append, bitsOf_length, List.length_cons]
      exact (congrArg (8 + ·) ih).trans (by omega)

theorem bytesOf_bits (nBytes : Nat) (bits : Bits) (enough : bits.length ≤ 8 * nBytes) :
    bits <+: fromBytes (bytesOf nBytes bits) := by
  induction nBytes generalizing bits with
  | zero =>
      rw [List.eq_nil_of_length_eq_zero (Nat.le_zero.mp enough)]
      exact List.nil_prefix
  | succ nBytes ih =>
      have first : (bits.take 8).length ≤ 8 := List.length_take_le 8 bits
      rw [bytesOf, fromBytes, List.flatMap_cons, byte_bits _ first]
      rcases Nat.lt_or_ge bits.length 8 with last | more
      · rw [List.take_of_length_le (Nat.le_of_lt last), List.append_assoc]
        exact List.prefix_append _ _
      · have rest := ih (bits.drop 8) (by rw [List.length_drop]; omega)
        have full : (bits.take 8).length = 8 := List.length_take_of_le more
        rw [full, Nat.sub_self, List.replicate_zero, List.append_nil]
        nth_rewrite 1 [← List.take_append_drop 8 bits]
        exact (List.prefix_append_right_inj _).mpr rest

/-- What was put in comes out again, in front of the zeros. -/
theorem fromBytes_toBytes (bits : Bits) : bits <+: fromBytes (toBytes bits) :=
  bytesOf_bits _ bits (by omega)

theorem bytesOf_length (nBytes : Nat) (bits : Bits) : (bytesOf nBytes bits).length = nBytes := by
  induction nBytes generalizing bits with
  | zero => rfl
  | succ nBytes ih => exact congrArg (· + 1) (ih _)

/-! Commands -/

theorem channel_number (bits : Bits) : numberOf bits % 64 < 64 := Nat.mod_lt _ (by decide)

def decodeCode (chipID code : Nat) (behind : Bits) : Option Command :=
  let channelID := ⟨numberOf (behind.take 7) % 64, channel_number _⟩
  match code with
  | 0b0000 => some ⟨chipID, .channelConfig channelID, some (behind.drop 7)⟩
  | 0b0001 => some ⟨chipID, .channelConfig channelID, none⟩
  | 0b1000 => some ⟨chipID, .globalConfig, some behind⟩
  | 0b1001 => some ⟨chipID, .globalConfig, none⟩
  | _ => none

def decodeBits (chipID : Nat) (bits : Bits) : Option Command :=
  decodeCode chipID (numberOf (bits.take 4)) (bits.drop 4)

def decode (fwVariant : Nat) : List UInt8 → Option Command
  | high :: low :: nBitsToWrite :: _ :: payload =>
      (asicPerModule fwVariant).bind fun chipPerModule =>
        decodeBits (high.toNat * chipPerModule + low.toNat)
          ((fromBytes payload).take nBitsToWrite.toNat)
  | _ => none

theorem known_modules (fwVariant chipPerModule : Nat)
    (known : asicPerModule fwVariant = some chipPerModule) :
    2 ≤ chipPerModule ∧ chipPerModule ≤ 8 := by
  unfold asicPerModule at known
  split_ifs at known <;> cases known <;> decide

theorem ccBits_length (command : Command)
    (sized : ∀ value ∈ command.value, value.length = command.register.dataLength) :
    command.ccBits.length ≤ 188 := by
  obtain ⟨chipID, register, value⟩ := command
  cases register <;> cases value <;>
    simp_all [Command.ccBits, intToBin, Register.dataLength]

theorem numberOf_intToBin (value width : Nat) (fits : value < 2 ^ width) :
    numberOf (intToBin value width) = value := by
  rw [intToBin, numberOf_bitsOf, clamp, Int.toNat_natCast]
  rw [Nat.mod_eq_of_lt (by omega)]
  omega

theorem split_intToBin (value width : Nat) (rest : Bits) (fits : value < 2 ^ width) :
    numberOf ((intToBin value width ++ rest).take width) = value ∧
      (intToBin value width ++ rest).drop width = rest := by
  have length : (intToBin value width).length = width := bitsOf_length _ _
  rw [List.take_left' length, List.drop_left' length]
  exact ⟨numberOf_intToBin value width fits, rfl⟩

theorem ccBits_decoded (command : Command) :
    decodeBits command.chipID command.ccBits = some command := by
  obtain ⟨chipID, register, value⟩ := command
  cases register with
  | globalConfig =>
      cases value with
      | none =>
          obtain ⟨code, behind⟩ := split_intToBin 0b1001 4 [] (by decide)
          exact congrArg₂ (decodeCode chipID) code behind
      | some value =>
          obtain ⟨code, behind⟩ := split_intToBin 0b1000 4 value (by decide)
          exact congrArg₂ (decodeCode chipID) code behind
  | channelConfig channelID =>
      have number (rest : Bits) := split_intToBin channelID.val 7 rest
        (Nat.lt_trans channelID.isLt (by decide))
      have same (within : channelID.val % 64 < 64) : ⟨channelID.val % 64, within⟩ = channelID :=
        Fin.ext (Nat.mod_eq_of_lt channelID.isLt)
      have decoded (code : Nat) (rest : Bits) (fits : code < 2 ^ 4) :
          decodeBits chipID (intToBin code 4 ++ (intToBin channelID.val 7 ++ rest)) =
            decodeCode chipID code (intToBin channelID.val 7 ++ rest) := by
        obtain ⟨code', behind⟩ := split_intToBin code 4 (intToBin channelID.val 7 ++ rest) fits
        rw [decodeBits, code', behind]
      cases value with
      | none =>
          have shape : (⟨chipID, .channelConfig channelID, none⟩ : Command).ccBits =
            intToBin (0b0001 : Nat) 4 ++ (intToBin channelID.val 7 ++ []) := List.append_assoc _ _ _
          rw [shape, decoded 0b0001 [] (by decide), decodeCode]
          simp only [(number []).1, same]
      | some value =>
          have shape : (⟨chipID, .channelConfig channelID, some value⟩ : Command).ccBits =
            intToBin (0b0000 : Nat) 4 ++ (intToBin channelID.val 7 ++ value) := List.append_assoc _ _ _
          rw [shape, decoded 0b0000 value (by decide), decodeCode, (number value).2]
          simp only [(number value).1, same]

/-- No command is taken for another one. -/
theorem command_decoded (fwVariant : Nat) (command : Command) (bytes : List UInt8)
    (chip : command.chipID < maxChips) (sent : commandBytes fwVariant command = some bytes) :
    decode fwVariant bytes = some command := by
  obtain ⟨chipPerModule, known, sent⟩ := Option.bind_eq_some_iff.mp sent
  dsimp only at sent
  by_cases wrong : (command.value.any fun value => value.length != command.register.dataLength) = true
  · rw [if_pos wrong] at sent
    cases sent
  rw [if_neg wrong] at sent
  cases sent
  have sized : ∀ value ∈ command.value, value.length = command.register.dataLength := by
    intro value written
    by_contra long
    refine wrong ?_
    rw [written, Option.any_some]
    exact bne_iff_ne.mpr long
  have short := ccBits_length command sized
  obtain ⟨least, most⟩ := known_modules fwVariant chipPerModule known
  unfold maxChips at chip
  have below : command.chipID % chipPerModule < chipPerModule := Nat.mod_lt _ (by omega)
  have modules : command.chipID / chipPerModule < 256 :=
    Nat.lt_of_le_of_lt (Nat.div_le_self _ _) (by omega)
  have high : (UInt8.ofNat ((command.chipID / chipPerModule * 256 + command.chipID % chipPerModule) /
      256)).toNat = command.chipID / chipPerModule := by
    rw [UInt8.toNat_ofNat']
    omega
  have low : (UInt8.ofNat (command.chipID / chipPerModule * 256 +
      command.chipID % chipPerModule)).toNat = command.chipID % chipPerModule := by
    rw [UInt8.toNat_ofNat']
    omega
  have count : (UInt8.ofNat command.ccBits.length).toNat = command.ccBits.length := by
    rw [UInt8.toNat_ofNat']
    omega
  have bits : ∀ zeros, (fromBytes (toBytes (command.ccBits ++ zeros))).take command.ccBits.length =
      command.ccBits := fun zeros =>
    (List.prefix_iff_eq_take.mp ((List.prefix_append _ zeros).trans (fromBytes_toBytes _))).symm
  rw [decode, known, Option.bind_some, high, low, count, bits, Nat.mul_comm, Nat.div_add_mod]
  exact ccBits_decoded command

theorem command_decoded_sample :
    decode 0x0111 ((commandBytes 0x0111 ⟨7, .channelConfig 63, some (List.replicate 125 true)⟩).getD
      []) = some ⟨7, .channelConfig 63, some (List.replicate 125 true)⟩ :=
  command_decoded 0x0111 ⟨7, .channelConfig 63, some (List.replicate 125 true)⟩ _ (by decide)
    (by decide +kernel)

/-! Replies -/

theorem reply_read (value : Bits) : readReply value.length (0x00 :: toBytes value) = .ok value := by
  have enough : ¬ (toBytes value).length + 1 < 1 + value.length / 8 := by
    rw [toBytes, bytesOf_length]
    omega
  rw [readReply, if_neg (by decide), if_neg (by decide), if_neg (by decide), if_neg (by decide)]
  dsimp only
  rw [if_neg enough, ← List.prefix_iff_eq_take.mp (fromBytes_toBytes value)]

theorem reply_accepted (dataLength : Nat) (reply : List UInt8) (value : Bits)
    (accepted : readReply dataLength reply = .ok value) :
    ∃ data, reply = 0x00 :: data ∧ dataLength / 8 ≤ data.length ∧
      value = (fromBytes data).take dataLength := by
  cases reply with
  | nil => cases accepted
  | cons status data =>
      rw [readReply] at accepted
      split_ifs at accepted with _ _ _ zero
      dsimp only at accepted
      split_ifs at accepted with short
      cases accepted
      refine ⟨data, ?_, by omega, rfl⟩
      rw [not_not.mp zero]

/-- A reply that is accepted has the whole register, unless its length is no multiple
of eight and the last byte is missing. -/
theorem accepted_whole_iff (dataLength : Nat) (reply : List UInt8) (value : Bits)
    (accepted : readReply dataLength reply = .ok value) :
    value.length = dataLength ↔ ¬ (dataLength % 8 ≠ 0 ∧ reply.length = 1 + dataLength / 8) := by
  obtain ⟨data, rfl, enough, rfl⟩ := reply_accepted dataLength reply value accepted
  rw [List.length_take, fromBytes_length, List.length_cons]
  omega

end GramsTof.AsicCommand
