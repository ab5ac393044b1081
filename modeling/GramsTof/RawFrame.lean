import Mathlib.Tactic

/-!
`PETSYS::RawDataFrame` and `RawEventWord`: the fields of the words a data frame
is made of. Every accessor masks and shifts 64-bit words as the source does;
beside it stands what it is as a number. `Frame` is a frame whose size field
counts its words, as the front end sends them.
-/

namespace GramsTof.RawFrame

abbrev Word := UInt64

def maxRawDataFrameSize : Nat := 8196

def maxRawDataFrameQueueSize : Nat := 16 * 1024

def field (word : Word) (shift mask : Word) : Nat := ((word >>> shift) &&& mask).toNat

def getFrameSize (data : List Word) : Nat := field (data.getD 0 0) 36 0x7FFF

def getFrameID (data : List Word) : Nat := field (data.getD 0 0) 0 0xFFFFFFFFF

def getFrameLost (data : List Word) : Bool := (data.getD 1 0 &&& 0x18000) != 0

def getNEvents (data : List Word) : Nat := field (data.getD 1 0) 0 0x7FFF

def getEFine (word : Word) : Nat := ((word % 1024).toNat + 27) % 1024

def getTFine (word : Word) : Nat := (((word >>> 10) % 1024).toNat + 27) % 1024

def getECoarse (word : Word) : Nat := ((word >>> 20) % 1024).toNat

def getTCoarse (word : Word) : Nat := ((word >>> 30) % 1024).toNat

def getTacID (word : Word) : Nat := ((word >>> 40) % 4).toNat

def getChannelID (word : Word) : Nat := (word >>> 42).toNat

/-- Bytes in the order of the host. -/
def hostWord (bytes : List UInt8) : Word :=
  bytes.foldr (fun byte word => word <<< 8 ||| byte.toUInt64) 0

def wordsOf (bytes : List UInt8) : List Word :=
  (List.range (bytes.length / 8)).map fun i => hostWord ((bytes.drop (8 * i)).take 8)

theorem tac_channel_bounded (word : Word) : getTacID word < 4 ∧ getChannelID word < 2 ^ 22 := by
  constructor
  · rw [getTacID, UInt64.toNat_mod]
    exact Nat.mod_lt _ (by decide)
  · have narrow := word.toNat_lt
    rw [getChannelID, UInt64.toNat_shiftRight, Nat.shiftRight_eq_div_pow]
    show word.toNat / 2 ^ 42 < 2 ^ 22
    omega

theorem field_number (word : Word) (shift mask : Word) (width : Nat)
    (narrow : shift.toNat < 64) (ones : mask.toNat = 2 ^ width - 1) :
    field word shift mask = word.toNat / 2 ^ shift.toNat % 2 ^ width := by
  rw [field, UInt64.toNat_and, UInt64.toNat_shiftRight, ones, Nat.and_two_pow_sub_one_eq_mod,
    Nat.mod_eq_of_lt narrow, Nat.shiftRight_eq_div_pow]

theorem frame_size_number (data : List Word) :
    getFrameSize data = (data.getD 0 0).toNat / 2 ^ 36 % 2 ^ 15 :=
  field_number _ _ _ 15 (by decide) (by decide)

theorem frame_id_number (data : List Word) : getFrameID data = (data.getD 0 0).toNat % 2 ^ 36 := by
  have number := field_number (data.getD 0 0) 0 0xFFFFFFFFF 36 (by decide) (by decide)
  rw [getFrameID, number]
  simp

theorem n_events_number (data : List Word) : getNEvents data = (data.getD 1 0).toNat % 2 ^ 15 := by
  have number := field_number (data.getD 1 0) 0 0x7FFF 15 (by decide) (by decide)
  rw [getNEvents, number]
  simp

theorem frame_id_bounded (data : List Word) : getFrameID data < 2 ^ 36 := by
  rw [frame_id_number]
  exact Nat.mod_lt _ (by decide)

theorem header_number (size : Word) (frameID : Nat) (short : size.toNat < 2 ^ 15)
    (narrow : frameID < 2 ^ 36) :
    ((size <<< 36) ||| UInt64.ofNat frameID).toNat = size.toNat * 2 ^ 36 + frameID := by
  have shifted : (size <<< 36).toNat = size.toNat <<< 36 := by
    rw [UInt64.toNat_shiftLeft, Nat.mod_eq_of_lt]
    · rfl
    · rw [Nat.shiftLeft_eq]
      exact Nat.lt_of_lt_of_le (Nat.mul_lt_mul_of_pos_right short (by decide)) (by decide)
  rw [UInt64.toNat_or, UInt64.toNat_ofNat', Nat.mod_eq_of_lt (by omega), shifted,
    ← Nat.shiftLeft_add_eq_or_of_lt narrow, Nat.shiftLeft_eq]

/-- A frame whose header counts its words: two header words and its events. -/
structure Frame where
  data : List Word
  counted : data.length = getFrameSize data
  sized : getFrameSize data = 2 + getNEvents data
  bounded : data.length ≤ maxRawDataFrameSize

def Frame.events (frame : Frame) : List Word := frame.data.drop 2

theorem Frame.events_length (frame : Frame) : frame.events.length = getNEvents frame.data := by
  have counted := frame.counted
  have sized := frame.sized
  rw [Frame.events, List.length_drop]
  omega

theorem Frame.two_words (frame : Frame) : 2 ≤ frame.data.length := by
  have counted := frame.counted
  have sized := frame.sized
  omega

/-- The frames in shared memory, by slot and word. -/
abbrev Slots := Nat → Nat → Word

def slotWords (slots : Slots) (slot count : Nat) : List Word :=
  (List.range count).map (slots slot)

/-- The frame in a slot, as long as its header says. -/
def slotFrame (slots : Slots) (slot : Nat) : List Word :=
  slotWords slots slot (getFrameSize [slots slot 0])

def Holds (slots : Slots) (slot : Nat) (words : List Word) : Prop :=
  ∀ index < words.length, slots slot index = words.getD index 0

theorem slot_frame_held (slots : Slots) (slot : Nat) (frame : Frame)
    (held : Holds slots slot frame.data) : slotFrame slots slot = frame.data := by
  have long := frame.two_words
  have head : getFrameSize [slots slot 0] = frame.data.length := by
    rw [frame.counted, held 0 (by omega)]
    rfl
  rw [slotFrame, slotWords, head]
  refine List.ext_getElem (by simp) fun index _ inside => ?_
  simp [held index inside, inside]

end GramsTof.RawFrame
