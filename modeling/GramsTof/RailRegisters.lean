import GramsTof.BitFields
import GramsTof.TwoWireBus

/-!
The registers of the DC-DC modules of an FEB/D-8K: the sequences of `petsys.i2c`, and
`set_dac` and `read_dac` of `petsys.fe_power_8k`. The replies of `i2c_master` are
arguments.
-/

namespace GramsTof.RailRegisters

open BitFields TwoWireBus

inductive Error where
  | busError
  | noAck
  deriving DecidableEq, Repr

/-- A sequence for `i2c_master`, four bits a tick. -/
structure Script where
  sequence : List Nat
  ackPosition : List Nat
  deriving DecidableEq, Repr

def Script.add (script : Script) (ticks : List Nat) : Script :=
  { script with sequence := script.sequence ++ ticks }

def startCondition : List Nat := [0b1111, 0b1101, 0b1100]

def stopCondition : List Nat := [0b0100, 0b0001, 0b0011]

def begun : Script := Script.add ⟨[], []⟩ startCondition

def Script.writeByte (script : Script) (byte : Nat) : Script :=
  script.add ([7, 6, 5, 4, 3, 2, 1, 0].flatMap fun n =>
    let sda := ((byte >>> n) &&& 0x1) <<< 1
    [0b1100 ||| sda, 0b1101 ||| sda, 0b1100])

/-- The bits of a chip that `PI4MSD5V9540B_set_register` writes stay on the wire. -/
def Script.writeByteKept (script : Script) (byte : Nat) : Script :=
  script.add ([7, 6, 5, 4, 3, 2, 1, 0].flatMap fun n =>
    let sda := ((byte >>> n) &&& 0x1) <<< 1
    [0b1100 ||| sda, 0b1101 ||| sda, 0b1100 ||| sda])

def Script.acknowledge (script : Script) : Script :=
  let sequence := script.sequence ++ [0b0110, 0b0111, 0b0110]
  { sequence := sequence
    ackPosition := script.ackPosition ++ [sequence.length - 2] }

def Script.readByte (script : Script) : Script :=
  script.add ([7, 6, 5, 4, 3, 2, 1, 0].flatMap fun _ => [0b0110, 0b0111, 0b0110])

/-- What the functions do with a reply, and what they have sent. -/
def Script.concluded (script : Script) (reply : List Nat) : List (List Nat) × Except Error Unit :=
  let error := reply.map fun x => x &&& 0xE0 != 0
  let ack := (reply.zipIdx.filter fun x => decide (x.2 ∈ script.ackPosition)).map fun x =>
    x.1 &&& 0b10 == 0
  if true ∈ error then
    -- A stop condition without checks releases the bus.
    ([script.sequence, [0b0000, 0b0001, 0b0011]], .error .busError)
  else if false ∈ ack then ([script.sequence], .error .noAck)
  else ([script.sequence], .ok ())

def ds44xxSetScript (chipID regID value : Nat) : Script :=
  ((((((begun.writeByte chipID).acknowledge).writeByte regID).acknowledge).writeByte
    value).acknowledge).add stopCondition

def ds44xxSetRegister (chipID regID value : Nat) (reply : List Nat) :
    List (List Nat) × Except Error Unit :=
  (ds44xxSetScript chipID regID value).concluded reply

def muxScript (chipID value : Nat) : Script :=
  ((((begun.writeByteKept chipID).acknowledge).writeByte value).acknowledge).add stopCondition

def muxSetRegister (chipID value : Nat) (reply : List Nat) : List (List Nat) × Except Error Unit :=
  (muxScript chipID value).concluded reply

def beforeRead (chipID regID : Nat) : Script :=
  ((((((begun.writeByte chipID).acknowledge).writeByte regID).acknowledge).add
    startCondition).writeByte (chipID ||| 0x1)).acknowledge

def ds44xxReadScript (chipID regID : Nat) : Script :=
  ((beforeRead chipID regID).readByte.add [0b1110, 0b1111, 0b1100]).add stopCondition

def everyThird (reply : List Nat) (first last : Nat) : List Nat :=
  (List.range' first ((last - first + 2) / 3) 3).filterMap fun i => reply[i]?

/-- The first bit is the sign. -/
def signedReading : List Nat → Int
  | [] => 0
  | sign :: bits =>
      let reading := bits.foldl (fun reading bit => (reading <<< 1) ||| bit) 0
      if sign ≠ 0 then -(reading : Int) else reading

def ds44xxReadRegister (chipID regID : Nat) (reply : List Nat) :
    List (List Nat) × Except Error Int :=
  let readStartBit := (beforeRead chipID regID).sequence.length - 1
  let readEndBit := (beforeRead chipID regID).readByte.sequence.length - 1
  let sdaIn := (everyThird reply readStartBit readEndBit).map fun x => (x &&& 0b10) >>> 1
  let (sent, result) := (ds44xxReadScript chipID regID).concluded reply
  (sent, result.map fun _ => signedReading sdaIn)

/-! The rails -/

inductive ModuleVersion where
  | ti
  | murata
  deriving DecidableEq, Repr

inductive Rail where
  | vdd1
  | vdd2
  | vdd3
  deriving DecidableEq, Repr

structure RailAddress where
  chipID : Nat
  regID : Nat
  muxID : Option Nat
  deriving DecidableEq, Repr

/-- `DS44XX_ADR` -/
def railAddress : ModuleVersion → Rail → RailAddress
  | .ti, .vdd1 => ⟨0x96, 0xF8, none⟩
  | .ti, .vdd2 => ⟨0x90, 0xF8, none⟩
  | .ti, .vdd3 => ⟨0x90, 0xF9, none⟩
  | .murata, .vdd1 => ⟨0x90, 0xF8, some 0x4⟩
  | .murata, .vdd2 => ⟨0x90, 0xF8, some 0x5⟩
  | .murata, .vdd3 => ⟨0x90, 0xF9, some 0x5⟩

def intToDac (value : Int) : Nat :=
  if value < 0 then 0x80 + value.natAbs else value.toNat

def selectRail (place : RailAddress) (reply : List Nat) : List (List Nat) × Except Error Unit :=
  match place.muxID with
  | none => ([], .ok ())
  | some muxID => muxSetRegister 0xE0 muxID reply

/-- What is sent, as far as it goes, and what `set_dac` brings. -/
def setDac (version : ModuleVersion) (rail : Rail) (setting : Int) (muxReply reply : List Nat) :
    List (List Nat) × Except Error Unit :=
  let place := railAddress version rail
  match selectRail place muxReply with
  | (sent, .error error) => (sent, .error error)
  | (sent, .ok ()) =>
      let (sent', result) := ds44xxSetRegister place.chipID place.regID (intToDac setting) reply
      (sent ++ sent', result)

def readDac (version : ModuleVersion) (rail : Rail) (muxReply reply : List Nat) :
    List (List Nat) × Except Error Int :=
  let place := railAddress version rail
  match selectRail place muxReply with
  | (sent, .error error) => (sent, .error error)
  | (sent, .ok ()) =>
      let (sent', result) := ds44xxReadRegister place.chipID place.regID reply
      (sent ++ sent', result)

/-! The bus -/

/-- Bits 0 and 1 are the wires, bits 2 and 3 ask for checks. -/
def driveOf (tick : Nat) : Drive :=
  ⟨tick.testBit 0, tick.testBit 1, tick.testBit 2, tick.testBit 3⟩

def linesOf (answer : Nat) : Lines := ⟨answer.testBit 0, answer.testBit 1⟩

/-- What `i2c_master` says of a tick: a wire that is pulled is low, and without an error
every check has passed. -/
def Answers (tick answer : Nat) : Prop :=
  ((driveOf tick).scl = false → (linesOf answer).scl = false) ∧
  ((driveOf tick).sda = false → (linesOf answer).sda = false) ∧
  (answer &&& 0xE0 = 0 →
    ((driveOf tick).sclChecked = true → (linesOf answer).scl = (driveOf tick).scl) ∧
    ((driveOf tick).sdaChecked = true → (linesOf answer).sda = (driveOf tick).sda))

instance (tick answer : Nat) : Decidable (Answers tick answer) :=
  inferInstanceAs (Decidable (_ ∧ _ ∧ (_ → _)))

/-- A reply in which nobody holds the bus at its end. -/
structure Answered (sequence reply : List Nat) : Prop where
  ticks : List.Forall₂ Answers sequence reply
  free : (reply.map linesOf).drop (reply.length - 2) = [⟨true, false⟩, ⟨true, true⟩]

/-- Bytes, each with the bit that follows it. -/
def spelled : List Nat → List Bool → List Symbol
  | byte :: bytes, ack :: acks => (bitsOf byte 8).map .bit ++ .bit ack :: spelled bytes acks
  | _, _ => []

def sdaAt (reply : List Nat) (tick : Nat) : Bool :=
  ((reply.map linesOf).getD tick ⟨false, false⟩).sda

def Script.acks (script : Script) (reply : List Nat) : List Bool :=
  script.ackPosition.map (sdaAt reply)

/-! The sequences -/

def byteItems (byte : Nat) (kept : Bool) : List Item :=
  (bitsOf byte 8).map fun value => .put value kept

theorem bit_of_shift (byte n : Nat) : (byte >>> n) &&& 0x1 = (byte.testBit n).toNat := by
  rw [Nat.and_one_is_mod, Nat.toNat_testBit, Nat.shiftRight_eq_div_pow]

theorem bits_spelled (byte : Nat) :
    bitsOf byte 8 = [7, 6, 5, 4, 3, 2, 1, 0].map fun n => byte.testBit n := rfl

theorem byte_drives (byte : Nat) :
    ([7, 6, 5, 4, 3, 2, 1, 0].flatMap fun n =>
      [0b1100 ||| ((byte >>> n) &&& 0x1) <<< 1, 0b1101 ||| ((byte >>> n) &&& 0x1) <<< 1,
        0b1100]).map driveOf = (byteItems byte false).flatMap Item.drives := by
  rw [byteItems, bits_spelled, List.map_map, List.flatMap_map, List.map_flatMap]
  refine congrArg (List.flatMap · _) (funext fun n => ?_)
  rw [bit_of_shift, Function.comp_apply]
  cases byte.testBit n <;> rfl

theorem byte_kept_drives (byte : Nat) :
    ([7, 6, 5, 4, 3, 2, 1, 0].flatMap fun n =>
      [0b1100 ||| ((byte >>> n) &&& 0x1) <<< 1, 0b1101 ||| ((byte >>> n) &&& 0x1) <<< 1,
        0b1100 ||| ((byte >>> n) &&& 0x1) <<< 1]).map driveOf =
      (byteItems byte true).flatMap Item.drives := by
  rw [byteItems, bits_spelled, List.map_map, List.flatMap_map, List.map_flatMap]
  refine congrArg (List.flatMap · _) (funext fun n => ?_)
  rw [bit_of_shift, Function.comp_apply]
  cases byte.testBit n <;> rfl

/-- The items that a script sends. -/
def Script.Speaks (script : Script) (items : List Item) : Prop :=
  script.sequence.map driveOf = items.flatMap Item.drives

theorem Script.Speaks.length {script : Script} {items : List Item} (spoken : script.Speaks items) :
    script.sequence.length = 3 * items.length := by
  rw [← items_length, ← spoken, List.length_map]

theorem Script.Speaks.add {script : Script} {items more : List Item} {ticks : List Nat}
    (spoken : script.Speaks items) (more_spoken : ticks.map driveOf = more.flatMap Item.drives) :
    (script.add ticks).Speaks (items ++ more) := by
  rw [Script.Speaks, Script.add, List.map_append, spoken, more_spoken, List.flatMap_append]

theorem begun_speaks : begun.Speaks [.start] := rfl

theorem write_speaks {script : Script} {items : List Item} (spoken : script.Speaks items) (byte : Nat) :
    (script.writeByte byte).Speaks (items ++ byteItems byte false) :=
  spoken.add (byte_drives byte)

theorem write_kept_speaks {script : Script} {items : List Item} (spoken : script.Speaks items)
    (byte : Nat) : (script.writeByteKept byte).Speaks (items ++ byteItems byte true) :=
  spoken.add (byte_kept_drives byte)

theorem acknowledge_speaks {script : Script} {items : List Item} (spoken : script.Speaks items) :
    script.acknowledge.Speaks (items ++ [.release]) :=
  @Script.Speaks.add script items [.release] [0b0110, 0b0111, 0b0110] spoken rfl

theorem read_speaks {script : Script} {items : List Item} (spoken : script.Speaks items) :
    script.readByte.Speaks (items ++ List.replicate 8 .release) :=
  spoken.add rfl

/-! The replies -/

theorem answered_followed {sequence reply : List Nat}
    (answered : List.Forall₂ Answers sequence reply) (clear : ∀ x ∈ reply, x &&& 0xE0 = 0) :
    List.Forall₂ Followed (sequence.map driveOf) (reply.map linesOf) := by
  induction answered with
  | nil => exact .nil
  | cons answer rest ih =>
      obtain ⟨scl, sda, checks⟩ := answer
      obtain ⟨sclChecked, sdaChecked⟩ := checks (clear _ (.head _))
      exact .cons ⟨scl, sda, sclChecked, sdaChecked⟩ (ih fun x member => clear x (.tail _ member))

theorem script_heard {script : Script} {items : List Item} {reply : List Nat}
    (spoken : script.Speaks (.start :: items))
    (answered : Answered (script.add stopCondition).sequence reply)
    (clear : ∀ x ∈ reply, x &&& 0xE0 = 0) :
    heard idle (reply.map linesOf) = said (.start :: items) (reply.map linesOf) ++ [.stop] := by
  have followed := answered_followed answered.ticks clear
  rw [Script.add, List.map_append, spoken] at followed
  refine talk_heard items _ followed ⟨(reply.map linesOf).take (reply.length - 2), ?_⟩
  rw [← answered.free, List.take_append_drop]

theorem concluded_clear {script : Script} {reply : List Nat}
    (whole : (script.concluded reply).2 ≠ .error .busError) : ∀ x ∈ reply, x &&& 0xE0 = 0 := by
  intro x member
  by_contra flagged
  refine whole ?_
  have error : true ∈ reply.map fun x => x &&& 0xE0 != 0 :=
    List.mem_map.mpr ⟨x, member, bne_iff_ne.mpr flagged⟩
  rw [Script.concluded, if_pos error]

theorem sda_at {reply : List Nat} {tick x : Nat} (there : reply[tick]? = some x) :
    sdaAt reply tick = x.testBit 1 := by
  rw [sdaAt, List.getD_eq_getElem?_getD, List.getElem?_map, there]
  rfl

theorem sda_low (x : Nat) : (x &&& 0b10 == 0) = !x.testBit 1 := by
  have bit := Nat.and_two_pow x 1
  rw [show (2 : Nat) ^ 1 = 0b10 from rfl] at bit
  rw [bit]
  cases x.testBit 1 <;> rfl

/-- Without an error, a script fails if an acknowledgement is missing. -/
theorem concluded_result {script : Script} {reply : List Nat}
    (clear : ∀ x ∈ reply, x &&& 0xE0 = 0) :
    (script.concluded reply).2 =
      if true ∈ script.acks reply then .error .noAck else .ok () := by
  have error : true ∉ reply.map fun x => x &&& 0xE0 != 0 := by
    intro member
    obtain ⟨x, inside, flagged⟩ := List.mem_map.mp member
    exact bne_iff_ne.mp flagged (clear x inside)
  have missing : false ∈ ((reply.zipIdx.filter fun x => decide (x.2 ∈ script.ackPosition)).map
      fun x => x.1 &&& 0b10 == 0) ↔ true ∈ script.acks reply := by
    rw [Script.acks, List.mem_map, List.mem_map]
    constructor
    · rintro ⟨⟨x, tick⟩, member, high⟩
      obtain ⟨there, position⟩ := List.mem_filter.mp member
      rw [sda_low, Bool.not_eq_false'] at high
      exact ⟨tick, of_decide_eq_true position,
        (sda_at (List.mk_mem_zipIdx_iff_getElem?.mp there)).trans high⟩
    · rintro ⟨tick, position, high⟩
      cases there : reply[tick]? with
      | none =>
          rw [sdaAt, List.getD_eq_getElem?_getD, List.getElem?_map, there] at high
          exact absurd high Bool.false_ne_true
      | some x =>
          refine ⟨(x, tick), List.mem_filter.mpr ⟨List.mk_mem_zipIdx_iff_getElem?.mpr there,
            decide_eq_true position⟩, ?_⟩
          rw [sda_low, ← sda_at there, high]
          rfl
  rw [Script.concluded, if_neg error]
  by_cases failed : true ∈ script.acks reply
  · rw [if_pos failed, if_pos (missing.mpr failed)]
  · rw [if_neg failed, if_neg (fun low => failed (missing.mp low))]

/-! What is heard -/

/-- Bytes with a released bit behind each. -/
def byteTalk (bytes : List (Nat × Bool)) : List Item :=
  bytes.flatMap fun byte => byteItems byte.1 byte.2 ++ [.release]

/-- The ticks of the bits behind bytes that begin at a tick. -/
def ackTicks (tick : Nat) : Nat → List Nat
  | 0 => []
  | bytes + 1 => (tick + 25) :: ackTicks (tick + 27) bytes

theorem said_bytes (bytes : List (Nat × Bool)) (rest : List Item) (reply : List Nat) (tick : Nat) :
    said (byteTalk bytes ++ rest) ((reply.map linesOf).drop tick) =
      spelled (bytes.map Prod.fst) ((ackTicks tick bytes.length).map (sdaAt reply)) ++
        said rest ((reply.map linesOf).drop (tick + 27 * bytes.length)) := by
  induction bytes generalizing tick with
  | nil => rfl
  | cons byte bytes ih =>
      have shape : byteTalk (byte :: bytes) ++ rest =
          byteItems byte.1 byte.2 ++ .release :: (byteTalk bytes ++ rest) := by
        simp only [byteTalk, List.flatMap_cons, List.append_assoc, List.cons_append, List.nil_append]
      have released : ((reply.map linesOf).drop (tick + 24)).getD 1 ⟨false, false⟩ =
          (reply.map linesOf).getD (tick + 25) ⟨false, false⟩ := by
        rw [List.getD_eq_getElem?_getD, List.getD_eq_getElem?_getD, List.getElem?_drop]
      have length : (byteItems byte.1 byte.2).length = 8 := by
        rw [byteItems, List.length_map, bitsOf_length]
      rw [shape, said_append, length, byteItems, said_put, said, Item.symbol, List.drop_drop,
        List.drop_drop, released, ih, List.length_cons, ackTicks, List.map_cons, List.map_cons,
        spelled, sdaAt, List.append_assoc, List.cons_append]
      rw [show tick + 27 + 27 * bytes.length = tick + 27 * (bytes.length + 1) by omega]

def readTicks (tick : Nat) : Nat → List Nat
  | 0 => []
  | bits + 1 => (tick + 1) :: readTicks (tick + 3) bits

theorem said_released (count : Nat) (rest : List Item) (reply : List Nat) (tick : Nat) :
    said (List.replicate count .release ++ rest) ((reply.map linesOf).drop tick) =
      ((readTicks tick count).map (sdaAt reply)).map .bit ++
        said rest ((reply.map linesOf).drop (tick + 3 * count)) := by
  induction count generalizing tick with
  | zero => rfl
  | succ count ih =>
      have released : ((reply.map linesOf).drop tick).getD 1 ⟨false, false⟩ =
          (reply.map linesOf).getD (tick + 1) ⟨false, false⟩ := by
        rw [List.getD_eq_getElem?_getD, List.getD_eq_getElem?_getD, List.getElem?_drop]
      rw [List.replicate_succ, List.cons_append, said, Item.symbol, released, List.drop_drop, ih,
        readTicks, List.map_cons, List.map_cons, sdaAt, List.cons_append]
      rw [show tick + 3 + 3 * count = tick + 3 * (count + 1) by omega]

theorem bytes_heard {script : Script} {bytes : List (Nat × Bool)} {reply : List Nat}
    (spoken : script.Speaks (.start :: byteTalk bytes))
    (positions : script.ackPosition = ackTicks 3 bytes.length)
    (answered : Answered (script.add stopCondition).sequence reply)
    (whole : ((script.add stopCondition).concluded reply).2 ≠ .error .busError) :
    heard idle (reply.map linesOf) =
      .start :: (spelled (bytes.map Prod.fst) (script.acks reply) ++ [.stop]) ∧
    ((script.add stopCondition).concluded reply).2 =
      if true ∈ script.acks reply then .error .noAck else .ok () := by
  have clear := concluded_clear whole
  have bytesSaid := said_bytes bytes [] reply 3
  rw [List.append_nil, said, List.append_nil, ← positions] at bytesSaid
  refine ⟨?_, concluded_result clear⟩
  rw [script_heard spoken answered clear, said, bytesSaid]
  rfl

theorem byte_speaks {script : Script} {items : List Item} {bytes : List (Nat × Bool)}
    (spoken : script.Speaks (items ++ byteTalk bytes)) (byte : Nat) :
    (script.writeByte byte).acknowledge.Speaks (items ++ byteTalk (bytes ++ [(byte, false)])) := by
  have next := acknowledge_speaks (write_speaks spoken byte)
  simpa only [byteTalk, List.flatMap_append, List.flatMap_cons, List.flatMap_nil, List.append_nil,
    List.append_assoc] using next

theorem byte_kept_speaks {script : Script} {items : List Item} {bytes : List (Nat × Bool)}
    (spoken : script.Speaks (items ++ byteTalk bytes)) (byte : Nat) :
    (script.writeByteKept byte).acknowledge.Speaks
      (items ++ byteTalk (bytes ++ [(byte, true)])) := by
  have next := acknowledge_speaks (write_kept_speaks spoken byte)
  simpa only [byteTalk, List.flatMap_append, List.flatMap_cons, List.flatMap_nil, List.append_nil,
    List.append_assoc] using next

theorem acks_low {acks : List Bool} (given : true ∉ acks) :
    acks = List.replicate acks.length false :=
  List.eq_replicate_iff.mpr ⟨rfl, fun _ member =>
    Bool.eq_false_iff.mpr fun high => given (high ▸ member)⟩

theorem concluded_acks {script : Script} {reply : List Nat}
    (returned : (script.concluded reply).2 = .ok ()) :
    (script.concluded reply).2 ≠ .error .busError ∧
      script.acks reply = List.replicate script.ackPosition.length false := by
  have whole : (script.concluded reply).2 ≠ .error .busError := by
    rw [returned]
    exact fun same => Except.noConfusion rfl rfl (heq_of_eq same)
  refine ⟨whole, ?_⟩
  rw [concluded_result (concluded_clear whole)] at returned
  split_ifs at returned with failed
  have low := acks_low failed
  rwa [Script.acks, List.length_map] at low

theorem set_register_heard (chipID regID value : Nat) (reply : List Nat)
    (answered : Answered (ds44xxSetScript chipID regID value).sequence reply)
    (returned : (ds44xxSetRegister chipID regID value reply).2 = .ok ()) :
    heard idle (reply.map linesOf) =
      .start :: (spelled [chipID, regID, value] [false, false, false] ++ [.stop]) := by
  have spoken :=
    byte_speaks (byte_speaks (@byte_speaks _ [.start] [] begun_speaks chipID) regID) value
  obtain ⟨whole, acks⟩ := concluded_acks returned
  exact (bytes_heard spoken rfl answered whole).1.trans
    (congrArg (fun acks => .start :: (spelled [chipID, regID, value] acks ++ [.stop])) acks)

theorem mux_register_heard (chipID value : Nat) (reply : List Nat)
    (answered : Answered (muxScript chipID value).sequence reply)
    (returned : (muxSetRegister chipID value reply).2 = .ok ()) :
    heard idle (reply.map linesOf) =
      .start :: (spelled [chipID, value] [false, false] ++ [.stop]) := by
  have spoken := byte_speaks (@byte_kept_speaks _ [.start] [] begun_speaks chipID) value
  obtain ⟨whole, acks⟩ := concluded_acks returned
  exact (bytes_heard spoken rfl answered whole).1.trans
    (congrArg (fun acks => .start :: (spelled [chipID, value] acks ++ [.stop])) acks)

/-- The data of a read as it is heard. -/
def dataBits (reply : List Nat) : List Bool := (readTicks 87 8).map (sdaAt reply)

theorem read_speaks_all (chipID regID : Nat) :
    ((beforeRead chipID regID).readByte.add [0b1110, 0b1111, 0b1100]).Speaks
      (.start :: (byteTalk [(chipID, false), (regID, false)] ++ .start ::
        (byteTalk [(chipID ||| 0x1, false)] ++ (List.replicate 8 .release ++ [.put true false])))) := by
  have address := byte_speaks (@byte_speaks _ [.start] [] begun_speaks chipID) regID
  have again := @Script.Speaks.add _ _ [.start] startCondition address rfl
  have whole := read_speaks (@byte_speaks _ _ [] (by
    rw [byteTalk, List.flatMap_nil, List.append_nil]
    exact again) (chipID ||| 0x1))
  have refused := @Script.Speaks.add _ _ [.put true false] [0b1110, 0b1111, 0b1100] whole rfl
  simp only [List.append_assoc, List.cons_append, List.nil_append] at refused
  exact refused

theorem read_length (chipID regID : Nat) : (ds44xxReadScript chipID regID).sequence.length = 117 := by
  rw [ds44xxReadScript, Script.add, List.length_append, (read_speaks_all chipID regID).length]
  simp [byteTalk, byteItems, stopCondition]

theorem read_register_heard (chipID regID : Nat) (reply : List Nat)
    (answered : Answered (ds44xxReadScript chipID regID).sequence reply)
    (returned : ((ds44xxReadScript chipID regID).concluded reply).2 = .ok ()) :
    heard idle (reply.map linesOf) =
      .start :: (spelled [chipID, regID] [false, false] ++ .start ::
        (spelled [chipID ||| 0x1] [false] ++ ((dataBits reply).map .bit ++
          [.bit true, .stop]))) := by
  obtain ⟨whole, acks⟩ := concluded_acks returned
  have acknowledged : [28, 55, 85].map (sdaAt reply) = [false, false, false] := acks
  obtain ⟨first, second, third⟩ : sdaAt reply 28 = false ∧ sdaAt reply 55 = false ∧
      sdaAt reply 85 = false := by simpa using acknowledged
  rw [script_heard (read_speaks_all chipID regID) answered (concluded_clear whole), said,
    said_bytes, said, List.drop_drop, said_bytes, said_released]
  simp only [List.map_cons, List.map_nil, List.length_cons, List.length_nil, ackTicks, first,
    second, third, said, Item.symbol, List.append_assoc, List.cons_append, List.nil_append,
    dataBits]

/-! What is read -/

theorem sda_in (x : Nat) : (x &&& 0b10) >>> 1 = (x.testBit 1).toNat := by
  have bit := Nat.and_two_pow x 1
  rw [show (2 : Nat) ^ 1 = 0b10 from rfl] at bit
  rw [bit]
  cases x.testBit 1 <;> rfl

theorem reading_number (bits : List Bool) (reading : Nat) :
    (bits.map Bool.toNat).foldl (fun reading bit => (reading <<< 1) ||| bit) reading =
      reading * 2 ^ bits.length + numberOf bits := by
  induction bits generalizing reading with
  | nil => simp [numberOf]
  | cons bit rest ih =>
      have shifted : (reading <<< 1) ||| bit.toNat = 2 * reading + bit.toNat := by
        rw [Nat.shiftLeft_eq, Nat.mul_comm, ← Nat.two_pow_add_eq_or_of_lt (i := 1)]
        cases bit <;> decide
      rw [List.map_cons, List.foldl_cons, shifted, ih, numberOf, List.length_cons, Nat.pow_succ]
      ring

def signed (sign : Bool) (magnitude : List Bool) : Int :=
  if sign then -(numberOf magnitude : Int) else numberOf magnitude

theorem signed_reading (sign : Bool) (magnitude : List Bool) :
    signedReading ((sign :: magnitude).map Bool.toNat) = signed sign magnitude := by
  rw [List.map_cons, signedReading, reading_number, Nat.zero_mul, Nat.zero_add, signed]
  cases sign <;> rfl

theorem low_bits (magnitude : Nat) : bitsOf (0x80 + magnitude) 7 = bitsOf magnitude 7 := by
  refine List.map_congr_left fun i member => ?_
  have inside := List.mem_range.mp member
  exact Nat.testBit_two_pow_add_gt (by omega : 7 - 1 - i < 7) magnitude

theorem setting_bits (setting : Int) (small : setting.natAbs ≤ 127) :
    ∃ sign magnitude, bitsOf (intToDac setting) 8 = sign :: magnitude ∧
      signed sign magnitude = setting := by
  have number : numberOf (bitsOf setting.natAbs 7) = setting.natAbs := by
    rw [numberOf_bitsOf, Nat.mod_eq_of_lt (by omega)]
  have top : setting.natAbs.testBit 7 = false := Nat.testBit_lt_two_pow (by omega)
  rcases Int.lt_or_le setting 0 with negative | positive
  · refine ⟨true, bitsOf setting.natAbs 7, ?_, ?_⟩
    · rw [intToDac, if_pos negative, bitsOf_succ, low_bits]
      refine congrArg (· :: _) ?_
      rw [show (0x80 : Nat) = 2 ^ 7 from rfl, Nat.testBit_two_pow_add_eq, top]
      rfl
    · rw [signed, if_pos rfl, number]
      omega
  · have same : setting.toNat = setting.natAbs := by omega
    refine ⟨false, bitsOf setting.natAbs 7, ?_, ?_⟩
    · rw [intToDac, if_neg (by omega), same, bitsOf_succ, top]
    · rw [signed, if_neg Bool.false_ne_true, number]
      omega

theorem every_third (reply : List Nat) (first last : Nat) (long : last < reply.length) :
    (everyThird reply first last).map (fun x => (x &&& 0b10) >>> 1) =
      ((List.range' first ((last - first + 2) / 3) 3).map (sdaAt reply)).map Bool.toNat := by
  rw [everyThird, List.map_filterMap, List.map_map, ← List.filterMap_eq_map]
  refine List.filterMap_congr fun i member => ?_
  obtain ⟨k, small, rfl⟩ := List.mem_range'.mp member
  have inside : first + 3 * k < reply.length := by omega
  have there : reply[first + 3 * k]? = some reply[first + 3 * k] := List.getElem?_eq_getElem inside
  rw [there, Option.map_some, sda_in, Function.comp_apply, Function.comp_apply, sda_at there]

/-- The wire of a released bit is as it will be as soon as the clock has fallen. -/
def Prompt (reply : List Nat) : Prop :=
  ∀ k < 8, sdaAt reply (86 + 3 * k) = sdaAt reply (88 + 3 * k)

instance (reply : List Nat) : Decidable (Prompt reply) :=
  inferInstanceAs (Decidable (∀ k < 8, _))

theorem reading_data (chipID regID : Nat) (reply : List Nat)
    (answered : Answered (ds44xxReadScript chipID regID).sequence reply) (prompt : Prompt reply) :
    (everyThird reply 86 110).map (fun x => (x &&& 0b10) >>> 1) =
      (dataBits reply).map Bool.toNat := by
  have length : reply.length = 117 := answered.ticks.length_eq.symm.trans (read_length chipID regID)
  rw [every_third reply 86 110 (by omega), dataBits]
  refine congrArg _ ?_
  have ticks : List.range' 86 ((110 - 86 + 2) / 3) 3 = (List.range 8).map fun k => 86 + 3 * k := by
    decide
  have clocks : readTicks 87 8 = (List.range 8).map fun k => 88 + 3 * k := by decide
  rw [ticks, clocks, List.map_map, List.map_map]
  exact List.map_congr_left fun k member => prompt k (List.mem_range.mp member)

/-! Rails -/

/-- The multiplexer of a rail, as it is heard before the register. -/
def Selected (place : RailAddress) (reply : List Nat) : Prop :=
  ∀ muxID ∈ place.muxID, heard idle (reply.map linesOf) =
    .start :: (spelled [0xE0, muxID] [false, false] ++ [.stop])

theorem rail_selected (place : RailAddress) (reply : List Nat)
    (answered : ∀ muxID ∈ place.muxID, Answered (muxScript 0xE0 muxID).sequence reply)
    (returned : (selectRail place reply).2 = .ok ()) : Selected place reply := by
  intro muxID mux
  rw [selectRail, Option.mem_def.mp mux] at returned
  exact mux_register_heard 0xE0 muxID reply (answered muxID mux) returned

theorem set_dac_returned {version : ModuleVersion} {rail : Rail} {setting : Int}
    {muxReply reply : List Nat}
    (returned : (setDac version rail setting muxReply reply).2 = .ok ()) :
    (selectRail (railAddress version rail) muxReply).2 = .ok () ∧
      (ds44xxSetRegister (railAddress version rail).chipID (railAddress version rail).regID
        (intToDac setting) reply).2 = .ok () := by
  unfold setDac at returned
  dsimp only at returned
  rcases selected : selectRail (railAddress version rail) muxReply with ⟨sent, error | done⟩
  · rw [selected] at returned
    exact absurd returned (fun same => Except.noConfusion rfl rfl (heq_of_eq same))
  · rw [selected] at returned
    exact ⟨rfl, returned⟩

theorem read_dac_returned {version : ModuleVersion} {rail : Rail} {muxReply reply : List Nat}
    {value : Int} (returned : (readDac version rail muxReply reply).2 = .ok value) :
    (selectRail (railAddress version rail) muxReply).2 = .ok () ∧
      (ds44xxReadRegister (railAddress version rail).chipID (railAddress version rail).regID
        reply).2 = .ok value := by
  unfold readDac at returned
  dsimp only at returned
  rcases selected : selectRail (railAddress version rail) muxReply with ⟨sent, error | done⟩
  · rw [selected] at returned
    exact absurd returned (fun same => Except.noConfusion rfl rfl (heq_of_eq same))
  · rw [selected] at returned
    exact ⟨rfl, returned⟩

theorem read_value {chipID regID : Nat} {reply : List Nat} {value : Int}
    (answered : Answered (ds44xxReadScript chipID regID).sequence reply) (prompt : Prompt reply)
    (returned : (ds44xxReadRegister chipID regID reply).2 = .ok value) :
    ((ds44xxReadScript chipID regID).concluded reply).2 = .ok () ∧
      value = signedReading ((dataBits reply).map Bool.toNat) := by
  have data := reading_data chipID regID reply answered prompt
  have unfolded : (ds44xxReadRegister chipID regID reply).2 =
      ((ds44xxReadScript chipID regID).concluded reply).2.map fun _ =>
        signedReading ((everyThird reply 86 110).map fun x => (x &&& 0b10) >>> 1) := rfl
  rw [unfolded, data] at returned
  cases result : ((ds44xxReadScript chipID regID).concluded reply).2 with
  | error error =>
      rw [result] at returned
      exact absurd returned (fun same => Except.noConfusion rfl rfl (heq_of_eq same))
  | ok done =>
      rw [result] at returned
      exact ⟨rfl, (Except.ok.inj returned).symm⟩

/-- A call that returns has brought a setting into the register of its rail, and nothing
else was heard. -/
theorem set_dac_heard (version : ModuleVersion) (rail : Rail) (setting : Int)
    (muxReply reply : List Nat)
    (muxAnswered : ∀ muxID ∈ (railAddress version rail).muxID,
      Answered (muxScript 0xE0 muxID).sequence muxReply)
    (answered : Answered (ds44xxSetScript (railAddress version rail).chipID
      (railAddress version rail).regID (intToDac setting)).sequence reply)
    (returned : (setDac version rail setting muxReply reply).2 = .ok ()) :
    Selected (railAddress version rail) muxReply ∧
      heard idle (reply.map linesOf) = .start :: (spelled [(railAddress version rail).chipID,
        (railAddress version rail).regID, intToDac setting] [false, false, false] ++ [.stop]) := by
  obtain ⟨selected, written⟩ := set_dac_returned returned
  exact ⟨rail_selected _ muxReply muxAnswered selected,
    set_register_heard _ _ _ reply answered written⟩

/-- A reply in which the acknowledgements, and the zeros of a byte that is read, are pulled. -/
def sampleReply (script : Script) (pulled : List Nat) : List Nat :=
  script.sequence.zipIdx.map fun x =>
    if x.2 ∈ pulled then x.1 &&& 0b01 else x.1 &&& 0b11

theorem set_dac_heard_sample :
    Selected (railAddress .murata .vdd3) (sampleReply (muxScript 0xE0 0x5) [27, 28, 54, 55]) ∧
      heard idle ((sampleReply (ds44xxSetScript 0x90 0xF9 0x85) [27, 28, 54, 55, 81, 82]).map
        linesOf) = .start :: (spelled [(railAddress .murata .vdd3).chipID,
          (railAddress .murata .vdd3).regID, intToDac (-5)] [false, false, false] ++ [.stop]) :=
  set_dac_heard .murata .vdd3 (-5) (sampleReply (muxScript 0xE0 0x5) [27, 28, 54, 55])
    (sampleReply (ds44xxSetScript 0x90 0xF9 0x85) [27, 28, 54, 55, 81, 82])
    (fun muxID mux => by
      cases mux
      exact ⟨by decide +kernel, by decide +kernel⟩)
    ⟨by decide +kernel, by decide +kernel⟩ (by decide +kernel)

/-- A call that returns has addressed the register of its rail and brings what was heard
of it, which is the setting if it is one that was set. -/
theorem read_dac_heard (version : ModuleVersion) (rail : Rail) (muxReply reply : List Nat)
    (value : Int)
    (muxAnswered : ∀ muxID ∈ (railAddress version rail).muxID,
      Answered (muxScript 0xE0 muxID).sequence muxReply)
    (answered : Answered (ds44xxReadScript (railAddress version rail).chipID
      (railAddress version rail).regID).sequence reply)
    (prompt : Prompt reply) (returned : (readDac version rail muxReply reply).2 = .ok value) :
    Selected (railAddress version rail) muxReply ∧ ∃ sign magnitude,
      heard idle (reply.map linesOf) =
        .start :: (spelled [(railAddress version rail).chipID, (railAddress version rail).regID]
          [false, false] ++ .start ::
          (spelled [(railAddress version rail).chipID ||| 0x1] [false] ++
            ((sign :: magnitude).map .bit ++ [.bit true, .stop]))) ∧
      value = signed sign magnitude ∧
      ∀ setting : Int, setting.natAbs ≤ 127 →
        bitsOf (intToDac setting) 8 = sign :: magnitude → value = setting := by
  obtain ⟨selected, readOut⟩ := read_dac_returned returned
  obtain ⟨concluded, brought⟩ := read_value answered prompt readOut
  have transcript := read_register_heard _ _ reply answered concluded
  obtain ⟨sign, magnitude, data⟩ : ∃ sign magnitude, dataBits reply = sign :: magnitude :=
    ⟨_, _, rfl⟩
  rw [data] at transcript brought
  rw [signed_reading] at brought
  refine ⟨rail_selected _ muxReply muxAnswered selected, sign, magnitude, transcript, brought, ?_⟩
  intro setting small same
  obtain ⟨sign', magnitude', bits, back⟩ := setting_bits setting small
  obtain ⟨rfl, rfl⟩ := List.cons.inj (bits.symm.trans same)
  rw [brought, back]

theorem read_dac_heard_sample :
    Selected ⟨0x96, 0xF8, none⟩ [] ∧ ∃ sign magnitude,
      heard idle ((sampleReply (ds44xxReadScript 0x96 0xF8)
        [27, 28, 54, 55, 84, 85, 92, 93, 94, 95, 96, 97]).map linesOf) =
        .start :: (spelled [0x96, 0xF8] [false, false] ++ .start ::
          (spelled [0x97] [false] ++ ((sign :: magnitude).map .bit ++ [.bit true, .stop]))) ∧
      (-0x4F : Int) = signed sign magnitude ∧
      ∀ setting : Int, setting.natAbs ≤ 127 →
        bitsOf (intToDac setting) 8 = sign :: magnitude → -0x4F = setting :=
  read_dac_heard .ti .vdd1 [] _ (-0x4F) (fun _ mux => absurd mux (by simp [railAddress]))
    ⟨by decide +kernel, by decide +kernel⟩ (by decide +kernel) (by decide +kernel)

end GramsTof.RailRegisters
