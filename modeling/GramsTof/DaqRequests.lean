import GramsTof.NativeStruct
import GramsTof.RawFrame

/-!
`PETSYS::Client::handleRequest`: a request is received into the buffer of the
connection, which is not cleared, and a handler reads fixed offsets of it. The
frame server is an argument. Left out is what `send` accepts of a reply.
-/

namespace GramsTof.DaqRequests

open NativeStruct

/-- `socketBuffer`; before the first request it holds anything. -/
abbrev Buffer := Nat → UInt8

def socketBufferSize : Nat := 16 * 1024

def headerSize : Nat := 4

/-- `memcpy` into a number of so many bytes. -/
def number (buffer : Buffer) : Nat → Nat → Nat
  | _, 0 => 0
  | offset, width + 1 => (buffer offset).toNat + 256 * number buffer (offset + 1) width

def store (buffer : Buffer) (offset : Nat) (bytes : List UInt8) : Buffer := fun index =>
  if offset ≤ index ∧ index < offset + bytes.length then bytes.getD (index - offset) 0
  else buffer index

/-- A request as it is sent: a length below that of the header brings the
header alone. -/
structure Message where
  type : UInt16
  length : UInt16
  body : List UInt8
  counted : body.length = length.toNat - headerSize

def Message.header (message : Message) : List UInt8 :=
  [message.type.toUInt8, (message.type >>> 8).toUInt8, message.length.toUInt8,
    (message.length >>> 8).toUInt8]

/-- What the two calls of `recv` return; the second may not be made. -/
structure Delivery where
  header : Int
  body : Int

/-- What a handler asks the frame server for. -/
inductive Request where
  | startAcquisition (mode : Nat)
  | stopAcquisition
  | getDataFrameSharedMemoryName
  | getDataFrameWriteReadPointer
  | setDataFrameReadPointer (readPointer : Nat)
  | sendCommand (portID slaveID : Int) (command : List UInt8)
  | getPortUp
  | getPortCounts (portID : Nat)
  | setSorter (mode : Nat)
  | setCoincidenceTrigger (config : List Nat)
  | setIdleTimeCalculation (mode : Nat)
  | setGateEnable (mode : Nat)
  | setMinimumFrameID (minimumFrameID : Nat)
  | getDAQTemp
  deriving DecidableEq, Repr

inductive Outcome where
  /-- `handleRequest` returns -1, and the connection is closed. -/
  | rejected
  /-- No handler has this type. -/
  | ignored
  | served (request : Request)
  | undefined
  deriving DecidableEq, Repr

def commandAcqOnOff : Nat := 0x01
def commandGetDataFrameSharedMemoryName : Nat := 0x02
def commandGetDataFrameWriteReadPointer : Nat := 0x03
def commandSetDataFrameReadPointer : Nat := 0x04
def commandToFrontEnd : Nat := 0x05
def commandGetPortUp : Nat := 0x06
def commandGetPortCounts : Nat := 0x07
def commandSetSorter : Nat := 0x09
def commandSetTrigger : Nat := 0x10
def commandSetIdleTimeCalculation : Nat := 0x11
def commandSetGateEnable : Nat := 0x12
def commandSetMinimumFrameID : Nat := 0x13
def commandGetDAQTemp : Nat := 0x14

def commandBufferSize : Nat := 2048

/-- The command is copied to the stack. Beside it `sendCommand` reads the first
two bytes behind the addresses, the serial number, which are not there in a
command of less than four bytes. -/
def doCommandToFrontEnd (buffer : Buffer) (commandLength : Int) : Outcome :=
  if commandLength < 4 ∨ commandBufferSize < commandLength then .undefined
  else .served (.sendCommand (buffer headerSize).toInt8.toInt (buffer (headerSize + 1)).toInt8.toInt
    ((List.range (commandLength.toNat - 2)).map fun index => buffer (headerSize + 2 + index)))

def doAcqOnOff (buffer : Buffer) : Outcome :=
  if number buffer headerSize 2 ≠ 0 then .served (.startAcquisition 1)
  else .served .stopAcquisition

def doSetDataFrameReadPointer (buffer : Buffer) : Outcome :=
  .served (.setDataFrameReadPointer (number buffer headerSize 4))

def doGetPortCounts (buffer : Buffer) : Outcome :=
  .served (.getPortCounts (number buffer headerSize 2))

def doSetSorter (buffer : Buffer) : Outcome := .served (.setSorter (number buffer headerSize 4))

/-- `CoincidenceTriggerConfig` has 38 fields of four bytes. -/
def doSetTrigger (buffer : Buffer) : Outcome :=
  .served (.setCoincidenceTrigger ((List.range 38).map fun index =>
    number buffer (headerSize + 4 * index) 4))

def doSetIdleTimeCalculation (buffer : Buffer) : Outcome :=
  .served (.setIdleTimeCalculation (number buffer headerSize 4))

def doSetGateEnable (buffer : Buffer) : Outcome :=
  .served (.setGateEnable (number buffer headerSize 4))

def doSetMinimumFrameID (buffer : Buffer) : Outcome :=
  .served (.setMinimumFrameID (number buffer headerSize 8))

def dispatch (buffer : Buffer) (type : Nat) (nBytesNext : Int) : Outcome :=
  if type = commandAcqOnOff then doAcqOnOff buffer
  else if type = commandGetDataFrameSharedMemoryName then .served .getDataFrameSharedMemoryName
  else if type = commandGetDataFrameWriteReadPointer then .served .getDataFrameWriteReadPointer
  else if type = commandSetDataFrameReadPointer then doSetDataFrameReadPointer buffer
  else if type = commandToFrontEnd then doCommandToFrontEnd buffer nBytesNext
  else if type = commandGetPortUp then .served .getPortUp
  else if type = commandGetPortCounts then doGetPortCounts buffer
  else if type = commandSetSorter then doSetSorter buffer
  else if type = commandSetTrigger then doSetTrigger buffer
  else if type = commandSetIdleTimeCalculation then doSetIdleTimeCalculation buffer
  else if type = commandSetGateEnable then doSetGateEnable buffer
  else if type = commandSetMinimumFrameID then doSetMinimumFrameID buffer
  else if type = commandGetDAQTemp then .served .getDAQTemp
  else .ignored

/-- One request, with the buffer it leaves. -/
def handleRequest (buffer : Buffer) (message : Message) (delivery : Delivery) : Outcome × Buffer :=
  let buffer := store buffer 0 (message.header.take delivery.header.toNat)
  if delivery.header ≠ headerSize then (.rejected, buffer)
  else
    let type := number buffer 0 2
    let length := number buffer 2 2
    if length > socketBufferSize then (.rejected, buffer)
    else
      let nBytesNext : Int := length - headerSize
      if nBytesNext > 0 then
        let buffer := store buffer headerSize (message.body.take delivery.body.toNat)
        if delivery.body ≠ nBytesNext then (.rejected, buffer)
        else (dispatch buffer type nBytesNext, buffer)
      -- nothing is received, and the handlers run all the same
      else (dispatch buffer type nBytesNext, buffer)

/-- The virtual functions of `FrameServer`, on a state. -/
structure FrameServer (State : Type) where
  startAcquisition : Nat → State → State
  stopAcquisition : State → State
  getDataFrameSharedMemoryName : State → List UInt8
  getDataFrameWritePointer : State → Nat
  getDataFrameReadPointer : State → Nat
  amAcquiring : State → Bool
  setDataFrameReadPointer : Nat → State → State
  sendCommand : Int → Int → List UInt8 → State → State × Int × List UInt8
  getPortUp : State → Nat
  getDAQTemp : State → Nat
  getPortCounts : Nat → Nat → State → Nat
  setSorter : Nat → State → State
  setCoincidenceTrigger : List Nat → State → State × Int
  setIdleTimeCalculation : Nat → State → State
  setGateEnable : Nat → State → State × Int
  setMinimumFrameID : Nat → State → State × Int

inductive Field where
  | u16 (value : Nat)
  | u32 (value : Nat)
  | i32 (value : Int)
  | u64 (value : Nat)
  | bytes (values : List UInt8)
  deriving DecidableEq, Repr

/-- What `send` is given of a buffer and a length, which becomes unsigned. -/
def sentOf (replyLength : Int) (buffer : List UInt8) : List UInt8 :=
  if replyLength < 0 then buffer else buffer.take replyLength.toNat

/-- What a request does to the frame server, and the reply. -/
def FrameServer.perform {State : Type} (server : FrameServer State) (state : State) :
    Request → State × List Field
  | .startAcquisition mode => (server.startAcquisition mode state, [.u16 0])
  | .stopAcquisition => (server.stopAcquisition state, [.u16 0])
  | .getDataFrameSharedMemoryName =>
      let name := server.getDataFrameSharedMemoryName state
      (state, [.u16 ((32 + name.length) % 2 ^ 16), .u64 (8 * RawFrame.maxRawDataFrameSize), .u64 0,
        .u64 0, .bytes name])
  | .getDataFrameWriteReadPointer =>
      (state, [.u16 16, .u32 (server.getDataFrameWritePointer state),
        .u32 (server.getDataFrameReadPointer state),
        .u32 (if server.amAcquiring state then 1 else 0)])
  | .setDataFrameReadPointer readPointer =>
      (server.setDataFrameReadPointer readPointer state, [.u32 readPointer])
  | .sendCommand portID slaveID command =>
      let (state, replyLength, reply) := server.sendCommand portID slaveID command state
      (state, [.u16 (replyLength % 2 ^ 16).toNat, .bytes (sentOf replyLength reply)])
  | .getPortUp => (state, [.u16 16, .u64 (server.getPortUp state)])
  | .getPortCounts portID =>
      (state, [.u16 32, .u64 (server.getPortCounts portID 0 state),
        .u64 (server.getPortCounts portID 1 state), .u64 (server.getPortCounts portID 2 state)])
  | .setSorter mode => (server.setSorter mode state, [.u32 0])
  | .setCoincidenceTrigger config =>
      let (state, status) := server.setCoincidenceTrigger config state
      (state, [.i32 status])
  | .setIdleTimeCalculation mode => (server.setIdleTimeCalculation mode state, [.u32 0])
  | .setGateEnable mode =>
      let (state, status) := server.setGateEnable mode state
      (state, [.i32 status])
  | .setMinimumFrameID minimumFrameID =>
      let (state, status) := server.setMinimumFrameID minimumFrameID state
      (state, [.i32 status])
  | .getDAQTemp => (state, [.u16 16, .u64 (server.getDAQTemp state)])

/-- `none` is undefined behaviour. -/
def Outcome.perform {State : Type} (server : FrameServer State) (state : State) :
    Outcome → Option (State × List Field)
  | .rejected => some (state, [])
  | .ignored => some (state, [])
  | .served request => some (server.perform state request)
  | .undefined => none

/-- The numbers of a reply are one structure. -/
def numberOf : Field → Option NativeStruct.Field
  | .u16 value => some ⟨2, value⟩
  | .u32 value => some ⟨4, value⟩
  | .i32 value => some ⟨4, (value % 2 ^ 32).toNat⟩
  | .u64 value => some ⟨8, value⟩
  | .bytes _ => none

def bytesOf : Field → List UInt8
  | .bytes values => values
  | _ => []

/-- Bytes are sent behind the structure, and `fill` is what is in its gaps. -/
def sent (fill : Nat → UInt8) (fields : List Field) : List UInt8 :=
  pack fill 0 (fields.filterMap numberOf) ++ fields.flatMap bytesOf

/-- The bytes of the body a handler reads at fixed offsets. -/
def fixedFields (type : Nat) : Nat :=
  if type = commandAcqOnOff then 2
  else if type = commandSetDataFrameReadPointer then 4
  else if type = commandToFrontEnd then 4
  else if type = commandGetPortCounts then 2
  else if type = commandSetSorter then 4
  else if type = commandSetTrigger then 152
  else if type = commandSetIdleTimeCalculation then 4
  else if type = commandSetGateEnable then 4
  else if type = commandSetMinimumFrameID then 8
  else 0

def Short (message : Message) : Prop :=
  message.length.toNat < headerSize + fixedFields message.type.toNat

def Oversize (message : Message) : Prop := socketBufferSize < message.length.toNat

/-- Each `recv` returns all it asks for. -/
def Whole (message : Message) (delivery : Delivery) : Prop :=
  delivery.header = headerSize ∧
    (headerSize < message.length.toNat → delivery.body = message.length.toNat - headerSize)

def handled : List Nat :=
  [commandAcqOnOff, commandGetDataFrameSharedMemoryName, commandGetDataFrameWriteReadPointer,
    commandSetDataFrameReadPointer, commandToFrontEnd, commandGetPortUp, commandGetPortCounts,
    commandSetSorter, commandSetTrigger, commandSetIdleTimeCalculation, commandSetGateEnable,
    commandSetMinimumFrameID, commandGetDAQTemp]

/-- The header and the fixed fields are there, and a command to the front end
fits its buffer. -/
def Complete (message : Message) : Prop :=
  ¬ Short message ∧ (message.type.toNat = commandToFrontEnd →
    message.length.toNat ≤ headerSize + commandBufferSize)

theorem store_inside (buffer : Buffer) (offset : Nat) (bytes : List UInt8) (index : Nat)
    (inside : index < bytes.length) : store buffer offset bytes (offset + index) =
      bytes.getD index 0 := by
  rw [store, if_pos ⟨by omega, by omega⟩, Nat.add_sub_cancel_left]

theorem two_bytes (word : UInt16) :
    word.toUInt8.toNat + 256 * ((word >>> 8).toUInt8.toNat + 256 * 0) = word.toNat := by
  have narrow := word.toNat_lt
  rw [UInt16.toNat_toUInt8, UInt16.toNat_toUInt8, UInt16.toNat_shiftRight,
    Nat.shiftRight_eq_div_pow]
  show word.toNat % 256 + 256 * (word.toNat / 256 % 256 + 0) = word.toNat
  omega

section Header
variable (buffer : Buffer) (message : Message)

theorem header_type : number (store buffer 0 message.header) 0 2 = message.type.toNat :=
  two_bytes message.type

theorem header_length : number (store buffer 0 message.header) 2 2 = message.length.toNat :=
  two_bytes message.length

end Header

section Deliveries
variable {message : Message} {delivery : Delivery} (buffer : Buffer)

theorem handle_arrived (arrived : delivery.header = headerSize) :
    handleRequest buffer message delivery =
      if message.length.toNat > socketBufferSize then (.rejected, store buffer 0 message.header)
      else if (message.length.toNat : Int) - headerSize > 0 then
        if delivery.body ≠ message.length.toNat - headerSize then
          (.rejected, store (store buffer 0 message.header) headerSize
            (message.body.take delivery.body.toNat))
        else (dispatch (store (store buffer 0 message.header) headerSize
            (message.body.take delivery.body.toNat)) message.type.toNat
            (message.length.toNat - headerSize),
          store (store buffer 0 message.header) headerSize
            (message.body.take delivery.body.toNat))
      else (dispatch (store buffer 0 message.header) message.type.toNat
        (message.length.toNat - headerSize), store buffer 0 message.header) := by
  have all : message.header.take delivery.header.toNat = message.header := by
    rw [arrived]
    rfl
  unfold handleRequest
  dsimp only
  rw [if_neg (not_not.mpr arrived), all, header_length, header_type]

theorem handle_whole (whole : Whole message delivery) (fits : ¬ Oversize message) :
    ∃ received : Buffer,
      (handleRequest buffer message delivery).1 =
        dispatch received message.type.toNat (message.length.toNat - headerSize) ∧
      ∀ index < message.body.length, received (headerSize + index) = message.body.getD index 0 := by
  obtain ⟨arrived, rest⟩ := whole
  have counted := message.counted
  have within : ¬ message.length.toNat > socketBufferSize := fits
  rw [handle_arrived buffer arrived, if_neg within]
  by_cases more : headerSize < message.length.toNat
  · have all : message.body.take delivery.body.toNat = message.body := by
      rw [rest more]
      exact List.take_of_length_le (by omega)
    rw [if_pos (by omega), all, if_neg (not_not.mpr (rest more))]
    exact ⟨_, rfl, fun index inside => store_inside _ _ _ _ inside⟩
  · rw [if_neg (by omega)]
    exact ⟨_, rfl, fun index inside => absurd inside (by omega)⟩

end Deliveries

theorem dispatch_unknown (buffer : Buffer) (type : Nat) (nBytesNext : Int)
    (unknown : type ∉ handled) : dispatch buffer type nBytesNext = .ignored := by
  simp only [handled, List.mem_cons, List.not_mem_nil, or_false, not_or] at unknown
  simp only [dispatch, unknown, if_false]

section Handlers
variable {first second : Buffer} {length : Nat}
  (agree : ∀ index < length, first (headerSize + index) = second (headerSize + index))
include agree

end Handlers

/-- A handler answers, unless it is that of a command that does not fit. -/
def Answers (type : Nat) (nBytesNext : Int) (outcome : Outcome) : Prop :=
  (∃ request, outcome = .served request) ∨
    outcome = .undefined ∧ type = commandToFrontEnd ∧
      (nBytesNext < 4 ∨ commandBufferSize < nBytesNext)

theorem dispatch_known (buffer : Buffer) (type : Nat) (nBytesNext : Int) (known : type ∈ handled) :
    Answers type nBytesNext (dispatch buffer type nBytesNext) := by
  have served : ∀ request, Answers type nBytesNext (.served request) :=
    fun request => .inl ⟨request, rfl⟩
  simp only [handled, List.mem_cons, List.not_mem_nil, or_false] at known
  unfold dispatch
  refine iteInduction (fun _ => ?_) fun notAcq => ?_
  · exact iteInduction (fun _ => served _) fun _ => served _
  refine iteInduction (fun _ => served _) fun notName => ?_
  refine iteInduction (fun _ => served _) fun notPointers => ?_
  refine iteInduction (fun _ => served _) fun notSet => ?_
  refine iteInduction (fun toFrontEnd => ?_) fun notCommand => ?_
  · exact iteInduction (fun misfit => .inr ⟨rfl, toFrontEnd, misfit⟩) fun _ => served _
  refine iteInduction (fun _ => served _) fun notUp => ?_
  refine iteInduction (fun _ => served _) fun notCounts => ?_
  refine iteInduction (fun _ => served _) fun notSorter => ?_
  refine iteInduction (fun _ => served _) fun notTrigger => ?_
  refine iteInduction (fun _ => served _) fun notIdle => ?_
  refine iteInduction (fun _ => served _) fun notGate => ?_
  refine iteInduction (fun _ => served _) fun notMinimum => ?_
  refine iteInduction (fun _ => served _) fun notTemp => ?_
  exact absurd known (by simp only [notAcq, notName, notPointers, notSet, notCommand, notUp,
    notCounts, notSorter, notTrigger, notIdle, notGate, notMinimum, notTemp, or_self,
    not_false_eq_true])

section Whole
variable {message : Message} {delivery : Delivery} (buffer : Buffer)
  (whole : Whole message delivery) (fits : ¬ Oversize message)
include whole fits

theorem whole_unknown (unknown : message.type.toNat ∉ handled) :
    (handleRequest buffer message delivery).1 = .ignored := by
  obtain ⟨received, outcome, _⟩ := handle_whole buffer whole fits
  rw [outcome, dispatch_unknown received _ _ unknown]

theorem whole_known (known : message.type.toNat ∈ handled) :
    Answers message.type.toNat (message.length.toNat - headerSize)
      (handleRequest buffer message delivery).1 := by
  obtain ⟨received, outcome, _⟩ := handle_whole buffer whole fits
  rw [outcome]
  exact dispatch_known received _ _ known

theorem whole_complete_defined (complete : Complete message) :
    (handleRequest buffer message delivery).1 ≠ .undefined := by
  obtain ⟨covered, bounded⟩ := complete
  by_cases known : message.type.toNat ∈ handled
  · rcases whole_known buffer whole fits known with ⟨request, served⟩ | ⟨_, command, misfit⟩
    · rw [served]
      exact Outcome.noConfusion
    · have short := bounded command
      have four : fixedFields commandToFrontEnd = 4 := rfl
      unfold Short at covered
      rw [command, four] at covered
      omega
  · rw [whole_unknown buffer whole fits known]
    exact Outcome.noConfusion

end Whole

end GramsTof.DaqRequests
