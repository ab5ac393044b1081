import GramsTof.DaqRequests

/-!
Whether two deliveries of one request do the same: to the frame server, and in the
bytes of the reply. What a handler and `sendCommand` leave uninitialised of their
variables is an argument of each run.
-/

namespace GramsTof.DaqRequests

open NativeStruct

structure Stack where
  /-- Where a handler has its reply. -/
  padding : Nat → UInt8
  /-- Where `DAQFrameServer::sendCommand` has its packet. -/
  packetBuffer : Nat → UInt8
  /-- What `send` takes behind the command if its length is -1; `none` is an error. -/
  behind : Option (List UInt8)

/-- `UDPFrameServer`, or `DAQFrameServer` with so many cards. -/
inductive Hardware where
  | udp
  | cards (count daqCardPortBits : Nat)
  deriving DecidableEq, Repr

/-- `sendCommand` from the sending to its end: the packet of a command, or `none` where
the card does not take it, and the reply, which is empty after a timeout. -/
abbrev Exchange (State : Type) : Type :=
  Int → Int → List UInt8 → Option (List UInt8) → State → State × List UInt8

def cardID (daqCardPortBits : Nat) (portID : Int) : Nat :=
  (portID % 2 ^ 64).toNat >>> daqCardPortBits

/-- `MAX_PACKET_WORDS` -/
def maxPacketWords : Nat := 256

/-- `PFP_KX7::sendCommand` refuses longer packets. -/
def maxCardWords : Nat := 128

def packetLength (commandLength : Nat) : Nat := 2 + (commandLength + 7) / 8

def packetHeader (daqCardPortBits : Nat) (portID slaveID : Int) : Nat :=
  let sendPortID := (portID % 2 ^ 64).toNat % 2 ^ daqCardPortBits
  let sendSlaveID := (slaveID % 2 ^ 64).toNat
  (8 <<< 36 + sendPortID <<< 59 + sendSlaveID <<< 54) % 2 ^ 64

/-- `packetBuffer` in front of the header and the command: eight of its words are set. -/
def initialByte (stack : Stack) (index : Nat) : UInt8 :=
  if index < 64 then (lowFirst 8 (0x0F <<< (4 * (index / 8)))).getD (index % 8) 0
  else stack.packetBuffer index

def packetOf (stack : Stack) (header : Nat) (command : List UInt8) : List UInt8 :=
  let written := lowFirst 8 header ++ (lowFirst 8 command.length ++ command)
  (List.range (8 * packetLength command.length)).map fun index =>
    written.getD index (initialByte stack index)

/-- `FrameServer::sendCommand`: the state, the length of the reply, and the buffer. -/
def Hardware.sendCommand {State : Type} (hardware : Hardware) (exchange : Exchange State)
    (stack : Stack) (portID slaveID : Int) (command : List UInt8) (state : State) :
    State × Int × List UInt8 :=
  let answered (packet : Option (List UInt8)) :=
    let (state, reply) := exchange portID slaveID command packet state
    (state, (reply.length : Int), reply)
  match hardware with
  | .udp => answered (some command)
  | .cards count daqCardPortBits =>
      let refused := (state, (-1 : Int), ((stack.behind.map (command ++ ·)).getD []))
      if count ≤ cardID daqCardPortBits portID then refused
      else if maxPacketWords < packetLength command.length then refused
      else if maxCardWords < packetLength command.length then answered none
      else answered (some (packetOf stack (packetHeader daqCardPortBits portID slaveID) command))

def FrameServer.over {State : Type} (server : FrameServer State) (hardware : Hardware)
    (exchange : Exchange State) (stack : Stack) : FrameServer State :=
  { server with sendCommand := hardware.sendCommand exchange stack }

/-- What is left of the frame server, and the bytes that are sent; `none` is undefined
behaviour. -/
def Outcome.effect {State : Type} (hardware : Hardware) (server : FrameServer State)
    (exchange : Exchange State) (state : State) (stack : Stack) (outcome : Outcome) :
    Option (State × List UInt8) :=
  (outcome.perform (server.over hardware exchange stack) state).map fun (state, reply) =>
    (state, sent stack.padding reply)

/-- Two outcomes have the same effect and the same reply, each on its own stack. -/
def Same (hardware : Hardware) (first second : Outcome) : Prop :=
  ∀ (State : Type) (server : FrameServer State) (exchange : Exchange State) (state : State)
    (stack other : Stack), ∃ effect,
      first.effect hardware server exchange state stack = some effect ∧
        second.effect hardware server exchange state other = some effect

/-- The types whose replies have gaps. -/
def padded : List Nat :=
  [commandGetDataFrameSharedMemoryName, commandGetDataFrameWriteReadPointer, commandGetPortUp,
    commandGetPortCounts, commandGetDAQTemp]

section Cards
variable {count daqCardPortBits : Nat} (portID slaveID : Int) (command : List UInt8)

end Cards

section Handlers
variable (hardware : Hardware) {message : Message} (complete : Complete message)

include complete

end Handlers

end GramsTof.DaqRequests
