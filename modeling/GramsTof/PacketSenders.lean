import GramsTof.CommandCodec
import GramsTof.CommandDefs

/-!
The packets the program builds itself, one definition for each place that
calls `serialize`. `argc` and `argv` are filled by hand at every place, with
the narrowing the source has.
-/

namespace GramsTof.PacketSenders

open ByteWords CommandCodec CommandDefs

/-- `GRAMS_TOF_CommandClient::run`: the size of the received packet goes back
as the only argument. -/
def commandClientAck (pkt : Packet) : Packet :=
  { code := pkt.code, argc := 1, argv := [] ++ [Int32.ofNat (getPacketSize pkt)] }

/-- `GRAMS_TOF_CommandServer::run`: `argc` says one, `argv` is cleared. -/
def commandServerAck : Packet :=
  { code := toCommCode .ack, argc := 1, argv := [] }

def sendCallback (args : List Int32) : Packet :=
  { code := toCommCode .callback, argc := UInt16.ofNat args.length, argv := args }

def sendHeartbeat : Packet :=
  { code := toCommCode .heartBeat, argc := 0, argv := [] }

def callbackPkt (code : TOFCommandCode) : Packet :=
  { code := tofCode 0xFFE, argc := UInt16.ofNat [code.value.toUInt32.toInt32].length
    argv := [code.value.toUInt32.toInt32] }

/-- A place that emits a packet, with the data the packet is made of. -/
inductive Sender where
  | commandClient (received : Packet)
  | commandServer (received : Packet)
  | eventCallback (args : List Int32)
  | heartbeatLoop
  | eventHeartbeat
  | daqController (received : Packet)
  deriving DecidableEq, Repr

def Sender.packet : Sender → Packet
  | .commandClient received => commandClientAck received
  | .commandServer _ => commandServerAck
  | .eventCallback args => sendCallback args
  | .heartbeatLoop => sendHeartbeat
  | .eventHeartbeat => sendHeartbeat
  | .daqController received => callbackPkt (toTOFCommand received.code)

/-- `argc` counts `argv`, `serialize` stays inside `argv`, and the receiver's
`parse` gives the same packet back. -/
def WellFormed (packet : Packet) : Prop :=
  packet.argc.toNat = packet.argv.length ∧
    ∃ bytes, serialize packet none = .ok bytes ∧
      ∀ outPacket, parse bytes outPacket = .ok (true, packet)

/-- The senders whose packet the receiver reads back: all but the server's
ACK, and a callback as long as its arguments fit the decoder's limit. -/
def Sender.Delivers : Sender → Prop
  | .commandServer _ => False
  | .eventCallback args => args.length ≤ 32
  | _ => True

theorem well_formed_iff_valid (packet : Packet) : WellFormed packet ↔ Valid packet := by
  constructor
  · rintro ⟨_, bytes, _, parsed⟩
    exact ((parse_true_iff bytes packet packet).mp (parsed packet)).1
  · intro valid
    refine ⟨valid.counted, wire packet, serialize_counted packet valid.counted, fun outPacket => ?_⟩
    have whole := parse_wire packet valid [] outPacket
    rwa [List.append_nil] at whole

theorem callback_valid_iff (args : List Int32) : Valid (sendCallback args) ↔ args.length ≤ 32 := by
  constructor
  · exact fun valid => valid.bounded
  · intro bounded
    refine ⟨?_, bounded⟩
    have fits : args.length < 65536 := by omega
    simp [Counted, sendCallback, Nat.mod_eq_of_lt fits]

theorem server_ack_fault (fixedCrc : Option UInt16) :
    serialize commandServerAck fixedCrc = .error ⟨0, 0⟩ :=
  serialize_fault commandServerAck fixedCrc (by decide)

/-- The packets of the program are well formed at every sender but the
server's ACK, for as many callback arguments as the decoder admits. -/
theorem sender_well_formed_iff (sender : Sender) : WellFormed sender.packet ↔ sender.Delivers := by
  rw [well_formed_iff_valid]
  cases sender with
  | commandClient received =>
      exact ⟨fun _ => trivial, fun _ => ⟨rfl, Nat.one_le_ofNat⟩⟩
  | commandServer received =>
      -- `argc` is one and `argv` empty
      refine ⟨fun valid => ?_, False.elim⟩
      have counted : Counted commandServerAck := valid.counted
      exact absurd counted (by decide)
  | eventCallback args => exact callback_valid_iff args
  | heartbeatLoop => exact ⟨fun _ => trivial, fun _ => ⟨rfl, Nat.zero_le _⟩⟩
  | eventHeartbeat => exact ⟨fun _ => trivial, fun _ => ⟨rfl, Nat.zero_le _⟩⟩
  | daqController received =>
      exact ⟨fun _ => trivial, fun _ => ⟨rfl, Nat.one_le_ofNat⟩⟩

/-- The ACK of the server for an accepted START_DAQ cannot be serialized. -/
theorem server_ack_ill_formed :
    serialize (Sender.commandServer ⟨0x5000, 0, []⟩).packet none = .error ⟨0, 0⟩ ∧
      ¬ ∀ sender : Sender, WellFormed sender.packet := by
  refine ⟨server_ack_fault none, fun all => ?_⟩
  obtain ⟨counted, _⟩ := all (.commandServer ⟨0x5000, 0, []⟩)
  exact absurd counted (by decide)

end GramsTof.PacketSenders
