import GramsTof.CommandSerials
import GramsTof.NativeStruct

/-!
The requests that `Connection` of daqd.py packs, and the replies that it unpacks, over
`PETSYS::Client`: what a session asks of the frame server. Both sides pad their
structures as the host does. Each `recv` of both sides returns all that it asks for.
-/

namespace GramsTof.DaqSession

open DaqRequests CommandSerials NativeStruct

/-- The requests of `Connection`, with the method that makes them. -/
inductive Query where
  /-- `__getSharedMemoryInfo` -/
  | sharedMemoryInfo
  /-- `__getActivePorts` -/
  | activePorts
  /-- `getDAQTemp` -/
  | daqTemp
  /-- `__daqdGateMode` -/
  | gateMode (mode : UInt32)
  /-- `__setAcquisitionMode` -/
  | acquisitionMode (mode : UInt16)
  /-- A try of `sendCommand`. -/
  | commandTry (sn : Nat) (call : Call)
  /-- `__getDataFrameWriteReadPointer` -/
  | writeReadPointer
  /-- `__setDataFrameReadPointer` -/
  | setReadPointer (rdPointer : UInt32)
  /-- `__synchronizeDataToConfig` -/
  | minimumFrameID (targetFrameID : UInt64)
  /-- `getPortCounts` -/
  | portCounts (port : UInt16)

def Query.command : Query → Nat
  | .sharedMemoryInfo => 0x02
  | .activePorts => 0x06
  | .daqTemp => 0x14
  | .gateMode _ => 0x12
  | .acquisitionMode _ => 0x01
  | .commandTry _ _ => 0x05
  | .writeReadPointer => 0x03
  | .setReadPointer _ => 0x04
  | .minimumFrameID _ => 0x13
  | .portCounts _ => 0x07

def Query.fields : Query → List NativeStruct.Field
  | .gateMode mode => [⟨4, mode.toNat⟩]
  | .acquisitionMode mode => [⟨2, mode.toNat⟩]
  | .setReadPointer rdPointer => [⟨4, rdPointer.toNat⟩]
  | .minimumFrameID targetFrameID => [⟨8, targetFrameID.toNat⟩]
  | .portCounts port => [⟨2, port.toNat⟩]
  | _ => []

def Query.appended : Query → List UInt8
  | .commandTry sn call => rawFrame sn call
  | _ => []

/-- `n`; an acquisition mode and a frame are packed in a structure of their own. -/
def Query.size (query : Query) : Nat :=
  match query with
  | .acquisitionMode _ => calcsize 0 [2, 2] + calcsize 0 [2]
  | .minimumFrameID _ => calcsize 0 [2, 2] + calcsize 0 [8]
  | _ => calcsize 0 (2 :: 2 :: query.fields.map NativeStruct.Field.width) + query.appended.length

/-- `struct.pack` fills the gaps with 0. -/
def structPack (fields : List NativeStruct.Field) : List UInt8 := pack (fun _ => 0) 0 fields

def Query.bytes (query : Query) : List UInt8 :=
  let header : List NativeStruct.Field := [⟨2, query.command⟩, ⟨2, query.size⟩]
  match query with
  | .acquisitionMode _ => structPack header ++ structPack query.fields
  | .minimumFrameID _ => structPack header ++ structPack query.fields
  | _ => structPack (header ++ query.fields) ++ query.appended

/-- What the frame server is meant to be asked. -/
def Query.request : Query → Request
  | .sharedMemoryInfo => .getDataFrameSharedMemoryName
  | .activePorts => .getPortUp
  | .daqTemp => .getDAQTemp
  | .gateMode mode => .setGateEnable mode.toNat
  | .acquisitionMode mode => if mode.toNat ≠ 0 then .startAcquisition 1 else .stopAcquisition
  | .commandTry sn call =>
      .sendCommand call.portID.toInt8.toInt call.slaveID.toInt8.toInt (commandOf sn call)
  | .writeReadPointer => .getDataFrameWriteReadPointer
  | .setReadPointer rdPointer => .setDataFrameReadPointer rdPointer.toNat
  | .minimumFrameID targetFrameID => .setMinimumFrameID targetFrameID.toNat
  | .portCounts port => .getPortCounts port.toNat

/-! The replies -/

inductive Answer where
  | sharedMemory (name : List UInt8) (s0 p1 s1 : Nat)
  | ports (reply : List Nat)
  /-- In hundredths. -/
  | temperatures (reply : List Nat)
  | done
  | pointers (wrPointer rdPointer : Nat)
  | errorAcquisitionStopped
  | counts (tx rx rxBad : Nat)
  | reply (reply : Option (List UInt8))
  | assertionError
  deriving DecidableEq, Repr

def recv (n : Nat) (stream : List UInt8) : Option (List UInt8 × List UInt8) :=
  if n ≤ stream.length then some (stream.take n, stream.drop n) else none

def recvStruct (widths : List Nat) (stream : List UInt8) : Option (List Nat × List UInt8) :=
  (recv (calcsize 0 widths) stream).map fun (data, stream) => (unpack 0 widths data, stream)

def portsOf (mask : Nat) : List Nat := (List.range (12 * 16)).filter fun n => mask.testBit n

def temperaturesOf (temps : Nat) : List Nat :=
  (List.range 4).map fun n => (temps >>> (n * 16)) &&& 0xFFFF

/-- What a method makes of the bytes it receives, and the bytes it leaves. -/
def Query.read (query : Query) (stream : List UInt8) : Option (Answer × List UInt8) :=
  match query with
  | .sharedMemoryInfo =>
      (recvStruct [2, 8, 8, 8] stream).bind fun
        | ([length, s0, p1, s1], stream) =>
            (recv (length - calcsize 0 [2, 8, 8, 8]) stream).map fun (name, stream) =>
              (.sharedMemory name s0 p1 s1, stream)
        | _ => none
  | .activePorts =>
      (recvStruct [2, 8] stream).bind fun
        | ([_, mask], stream) => some (.ports (portsOf mask), stream)
        | _ => none
  | .daqTemp =>
      (recvStruct [2, 8] stream).bind fun
        | ([_, temps], stream) => some (.temperatures (temperaturesOf temps), stream)
        | _ => none
  | .gateMode _ => (recvStruct [4] stream).map fun (_, stream) => (.done, stream)
  | .acquisitionMode _ => (recv 2 stream).map fun (_, stream) => (.done, stream)
  | .commandTry _ _ =>
      (recvStruct [2] stream).bind fun
        | ([nn], stream) =>
            if nn < 18 then some (.reply none, stream)
            else (recv nn stream).map fun (data, stream) => (.reply (some (data.drop 17)), stream)
        | _ => none
  | .writeReadPointer =>
      (recvStruct [2, 4, 4, 4] stream).bind fun
        | ([_, wrPointer, rdPointer, amAcquiring], stream) =>
            if amAcquiring = 0 then some (.errorAcquisitionStopped, stream)
            else some (.pointers wrPointer rdPointer, stream)
        | _ => none
  | .setReadPointer rdPointer =>
      (recvStruct [4] stream).bind fun
        | ([r2], stream) =>
            if r2 = rdPointer.toNat then some (.done, stream) else some (.assertionError, stream)
        | _ => none
  | .minimumFrameID _ => (recv 4 stream).map fun (_, stream) => (.done, stream)
  | .portCounts _ =>
      (recvStruct [2, 8, 8, 8] stream).bind fun
        | ([_, tx, rx, rxBad], stream) => some (.counts tx rx rxBad, stream)
        | _ => none

/-! The request that arrives -/

def Query.body (query : Query) : List UInt8 := structPack query.fields ++ query.appended

theorem structPack_length (fields : List NativeStruct.Field) :
    (structPack fields).length = calcsize 0 (fields.map NativeStruct.Field.width) := by
  rw [structPack, ← pack_length (fun _ => 0), Nat.zero_add]

theorem Query.body_length (query : Query) : query.body.length + 4 = query.size := by
  rw [Query.body, List.length_append, structPack_length]
  cases query with
  | commandTry sn call => simp [Query.fields, Query.appended, Query.size, calcsize, gap, Nat.add_comm]
  | _ => simp [Query.fields, Query.appended, Query.size, calcsize, gap]

theorem Query.body_short (query : Query) : query.body.length ≤ 2048 := by
  rw [Query.body, List.length_append, structPack_length]
  cases query with
  | commandTry sn call =>
      have fits := call.fits
      have serials : (serialBytes sn).length = 16 := by
        rw [serialBytes, List.length_map, List.length_range]
      show 0 + (rawFrame sn call).length ≤ 2048
      rw [rawFrame, commandOf, List.length_cons, List.length_cons, List.length_append, serials,
        List.length_cons]
      omega
  | _ => simp [Query.fields, Query.appended, calcsize, gap]

def Query.message (query : Query) : Message where
  type := UInt16.ofNat query.command
  length := UInt16.ofNat query.size
  body := query.body
  counted := by
    have short := query.body_short
    have size := query.body_length
    rw [UInt16.toNat_ofNat', ← size, Nat.mod_eq_of_lt (by omega)]
    rfl

theorem word_bytes (value : Nat) (short : value < 2 ^ 16) :
    [(UInt16.ofNat value).toUInt8, (UInt16.ofNat value >>> 8).toUInt8] = lowFirst 2 value := by
  have low : (UInt16.ofNat value).toUInt8 = UInt8.ofNat value := by
    apply UInt8.toNat_inj.mp
    rw [UInt16.toNat_toUInt8, UInt16.toNat_ofNat', UInt8.toNat_ofNat']
    omega
  have high : (UInt16.ofNat value >>> 8).toUInt8 = UInt8.ofNat (value / 256) := by
    apply UInt8.toNat_inj.mp
    rw [UInt16.toNat_toUInt8, UInt16.toNat_shiftRight, UInt16.toNat_ofNat', UInt8.toNat_ofNat',
      Nat.shiftRight_eq_div_pow]
    show value % 2 ^ 16 / 2 ^ 8 % 2 ^ 8 = value / 256 % 2 ^ 8
    omega
  rw [low, high]
  rfl

/-- A field of 8 bytes would leave a gap behind the header. -/
theorem joined (header : List NativeStruct.Field) (query : Query)
    (four : calcsize 0 (header.map NativeStruct.Field.width) = 4)
    (aligned : ∀ field ∈ query.fields, gap 4 field.width = 0) :
    structPack (header ++ query.fields) ++ query.appended = structPack header ++ query.body := by
  have same : pack (fun _ => 0) 4 query.fields = structPack query.fields := by
    cases query <;> first
      | rfl
      | exact (pack_aligned _ _ _ _ (aligned _ List.mem_cons_self)).trans
          (pack_aligned _ _ _ _ (gap_start _)).symm
  rw [structPack, pack_append, four, same, Query.body, List.append_assoc]
  rfl

theorem Query.message_bytes (query : Query) :
    query.message.header ++ query.message.body = query.bytes := by
  have size := query.body_length
  have short := query.body_short
  have number : query.command < 2 ^ 16 := by cases query <;> simp [Query.command]
  have header : query.message.header = structPack [⟨2, query.command⟩, ⟨2, query.size⟩] := by
    rw [structPack, pack_cons_aligned _ _ _ _ _ rfl, pack_aligned _ _ _ _ rfl,
      ← word_bytes _ number, ← word_bytes query.size (by omega)]
    rfl
  have behind (aligned : ∀ field ∈ query.fields, gap 4 field.width = 0) :=
    joined [⟨2, query.command⟩, ⟨2, query.size⟩] query (by simp [calcsize, gap]) aligned
  rw [header]
  cases query with
  | acquisitionMode mode => exact congrArg _ (List.append_nil _)
  | minimumFrameID targetFrameID => exact congrArg _ (List.append_nil _)
  | _ => exact (behind (by simp [Query.fields, gap])).symm

/-- Both calls of `recv` return all. -/
def Query.delivery (query : Query) : Delivery := ⟨4, query.body.length⟩

theorem Query.length_toNat (query : Query) : query.message.length.toNat = query.body.length + 4 := by
  have short := query.body_short
  show (UInt16.ofNat query.size).toNat = _
  rw [← query.body_length, UInt16.toNat_ofNat', Nat.mod_eq_of_lt (by omega)]

theorem Query.type_toNat (query : Query) : query.message.type.toNat = query.command := by
  show (UInt16.ofNat query.command).toNat = _
  rw [UInt16.toNat_ofNat', Nat.mod_eq_of_lt]
  cases query <;> simp [Query.command]

theorem Query.whole (query : Query) : Whole query.message query.delivery := by
  refine ⟨rfl, fun _ => ?_⟩
  rw [query.length_toNat]
  show (query.body.length : Int) = _ - 4
  omega

theorem number_lowFirst (buffer : Buffer) (offset width value : Nat)
    (agree : ∀ index < width, buffer (offset + index) = (lowFirst width value).getD index 0) :
    number buffer offset width = value % 256 ^ width := by
  induction width generalizing offset value with
  | zero => exact (Nat.mod_one value).symm
  | succ width ih =>
      have here := agree 0 (Nat.succ_pos _)
      have rest := ih (offset + 1) (value / 256) fun index inside => by
        have later := agree (index + 1) (Nat.succ_lt_succ inside)
        rw [Nat.add_assoc, Nat.add_comm 1 index, later]
        rfl
      rw [Nat.add_zero] at here
      rw [number, here, rest, lowFirst, List.getD_cons_zero, UInt8.toNat_ofNat',
        Nat.pow_succ' (n := width)]
      exact (Nat.mod_mul).symm

section Served
variable (received : Buffer) (query : Query)
  (agree : ∀ index < query.body.length, received (headerSize + index) = query.body.getD index 0)
include agree

theorem number_received (width value : Nat) (body : query.body = lowFirst width value) :
    number received headerSize width = value % 256 ^ width := by
  refine number_lowFirst received headerSize width value fun index inside => ?_
  rw [← body]
  refine agree index ?_
  rw [body, lowFirst_length]
  exact inside

end Served

theorem command_received (received : Buffer) (sn : Nat) (call : Call)
    (agree : ∀ index < (rawFrame sn call).length,
      received (headerSize + index) = (rawFrame sn call).getD index 0) :
    doCommandToFrontEnd received (rawFrame sn call).length =
      .served (Query.commandTry sn call).request := by
  have short := (Query.commandTry sn call).body_short
  have length : (rawFrame sn call).length = (commandOf sn call).length + 2 := rfl
  have some' : 17 ≤ (commandOf sn call).length := by
    rw [commandOf, List.length_append, serialBytes, List.length_map, List.length_range,
      List.length_cons]
    omega
  have bound : (rawFrame sn call).length ≤ 2048 := short
  have command : ((List.range ((rawFrame sn call).length - 2)).map fun index =>
      received (headerSize + 2 + index)) = commandOf sn call := by
    refine List.ext_getElem? fun index => ?_
    rcases Nat.lt_or_ge index (commandOf sn call).length with inside | beyond
    · have byte := agree (2 + index) (by omega)
      rw [List.getElem?_map, List.getElem?_range (by omega), Option.map_some, Nat.add_assoc, byte,
        Nat.add_comm 2 index, rawFrame, List.getD_cons_succ, List.getD_cons_succ,
        List.getD_eq_getElem?_getD, List.getElem?_eq_getElem inside]
      rfl
    · rw [List.getElem?_eq_none (by rw [List.length_map, List.length_range]; omega),
        List.getElem?_eq_none beyond]
  have port := agree 0 (by omega)
  have slave := agree 1 (by omega)
  rw [doCommandToFrontEnd, if_neg (by unfold commandBufferSize; omega), Int.toNat_natCast, command]
  rw [Nat.add_zero] at port
  rw [port, slave]
  rfl

theorem query_served (buffer : Buffer) (query : Query) :
    (handleRequest buffer query.message query.delivery).1 = .served query.request := by
  have fits : ¬ Oversize query.message := by
    have short := query.body_short
    unfold Oversize socketBufferSize
    rw [query.length_toNat]
    omega
  obtain ⟨received, outcome, agree⟩ := handle_whole buffer query.whole fits
  have next : (query.message.length.toNat : Int) - headerSize = query.body.length := by
    rw [query.length_toNat]
    show ((query.body.length + 4 : Nat) : Int) - 4 = _
    omega
  rw [outcome, next, query.type_toNat]
  have field (width value : Nat) (body : query.body = structPack [⟨width, value⟩] ++ [])
      (short : value < 256 ^ width) : number received headerSize width = value := by
    rw [structPack, pack_aligned _ _ _ _ (gap_start _), List.append_nil] at body
    rw [number_received received query agree width value body, Nat.mod_eq_of_lt short]
  cases query with
  | sharedMemoryInfo => rfl
  | activePorts => rfl
  | daqTemp => rfl
  | writeReadPointer => rfl
  | commandTry sn call => exact command_received received sn call agree
  | gateMode mode =>
      have value := field 4 mode.toNat rfl mode.toNat_lt
      exact congrArg (fun value => Outcome.served (.setGateEnable value)) value
  | acquisitionMode mode =>
      have value := field 2 mode.toNat rfl mode.toNat_lt
      show doAcqOnOff received = .served (if mode.toNat ≠ 0 then _ else _)
      rw [doAcqOnOff, value, apply_ite Outcome.served]
  | setReadPointer rdPointer =>
      have value := field 4 rdPointer.toNat rfl rdPointer.toNat_lt
      exact congrArg (fun value => Outcome.served (.setDataFrameReadPointer value)) value
  | minimumFrameID targetFrameID =>
      have value := field 8 targetFrameID.toNat rfl targetFrameID.toNat_lt
      exact congrArg (fun value => Outcome.served (.setMinimumFrameID value)) value
  | portCounts port =>
      have value := field 2 port.toNat rfl port.toNat_lt
      exact congrArg (fun value => Outcome.served (.getPortCounts value)) value

/-! A session -/

section Session
variable {State : Type} (server : FrameServer State)

/-- What a method does to the frame server and returns, were it called there. -/
def Query.direct (state : State) : Query → State × Answer
  | .sharedMemoryInfo =>
      (state, .sharedMemory (server.getDataFrameSharedMemoryName state)
        (8 * RawFrame.maxRawDataFrameSize) 0 0)
  | .activePorts => (state, .ports (portsOf (server.getPortUp state % 2 ^ 64)))
  | .daqTemp => (state, .temperatures (temperaturesOf (server.getDAQTemp state % 2 ^ 64)))
  | .gateMode mode => ((server.setGateEnable mode.toNat state).1, .done)
  | .acquisitionMode mode =>
      (if mode.toNat ≠ 0 then server.startAcquisition 1 state else server.stopAcquisition state,
        .done)
  | .commandTry sn call =>
      let (state, replyLength, reply) := server.sendCommand call.portID.toInt8.toInt
        call.slaveID.toInt8.toInt (commandOf sn call) state
      (state, .reply (if replyLength = 0 then none
        else some ((reply.take replyLength.toNat).drop 17)))
  | .writeReadPointer =>
      (state, if server.amAcquiring state then
          .pointers (server.getDataFrameWritePointer state % 2 ^ 32)
            (server.getDataFrameReadPointer state % 2 ^ 32)
        else .errorAcquisitionStopped)
  | .setReadPointer rdPointer => (server.setDataFrameReadPointer rdPointer.toNat state, .done)
  | .minimumFrameID targetFrameID =>
      ((server.setMinimumFrameID targetFrameID.toNat state).1, .done)
  | .portCounts port =>
      (state, .counts (server.getPortCounts port.toNat 0 state % 2 ^ 64)
        (server.getPortCounts port.toNat 1 state % 2 ^ 64)
        (server.getPortCounts port.toNat 2 state % 2 ^ 64))

/-- The name fits the length in front of it, and a reply of the front end is none or
one that `sendCommand` takes. -/
def Query.Fits (state : State) : Query → Prop
  | .sharedMemoryInfo => (server.getDataFrameSharedMemoryName state).length + 32 < 2 ^ 16
  | .commandTry sn call =>
      let (_, replyLength, reply) := server.sendCommand call.portID.toInt8.toInt
        call.slaveID.toInt8.toInt (commandOf sn call) state
      replyLength = 0 ∨ 18 ≤ replyLength ∧ replyLength < 2 ^ 16 ∧ replyLength ≤ reply.length
  | _ => True

/-- A request with its reply: the buffer of `Client`, the frame server, and the bytes
that `Connection` has not read. -/
def exchange (buffer : Buffer) (state : State) (stream : List UInt8) (query : Query)
    (fill : Nat → UInt8) : Option (Buffer × State × List UInt8 × Answer) :=
  let (outcome, buffer) := handleRequest buffer query.message query.delivery
  (outcome.perform server state).bind fun (state, fields) =>
    (query.read (stream ++ sent fill fields)).map fun (answer, stream) =>
      (buffer, state, stream, answer)

def session : Buffer → State → List UInt8 → List (Query × (Nat → UInt8)) →
    Option (State × List UInt8 × List Answer)
  | _, state, stream, [] => some (state, stream, [])
  | buffer, state, stream, (query, fill) :: rest =>
      (exchange server buffer state stream query fill).bind fun (buffer, state, stream, answer) =>
        (session buffer state stream rest).map fun (state, stream, answers) =>
          (state, stream, answer :: answers)

def directly (state : State) : List Query → State × List Answer
  | [] => (state, [])
  | query :: rest =>
      let (next, answer) := query.direct server state
      let (final, answers) := directly next rest
      (final, answer :: answers)

def FitAlong (state : State) : List Query → Prop
  | [] => True
  | query :: rest => query.Fits server state ∧ FitAlong (query.direct server state).1 rest

end Session

theorem recv_all (n : Nat) (data rest : List UInt8) (length : data.length = n) :
    recv n (data ++ rest) = some (data, rest) := by
  rw [recv, if_pos (by rw [List.length_append]; omega), List.take_left' length,
    List.drop_left' length]

theorem recvStruct_pack (fill : Nat → UInt8) (fields : List NativeStruct.Field)
    (rest : List UInt8) :
    recvStruct (fields.map NativeStruct.Field.width) (pack fill 0 fields ++ rest) =
      some (fields.map fun field => field.value % 256 ^ field.width, rest) := by
  have length := pack_length fill 0 fields
  rw [Nat.zero_add] at length
  have unpacked := unpack_pack fill 0 fields []
  rw [List.append_nil] at unpacked
  rw [recvStruct, recv_all _ _ _ length, Option.map_some]
  exact congrArg (fun values => some (values, rest)) unpacked

theorem reply_length_read (fill : Nat → UInt8) (replyLength : Int) (reply : List UInt8)
    (short : 0 ≤ replyLength ∧ replyLength < 2 ^ 16) :
    recvStruct [2] (sent fill [.u16 (replyLength % 2 ^ 16).toNat, .bytes reply]) =
      some ([replyLength.toNat], reply) := by
  have read := recvStruct_pack fill [⟨2, (replyLength % 2 ^ 16).toNat⟩] reply
  have same : (replyLength % 2 ^ 16).toNat % 256 ^ 2 = replyLength.toNat := by omega
  simp only [List.map_cons, List.map_nil, same] at read
  simp only [sent, List.filterMap, numberOf, List.flatMap_cons, List.flatMap_nil, bytesOf,
    List.nil_append, List.append_nil]
  exact read

theorem status_sent (fill : Nat → UInt8) (status : Int) :
    sent fill [.i32 status] = lowFirst 4 (status % 2 ^ 32).toNat := by
  simp only [sent, List.filterMap, numberOf, List.flatMap_cons, List.flatMap_nil, bytesOf,
    List.append_nil]
  exact pack_aligned fill 0 4 _ (gap_start 4)

section Exchange
variable {State : Type} (server : FrameServer State) (state : State) (fill : Nat → UInt8)

theorem number_read (number : Nat) :
    recvStruct [2, 8] (sent fill [.u16 16, .u64 number]) = some ([16, number % 2 ^ 64], []) :=
  recvStruct_pack fill [⟨2, 16⟩, ⟨8, number⟩] []

theorem status_read (status : Int) :
    recvStruct [4] (sent fill [.i32 status]) =
      some ([valueOf (lowFirst 4 (status % 2 ^ 32).toNat)], []) := by
  rw [status_sent]
  rfl

theorem shared_memory_info_read
    (room : (server.getDataFrameSharedMemoryName state).length + 32 < 2 ^ 16) :
    Query.sharedMemoryInfo.read
        (sent fill (server.perform state Query.sharedMemoryInfo.request).2) =
      some ((Query.sharedMemoryInfo.direct server state).2, []) := by
  have read := recvStruct_pack fill
    [⟨2, (32 + (server.getDataFrameSharedMemoryName state).length) % 2 ^ 16⟩,
      ⟨8, 8 * RawFrame.maxRawDataFrameSize⟩, ⟨8, 0⟩, ⟨8, 0⟩]
    (server.getDataFrameSharedMemoryName state)
  have size : (32 + (server.getDataFrameSharedMemoryName state).length) % 2 ^ 16 % 256 ^ 2 -
      calcsize 0 [2, 8, 8, 8] = (server.getDataFrameSharedMemoryName state).length := by
    rw [show calcsize 0 [2, 8, 8, 8] = 32 from rfl]
    omega
  have name := recv_all _ (server.getDataFrameSharedMemoryName state) [] size.symm
  rw [List.append_nil] at name
  simp only [Query.read, Query.request, FrameServer.perform, sent, List.filterMap, numberOf,
    List.flatMap_cons, List.flatMap_nil, bytesOf, List.nil_append, List.append_nil]
  simp only [List.map_cons, List.map_nil] at read
  simp only [read, Option.bind_some, name]
  rfl

theorem command_try_read (sn : Nat) (call : Call) (replyLength : Int) (reply : List UInt8)
    (enough : replyLength = 0 ∨
      18 ≤ replyLength ∧ replyLength < 2 ^ 16 ∧ replyLength ≤ reply.length) :
    (Query.commandTry sn call).read (sent fill
        [.u16 (replyLength % 2 ^ 16).toNat, .bytes (sentOf replyLength reply)]) =
      some (.reply (if replyLength = 0 then none
        else some ((reply.take replyLength.toNat).drop 17)), []) := by
  have read := reply_length_read fill replyLength (reply.take replyLength.toNat) (by omega)
  have taken : sentOf replyLength reply = reply.take replyLength.toNat := if_neg (by omega)
  simp only [taken, Query.read, read]
  rcases enough with rfl | ⟨long, _, there⟩
  · rfl
  · have all := recv_all replyLength.toNat (reply.take replyLength.toNat) []
      (by rw [List.length_take]; omega)
    rw [List.append_nil] at all
    rw [if_neg (by omega), Option.bind_some]
    show (if replyLength.toNat < 18 then _ else _) = _
    rw [if_neg (by omega), all]
    rfl

/-- What is read of the reply is what the method returns, and no byte is left. -/
theorem reply_read (query : Query) (fits : query.Fits server state) :
    (server.perform state query.request).1 = (query.direct server state).1 ∧
      query.read (sent fill (server.perform state query.request).2) =
        some ((query.direct server state).2, []) := by
  cases query with
  | sharedMemoryInfo => exact ⟨rfl, shared_memory_info_read server state fill fits⟩
  | activePorts =>
      have read := number_read fill (server.getPortUp state)
      refine ⟨rfl, ?_⟩
      simp only [Query.read, Query.request, FrameServer.perform, read]
      rfl
  | daqTemp =>
      have read := number_read fill (server.getDAQTemp state)
      refine ⟨rfl, ?_⟩
      simp only [Query.read, Query.request, FrameServer.perform, read]
      rfl
  | gateMode mode =>
      refine ⟨rfl, ?_⟩
      simp only [Query.read, Query.request, FrameServer.perform, status_read fill]
      rfl
  | acquisitionMode mode =>
      have read : recv 2 (sent fill [.u16 0]) = some (lowFirst 2 0, []) := rfl
      by_cases on : mode.toNat ≠ 0
      · simp only [Query.request, Query.direct, if_pos on, FrameServer.perform, Query.read, read]
        exact ⟨trivial, rfl⟩
      · simp only [Query.request, Query.direct, if_neg on, FrameServer.perform, Query.read, read]
        exact ⟨trivial, rfl⟩
  | commandTry sn call =>
      rcases answered : server.sendCommand call.portID.toInt8.toInt call.slaveID.toInt8.toInt
        (commandOf sn call) state with ⟨next, replyLength, reply⟩
      simp only [Query.Fits, answered] at fits
      have read := command_try_read fill sn call replyLength reply fits
      simp only [Query.request, Query.direct, FrameServer.perform, answered, read]
      exact ⟨trivial, trivial⟩
  | writeReadPointer =>
      have read : recvStruct [2, 4, 4, 4] (sent fill [.u16 16,
          .u32 (server.getDataFrameWritePointer state), .u32 (server.getDataFrameReadPointer state),
          .u32 (if server.amAcquiring state then 1 else 0)]) = some ([16,
            server.getDataFrameWritePointer state % 2 ^ 32,
            server.getDataFrameReadPointer state % 2 ^ 32,
            (if server.amAcquiring state then 1 else 0) % 2 ^ 32], []) :=
        recvStruct_pack fill [⟨2, 16⟩, ⟨4, server.getDataFrameWritePointer state⟩,
          ⟨4, server.getDataFrameReadPointer state⟩,
          ⟨4, if server.amAcquiring state then 1 else 0⟩] []
      refine ⟨rfl, ?_⟩
      simp only [Query.read, Query.request, FrameServer.perform, read, Query.direct]
      cases server.amAcquiring state <;> rfl
  | setReadPointer rdPointer =>
      have read : recvStruct [4] (sent fill [.u32 rdPointer.toNat]) =
          some ([rdPointer.toNat % 2 ^ 32], []) := recvStruct_pack fill [⟨4, rdPointer.toNat⟩] []
      refine ⟨rfl, ?_⟩
      simp only [Query.read, Query.request, FrameServer.perform, read, Option.bind_some,
        Nat.mod_eq_of_lt rdPointer.toNat_lt, if_true]
      rfl
  | minimumFrameID targetFrameID =>
      have read (status : Int) : recv 4 (sent fill [.i32 status]) =
          some (sent fill [.i32 status], []) := by
        have all := recv_all 4 (lowFirst 4 (status % 2 ^ 32).toNat) [] (lowFirst_length _ _)
        rwa [List.append_nil, ← status_sent fill] at all
      refine ⟨rfl, ?_⟩
      simp only [Query.read, Query.request, FrameServer.perform, read]
      rfl
  | portCounts port =>
      have read : recvStruct [2, 8, 8, 8] (sent fill [.u16 32,
          .u64 (server.getPortCounts port.toNat 0 state),
          .u64 (server.getPortCounts port.toNat 1 state),
          .u64 (server.getPortCounts port.toNat 2 state)]) = some ([32,
            server.getPortCounts port.toNat 0 state % 2 ^ 64,
            server.getPortCounts port.toNat 1 state % 2 ^ 64,
            server.getPortCounts port.toNat 2 state % 2 ^ 64], []) :=
        recvStruct_pack fill [⟨2, 32⟩, ⟨8, server.getPortCounts port.toNat 0 state⟩,
          ⟨8, server.getPortCounts port.toNat 1 state⟩,
          ⟨8, server.getPortCounts port.toNat 2 state⟩] []
      refine ⟨rfl, ?_⟩
      simp only [Query.read, Query.request, FrameServer.perform, read]
      rfl

/-- A reply of 1 to 17 bytes is left where the next length is read. -/
theorem short_reply_left (sn : Nat) (call : Call) (replyLength : Int) (reply : List UInt8)
    (short : 0 ≤ replyLength ∧ replyLength < 18) :
    (Query.commandTry sn call).read
        (sent fill [.u16 (replyLength % 2 ^ 16).toNat, .bytes (reply.take replyLength.toNat)]) =
      some (.reply none, reply.take replyLength.toNat) := by
  have read := reply_length_read fill replyLength (reply.take replyLength.toNat) (by omega)
  simp only [Query.read, read]
  show (if replyLength.toNat < 18 then _ else _) = _
  rw [if_pos (by omega)]

theorem exchange_direct (buffer : Buffer) (query : Query) (fits : query.Fits server state) :
    ∃ left, exchange server buffer state [] query fill =
      some (left, (query.direct server state).1, [], (query.direct server state).2) := by
  obtain ⟨effect, read⟩ := reply_read server state fill query fits
  have served := query_served buffer query
  refine ⟨(handleRequest buffer query.message query.delivery).2, ?_⟩
  rw [exchange]
  dsimp only
  rw [served, Outcome.perform, Option.bind_some, List.nil_append, ← effect]
  simp only [read]
  rfl

end Exchange

/-- Whatever a session finds in the buffer of the daemon and in the gaps of the replies,
it does to the frame server, and returns, what the methods would if they were called
there, and leaves no byte behind. -/
theorem session_direct {State : Type} (server : FrameServer State) (buffer : Buffer)
    (state : State) (queries : List (Query × (Nat → UInt8)))
    (fits : FitAlong server state (queries.map Prod.fst)) :
    session server buffer state [] queries =
      some ((directly server state (queries.map Prod.fst)).1, [],
        (directly server state (queries.map Prod.fst)).2) := by
  induction queries generalizing buffer state with
  | nil => rfl
  | cons asked rest ih =>
      obtain ⟨query, fill⟩ := asked
      obtain ⟨here, later⟩ := fits
      obtain ⟨left, exchanged⟩ := exchange_direct server state fill buffer query here
      have behind := ih left _ later
      rw [session, exchanged, Option.bind_some]
      dsimp only at behind ⊢
      rw [behind]
      rfl

/-- Every command gets the front end's number back, and a status. -/
def echoServer : FrameServer Nat where
  startAcquisition := fun mode _ => mode
  stopAcquisition := fun _ => 0
  getDataFrameSharedMemoryName := fun _ => [47, 115]
  getDataFrameWritePointer := fun _ => 3
  getDataFrameReadPointer := fun _ => 0
  amAcquiring := fun state => state != 0
  setDataFrameReadPointer := fun _ state => state
  sendCommand := fun _ _ command state => (state, 18, command.take 16 ++ [1, 9])
  getPortUp := fun _ => 5
  getDAQTemp := fun _ => 0
  getPortCounts := fun _ _ _ => 0
  setSorter := fun _ state => state
  setCoincidenceTrigger := fun _ state => (state, -1)
  setIdleTimeCalculation := fun _ state => state
  setGateEnable := fun _ state => (state, -1)
  setMinimumFrameID := fun _ state => (state, 0)

theorem session_direct_echo :
    session echoServer (fun _ => 0xFF) 0 []
        [(.sharedMemoryInfo, fun _ => 7), (.activePorts, fun _ => 8),
          (.commandTry 6 lateCall, fun _ => 9), (.acquisitionMode 1, fun _ => 0),
          (.writeReadPointer, fun _ => 1)] =
      some (1, [], [.sharedMemory [47, 115] 65568 0 0, .ports [0, 2], .reply (some [9]), .done,
        .pointers 3 0]) :=
  session_direct echoServer (fun _ => 0xFF) 0 _
    ⟨show 34 < 2 ^ 16 by decide, trivial, Or.inr (show 18 ≤ (18 : Int) ∧ _ by decide), trivial,
      trivial, trivial⟩

end GramsTof.DaqSession
