import GramsTof.ClientSocket
import GramsTof.PacketSenders

/-!
`GRAMS_TOF_EventClient::sendPacket` over one connection. A call hands the
kernel a front piece of the serialized packet, cut where the kernel refuses.
The return value of `sendData` is tested for being nonzero, so `-1` counts as
success and the connection stays up after a cut.
-/

namespace GramsTof.EventSend

open ByteWords CommandCodec CommandDefs PacketSenders ClientSocket

/-- The result of a call, and the bytes it made the kernel take. -/
structure Handed where
  packet : Packet
  success : Bool
  bytes : List UInt8
  deriving DecidableEq, Repr

def sendPacket (hubConnection : Option Client) (packet : Packet) (answers : SendAnswers) :
    Checked Handed := do
  let serializedData ← serialize packet none
  if serializedData = [] then return { packet := packet, success := false, bytes := [] }
  match hubConnection with
  | none => return { packet := packet, success := false, bytes := [] }
  | some client =>
      let sent := client.sendData serializedData answers
      -- a negative count is true as well
      return { packet := packet, success := sent.result != 0, bytes := sent.bytes }

structure Call where
  packet : Packet
  answers : SendAnswers
  deriving DecidableEq, Repr

/-- Calls are serialized by `connectionMutex_`; none of them changes the
connection. -/
def sendAll (client : Client) : List Call → Checked (List Handed)
  | [] => return []
  | call :: rest => do
      let handed ← sendPacket (some client) call.packet call.answers
      let later ← sendAll client rest
      return handed :: later

/-- Whole serialized packets, then at most one truncated packet, then nothing.
Calls that handed over no byte do not show in the stream. -/
def Framed (log : List Handed) : Prop :=
  ∃ whole cut, log.filter (fun handed => handed.bytes != []) = whole ++ cut ∧
    cut.length ≤ 1 ∧ (∀ handed ∈ whole, serialize handed.packet none = .ok handed.bytes) ∧
    ∀ handed ∈ cut, ∃ bytes, serialize handed.packet none = .ok bytes ∧ handed.bytes <+: bytes

/-- `argc` asks for no value `argv` does not have; else `serialize` reads past
the end of `argv`. -/
def Serializable (packet : Packet) : Prop := packet.argc.toNat ≤ packet.argv.length

instance (packet : Packet) : Decidable (Serializable packet) :=
  inferInstanceAs (Decidable (_ ≤ _))

/-- No call is cut short by the kernel inside its packet while a later call
still gets bytes accepted. -/
def NoneAfterCut (calls : List Call) : Prop :=
  calls.Pairwise fun earlier later =>
    capacity earlier.answers.progress = 0 ∨
      getPacketSize earlier.packet ≤ capacity earlier.answers.progress ∨
      capacity later.answers.progress = 0

instance (calls : List Call) : Decidable (NoneAfterCut calls) :=
  inferInstanceAs (Decidable (calls.Pairwise _))

def handedOver (call : Call) : Handed :=
  { packet := call.packet
    success :=
      (sendLoop (wire (written call.packet)) 0 call.answers.progress
        call.answers.refusal).result != 0
    bytes := (wire (written call.packet)).take (capacity call.answers.progress) }

theorem send_packet_open (client : Client) (opened : client.Open) (call : Call)
    (enough : Serializable call.packet) :
    sendPacket (some client) call.packet call.answers = .ok (handedOver call) := by
  have some : wire (written call.packet) ≠ [] :=
    List.ne_nil_of_length_pos (by rw [wire_length]; omega)
  simp [sendPacket, serialize_written call.packet enough, some, send_open client opened,
    handedOver, send_loop_bytes]

theorem send_all_open (client : Client) (opened : client.Open) (calls : List Call)
    (enough : ∀ call ∈ calls, Serializable call.packet) :
    sendAll client calls = .ok (calls.map handedOver) := by
  induction calls with
  | nil => rfl
  | cons call rest ih =>
      have later := ih (fun other member => enough other (List.mem_cons_of_mem call member))
      simp [sendAll, send_packet_open client opened call (enough call List.mem_cons_self), later]

theorem handed_truncated (call : Call) (enough : Serializable call.packet) :
    ∃ bytes, serialize call.packet none = .ok bytes ∧ (handedOver call).bytes <+: bytes :=
  ⟨wire (written call.packet), serialize_written call.packet enough, List.take_prefix _ _⟩

theorem handed_empty_iff (call : Call) :
    (handedOver call).bytes = [] ↔ capacity call.answers.progress = 0 := by
  have extent := wire_length (written call.packet)
  rw [← List.length_eq_zero_iff, handedOver, List.length_take]
  omega

theorem handed_whole_iff (call : Call) (enough : Serializable call.packet) :
    serialize call.packet none = .ok (handedOver call).bytes ↔
      getPacketSize call.packet ≤ capacity call.answers.progress := by
  have extent : (wire (written call.packet)).length = getPacketSize call.packet := by
    rw [wire_length, ← written_counted call.packet enough]
    rfl
  rw [serialize_written call.packet enough, Except.ok.injEq, eq_comm, handedOver,
    List.take_eq_self_iff, extent]

theorem pairwise_left_iff {Value : Type} (holds : Value → Prop) (values : List Value) :
    values.Pairwise (fun earlier _ => holds earlier) ↔
      ∃ front last, values = front ++ last ∧ last.length ≤ 1 ∧ ∀ value ∈ front, holds value := by
  constructor
  · intro ordered
    induction values with
    | nil => exact ⟨[], [], rfl, by simp, by simp⟩
    | cons value rest ih =>
        obtain ⟨first, later⟩ := List.pairwise_cons.mp ordered
        cases rest with
        | nil => exact ⟨[], [value], rfl, by simp, by simp⟩
        | cons next tail =>
            obtain ⟨front, last, split, short, all⟩ := ih later
            refine ⟨value :: front, last, by rw [split]; rfl, short, ?_⟩
            intro other member
            rcases List.mem_cons.mp member with same | old
            · exact same ▸ first next List.mem_cons_self
            · exact all other old
  · rintro ⟨front, last, rfl, short, all⟩
    refine List.pairwise_append.mpr ⟨?_, ?_, fun value member _ _ => all value member⟩
    · exact List.pairwise_iff_forall_sublist.mpr fun sub =>
        all _ (sub.subset List.mem_cons_self)
    · match last, short with
      | [], _ => exact List.Pairwise.nil
      | [value], _ => exact List.pairwise_singleton _ _

/-- Over the calls of one connection, framing is lost exactly when a packet
is cut inside and bytes of a later packet follow. -/
theorem framed_iff (calls : List Call) (enough : ∀ call ∈ calls, Serializable call.packet) :
    Framed (calls.map handedOver) ↔ NoneAfterCut calls := by
  have visible : Framed (calls.map handedOver) ↔
      ((calls.map handedOver).filter (fun handed => handed.bytes != [])).Pairwise
        (fun earlier _ => serialize earlier.packet none = .ok earlier.bytes) := by
    rw [pairwise_left_iff fun handed : Handed => serialize handed.packet none = .ok handed.bytes]
    constructor
    · rintro ⟨whole, cut, split, short, all, _⟩
      exact ⟨whole, cut, split, short, all⟩
    · rintro ⟨whole, cut, split, short, all⟩
      refine ⟨whole, cut, split, short, all, fun handed member => ?_⟩
      have kept : handed ∈ (calls.map handedOver).filter (fun handed => handed.bytes != []) := by
        rw [split]
        exact List.mem_append_right _ member
      obtain ⟨call, made, rfl⟩ := List.mem_map.mp (List.mem_filter.mp kept).1
      exact handed_truncated call (enough call made)
  -- silent calls drop out of the pairs on both sides
  rw [visible, List.pairwise_filter, List.pairwise_map]
  refine List.Pairwise.iff_of_mem fun {earlier later} earlierIn laterIn => ?_
  simp only [bne_iff_ne, ne_eq, handed_empty_iff]
  have same : (handedOver earlier).packet = earlier.packet := rfl
  rw [same, handed_whole_iff _ (enough earlier earlierIn)]
  tauto

def stream (log : List Handed) : List UInt8 := log.flatMap Handed.bytes

theorem stream_visible (log : List Handed) :
    stream (log.filter (fun handed => handed.bytes != [])) = stream log := by
  induction log with
  | nil => rfl
  | cons handed rest ih =>
      simp only [stream] at ih
      by_cases silent : handed.bytes = [] <;> simp [stream, silent, ih]

/-- The bytes are whole serialized packets, then a front piece of at most one
more. -/
def WholePackets (bytes : List UInt8) : Prop :=
  ∃ (whole : List (List UInt8)) (tail : List UInt8), bytes = whole.flatten ++ tail ∧
    (∀ piece ∈ whole, ∃ packet, serialize packet none = .ok piece) ∧
    (tail = [] ∨ ∃ packet piece, serialize packet none = .ok piece ∧ tail <+: piece)

theorem framed_stream (log : List Handed) (framed : Framed log) : WholePackets (stream log) := by
  obtain ⟨whole, cut, split, short, all, pieces⟩ := framed
  refine ⟨whole.map Handed.bytes, stream cut, ?_, ?_, ?_⟩
  · rw [← stream_visible, split, ← List.flatMap_def]
    exact List.flatMap_append
  · intro piece member
    obtain ⟨handed, inside, rfl⟩ := List.mem_map.mp member
    exact ⟨handed.packet, all handed inside⟩
  · match cut, short with
    | [], _ => exact Or.inl rfl
    | [handed], _ =>
        obtain ⟨piece, encoded, front⟩ := pieces handed (List.mem_singleton_self handed)
        exact Or.inr ⟨handed.packet, piece, encoded, by simpa [stream] using front⟩

/-- Every call of a connection that is up goes through, and the stream stays
framed exactly when no bytes follow a packet the kernel cut short. -/
theorem send_all_framed_iff (client : Client) (opened : client.Open) (calls : List Call)
    (enough : ∀ call ∈ calls, Serializable call.packet) :
    ∃ log, sendAll client calls = .ok log ∧ (Framed log ↔ NoneAfterCut calls) ∧
      (Framed log → WholePackets (stream log)) :=
  ⟨calls.map handedOver, send_all_open client opened calls enough, framed_iff calls enough,
    framed_stream _⟩

/-- Two callbacks on a slow peer: 5 bytes of the first fit, all 18 of the
second follow. -/
def cutCalls : List Call :=
  [{ packet := ⟨0x5FFE, 1, [0x5000]⟩
     answers := { progress := [.accepted 5], refusal := .wouldBlock } },
   { packet := ⟨0x5FFE, 1, [0x5001]⟩
     answers := { progress := [.interrupted, .accepted 18], refusal := .wouldBlock } }]

def liveClient : Client := { fd := 7, registered := some 7, readBuffer := [] }

theorem live_client_open : liveClient.Open := ⟨by decide, rfl, rfl⟩

theorem cut_calls_serializable : ∀ call ∈ cutCalls, Serializable call.packet := by decide

theorem send_all_framed_cut :
    ∃ log, sendAll liveClient cutCalls = .ok log ∧ (Framed log ↔ NoneAfterCut cutCalls) ∧
      (Framed log → WholePackets (stream log)) :=
  send_all_framed_iff liveClient live_client_open cutCalls cut_calls_serializable

/-- The second callback is sent behind the cut one, and both calls report
success. -/
theorem cut_stream_not_framed :
    ∃ log, sendAll liveClient cutCalls = .ok log ∧ log.map Handed.success = [true, true] ∧
      ¬ Framed log :=
  ⟨cutCalls.map handedOver,
    send_all_open liveClient live_client_open cutCalls cut_calls_serializable, by decide,
    by rw [framed_iff cutCalls cut_calls_serializable]; decide⟩

/-- The log line after the call of `sendPacket`. -/
inductive CallbackLog where
  | sent
  | failed
  deriving DecidableEq, Repr

/-- The end of `GRAMS_TOF_DAQController::handleIncomingCommand`, after the
dispatch. -/
def handleIncomingCommand (hubConnection : Option Client) (pkt : Packet) (answers : SendAnswers) :
    Checked (Handed × CallbackLog) := do
  let handed ← sendPacket hubConnection (callbackPkt (toTOFCommand pkt.code)) answers
  return (handed, if handed.success then .sent else .failed)

/-- The call returns true exactly when the kernel took every byte. -/
def ReportsTruth (hubConnection : Option Client) (packet : Packet) (answers : SendAnswers) :
    Prop :=
  ∃ handed bytes, sendPacket hubConnection packet answers = .ok handed ∧
    serialize packet none = .ok bytes ∧ (handed.success = true ↔ handed.bytes = bytes)

/-- A CALLBACK is logged as sent only when it was sent whole. -/
def LogsTruth (hubConnection : Option Client) (pkt : Packet) (answers : SendAnswers) : Prop :=
  ∃ handed log bytes, handleIncomingCommand hubConnection pkt answers = .ok (handed, log) ∧
    serialize (callbackPkt (toTOFCommand pkt.code)) none = .ok bytes ∧
    (log = .sent → handed.bytes = bytes)

/-- `sendData` gets as far as `::send`. -/
def Usable (client : Client) : Prop := 0 ≤ client.fd ∧ ∃ fd ∈ client.registered, 2 < fd

/-- There is no connection, or one that takes `size` bytes. -/
def TakesWhole (hubConnection : Option Client) (size : Nat) (answers : SendAnswers) : Prop :=
  ∀ client ∈ hubConnection, Usable client ∧ size ≤ capacity answers.progress

theorem send_usable (client : Client) (usable : Usable client) (data : List UInt8)
    (answers : SendAnswers) :
    client.sendData data answers = sendLoop data 0 answers.progress answers.refusal := by
  obtain ⟨positive, fd, registered, above⟩ := usable
  simp [Client.sendData, sendToClient, safeSendData, Option.mem_def.mp registered,
    show ¬ client.fd < 0 by omega, show ¬ fd ≤ 2 by omega]

theorem send_unusable (client : Client) (unusable : ¬ Usable client) (data : List UInt8)
    (answers : SendAnswers) : client.sendData data answers = { result := -1, bytes := [] } := by
  rw [Client.sendData]
  by_cases closed : client.fd < 0
  · rw [if_pos closed]
  · rw [if_neg closed]
    cases registered : client.registered with
    | none => rfl
    | some fd =>
        have low : fd ≤ 2 := by
          by_contra above
          exact unusable ⟨by omega, fd, registered, by omega⟩
        rw [sendToClient, safeSendData, if_pos low]

theorem send_data_result (client : Client) (data : List UInt8) (some : data ≠ [])
    (answers : SendAnswers) :
    (client.sendData data answers).result ≠ 0 ∧
      ((client.sendData data answers).bytes = data ↔
        Usable client ∧ data.length ≤ capacity answers.progress) := by
  by_cases usable : Usable client
  · rw [send_usable client usable, send_loop_bytes, List.take_eq_self_iff]
    refine ⟨?_, by simp [usable]⟩
    by_cases covered : data.length ≤ capacity answers.progress
    · have positive : 0 < data.length := List.length_pos_iff.mpr some
      rw [send_loop_covered _ _ _ _ covered]
      omega
    · rw [send_loop_refused _ _ _ _ (by omega)]
      decide
  · rw [send_unusable client usable]
    exact ⟨by decide, fun whole => absurd whole.symm some, fun both => absurd both.1 usable⟩

/-- On any connection the call returns true, whatever the kernel took. -/
theorem send_packet_reports (hubConnection : Option Client) (packet : Packet)
    (answers : SendAnswers) (enough : Serializable packet) :
    ∃ handed, sendPacket hubConnection packet answers = .ok handed ∧
      handed.success = hubConnection.isSome ∧
      (handed.bytes = wire (written packet) ↔ ∃ client ∈ hubConnection, Usable client ∧
        getPacketSize packet ≤ capacity answers.progress) := by
  have some : wire (written packet) ≠ [] :=
    List.ne_nil_of_length_pos (by rw [wire_length]; omega)
  have extent : (wire (written packet)).length = getPacketSize packet := by
    rw [wire_length, ← written_counted packet enough]
    rfl
  cases hubConnection with
  | none =>
      refine ⟨{ packet := packet, success := false, bytes := [] }, ?_, rfl, ?_⟩
      · simp [sendPacket, serialize_written packet enough]
      · exact ⟨fun whole => absurd whole.symm some, fun ⟨_, member, _⟩ => by cases member⟩
  | some client =>
      obtain ⟨nonzero, whole⟩ := send_data_result client (wire (written packet)) some answers
      let sent := client.sendData (wire (written packet)) answers
      refine ⟨{ packet := packet, success := sent.result != 0, bytes := sent.bytes }, ?_, ?_, ?_⟩
      · simp [sendPacket, serialize_written packet enough, some, sent]
      · simpa [sent] using nonzero
      · rw [extent] at whole
        simpa using whole

theorem unserializable_faults (hubConnection : Option Client) (packet : Packet)
    (answers : SendAnswers) (beyond : ¬ Serializable packet) :
    ∃ missed, sendPacket hubConnection packet answers = .error missed := by
  obtain ⟨missed, fault⟩ : ∃ missed, serialize packet none = .error missed :=
    ⟨_, serialize_fault packet none (by rw [Serializable] at beyond; omega)⟩
  exact ⟨missed, by simp [sendPacket, fault]⟩

theorem reports_truth_iff (hubConnection : Option Client) (packet : Packet)
    (answers : SendAnswers) :
    ReportsTruth hubConnection packet answers ↔
      Serializable packet ∧ TakesWhole hubConnection (getPacketSize packet) answers := by
  by_cases enough : Serializable packet
  · obtain ⟨handed, called, success, whole⟩ :=
      send_packet_reports hubConnection packet answers enough
    rw [ReportsTruth, called, serialize_written packet enough]
    cases hubConnection with
    | none => simp_all [TakesWhole]
    | some client => simp_all [TakesWhole]
  · obtain ⟨missed, fault⟩ := unserializable_faults hubConnection packet answers enough
    exact ⟨fun ⟨_, _, called, _⟩ => (by rw [fault] at called; cases called),
      fun both => absurd both.1 enough⟩

theorem logs_truth_iff (hubConnection : Option Client) (pkt : Packet) (answers : SendAnswers) :
    LogsTruth hubConnection pkt answers ↔
      TakesWhole hubConnection (getPacketSize (callbackPkt (toTOFCommand pkt.code))) answers := by
  have enough : Serializable (callbackPkt (toTOFCommand pkt.code)) := Nat.le_refl 1
  obtain ⟨handed, called, success, whole⟩ :=
    send_packet_reports hubConnection (callbackPkt (toTOFCommand pkt.code)) answers enough
  rw [LogsTruth, handleIncomingCommand, called, serialize_written _ enough]
  cases hubConnection with
  | none => simp_all [TakesWhole]
  | some client => simp_all [TakesWhole]

/-- `sendPacket` reports the truth, and the log after it, exactly where there
is no connection or one that takes the whole packet: every failure of
`sendData` is a `-1`, which is true. -/
theorem send_packet_truthful_iff (hubConnection : Option Client) (answers : SendAnswers) :
    (∀ packet, ReportsTruth hubConnection packet answers ↔
      Serializable packet ∧ TakesWhole hubConnection (getPacketSize packet) answers) ∧
    ∀ pkt, LogsTruth hubConnection pkt answers ↔ TakesWhole hubConnection 18 answers :=
  ⟨fun packet => reports_truth_iff hubConnection packet answers,
    fun pkt => logs_truth_iff hubConnection pkt answers⟩

/-- The peer takes 5 of the 18 bytes: `sendPacket` returns true and the
CALLBACK of START_DAQ is logged as sent. -/
theorem cut_callback_logged_sent :
    handleIncomingCommand (some liveClient) ⟨0x5000, 0, []⟩ ⟨[.accepted 5], .wouldBlock⟩ =
      .ok (⟨callbackPkt .startDAQ, true, [0xEB, 0x90, 0x5B, 0x6A, 0x5F]⟩, .sent) ∧
    serialize (callbackPkt .startDAQ) none ≠ .ok [0xEB, 0x90, 0x5B, 0x6A, 0x5F] := by
  decide +kernel

end GramsTof.EventSend
