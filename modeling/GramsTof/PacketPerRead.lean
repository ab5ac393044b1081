import GramsTof.CommandReceive

/-!
The read loops of `GRAMS_TOF_EventClient::run` and `GRAMS_TOF_CommandServer::run`.
Both parse what one `recv` returned as one packet from its first byte and keep
nothing for the next. A piece that does not parse is dropped and the connection
stays up; what follows the packet in a piece is dropped as well.
-/

namespace GramsTof.PacketPerRead

open ByteWords CommandCodec ClientSocket PacketSenders StreamFraming CommandReceive

/-- The variables of `GRAMS_TOF_EventClient::run`, and the calls of `handler_`. -/
structure EventSession where
  client : Client
  handled : List Packet
  active : Bool
  deriving DecidableEq, Repr

def EventSession.close (session : EventSession) : EventSession :=
  { session with client := session.client.closeFD, active := false }

def EventSession.connect (session : EventSession) (client : Client) : EventSession :=
  { session with client := client, active := true }

/-- One return of `epoll_pwait` with an event in `GRAMS_TOF_EventClient::run`. -/
def eventReceive (session : EventSession) (ready : Ready) : Checked EventSession := do
  if session.active = false then return session
  let (n, bytes, client) := session.client.recvData bufferSize ready.read ready.errnoBlocks
  let session := { session with client := client }
  if n ≤ 0 ∨ ready.lost = true then return session.close
  let (parsed, pkt) ← parse bytes ⟨0, 0, []⟩
  return if parsed then { session with handled := session.handled ++ [pkt] } else session

def eventRunConnection (session : EventSession) (connection : Connection) :
    Checked EventSession :=
  connection.events.foldlM eventReceive (session.connect connection.client)

/-- One client of `GRAMS_TOF_CommandServer::run`. `acks` counts the calls of
`sendData`, whose result the server does not look at. -/
structure ServerSession where
  client : Client
  outputs : List Output
  acks : Nat
  active : Bool
  deriving DecidableEq, Repr

def ServerSession.close (session : ServerSession) : ServerSession :=
  { session with client := session.client.closeFD, active := false }

def ServerSession.accept (session : ServerSession) (client : Client) : ServerSession :=
  { session with client := client, active := true }

/-- One event for an accepted client in `GRAMS_TOF_CommandServer::run`. -/
def serverReceive (answers : Nat → SendAnswers) (session : ServerSession) (ready : Ready) :
    Checked ServerSession := do
  if session.active = false then return session
  let (n, bytes, client) := session.client.recvData bufferSize ready.read ready.errnoBlocks
  let session := { session with client := client }
  if n ≤ 0 ∨ ready.lost = true then return session.close
  let (parsed, pkt) ← parse bytes ⟨0, 0, []⟩
  if parsed = false then return session
  -- `serialize` is called twice, for `data()` and for `size()`
  let data ← serialize commandServerAck none
  let _ ← serialize commandServerAck none
  let sent := session.client.sendData data (answers session.acks)
  return { session with
    outputs := session.outputs ++ [.ack sent.bytes, .handler pkt]
    acks := session.acks + 1 }

def serverRunConnection (answers : Nat → SendAnswers) (session : ServerSession)
    (connection : Connection) : Checked ServerSession :=
  connection.events.foldlM (serverReceive answers) (session.accept connection.client)

def handlerCall : Output → Option Packet
  | .ack _ => none
  | .handler pkt => some pkt

/-- The calls of `handler_` among the outputs, in order. -/
def handlerCalls (outputs : List Output) : List Packet := outputs.filterMap handlerCall

@[simp] theorem handler_calls_append (left right : List Output) :
    handlerCalls (left ++ right) = handlerCalls left ++ handlerCalls right :=
  List.filterMap_append

@[simp] theorem handler_calls_refused (bytes : List UInt8) : handlerCalls [.ack bytes] = [] := rfl

@[simp] theorem handler_calls_delivered (bytes : List UInt8) (pkt : Packet) :
    handlerCalls [.ack bytes, .handler pkt] = [pkt] := rfl

@[simp] theorem handler_calls_outputs (pkts : List Packet) :
    handlerCalls (outputsOf pkts) = pkts := by
  induction pkts with
  | nil => rfl
  | cons pkt rest ih => exact congrArg (pkt :: ·) ih

/-- What the packet at the start of one read is; the rest is dropped. -/
def packetAtStart (bytes : List UInt8) : Option Packet :=
  match parse bytes ⟨0, 0, []⟩ with
  | .ok (true, pkt) => some pkt
  | _ => none

theorem packet_at_start_iff (bytes : List UInt8) (pkt : Packet) :
    packetAtStart bytes = some pkt ↔ Valid pkt ∧ ∃ rest, bytes = wire pkt ++ rest := by
  rw [← parse_true_iff bytes ⟨0, 0, []⟩ pkt, packetAtStart]
  obtain ⟨parsed, read, result, _⟩ := parse_exact bytes ⟨0, 0, []⟩
  cases parsed <;> simp [result]

theorem packet_at_start_wire (pkt : Packet) (valid : Valid pkt) :
    packetAtStart (wire pkt) = some pkt :=
  (packet_at_start_iff _ _).mpr ⟨valid, [], (List.append_nil _).symm⟩

theorem event_receive_taken (session : EventSession) (opened : session.client.Open)
    (active : session.active = true) (bytes : List UInt8) (some : bytes ≠ [])
    (fits : bytes.length ≤ bufferSize) (errnoBlocks : Bool) :
    eventReceive session ⟨false, .data bytes, errnoBlocks⟩ =
      .ok { session with handled := session.handled ++ (packetAtStart bytes).toList } := by
  have positive : 0 < bytes.length := List.length_pos_iff.mpr some
  have counted : ¬ (bytes.length : Int) ≤ 0 := by omega
  have processing : ¬ session.active = false := by simp [active]
  obtain ⟨parsed, pkt, result, _⟩ := parse_exact bytes ⟨0, 0, []⟩
  rw [eventReceive, if_neg processing, recv_passes_data session.client opened bufferSize bytes fits]
  simp only [counted, Bool.false_eq_true, or_self, if_false, packetAtStart, result, ok_bind]
  cases parsed <;> simp

theorem event_receive_lost (session : EventSession) (opened : session.client.Open)
    (active : session.active = true) (ready : Ready) (fits : ready.Fits)
    (ends : ready.taken = none) : eventReceive session ready = .ok session.close := by
  have processing : ¬ session.active = false := by simp [active]
  obtain ⟨n, bytes, read, ended⟩ := recv_ends session.client opened ready fits ends
  rw [eventReceive, if_neg processing, read]
  simp only [if_pos ended]
  rfl

theorem event_receive_closed (session : EventSession) (inactive : session.active = false)
    (ready : Ready) : eventReceive session ready = .ok session := by
  rw [eventReceive, if_pos inactive]
  rfl

theorem event_run_chunks (session : EventSession) (client : Client) (opened : client.Open)
    (pieces : List (List UInt8)) (chunked : Chunked pieces) :
    eventRunConnection session ⟨client, pieces.map chunk⟩ =
      .ok { session.connect client with
        handled := session.handled ++ pieces.filterMap packetAtStart } := by
  have general : ∀ session : EventSession, session.client.Open → session.active = true →
      (pieces.map chunk).foldlM eventReceive session =
        .ok { session with handled := session.handled ++ pieces.filterMap packetAtStart } := by
    induction pieces with
    | nil => intros; simp
    | cons piece rest ih =>
        intro session opened active
        obtain ⟨some, fits⟩ := chunked piece List.mem_cons_self
        have first := event_receive_taken session opened active piece some fits false
        have later := ih (fun other member => chunked other (List.mem_cons_of_mem _ member))
          { session with handled := session.handled ++ (packetAtStart piece).toList } opened active
        rw [List.map_cons, List.foldlM_cons]
        refine (congrArg (· >>= _) first).trans (later.trans ?_)
        cases read : packetAtStart piece <;> simp [read]
  exact general (session.connect client) opened rfl

/-- No read hands on more bytes than it returned, and it uses all of them only
where it returned exactly one packet. -/
theorem handed_on_length (pieces : List (List UInt8)) (some : ∀ piece ∈ pieces, piece ≠ []) :
    ((pieces.filterMap packetAtStart).flatMap wire).length ≤ pieces.flatten.length ∧
      (pieces.flatten.length ≤ ((pieces.filterMap packetAtStart).flatMap wire).length →
        pieces = (pieces.filterMap packetAtStart).map wire) := by
  induction pieces with
  | nil => exact ⟨Nat.le_refl _, fun _ => rfl⟩
  | cons piece rest ih =>
      obtain ⟨bounded, exactly⟩ := ih fun other member => some other (List.mem_cons_of_mem _ member)
      have positive : 0 < piece.length := List.length_pos_iff.mpr (some piece List.mem_cons_self)
      cases read : packetAtStart piece with
      | none =>
          rw [List.filterMap_cons_none read, List.flatten_cons, List.length_append]
          exact ⟨by omega, fun whole => absurd whole (by omega)⟩
      | some pkt =>
          obtain ⟨_, dropped, layout⟩ := (packet_at_start_iff piece pkt).mp read
          have extent := congrArg List.length layout
          rw [List.length_append] at extent
          rw [List.filterMap_cons_some read, List.flatten_cons, List.flatMap_cons,
            List.length_append, List.length_append]
          refine ⟨by omega, fun whole => ?_⟩
          have none : dropped = [] := List.length_eq_zero_iff.mp (by omega)
          rw [List.map_cons, ← exactly (by omega), layout, none, List.append_nil]

theorem handed_on_iff (pkts : List Packet) (valid : ∀ pkt ∈ pkts, Valid pkt)
    (pieces : List (List UInt8)) (some : ∀ piece ∈ pieces, piece ≠ [])
    (stream : pieces.flatten = pkts.flatMap wire) :
    pieces.filterMap packetAtStart = pkts ↔ pieces = pkts.map wire := by
  constructor
  · intro handed
    have whole := (handed_on_length pieces some).2
    rw [handed, stream] at whole
    exact whole (Nat.le_refl _)
  · rintro rfl
    clear some stream
    induction pkts with
    | nil => rfl
    | cons pkt rest ih =>
        rw [List.map_cons, List.filterMap_cons_some (packet_at_start_wire pkt
          (valid pkt List.mem_cons_self)), ih fun other member =>
            valid other (List.mem_cons_of_mem pkt member)]

/-- A piece that starts with a packet makes the server index the empty `argv`
of its ACK, before `handler_` is called. -/
theorem server_receive_chunk (answers : Nat → SendAnswers) (session : ServerSession)
    (opened : session.client.Open) (active : session.active = true) (bytes : List UInt8)
    (some : bytes ≠ []) (fits : bytes.length ≤ bufferSize) :
    serverReceive answers session (chunk bytes) =
      if (packetAtStart bytes).isSome then .error ⟨0, 0⟩ else .ok session := by
  have positive : 0 < bytes.length := List.length_pos_iff.mpr some
  have counted : ¬ (bytes.length : Int) ≤ 0 := by omega
  have processing : ¬ session.active = false := by simp [active]
  have read := recv_passes_data session.client opened bufferSize bytes fits false
  obtain ⟨parsed, pkt, result, _⟩ := parse_exact bytes ⟨0, 0, []⟩
  rw [serverReceive, if_neg processing]
  simp only [chunk, read, counted, Bool.false_eq_true, or_self, if_false, packetAtStart, result,
    ok_bind]
  cases parsed with
  | false => simp
  | true => simp [server_ack_fault]

theorem server_run_chunks (answers : Nat → SendAnswers) (session : ServerSession)
    (client : Client) (opened : client.Open) (pieces : List (List UInt8))
    (chunked : Chunked pieces) :
    serverRunConnection answers session ⟨client, pieces.map chunk⟩ =
      if pieces.filterMap packetAtStart = [] then .ok (session.accept client)
      else .error ⟨0, 0⟩ := by
  have general : (pieces.map chunk).foldlM (serverReceive answers) (session.accept client) =
      if pieces.filterMap packetAtStart = [] then .ok (session.accept client)
      else .error ⟨0, 0⟩ := by
    induction pieces with
    | nil => rfl
    | cons piece rest ih =>
        obtain ⟨some, fits⟩ := chunked piece List.mem_cons_self
        have first := server_receive_chunk answers (session.accept client) opened rfl piece some fits
        have later := ih fun other member => chunked other (List.mem_cons_of_mem _ member)
        rw [List.map_cons, List.foldlM_cons, first]
        cases read : packetAtStart piece with
        | none => simpa [read] using later
        | some pkt => simp [read]
  exact general

/-- The calls of `handler_` on a connection are `pkts`, in this order. -/
def ClientDelivers (answers : Nat → SendAnswers) (session : Session) (connection : Connection)
    (pkts : List Packet) : Prop :=
  ∃ after, runConnection answers session connection = .ok after ∧
    handlerCalls after.outputs = handlerCalls session.outputs ++ pkts

def EventDelivers (session : EventSession) (connection : Connection) (pkts : List Packet) :
    Prop :=
  ∃ after, eventRunConnection session connection = .ok after ∧
    after.handled = session.handled ++ pkts

def ServerDelivers (answers : Nat → SendAnswers) (session : ServerSession)
    (connection : Connection) (pkts : List Packet) : Prop :=
  ∃ after, serverRunConnection answers session connection = .ok after ∧
    handlerCalls after.outputs = handlerCalls session.outputs ++ pkts

theorem client_delivers_stream (answers : Nat → SendAnswers) (succeed : AcksSucceed answers)
    (session : Session) (client : Client) (opened : client.Open) (pkts : List Packet)
    (valid : ∀ pkt ∈ pkts, Valid pkt) (pieces : List (List UInt8)) (chunked : Chunked pieces)
    (stream : pieces.flatten = pkts.flatMap wire) :
    ClientDelivers answers session ⟨client, pieces.map chunk⟩ pkts := by
  have drained : packetFramer.drain (pkts.flatMap wire) = (pkts, some []) := by
    have kept := drain_packets pkts valid ⟨0, 0, []⟩ ⟨rfl, Nat.zero_le _⟩ [] (wire ⟨0, 0, []⟩)
      (List.ne_nil_of_length_pos (by rw [wire_length]; omega)) rfl
    rwa [List.append_nil] at kept
  refine ⟨_, run_chunks answers succeed session client opened pieces chunked, ?_⟩
  rw [stream, drained, settled_outputs, handler_calls_append, handler_calls_outputs]
  rfl

/-- What the three receivers make of the same stream. The reassembling one
delivers it whole however it was cut; the event client only where every `recv`
returned exactly one packet; the server not even one packet. -/
theorem receivers_deliver_iff (answers : Nat → SendAnswers) (client : Client)
    (opened : client.Open) (pkts : List Packet) (valid : ∀ pkt ∈ pkts, Valid pkt)
    (pieces : List (List UInt8)) (chunked : Chunked pieces)
    (stream : pieces.flatten = pkts.flatMap wire) :
    (AcksSucceed answers → ∀ session,
      ClientDelivers answers session ⟨client, pieces.map chunk⟩ pkts) ∧
    (∀ session, EventDelivers session ⟨client, pieces.map chunk⟩ pkts ↔
      pieces = pkts.map wire) ∧
    ∀ session, ServerDelivers answers session ⟨client, pieces.map chunk⟩ pkts ↔ pkts = [] := by
  have some : ∀ piece ∈ pieces, piece ≠ [] := fun piece member => (chunked piece member).1
  refine ⟨fun succeed session => client_delivers_stream answers succeed session client opened
    pkts valid pieces chunked stream, fun session => ?_, fun session => ?_⟩
  · rw [← handed_on_iff pkts valid pieces some stream, EventDelivers,
      event_run_chunks session client opened pieces chunked]
    simp
  · rw [ServerDelivers, server_run_chunks answers session client opened pieces chunked]
    constructor
    · rintro ⟨after, ran, delivered⟩
      split_ifs at ran with none
      cases ran
      simpa [ServerSession.accept] using delivered
    · rintro rfl
      have empty : pieces = [] := by
        cases pieces with
        | nil => rfl
        | cons piece rest =>
            have := some piece List.mem_cons_self
            simp_all
      exact ⟨session.accept client, by rw [empty]; rfl, by simp [ServerSession.accept]⟩

theorem receivers_deliver_iff_coalesced :
    (AcksSucceed (fun _ => ⟨[.accepted 18], .wouldBlock⟩) → ∀ session,
      ClientDelivers (fun _ => ⟨[.accepted 18], .wouldBlock⟩) session
        ⟨⟨5, some 5, []⟩, [wire ⟨0x5000, 0, []⟩ ++ wire ⟨0x5001, 0, []⟩].map chunk⟩
        [⟨0x5000, 0, []⟩, ⟨0x5001, 0, []⟩]) ∧
    (∀ session, EventDelivers session
        ⟨⟨5, some 5, []⟩, [wire ⟨0x5000, 0, []⟩ ++ wire ⟨0x5001, 0, []⟩].map chunk⟩
        [⟨0x5000, 0, []⟩, ⟨0x5001, 0, []⟩] ↔
      [wire ⟨0x5000, 0, []⟩ ++ wire ⟨0x5001, 0, []⟩] =
        [⟨0x5000, 0, []⟩, ⟨0x5001, 0, []⟩].map wire) ∧
    ∀ session, ServerDelivers (fun _ => ⟨[.accepted 18], .wouldBlock⟩) session
        ⟨⟨5, some 5, []⟩, [wire ⟨0x5000, 0, []⟩ ++ wire ⟨0x5001, 0, []⟩].map chunk⟩
        [⟨0x5000, 0, []⟩, ⟨0x5001, 0, []⟩] ↔
      [(⟨0x5000, 0, []⟩ : Packet), ⟨0x5001, 0, []⟩] = [] :=
  receivers_deliver_iff (fun _ => ⟨[.accepted 18], .wouldBlock⟩) ⟨5, some 5, []⟩
    ⟨by decide, rfl, rfl⟩ [⟨0x5000, 0, []⟩, ⟨0x5001, 0, []⟩]
    (by intro pkt member; fin_cases member <;> exact ⟨by decide, by decide⟩)
    [wire ⟨0x5000, 0, []⟩ ++ wire ⟨0x5001, 0, []⟩]
    (by unfold Chunked bufferSize; decide +kernel) (by simp)

/-- START_DAQ and STOP_DAQ in one `recv`: the event client hands on the first
only, and the server faults. -/
theorem coalesced_packets_lost :
    eventRunConnection ⟨⟨-1, none, []⟩, [], false⟩
        ⟨⟨5, some 5, []⟩, [wire ⟨0x5000, 0, []⟩ ++ wire ⟨0x5001, 0, []⟩].map chunk⟩ =
      .ok ⟨⟨5, some 5, []⟩, [⟨0x5000, 0, []⟩], true⟩ ∧
    serverRunConnection (fun _ => ⟨[.accepted 18], .wouldBlock⟩) ⟨⟨-1, none, []⟩, [], 0, false⟩
        ⟨⟨5, some 5, []⟩, [wire ⟨0x5000, 0, []⟩ ++ wire ⟨0x5001, 0, []⟩].map chunk⟩ =
      .error ⟨0, 0⟩ := by
  decide +kernel

end GramsTof.PacketPerRead
