import GramsTof.ClientSocket
import GramsTof.PacketSenders
import GramsTof.StreamFraming

/-!
The read loop of `GRAMS_TOF_CommandClient::run`: bytes are appended to
`incoming_buffer`, whole packets are cut from its front, acknowledged and given
to the handler. `packetLoop` is the inner `while`, `receive` one return of
`epoll_pwait` with an event, and `runConnection` one turn of the outer loop
over a connected socket. Log output is left out. The packet format is an
instance of a stream framer, and the loop computes that framer's `drain`.
-/

namespace GramsTof.CommandReceive

open ByteWords CommandCodec ClientSocket PacketSenders StreamFraming

def minPacketSize : Nat := 14

def bufferSize : Nat := 1024

/-- What leaves the read loop, in order: the bytes the kernel took of an ACK,
and the calls of `handler_`. -/
inductive Output where
  | ack (bytes : List UInt8)
  | handler (pkt : Packet)
  deriving DecidableEq, Repr

/-- The variables of `run` the read loop works on. `acks` counts the calls of
`sendData`, to pick the kernel's answers. -/
structure Session where
  client : Client
  incoming : List UInt8
  outputs : List Output
  acks : Nat
  active : Bool
  deriving DecidableEq, Repr

/-- `epoll_pwait` reports the socket. `lost` stands for `EPOLLHUP | EPOLLERR`,
`errnoBlocks` for what `errno` says after a negative read. -/
structure Ready where
  lost : Bool
  read : RecvResult
  errnoBlocks : Bool
  deriving DecidableEq, Repr

/-- How a pass of the inner `while` ends. `leave` carries `shouldClose`. -/
inductive Turn where
  | again (session : Session)
  | leave (session : Session) (shouldClose : Bool)
  deriving DecidableEq, Repr

/-- One test and body of the loop over the complete packets in the buffer. The
packet is erased before it is parsed. -/
def packetTurn (answers : Nat → SendAnswers) (session : Session) : Checked Turn := do
  if session.incoming.length < minPacketSize then return .leave session false
  let high ← load session.incoming 6
  let low ← load session.incoming 7
  let argc := join16 high low
  if argc > maxArgc then return .leave session true
  let expectedSize := minPacketSize + argc.toNat * 4
  if session.incoming.length < expectedSize then return .leave session false
  -- `argc` is peeked again by `parse`, from the bytes cut out here
  let packetData := session.incoming.take expectedSize
  let incoming := session.incoming.drop expectedSize
  let (parsed, pkt) ← parse packetData ⟨0, 0, []⟩
  if parsed = false then return .leave { session with incoming := incoming } true
  let serializedAck ← serialize (commandClientAck pkt) none
  let sent := session.client.sendData serializedAck (answers session.acks)
  if sent.result ≤ 0 then
    return .leave { session with
      incoming := incoming
      outputs := session.outputs ++ [.ack sent.bytes]
      acks := session.acks + 1 } true
  return .again { session with
    incoming := incoming
    outputs := session.outputs ++ [.ack sent.bytes, .handler pkt]
    acks := session.acks + 1 }

/-- The flag is `shouldClose`. -/
def packetLoop (answers : Nat → SendAnswers) : Nat → Session → Checked (Session × Bool)
  | 0, session => return (session, false)
  | fuel + 1, session => do
      match ← packetTurn answers session with
      | .again next => packetLoop answers fuel next
      | .leave left shouldClose => return (left, shouldClose)

/-- The cleanup after `shouldClose`. -/
def Session.close (session : Session) : Session :=
  { session with client := session.client.closeFD, incoming := [], active := false }

def receive (answers : Nat → SendAnswers) (session : Session) (ready : Ready) :
    Checked Session := do
  if session.active = false then return session
  let (nRead, bytes, client) :=
    session.client.recvData bufferSize ready.read ready.errnoBlocks
  let session := { session with client := client }
  if nRead ≤ 0 ∨ ready.lost = true then return session.close
  let session := { session with incoming := session.incoming ++ bytes }
  let (session, shouldClose) ← packetLoop answers (session.incoming.length + 1) session
  return if shouldClose then session.close else session

/-- A connected socket, and what `epoll_pwait` reports for it. -/
structure Connection where
  client : Client
  events : List Ready
  deriving DecidableEq, Repr

/-- The start of a turn of the outer loop: a new connection object, and
`incoming_buffer` of the previous turn cleared. -/
def Session.connect (session : Session) (client : Client) : Session :=
  { session with client := client, incoming := [], active := true }

def runConnection (answers : Nat → SendAnswers) (session : Session) (connection : Connection) :
    Checked Session :=
  connection.events.foldlM (receive answers) (session.connect connection.client)

def run (answers : Nat → SendAnswers) (session : Session) (connections : List Connection) :
    Checked Session :=
  connections.foldlM (runConnection answers) session

def chunk (bytes : List UInt8) : Ready :=
  { lost := false, read := .data bytes, errnoBlocks := false }

/-- What the inner loop decides from the front of the buffer. -/
def packetHead (buffer : List UInt8) : Verdict Packet :=
  if buffer.length < minPacketSize then .wait
  else if word16 buffer 6 > maxArgc then .corrupt
  else if buffer.length < minPacketSize + (word16 buffer 6).toNat * 4 then .wait
  else match parse (buffer.take (minPacketSize + (word16 buffer 6).toNat * 4)) ⟨0, 0, []⟩ with
    | .ok (true, pkt) => .frame pkt (minPacketSize + (word16 buffer 6).toNat * 4)
    | _ => .corrupt

theorem word16_front (front more : List UInt8) (offset : Nat)
    (inside : offset + 2 ≤ front.length) :
    word16 (front ++ more) offset = word16 front offset := by
  simp only [word16, List.getD_eq_getElem?_getD]
  rw [List.getElem?_append_left (by omega), List.getElem?_append_left (by omega)]

theorem word16_take (data : List UInt8) (count offset : Nat) (inside : offset + 2 ≤ count)
    (fits : count ≤ data.length) : word16 (data.take count) offset = word16 data offset := by
  have front := word16_front (data.take count) (data.drop count) offset
    (by rw [List.length_take]; omega)
  rwa [List.take_append_drop, eq_comm] at front

theorem wire_argc (pkt : Packet) (rest : List UInt8) :
    word16 (wire pkt ++ rest) 6 = pkt.argc := by
  rw [wire_trailer, List.append_assoc]
  exact (head_words pkt _).2.2.2

theorem valid_argc (pkt : Packet) (valid : Valid pkt) : ¬ pkt.argc > maxArgc := by
  have bounded : pkt.argc.toNat ≤ 32 := Nat.le_trans (Nat.le_of_eq valid.counted) valid.bounded
  rw [gt_iff_lt, UInt16.lt_iff_toNat_lt]
  exact Nat.not_lt.mpr bounded

theorem wire_size (pkt : Packet) (valid : Valid pkt) :
    (wire pkt).length = minPacketSize + pkt.argc.toNat * 4 := by
  have counted : pkt.argc.toNat = pkt.argv.length := valid.counted
  rw [wire_length, counted, minPacketSize]

/-- A packet is cut from the buffer exactly when the buffer starts with the
wire form of a valid packet. -/
theorem packet_head_frame_iff (buffer : List UInt8) (pkt : Packet) (size : Nat) :
    packetHead buffer = .frame pkt size ↔
      Valid pkt ∧ size = (wire pkt).length ∧ ∃ rest, buffer = wire pkt ++ rest := by
  constructor
  · intro verdict
    unfold packetHead at verdict
    split_ifs at verdict with short corrupt partly
    split at verdict
    · next parsed =>
        injection verdict with samePkt sameSize
        subst samePkt sameSize
        obtain ⟨valid, rest, layout⟩ := (parse_true_iff _ _ _).mp parsed
        rw [minPacketSize] at short
        have argc := congrArg (word16 · 6) layout
        simp only [wire_argc] at argc
        rw [word16_take _ _ _ (by rw [minPacketSize]; omega) (by omega)] at argc
        refine ⟨valid, by rw [wire_size _ valid, argc],
          rest ++ buffer.drop (minPacketSize + (word16 buffer 6).toNat * 4), ?_⟩
        rw [← List.append_assoc, ← layout, List.take_append_drop]
    · cases verdict
  · rintro ⟨valid, rfl, rest, rfl⟩
    have size := wire_size pkt valid
    have whole := parse_wire pkt valid [] ⟨0, 0, []⟩
    rw [List.append_nil] at whole
    unfold packetHead
    rw [wire_argc, ← size, List.take_left, whole, if_neg (valid_argc pkt valid)]
    rw [minPacketSize] at size ⊢
    rw [List.length_append, if_neg (by omega), if_neg (by omega)]

theorem packet_head_corrupt (buffer more : List UInt8) (verdict : packetHead buffer = .corrupt) :
    packetHead (buffer ++ more) = .corrupt := by
  unfold packetHead at verdict ⊢
  split_ifs at verdict with short corrupt partly
  · rw [minPacketSize] at short ⊢
    rw [word16_front _ _ _ (by omega), List.length_append, if_neg (by omega), if_pos corrupt]
  -- `parse` was given a complete packet, which later bytes do not change
  · rw [minPacketSize] at short partly verdict ⊢
    rw [word16_front _ _ _ (by omega), List.length_append, if_neg (by omega), if_neg corrupt,
      if_neg (by omega), List.take_append_of_le_length (by omega)]
    exact verdict

theorem packet_head_waits (tail : List UInt8) (pkt : Packet) (valid : Valid pkt)
    (proper : ∃ missing, missing ≠ [] ∧ wire pkt = tail ++ missing) : packetHead tail = .wait := by
  obtain ⟨missing, some, layout⟩ := proper
  have positive : 0 < missing.length := List.length_pos_iff.mpr some
  have shorter := congrArg List.length layout
  rw [List.length_append, wire_size pkt valid] at shorter
  unfold packetHead
  rw [minPacketSize] at shorter ⊢
  by_cases short : tail.length < 14
  · rw [if_pos short]
  · have argc := wire_argc pkt []
    rw [List.append_nil, layout, word16_front _ _ _ (by omega)] at argc
    rw [if_neg short, argc, if_neg (valid_argc pkt valid), if_pos (by omega)]

def packetFramer : Framer UInt8 Packet where
  head := packetHead
  progress := by
    intro buffer pkt size verdict
    obtain ⟨valid, rfl, rest, rfl⟩ := (packet_head_frame_iff _ _ _).mp verdict
    rw [List.length_append, wire_length]
    omega
  corrupt_stable := packet_head_corrupt
  frame_stable := by
    intro buffer more pkt size verdict
    obtain ⟨valid, sized, rest, rfl⟩ := (packet_head_frame_iff _ _ _).mp verdict
    exact (packet_head_frame_iff _ _ _).mpr ⟨valid, sized, rest ++ more, List.append_assoc _ _ _⟩

theorem packet_framer_carries (buffer : List UInt8) (pkt : Packet) (size : Nat)
    (verdict : packetFramer.head buffer = .frame pkt size) : buffer.take size = wire pkt := by
  obtain ⟨valid, rfl, rest, rfl⟩ := (packet_head_frame_iff _ _ _).mp verdict
  exact List.take_left

/-- The kernel takes the whole ACK; else `sendData` returns `-1`. -/
def AckTaken (answers : SendAnswers) : Prop := 18 ≤ capacity answers.progress

instance (answers : SendAnswers) : Decidable (AckTaken answers) :=
  inferInstanceAs (Decidable (_ ≤ _))

/-- The value `sendData` returns for an ACK is positive, every time. -/
def AcksSucceed (answers : Nat → SendAnswers) : Prop :=
  ∀ attempt, ∀ client : Client, client.Open → ∀ pkt,
    0 < (client.sendData (wire (commandClientAck pkt)) (answers attempt)).result

theorem ack_size (pkt : Packet) : (wire (commandClientAck pkt)).length = 18 := wire_length _

theorem ack_taken_iff (client : Client) (opened : client.Open) (pkt : Packet)
    (answers : SendAnswers) :
    0 < (client.sendData (wire (commandClientAck pkt)) answers).result ↔ AckTaken answers := by
  rw [send_open client opened, AckTaken]
  by_cases covered : 18 ≤ capacity answers.progress
  · rw [send_loop_covered _ _ _ _ (by rw [ack_size]; exact covered), ack_size]
    exact ⟨fun _ => covered, fun _ => by decide⟩
  · rw [send_loop_refused _ _ _ _ (by rw [ack_size]; omega)]
    exact ⟨fun positive => absurd positive (by decide), fun taken => absurd taken covered⟩

theorem acks_succeed (answers : Nat → SendAnswers)
    (taken : ∀ attempt, AckTaken (answers attempt)) : AcksSucceed answers :=
  fun attempt client opened pkt => (ack_taken_iff client opened pkt _).mpr (taken attempt)

theorem acks_taken (answers : Nat → SendAnswers) (succeed : AcksSucceed answers)
    (client : Client) (opened : client.Open) (attempt : Nat) : AckTaken (answers attempt) :=
  (ack_taken_iff client opened ⟨0, 0, []⟩ _).mp (succeed attempt client opened ⟨0, 0, []⟩)

theorem ack_whole (client : Client) (opened : client.Open) (pkt : Packet)
    (answers : SendAnswers) (taken : AckTaken answers) :
    (client.sendData (wire (commandClientAck pkt)) answers).bytes =
      wire (commandClientAck pkt) := by
  rw [send_open client opened, send_loop_bytes]
  exact List.take_of_length_le (by rw [ack_size]; exact taken)

def outputsOf (pkts : List Packet) : List Output :=
  pkts.flatMap fun pkt => [.ack (wire (commandClientAck pkt)), .handler pkt]

/-- The session after the messages of `drained` were processed, and after the
cleanup if the stream was dropped. -/
def settled (session : Session) (drained : Drained UInt8 Packet) : Session :=
  let progressed := { session with
    outputs := session.outputs ++ outputsOf drained.1
    acks := session.acks + drained.1.length }
  match drained.2 with
  | some residual => { progressed with incoming := residual }
  | none => progressed.close

def finish (ended : Session × Bool) : Session :=
  if ended.2 then ended.1.close else ended.1

def Session.deliver (session : Session) (pkt : Packet) (rest : List UInt8) : Session :=
  { session with
    incoming := rest
    outputs := session.outputs ++ [.ack (wire (commandClientAck pkt)), .handler pkt]
    acks := session.acks + 1 }

def Session.refuse (session : Session) (pkt : Packet) (rest : List UInt8)
    (answers : SendAnswers) : Session :=
  { session with
    incoming := rest
    outputs := session.outputs ++
      [.ack (session.client.sendData (wire (commandClientAck pkt)) answers).bytes]
    acks := session.acks + 1 }

/-- The session after packets were taken from the buffer one by one: each is
acknowledged and handled, and the first whose ACK fails ends the connection. -/
def processed (answers : Nat → SendAnswers) : Session → List Packet → Option (List UInt8) → Session
  | session, [], some residual => { session with incoming := residual }
  | session, [], none => session.close
  | session, pkt :: rest, kept =>
      if AckTaken (answers session.acks) then processed answers (session.deliver pkt []) rest kept
      else (session.refuse pkt [] (answers session.acks)).close

theorem processed_incoming (answers : Nat → SendAnswers) (session : Session)
    (incoming : List UInt8) (pkts : List Packet) (kept : Option (List UInt8)) :
    processed answers { session with incoming := incoming } pkts kept =
      processed answers session pkts kept := by
  cases pkts with
  | nil => cases kept <;> simp [processed, Session.close]
  | cons pkt rest => rfl

theorem processed_settled (answers : Nat → SendAnswers)
    (taken : ∀ attempt, AckTaken (answers attempt)) (session : Session) (pkts : List Packet)
    (kept : Option (List UInt8)) :
    processed answers session pkts kept = settled session (pkts, kept) := by
  induction pkts generalizing session with
  | nil => cases kept <;> simp [processed, settled, outputsOf]
  | cons pkt rest ih =>
      rw [processed, if_pos (taken session.acks), ih]
      cases kept <;> simp [settled, outputsOf, Session.deliver, Session.close, Nat.add_assoc,
        Nat.add_comm 1]

/-- The connection stays up as long as the stream is sound and the ACKs are
taken. -/
theorem processed_active_iff (answers : Nat → SendAnswers) (session : Session)
    (active : session.active = true) (pkts : List Packet) (kept : Option (List UInt8)) :
    (processed answers session pkts kept).active = true ↔
      kept ≠ none ∧ ∀ i < pkts.length, AckTaken (answers (session.acks + i)) := by
  induction pkts generalizing session with
  | nil => cases kept <;> simp [processed, active, Session.close]
  | cons pkt rest ih =>
      have counted : (∀ i < (pkt :: rest).length, AckTaken (answers (session.acks + i))) ↔
          AckTaken (answers session.acks) ∧
            ∀ i < rest.length, AckTaken (answers (session.acks + 1 + i)) := by
        rw [List.length_cons, Nat.forall_lt_succ_left]
        simp [Nat.add_assoc, Nat.add_comm 1]
      rw [counted, processed]
      by_cases taken : AckTaken (answers session.acks)
      · rw [if_pos taken, ih (session.deliver pkt []) active]
        simp [taken, Session.deliver]
      · rw [if_neg taken]
        simp [taken, Session.close]

theorem processed_client (answers : Nat → SendAnswers) (session : Session) (pkts : List Packet)
    (kept : Option (List UInt8)) (up : (processed answers session pkts kept).active = true) :
    (processed answers session pkts kept).client = session.client := by
  induction pkts generalizing session with
  | nil =>
      cases kept with
      | none => cases up
      | some residual => rfl
  | cons pkt rest ih =>
      rw [processed] at up ⊢
      by_cases taken : AckTaken (answers session.acks)
      · rw [if_pos taken] at up ⊢
        exact ih (session.deliver pkt []) up
      · rw [if_neg taken] at up
        cases up

theorem settled_outputs (session : Session) (drained : Drained UInt8 Packet) :
    (settled session drained).outputs = session.outputs ++ outputsOf drained.1 := by
  obtain ⟨pkts, kept⟩ := drained
  cases kept <;> rfl

/-- One turn of the inner loop. After a corrupt front the buffer holds `left`,
which the cleanup discards. -/
theorem packet_loop_turn (answers : Nat → SendAnswers)
    (fuel : Nat) (session : Session) (opened : session.client.Open) :
    ∃ left, packetLoop answers (fuel + 1) session =
      match packetHead session.incoming with
      | .wait => .ok (session, false)
      | .corrupt => .ok ({ session with incoming := left }, true)
      | .frame pkt size =>
          if AckTaken (answers session.acks) then
            packetLoop answers fuel (session.deliver pkt (session.incoming.drop size))
          else
            .ok (session.refuse pkt (session.incoming.drop size) (answers session.acks), true) := by
  rw [packetHead, packetLoop, packetTurn]
  by_cases short : session.incoming.length < minPacketSize
  · exact ⟨[], by simp [short]⟩
  have long : 14 ≤ session.incoming.length := Nat.not_lt.mp short
  rw [if_neg short, if_neg short, load_getD _ 6 (by omega), load_getD _ 7 (by omega)]
  simp only [ok_bind]
  rw [show join16 (session.incoming.getD 6 0) (session.incoming.getD 7 0) =
    word16 session.incoming 6 from rfl]
  by_cases corrupt : word16 session.incoming 6 > maxArgc
  · exact ⟨session.incoming, by rw [if_pos corrupt, if_pos corrupt]; rfl⟩
  rw [if_neg corrupt, if_neg corrupt]
  generalize minPacketSize + (word16 session.incoming 6).toNat * 4 = expectedSize
  by_cases partly : session.incoming.length < expectedSize
  · exact ⟨[], by rw [if_pos partly, if_pos partly]; rfl⟩
  rw [if_neg partly, if_neg partly]
  -- the packet is complete, and already erased when `parse` rejects it
  refine ⟨session.incoming.drop expectedSize, ?_⟩
  obtain ⟨parsed, pkt, result, _⟩ := parse_exact (session.incoming.take expectedSize) ⟨0, 0, []⟩
  rw [result]
  cases parsed with
  | false => rfl
  | true =>
      have ack := serialize_counted (commandClientAck pkt) rfl
      have positive := ack_taken_iff session.client opened pkt (answers session.acks)
      simp only [ok_bind, ack]
      rw [if_neg (by simp)]
      by_cases taken : AckTaken (answers session.acks)
      · have sent := positive.mpr taken
        rw [if_neg (by omega), ack_whole _ opened _ _ taken, if_pos taken]
        rfl
      · have refused := mt positive.mp taken
        rw [if_pos (by omega), if_neg taken]
        rfl

theorem packet_loop_drain (answers : Nat → SendAnswers)
    (fuel : Nat) (session : Session) (opened : session.client.Open) :
    ∃ ended, packetLoop answers fuel session = .ok ended ∧
      finish ended = processed answers session (packetFramer.drainFuel fuel session.incoming).1
        (packetFramer.drainFuel fuel session.incoming).2 := by
  induction fuel generalizing session with
  | zero => exact ⟨(session, false), rfl, rfl⟩
  | succ fuel ih =>
      obtain ⟨left, turn⟩ := packet_loop_turn answers fuel session opened
      rw [turn, Framer.drainFuel]
      cases verdict : packetHead session.incoming with
      | wait => exact ⟨_, rfl, by simp [packetFramer, verdict, finish, processed]⟩
      | corrupt =>
          exact ⟨_, rfl, by simp [packetFramer, verdict, finish, processed, Session.close]⟩
      | frame pkt size =>
          simp only [packetFramer, verdict, processed]
          by_cases taken : AckTaken (answers session.acks)
          · obtain ⟨ended, returned, cleaned⟩ :=
              ih (session.deliver pkt (session.incoming.drop size)) opened
            rw [if_pos taken, if_pos taken]
            exact ⟨ended, returned, cleaned.trans
              (processed_incoming answers (session.deliver pkt []) _ _ _)⟩
          · rw [if_neg taken, if_neg taken]
            exact ⟨_, rfl, rfl⟩

def Ready.taken (ready : Ready) : Option (List UInt8) :=
  match ready.read with
  | .data bytes => if ready.lost = true ∨ bytes = [] then none else some bytes
  | _ => none

theorem taken_some (ready : Ready) (bytes : List UInt8) (taken : ready.taken = some bytes) :
    bytes ≠ [] ∧ ∃ errnoBlocks, ready = ⟨false, .data bytes, errnoBlocks⟩ := by
  obtain ⟨lost, read, errnoBlocks⟩ := ready
  cases read with
  | data received =>
      simp only [Ready.taken] at taken
      split_ifs at taken with ends
      cases taken
      have connected : lost = false := by simpa using (not_or.mp ends).1
      exact ⟨(not_or.mp ends).2, errnoBlocks, by rw [connected]⟩
  | endOfFile => cases taken
  | wouldBlock => cases taken
  | interrupted => cases taken
  | failed => cases taken

/-- `recv` is asked for at most the size of its buffer. -/
def Ready.Fits (ready : Ready) : Prop :=
  ∀ bytes, ready.read = .data bytes → bytes.length ≤ bufferSize

def arrive (drained : Drained UInt8 Packet) (ready : Ready) : Drained UInt8 Packet :=
  match ready.taken with
  | some bytes => packetFramer.feed drained bytes
  | none => (drained.1, none)

structure Session.Started (session : Session) : Prop where
  opened : session.client.Open
  empty : session.incoming = []
  active : session.active = true

theorem receive_taken (answers : Nat → SendAnswers)
    (session : Session) (opened : session.client.Open) (active : session.active = true)
    (bytes : List UInt8) (some : bytes ≠ []) (fits : bytes.length ≤ bufferSize)
    (errnoBlocks : Bool) :
    receive answers session ⟨false, .data bytes, errnoBlocks⟩ =
      .ok (processed answers session (packetFramer.drain (session.incoming ++ bytes)).1
        (packetFramer.drain (session.incoming ++ bytes)).2) := by
  have positive : 0 < bytes.length := List.length_pos_iff.mpr some
  have counted : ¬ (bytes.length : Int) ≤ 0 := by omega
  have processing : ¬ session.active = false := by simp [active]
  rw [receive, if_neg processing, recv_passes_data session.client opened bufferSize bytes fits]
  obtain ⟨ended, returned, cleaned⟩ := packet_loop_drain answers
    ((session.incoming ++ bytes).length + 1)
    { session with incoming := session.incoming ++ bytes } opened
  simp only [counted, Bool.false_eq_true, or_self, if_false]
  rw [returned, ok_bind]
  exact congrArg Except.ok (cleaned.trans (processed_incoming answers session _ _ _))

theorem recv_ends (client : Client) (opened : client.Open) (ready : Ready) (fits : ready.Fits)
    (ends : ready.taken = none) :
    ∃ n bytes, client.recvData bufferSize ready.read ready.errnoBlocks = (n, bytes, client) ∧
      (n ≤ 0 ∨ ready.lost = true) := by
  obtain ⟨lost, read, errnoBlocks⟩ := ready
  cases read with
  | data bytes =>
      refine ⟨_, _, recv_passes_data client opened bufferSize bytes (fits bytes rfl) _, ?_⟩
      simp only [Ready.taken, ite_eq_left_iff, reduceCtorEq, imp_false, not_not] at ends
      rcases ends with lost | none
      · exact Or.inr lost
      · exact Or.inl (by simp [none])
  | endOfFile => exact ⟨_, _, recv_empty client opened _ _ _ (by simp), Or.inl (Int.le_refl 0)⟩
  | wouldBlock => exact ⟨_, _, recv_empty client opened _ _ _ (by simp), Or.inl (Int.le_refl 0)⟩
  | interrupted => exact ⟨_, _, recv_empty client opened _ _ _ (by simp), Or.inl (Int.le_refl 0)⟩
  | failed =>
      cases errnoBlocks with
      | true => exact ⟨_, _, recv_empty client opened _ _ _ (by simp), Or.inl (Int.le_refl 0)⟩
      | false => exact ⟨_, _, recv_failed client opened _, Or.inl (by decide)⟩

theorem receive_lost (answers : Nat → SendAnswers) (session : Session)
    (opened : session.client.Open) (active : session.active = true) (ready : Ready)
    (fits : ready.Fits) (ends : ready.taken = none) :
    receive answers session ready = .ok session.close := by
  have processing : ¬ session.active = false := by simp [active]
  obtain ⟨n, bytes, read, ended⟩ := recv_ends session.client opened ready fits ends
  rw [receive, if_neg processing, read]
  simp only [if_pos ended]
  rfl

theorem arrive_cons (pkt : Packet) (rest : List Packet) (kept : Option (List UInt8))
    (ready : Ready) :
    arrive (pkt :: rest, kept) ready =
      (pkt :: (arrive (rest, kept) ready).1, (arrive (rest, kept) ready).2) := by
  unfold arrive Framer.feed
  cases ready.taken with
  | none => rfl
  | some bytes => cases kept <;> rfl

theorem receive_closed (answers : Nat → SendAnswers) (session : Session)
    (inactive : session.active = false) (ready : Ready) :
    receive answers session ready = .ok session := by
  rw [receive, if_pos inactive]
  rfl

theorem receive_arrive (answers : Nat → SendAnswers) (session : Session)
    (opened : session.client.Open) (active : session.active = true) (ready : Ready)
    (fits : ready.Fits) (pkts : List Packet) (kept : Option (List UInt8)) :
    receive answers (processed answers session pkts kept) ready =
      .ok (processed answers session (arrive (pkts, kept) ready).1
        (arrive (pkts, kept) ready).2) := by
  induction pkts generalizing session with
  | cons pkt rest ih =>
      rw [arrive_cons]
      simp only [processed]
      -- a refused answer closes the connection in front of the event
      by_cases taken : AckTaken (answers session.acks)
      · rw [if_pos taken, if_pos taken]
        exact ih (session.deliver pkt []) opened active
      · rw [if_neg taken, if_neg taken]
        exact receive_closed answers _ rfl ready
  | nil =>
      cases kept with
      | none =>
          have ended : arrive ([], none) ready = ([], none) := by
            unfold arrive
            cases ready.taken <;> rfl
          rw [ended]
          exact receive_closed answers _ rfl ready
      | some residual =>
          simp only [processed]
          unfold arrive
          cases taken : ready.taken with
          | none =>
              rw [receive_lost answers { session with incoming := residual } opened active ready
                fits taken]
              rfl
          | some bytes =>
              obtain ⟨some, errnoBlocks, rfl⟩ := taken_some ready bytes taken
              rw [receive_taken answers { session with incoming := residual } opened active bytes
                some (fits bytes rfl) _, processed_incoming]
              rfl

theorem processed_start (answers : Nat → SendAnswers) (session : Session)
    (started : session.Started) :
    processed answers session (packetFramer.drain []).1 (packetFramer.drain []).2 = session := by
  obtain ⟨opened, empty, active⟩ := started
  rw [packetFramer.drain_wait [] rfl, processed, ← empty]

theorem connect_started (session : Session) (client : Client) (opened : client.Open) :
    (session.connect client).Started := ⟨opened, rfl, rfl⟩

/-- What a connection over `events` leaves the framer in. -/
def arrivals (events : List Ready) : Drained UInt8 Packet :=
  events.foldl arrive (packetFramer.drain [])

/-- What a connection does is decided by the bytes its events delivered and
by the ACKs. -/
theorem run_processed (answers : Nat → SendAnswers)
    (session : Session) (connection : Connection) (opened : connection.client.Open)
    (fits : ∀ ready ∈ connection.events, ready.Fits) :
    runConnection answers session connection =
      .ok (processed answers (session.connect connection.client) (arrivals connection.events).1
        (arrivals connection.events).2) := by
  have started := connect_started session connection.client opened
  -- the induction carries any framer state a prefix of the events can leave
  have general : ∀ events : List Ready, (∀ ready ∈ events, ready.Fits) →
      ∀ drained : Drained UInt8 Packet,
      events.foldlM (receive answers)
          (processed answers (session.connect connection.client) drained.1 drained.2) =
        .ok (processed answers (session.connect connection.client)
          (events.foldl arrive drained).1 (events.foldl arrive drained).2) := by
    intro events
    induction events with
    | nil => intros; rfl
    | cons ready rest ih =>
        intro fits drained
        rw [List.foldlM_cons, receive_arrive answers _ started.opened started.active ready
          (fits ready List.mem_cons_self), ok_bind, ih fun other member =>
            fits other (List.mem_cons_of_mem ready member)]
        rfl
  have whole := general connection.events fits (packetFramer.drain [])
  rwa [processed_start answers _ started] at whole

theorem run_connection (answers : Nat → SendAnswers) (succeed : AcksSucceed answers)
    (session : Session) (connection : Connection) (opened : connection.client.Open)
    (fits : ∀ ready ∈ connection.events, ready.Fits) :
    runConnection answers session connection =
      .ok (settled (session.connect connection.client) (arrivals connection.events)) := by
  rw [run_processed answers session connection opened fits, processed_settled answers
    (acks_taken answers succeed connection.client opened)]

def receivedBytes : List Ready → List UInt8
  | [] => []
  | ready :: rest =>
      match ready.taken with
      | some bytes => bytes ++ receivedBytes rest
      | none => []

theorem arrive_dropped (events : List Ready) (pkts : List Packet) :
    events.foldl arrive (pkts, none) = (pkts, none) := by
  induction events with
  | nil => rfl
  | cons ready rest ih =>
      have stays : arrive (pkts, none) ready = (pkts, none) := by
        unfold arrive
        cases ready.taken <;> rfl
      rw [List.foldl_cons, stays, ih]

theorem arrivals_packets (events : List Ready) :
    (arrivals events).1 = (packetFramer.drain (receivedBytes events)).1 := by
  have general : ∀ bytes, (events.foldl arrive (packetFramer.drain bytes)).1 =
      (packetFramer.drain (bytes ++ receivedBytes events)).1 := by
    induction events with
    | nil => simp [receivedBytes]
    | cons ready rest ih =>
        intro bytes
        rw [List.foldl_cons, arrive, receivedBytes]
        cases ready.taken with
        | none => simp only [arrive_dropped, List.append_nil]
        | some piece =>
            simp only
            rw [packetFramer.feed_drain, ih, List.append_assoc]
  exact general []

theorem arrivals_wait (events : List Ready) (residual : List UInt8)
    (kept : (arrivals events).2 = some residual) : packetHead residual = .wait := by
  have general : ∀ (events : List Ready) (drained : Drained UInt8 Packet),
      (∀ left, drained.2 = some left → packetHead left = .wait) →
      ∀ left, (events.foldl arrive drained).2 = some left → packetHead left = .wait := by
    intro events
    induction events with
    | nil => exact fun _ waits => waits
    | cons ready rest ih =>
        intro drained waits
        rw [List.foldl_cons]
        apply ih
        intro left carried
        unfold arrive at carried
        cases taken : ready.taken with
        | none => simp [taken] at carried
        | some bytes =>
            simp only [taken, Framer.feed] at carried
            cases before : drained.2 with
            | none => simp [before] at carried
            | some old =>
                rw [before] at carried
                exact packetFramer.drain_residual_waits (old ++ bytes) left carried
  exact general events (packetFramer.drain []) (packetFramer.drain_residual_waits []) residual kept

theorem wait_bounded (buffer : List UInt8) (verdict : packetHead buffer = .wait) :
    buffer.length < minPacketSize + maxArgc.toNat * 4 := by
  unfold packetHead at verdict
  split_ifs at verdict with short corrupt partly
  · omega
  · have bounded : (word16 buffer 6).toNat ≤ maxArgc.toNat := by
      simpa [UInt16.lt_iff_toNat_lt] using corrupt
    omega
  · split at verdict <;> cases verdict

/-- Whatever a peer sends, `incoming_buffer` stays below 142 bytes between two
events. -/
theorem incoming_bounded (answers : Nat → SendAnswers) (succeed : AcksSucceed answers)
    (session : Session) (connection : Connection) (opened : connection.client.Open)
    (fits : ∀ ready ∈ connection.events, ready.Fits) :
    ∃ after, runConnection answers session connection = .ok after ∧
      after.incoming.length < minPacketSize + maxArgc.toNat * 4 := by
  refine ⟨_, run_connection answers succeed session connection opened fits, ?_⟩
  cases kept : (arrivals connection.events).2 with
  | none =>
      simp only [settled, kept, Session.close]
      decide
  | some residual =>
      simp only [settled, kept]
      exact wait_bounded residual (arrivals_wait connection.events residual kept)

/-- Pieces as `recv` returns them while the connection is up. -/
def Chunked (pieces : List (List UInt8)) : Prop :=
  ∀ piece ∈ pieces, piece ≠ [] ∧ piece.length ≤ bufferSize

theorem chunks_fit (pieces : List (List UInt8)) (chunked : Chunked pieces) :
    ∀ ready ∈ pieces.map chunk, ready.Fits := by
  intro ready member bytes read
  obtain ⟨piece, inside, rfl⟩ := List.mem_map.mp member
  cases read
  exact (chunked bytes inside).2

theorem arrivals_chunks (pieces : List (List UInt8)) (chunked : Chunked pieces) :
    arrivals (pieces.map chunk) = packetFramer.drain pieces.flatten := by
  rw [← packetFramer.receive_flatten, arrivals, Framer.receive, List.foldl_map]
  refine List.foldl_ext _ _ _ fun drained piece member => ?_
  have filled := (chunked piece member).1
  simp [arrive, Ready.taken, chunk, filled]

theorem run_chunks (answers : Nat → SendAnswers) (succeed : AcksSucceed answers)
    (session : Session) (client : Client) (opened : client.Open) (pieces : List (List UInt8))
    (chunked : Chunked pieces) :
    runConnection answers session ⟨client, pieces.map chunk⟩ =
      .ok (settled (session.connect client) (packetFramer.drain pieces.flatten)) := by
  rw [run_connection answers succeed session ⟨client, pieces.map chunk⟩ opened
    (chunks_fit pieces chunked), arrivals_chunks pieces chunked]

theorem serialize_all (pkts : List Packet) (valid : ∀ pkt ∈ pkts, Valid pkt) :
    pkts.mapM (serialize · none) = .ok (pkts.map wire) := by
  induction pkts with
  | nil => rfl
  | cons pkt rest ih =>
      rw [List.mapM_cons, serialize_counted pkt (valid pkt List.mem_cons_self).counted, ok_bind,
        ih fun other member => valid other (List.mem_cons_of_mem pkt member)]
      rfl

/-- A stream of valid packets and an unfinished one is taken apart into these
packets, and the unfinished one is kept. -/
theorem drain_packets (pkts : List Packet) (valid : ∀ pkt ∈ pkts, Valid pkt) (next : Packet)
    (nextValid : Valid next) (tail missing : List UInt8) (proper : missing ≠ [])
    (layout : wire next = tail ++ missing) :
    packetFramer.drain (pkts.flatMap wire ++ tail) = (pkts, some tail) := by
  refine packetFramer.drain_frames wire pkts tail ?_
    (packet_head_waits tail next nextValid ⟨missing, proper, layout⟩)
  exact fun pkt member more => (packet_head_frame_iff _ _ _).mpr ⟨valid pkt member, rfl, more, rfl⟩

structure Connection.Admissible (connection : Connection) : Prop where
  opened : connection.client.Open
  fits : ∀ ready ∈ connection.events, ready.Fits

theorem run_connections (answers : Nat → SendAnswers) (succeed : AcksSucceed answers)
    (connections : List Connection) (session : Session)
    (admissible : ∀ connection ∈ connections, connection.Admissible) :
    ∃ after, run answers session connections = .ok after ∧
      after.outputs = session.outputs ++
        outputsOf (connections.flatMap fun connection => (arrivals connection.events).1) := by
  induction connections generalizing session with
  | nil => exact ⟨session, rfl, by simp [outputsOf]⟩
  | cons connection rest ih =>
      obtain ⟨opened, fits⟩ := admissible connection List.mem_cons_self
      have first := run_connection answers succeed session connection opened fits
      obtain ⟨after, ran, outputs⟩ :=
        ih (settled (session.connect connection.client) (arrivals connection.events))
          fun other member => admissible other (List.mem_cons_of_mem connection member)
      refine ⟨after, ?_, ?_⟩
      · unfold run at ran ⊢
        rw [List.foldlM_cons, first, ok_bind, ran]
      · rw [outputs, settled_outputs]
        simp [outputsOf, Session.connect]

/-- Segmentation independence of the receive loop. Two ways to cut the same
bytes leave the same session behind; a stream of serialized packets and a
truncated one is handled packet by packet and keeps the truncated one; and what
a run over several connections handles on each of them was encoded by the bytes
of that connection alone. -/
theorem read_loop_reassembles (answers : Nat → SendAnswers) (succeed : AcksSucceed answers) :
    (∀ session client left right, client.Open → Chunked left → Chunked right →
      left.flatten = right.flatten →
      ∃ after, runConnection answers session ⟨client, left.map chunk⟩ = .ok after ∧
        runConnection answers session ⟨client, right.map chunk⟩ = .ok after) ∧
    (∀ session client pkts next encoded tail missing pieces, client.Open → Chunked pieces →
      (∀ pkt ∈ pkts, Valid pkt) → pkts.mapM (serialize · none) = .ok encoded →
      Valid next → serialize next none = .ok (tail ++ missing) → missing ≠ [] →
      pieces.flatten = encoded.flatten ++ tail →
      ∃ after, runConnection answers session ⟨client, pieces.map chunk⟩ = .ok after ∧
        after.outputs = session.outputs ++ outputsOf pkts ∧ after.incoming = tail ∧
        after.active = true) ∧
    ∃ packetsOf : Connection → List Packet,
      (∀ connection, (packetsOf connection).flatMap wire <+: receivedBytes connection.events) ∧
      ∀ session connections, (∀ connection ∈ connections, connection.Admissible) →
        ∃ after, run answers session connections = .ok after ∧
          after.outputs = session.outputs ++ outputsOf (connections.flatMap packetsOf) := by
  refine ⟨?_, ?_, fun connection => (arrivals connection.events).1, ?_, ?_⟩
  · intro session client left right opened leftChunked rightChunked same
    refine ⟨_, run_chunks answers succeed session client opened left leftChunked, ?_⟩
    rw [run_chunks answers succeed session client opened right rightChunked, same]
  · intro session client pkts next encoded tail missing pieces opened chunked valid serialized
      nextValid unfinished proper layout
    rw [serialize_all pkts valid] at serialized
    cases serialized
    rw [serialize_counted next nextValid.counted] at unfinished
    -- the unfinished packet is a proper front of its wire form
    have drained := drain_packets pkts valid next nextValid tail missing proper
      (Except.ok.inj unfinished)
    rw [List.flatMap_def, ← layout] at drained
    refine ⟨_, run_chunks answers succeed session client opened pieces chunked, ?_⟩
    rw [drained]
    exact ⟨rfl, rfl, rfl⟩
  · intro connection
    simp only [arrivals_packets]
    exact packetFramer.drain_consumes wire packet_framer_carries _
  · exact fun session connections admissible =>
      run_connections answers succeed connections session admissible

theorem read_loop_reassembles_cut_command :
    ∃ after, runConnection (fun _ => ⟨[.accepted 18], .wouldBlock⟩)
        ⟨⟨-1, none, []⟩, [0xAA], [], 0, false⟩
        ⟨⟨5, some 5, []⟩, [[0xEB, 0x90, 0x5B, 0x6A, 0x50],
          [0x10, 0, 1, 0, 0, 0, 7, 35, 244, 0xC5, 0xA4, 0xD2, 0x79, 0xEB, 0x90, 0x5B]].map chunk⟩ =
        .ok after ∧
      after.outputs = outputsOf [⟨0x5010, 1, [7]⟩] ∧ after.incoming = [0xEB, 0x90, 0x5B] ∧
      after.active = true :=
  (read_loop_reassembles (fun _ => ⟨[.accepted 18], .wouldBlock⟩)
    (acks_succeed _ fun _ => Nat.le_refl 18)).2.1
    ⟨⟨-1, none, []⟩, [0xAA], [], 0, false⟩ ⟨5, some 5, []⟩ [⟨0x5010, 1, [7]⟩] ⟨0x5001, 0, []⟩
    [[0xEB, 0x90, 0x5B, 0x6A, 0x50, 0x10, 0, 1, 0, 0, 0, 7, 35, 244, 0xC5, 0xA4, 0xD2, 0x79]]
    [0xEB, 0x90, 0x5B] [0x6A, 0x50, 0x01, 0, 0, 131, 206, 0xC5, 0xA4, 0xD2, 0x79]
    [[0xEB, 0x90, 0x5B, 0x6A, 0x50],
      [0x10, 0, 1, 0, 0, 0, 7, 35, 244, 0xC5, 0xA4, 0xD2, 0x79, 0xEB, 0x90, 0x5B]]
    ⟨by decide, rfl, rfl⟩ (by unfold Chunked bufferSize; decide)
    (by intro pkt member; rw [List.mem_singleton.mp member]; exact ⟨by decide, by decide⟩)
    (by decide +kernel) ⟨by decide, by decide⟩ (by decide +kernel) (by decide) rfl

end GramsTof.CommandReceive
