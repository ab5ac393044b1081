import GramsTof.PacketPerRead

/-!
What the end of a connection costs. In `GRAMS_TOF_CommandClient::run` the test
for `EPOLLHUP` and `EPOLLERR` comes before the bytes of the same read are used,
and a failed ACK ends the loop over the packets in the buffer. In both clients
a read without bytes ends the connection, also where nothing was wrong with it:
`recvData` gives the same 0 for end of file, `EAGAIN` and `EINTR`.
-/

namespace GramsTof.ConnectionLoss

open ByteWords CommandCodec ClientSocket PacketSenders StreamFraming CommandReceive PacketPerRead

/-- The packets before the first one whose ACK fails; `attempt` counts ACKs. -/
def acknowledged (answers : Nat → SendAnswers) : Nat → List Packet → List Packet
  | _, [] => []
  | attempt, pkt :: rest =>
      if AckTaken (answers attempt) then pkt :: acknowledged answers (attempt + 1) rest else []

theorem processed_handler_calls (answers : Nat → SendAnswers) (session : Session)
    (pkts : List Packet) (kept : Option (List UInt8)) :
    handlerCalls (processed answers session pkts kept).outputs =
      handlerCalls session.outputs ++ acknowledged answers session.acks pkts := by
  induction pkts generalizing session with
  | nil => cases kept <;> simp [processed, acknowledged, Session.close]
  | cons pkt rest ih =>
      rw [processed, acknowledged]
      by_cases taken : AckTaken (answers session.acks)
      · rw [if_pos taken, if_pos taken, ih]
        simp [Session.deliver]
      · rw [if_neg taken, if_neg taken]
        simp [Session.refuse, Session.close]

theorem acknowledged_iff (answers : Nat → SendAnswers) (attempt : Nat) (all pkts : List Packet) :
    pkts <+: acknowledged answers attempt all ↔
      pkts <+: all ∧ ∀ i < pkts.length, AckTaken (answers (attempt + i)) := by
  induction all generalizing attempt pkts with
  | nil =>
      rw [acknowledged, List.prefix_nil]
      exact ⟨by rintro rfl; simp, And.left⟩
  | cons pkt rest ih =>
      rw [acknowledged]
      cases pkts with
      | nil => simp
      | cons first later =>
          by_cases taken : AckTaken (answers attempt)
          · rw [if_pos taken, List.cons_prefix_cons, List.cons_prefix_cons, ih]
            have counted : (∀ i < (first :: later).length, AckTaken (answers (attempt + i))) ↔
                ∀ i < later.length, AckTaken (answers (attempt + 1 + i)) := by
              rw [List.length_cons, Nat.forall_lt_succ_left]
              simp [taken, Nat.add_assoc, Nat.add_comm 1]
            rw [counted, and_assoc]
          · rw [if_neg taken]
            refine ⟨fun none => absurd (List.prefix_nil.mp none) (by simp), fun both => ?_⟩
            exact absurd (both.2 0 (Nat.zero_lt_succ _)) taken

theorem drained_iff (bytes : List UInt8) (pkts : List Packet) :
    pkts <+: (packetFramer.drain bytes).1 ↔
      (∀ pkt ∈ pkts, Valid pkt) ∧ pkts.flatMap wire <+: bytes := by
  constructor
  · intro front
    refine ⟨fun pkt member => ?_, ?_⟩
    · obtain ⟨buffer, size, verdict⟩ := packetFramer.drain_framed bytes pkt (front.subset member)
      exact ((packet_head_frame_iff buffer pkt size).mp verdict).1
    · obtain ⟨more, whole⟩ := front
      have used := packetFramer.drain_consumes wire packet_framer_carries bytes
      rw [← whole, List.flatMap_append] at used
      exact (List.prefix_append _ _).trans used
  · rintro ⟨valid, rest, rfl⟩
    rw [packetFramer.drain_front wire pkts rest fun pkt member more =>
      (packet_head_frame_iff _ _ _).mpr ⟨valid pkt member, rfl, more, rfl⟩]
    exact List.prefix_append _ _

/-- What a connection handles of the bytes its reads brought in before the one
that ended it: the packets at their front, up to the first whose ACK fails,
each once and in order. -/
theorem accepted_bytes_handled (answers : Nat → SendAnswers) (session : Session)
    (connection : Connection) (opened : connection.client.Open)
    (fits : ∀ ready ∈ connection.events, ready.Fits) :
    ∃ after handled, runConnection answers session connection = .ok after ∧
      handlerCalls after.outputs = handlerCalls session.outputs ++ handled ∧
      ∀ pkts, pkts <+: handled ↔
        (∀ pkt ∈ pkts, Valid pkt) ∧ pkts.flatMap wire <+: receivedBytes connection.events ∧
        ∀ i < pkts.length, AckTaken (answers (session.acks + i)) := by
  refine ⟨_, _, run_processed answers session connection opened fits,
    processed_handler_calls answers _ _ _, fun pkts => ?_⟩
  rw [acknowledged_iff, arrivals_packets, drained_iff, and_assoc]
  rfl

theorem accepted_bytes_handled_two_commands :
    ∃ after handled, runConnection (fun attempt => if attempt = 0 then ⟨[.accepted 18], .wouldBlock⟩
          else ⟨[.accepted 3], .failed⟩) ⟨⟨-1, none, []⟩, [], [], 0, false⟩
        ⟨⟨5, some 5, []⟩, [chunk (wire ⟨0x5000, 0, []⟩ ++ wire ⟨0x5001, 0, []⟩)]⟩ = .ok after ∧
      handlerCalls after.outputs = handlerCalls [] ++ handled ∧
      ∀ pkts, pkts <+: handled ↔
        (∀ pkt ∈ pkts, Valid pkt) ∧ pkts.flatMap wire <+:
          receivedBytes [chunk (wire ⟨0x5000, 0, []⟩ ++ wire ⟨0x5001, 0, []⟩)] ∧
        ∀ i < pkts.length, AckTaken ((fun attempt => if attempt = 0 then
          (⟨[.accepted 18], .wouldBlock⟩ : SendAnswers) else ⟨[.accepted 3], .failed⟩) (0 + i)) :=
  accepted_bytes_handled _ ⟨⟨-1, none, []⟩, [], [], 0, false⟩
    ⟨⟨5, some 5, []⟩, [chunk (wire ⟨0x5000, 0, []⟩ ++ wire ⟨0x5001, 0, []⟩)]⟩
    ⟨by decide, rfl, rfl⟩
    (by
      intro ready member bytes read
      rw [List.mem_singleton.mp member] at read
      cases read
      decide +kernel)

/-- STOP_DAQ arrives together with the hang-up, or behind a START_DAQ whose
ACK fails: `recvData` returned it, and no handler is called. -/
theorem stop_at_hang_up_dropped :
    ((⟨5, some 5, []⟩ : Client).recvData bufferSize (.data (wire ⟨0x5001, 0, []⟩)) false).2.1 =
      wire ⟨0x5001, 0, []⟩ ∧
    runConnection (fun _ => ⟨[.accepted 18], .wouldBlock⟩) ⟨⟨-1, none, []⟩, [], [], 0, false⟩
        ⟨⟨5, some 5, []⟩, [⟨true, .data (wire ⟨0x5001, 0, []⟩), false⟩]⟩ =
      .ok ⟨⟨-1, none, []⟩, [], [], 0, false⟩ ∧
    runConnection (fun _ => ⟨[], .failed⟩) ⟨⟨-1, none, []⟩, [], [], 0, false⟩
        ⟨⟨5, some 5, []⟩, [chunk (wire ⟨0x5000, 0, []⟩ ++ wire ⟨0x5001, 0, []⟩)]⟩ =
      .ok ⟨⟨-1, none, []⟩, [], [.ack []], 1, false⟩ := by
  decide +kernel

section Closing
variable {State : Type} (step : State → Ready → Checked State) (active : State → Bool)

/-- Whenever an event closes the connection, `cause` holds of it. -/
def ClosesOnly (cause : State → Ready → Prop) (start : State) (events : List Ready) : Prop :=
  ∀ earlier ready later before after, events = earlier ++ ready :: later →
    earlier.foldlM step start = .ok before → step before ready = .ok after →
    active before = true → active after = false → cause before ready

/-- No event that reaches the open connection is of this kind. -/
def NeverReached (kind : Ready → Prop) (start : State) (events : List Ready) : Prop :=
  ∀ earlier ready later before, events = earlier ++ ready :: later →
    earlier.foldlM step start = .ok before → active before = true → ¬ kind ready

variable {step active} {inv : State → Prop} {cause : State → Ready → Prop} {kind : Ready → Prop}

theorem fold_keeps
    (kept : ∀ state ready after, inv state → ready.Fits → step state ready = .ok after → inv after)
    (events : List Ready) (fits : ∀ ready ∈ events, ready.Fits) (start final : State)
    (begun : inv start) (ran : events.foldlM step start = .ok final) : inv final := by
  induction events generalizing start with
  | nil =>
      cases ran
      exact begun
  | cons ready rest ih =>
      rw [List.foldlM_cons] at ran
      cases first : step start ready with
      | error missed => simp [first] at ran
      | ok next =>
          rw [first, ok_bind] at ran
          exact ih (fun other member => fits other (List.mem_cons_of_mem ready member)) next
            (kept start ready next begun (fits ready List.mem_cons_self) first) ran

/-- Where the events of one kind close an open connection without a cause, and
no others do, a connection closes only for a cause exactly when none of that
kind reaches it. -/
theorem closes_only_iff
    (kept : ∀ state ready after, inv state → ready.Fits → step state ready = .ok after → inv after)
    (groundless : ∀ state ready, inv state → active state = true → kind ready →
      ¬ cause state ready ∧ ∃ after, step state ready = .ok after ∧ active after = false)
    (grounded : ∀ state ready after, inv state → active state = true → ¬ kind ready →
      ready.Fits → step state ready = .ok after → active after = false → cause state ready)
    (start : State) (begun : inv start) (events : List Ready)
    (fits : ∀ ready ∈ events, ready.Fits) :
    ClosesOnly step active cause start events ↔ NeverReached step active kind start events := by
  have reached : ∀ {earlier ready later before}, events = earlier ++ ready :: later →
      earlier.foldlM step start = .ok before → inv before := fun {earlier ready later before} split =>
    fold_keeps kept earlier (fun other member => fits other (by rw [split]; simp [member])) start
      before begun
  constructor
  · intro only earlier ready later before split ran opened groundlessKind
    obtain ⟨causeless, after, stepped, closed⟩ :=
      groundless before ready (reached split ran) opened groundlessKind
    exact causeless (only earlier ready later before after split ran stepped opened closed)
  · intro never earlier ready later before after split ran stepped opened closed
    have other := never earlier ready later before split ran opened
    have member : ready ∈ events := by rw [split]; simp
    exact grounded before ready after (reached split ran) opened other (fits ready member) stepped
      closed

end Closing

/-- `recv` had nothing to say but to try again, and the socket is up. -/
def Transient (ready : Ready) : Prop :=
  ready.lost = false ∧ (ready.read = .wouldBlock ∨ ready.read = .interrupted)

/-- End of file (a `recv` of no bytes), a real socket error, or a hang-up. -/
def Failed (ready : Ready) : Prop :=
  ready.lost = true ∨ ready.read = .endOfFile ∨ ready.read = .data [] ∨ ready.read = .failed

/-- The event is a failure, or brings in malformed data or a packet whose ACK
fails. -/
def clientCause (answers : Nat → SendAnswers) (before : Session) (ready : Ready) : Prop :=
  Failed ready ∨ ∃ bytes, ready.read = .data bytes ∧
    ((packetFramer.drain (before.incoming ++ bytes)).2 = none ∨
      ∃ i < (packetFramer.drain (before.incoming ++ bytes)).1.length,
        ¬ AckTaken (answers (before.acks + i)))

def eventCause (_ : EventSession) (ready : Ready) : Prop := Failed ready

theorem transient_not_failed (ready : Ready) (again : Transient ready) : ¬ Failed ready := by
  obtain ⟨connected, read⟩ := again
  rcases read with read | read <;> simp [Failed, connected, read]

theorem transient_no_data (ready : Ready) (again : Transient ready) (bytes : List UInt8) :
    ready.read ≠ .data bytes := by
  rcases again.2 with read | read <;> simp [read]

theorem transient_taken (ready : Ready) (again : Transient ready) : ready.taken = none := by
  rcases again.2 with read | read <;> simp [Ready.taken, read]

theorem transient_fits (ready : Ready) (again : Transient ready) : ready.Fits :=
  fun bytes data => absurd data (transient_no_data ready again bytes)

theorem taken_none (ready : Ready) (ends : ready.taken = none) (decided : ¬ Transient ready) :
    Failed ready := by
  obtain ⟨lost, read, errnoBlocks⟩ := ready
  cases lost with
  | true => exact Or.inl rfl
  | false =>
      cases read with
      | data bytes =>
          simp only [Ready.taken, Bool.false_eq_true, false_or, ite_eq_left_iff, reduceCtorEq,
            imp_false, not_not] at ends
          exact Or.inr (Or.inr (Or.inl (by rw [ends])))
      | endOfFile => exact Or.inr (Or.inl rfl)
      | wouldBlock => exact absurd ⟨rfl, Or.inl rfl⟩ decided
      | interrupted => exact absurd ⟨rfl, Or.inr rfl⟩ decided
      | failed => exact Or.inr (Or.inr (Or.inr rfl))

def ClientUp (session : Session) : Prop := session.active = true → session.client.Open

def EventUp (session : EventSession) : Prop := session.active = true → session.client.Open

theorem receive_keeps_up (answers : Nat → SendAnswers) (session : Session) (ready : Ready)
    (after : Session) (opened : ClientUp session) (fits : ready.Fits)
    (stepped : receive answers session ready = .ok after) : ClientUp after := by
  intro up
  cases active : session.active with
  | false =>
      rw [receive_closed answers session active ready] at stepped
      cases stepped
      exact opened up
  | true =>
      have here := opened active
      cases taken : ready.taken with
      | none =>
          rw [receive_lost answers session here active ready fits taken] at stepped
          cases stepped
          cases up
      | some bytes =>
          obtain ⟨some, errnoBlocks, rfl⟩ := taken_some ready bytes taken
          rw [receive_taken answers session here active bytes some (fits bytes rfl)] at stepped
          cases stepped
          rw [processed_client answers session _ _ up]
          exact here

theorem event_receive_keeps_up (session : EventSession) (ready : Ready) (after : EventSession)
    (opened : EventUp session) (fits : ready.Fits)
    (stepped : eventReceive session ready = .ok after) : EventUp after := by
  intro up
  cases active : session.active with
  | false =>
      rw [event_receive_closed session active ready] at stepped
      cases stepped
      exact opened up
  | true =>
      have here := opened active
      cases taken : ready.taken with
      | none =>
          rw [event_receive_lost session here active ready fits taken] at stepped
          cases stepped
          cases up
      | some bytes =>
          obtain ⟨some, errnoBlocks, rfl⟩ := taken_some ready bytes taken
          rw [event_receive_taken session here active bytes some (fits bytes rfl)] at stepped
          cases stepped
          exact here

theorem client_closes_only_iff (answers : Nat → SendAnswers) (session : Session)
    (connection : Connection) (opened : connection.client.Open)
    (fits : ∀ ready ∈ connection.events, ready.Fits) :
    ClosesOnly (receive answers) Session.active (clientCause answers)
        (session.connect connection.client) connection.events ↔
      NeverReached (receive answers) Session.active Transient
        (session.connect connection.client) connection.events := by
  refine @closes_only_iff _ _ _ ClientUp _ _ (receive_keeps_up answers) ?_ ?_
    (session.connect connection.client) (fun _ => opened) connection.events fits
  · intro state ready up active again
    refine ⟨?_, state.close, receive_lost answers state (up active) active ready
      (transient_fits ready again) (transient_taken ready again), rfl⟩
    rintro (failed | ⟨bytes, data, _⟩)
    · exact transient_not_failed ready again failed
    · exact transient_no_data ready again bytes data
  · intro state ready after up active decided fits stepped closed
    cases taken : ready.taken with
    | none => exact Or.inl (taken_none ready taken decided)
    | some bytes =>
        obtain ⟨some, errnoBlocks, rfl⟩ := taken_some ready bytes taken
        rw [receive_taken answers state (up active) active bytes some (fits bytes rfl)] at stepped
        cases stepped
        -- the session is inactive, so the stream or an ACK was bad
        have bad := mt (processed_active_iff answers state active
          (packetFramer.drain (state.incoming ++ bytes)).1
          (packetFramer.drain (state.incoming ++ bytes)).2).mpr (by rw [closed]; decide)
        refine Or.inr ⟨bytes, rfl, ?_⟩
        by_contra sound
        push Not at sound
        exact bad sound

theorem event_closes_only_iff (session : EventSession)
    (connection : Connection) (opened : connection.client.Open)
    (fits : ∀ ready ∈ connection.events, ready.Fits) :
    ClosesOnly eventReceive EventSession.active eventCause
        (session.connect connection.client) connection.events ↔
      NeverReached eventReceive EventSession.active Transient
        (session.connect connection.client) connection.events := by
  refine @closes_only_iff _ _ _ EventUp _ _ event_receive_keeps_up ?_ ?_
    (session.connect connection.client) (fun _ => opened) connection.events fits
  · intro state ready up active again
    exact ⟨transient_not_failed ready again, state.close, event_receive_lost state (up active)
      active ready (transient_fits ready again) (transient_taken ready again), rfl⟩
  · intro state ready after up active decided fits stepped closed
    cases taken : ready.taken with
    | none => exact taken_none ready taken decided
    | some bytes =>
        obtain ⟨some, errnoBlocks, rfl⟩ := taken_some ready bytes taken
        rw [event_receive_taken state (up active) active bytes some (fits bytes rfl)] at stepped
        cases stepped
        exact absurd (active.symm.trans closed) (by decide)

/-- Both clients close a connection for a real failure only (or bad data or a
failed ACK), exactly where no `EAGAIN` or `EINTR` reaches it: either one ends
it. -/
theorem closes_for_failures_iff (connection : Connection) (opened : connection.client.Open)
    (fits : ∀ ready ∈ connection.events, ready.Fits) :
    (∀ (answers : Nat → SendAnswers) (session : Session),
      ClosesOnly (receive answers) Session.active (clientCause answers)
          (session.connect connection.client) connection.events ↔
        NeverReached (receive answers) Session.active Transient
          (session.connect connection.client) connection.events) ∧
    ∀ session : EventSession,
      ClosesOnly eventReceive EventSession.active eventCause
          (session.connect connection.client) connection.events ↔
        NeverReached eventReceive EventSession.active Transient
          (session.connect connection.client) connection.events :=
  ⟨fun answers session => client_closes_only_iff answers session connection opened fits,
    fun session => event_closes_only_iff session connection opened fits⟩

/-- A connection that brings in a packet and then an interrupted read. -/
def interruptedConnection : Connection :=
  ⟨⟨5, some 5, []⟩, [chunk (wire ⟨0x5000, 0, []⟩), ⟨false, .interrupted, false⟩]⟩

theorem closes_for_failures_iff_interrupted :
    (∀ (answers : Nat → SendAnswers) (session : Session),
      ClosesOnly (receive answers) Session.active (clientCause answers)
          (session.connect interruptedConnection.client) interruptedConnection.events ↔
        NeverReached (receive answers) Session.active Transient
          (session.connect interruptedConnection.client) interruptedConnection.events) ∧
    ∀ session : EventSession,
      ClosesOnly eventReceive EventSession.active eventCause
          (session.connect interruptedConnection.client) interruptedConnection.events ↔
        NeverReached eventReceive EventSession.active Transient
          (session.connect interruptedConnection.client) interruptedConnection.events :=
  closes_for_failures_iff interruptedConnection ⟨by decide, rfl, rfl⟩ (by
    intro ready member bytes read
    fin_cases member
    · cases read
      decide +kernel
    · cases read)

/-- One `EINTR` and both clients drop the connection. -/
theorem interrupted_read_closes :
    runConnection (fun _ => ⟨[.accepted 18], .wouldBlock⟩) ⟨⟨-1, none, []⟩, [], [], 0, false⟩
        interruptedConnection =
      .ok ⟨⟨-1, none, []⟩, [], outputsOf [⟨0x5000, 0, []⟩], 1, false⟩ ∧
    eventRunConnection ⟨⟨-1, none, []⟩, [], false⟩ interruptedConnection =
      .ok ⟨⟨-1, none, []⟩, [⟨0x5000, 0, []⟩], false⟩ := by
  decide +kernel

end GramsTof.ConnectionLoss
