import GramsTof.CommandReceive
import GramsTof.TransitionSystem

/-!
The read loop of `GRAMS_TOF_CommandClient::run` one pass at a time, for the
size of `incoming_buffer`. `Reading` adds to the session whether the thread is
inside the inner `while`. The bound holds of every header a peer can send, so
nothing is assumed of the bytes, of the ACKs or of the client object.
-/

namespace GramsTof.ReceiveBound

open ByteWords CommandCodec ClientSocket PacketSenders TransitionSystem
open CommandReceive hiding run arrive

inductive Place where
  | polling
  | looping
  deriving DecidableEq, Repr

structure Reading where
  session : Session
  place : Place
  deriving DecidableEq, Repr

/-- `connect` is the start of a turn of the outer loop, `event` a return of
`epoll_pwait` with its `recv`, `pass` one pass of the inner `while`. -/
inductive Action where
  | connect (client : Client)
  | event (ready : Ready)
  | pass
  deriving DecidableEq, Repr

def arrive (session : Session) (ready : Ready) : Reading :=
  let (nRead, bytes, client) :=
    session.client.recvData bufferSize ready.read ready.errnoBlocks
  let session := { session with client := client }
  if nRead ≤ 0 ∨ ready.lost = true then ⟨session.close, .polling⟩
  else ⟨{ session with incoming := session.incoming ++ bytes }, .looping⟩

def leaveLoop (session : Session) (shouldClose : Bool) : Reading :=
  ⟨if shouldClose then session.close else session, .polling⟩

def step (answers : Nat → SendAnswers) (reading : Reading) : Action → Option Reading
  | .connect client =>
      if reading.place = .polling then some ⟨reading.session.connect client, .polling⟩ else none
  | .event ready =>
      if reading.place = .polling ∧ reading.session.active = true then
        some (arrive reading.session ready)
      else none
  | .pass =>
      if reading.place = .looping then
        match packetTurn answers reading.session with
        | .ok (.again session) => some ⟨session, .looping⟩
        | .ok (.leave session shouldClose) => some (leaveLoop session shouldClose)
        | .error _ => none
      else none

def started (client : Client) : Reading :=
  ⟨{ client := client, incoming := [], outputs := [], acks := 0, active := false }, .polling⟩

/-- What one pass does to the buffer: it waits below the longest packet, it
gives the connection up, or it takes a packet off the front. -/
inductive Passed (session : Session) : Turn → Prop where
  | wait (short : session.incoming.length < minPacketSize + maxArgc.toNat * 4) :
      Passed session (.leave session false)
  | drop (left : Session) (rest : left.incoming.length ≤ session.incoming.length) :
      Passed session (.leave left true)
  | take (next : Session)
      (rest : next.incoming.length + minPacketSize ≤ session.incoming.length) :
      Passed session (.again next)

theorem packet_turn_passed (answers : Nat → SendAnswers) (session : Session) :
    ∃ turn, packetTurn answers session = .ok turn ∧ Passed session turn := by
  rw [packetTurn]
  by_cases short : session.incoming.length < minPacketSize
  · exact ⟨_, by rw [if_pos short]; rfl, .wait (Nat.lt_add_right _ short)⟩
  have long : 14 ≤ session.incoming.length := Nat.not_lt.mp short
  rw [if_neg short, load_inside _ 6 (by omega), load_inside _ 7 (by omega)]
  simp only [ok_bind]
  generalize join16 _ _ = argc
  by_cases corrupt : argc > maxArgc
  · exact ⟨_, by rw [if_pos corrupt]; rfl, .drop session (Nat.le_refl _)⟩
  have admitted : argc.toNat ≤ maxArgc.toNat := by
    simpa [UInt16.lt_iff_toNat_lt] using corrupt
  rw [if_neg corrupt]
  by_cases partly : session.incoming.length < minPacketSize + argc.toNat * 4
  · exact ⟨_, by rw [if_pos partly]; rfl, .wait (by omega)⟩
  rw [if_neg partly]
  generalize sized : minPacketSize + argc.toNat * 4 = expectedSize at partly ⊢
  have erased : (session.incoming.drop expectedSize).length + minPacketSize ≤
      session.incoming.length := by
    rw [List.length_drop]
    omega
  have fewer : (session.incoming.drop expectedSize).length ≤ session.incoming.length := by omega
  obtain ⟨parsed, pkt, result, _⟩ := parse_exact (session.incoming.take expectedSize) ⟨0, 0, []⟩
  rw [result]
  cases parsed with
  | false => exact ⟨_, rfl, .drop _ fewer⟩
  | true =>
      simp only [ok_bind, Bool.true_eq_false, if_false]
      rw [serialize_counted (commandClientAck pkt) rfl, ok_bind]
      -- of the ACK only the sign of the result matters
      by_cases refused : (session.client.sendData (wire (commandClientAck pkt))
          (answers session.acks)).result ≤ 0
      · exact ⟨_, by rw [if_pos refused]; rfl, .drop _ fewer⟩
      · exact ⟨_, by rw [if_neg refused]; rfl, .take _ erased⟩

theorem recv_data_bounded (client : Client) (size : Nat) (result : RecvResult)
    (errnoBlocks : Bool) : (client.recvData size result errnoBlocks).2.1.length ≤ size := by
  unfold Client.recvData
  simp only
  split_ifs
  · exact Nat.zero_le _
  · exact Nat.zero_le _
  · rw [List.length_take, Nat.min_assoc]
    exact Nat.min_le_left _ _

/-- Between two events the buffer is one byte short of the longest packet at
most; inside the inner loop one read is added to that. -/
def Bounded (reading : Reading) : Prop :=
  reading.session.incoming.length ≤ 141 + 1024 ∧
    (reading.place = .polling → reading.session.incoming.length ≤ 141)

theorem bounded_polling (session : Session) (short : session.incoming.length ≤ 141) :
    Bounded ⟨session, .polling⟩ :=
  ⟨Nat.le_trans short (Nat.le_add_right _ _), fun _ => short⟩

theorem bounded_looping (session : Session) (short : session.incoming.length ≤ 141 + 1024) :
    Bounded ⟨session, .looping⟩ :=
  ⟨short, fun polling => by cases polling⟩

theorem arrive_bounded (session : Session) (ready : Ready)
    (short : session.incoming.length ≤ 141) : Bounded (arrive session ready) := by
  have read := recv_data_bounded session.client bufferSize ready.read ready.errnoBlocks
  rw [bufferSize] at read
  unfold arrive
  simp only
  split_ifs
  · exact bounded_polling _ (Nat.zero_le _)
  · apply bounded_looping
    rw [List.length_append]
    exact Nat.add_le_add short read

theorem leave_bounded (session left : Session) (shouldClose : Bool)
    (passed : Passed session (.leave left shouldClose)) :
    (leaveLoop left shouldClose).session.incoming.length ≤ 141 := by
  cases passed with
  | wait short => exact Nat.le_of_lt_succ short
  | drop left rest => exact Nat.zero_le _

theorem step_bounded (answers : Nat → SendAnswers) (reading : Reading) (action : Action)
    (next : Reading) (before : Bounded reading) (stepped : step answers reading action = some next) :
    Bounded next := by
  cases action with
  | connect client =>
      simp only [step, Option.ite_none_right_eq_some, Option.some.injEq] at stepped
      obtain ⟨_, rfl⟩ := stepped
      exact bounded_polling _ (Nat.zero_le _)
  | event ready =>
      simp only [step, Option.ite_none_right_eq_some, Option.some.injEq] at stepped
      obtain ⟨⟨polling, _⟩, rfl⟩ := stepped
      exact arrive_bounded reading.session ready (before.2 polling)
  | pass =>
      simp only [step, Option.ite_none_right_eq_some] at stepped
      obtain ⟨_, stepped⟩ := stepped
      obtain ⟨turn, ended, passed⟩ := packet_turn_passed answers reading.session
      rw [ended] at stepped
      cases turn with
      | leave left shouldClose =>
          cases stepped
          exact bounded_polling _ (leave_bounded reading.session left shouldClose passed)
      | again more =>
          cases stepped
          cases passed with
          -- a pass that goes on leaves less than it found
          | take _ rest =>
              apply bounded_looping
              exact Nat.le_trans (Nat.le_of_add_right_le rest) before.1

/-- From every buffer the inner loop is left after at most one pass for each
packet that fits, with what `packetLoop` returns. -/
theorem passes_end (answers : Nat → SendAnswers) (session : Session) :
    ∃ passes left shouldClose, passes * minPacketSize ≤ session.incoming.length + minPacketSize ∧
      run (step answers) ⟨session, .looping⟩ (List.replicate passes .pass) =
        some (leaveLoop left shouldClose) ∧
      (∀ fuel, session.incoming.length < fuel →
        packetLoop answers fuel session = .ok (left, shouldClose)) ∧
      (shouldClose = false → left.incoming.length ≤ 141) := by
  induction held : session.incoming.length using Nat.strong_induction_on generalizing session with
  | h held ih =>
      obtain ⟨turn, ended, passed⟩ := packet_turn_passed answers session
      have first : ∀ rest, run (step answers) ⟨session, .looping⟩ (.pass :: rest) =
          (step answers ⟨session, .looping⟩ .pass).bind fun next => run (step answers) next rest :=
        fun rest => rfl
      cases turn with
      | leave left shouldClose =>
          refine ⟨1, left, shouldClose, by omega, ?_, ?_, ?_⟩
          · rw [List.replicate_one, first, step, if_pos rfl, ended]
            rfl
          · intro fuel enough
            cases fuel with
            | zero => omega
            | succ fuel =>
                rw [packetLoop, ended]
                rfl
          · intro kept
            cases passed with
            | wait short => exact Nat.le_of_lt_succ short
            | drop left rest => cases kept
      -- a packet was taken: the rest of the buffer is shorter
      | again next =>
          cases passed with
          | take _ rest =>
              rw [minPacketSize] at rest
              obtain ⟨passes, left, shouldClose, few, ran, looped, short⟩ :=
                ih next.incoming.length (by omega) next rfl
              refine ⟨passes + 1, left, shouldClose, ?_, ?_, ?_, short⟩
              · rw [minPacketSize] at few ⊢
                omega
              · rw [List.replicate_succ, first]
                simpa [step, ended] using ran
              · intro fuel enough
                cases fuel with
                | zero => omega
                | succ fuel =>
                    rw [packetLoop, ended, ok_bind]
                    exact looped fuel (by omega)

theorem receive_passes (answers : Nat → SendAnswers) (session : Session) (ready : Ready)
    (active : session.active = true) :
    ∃ passes after, receive answers session ready = .ok after ∧
      run (step answers) ⟨session, .polling⟩ (.event ready :: List.replicate passes .pass) =
        some ⟨after, .polling⟩ := by
  have taken : step answers ⟨session, .polling⟩ (.event ready) = some (arrive session ready) :=
    if_pos ⟨rfl, active⟩
  have processing : ¬ session.active = false := by simp [active]
  rw [receive, if_neg processing]
  simp only [run, taken, Option.bind_some, arrive]
  split_ifs with lost
  · exact ⟨0, _, rfl, rfl⟩
  · obtain ⟨passes, left, shouldClose, _, ran, looped, _⟩ := passes_end answers
      { session with
        client := (session.client.recvData bufferSize ready.read ready.errnoBlocks).2.2
        incoming := session.incoming ++
          (session.client.recvData bufferSize ready.read ready.errnoBlocks).2.1 }
    refine ⟨passes, _, ?_, ran⟩
    rw [looped _ (Nat.lt_succ_self _)]
    rfl

/-- `incoming_buffer` over the whole of `run`, whatever the peer sends and
however it is cut into reads: at most 141 bytes between two events and at most
1024 more inside the inner loop, which ends on every buffer. -/
theorem receive_buffer_bounded (answers : Nat → SendAnswers) :
    (∀ client actions, Throughout (step answers) Bounded (started client) actions) ∧
    ∀ session : Session, ∃ passes left shouldClose,
      run (step answers) ⟨session, .looping⟩ (List.replicate passes .pass) =
        some (leaveLoop left shouldClose) ∧
      packetLoop answers (session.incoming.length + 1) session = .ok (left, shouldClose) ∧
      (shouldClose = false → left.incoming.length ≤ 141) := by
  constructor
  · intro client actions
    exact throughout_invariant (step answers) (fun _ bounded => bounded) (step_bounded answers)
      actions (started client) (bounded_polling _ (Nat.zero_le _))
  · intro session
    obtain ⟨passes, left, shouldClose, _, ran, looped, short⟩ := passes_end answers session
    exact ⟨passes, left, shouldClose, ran, looped _ (Nat.lt_succ_self _), short⟩

end GramsTof.ReceiveBound
