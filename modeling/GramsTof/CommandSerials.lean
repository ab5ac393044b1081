import GramsTof.DaqRequests
import GramsTof.TransitionSystem

/-!
Commands to the front end and their serial numbers: `Connection.sendCommand` of
daqd.py, which makes its tries through `Client::doCommandToFrontEnd`, and
`UDPFrameServer::sendCommand`, which waits for the datagram with the number of its
command. The calls are those of one `Connection`; what other ones, earlier or at the
same time, leave in the network and in the queue is not known. Datagrams are lost,
repeated and overtake each other. The front end puts the 16 bytes of the number in
front of its answer.
-/

namespace GramsTof.CommandSerials

open TransitionSystem

/-- A call of `sendCommand`. With its addresses and its number the command fits the
buffer of `doCommandToFrontEnd`. -/
structure Call where
  portID : UInt8
  slaveID : UInt8
  cfgFunctionID : UInt8
  payload : List UInt8
  maxTries : Nat
  fits : payload.length ≤ 2029
  deriving DecidableEq

def serialBytes (sn : Nat) : List UInt8 := (List.range 16).map fun n => UInt8.ofNat (sn >>> (8 * n))

/-- `rawFrame` behind the two addresses. -/
def commandOf (sn : Nat) (call : Call) : List UInt8 :=
  serialBytes sn ++ call.cfgFunctionID :: call.payload

def rawFrame (sn : Nat) (call : Call) : List UInt8 :=
  call.portID :: call.slaveID :: commandOf sn call

/-- A `char` has a sign, and the sum is cut off to 16 bits. -/
def serial (buffer : List UInt8) : Nat :=
  (((buffer.getD 0 0).toInt8.toInt * 256 + (buffer.getD 1 0).toInt8.toInt) % 2 ^ 16).toNat

/-- Behind its first byte, 0x5A. More than 2046 bytes do not fit the buffer they are
copied to; what daqd.py makes of 2 to 17 bytes is left out. -/
abbrev Datagram : Type :=
  {bytes : List UInt8 // bytes.length < 2 ∨ 18 ≤ bytes.length ∧ bytes.length ≤ 2046}

/-- A datagram with the try that it answers; `none` is a command of another
`Connection`, or the request of `createFrameServer`. -/
structure Reply where
  answers : Option Nat
  bytes : Datagram
  deriving DecidableEq

inductive Phase where
  | idle
  /-- In front of a try. -/
  | trying (call : Call) (nTries : Nat)
  /-- `UDPFrameServer::sendCommand` waits. -/
  | waiting (call : Call) (nTries : Nat) (command : List UInt8)
  deriving DecidableEq

/-- How a call ends, with the number of its tries and of its last try. -/
structure Result where
  call : Call
  nTries : Nat
  last : Nat
  /-- `none` is `CommandErrorTimeout`. -/
  reply : Option (Reply × List UInt8)
  deriving DecidableEq

structure State where
  lastSN : Nat
  /-- The commands that were sent to the front end. -/
  tries : List (List UInt8)
  phase : Phase
  /-- `hasWorker` -/
  acquiring : Bool
  network : List Reply
  replyQueue : List Reply
  results : List Result
  deriving DecidableEq

/-- `randrange(0, 2**15-1)` -/
abbrev FirstSN : Type := Fin (2 ^ 15 - 1)

def started (first : FirstSN) : State :=
  { lastSN := first
    tries := []
    phase := .idle
    acquiring := false
    network := []
    replyQueue := []
    results := [] }

inductive Action where
  | call (call : Call)
  | attempt
  /-- The front end answers a command; it may do so again. -/
  | answer (command : Nat) (bytes : Datagram)
  /-- An answer to somebody else. -/
  | stray (bytes : Datagram)
  | lose (place : Nat)
  | duplicate (place : Nat)
  /-- The worker puts a datagram into `replyQueue`. -/
  | worker (place : Nat)
  /-- Without a worker, `sendCommand` calls `recv` itself. -/
  | receive (place : Nat)
  | dequeue
  /-- The loop dequeues for a command of another `Connection`. -/
  | dequeueOther
  /-- `CommandTimeout`, or an error of `recv`. -/
  | expire
  | startAcquisition
  | stopAcquisition
  deriving DecidableEq

def State.failed (state : State) (call : Call) (nTries : Nat) : State :=
  if nTries < call.maxTries then { state with phase := .trying call nTries }
  else
    { state with
      phase := .idle
      results := state.results ++ [⟨call, nTries, state.tries.length - 1, none⟩] }

/-- What the loop of `UDPFrameServer::sendCommand` does with a reply, and what
daqd.py does with what it is sent of it. -/
def State.take (state : State) (call : Call) (nTries : Nat) (command : List UInt8)
    (reply : Reply) : State :=
  if reply.bytes.1.length < 2 then state
  else if serial command ≠ serial reply.bytes.1 then state
  else
    { state with
      phase := .idle
      results := state.results ++
        [⟨call, nTries, state.tries.length - 1, some (reply, reply.bytes.1.drop 17)⟩] }

def step (state : State) : Action → Option State
  | .call call =>
      match state.phase with
      | .idle => some { state with phase := .trying call 0 }
      | _ => none
  | .attempt =>
      match state.phase with
      | .trying call nTries =>
          some { state with
            lastSN := (state.lastSN + 1) &&& 0x7FFF
            tries := state.tries ++ [commandOf state.lastSN call]
            phase := .waiting call (nTries + 1) (commandOf state.lastSN call) }
      | _ => none
  | .answer command bytes =>
      match state.tries[command]? with
      | some sent =>
          if bytes.1.take 16 = sent.take 16 then
            some { state with network := state.network ++ [⟨some command, bytes⟩] }
          else none
      | none => none
  | .stray bytes => some { state with network := state.network ++ [⟨none, bytes⟩] }
  | .lose place => some { state with network := state.network.eraseIdx place }
  | .duplicate place =>
      some { state with network := state.network ++ (state.network[place]?).toList }
  | .worker place =>
      if state.acquiring then
        (state.network[place]?).map fun reply =>
          { state with
            network := state.network.eraseIdx place
            replyQueue := state.replyQueue ++ [reply] }
      else none
  | .receive place =>
      match state.phase with
      | .waiting call nTries command =>
          if state.acquiring then none
          else (state.network[place]?).map fun reply =>
            { state with network := state.network.eraseIdx place }.take call nTries command reply
      | _ => none
  | .dequeue =>
      match state.phase, state.replyQueue with
      | .waiting call nTries command, reply :: rest =>
          if state.acquiring then
            some ({ state with replyQueue := rest }.take call nTries command reply)
          else none
      | _, _ => none
  | .dequeueOther =>
      match state.phase with
      | .waiting _ _ _ => none
      | _ => some { state with replyQueue := state.replyQueue.tail }
  | .expire =>
      match state.phase with
      | .waiting call nTries _ => some (state.failed call nTries)
      | _ => none
  -- `sendCommand` does not return to the loop that serves the clients
  | .startAcquisition =>
      match state.phase with
      | .waiting _ _ _ => none
      | _ => some { state with acquiring := true }
  | .stopAcquisition =>
      match state.phase with
      | .waiting _ _ _ => none
      | _ => some { state with acquiring := false }

/-! The numbers -/

theorem char_toInt (byte : UInt8) :
    byte.toInt8.toInt = if byte.toNat < 128 then (byte.toNat : Int) else byte.toNat - 256 := by
  have sign : byte.toInt8.toInt = byte.toBitVec.toInt := rfl
  have value : byte.toBitVec.toNat = byte.toNat := rfl
  rw [sign, BitVec.toInt_eq_toNat_cond, value]
  split_ifs <;> omega

theorem serialBytes_getD (sn index : Nat) (rest : List UInt8) (inside : index < 16) :
    ((serialBytes sn ++ rest).getD index 0).toNat = sn / 256 ^ index % 256 := by
  have place : (serialBytes sn ++ rest).getD index 0 = UInt8.ofNat (sn >>> (8 * index)) := by
    have short : index < (serialBytes sn).length := by rwa [serialBytes, List.length_map,
      List.length_range]
    rw [List.getD_eq_getElem?_getD, List.getElem?_append_left short, serialBytes,
      List.getElem?_map, List.getElem?_range inside]
    rfl
  rw [place, UInt8.toNat_ofNat', Nat.shiftRight_eq_div_pow, Nat.pow_mul]

/-- The bytes are taken in the other order. -/
theorem serial_commandOf (sn : Nat) (call : Call) (short : sn < 2 ^ 15) :
    serial (commandOf sn call) = sn % 256 * 256 + sn / 256 := by
  have low := serialBytes_getD sn 0 (call.cfgFunctionID :: call.payload) (by decide)
  have high := serialBytes_getD sn 1 (call.cfgFunctionID :: call.payload) (by decide)
  rw [pow_zero, Nat.div_one] at low
  rw [pow_one] at high
  unfold serial commandOf
  rw [char_toInt, char_toInt, low, high]
  split_ifs <;> omega

theorem serial_congr (first second : List UInt8) (same : first.take 16 = second.take 16) :
    serial first = serial second := by
  have byte (index : Nat) (inside : index < 16) : first.getD index 0 = second.getD index 0 := by
    rw [List.getD_eq_getElem?_getD, List.getD_eq_getElem?_getD,
      ← List.getElem?_take_of_lt inside, same, List.getElem?_take_of_lt inside]
  rw [serial, byte 0 (by decide), byte 1 (by decide), serial]

theorem serial_handshake (bytes : List UInt8) (filled : bytes.take 16 = List.replicate 16 0xFF) :
    serial bytes = 0xFEFF := by
  rw [serial_congr bytes (List.replicate 16 0xFF) filled]
  decide

theorem serial_tries (first k j : Nat) (call other : Call) :
    serial (commandOf ((first + k) % 2 ^ 15) call) =
        serial (commandOf ((first + j) % 2 ^ 15) other) ↔ k % 2 ^ 15 = j % 2 ^ 15 := by
  rw [serial_commandOf _ _ (Nat.mod_lt _ (by decide)),
    serial_commandOf _ _ (Nat.mod_lt _ (by decide))]
  omega

theorem serial_not_handshake (sn : Nat) (call : Call) :
    serial (commandOf (sn % 2 ^ 15) call) ≠ 0xFEFF := by
  rw [serial_commandOf _ _ (Nat.mod_lt _ (by decide))]
  omega

/-! What is on its way -/

/-- The front end answered this. -/
def Echoes (tries : List (List UInt8)) (reply : Reply) : Prop :=
  ∀ k ∈ reply.answers, ∃ command, tries[k]? = some command ∧
    reply.bytes.1.take 16 = command.take 16

def State.replies (state : State) : List Reply := state.network ++ state.replyQueue

structure Wired (first : Nat) (state : State) : Prop where
  lastSN : state.lastSN = (first + state.tries.length) % 2 ^ 15
  sent : ∀ (k : Nat) command, state.tries[k]? = some command →
    ∃ call, command = commandOf ((first + k) % 2 ^ 15) call
  waits : ∀ call nTries command, state.phase = .waiting call nTries command →
    0 < state.tries.length ∧ state.tries[state.tries.length - 1]? = some command
  echoed : ∀ reply ∈ state.replies, Echoes state.tries reply

section Fields
variable (state : State) (call : Call) (nTries : Nat) (command : List UInt8) (reply : Reply)

theorem take_cases :
    state.take call nTries command reply = state ∨
      (2 ≤ reply.bytes.1.length ∧ serial command = serial reply.bytes.1 ∧
        state.take call nTries command reply =
          { state with
            phase := .idle
            results := state.results ++
              [⟨call, nTries, state.tries.length - 1, some (reply, reply.bytes.1.drop 17)⟩] }) := by
  unfold State.take
  by_cases none : reply.bytes.1.length < 2
  · exact .inl (if_pos none)
  rw [if_neg none]
  by_cases other : serial command ≠ serial reply.bytes.1
  · exact .inl (if_pos other)
  · exact .inr ⟨Nat.not_lt.mp none, not_not.mp other, if_neg other⟩

theorem take_own (long : 2 ≤ reply.bytes.1.length) (same : serial command = serial reply.bytes.1) :
    state.take call nTries command reply =
      { state with
        phase := .idle
        results := state.results ++
          [⟨call, nTries, state.tries.length - 1, some (reply, reply.bytes.1.drop 17)⟩] } := by
  rw [State.take, if_neg (Nat.not_lt.mpr long), if_neg (not_not.mpr same)]

/-- A failed try and a reply leave the rest as it is. -/
structure Kept (before after : State) : Prop where
  lastSN : after.lastSN = before.lastSN
  tries : after.tries = before.tries
  replies : ∀ reply ∈ after.replies, reply ∈ before.replies
  waits : ∀ call nTries command, after.phase = .waiting call nTries command →
    before.phase = .waiting call nTries command

theorem failed_kept : Kept state (state.failed call nTries) := by
  unfold State.failed
  split_ifs
  · exact ⟨rfl, rfl, fun _ member => member, fun _ _ _ waits => by cases waits⟩
  · exact ⟨rfl, rfl, fun _ member => member, fun _ _ _ waits => by cases waits⟩

theorem take_kept : Kept state (state.take call nTries command reply) := by
  rcases take_cases state call nTries command reply with same | ⟨_, _, same⟩
  · rw [same]
    exact ⟨rfl, rfl, fun _ member => member, fun _ _ _ waits => waits⟩
  · rw [same]
    exact ⟨rfl, rfl, fun _ member => member, fun _ _ _ waits => by cases waits⟩

theorem Kept.trans {first second third : State} (before : Kept first second)
    (after : Kept second third) : Kept first third where
  lastSN := after.lastSN.trans before.lastSN
  tries := after.tries.trans before.tries
  replies reply member := before.replies reply (after.replies reply member)
  waits _ _ _ waits := before.waits _ _ _ (after.waits _ _ _ waits)

end Fields

theorem Wired.keep {first : Nat} {state next : State} (wired : Wired first state)
    (kept : Kept state next) : Wired first next where
  lastSN := by rw [kept.lastSN, kept.tries, wired.lastSN]
  sent := by
    rw [kept.tries]
    exact wired.sent
  waits := by
    rw [kept.tries]
    exact fun call nTries command waits => wired.waits call nTries command
      (kept.waits call nTries command waits)
  echoed := by
    rw [kept.tries]
    exact fun reply member => wired.echoed reply (kept.replies reply member)

theorem Echoes.more {tries : List (List UInt8)} {reply : Reply} (echoes : Echoes tries reply)
    (next : List UInt8) : Echoes (tries ++ [next]) reply := by
  intro k answers
  obtain ⟨command, sent, same⟩ := echoes k answers
  refine ⟨command, ?_, same⟩
  rw [List.getElem?_append_left (List.getElem?_eq_some_iff.mp sent).1, sent]

theorem erased_replies (state : State) (place : Nat) :
    Kept state { state with network := state.network.eraseIdx place } := by
  refine ⟨rfl, rfl, fun reply member => ?_, fun _ _ _ waits => waits⟩
  rcases List.mem_append.mp member with inside | queued
  · exact List.mem_append_left _ ((List.eraseIdx_sublist _ _).subset inside)
  · exact List.mem_append_right _ queued

theorem popped_replies (state : State) :
    Kept state { state with replyQueue := state.replyQueue.tail } := by
  refine ⟨rfl, rfl, fun other member => ?_, fun _ _ _ waits => waits⟩
  rcases List.mem_append.mp member with inside | queued
  · exact List.mem_append_left _ inside
  · exact List.mem_append_right _ (List.mem_of_mem_tail queued)

theorem duplicated_replies (state : State) (place : Nat) :
    Kept state { state with network := state.network ++ (state.network[place]?).toList } := by
  refine ⟨rfl, rfl, fun reply member => ?_, fun _ _ _ waits => waits⟩
  rcases List.mem_append.mp member with inside | queued
  · rcases List.mem_append.mp inside with before | again
    · exact List.mem_append_left _ before
    · exact List.mem_append_left _ (List.mem_of_getElem? (Option.mem_toList.mp again))
  · exact List.mem_append_right _ queued

theorem moved_replies (state : State) (place : Nat) (reply : Reply)
    (found : state.network[place]? = some reply) :
    Kept state { state with
      network := state.network.eraseIdx place
      replyQueue := state.replyQueue ++ [reply] } := by
  refine ⟨rfl, rfl, fun other member => ?_, fun _ _ _ waits => waits⟩
  rcases List.mem_append.mp member with inside | queued
  · exact List.mem_append_left _ ((List.eraseIdx_sublist _ _).subset inside)
  · rcases List.mem_append.mp queued with before | new
    · exact List.mem_append_right _ before
    · cases List.mem_singleton.mp new
      exact List.mem_append_left _ (List.mem_of_getElem? found)

theorem Wired.arrives {first : Nat} {state : State} (wired : Wired first state) (reply : Reply)
    (echoes : Echoes state.tries reply) :
    Wired first { state with network := state.network ++ [reply] } := by
  refine ⟨wired.lastSN, wired.sent, wired.waits, fun other member => ?_⟩
  rcases List.mem_append.mp member with inside | queued
  · rcases List.mem_append.mp inside with before | new
    · exact wired.echoed other (List.mem_append_left _ before)
    · rw [List.mem_singleton.mp new]
      exact echoes
  · exact wired.echoed other (List.mem_append_right _ queued)

theorem attempt_wired (first : Nat) (state : State) (call : Call) (nTries : Nat)
    (wired : Wired first state) :
    Wired first { state with
      lastSN := (state.lastSN + 1) &&& 0x7FFF
      tries := state.tries ++ [commandOf state.lastSN call]
      phase := .waiting call (nTries + 1) (commandOf state.lastSN call) } where
  lastSN := by
    have masked := Nat.and_two_pow_sub_one_eq_mod (state.lastSN + 1) 15
    have number := wired.lastSN
    dsimp only
    rw [List.length_append, List.length_singleton]
    show (state.lastSN + 1) &&& (2 ^ 15 - 1) = _
    rw [masked]
    omega
  sent := by
    intro k command sent
    rcases Nat.lt_or_ge k state.tries.length with before | now
    · rw [List.getElem?_append_left before] at sent
      exact wired.sent k command sent
    · rw [List.getElem?_append_right now] at sent
      obtain ⟨last, same⟩ := List.getElem?_eq_some_iff.mp sent
      rw [List.length_singleton] at last
      have here : k = state.tries.length := by omega
      subst here
      refine ⟨call, ?_⟩
      rw [← wired.lastSN, ← same]
      simp
  waits := by
    intro _ _ command waits
    cases waits
    dsimp only
    rw [List.length_append, List.length_singleton]
    refine ⟨Nat.succ_pos _, ?_⟩
    rw [Nat.add_sub_cancel, List.getElem?_append_right (Nat.le_refl _), Nat.sub_self]
    rfl
  echoed reply member := (wired.echoed reply member).more _

theorem wired_step (first : Nat) (state : State) (action : Action) (next : State)
    (wired : Wired first state) (stepped : step state action = some next) : Wired first next := by
  cases action with
  | call call =>
      simp only [step] at stepped
      split at stepped
      · cases stepped
        exact wired.keep ⟨rfl, rfl, fun _ member => member, fun _ _ _ waits => by cases waits⟩
      · cases stepped
  | attempt =>
      simp only [step] at stepped
      split at stepped
      · cases stepped
        exact attempt_wired first state _ _ wired
      · cases stepped
  | answer k bytes =>
      simp only [step] at stepped
      split at stepped
      case h_2 => cases stepped
      case h_1 sent found =>
        split_ifs at stepped with answered
        cases stepped
        apply wired.arrives
        rintro _ ⟨⟩
        exact ⟨sent, found, answered⟩
  | stray bytes =>
      cases stepped
      apply wired.arrives
      intro k none
      cases none
  | lose place =>
      cases stepped
      exact wired.keep (erased_replies state place)
  | duplicate place =>
      cases stepped
      exact wired.keep (duplicated_replies state place)
  | worker place =>
      simp only [step] at stepped
      split_ifs at stepped
      obtain ⟨reply, found, made⟩ := Option.map_eq_some_iff.mp stepped
      cases made
      exact wired.keep (moved_replies state place reply found)
  | receive place =>
      simp only [step] at stepped
      split at stepped
      · split_ifs at stepped
        obtain ⟨reply, _, made⟩ := Option.map_eq_some_iff.mp stepped
        rw [← made]
        exact wired.keep ((erased_replies state place).trans (take_kept _ _ _ _ _))
      · cases stepped
  | dequeue =>
      simp only [step] at stepped
      split at stepped
      · split_ifs at stepped
        cases stepped
        rename_i reply rest _ queue _
        have popped := popped_replies state
        rw [queue] at popped
        exact wired.keep (popped.trans (take_kept _ _ _ _ _))
      · cases stepped
  | dequeueOther =>
      simp only [step] at stepped
      split at stepped
      · cases stepped
      · cases stepped
        exact wired.keep (popped_replies state)
  | expire =>
      simp only [step] at stepped
      split at stepped
      · cases stepped
        exact wired.keep (failed_kept state _ _)
      · cases stepped
  | startAcquisition =>
      simp only [step] at stepped
      split at stepped
      · cases stepped
      · cases stepped
        exact wired.keep ⟨rfl, rfl, fun _ member => member, fun _ _ _ waits => waits⟩
  | stopAcquisition =>
      simp only [step] at stepped
      split at stepped
      · cases stepped
      · cases stepped
        exact wired.keep ⟨rfl, rfl, fun _ member => member, fun _ _ _ waits => waits⟩

theorem wired_start (first : FirstSN) : Wired first (started first) where
  lastSN := (Nat.mod_eq_of_lt (Nat.lt_succ_of_lt first.isLt)).symm
  sent := fun _ _ sent => by cases sent
  waits := fun _ _ _ waits => by cases waits
  echoed := fun _ member => by cases member

/-! What a step does to the calls -/

def looked (state : State) : Action → Option Reply
  | .receive place => state.network[place]?
  | .dequeue => state.replyQueue.head?
  | _ => none

structure Unchanged (before after : State) : Prop where
  phase : after.phase = before.phase
  tries : after.tries = before.tries
  results : after.results = before.results

structure Began (call : Call) (before after : State) : Prop where
  idle : before.phase = .idle
  phase : after.phase = .trying call 0
  tries : after.tries = before.tries
  results : after.results = before.results

structure Sent (call : Call) (nTries : Nat) (before after : State) : Prop where
  trying : before.phase = .trying call nTries
  phase : after.phase = .waiting call (nTries + 1) (commandOf before.lastSN call)
  tries : after.tries = before.tries ++ [commandOf before.lastSN call]
  results : after.results = before.results

structure Retries (call : Call) (nTries : Nat) (before after : State) : Prop where
  waiting : ∃ command, before.phase = .waiting call nTries command
  more : nTries < call.maxTries
  phase : after.phase = .trying call nTries
  tries : after.tries = before.tries
  results : after.results = before.results

structure GivesUp (call : Call) (nTries : Nat) (before after : State) : Prop where
  waiting : ∃ command, before.phase = .waiting call nTries command
  enough : call.maxTries ≤ nTries
  phase : after.phase = .idle
  tries : after.tries = before.tries
  results : after.results = before.results ++ [⟨call, nTries, before.tries.length - 1, none⟩]

structure Returns (call : Call) (nTries : Nat) (command : List UInt8) (reply : Reply)
    (before after : State) : Prop where
  waiting : before.phase = .waiting call nTries command
  arrived : reply ∈ before.replies
  long : 2 ≤ reply.bytes.1.length
  same : serial command = serial reply.bytes.1
  phase : after.phase = .idle
  tries : after.tries = before.tries
  results : after.results = before.results ++
    [⟨call, nTries, before.tries.length - 1, some (reply, reply.bytes.1.drop 17)⟩]

inductive Progress (before after : State) : Option Reply → Prop where
  | unchanged (reply : Option Reply) (same : Unchanged before after) : Progress before after reply
  | began (call : Call) (began : Began call before after) : Progress before after none
  | sent (call : Call) (nTries : Nat) (sent : Sent call nTries before after) :
      Progress before after none
  | retries (call : Call) (nTries : Nat) (retries : Retries call nTries before after) :
      Progress before after none
  | givesUp (call : Call) (nTries : Nat) (givesUp : GivesUp call nTries before after) :
      Progress before after none
  | returns (call : Call) (nTries : Nat) (command : List UInt8) (reply : Reply)
      (returns : Returns call nTries command reply before after) :
      Progress before after (some reply)

theorem failed_progress (state : State) (call : Call) (nTries : Nat) (command : List UInt8)
    (waiting : state.phase = .waiting call nTries command) :
    Progress state (state.failed call nTries) none := by
  unfold State.failed
  split_ifs with more
  · exact .retries call nTries ⟨⟨command, waiting⟩, more, rfl, rfl, rfl⟩
  · exact .givesUp call nTries ⟨⟨command, waiting⟩, Nat.not_lt.mp more, rfl, rfl, rfl⟩

theorem take_progress (before base : State) (reply : Reply) (call : Call) (nTries : Nat)
    (command : List UInt8) (waiting : before.phase = .waiting call nTries command)
    (arrived : reply ∈ before.replies) (same : Unchanged before base) :
    Progress before (base.take call nTries command reply) (some reply) := by
  rcases take_cases base call nTries command reply with dropped | ⟨long, own, made⟩
  · rw [dropped]
    exact .unchanged _ same
  · rw [made]
    exact .returns call nTries command reply
      ⟨waiting, arrived, long, own, rfl, same.tries, by rw [same.results, same.tries]⟩

theorem step_progress (state : State) (action : Action) (next : State)
    (stepped : step state action = some next) : Progress state next (looked state action) := by
  cases action with
  | call call =>
      simp only [step] at stepped
      split at stepped
      · cases stepped
        exact .began call ⟨by assumption, rfl, rfl, rfl⟩
      · cases stepped
  | attempt =>
      simp only [step] at stepped
      split at stepped
      · cases stepped
        exact .sent _ _ ⟨by assumption, rfl, rfl, rfl⟩
      · cases stepped
  | answer k bytes =>
      simp only [step] at stepped
      split at stepped
      · split_ifs at stepped
        cases stepped
        exact .unchanged _ ⟨rfl, rfl, rfl⟩
      · cases stepped
  | stray bytes =>
      cases stepped
      exact .unchanged _ ⟨rfl, rfl, rfl⟩
  | lose place =>
      cases stepped
      exact .unchanged _ ⟨rfl, rfl, rfl⟩
  | duplicate place =>
      cases stepped
      exact .unchanged _ ⟨rfl, rfl, rfl⟩
  | worker place =>
      simp only [step] at stepped
      split_ifs at stepped
      obtain ⟨reply, _, made⟩ := Option.map_eq_some_iff.mp stepped
      cases made
      exact .unchanged _ ⟨rfl, rfl, rfl⟩
  | receive place =>
      simp only [step] at stepped
      split at stepped
      · split_ifs at stepped
        obtain ⟨reply, found, made⟩ := Option.map_eq_some_iff.mp stepped
        rw [looked, found, ← made]
        exact take_progress state _ reply _ _ _ (by assumption)
          (List.mem_append_left _ (List.mem_of_getElem? found)) ⟨rfl, rfl, rfl⟩
      · cases stepped
  | dequeue =>
      simp only [step] at stepped
      split at stepped
      · split_ifs at stepped
        cases stepped
        rename_i reply rest waiting queue _
        rw [looked, queue]
        refine take_progress state _ reply _ _ _ waiting (List.mem_append_right _ ?_) ⟨rfl, rfl, rfl⟩
        rw [queue]
        exact List.mem_cons_self
      · cases stepped
  | dequeueOther =>
      simp only [step] at stepped
      split at stepped
      · cases stepped
      · cases stepped
        exact .unchanged _ ⟨rfl, rfl, rfl⟩
  | expire =>
      simp only [step] at stepped
      split at stepped
      · cases stepped
        exact failed_progress state _ _ _ (by assumption)
      · cases stepped
  | startAcquisition =>
      simp only [step] at stepped
      split at stepped
      · cases stepped
      · cases stepped
        exact .unchanged _ ⟨rfl, rfl, rfl⟩
  | stopAcquisition =>
      simp only [step] at stepped
      split at stepped
      · cases stepped
      · cases stepped
        exact .unchanged _ ⟨rfl, rfl, rfl⟩

/-! Whose answer a call gets -/

/-- A reply with the number of the last of these tries: it answers that one, or one
whose number has come round, or a command of another `Connection`. -/
def Numbered (tries : List (List UInt8)) (reply : Reply) : Prop :=
  2 ≤ reply.bytes.1.length ∧ match reply.answers with
    | some k => k % 2 ^ 15 = (tries.length - 1) % 2 ^ 15
    | none => ∃ command ∈ tries.getLast?, serial command = serial reply.bytes.1

/-- The reply has the number of the last try, which no handshake has. -/
structure Answered (tries : List (List UInt8)) (result : Result) (reply : Reply)
    (data : List UInt8) : Prop where
  sent : result.last < tries.length
  numbered : Numbered (tries.take (result.last + 1)) reply
  before : ∀ k ∈ reply.answers, k ≤ result.last
  other : reply.bytes.1.take 16 ≠ List.replicate 16 0xFF
  echoes : Echoes tries reply
  data : data = reply.bytes.1.drop 17

theorem Answered.more {tries : List (List UInt8)} {result : Result} {reply : Reply}
    {data : List UInt8} (answered : Answered tries result reply data) (next : List UInt8) :
    Answered (tries ++ [next]) result reply data where
  sent := by
    have sent := answered.sent
    rw [List.length_append]
    omega
  numbered := by
    rw [List.take_append_of_le_length answered.sent]
    exact answered.numbered
  before := answered.before
  other := answered.other
  echoes := answered.echoes.more next
  data := answered.data

/-- The loop takes the replies that are numbered as the last try. -/
theorem taken_iff (first : Nat) (state : State) (call : Call) (nTries : Nat)
    (command : List UInt8) (reply : Reply) (wired : Wired first state)
    (waiting : state.phase = .waiting call nTries command) (echoes : Echoes state.tries reply) :
    2 ≤ reply.bytes.1.length ∧ serial command = serial reply.bytes.1 ↔
      Numbered state.tries reply := by
  obtain ⟨_, last⟩ := wired.waits call nTries command waiting
  refine and_congr_right fun _ => ?_
  obtain ⟨answers, bytes⟩ := reply
  cases answers with
  | none =>
      have only : state.tries.getLast? = some command := by rw [List.getLast?_eq_getElem?, last]
      rw [only]
      simp
  | some k =>
      obtain ⟨answered, sent, same⟩ := echoes k rfl
      obtain ⟨call', rfl⟩ := wired.sent _ command last
      obtain ⟨other, rfl⟩ := wired.sent k answered sent
      rw [serial_congr _ _ same, serial_tries]
      exact eq_comm

theorem returns_answered (first : Nat) (state next : State) (call : Call) (nTries : Nat)
    (command : List UInt8) (reply : Reply) (wired : Wired first state)
    (returns : Returns call nTries command reply state next) :
    Answered state.tries ⟨call, nTries, state.tries.length - 1, some (reply, reply.bytes.1.drop 17)⟩
      reply (reply.bytes.1.drop 17) := by
  have echoes := wired.echoed reply returns.arrived
  obtain ⟨some', last⟩ := wired.waits call nTries command returns.waiting
  have all : state.tries.take (state.tries.length - 1 + 1) = state.tries :=
    List.take_of_length_le (by omega)
  refine ⟨Nat.sub_lt some' Nat.one_pos, ?_, fun k answers => ?_, fun handshake => ?_, echoes, rfl⟩
  · dsimp only
    rw [all]
    exact (taken_iff first state call nTries command reply wired returns.waiting echoes).mp
      ⟨returns.long, returns.same⟩
  · obtain ⟨_, sent, _⟩ := echoes k answers
    have inside := (List.getElem?_eq_some_iff.mp sent).1
    show k ≤ state.tries.length - 1
    omega
  · obtain ⟨call', rfl⟩ := wired.sent _ command last
    have same := returns.same
    rw [serial_handshake _ handshake] at same
    exact serial_not_handshake _ _ same

def Phase.made : Phase → Nat
  | .idle => 0
  | .trying _ nTries => nTries
  | .waiting _ nTries _ => nTries

/-- A call makes a try at least, whatever `maxTries` is. -/
def Call.most (call : Call) : Nat := max 1 call.maxTries

def Phase.Within : Phase → Prop
  | .idle => True
  | .trying call nTries => nTries < call.most
  | .waiting call nTries _ => 1 ≤ nTries ∧ nTries ≤ call.most

structure Ended (tries : List (List UInt8)) (result : Result) : Prop where
  least : 1 ≤ result.nTries
  most : result.nTries ≤ result.call.most
  timeout : result.reply = none → result.nTries = result.call.most
  answered : ∀ reply data, result.reply = some (reply, data) → Answered tries result reply data

theorem Ended.more {tries : List (List UInt8)} {result : Result} (ended : Ended tries result)
    (next : List UInt8) : Ended (tries ++ [next]) result where
  least := ended.least
  most := ended.most
  timeout := ended.timeout
  answered reply data given := (ended.answered reply data given).more next

structure Session (first : Nat) (state : State) : Prop where
  wired : Wired first state
  within : state.phase.Within
  total : state.tries.length = (state.results.map Result.nTries).sum + state.phase.made
  ended : ∀ result ∈ state.results, Ended state.tries result

theorem sum_last (results : List Result) (result : Result) :
    ((results ++ [result]).map Result.nTries).sum =
      (results.map Result.nTries).sum + result.nTries := by
  rw [List.map_append, List.sum_append, List.map_singleton, List.sum_singleton]

theorem session_step (first : Nat) (state : State) (action : Action) (next : State)
    (session : Session first state) (stepped : step state action = some next) :
    Session first next := by
  have within := session.within
  have total := session.total
  have wired := wired_step first state action next session.wired stepped
  have progress := step_progress state action next stepped
  generalize looked state action = look at progress
  cases progress with
  | unchanged _ same =>
      refine ⟨wired, ?_, ?_, ?_⟩
      · rwa [same.phase]
      · rwa [same.phase, same.tries, same.results]
      · rw [same.tries, same.results]
        exact session.ended
  | began call began =>
      rw [began.idle] at total
      refine ⟨wired, ?_, ?_, ?_⟩
      · rw [began.phase]
        exact Nat.lt_of_lt_of_le Nat.one_pos (Nat.le_max_left _ _)
      · rw [began.phase, began.tries, began.results]
        exact total
      · rw [began.tries, began.results]
        exact session.ended
  | sent call nTries sent =>
      rw [sent.trying] at total within
      refine ⟨wired, ?_, ?_, ?_⟩
      · rw [sent.phase]
        exact ⟨Nat.succ_pos _, within⟩
      · rw [sent.phase, sent.tries, sent.results, List.length_append, total]
        rfl
      · rw [sent.tries, sent.results]
        exact fun result member => (session.ended result member).more _
  | retries call nTries retries =>
      obtain ⟨command, waiting⟩ := retries.waiting
      rw [waiting] at total within
      refine ⟨wired, ?_, ?_, ?_⟩
      · rw [retries.phase]
        exact Nat.lt_of_lt_of_le retries.more (Nat.le_max_right _ _)
      · rw [retries.phase, retries.tries, retries.results]
        exact total
      · rw [retries.tries, retries.results]
        exact session.ended
  | givesUp call nTries givesUp =>
      obtain ⟨command, waiting⟩ := givesUp.waiting
      rw [waiting] at total within
      have enough := givesUp.enough
      refine ⟨wired, ?_, ?_, ?_⟩
      · rw [givesUp.phase]
        trivial
      · rw [givesUp.phase, givesUp.tries, givesUp.results, sum_last]
        exact total
      · rw [givesUp.tries, givesUp.results]
        refine List.forall_mem_append.mpr ⟨session.ended, List.forall_mem_singleton.mpr ?_⟩
        refine ⟨within.1, within.2, fun _ => ?_, fun _ _ given => by cases given⟩
        exact Nat.le_antisymm within.2 (Nat.max_le.mpr ⟨within.1, enough⟩)
  | returns call nTries command reply returns =>
      have answered := returns_answered first state next call nTries command reply session.wired
        returns
      rw [returns.waiting] at total within
      refine ⟨wired, ?_, ?_, ?_⟩
      · rw [returns.phase]
        trivial
      · rw [returns.phase, returns.tries, returns.results, sum_last]
        exact total
      · rw [returns.tries, returns.results]
        refine List.forall_mem_append.mpr ⟨session.ended, List.forall_mem_singleton.mpr ?_⟩
        refine ⟨within.1, within.2, fun none => ?_, fun other data given => ?_⟩
        · cases none
        · cases given
          exact answered

theorem session_start (first : FirstSN) : Session first (started first) :=
  ⟨wired_start first, trivial, rfl, fun _ member => by cases member⟩

/-- The answer to the first of two tries comes too late, behind one that an earlier
`Connection` has left in the queue. -/
def lateCall : Call := ⟨0, 0, 1, [7], 2, by decide⟩

theorem late_whole (sn : Nat) : (serialBytes sn ++ [1, 9]).length < 2 ∨
    18 ≤ (serialBytes sn ++ [1, 9]).length ∧ (serialBytes sn ++ [1, 9]).length ≤ 2046 := by
  simp [serialBytes]

def lateAnswer (sn : Nat) : Datagram := ⟨serialBytes sn ++ [1, 9], late_whole sn⟩

def lateActions : List Action :=
  [.startAcquisition, .stray (lateAnswer 4), .worker 0, .call lateCall, .attempt, .expire, .attempt,
    .answer 0 (lateAnswer 5), .answer 1 (lateAnswer 6), .worker 0, .worker 0]

def lateState : State :=
  { lastSN := 7
    tries := [commandOf 5 lateCall, commandOf 6 lateCall]
    phase := .waiting lateCall 2 (commandOf 6 lateCall)
    acquiring := true
    network := []
    replyQueue := [⟨none, lateAnswer 4⟩, ⟨some 0, lateAnswer 5⟩, ⟨some 1, lateAnswer 6⟩]
    results := [] }

/-- In every run, a call makes one to `maxTries` tries, all of them if it times out,
and a reply it returns has the number of its last try: if it answers a try of this
`Connection`, one that is a multiple of 2^15 tries away, and with no more tries than
that, the last. -/
theorem calls_answered (first : FirstSN) (actions : List Action) (final : State)
    (ran : run step (started first) actions = some final) :
    final.tries.length = (final.results.map Result.nTries).sum + final.phase.made ∧
      ∀ result ∈ final.results, Ended final.tries result ∧
        (final.tries.length ≤ 2 ^ 15 → ∀ reply data, result.reply = some (reply, data) →
          ∀ k ∈ reply.answers, k = result.last) := by
  have session := run_invariant step (session_step first) actions _ final (session_start first) ran
  refine ⟨session.total, fun result member => ⟨session.ended result member, ?_⟩⟩
  intro few reply data given k answers
  have answered := (session.ended result member).answered reply data given
  have sent := answered.sent
  have before := answered.before k answers
  have same := answered.numbered.2
  rw [Option.mem_def.mp answers, List.length_take] at same
  dsimp only at same
  omega

def lateEnd : State :=
  { lateState with
    phase := .idle
    replyQueue := []
    results := [⟨lateCall, 2, 1, some (⟨some 1, lateAnswer 6⟩, [9])⟩] }

theorem calls_answered_late :
    lateEnd.tries.length = (lateEnd.results.map Result.nTries).sum + lateEnd.phase.made ∧
      ∀ result ∈ lateEnd.results, Ended lateEnd.tries result ∧
        (lateEnd.tries.length ≤ 2 ^ 15 → ∀ reply data, result.reply = some (reply, data) →
          ∀ k ∈ reply.answers, k = result.last) :=
  calls_answered ⟨5, by decide⟩ (lateActions ++ [.dequeue, .dequeue, .dequeue]) lateEnd
    (by decide +kernel)

/-! When a call gets another answer -/

/-- Every call that returned got the answer to its own last try. -/
def OwnAnswers (state : State) : Prop :=
  ∀ result ∈ state.results, ∀ reply data, result.reply = some (reply, data) →
    reply.answers = some result.last

/-- The loop looks at no other reply with the number of the last try. -/
def NoneMistaken (state : State) (action : Action) : Prop :=
  ∀ reply ∈ looked state action, Numbered state.tries reply →
    reply.answers = some (state.tries.length - 1)

theorem own_kept (first : Nat) (state : State) (action : Action) (next : State)
    (wired : Wired first state) (own : OwnAnswers state) (stepped : step state action = some next)
    (fresh : NoneMistaken state action) : OwnAnswers next := by
  unfold OwnAnswers at own ⊢
  unfold NoneMistaken at fresh
  have progress := step_progress state action next stepped
  generalize looked state action = look at fresh progress
  cases progress with
  | unchanged _ same => rwa [same.results]
  | began call began => rwa [began.results]
  | sent call nTries sent => rwa [sent.results]
  | retries call nTries retries => rwa [retries.results]
  | givesUp call nTries givesUp =>
      rw [givesUp.results]
      exact List.forall_mem_append.mpr
        ⟨own, List.forall_mem_singleton.mpr fun _ _ given => by cases given⟩
  | returns call nTries command reply returns =>
      rw [returns.results]
      refine List.forall_mem_append.mpr ⟨own, List.forall_mem_singleton.mpr ?_⟩
      intro other data given
      cases given
      exact fresh reply rfl ((taken_iff first state call nTries command reply wired returns.waiting
        (wired.echoed reply returns.arrived)).mp ⟨returns.long, returns.same⟩)

theorem looked_taken (state : State) (action : Action) (next : State) (reply : Reply)
    (stepped : step state action = some next) (look : looked state action = some reply) :
    reply ∈ state.replies ∧ ∃ call nTries command, ∃ base : State,
      state.phase = .waiting call nTries command ∧ base.tries = state.tries ∧
        base.results = state.results ∧ next = base.take call nTries command reply := by
  cases action with
  | receive place =>
      have found : state.network[place]? = some reply := look
      simp only [step] at stepped
      split at stepped
      · split_ifs at stepped
        rw [found] at stepped
        cases stepped
        exact ⟨List.mem_append_left _ (List.mem_of_getElem? found), _, _, _,
          { state with network := state.network.eraseIdx place }, by assumption, rfl, rfl, rfl⟩
      · cases stepped
  | dequeue =>
      simp only [step] at stepped
      split at stepped
      · split_ifs at stepped
        cases stepped
        rename_i rest _ queue _
        rw [looked, queue] at look
        cases look
        refine ⟨List.mem_append_right _ ?_, _, _, _, { state with replyQueue := rest },
          by assumption, rfl, rfl, rfl⟩
        rw [queue]
        exact List.mem_cons_self
      · cases stepped
  | _ => cases look

theorem own_needs (first : Nat) (state : State) (action : Action) (next : State)
    (wired : Wired first state) (stepped : step state action = some next)
    (own : OwnAnswers next) : NoneMistaken state action := by
  intro reply look numbered
  obtain ⟨arrived, call, nTries, command, base, waiting, tries, results, rfl⟩ :=
    looked_taken state action next reply stepped look
  obtain ⟨long, same⟩ := (taken_iff first state call nTries command reply wired waiting
    (wired.echoed reply arrived)).mpr numbered
  rw [take_own base call nTries command reply long same, tries] at own
  exact own _ (List.mem_append_right _ List.mem_cons_self) reply _ rfl

/-- All calls get their own answers exactly in the runs in which the loop never looks
at another reply with the number of the last try. -/
theorem own_answers_iff (first : FirstSN) (actions : List Action) :
    Throughout step OwnAnswers (started first) actions ↔
      Along step NoneMistaken (started first) actions := by
  refine @throughout_iff_along _ _ step (fun state => Wired first state ∧ OwnAnswers state) _ _
    (fun _ both => both.2) ?_ ?_ actions _ ⟨wired_start first, fun _ member => by cases member⟩
  · rintro state action next ⟨wired, own⟩ stepped fresh
    exact ⟨wired_step first state action next wired stepped,
      own_kept first state action next wired own stepped fresh⟩
  · rintro state action next ⟨wired, _⟩ stepped own
    exact own_needs first state action next wired stepped own

/-! Replies that came too late -/

/-- The front end puts the number in front of an answer. -/
theorem echoed_long (first : Nat) (state : State) (reply : Reply) (wired : Wired first state)
    (echoes : Echoes state.tries reply) (k : Nat) (answers : reply.answers = some k) :
    2 ≤ reply.bytes.1.length := by
  obtain ⟨command, sent, same⟩ := echoes k answers
  obtain ⟨call, rfl⟩ := wired.sent k command sent
  have lengths := congrArg List.length same
  have numbers : (serialBytes ((first + k) % 2 ^ 15)).length = 16 := by simp [serialBytes]
  rw [List.length_take, List.length_take, commandOf, List.length_append, numbers] at lengths
  omega

/-- While data are taken, replies with other numbers that are left in the queue cost
the loop a turn each, and the call returns the answer to its try behind them. -/
theorem late_replies_passed (first : FirstSN) (actions : List Action) (state : State)
    (ran : run step (started first) actions = some state) (call : Call) (nTries : Nat)
    (command : List UInt8) (waiting : state.phase = .waiting call nTries command)
    (acquiring : state.acquiring = true) (late rest : List Reply) (own : Reply)
    (queue : state.replyQueue = late ++ own :: rest)
    (answers : own.answers = some (state.tries.length - 1))
    (others : ∀ reply ∈ late, ¬ Numbered state.tries reply) :
    run step state (List.replicate (late.length + 1) .dequeue) = some
      { state with
        phase := .idle
        replyQueue := rest
        results := state.results ++
          [⟨call, nTries, state.tries.length - 1, some (own, own.bytes.1.drop 17)⟩] } := by
  have wired := (run_invariant step (session_step first) actions _ state
    (session_start first) ran).wired
  clear ran
  induction late generalizing state with
  | nil =>
      have echoes := wired.echoed own
        (List.mem_append_right _ (by rw [queue]; exact List.mem_cons_self))
      have long := echoed_long first state own wired echoes _ answers
      have numbered : Numbered state.tries own := ⟨long, by rw [answers]⟩
      obtain ⟨_, same⟩ :=
        (taken_iff first state call nTries command own wired waiting echoes).mpr numbered
      rw [List.nil_append] at queue
      have stepped : step state .dequeue =
          some ({ state with replyQueue := rest }.take call nTries command own) := by
        simp only [step, waiting, queue, acquiring, if_true]
      rw [List.length_nil, List.replicate_one, run, stepped, Option.bind_some, run,
        take_own _ _ _ _ _ long same]
  | cons reply late ih =>
      obtain ⟨here, later⟩ := List.forall_mem_cons.mp others
      have arrived : reply ∈ state.replies :=
        List.mem_append_right _ (by rw [queue]; exact List.mem_cons_self)
      have dropped : { state with replyQueue := late ++ own :: rest }.take call nTries command
          reply = { state with replyQueue := late ++ own :: rest } := by
        refine (take_cases _ call nTries command reply).resolve_right ?_
        rintro ⟨long, same, _⟩
        exact here ((taken_iff first state call nTries command reply wired waiting
          (wired.echoed reply arrived)).mp ⟨long, same⟩)
      have stepped : step state .dequeue =
          some { state with replyQueue := late ++ own :: rest } := by
        simp only [step, waiting, queue, acquiring, if_true, List.cons_append]
        rw [← waiting, ← acquiring, dropped]
      have kept := popped_replies state
      rw [queue] at kept
      rw [List.length_cons, List.replicate_succ, run, stepped, Option.bind_some]
      exact ih { state with replyQueue := late ++ own :: rest } waiting acquiring rfl answers later
        (wired.keep kept)

theorem late_others : ∀ reply ∈ [⟨none, lateAnswer 4⟩, ⟨some 0, lateAnswer 5⟩],
    ¬ Numbered lateState.tries reply := by
  refine List.forall_mem_cons.mpr ⟨?_, List.forall_mem_singleton.mpr ?_⟩
  · rintro ⟨_, command, last, same⟩
    cases last
    revert same
    decide
  · rintro ⟨_, same⟩
    revert same
    decide

theorem late_replies_passed_late :
    run step lateState (List.replicate 3 .dequeue) = some
      { lateState with
        phase := .idle
        replyQueue := []
        results := [⟨lateCall, 2, 1, some (⟨some 1, lateAnswer 6⟩, [9])⟩] } :=
  late_replies_passed ⟨5, by decide⟩ lateActions lateState (by decide +kernel) lateCall 2
    (commandOf 6 lateCall) rfl rfl [⟨none, lateAnswer 4⟩, ⟨some 0, lateAnswer 5⟩] []
    ⟨some 1, lateAnswer 6⟩ rfl rfl late_others

end GramsTof.CommandSerials
