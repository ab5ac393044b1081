import Mathlib.Tactic

/-!
The layers between a connection object and the kernel: `SafeFD::sendData`,
`GRAMS_TOF_FDManager::sendToClient` and `recvData`, and `GRAMS_TOF_Client`.
The kernel answers each call through explicit arguments, so every sequence of
partial results is a value. `clientFDs_` is represented by the `SafeFD` found
under the number in question, if there is one.
-/

namespace GramsTof.ClientSocket

/-- An answer of `::send` that lets the loop go on. A count above what is left
to send stands for the whole rest. -/
inductive Progress where
  | accepted (count : Nat)
  | interrupted
  deriving DecidableEq, Repr

/-- An answer of `::send` that ends the loop: `EAGAIN`/`EWOULDBLOCK` of a full
socket buffer, or any other error but `EINTR`. -/
inductive Refusal where
  | wouldBlock
  | failed
  deriving DecidableEq, Repr

/-- What the kernel answers during one call: the refusal is reached only if
the progress before it does not cover the data. -/
structure SendAnswers where
  progress : List Progress
  refusal : Refusal
  deriving DecidableEq, Repr

structure Sent where
  result : Int
  bytes : List UInt8
  deriving DecidableEq, Repr

/-- The loop of `SafeFD::sendData`; `rest` is `data + total`. Both refusals
leave through the same `return -1`. -/
def sendLoop (rest : List UInt8) (total : Nat) : List Progress → Refusal → Sent
  | answers, refusal =>
      if rest = [] then { result := total, bytes := [] }
      else match answers with
        | [] => { result := -1, bytes := [] }
        | .interrupted :: more => sendLoop rest total more refusal
        | .accepted count :: more =>
            let n := min count rest.length
            let next := sendLoop (rest.drop n) (total + n) more refusal
            { result := next.result, bytes := rest.take n ++ next.bytes }

def safeSendData (fd : Int) (data : List UInt8) (answers : SendAnswers) : Sent :=
  if fd ≤ 2 then { result := -1, bytes := [] }
  else sendLoop data 0 answers.progress answers.refusal

def sendToClient (registered : Option Int) (data : List UInt8) (answers : SendAnswers) : Sent :=
  match registered with
  | none => { result := -1, bytes := [] }
  | some fd => safeSendData fd data answers

/-- `GRAMS_TOF_Client`, with the `SafeFD` that `clientFDs_` holds under its
number. -/
structure Client where
  fd : Int
  registered : Option Int
  readBuffer : List UInt8
  deriving DecidableEq, Repr

def Client.sendData (client : Client) (data : List UInt8) (answers : SendAnswers) : Sent :=
  if client.fd < 0 then { result := -1, bytes := [] }
  else sendToClient client.registered data answers

inductive RecvResult where
  | data (bytes : List UInt8)
  | endOfFile
  | wouldBlock
  | interrupted
  | failed
  deriving DecidableEq, Repr

/-- The return value of `GRAMS_TOF_FDManager::recvData` and the bytes put into
its buffer. End of file, a would-block and an interruption all give 0. -/
def managerRecvData (registered : Option Int) (result : RecvResult) : Int × List UInt8 :=
  match registered with
  | none => (-1, [])
  | some fd =>
      if fd ≤ 2 then (-1, [])
      else match result with
        | .data bytes => (bytes.length, bytes)
        | .endOfFile => (0, [])
        | .wouldBlock => (0, [])
        | .interrupted => (0, [])
        | .failed => (-1, [])

/-- `GRAMS_TOF_Client::recvData`: the return value, the bytes copied to the
caller and the new internal buffer. `errnoBlocks` says whether `errno` reads
`EAGAIN`/`EWOULDBLOCK` after a negative result. -/
def Client.recvData (client : Client) (size : Nat) (result : RecvResult) (errnoBlocks : Bool) :
    Int × List UInt8 × Client :=
  if client.fd < 0 then (-1, [], client)
  else
    let received := managerRecvData client.registered result
    if received.1 < 0 ∧ errnoBlocks = false then (-1, [], client)
    else
      let readBuffer := client.readBuffer ++ received.2
      let toCopy := min size readBuffer.length
      (toCopy, readBuffer.take toCopy, { client with readBuffer := readBuffer.drop toCopy })

/-- `GRAMS_TOF_Client::closeFD`, as far as this object is concerned. -/
def Client.closeFD (client : Client) : Client :=
  if 0 ≤ client.fd then { fd := -1, registered := none, readBuffer := [] } else client

/-- A connection object as `run` builds it over a connected socket. -/
structure Client.Open (client : Client) : Prop where
  descriptor : 2 < client.fd
  registered : client.registered = some client.fd
  empty : client.readBuffer = []

theorem recv_passes_data (client : Client) (opened : client.Open) (size : Nat)
    (bytes : List UInt8) (fits : bytes.length ≤ size) (errnoBlocks : Bool) :
    client.recvData size (.data bytes) errnoBlocks = ((bytes.length : Int), bytes, client) := by
  obtain ⟨descriptor, registered, empty⟩ := opened
  have positive : ¬ client.fd < 0 := by omega
  have usable : ¬ client.fd ≤ 2 := by omega
  cases client with
  | mk fd kept readBuffer =>
      simp only at registered empty positive usable
      subst registered empty
      have counted : ¬ (bytes.length : Int) < 0 := by omega
      simp [counted, Client.recvData, managerRecvData, positive, usable, fits]

/-- With nothing kept from before, a read without bytes gives 0, unless it failed. -/
theorem recv_empty (client : Client) (opened : client.Open) (size : Nat) (result : RecvResult)
    (errnoBlocks : Bool) (none : (∀ bytes, result ≠ .data bytes) ∧
      (result = .failed → errnoBlocks = true)) :
    client.recvData size result errnoBlocks = (0, [], client) := by
  obtain ⟨descriptor, registered, empty⟩ := opened
  have positive : ¬ client.fd < 0 := by omega
  have usable : ¬ client.fd ≤ 2 := by omega
  cases client with
  | mk fd kept readBuffer =>
      simp only at registered empty positive usable
      subst registered empty
      cases result with
      | data bytes => exact absurd rfl (none.1 bytes)
      | failed => simp [Client.recvData, managerRecvData, positive, usable, none.2 rfl]
      | endOfFile => simp [Client.recvData, managerRecvData, positive, usable]
      | wouldBlock => simp [Client.recvData, managerRecvData, positive, usable]
      | interrupted => simp [Client.recvData, managerRecvData, positive, usable]

theorem recv_failed (client : Client) (opened : client.Open) (size : Nat) :
    client.recvData size .failed false = (-1, [], client) := by
  have descriptor := opened.descriptor
  simp [Client.recvData, managerRecvData, opened.registered, show ¬ client.fd < 0 by omega,
    show ¬ client.fd ≤ 2 by omega]

def capacity (progress : List Progress) : Nat :=
  match progress with
  | [] => 0
  | .accepted count :: more => count + capacity more
  | .interrupted :: more => capacity more

theorem send_loop_done (total : Nat) (progress : List Progress) (refusal : Refusal) :
    sendLoop [] total progress refusal = { result := total, bytes := [] } := by
  unfold sendLoop
  rfl

theorem send_loop_bytes (progress : List Progress) (refusal : Refusal) (rest : List UInt8)
    (total : Nat) :
    (sendLoop rest total progress refusal).bytes = rest.take (capacity progress) := by
  induction progress generalizing rest total with
  | nil =>
      by_cases done : rest = []
      · simp [done, send_loop_done]
      · simp [sendLoop, done, capacity]
  | cons answer more ih =>
      by_cases done : rest = []
      · simp [done, send_loop_done]
      · cases answer with
        | interrupted => simpa [sendLoop, done, capacity] using ih rest total
        | accepted count =>
            simp only [sendLoop, done, if_false, ih, capacity]
            by_cases whole : count ≤ rest.length
            · rw [Nat.min_eq_left whole, ← List.take_add]
            · have covered : rest.length ≤ count := by omega
              rw [Nat.min_eq_right covered, List.drop_length, List.take_nil, List.append_nil,
                List.take_of_length_le (Nat.le_refl _), List.take_of_length_le (by omega)]

theorem send_loop_covered (progress : List Progress) (refusal : Refusal) (rest : List UInt8)
    (total : Nat) (covered : rest.length ≤ capacity progress) :
    (sendLoop rest total progress refusal).result = (total + rest.length : Nat) := by
  induction progress generalizing rest total with
  | nil =>
      have done : rest = [] := List.length_eq_zero_iff.mp (Nat.le_zero.mp covered)
      simp [done, send_loop_done]
  | cons answer more ih =>
      by_cases done : rest = []
      · simp [done, send_loop_done]
      · cases answer with
        | interrupted => simpa [sendLoop, done] using ih rest total covered
        | accepted count =>
            simp only [capacity] at covered
            simp only [sendLoop, done, if_false]
            rw [ih _ _ (by rw [List.length_drop]; omega), List.length_drop]
            congr 1
            omega

/-- A partial send and a send refused at once return the same `-1`. -/
theorem send_loop_refused (progress : List Progress) (refusal : Refusal) (rest : List UInt8)
    (total : Nat) (refused : capacity progress < rest.length) :
    (sendLoop rest total progress refusal).result = -1 := by
  induction progress generalizing rest total with
  | nil =>
      have some : rest ≠ [] := List.ne_nil_of_length_pos (by omega)
      simp [sendLoop, some]
  | cons answer more ih =>
      have some : rest ≠ [] := List.ne_nil_of_length_pos (by omega)
      cases answer with
      | interrupted => simpa [sendLoop, some] using ih rest total refused
      | accepted count =>
          simp only [capacity] at refused
          simp only [sendLoop, some, if_false]
          exact ih _ _ (by rw [List.length_drop]; omega)

theorem send_open (client : Client) (opened : client.Open) (data : List UInt8)
    (answers : SendAnswers) :
    client.sendData data answers = sendLoop data 0 answers.progress answers.refusal := by
  have descriptor := opened.descriptor
  simp [Client.sendData, sendToClient, safeSendData, opened.registered,
    show ¬ client.fd < 0 by omega, show ¬ client.fd ≤ 2 by omega]

end GramsTof.ClientSocket
