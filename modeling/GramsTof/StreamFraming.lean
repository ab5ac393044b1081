import Mathlib.Tactic

/-!
Reassembly of messages from a byte stream that arrives in arbitrary pieces. A
`Framer` looks at the front of the carried buffer only; the two stability laws
say that a decision taken on a prefix is not revised by later bytes. They are
all that segmentation independence needs. Nothing here names a packet format.
-/

namespace GramsTof.StreamFraming

universe u v
variable {Byte : Type u} {Msg : Type v}

/-- What a receiver can say about the front of its buffer. -/
inductive Verdict (Msg : Type v) where
  | wait
  | corrupt
  | frame (msg : Msg) (size : Nat)
  deriving DecidableEq

structure Framer (Byte : Type u) (Msg : Type v) where
  head : List Byte → Verdict Msg
  progress : ∀ buffer msg size, head buffer = .frame msg size →
    0 < size ∧ size ≤ buffer.length
  corrupt_stable : ∀ buffer more, head buffer = .corrupt → head (buffer ++ more) = .corrupt
  frame_stable : ∀ buffer more msg size, head buffer = .frame msg size →
    head (buffer ++ more) = .frame msg size

/-- The messages taken out of a buffer, and the bytes left over; `none` is a
dropped stream. -/
abbrev Drained (Byte : Type u) (Msg : Type v) := List Msg × Option (List Byte)

namespace Framer
variable (framer : Framer Byte Msg)

def drainFuel : Nat → List Byte → Drained Byte Msg
  | 0, buffer => ([], some buffer)
  | fuel + 1, buffer =>
      match framer.head buffer with
      | .wait => ([], some buffer)
      | .corrupt => ([], none)
      | .frame msg size =>
          let next := drainFuel fuel (buffer.drop size)
          (msg :: next.1, next.2)

def drain (buffer : List Byte) : Drained Byte Msg := framer.drainFuel (buffer.length + 1) buffer

theorem drain_fuel_enough (fuel : Nat) (buffer : List Byte) (enough : buffer.length < fuel) :
    framer.drainFuel fuel buffer = framer.drain buffer := by
  induction fuel using Nat.strongRecOn generalizing buffer with
  | ind fuel ih =>
      cases fuel with
      | zero => omega
      | succ fuel =>
          unfold drain
          simp only [drainFuel]
          cases verdict : framer.head buffer with
          | wait => rfl
          | corrupt => rfl
          | frame msg size =>
              obtain ⟨positive, inside⟩ := framer.progress buffer msg size verdict
              have shorter : (buffer.drop size).length < buffer.length := by
                rw [List.length_drop]
                omega
              -- both amounts of fuel are enough for the shorter rest
              have left := ih fuel (by omega) (buffer.drop size) (by omega)
              by_cases same : fuel = buffer.length
              · rw [same]
              · have right := ih buffer.length (by omega) (buffer.drop size) shorter
                simp only [left, right]

theorem drain_wait (buffer : List Byte) (verdict : framer.head buffer = .wait) :
    framer.drain buffer = ([], some buffer) := by
  simp [drain, drainFuel, verdict]

theorem drain_corrupt (buffer : List Byte) (verdict : framer.head buffer = .corrupt) :
    framer.drain buffer = ([], none) := by
  simp [drain, drainFuel, verdict]

theorem drain_frame (buffer : List Byte) (msg : Msg) (size : Nat)
    (verdict : framer.head buffer = .frame msg size) :
    framer.drain buffer =
      (msg :: (framer.drain (buffer.drop size)).1, (framer.drain (buffer.drop size)).2) := by
  obtain ⟨positive, inside⟩ := framer.progress buffer msg size verdict
  have rest := framer.drain_fuel_enough buffer.length (buffer.drop size)
    (by rw [List.length_drop]; omega)
  rw [← rest]
  simp [drain, drainFuel, verdict]

theorem drain_residual_waits (buffer residual : List Byte)
    (kept : (framer.drain buffer).2 = some residual) : framer.head residual = .wait := by
  induction extent : buffer.length using Nat.strongRecOn generalizing buffer with
  | ind extent ih =>
      cases verdict : framer.head buffer with
      | wait =>
          rw [framer.drain_wait buffer verdict] at kept
          cases kept
          exact verdict
      | corrupt =>
          rw [framer.drain_corrupt buffer verdict] at kept
          cases kept
      | frame msg size =>
          obtain ⟨positive, inside⟩ := framer.progress buffer msg size verdict
          rw [framer.drain_frame buffer msg size verdict] at kept
          exact ih (buffer.drop size).length (by rw [List.length_drop]; omega)
            (buffer.drop size) kept rfl

/-- Draining a buffer and then what was left over together with later bytes
is draining everything at once. -/
theorem drain_append (buffer more : List Byte) :
    framer.drain (buffer ++ more) =
      match (framer.drain buffer).2 with
      | none => ((framer.drain buffer).1, none)
      | some residual =>
          ((framer.drain buffer).1 ++ (framer.drain (residual ++ more)).1,
            (framer.drain (residual ++ more)).2) := by
  induction extent : buffer.length using Nat.strongRecOn generalizing buffer with
  | ind extent ih =>
      cases verdict : framer.head buffer with
      | wait => simp [framer.drain_wait buffer verdict]
      | corrupt =>
          simp [framer.drain_corrupt buffer verdict,
            framer.drain_corrupt _ (framer.corrupt_stable buffer more verdict)]
      | frame msg size =>
          obtain ⟨positive, inside⟩ := framer.progress buffer msg size verdict
          have rest := ih (buffer.drop size).length (by rw [List.length_drop]; omega)
            (buffer.drop size) rfl
          rw [framer.drain_frame _ msg size (framer.frame_stable buffer more msg size verdict),
            framer.drain_frame buffer msg size verdict, List.drop_append_of_le_length inside, rest]
          cases (framer.drain (buffer.drop size)).2 <;> rfl

/-- One received piece; pieces after a drop are ignored. -/
def feed (state : Drained Byte Msg) (piece : List Byte) : Drained Byte Msg :=
  match state.2 with
  | none => state
  | some residual =>
      let next := framer.drain (residual ++ piece)
      (state.1 ++ next.1, next.2)

def receive (pieces : List (List Byte)) : Drained Byte Msg :=
  pieces.foldl framer.feed (framer.drain [])

theorem feed_drain (bytes piece : List Byte) :
    framer.feed (framer.drain bytes) piece = framer.drain (bytes ++ piece) := by
  rw [drain_append, feed]
  cases kept : (framer.drain bytes).2 with
  | none => exact Prod.ext rfl kept
  | some residual => rfl

/-- The received messages, the carried bytes and the drop decision depend on
the bytes only, not on how they were cut into pieces. -/
theorem receive_flatten (pieces : List (List Byte)) :
    framer.receive pieces = framer.drain pieces.flatten := by
  have general : ∀ bytes, pieces.foldl framer.feed (framer.drain bytes) =
      framer.drain (bytes ++ pieces.flatten) := by
    induction pieces with
    | nil => simp
    | cons piece rest ih =>
        intro bytes
        rw [List.foldl_cons, feed_drain, ih, List.flatten_cons, List.append_assoc]
  exact general []

theorem drain_front (encode : Msg → List Byte) (msgs : List Msg) (rest : List Byte)
    (framed : ∀ msg ∈ msgs, ∀ more, framer.head (encode msg ++ more) =
      .frame msg (encode msg).length) :
    framer.drain (msgs.flatMap encode ++ rest) =
      (msgs ++ (framer.drain rest).1, (framer.drain rest).2) := by
  induction msgs with
  | nil => rfl
  | cons msg later ih =>
      have first := framed msg List.mem_cons_self (later.flatMap encode ++ rest)
      have remaining := ih (fun other member => framed other (List.mem_cons_of_mem msg member))
      rw [List.flatMap_cons, List.append_assoc, framer.drain_frame _ _ _ first, List.drop_left,
        remaining]
      rfl

theorem drain_frames (encode : Msg → List Byte) (msgs : List Msg) (tail : List Byte)
    (framed : ∀ msg ∈ msgs, ∀ more, framer.head (encode msg ++ more) =
      .frame msg (encode msg).length)
    (waits : framer.head tail = .wait) :
    framer.drain (msgs.flatMap encode ++ tail) = (msgs, some tail) := by
  rw [framer.drain_front encode msgs tail framed, framer.drain_wait tail waits, List.append_nil]

theorem drain_framed (buffer : List Byte) (msg : Msg) (member : msg ∈ (framer.drain buffer).1) :
    ∃ front size, framer.head front = .frame msg size := by
  induction extent : buffer.length using Nat.strongRecOn generalizing buffer with
  | ind extent ih =>
      cases verdict : framer.head buffer with
      | wait => simp [framer.drain_wait buffer verdict] at member
      | corrupt => simp [framer.drain_corrupt buffer verdict] at member
      | frame first size =>
          obtain ⟨positive, inside⟩ := framer.progress buffer first size verdict
          rw [framer.drain_frame buffer first size verdict] at member
          rcases List.mem_cons.mp member with same | later
          · exact ⟨buffer, size, same ▸ verdict⟩
          · exact ih (buffer.drop size).length (by rw [List.length_drop]; omega)
              (buffer.drop size) later rfl

/-- Where a frame is cut at the length of its encoding, the messages taken out
are encoded, in order, by the bytes they were taken from. -/
theorem drain_consumes (encode : Msg → List Byte)
    (carries : ∀ buffer msg size, framer.head buffer = .frame msg size →
      buffer.take size = encode msg) (buffer : List Byte) :
    (framer.drain buffer).1.flatMap encode <+: buffer := by
  induction extent : buffer.length using Nat.strongRecOn generalizing buffer with
  | ind extent ih =>
      cases verdict : framer.head buffer with
      | wait => simp [framer.drain_wait buffer verdict]
      | corrupt => simp [framer.drain_corrupt buffer verdict]
      | frame msg size =>
          obtain ⟨positive, inside⟩ := framer.progress buffer msg size verdict
          have rest := ih (buffer.drop size).length (by rw [List.length_drop]; omega)
            (buffer.drop size) rfl
          rw [framer.drain_frame buffer msg size verdict, List.flatMap_cons,
            ← carries buffer msg size verdict]
          conv_rhs => rw [← List.take_append_drop size buffer]
          exact (List.prefix_append_right_inj _).mpr rest

end Framer
end GramsTof.StreamFraming
