import Mathlib.Tactic

/-!
Numbers of fixed widths in the layout of the host: the lowest byte comes first, and a
field begins at a multiple of its width. What lies in the gaps is not determined.
Nothing here names a format.
-/

namespace GramsTof.NativeStruct

/-- Bits beyond the width are dropped. -/
def lowFirst : Nat → Nat → List UInt8
  | 0, _ => []
  | width + 1, value => UInt8.ofNat value :: lowFirst width (value / 256)

def valueOf : List UInt8 → Nat
  | [] => 0
  | byte :: rest => byte.toNat + 256 * valueOf rest

@[simp] theorem lowFirst_length (width value : Nat) : (lowFirst width value).length = width := by
  induction width generalizing value with
  | zero => rfl
  | succ width ih => exact congrArg (· + 1) (ih (value / 256))

theorem value_lowFirst (width value : Nat) :
    valueOf (lowFirst width value) = value % 256 ^ width := by
  induction width generalizing value with
  | zero => exact (Nat.mod_one value).symm
  | succ width ih =>
      rw [lowFirst, valueOf, ih, UInt8.toNat_ofNat', Nat.pow_succ' (n := width)]
      exact (Nat.mod_mul).symm

structure Field where
  width : Nat
  value : Nat
  deriving DecidableEq, Repr

/-- The bytes that are skipped in front of a field. -/
def gap (offset width : Nat) : Nat := (width - offset % width) % width

@[simp] theorem gap_start (width : Nat) : gap 0 width = 0 := by
  rw [gap, Nat.zero_mod, Nat.sub_zero, Nat.mod_self]

def calcsize : Nat → List Nat → Nat
  | offset, [] => offset
  | offset, width :: rest => calcsize (offset + gap offset width + width) rest

def unpack : Nat → List Nat → List UInt8 → List Nat
  | _, [], _ => []
  | offset, width :: rest, bytes =>
      valueOf ((bytes.drop (gap offset width)).take width) ::
        unpack (offset + gap offset width + width) rest (bytes.drop (gap offset width + width))

section Pack
variable (fill : Nat → UInt8)

def pack : Nat → List Field → List UInt8
  | _, [] => []
  | offset, field :: rest =>
      (List.range' offset (gap offset field.width)).map fill ++
        (lowFirst field.width field.value ++
          pack (offset + gap offset field.width + field.width) rest)

theorem pack_length (offset : Nat) (fields : List Field) :
    offset + (pack fill offset fields).length = calcsize offset (fields.map Field.width) := by
  induction fields generalizing offset with
  | nil => rfl
  | cons field rest ih =>
      rw [List.map_cons, calcsize, ← ih, pack]
      simp only [List.length_append, List.length_map, List.length_range', lowFirst_length]
      omega

/-- What was packed is unpacked, whatever is in the gaps. -/
theorem unpack_pack (offset : Nat) (fields : List Field) (more : List UInt8) :
    unpack offset (fields.map Field.width) (pack fill offset fields ++ more) =
      fields.map fun field => field.value % 256 ^ field.width := by
  induction fields generalizing offset with
  | nil => rfl
  | cons field rest ih =>
      have skipped : ((List.range' offset (gap offset field.width)).map fill).length =
          gap offset field.width := by rw [List.length_map, List.length_range']
      rw [List.map_cons, List.map_cons, unpack, pack, List.append_assoc, List.append_assoc,
        ← List.drop_drop, List.drop_left' skipped, List.take_left' (lowFirst_length _ _),
        List.drop_left' (lowFirst_length _ _), value_lowFirst, ih]

theorem pack_append (offset : Nat) (first second : List Field) :
    pack fill offset (first ++ second) =
      pack fill offset first ++ pack fill (calcsize offset (first.map Field.width)) second := by
  induction first generalizing offset with
  | nil => rfl
  | cons field rest ih =>
      rw [List.cons_append, pack, pack, ih, List.map_cons, calcsize, List.append_assoc,
        List.append_assoc]

theorem pack_cons_aligned (offset width value : Nat) (rest : List Field)
    (aligned : gap offset width = 0) : pack fill offset (⟨width, value⟩ :: rest) =
      lowFirst width value ++ pack fill (offset + width) rest := by
  rw [pack, aligned]
  rfl

theorem pack_aligned (offset width value : Nat) (aligned : gap offset width = 0) :
    pack fill offset [⟨width, value⟩] = lowFirst width value := by
  rw [pack_cons_aligned fill offset width value [] aligned]
  exact List.append_nil _

end Pack

end GramsTof.NativeStruct
