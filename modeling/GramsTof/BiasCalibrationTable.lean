import GramsTof.InterruptedScript
import GramsTof.ScanText
import Mathlib.Data.List.AList

/-!
`make_bias_calibration_table`: the calibration of the bias slots from their PROMs
and from files, into one table. Printing is left out. What Python takes for white
space and for a number, and how it prints a float, are arguments. A calibration
file that cannot be opened or read breaks the script off there; the table is not
one of them.
-/

namespace GramsTof.BiasCalibrationTable

open PaddedDigits ScanText InterruptedScript

abbrev Slot : Type := Int × Int × Int

inductive CalibrationType where
  | NONE
  | ROM
  | FILE
  deriving DecidableEq, Repr

/-- `febd_calibration_type`; the order of its entries is not used. -/
abbrev Types : Type := AList fun _ : Slot => CalibrationType

/-- `\s`, `int`, what `%f` prints of `float`, and what it prints of a measured
voltage. -/
structure Python where
  space : Char → Bool
  int : Text → Option Int
  float : Text → Option Text
  voltage : Nat → Text

/-- The slots that were found, register 0x0030 of their FEB/Ds, and their PROMs. -/
structure System where
  activeBiasSlots : List Slot
  distinct : activeBiasSlots.Nodup
  interface : Int → Int → Nat
  prom : Slot → Nat → UInt8

/-- The arguments; `None` is the same as an empty list. `lines` are those of the
calibration files. -/
structure Request where
  output_path : Text
  port_ids : List Int
  slave_ids : List Int
  slot_ids : List Int
  filenames : List Text
  lines : Text → List Text

def printInt (n : Int) : Text := if n < 0 then '-' :: decimal n.natAbs else decimal n.natAbs

/-- A line of the table; the voltage is printed already. -/
def tableLine (slot : Slot) (channelID x : Int) (voltage : Text) (adc : Nat) : Text :=
  tabbed [printInt slot.1, printInt slot.2.1, printInt slot.2.2, printInt channelID, printInt x,
    voltage, decimal adc] ++ ['\n']

/-! The PROM -/

def BIAS_32P_MAGIC : List UInt8 :=
  [0x27, 0x43, 0xd4, 0x9c, 0x28, 0x41, 0x47, 0xe2, 0xbb, 0xa2, 0xff, 0x81, 0xd0, 0x60, 0x12, 0xd3]

def BIAS_32P_AG_MAGIC : List UInt8 :=
  [0x36, 0x53, 0x77, 0x48, 0x72, 0x36, 0x55, 0x77, 0x68, 0x53, 0x57, 0x49, 0x6b, 0x76, 0x4a, 0x50]

def BIAS_32P_LTC2439_MAGIC : List UInt8 :=
  [0x2b, 0x0c, 0x37, 0xc0, 0xa1, 0xa5, 0x49, 0xe3, 0xae, 0x22, 0xf3, 0x7c, 0x7b, 0xae, 0x45, 0x19]

def petsysHeader : List UInt8 := [0x50, 0x45, 0x54, 0x53, 0x59, 0x53, 0x20, 0x20]

def has_prom (system : System) (slot : Slot) : Bool :=
  system.interface slot.1 slot.2.1 >>> (4 * slot.2.2.toNat) &&& 0xF ≠ 0xF

/-- What a PROM holds from an address on; of an address it takes 16 bits. -/
def bytesAt (prom : Nat → UInt8) (address n_bytes : Nat) : List UInt8 :=
  (List.range n_bytes).map fun i => prom ((address + i) % 65536)

/-- `struct.unpack` of a number without sign. -/
def unpack (data : List UInt8) : Nat := Nat.ofDigits 256 (data.map UInt8.toNat)

/-- Two bytes by a command. -/
def m95256_read (prom : Nat → UInt8) (address n_bytes : Nat) : Script Text (List UInt8) :=
  ⟨List.replicate ((n_bytes + 1) / 2) .call, .ok (bytesAt prom address n_bytes)⟩

def readNumber (prom : Nat → UInt8) (address n_bytes : Nat) : Script Text Nat := do
  let data ← m95256_read prom address n_bytes
  pure (unpack data)

section FromRom
variable (python : Python) (outputFile : Text) (slot : Slot) (prom : Nat → UInt8)

/-- The values and the lines of a PROM of layout 1. -/
def addLayoutOne (offset : Nat) : Script Text Unit := do
  let n_channels ← readNumber prom (0x0010 + offset) 8
  let n_x_values ← readNumber prom (0x0018 + offset) 8
  let x_values ← Script.gather (fun i => readNumber prom (0x020 + 2 * i + offset) 2)
    (List.range n_x_values)
  let address := 0x0020 + 2 * n_x_values
  let v_meas ← Script.gather
    (fun j => Script.gather
      (fun i => readNumber prom (address + 4 * (j * n_x_values + i) + offset) 4)
      (List.range n_x_values))
    (List.range n_channels)
  let address := address + 4 * (n_channels * n_x_values)
  let adc_meas ← Script.gather
    (fun j => Script.gather
      (fun i => readNumber prom (address + 4 * (j * n_x_values + i) + offset) 4)
      (List.range n_x_values))
    (List.range n_channels)
  Script.forEach (List.range n_channels) fun j =>
    Script.forEach (List.range n_x_values) fun i =>
      Script.write outputFile (tableLine slot j (x_values.getD i 0)
        (python.voltage ((v_meas.getD j []).getD i 0)) ((adc_meas.getD j []).getD i 0))

/-- `exit` raises what `except Exception` lets pass. -/
def add_calibration_from_rom : Script Text Unit := do
  let data ← m95256_read prom 0x0000 8
  if data ≠ petsysHeader then
    let data ← m95256_read prom 0x0000 16
    if data ∈ [BIAS_32P_MAGIC, BIAS_32P_AG_MAGIC, BIAS_32P_LTC2439_MAGIC] then
      addLayoutOne python outputFile slot prom 4
    else Script.raise .other
  else
    let promLayoutVersion ← readNumber prom 0x0008 8
    if promLayoutVersion = 0x01 then addLayoutOne python outputFile slot prom 0
    else Script.raise .other

end FromRom

/-! The calibration files -/

/-- The fields between white space; a line without any has one empty field. -/
def normalizeAndSplit (python : Python) (l : Text) : List Text :=
  let l := l.takeWhile (· ≠ '#')
  let fields := (l.splitOnP python.space).filter (· ≠ [])
  if fields = [] then [[]] else fields

section FromFile
variable (python : Python) (outputFile : Text) (slot : Slot)

/-- A line behind the one with the values of `x`; `none` is an exception. -/
def parseLine (x : List Int) (l : List Text) : Option (Int × List Text) :=
  match (l.take 3).mapM python.int with
  | some [_, _, channelID] =>
      match (l.drop 3).mapM python.float with
      | some y => if x.length = y.length then some (channelID, y) else none
      | none => none
  | _ => none

/-- The lines of a file, with the values of `x` that were read. -/
def addLines : List Int → List Text → Script Text Unit
  | _, [] => pure ()
  | x, line :: rest => do
      Script.call
      let l := normalizeAndSplit python line
      if l = [[]] then addLines x rest
      else if x = [] then
        match l.mapM python.int with
        | some x => addLines x rest
        | none => Script.raise .exception
      else
        match parseLine python x l with
        | some (channelID, y) => do
            Script.forEach (x.zip y) fun (x, y) =>
              Script.write outputFile (tableLine slot channelID x y 0)
            addLines x rest
        | none => Script.raise .exception

/-- The file is opened, read and closed. -/
def add_calibration_table_from_file (lines : List Text) : Script Text Unit := do
  Script.call
  addLines python outputFile slot [] lines
  Script.call

end FromFile

/-! The script -/

section Main
variable (python : Python) (system : System) (request : Request)

/-- The slot that is named for a file; `none` is an exception. -/
def Request.slotAt (i : Nat) : Option Slot := do
  let portID ← request.port_ids[i]?
  let slaveID ← request.slave_ids[i]?
  let slotID ← request.slot_ids[i]?
  some (portID, slaveID, slotID)

def promType (slot : Slot) : CalibrationType := if has_prom system slot then .ROM else .NONE

def addRom (slot : Slot) : Script Text CalibrationType := do
  Script.call
  if has_prom system slot then
    add_calibration_from_rom python request.output_path slot (system.prom slot)
  pure (promType system slot)

def addRoms : List Slot → Types → Script Text Types
  | [], types => pure types
  | slot :: rest, types => do
      let type ← addRom python system request slot
      addRoms rest (types.insert slot type)

/-- The loop over the files, from number `i` on; `none` is `return False`. -/
def addFiles : Nat → List Text → Types → Script Text (Option Types)
  | _, [], types => pure (some types)
  | i, filename :: rest, types =>
      match request.slotAt i with
      | none => Script.raise .exception
      | some slot =>
          if types.lookup slot = some .ROM then pure none
          else do
            add_calibration_table_from_file python request.output_path slot (request.lines filename)
            addFiles (i + 1) rest (types.insert slot .FILE)

/-- Behind the loops: every slot needs a calibration, and the table is closed. -/
def finish : Option Types → Script Text Bool
  | none => pure false
  | some types =>
      if types.entries.any fun entry => entry.2 = .NONE then pure false
      else do
        Script.call
        pure true

/-- The script behind the opening of the table. -/
def fillTable : Script Text Bool := do
  Script.call
  let types ← addRoms python system request system.activeBiasSlots ∅
  let types ← addFiles python request 0 request.filenames types
  finish types

def make_bias_calibration_table : Script Text Bool := do
  Script.call
  Script.openWrite request.output_path
  fillTable python system request

end Main

/-- The result is not looked at. -/
def safe_make_bias_calibration_table (inner : Except Raised Bool) : Except Raised Bool :=
  match inner with
  | .ok _ => .ok true
  | .error .exception => .ok false
  | .error .other => .error .other

/-! When the script comes to its end -/

/-- A PROM with a known header and layout. -/
def Readable (prom : Nat → UInt8) : Prop :=
  if bytesAt prom 0x0000 8 = petsysHeader then unpack (bytesAt prom 0x0008 8) = 0x01
  else bytesAt prom 0x0000 16 ∈ [BIAS_32P_MAGIC, BIAS_32P_AG_MAGIC, BIAS_32P_LTC2439_MAGIC]

def fieldLines (python : Python) (lines : List Text) : List (List Text) :=
  (lines.map (normalizeAndSplit python)).filter (· ≠ [[]])

/-- The first line that is not empty has numbers, and each one behind it has a
channel and as many values. -/
def Tabular (python : Python) (lines : List Text) : Prop :=
  match fieldLines python lines with
  | [] => True
  | first :: rest => ∃ x, first.mapM python.int = some x ∧ ∀ l ∈ rest, parseLine python x l ≠ none

/-- A slot that was found and has a PROM. -/
def Rom (system : System) (slot : Slot) : Prop :=
  slot ∈ system.activeBiasSlots ∧ has_prom system slot = true

/-- The slots that are named from file number `i` on, and the files. -/
def Request.namedFrom (request : Request) : Nat → List Text → List (Option Slot × Text)
  | _, [] => []
  | i, filename :: rest => (request.slotAt i, filename) :: request.namedFrom (i + 1) rest

def Request.named (request : Request) : List (Option Slot × Text) :=
  request.namedFrom 0 request.filenames

section Conditions
variable (python : Python) (system : System) (request : Request)

/-- A file for a slot without a PROM, and one that can be read. -/
def Fits (entry : Option Slot × Text) : Prop :=
  ∃ slot, entry.1 = some slot ∧ ¬ Rom system slot ∧ Tabular python (request.lines entry.2)

def Conflicts (entry : Option Slot × Text) : Prop := ∃ slot, entry.1 = some slot ∧ Rom system slot

/-- A slot for which there is neither a PROM nor a file. -/
def Uncovered (slot : Slot) : Prop :=
  slot ∈ system.activeBiasSlots ∧ has_prom system slot = false ∧
    ∀ entry ∈ request.named, entry.1 ≠ some slot

def PromsReadable : Prop :=
  ∀ slot ∈ system.activeBiasSlots, has_prom system slot = true → Readable (system.prom slot)

/-- Every slot has its calibration, and all of it can be read. -/
structure Complete : Prop where
  proms : PromsReadable system
  files : ∀ entry ∈ request.named, Fits python system request entry
  covered : ∀ slot, ¬ Uncovered system request slot

/-- A file is given for a slot with a PROM, or a slot has neither; everything
before that can be read. -/
structure Refused : Prop where
  proms : PromsReadable system
  reason :
    (∃ front entry rest, request.named = front ++ entry :: rest ∧
      (∀ early ∈ front, Fits python system request early) ∧ Conflicts system entry) ∨
    ((∀ entry ∈ request.named, Fits python system request entry) ∧
      ∃ slot, Uncovered system request slot)

end Conditions

section Ends
variable (python : Python) (outputFile : Text) (slot : Slot) (prom : Nat → UInt8)

theorem readNumber_ended (address n_bytes : Nat) :
    (readNumber prom address n_bytes).ended = .ok (unpack (bytesAt prom address n_bytes)) := rfl

theorem addLayoutOne_ended (offset : Nat) :
    (addLayoutOne python outputFile slot prom offset).ended = .ok () := by
  have values (address : Nat → Nat) (n_bytes : Nat) (items : List Nat) :
      ∃ values, (Script.gather (fun i => readNumber prom (address i) n_bytes) items).ended =
        .ok values :=
    gather_ended _ (fun i => ⟨_, readNumber_ended prom (address i) n_bytes⟩) items
  refine (ended_bind _ _ _).mpr ⟨_, readNumber_ended prom _ 8, ?_⟩
  refine (ended_bind _ _ _).mpr ⟨_, readNumber_ended prom _ 8, ?_⟩
  obtain ⟨x_values, first⟩ := values (fun i => 0x020 + 2 * i + offset) 2
    (List.range (unpack (bytesAt prom (0x0018 + offset) 8)))
  refine (ended_bind _ _ _).mpr ⟨x_values, first, ?_⟩
  obtain ⟨v_meas, second⟩ := gather_ended _ (fun j => values _ 4 _) _
  refine (ended_bind _ _ _).mpr ⟨v_meas, second, ?_⟩
  obtain ⟨adc_meas, third⟩ := gather_ended _ (fun j => values _ 4 _) _
  refine (ended_bind _ _ _).mpr ⟨adc_meas, third, ?_⟩
  exact forEach_ended _ _ fun j => forEach_ended _ _ fun i => rfl

theorem add_calibration_from_rom_ended :
    (add_calibration_from_rom python outputFile slot prom).ended = .ok () ↔ Readable prom := by
  have read (address n_bytes : Nat) :
      (m95256_read prom address n_bytes).ended = .ok (bytesAt prom address n_bytes) := rfl
  unfold Readable
  rw [add_calibration_from_rom, ended_after _ _ _ (read _ _)]
  by_cases header : bytesAt prom 0x0000 8 = petsysHeader
  · rw [if_neg (not_not.mpr header), if_pos header,
      ended_after _ _ _ (readNumber_ended prom _ _)]
    split_ifs with layout
    · exact iff_of_true (addLayoutOne_ended python outputFile slot prom 0) layout
    · exact iff_of_false nofun layout
  · rw [if_pos header, if_neg header, ended_after _ _ _ (read _ _)]
    split_ifs with magic
    · exact iff_of_true (addLayoutOne_ended python outputFile slot prom 4) magic
    · exact iff_of_false nofun magic

theorem fieldLines_empty (line : Text) (rest : List Text)
    (empty : normalizeAndSplit python line = [[]]) :
    fieldLines python (line :: rest) = fieldLines python rest := by
  rw [fieldLines, List.map_cons, empty]
  rfl

theorem fieldLines_cons (line : Text) (rest : List Text)
    (filled : normalizeAndSplit python line ≠ [[]]) :
    fieldLines python (line :: rest) = normalizeAndSplit python line :: fieldLines python rest := by
  have kept : decide (normalizeAndSplit python line ≠ [[]]) = true := decide_eq_true filled
  rw [fieldLines, List.map_cons]
  exact List.filter_cons_of_pos kept

/-- A loop over lines, of which the first one with fields has the values of `x`. -/
theorem addLines_ended (x : List Int) (some : x ≠ []) (lines : List Text) :
    (addLines python outputFile slot x lines).ended = .ok () ↔
      ∀ l ∈ fieldLines python lines, parseLine python x l ≠ none := by
  induction lines with
  | nil => exact iff_of_true rfl (List.forall_mem_nil _)
  | cons line rest ih =>
      rw [addLines, ended_after _ _ _ (rfl : Script.call.ended = .ok ())]
      dsimp only
      by_cases empty : normalizeAndSplit python line = [[]]
      · rw [if_pos empty, fieldLines_empty python line rest empty]
        exact ih
      · rw [if_neg empty, if_neg some, fieldLines_cons python line rest empty,
          List.forall_mem_cons]
        cases parsed : parseLine python x (normalizeAndSplit python line) with
        | none => exact iff_of_false nofun fun all => all.1 rfl
        | some row =>
            obtain ⟨channelID, y⟩ := row
            have written := forEach_ended (x.zip y)
              (fun xy => Script.write outputFile (tableLine slot channelID xy.1 xy.2 0)) fun _ => rfl
            dsimp only
            rw [ended_after _ _ _ written, ih]
            exact ⟨fun all => ⟨nofun, all⟩, fun all => all.2⟩

theorem fields_some (l : Text) : normalizeAndSplit python l ≠ [] := by
  unfold normalizeAndSplit
  dsimp only
  split_ifs with empty
  · exact List.cons_ne_nil _ _
  · exact empty

theorem addLines_tabular (lines : List Text) :
    (addLines python outputFile slot [] lines).ended = .ok () ↔ Tabular python lines := by
  unfold Tabular
  induction lines with
  | nil => exact iff_of_true rfl trivial
  | cons line rest ih =>
      rw [addLines, ended_after _ _ _ (rfl : Script.call.ended = .ok ())]
      dsimp only
      by_cases empty : normalizeAndSplit python line = [[]]
      · rw [if_pos empty, fieldLines_empty python line rest empty]
        exact ih
      · rw [if_neg empty, if_pos rfl, fieldLines_cons python line rest empty]
        dsimp only
        cases values : (normalizeAndSplit python line).mapM python.int with
        | none => exact iff_of_false nofun fun ⟨x, impossible, _⟩ => nomatch impossible
        | some x =>
            have first : x ≠ [] := by
              rintro rfl
              cases fields : normalizeAndSplit python line with
              | nil => exact fields_some python line fields
              | cons field others =>
                  rw [fields, List.mapM_cons] at values
                  simp [Option.bind_eq_some_iff] at values
            dsimp only
            rw [addLines_ended python outputFile slot x first rest]
            constructor
            · intro all
              exact ⟨x, rfl, all⟩
            · rintro ⟨other, same, all⟩
              cases same
              exact all

theorem from_file_ended (lines : List Text) :
    (add_calibration_table_from_file python outputFile slot lines).ended = .ok () ↔
      Tabular python lines := by
  rw [add_calibration_table_from_file, ended_after _ _ _ (rfl : Script.call.ended = .ok ()),
    ended_bind, ← addLines_tabular python outputFile slot lines]
  constructor
  · rintro ⟨⟨⟩, read, _⟩
    exact read
  · intro read
    exact ⟨(), read, rfl⟩

end Ends

section Loops
variable (python : Python) (system : System) (request : Request)

def enterRoms (slots : List Slot) (types : Types) : Types :=
  slots.foldl (fun types slot => types.insert slot (promType system slot)) types

theorem addRom_ended (slot : Slot) (type : CalibrationType) :
    (addRom python system request slot).ended = .ok type ↔
      (has_prom system slot = true → Readable (system.prom slot)) ∧ type = promType system slot := by
  rw [addRom, ended_after _ _ _ (rfl : Script.call.ended = .ok ())]
  by_cases present : has_prom system slot = true
  · rw [if_pos present, ended_bind]
    constructor
    · rintro ⟨⟨⟩, rom, ended⟩
      exact ⟨fun _ => (add_calibration_from_rom_ended python _ slot _).mp rom,
        (Except.ok.inj ended).symm⟩
    · rintro ⟨readable, rfl⟩
      exact ⟨(), (add_calibration_from_rom_ended python _ slot _).mpr (readable present), rfl⟩
  · rw [if_neg present]
    constructor
    · intro ended
      exact ⟨fun there => absurd there present, (Except.ok.inj ended).symm⟩
    · rintro ⟨_, rfl⟩
      rfl

theorem addRoms_ended (slots : List Slot) (types result : Types) :
    (addRoms python system request slots types).ended = .ok result ↔
      (∀ slot ∈ slots, has_prom system slot = true → Readable (system.prom slot)) ∧
        result = enterRoms system slots types := by
  induction slots generalizing types with
  | nil =>
      constructor
      · intro ended
        exact ⟨List.forall_mem_nil _, (Except.ok.inj ended).symm⟩
      · rintro ⟨_, rfl⟩
        rfl
  | cons slot rest ih =>
      rw [addRoms, ended_bind, List.forall_mem_cons]
      constructor
      · rintro ⟨type, first, later⟩
        obtain ⟨readable, rfl⟩ := (addRom_ended python system request slot type).mp first
        obtain ⟨all, rfl⟩ := (ih _).mp later
        exact ⟨⟨readable, all⟩, rfl⟩
      · rintro ⟨⟨readable, all⟩, rfl⟩
        exact ⟨_, (addRom_ended python system request slot _).mpr ⟨readable, rfl⟩,
          (ih _).mpr ⟨all, rfl⟩⟩

theorem enterRoms_lookup (slots : List Slot) (types : Types) (slot : Slot) :
    (enterRoms system slots types).lookup slot =
      if slot ∈ slots then some (promType system slot) else types.lookup slot := by
  induction slots generalizing types with
  | nil => rfl
  | cons first rest ih =>
      rw [enterRoms, List.foldl_cons]
      refine (ih _).trans ?_
      by_cases later : slot ∈ rest
      · rw [if_pos later, if_pos (List.mem_cons_of_mem _ later)]
      · rw [if_neg later]
        by_cases same : slot = first
        · subst same
          rw [AList.lookup_insert, if_pos List.mem_cons_self]
        · rw [AList.lookup_insert_ne same, if_neg]
          exact fun member => (List.mem_cons.mp member).elim same later

theorem promType_rom (slot : Slot) : promType system slot = .ROM ↔ has_prom system slot = true := by
  unfold promType
  cases has_prom system slot <;> simp

theorem promType_none (slot : Slot) :
    promType system slot = .NONE ↔ has_prom system slot = false := by
  unfold promType
  cases has_prom system slot <;> simp

theorem found_lookup (slot : Slot) (type : CalibrationType) :
    (enterRoms system system.activeBiasSlots ∅).lookup slot = some type ↔
      slot ∈ system.activeBiasSlots ∧ promType system slot = type := by
  rw [enterRoms_lookup]
  split_ifs with listed
  · rw [Option.some.injEq]
    exact ⟨fun same => ⟨listed, same⟩, And.right⟩
  · rw [AList.lookup_empty]
    exact iff_of_false nofun fun there => listed there.1

def enterFiles (entries : List (Option Slot × Text)) (types : Types) : Types :=
  entries.foldl (fun types entry =>
    match entry.1 with
    | some slot => types.insert slot .FILE
    | none => types) types

theorem enterFiles_none (entries : List (Option Slot × Text)) (types : Types) (slot : Slot) :
    (enterFiles entries types).lookup slot = some .NONE ↔
      types.lookup slot = some .NONE ∧ ∀ entry ∈ entries, entry.1 ≠ some slot := by
  induction entries generalizing types with
  | nil => exact ⟨fun held => ⟨held, List.forall_mem_nil _⟩, And.left⟩
  | cons entry rest ih =>
      obtain ⟨named, filename⟩ := entry
      rw [enterFiles, List.foldl_cons, List.forall_mem_cons]
      refine (ih _).trans ?_
      cases named with
      | none => exact and_congr_right fun _ => ⟨fun others => ⟨nofun, others⟩, And.right⟩
      | some named =>
          by_cases same : slot = named
          · subst same
            rw [AList.lookup_insert]
            exact iff_of_false (fun held => nomatch held.1) fun held => held.2.1 rfl
          · rw [AList.lookup_insert_ne same]
            refine and_congr_right fun _ => ⟨fun others => ⟨?_, others⟩, And.right⟩
            exact fun equal => same (Option.some.inj equal).symm

section Files
variable (types : Types)

/-- Entries for files hide no PROM. -/
theorem insert_roms (roms : ∀ slot, types.lookup slot = some .ROM ↔ Rom system slot) (slot : Slot)
    (free : ¬ Rom system slot) (other : Slot) :
    (types.insert slot .FILE).lookup other = some .ROM ↔ Rom system other := by
  by_cases same : other = slot
  · subst same
    rw [AList.lookup_insert]
    exact iff_of_false nofun free
  · rw [AList.lookup_insert_ne same]
    exact roms other

theorem addFiles_cons (roms : ∀ slot, types.lookup slot = some .ROM ↔ Rom system slot) (i : Nat)
    (filename : Text) (rest : List Text) (slot : Slot) (named : request.slotAt i = some slot)
    (free : ¬ Rom system slot) (result : Option Types) :
    (addFiles python request i (filename :: rest) types).ended = .ok result ↔
      Tabular python (request.lines filename) ∧
        (addFiles python request (i + 1) rest (types.insert slot .FILE)).ended = .ok result := by
  rw [addFiles, named]
  dsimp only
  rw [if_neg fun rom => free ((roms slot).mp rom), ended_bind]
  constructor
  · rintro ⟨⟨⟩, added, later⟩
    exact ⟨(from_file_ended python _ slot _).mp added, later⟩
  · rintro ⟨tabular, later⟩
    exact ⟨(), (from_file_ended python _ slot _).mpr tabular, later⟩

theorem addFiles_stops (roms : ∀ slot, types.lookup slot = some .ROM ↔ Rom system slot) (i : Nat)
    (filename : Text) (rest : List Text) (slot : Slot) (named : request.slotAt i = some slot)
    (rom : Rom system slot) :
    (addFiles python request i (filename :: rest) types).ended = .ok none := by
  rw [addFiles, named]
  dsimp only
  rw [if_pos ((roms slot).mpr rom)]
  rfl

theorem addFiles_unnamed (i : Nat) (filename : Text) (rest : List Text)
    (unnamed : request.slotAt i = none) :
    (addFiles python request i (filename :: rest) types).ended = .error .exception := by
  rw [addFiles, unnamed]
  rfl

theorem addFiles_refused (names : List Text) (i : Nat) (types : Types)
    (roms : ∀ slot, types.lookup slot = some .ROM ↔ Rom system slot) :
    (addFiles python request i names types).ended = .ok none ↔
      ∃ front entry rest, request.namedFrom i names = front ++ entry :: rest ∧
        (∀ early ∈ front, Fits python system request early) ∧ Conflicts system entry := by
  induction names generalizing i types with
  | nil => exact iff_of_false nofun fun ⟨front, _, _, split, _⟩ => by cases front <;> cases split
  | cons filename rest ih =>
      rw [Request.namedFrom]
      cases named : request.slotAt i with
      | none =>
          rw [addFiles_unnamed python request types i filename rest named]
          refine iff_of_false nofun ?_
          rintro ⟨front, entry, later, split, fits, slot, conflict, _⟩
          cases front with
          | nil =>
              cases split
              cases conflict
          | cons first front =>
              obtain ⟨_, absent, _⟩ := fits first List.mem_cons_self
              rw [← (List.cons.inj split).1] at absent
              cases absent
      | some slot =>
          by_cases rom : Rom system slot
          · rw [addFiles_stops python system request types roms i filename rest slot named rom]
            exact iff_of_true rfl ⟨[], _, _, rfl, List.forall_mem_nil _, slot, rfl, rom⟩
          · rw [addFiles_cons python system request types roms i filename rest slot named rom,
              ih (i + 1) _ (insert_roms system types roms slot rom)]
            constructor
            · rintro ⟨tabular, front, entry, later, split, fits, conflict⟩
              refine ⟨(some slot, filename) :: front, entry, later, congrArg _ split, ?_, conflict⟩
              exact List.forall_mem_cons.mpr ⟨⟨slot, rfl, rom, tabular⟩, fits⟩
            · rintro ⟨front, entry, later, split, fits, conflict⟩
              cases front with
              | nil =>
                  cases split
                  obtain ⟨_, ⟨⟩, other⟩ := conflict
                  exact absurd other rom
              | cons first front =>
                  obtain ⟨rfl, remaining⟩ := List.cons.inj split
                  obtain ⟨⟨_, _, _, tabular⟩, others⟩ := List.forall_mem_cons.mp fits
                  exact ⟨tabular, front, entry, later, remaining, others, conflict⟩

theorem addFiles_added (names : List Text) (i : Nat) (types : Types)
    (roms : ∀ slot, types.lookup slot = some .ROM ↔ Rom system slot) (result : Types) :
    (addFiles python request i names types).ended = .ok (some result) ↔
      (∀ entry ∈ request.namedFrom i names, Fits python system request entry) ∧
        result = enterFiles (request.namedFrom i names) types := by
  induction names generalizing i types with
  | nil =>
      constructor
      · intro ended
        exact ⟨List.forall_mem_nil _, (Option.some.inj (Except.ok.inj ended)).symm⟩
      · rintro ⟨_, rfl⟩
        rfl
  | cons filename rest ih =>
      rw [Request.namedFrom, List.forall_mem_cons]
      cases named : request.slotAt i with
      | none =>
          rw [addFiles_unnamed python request types i filename rest named]
          refine iff_of_false nofun ?_
          rintro ⟨⟨⟨_, absent, _⟩, _⟩, _⟩
          cases absent
      | some slot =>
          by_cases rom : Rom system slot
          · rw [addFiles_stops python system request types roms i filename rest slot named rom]
            refine iff_of_false nofun ?_
            rintro ⟨⟨⟨_, ⟨⟩, free, _⟩, _⟩, _⟩
            exact free rom
          · rw [addFiles_cons python system request types roms i filename rest slot named rom,
              ih (i + 1) _ (insert_roms system types roms slot rom)]
            constructor
            · rintro ⟨tabular, fits, rfl⟩
              exact ⟨⟨⟨slot, rfl, rom, tabular⟩, fits⟩, rfl⟩
            · rintro ⟨⟨⟨_, _, _, tabular⟩, fits⟩, rfl⟩
              exact ⟨tabular, fits, rfl⟩

end Files

end Loops

/-! The whole script -/

section Whole
variable (python : Python) (system : System) (request : Request)

theorem any_none (types : Types) :
    (types.entries.any fun entry => entry.2 = .NONE) = true ↔
      ∃ slot, types.lookup slot = some .NONE := by
  rw [List.any_eq_true]
  constructor
  · rintro ⟨⟨slot, type⟩, listed, same⟩
    obtain rfl : type = .NONE := of_decide_eq_true same
    exact ⟨slot, AList.mem_lookup_iff.mpr listed⟩
  · rintro ⟨slot, held⟩
    exact ⟨⟨slot, .NONE⟩, AList.mem_lookup_iff.mp held, rfl⟩

theorem finish_ended (types : Types) (result : Bool) :
    (finish (some types)).ended = .ok result ↔
      (result = true ↔ ∀ slot, types.lookup slot ≠ some .NONE) := by
  unfold finish
  dsimp only
  split_ifs with missing
  · obtain ⟨slot, held⟩ := (any_none types).mp missing
    have some : ¬ ∀ slot, types.lookup slot ≠ some .NONE := fun all => all slot held
    rw [iff_false_right some, Bool.not_eq_true]
    exact ⟨fun ended => (Except.ok.inj ended).symm, fun same => congrArg Except.ok same.symm⟩
  · have all : ∀ slot, types.lookup slot ≠ some .NONE :=
      fun slot held => missing ((any_none types).mpr ⟨slot, held⟩)
    rw [iff_true_right all]
    exact ⟨fun ended => (Except.ok.inj ended).symm, fun same => congrArg Except.ok same.symm⟩

theorem make_ended (result : Bool) :
    (make_bias_calibration_table python system request).ended = .ok result ↔
      PromsReadable system ∧ ∃ types,
        (addFiles python request 0 request.filenames
          (enterRoms system system.activeBiasSlots ∅)).ended = .ok types ∧
        (finish types).ended = .ok result := by
  rw [make_bias_calibration_table, ended_after _ _ _ (rfl : Script.call.ended = .ok ()),
    ended_after _ _ _ (rfl : (Script.openWrite request.output_path).ended = .ok ()), fillTable,
    ended_after _ _ _ (rfl : Script.call.ended = .ok ()), ended_bind]
  constructor
  · rintro ⟨types, roms, later⟩
    obtain ⟨readable, rfl⟩ := (addRoms_ended python system request _ _ types).mp roms
    exact ⟨readable, (ended_bind _ _ _).mp later⟩
  · rintro ⟨readable, later⟩
    exact ⟨_, (addRoms_ended python system request _ _ _).mpr ⟨readable, rfl⟩,
      (ended_bind _ _ _).mpr later⟩

theorem found_roms (slot : Slot) :
    (enterRoms system system.activeBiasSlots ∅).lookup slot = some .ROM ↔ Rom system slot := by
  rw [found_lookup, promType_rom]
  rfl

theorem uncovered_iff (slot : Slot) :
    (enterFiles request.named (enterRoms system system.activeBiasSlots ∅)).lookup slot =
      some .NONE ↔ Uncovered system request slot := by
  rw [enterFiles_none, found_lookup, promType_none, Uncovered, and_assoc]

theorem make_true_iff :
    (make_bias_calibration_table python system request).ended = .ok true ↔
      Complete python system request := by
  have files := addFiles_added python system request request.filenames 0 _ (found_roms system)
  rw [make_ended]
  constructor
  · rintro ⟨readable, types, added, ended⟩
    cases types with
    | none => cases ended
    | some types =>
        obtain ⟨fits, rfl⟩ := (files types).mp added
        have covered := ((finish_ended _ true).mp ended).mp rfl
        exact ⟨readable, fits, fun slot missing => covered slot ((uncovered_iff _ _ _).mpr missing)⟩
  · rintro ⟨readable, fits, covered⟩
    refine ⟨readable, _, (files _).mpr ⟨fits, rfl⟩, (finish_ended _ true).mpr ?_⟩
    exact iff_of_true rfl fun slot held => covered slot ((uncovered_iff _ _ _).mp held)

theorem make_false_iff :
    (make_bias_calibration_table python system request).ended = .ok false ↔
      Refused python system request := by
  have files := addFiles_added python system request request.filenames 0 _ (found_roms system)
  have refused := addFiles_refused python system request request.filenames 0 _ (found_roms system)
  rw [make_ended]
  constructor
  · rintro ⟨readable, types, added, ended⟩
    cases types with
    | none => exact ⟨readable, .inl (refused.mp added)⟩
    | some types =>
        obtain ⟨fits, rfl⟩ := (files types).mp added
        have covered := (finish_ended _ false).mp ended
        obtain ⟨slot, held⟩ : ∃ slot, _ = some CalibrationType.NONE :=
          not_forall_not.mp fun all => nomatch covered.mpr all
        exact ⟨readable, .inr ⟨fits, slot, (uncovered_iff _ _ _).mp held⟩⟩
  · rintro ⟨readable, conflict | ⟨fits, slot, missing⟩⟩
    · exact ⟨readable, none, refused.mpr conflict, rfl⟩
    · refine ⟨readable, _, (files _).mpr ⟨fits, rfl⟩, (finish_ended _ false).mpr ?_⟩
      exact iff_of_false nofun fun all => all slot ((uncovered_iff _ _ _).mpr missing)

end Whole

section Opening
variable (python : Python) (system : System) (request : Request)

theorem m95256_read_plain (prom : Nat → UInt8) (address n_bytes : Nat) :
    (m95256_read prom address n_bytes).Plain :=
  fun _ member => nomatch List.eq_of_mem_replicate member

theorem readNumber_plain (prom : Nat → UInt8) (address n_bytes : Nat) :
    (readNumber prom address n_bytes).Plain :=
  andThen_plain _ _ (m95256_read_plain prom address n_bytes) fun data => done_plain (unpack data)

theorem addLayoutOne_plain (outputFile : Text) (slot : Slot) (prom : Nat → UInt8) (offset : Nat) :
    (addLayoutOne python outputFile slot prom offset).Plain := by
  have values (address : Nat → Nat) (n_bytes : Nat) (items : List Nat) :
      (Script.gather (fun i => readNumber prom (address i) n_bytes) items).Plain :=
    gather_plain _ (fun i => readNumber_plain prom (address i) n_bytes) items
  refine andThen_plain _ _ (readNumber_plain prom _ 8) fun n_channels => ?_
  refine andThen_plain _ _ (readNumber_plain prom _ 8) fun n_x_values => ?_
  refine andThen_plain _ _ (values _ 2 _) fun x_values => ?_
  refine andThen_plain _ _ (gather_plain _ (fun j => values _ 4 _) _) fun v_meas => ?_
  refine andThen_plain _ _ (gather_plain _ (fun j => values _ 4 _) _) fun adc_meas => ?_
  exact forEach_plain _ _ fun j => forEach_plain _ _ fun i => write_plain outputFile _

theorem add_calibration_from_rom_plain (outputFile : Text) (slot : Slot) (prom : Nat → UInt8) :
    (add_calibration_from_rom python outputFile slot prom).Plain := by
  refine andThen_plain _ _ (m95256_read_plain prom _ 8) fun data => ?_
  split_ifs with header
  · refine andThen_plain _ _ (m95256_read_plain prom _ 16) fun data => ?_
    split_ifs with magic
    · exact addLayoutOne_plain python outputFile slot prom 4
    · exact raise_plain .other
  · refine andThen_plain _ _ (readNumber_plain prom _ 8) fun promLayoutVersion => ?_
    split_ifs with layout
    · exact addLayoutOne_plain python outputFile slot prom 0
    · exact raise_plain .other

theorem addLines_plain (outputFile : Text) (slot : Slot) (lines : List Text) (x : List Int) :
    (addLines python outputFile slot x lines).Plain := by
  induction lines generalizing x with
  | nil => exact done_plain ()
  | cons line rest ih =>
      refine andThen_plain _ _ call_plain fun _ => ?_
      dsimp only
      split_ifs with empty first
      · exact ih x
      · cases (normalizeAndSplit python line).mapM python.int with
        | none => exact raise_plain .exception
        | some x => exact ih x
      · cases parseLine python x (normalizeAndSplit python line) with
        | none => exact raise_plain .exception
        | some row =>
            exact andThen_plain _ _ (forEach_plain _ _ fun _ => write_plain outputFile _)
              fun _ => ih x

theorem from_file_plain (outputFile : Text) (slot : Slot) (lines : List Text) :
    (add_calibration_table_from_file python outputFile slot lines).Plain :=
  andThen_plain _ _ call_plain fun _ =>
    andThen_plain _ _ (addLines_plain python outputFile slot lines []) fun _ => call_plain

theorem addRom_plain (slot : Slot) : (addRom python system request slot).Plain := by
  refine andThen_plain _ _ call_plain fun _ => ?_
  split_ifs with present
  · exact andThen_plain _ _ (add_calibration_from_rom_plain python _ slot _) fun _ => done_plain _
  · exact done_plain _

theorem addRoms_plain (slots : List Slot) (types : Types) :
    (addRoms python system request slots types).Plain := by
  induction slots generalizing types with
  | nil => exact done_plain types
  | cons slot rest ih =>
      exact andThen_plain _ _ (addRom_plain python system request slot) fun type => ih _

theorem addFiles_plain (names : List Text) (i : Nat) (types : Types) :
    (addFiles python request i names types).Plain := by
  induction names generalizing i types with
  | nil => exact done_plain (some types)
  | cons filename rest ih =>
      rw [addFiles]
      cases request.slotAt i with
      | none => exact raise_plain .exception
      | some slot =>
          dsimp only
          split_ifs with rom
          · exact done_plain none
          · exact andThen_plain _ _ (from_file_plain python _ slot _) fun _ => ih (i + 1) _

theorem finish_plain (types : Option Types) : (finish types).Plain := by
  cases types with
  | none => exact done_plain false
  | some types =>
      unfold finish
      dsimp only
      split_ifs with missing
      · exact done_plain false
      · exact andThen_plain _ _ call_plain fun _ => done_plain true

theorem fillTable_plain : (fillTable python system request).Plain :=
  andThen_plain _ _ call_plain fun _ =>
    andThen_plain _ _ (addRoms_plain python system request _ _) fun types =>
      andThen_plain _ _ (addFiles_plain python request _ 0 types) fun entered => finish_plain entered

/-- The table is emptied before anything else is known than that there is a
connection. -/
theorem table_opens :
    OpensAt request.output_path 1 (make_bias_calibration_table python system request).effects := by
  refine ⟨[.call], (fillTable python system request).effects, rfl, rfl, ?_, ?_⟩
  · exact List.forall_mem_singleton.mpr id
  · exact fillTable_plain python system request request.output_path

end Opening

end GramsTof.BiasCalibrationTable
