import GramsTof.TriggerMap

/-!
`make_simple_channel_map`: the channel map and the trigger map of the FEB/Ds
that were found, and what `SystemConfig` makes of the two files. Printing and
`initializeSystem` are left out. An exception ends the model.
-/

namespace GramsTof.SimpleChannelMap

open PaddedDigits ScanText ConfigTables TableLoaders CalibrationTable TriggerMap

/-- `base_pcb` and `fw_variant`; nothing reads `prom_variant`. -/
structure UnitInfo where
  base_pcb : Nat
  fw_variant : Nat
  deriving DecidableEq, Repr

def is_febd (d : UnitInfo) : Bool :=
  let fw_variant := d.fw_variant >>> 48 &&& 0xFFFF
  if d.base_pcb = 0xFFFF then false else fw_variant ∈ [0x0000, 0x0001]

def is_trigger (d : UnitInfo) : Bool :=
  let fw_variant := d.fw_variant >>> 48 &&& 0xFFFF
  if d.base_pcb = 0xFFFF then false else fw_variant ∈ [0x0001, 0x0002]

def fem_per_febd (d : UnitInfo) : Option Nat :=
  if d.base_pcb ∈ [0x0000, 0x0001, 0x0002] then some 8
  else if d.base_pcb ∈ [0x0003] then some 1
  else if d.base_pcb ∈ [0x0004] then some 2
  else if d.base_pcb ∈ [0x0005] then some 16
  else none

def asic_per_module (d : UnitInfo) : Option Nat :=
  let fw_variant := d.fw_variant >>> 32 &&& 0xFFFF
  if fw_variant = 0x0000 then some 2
  else if fw_variant = 0x0001 then some 2
  else if fw_variant = 0x0002 then some 5
  else if fw_variant = 0x0011 then some 2
  else if fw_variant = 0x0111 then some 4
  else if fw_variant = 0x0211 then some 8
  else none

/-- `portID` is a bit of a mask of 64, and of `slaveID` a command carries 8 bits. -/
abbrev Address : Type := Fin 64 × Fin 256

/-- The order of the pairs of numbers. -/
def Before (a b : Address) : Prop := a.1 < b.1 ∨ a.1 = b.1 ∧ a.2 ≤ b.2

instance decidableBefore : DecidableRel Before := fun _ _ => inferInstanceAs (Decidable (_ ∨ _))

/-- The units that were found, and their registers of 16 bits at 0x0610. -/
structure Connection where
  activeUnits : List (Address × UnitInfo)
  distinct : (activeUnits.map Prod.fst).Nodup
  register : Address → BitVec 16

def Connection.units (connection : Connection) (kind : UnitInfo → Bool) : List Address :=
  (connection.activeUnits.filter fun unit => kind unit.2).map Prod.fst

/-- `none` is `ErrorTooManyTriggerUnits`. -/
def Connection.getTriggerUnit (connection : Connection) : Option (Option Address) :=
  match connection.units is_trigger with
  | [] => some none
  | [unit] => some (some unit)
  | _ :: _ :: _ => none

def Connection.getActiveFEBDs (connection : Connection) : List Address :=
  (connection.units is_febd).insertionSort Before

/-- `none` is `ErrorUnitNotPresent`. -/
def Connection.getUnitInfo (connection : Connection) (unit : Address) : Option UnitInfo :=
  connection.activeUnits.lookup unit

structure Board where
  portID : Nat
  slaveID : Nat
  trigger_port : Nat
  n_fem : Nat
  asics_per_fem : Nat
  deriving DecidableEq, Repr

def Board.n_asics_per_region (board : Board) : Nat := board.n_fem * board.asics_per_fem / 4

structure ChannelRow where
  portID : Nat
  slaveID : Nat
  asicID : Nat
  channelID : Nat
  trigger_region : Nat
  deriving DecidableEq, Repr

def ChannelRow.cells (row : ChannelRow) : List Text :=
  [decimal row.portID, decimal row.slaveID, decimal row.asicID, decimal row.channelID,
    decimal row.trigger_region, ['0'], ['0'], ['0', '.', '0'], ['0', '.', '0'], ['0', '.', '0']]

def ChannelRow.line (row : ChannelRow) : Text := tabbed row.cells

def channelText (rows : List ChannelRow) : Text := rows.flatMap fun row => row.line ++ ['\n']

theorem channelText_append (first second : List ChannelRow) :
    channelText (first ++ second) = channelText first ++ channelText second :=
  List.flatMap_append

def Board.trigger_region (board : Board) (quadrant : Nat) : Nat :=
  4 * board.trigger_port + quadrant

def Board.quadrantRows (board : Board) (quadrant : Nat) : List ChannelRow :=
  (List.range' (board.n_asics_per_region * quadrant) board.n_asics_per_region).flatMap fun asicID =>
    (List.range 64).map fun channelID =>
      ⟨board.portID, board.slaveID, asicID, channelID, board.trigger_region quadrant⟩

def Board.channelRows (board : Board) : List ChannelRow :=
  (List.range 4).flatMap board.quadrantRows

/-- What a round appends to `region_list`. -/
def Board.regions (board : Board) : List Nat := (List.range 4).map board.trigger_region

/-- The two loops over the pairs: `j` runs behind `i`. -/
def coincidenceRows : List Nat → List TriggerRow
  | [] => []
  | trigger_region1 :: rest =>
      (rest.filter fun trigger_region2 => trigger_region1 ≠ trigger_region2).map
          (fun trigger_region2 => ⟨trigger_region1, trigger_region2, .coincidence⟩) ++
        coincidenceRows rest

/-- The list of regions, and the lines of the two files. -/
structure Generated where
  region_list : List Nat
  channelRows : List ChannelRow
  triggerRows : List TriggerRow
  deriving DecidableEq, Repr

def generate (boards : List Board) : Generated :=
  let region_list := boards.flatMap Board.regions
  { region_list := region_list
    channelRows := boards.flatMap Board.channelRows
    triggerRows := region_list.map (fun region => ⟨region, region, .multihit⟩) ++
      coincidenceRows region_list }

section Script
variable (connection : Connection)

/-- `tgr` is the trigger unit, and `i` counts the FEB/Ds. -/
def triggerPort (tgr : Option Address) (i : Nat) (unit : Address) : Nat :=
  let is_ekit := connection.getActiveFEBDs.map some = [tgr]
  let no_tgr := tgr = none
  if is_ekit then 0
  else if no_tgr then i
  else (connection.register unit ^^^ 0xFFFF).toNat

def boardOf (tgr : Option Address) (i : Nat) (unit : Address) : Option Board := do
  let d ← connection.getUnitInfo unit
  let n_fem ← fem_per_febd d
  let asics_per_fem ← asic_per_module d
  some
    { portID := unit.1
      slaveID := unit.2
      trigger_port := triggerPort connection tgr i unit
      n_fem := n_fem
      asics_per_fem := asics_per_fem }

def boardsOf (tgr : Option Address) : Nat → List Address → Option (List Board)
  | _, [] => some []
  | i, unit :: rest => do
      let board ← boardOf connection tgr i unit
      let boards ← boardsOf tgr (i + 1) rest
      some (board :: boards)

def make_simple_channel_map : Option Generated := do
  let tgr ← connection.getTriggerUnit
  let boards ← boardsOf connection tgr 0 connection.getActiveFEBDs
  some (generate boards)

end Script

def HasAsics (connection : Connection) (unit : Address) (asics : Nat) : Prop :=
  ∃ d n_fem asics_per_fem, (unit, d) ∈ connection.activeUnits ∧ is_febd d = true ∧
    fem_per_febd d = some n_fem ∧ asic_per_module d = some asics_per_fem ∧
    asics = n_fem * asics_per_fem

/-- Between equal regions there are hits of one event, between different ones
coincidences, and nothing else is allowed. -/
structure Separates (maps : TriggerMaps) (regions : List Nat) : Prop where
  inside : ∀ region ∈ regions, region < maxTriggerRegions
  multihit : ∀ r1 < maxTriggerRegions, ∀ r2 < maxTriggerRegions,
    maps.isMultiHitAllowed r1 r2 = some (decide (r1 = r2 ∧ r1 ∈ regions))
  coincidence : ∀ r1 < maxTriggerRegions, ∀ r2 < maxTriggerRegions,
    maps.isCoincidenceAllowed r1 r2 = some (decide (r1 ≠ r2 ∧ r1 ∈ regions ∧ r2 ∈ regions))

structure Covers (connection : Connection) (generated : Generated) : Prop where
  assigned : ∀ unit asics, HasAsics connection unit asics →
    ∀ asicID < asics, ∀ channelID < 64, ∃! trigger_region,
      ⟨unit.1, unit.2, asicID, channelID, trigger_region⟩ ∈ generated.channelRows
  channelMap : ∀ (Number : Type) (scanFloat : ScanFloat Number) (config : SystemConfig Number),
    ∃ after, loadChannelMap scanFloat config (channelText generated.channelRows) = some after
  triggerMap : ∃ maps,
    loadTriggerMap newTriggerMaps (triggerText generated.triggerRows) = .ok maps ∧
      Separates maps generated.region_list

/-- Four times the ports are regions of the trigger map. -/
def PortsFit (connection : Connection) : Option Address → Prop
  | none => connection.getActiveFEBDs.length ≤ 1024
  | some tgr => connection.getActiveFEBDs = [tgr] ∨
      ∀ unit ∈ connection.getActiveFEBDs, (connection.register unit ^^^ 0xFFFF).toNat < 1024

/-- The ASICs of a FEB/D make four regions, and the ports are small enough. -/
structure Fits (connection : Connection) : Prop where
  whole : ∀ unit asics, HasAsics connection unit asics → 4 ∣ asics
  ports : ∀ tgr, connection.getTriggerUnit = some tgr → PortsFit connection tgr

/-! What the loop finds -/

section Found
variable {connection : Connection}

theorem lookup_mem {Key Value : Type} [BEq Key] [LawfulBEq Key] (entries : List (Key × Value))
    (distinct : (entries.map Prod.fst).Nodup) (key : Key) (value : Value) :
    entries.lookup key = some value ↔ (key, value) ∈ entries := by
  induction entries with
  | nil => exact ⟨nofun, nofun⟩
  | cons entry rest ih =>
      obtain ⟨first, held⟩ := entry
      obtain ⟨fresh, later⟩ := List.nodup_cons.mp distinct
      rw [List.lookup_cons, List.mem_cons, Prod.mk.injEq]
      by_cases same : key = first
      · subst same
        rw [beq_self_eq_true]
        dsimp only
        constructor
        · intro found
          exact .inl ⟨rfl, (Option.some.inj found).symm⟩
        · rintro (⟨_, rfl⟩ | inRest)
          · rfl
          · exact absurd (List.mem_map_of_mem (f := Prod.fst) inRest) fresh
      · rw [beq_false_of_ne same]
        dsimp only
        rw [ih later]
        exact ⟨Or.inr, fun member => member.resolve_left fun here => same here.1⟩

theorem active_unique (unit : Address) (d other : UnitInfo)
    (active : (unit, d) ∈ connection.activeUnits) (also : (unit, other) ∈ connection.activeUnits) :
    d = other := by
  have one := (lookup_mem _ connection.distinct unit d).mpr active
  have two := (lookup_mem _ connection.distinct unit other).mpr also
  exact Option.some.inj (one.symm.trans two)

theorem mem_febds (unit : Address) :
    unit ∈ connection.getActiveFEBDs ↔
      ∃ d, (unit, d) ∈ connection.activeUnits ∧ is_febd d = true := by
  rw [Connection.getActiveFEBDs, (List.perm_insertionSort _ _).mem_iff, Connection.units,
    List.mem_map]
  constructor
  · rintro ⟨⟨unit, d⟩, member, rfl⟩
    exact ⟨d, List.mem_filter.mp member⟩
  · rintro ⟨d, member⟩
    exact ⟨(unit, d), List.mem_filter.mpr member, rfl⟩

theorem febds_nodup : connection.getActiveFEBDs.Nodup :=
  (List.perm_insertionSort _ _).nodup_iff.mpr
    (connection.distinct.sublist (List.filter_sublist.map Prod.fst))

theorem febds_length : connection.getActiveFEBDs.length ≤ 16384 := by
  have bound := febds_nodup.length_le_card (l := connection.getActiveFEBDs)
  rwa [Fintype.card_prod, Fintype.card_fin, Fintype.card_fin] at bound

theorem boardOf_eq_some (tgr : Option Address) (i : Nat) (unit : Address) (board : Board) :
    boardOf connection tgr i unit = some board ↔
      ∃ d, (unit, d) ∈ connection.activeUnits ∧ fem_per_febd d = some board.n_fem ∧
        asic_per_module d = some board.asics_per_fem ∧ board.portID = unit.1 ∧
        board.slaveID = unit.2 ∧ board.trigger_port = triggerPort connection tgr i unit := by
  simp only [boardOf, Option.bind_eq_bind, Option.bind_eq_some_iff, Option.some.injEq]
  constructor
  · rintro ⟨d, found, n_fem, fems, asics, modules, rfl⟩
    exact ⟨d, (lookup_mem _ connection.distinct _ _).mp found, fems, modules, rfl, rfl, rfl⟩
  · rintro ⟨d, member, fems, modules, port, slave, trigger⟩
    refine ⟨d, (lookup_mem _ connection.distinct _ _).mpr member, _, fems, _, modules, ?_⟩
    cases board
    cases port
    cases slave
    cases trigger
    rfl

theorem mem_boards (tgr : Option Address) (i : Nat) (units : List Address) (boards : List Board)
    (found : boardsOf connection tgr i units = some boards) (board : Board) :
    board ∈ boards ↔ ∃ (j : Nat) (unit : Address), units[j]? = some unit ∧
      boardOf connection tgr (i + j) unit = some board := by
  induction units generalizing i boards with
  | nil =>
      cases found
      simp
  | cons unit rest ih =>
      simp only [boardsOf, Option.bind_eq_bind, Option.bind_eq_some_iff, Option.some.injEq] at found
      obtain ⟨first, firstFound, others, restFound, rfl⟩ := found
      rw [List.mem_cons, ih (i + 1) others restFound]
      constructor
      · rintro (rfl | ⟨j, other, here, later⟩)
        · exact ⟨0, unit, rfl, firstFound⟩
        · exact ⟨j + 1, other, here, by rwa [Nat.add_right_comm] at later⟩
      · rintro ⟨j, other, here, later⟩
        cases j with
        | zero =>
            cases here
            exact .inl (Option.some.inj (later.symm.trans firstFound))
        | succ j => exact .inr ⟨j, other, here, by rwa [Nat.add_right_comm]⟩

theorem boards_all (tgr : Option Address) (i : Nat) (units : List Address) (boards : List Board)
    (found : boardsOf connection tgr i units = some boards) (j : Nat) (unit : Address)
    (here : units[j]? = some unit) : ∃ board, boardOf connection tgr (i + j) unit = some board := by
  induction units generalizing i j boards with
  | nil => cases here
  | cons first rest ih =>
      simp only [boardsOf, Option.bind_eq_bind, Option.bind_eq_some_iff, Option.some.injEq] at found
      obtain ⟨board, firstFound, others, restFound, rfl⟩ := found
      cases j with
      | zero =>
          cases here
          exact ⟨board, firstFound⟩
      | succ j =>
          obtain ⟨other, later⟩ := ih (i + 1) others restFound j here
          exact ⟨other, by rwa [Nat.add_right_comm] at later⟩

end Found

/-! The lines of the channel map -/

section Rows
variable (board : Board)

theorem mem_quadrantRows (quadrant : Nat) (row : ChannelRow) :
    row ∈ board.quadrantRows quadrant ↔
      row.portID = board.portID ∧ row.slaveID = board.slaveID ∧ row.channelID < 64 ∧
        row.trigger_region = board.trigger_region quadrant ∧
        board.n_asics_per_region * quadrant ≤ row.asicID ∧
        row.asicID < board.n_asics_per_region * (quadrant + 1) := by
  simp only [Board.quadrantRows, List.mem_flatMap, List.mem_range'_1, List.mem_map, List.mem_range]
  rw [Nat.mul_add_one]
  constructor
  · rintro ⟨asicID, inside, channelID, small, rfl⟩
    exact ⟨rfl, rfl, small, rfl, inside⟩
  · rintro ⟨port, slave, small, region, inside⟩
    refine ⟨row.asicID, inside, row.channelID, small, ?_⟩
    cases row
    cases port
    cases slave
    cases region
    rfl

theorem mem_channelRows (row : ChannelRow) :
    row ∈ board.channelRows ↔ ∃ quadrant < 4, row ∈ board.quadrantRows quadrant := by
  simp only [Board.channelRows, List.mem_flatMap, List.mem_range]

/-- The quadrants take the ASICs in turn, as far as four equal ones go. -/
theorem quadrant_unique (asicID first second : Nat)
    (inFirst : board.n_asics_per_region * first ≤ asicID)
    (firstEnds : asicID < board.n_asics_per_region * (first + 1))
    (inSecond : board.n_asics_per_region * second ≤ asicID)
    (secondEnds : asicID < board.n_asics_per_region * (second + 1)) : first = second := by
  have before (one other : Nat) (lower : board.n_asics_per_region * one ≤ asicID)
      (upper : asicID < board.n_asics_per_region * (other + 1)) : one ≤ other :=
    Nat.le_of_lt_succ (Nat.lt_of_mul_lt_mul_left (lower.trans_lt upper))
  exact (before first second inFirst secondEnds).antisymm (before second first inSecond firstEnds)

theorem quadrant_exists (asicID : Nat) (inside : asicID < board.n_asics_per_region * 4) :
    ∃ quadrant < 4, board.n_asics_per_region * quadrant ≤ asicID ∧
      asicID < board.n_asics_per_region * (quadrant + 1) := by
  have some : 0 < board.n_asics_per_region := Nat.pos_of_mul_pos_right (Nat.zero_lt_of_lt inside)
  refine ⟨asicID / board.n_asics_per_region, Nat.div_lt_of_lt_mul inside, Nat.mul_div_le _ _, ?_⟩
  exact Nat.lt_mul_div_succ asicID some

theorem asic_inside (quadrant asicID : Nat) (fourth : quadrant < 4)
    (below : asicID < board.n_asics_per_region * (quadrant + 1)) :
    asicID < board.n_asics_per_region * 4 :=
  below.trans_le (Nat.mul_le_mul_left _ fourth)

end Rows

theorem mem_generated (boards : List Board) (row : ChannelRow) :
    row ∈ (generate boards).channelRows ↔ ∃ board ∈ boards, ∃ quadrant < 4,
      row ∈ board.quadrantRows quadrant := by
  simp only [generate, List.mem_flatMap, mem_channelRows]

section Assigned
variable {connection : Connection} {tgr : Option Address} {boards : List Board}
variable (found : boardsOf connection tgr 0 connection.getActiveFEBDs = some boards)
include found

theorem board_listed (unit : Address) (asics : Nat) (has : HasAsics connection unit asics) :
    ∃ board ∈ boards, board.portID = unit.1 ∧ board.slaveID = unit.2 ∧
      board.n_fem * board.asics_per_fem = asics := by
  obtain ⟨d, n_fem, asics_per_fem, active, febd, fems, modules, rfl⟩ := has
  obtain ⟨j, inside, here⟩ := List.getElem_of_mem ((mem_febds unit).mpr ⟨d, active, febd⟩)
  have there : connection.getActiveFEBDs[j]? = some unit := by
    rw [List.getElem?_eq_getElem inside, here]
  obtain ⟨board, made⟩ := boards_all tgr 0 _ boards found j unit there
  refine ⟨board, (mem_boards tgr 0 _ boards found board).mpr ⟨j, unit, there, made⟩, ?_⟩
  obtain ⟨other, active', fems', modules', port, slave, _⟩ :=
    (boardOf_eq_some tgr _ unit board).mp made
  obtain rfl := active_unique unit d other active active'
  refine ⟨port, slave, ?_⟩
  rw [Option.some.inj (fems'.symm.trans fems), Option.some.inj (modules'.symm.trans modules)]

theorem boards_injective (first second : Board) (memberFirst : first ∈ boards)
    (memberSecond : second ∈ boards) (port : first.portID = second.portID)
    (slave : first.slaveID = second.slaveID) : first = second := by
  obtain ⟨j, unit, here, made⟩ := (mem_boards tgr 0 _ boards found first).mp memberFirst
  obtain ⟨k, other, there, madeOther⟩ := (mem_boards tgr 0 _ boards found second).mp memberSecond
  obtain ⟨_, _, _, _, portFirst, slaveFirst, _⟩ := (boardOf_eq_some tgr _ unit first).mp made
  obtain ⟨_, _, _, _, portSecond, slaveSecond, _⟩ :=
    (boardOf_eq_some tgr _ other second).mp madeOther
  have same : unit = other := by
    apply Prod.ext
    · exact Fin.ext (portFirst.symm.trans (port.trans portSecond))
    · exact Fin.ext (slaveFirst.symm.trans (slave.trans slaveSecond))
  subst same
  obtain ⟨inside, _⟩ := List.getElem?_eq_some_iff.mp here
  have index : j = k := (List.getElem?_inj inside febds_nodup).mp (here.trans there.symm)
  subst index
  exact Option.some.inj (made.symm.trans madeOther)

/-- All channels are assigned exactly where the ASICs of each FEB/D make four
regions. -/
theorem assigned_iff :
    (∀ unit asics, HasAsics connection unit asics → ∀ asicID < asics, ∀ channelID < 64,
      ∃! trigger_region, ⟨unit.1, unit.2, asicID, channelID, trigger_region⟩ ∈
        (generate boards).channelRows) ↔
      ∀ unit asics, HasAsics connection unit asics → 4 ∣ asics := by
  constructor
  · intro assigned unit asics has
    obtain ⟨board, member, port, slave, count⟩ := board_listed found unit asics has
    by_contra uneven
    -- the first ASIC behind the four regions
    have last : asics / 4 * 4 < asics := by omega
    obtain ⟨region, there, _⟩ := assigned unit asics has (asics / 4 * 4) last 0 (by decide)
    obtain ⟨other, memberOther, quadrant, fourth, row⟩ := (mem_generated boards _).mp there
    obtain ⟨portOther, slaveOther, _, _, _, below⟩ := (mem_quadrantRows other quadrant _).mp row
    have same := boards_injective found board other member memberOther (port.trans portOther)
      (slave.trans slaveOther)
    subst same
    have beyond := asic_inside board quadrant _ fourth below
    rw [Board.n_asics_per_region, count] at beyond
    exact lt_irrefl _ beyond
  · intro whole unit asics has asicID inside channelID small
    obtain ⟨board, member, port, slave, count⟩ := board_listed found unit asics has
    have filled : board.n_asics_per_region * 4 = asics := by
      rw [Board.n_asics_per_region, count]
      exact Nat.div_mul_cancel (whole unit asics has)
    obtain ⟨quadrant, fourth, above, below⟩ := quadrant_exists board asicID (filled ▸ inside)
    refine ⟨board.trigger_region quadrant, ?_, ?_⟩
    · exact (mem_generated boards _).mpr ⟨board, member, quadrant, fourth,
        (mem_quadrantRows board quadrant _).mpr ⟨port.symm, slave.symm, small, rfl, above, below⟩⟩
    · intro region there
      obtain ⟨other, memberOther, second, _, row⟩ := (mem_generated boards _).mp there
      obtain ⟨portOther, slaveOther, _, assigned, aboveOther, belowOther⟩ :=
        (mem_quadrantRows other second _).mp row
      have same := boards_injective found board other member memberOther (port.trans portOther)
        (slave.trans slaveOther)
      subst same
      have one := quadrant_unique board asicID quadrant second above below aboveOther belowOther
      rw [one]
      exact assigned

end Assigned

section Loaded

structure ChannelRow.InRange (row : ChannelRow) : Prop where
  portID : row.portID < 64
  slaveID : row.slaveID < 256
  asicID : row.asicID < 128
  channelID : row.channelID < 64
  trigger_region : row.trigger_region < 2 ^ 31

theorem zero_word : Word ['0'] := decimal_word 0

theorem zero_cell : Cell ['0'] := decimal_cell 0 (by decide)

theorem zeros_cell : Cell ['0', '.', '0'] where
  word := by
    have word : Word ['0', '.', '0'] := ⟨List.cons_ne_nil _ _,
      List.forall_mem_cons.mpr ⟨rfl, List.forall_mem_cons.mpr ⟨rfl, List.forall_mem_singleton.mpr rfl⟩⟩⟩
    exact word
  plain := List.forall_mem_cons.mpr ⟨by decide, List.forall_mem_cons.mpr
    ⟨by decide, List.forall_mem_singleton.mpr (by decide)⟩⟩
  short := by decide

theorem channel_cells (row : ChannelRow) (inRange : row.InRange) :
    ∀ cell ∈ row.cells, Cell cell := by
  obtain ⟨port, slave, asic, channel, region⟩ := inRange
  intro cell member
  simp only [ChannelRow.cells, List.mem_cons, List.not_mem_nil, or_false] at member
  rcases member with rfl | rfl | rfl | rfl | rfl | rfl | rfl | rfl | rfl | rfl
  iterate 5 exact decimal_cell _ (by omega)
  iterate 2 exact zero_cell
  all_goals exact zeros_cell

theorem channel_line (row : ChannelRow) (inRange : row.InRange) : Line row.line :=
  cells_line _ _ (decimal_word _) (channel_cells row inRange)

theorem skipSpace_zeros : skipSpace ['0', '.', '0'] = ['0', '.', '0'] := rfl

theorem normalizeLine_channel (row : ChannelRow) (inRange : row.InRange) :
    normalizeLine row.line = row.line := by
  rw [ChannelRow.line, ChannelRow.cells,
    normalizeLine_cells _ _ (decimal_word _) (channel_cells row inRange)]
  simp only [List.map_cons, List.map_nil, skipSpace_decimal, skipSpace_zeros]
  rfl

theorem toUnsigned_decimal (n : Nat) (small : n < 2 ^ 31) : toUnsigned (false, n) = n := by
  have fits : (n : Int) < 2 ^ 31 := by exact_mod_cast small
  exact Int.ofNat.inj (toUnsigned_carries (false, n) (Int.natCast_nonneg n) fits)

/-- Slaves and chips beyond their fields run into the fields above them, but
not out of the tables. -/
theorem makeGID_lt (portID slaveID chipID channelID : Nat) (port : portID < 64)
    (slave : slaveID < 256) (chip : chipID < 128) (channel : channelID < 64) :
    makeGID portID slaveID chipID channelID < pathMax * 4096 := by
  have chips : chipID <<< 6 < 2 ^ 23 := by
    rw [Nat.shiftLeft_eq]
    omega
  have slaves : slaveID <<< 12 < 2 ^ 23 := by
    rw [Nat.shiftLeft_eq]
    omega
  have ports : portID <<< 17 < 2 ^ 23 := by
    rw [Nat.shiftLeft_eq]
    omega
  have channels : channelID < 2 ^ 23 := by omega
  have all := Nat.or_lt_two_pow (Nat.or_lt_two_pow (Nat.or_lt_two_pow channels chips) slaves) ports
  have tables : 2 ^ 23 ≤ pathMax * 4096 := by decide
  exact (Nat.mod_le _ _).trans_lt (all.trans_le tables)

variable {Number : Type} (scanFloat : ScanFloat Number)

theorem scanChannelMap_row (row : ChannelRow) (inRange : row.InRange) :
    ∀ entry, scanChannelMap scanFloat row.line = some entry →
      entry.gChannelID = makeGID row.portID row.slaveID row.asicID row.channelID ∧
        ∃ position, entry.write = .mapping position ∧ position.triggerRegion = row.trigger_region := by
  obtain ⟨port, slave, asic, channel, region⟩ := inRange
  rw [scanChannelMap, ChannelRow.line, ChannelRow.cells]
  iterate 4
    rw [scanField_tabbed _ _ _ (decimal_word _)]
    simp only [Option.bind_eq_bind, Option.bind_some]
  rw [scanField_tabbed _ _ _ zero_word]
  simp only [Option.bind_some]
  iterate 5
    refine bind_forall ?_
    rintro ⟨_, line⟩
  rintro entry ⟨⟩
  dsimp only
  rw [toUnsigned_decimal _ (by omega), toUnsigned_decimal _ (by omega),
    toUnsigned_decimal _ (by omega), toUnsigned_decimal _ (by omega)]
  exact ⟨rfl, _, rfl, toInt_decimal _ region⟩

theorem channel_loaded (config : SystemConfig Number) (row : ChannelRow) (inRange : row.InRange) :
    ∃ after, (Table.channelMap.loader scanFloat).loadLine config row.line = some after := by
  have length := tabbed_length row.cells fun cell member => (channel_cells row inRange cell member).short
  have few : 15 * row.cells.length < pathMax := (by decide : 15 * 10 < pathMax)
  have fits : row.line.length < (Table.channelMap.loader scanFloat).bufferSize :=
    length.trans_lt few
  cases accepted : (Table.channelMap.loader scanFloat).accepted row.line with
  | none => exact ⟨config, loadLine_skipped _ config row.line fits accepted⟩
  | some entry =>
      have scanned : scanChannelMap scanFloat row.line = some entry := by
        rw [Loader.accepted, normalizeLine_channel row inRange] at accepted
        rwa [if_neg (channel_line row inRange).nonempty] at accepted
      obtain ⟨number, position, write, _⟩ := scanChannelMap_row scanFloat row inRange entry scanned
      obtain ⟨index, there, _⟩ := indexOf_eq_some entry.gChannelID
        (number ▸ makeGID_lt _ _ _ _ inRange.portID inRange.slaveID inRange.asicID inRange.channelID)
      rw [loadLine_used _ config row.line fits entry accepted index there, write]
      exact ⟨_, rfl⟩

theorem channels_loaded (rows : List ChannelRow) (inRange : ∀ row ∈ rows, row.InRange)
    (config : SystemConfig Number) :
    ∃ after, loadChannelMap scanFloat config (channelText rows) = some after := by
  have lines := linesOf_printed (rows.map ChannelRow.line)
    (List.forall_mem_map.mpr fun row member => channel_line row (inRange row member))
  rw [List.flatMap_map] at lines
  rw [loadChannelMap, Loader.load, channelText, lines.1]
  clear lines
  induction rows generalizing config with
  | nil => exact ⟨config, rfl⟩
  | cons row rest ih =>
      obtain ⟨first, others⟩ := List.forall_mem_cons.mp inRange
      obtain ⟨next, loaded⟩ := channel_loaded scanFloat config row first
      obtain ⟨after, later⟩ := ih others next
      refine ⟨after, ?_⟩
      rw [List.map_cons, List.foldlM_cons, loaded]
      exact later

end Loaded

/-! The trigger map -/

/-- Equal regions make a hit, different ones a coincidence. -/
def pairType (pair : Sym2 Nat) : TriggerType := if pair.IsDiag then .multihit else .coincidence

section Pairs

theorem coincidence_row (regions : List Nat) (row : TriggerRow)
    (member : row ∈ coincidenceRows regions) :
    row.first ∈ regions ∧ row.second ∈ regions ∧ row.first ≠ row.second ∧
      row.type = .coincidence := by
  induction regions with
  | nil => cases member
  | cons region rest ih =>
      rcases List.mem_append.mp member with here | later
      · obtain ⟨other, kept, rfl⟩ := List.mem_map.mp here
        obtain ⟨inRest, different⟩ := List.mem_filter.mp kept
        exact ⟨List.mem_cons_self, List.mem_cons_of_mem _ inRest, of_decide_eq_true different, rfl⟩
      · obtain ⟨first, second, different, type⟩ := ih later
        exact ⟨List.mem_cons_of_mem _ first, List.mem_cons_of_mem _ second, different, type⟩

theorem coincidence_reached (regions : List Nat) (r1 r2 : Nat) (first : r1 ∈ regions)
    (second : r2 ∈ regions) (different : r1 ≠ r2) :
    s(r1, r2) ∈ (coincidenceRows regions).map TriggerRow.pair := by
  induction regions with
  | nil => cases first
  | cons region rest ih =>
      rw [coincidenceRows, List.map_append, List.map_map]
      have headed (other : Nat) (inRest : other ∈ rest) (apart : region ≠ other) :
          s(region, other) ∈ (rest.filter fun trigger_region2 => region ≠ trigger_region2).map
            (TriggerRow.pair ∘ fun trigger_region2 => ⟨region, trigger_region2, .coincidence⟩) :=
        List.mem_map.mpr ⟨other, List.mem_filter.mpr ⟨inRest, decide_eq_true apart⟩, rfl⟩
      rcases List.mem_cons.mp first with rfl | firstLater
      · rcases List.mem_cons.mp second with rfl | secondLater
        · exact absurd rfl different
        · exact List.mem_append_left _ (headed r2 secondLater different)
      · rcases List.mem_cons.mp second with rfl | secondLater
        · exact List.mem_append_left _ (Sym2.eq_swap ▸ headed r1 firstLater different.symm)
        · exact List.mem_append_right _ (ih firstLater secondLater)

variable (boards : List Board)

theorem trigger_row (row : TriggerRow) (member : row ∈ (generate boards).triggerRows) :
    row.first ∈ (generate boards).region_list ∧ row.second ∈ (generate boards).region_list ∧
      row.type = pairType row.pair := by
  rcases List.mem_append.mp member with hit | coincidence
  · obtain ⟨region, listed, rfl⟩ := List.mem_map.mp hit
    refine ⟨listed, listed, ?_⟩
    rw [pairType, if_pos]
    exact Sym2.mk_isDiag_iff.mpr rfl
  · obtain ⟨first, second, different, type⟩ := coincidence_row _ row coincidence
    refine ⟨first, second, ?_⟩
    rw [type, pairType, if_neg]
    exact fun same => different (Sym2.mk_isDiag_iff.mp same)

theorem pair_listed (r1 r2 : Nat) :
    s(r1, r2) ∈ (generate boards).triggerRows.map TriggerRow.pair ↔
      r1 ∈ (generate boards).region_list ∧ r2 ∈ (generate boards).region_list := by
  constructor
  · intro listed
    obtain ⟨row, member, pair⟩ := List.mem_map.mp listed
    obtain ⟨first, second, _⟩ := trigger_row boards row member
    rcases Sym2.eq_iff.mp pair with ⟨rfl, rfl⟩ | ⟨rfl, rfl⟩
    · exact ⟨first, second⟩
    · exact ⟨second, first⟩
  · rintro ⟨first, second⟩
    rw [generate, List.map_append, List.mem_append, List.map_map]
    by_cases same : r1 = r2
    · subst same
      exact .inl (List.mem_map.mpr ⟨r1, first, rfl⟩)
    · exact .inr (coincidence_reached _ r1 r2 first second same)

/-- The arrays that stand for the table of the lines separate the regions. -/
theorem represents_separates (maps : TriggerMaps)
    (inside : ∀ region ∈ (generate boards).region_list, region < maxTriggerRegions)
    (represents : Represents maps
      ((generate boards).triggerRows.foldl PairTable.enter fun _ => none)) :
    Separates maps (generate boards).region_list := by
  have entered := enter_agreed pairType (generate boards).triggerRows
    (fun row member => (trigger_row boards row member).2.2) fun _ => none
  have told (r1 r2 : Nat) (type : TriggerType) :
      (generate boards).triggerRows.foldl PairTable.enter (fun _ => none) s(r1, r2) = some type ↔
        (r1 ∈ (generate boards).region_list ∧ r2 ∈ (generate boards).region_list) ∧
          pairType s(r1, r2) = type := by
    rw [entered, ← pair_listed]
    split_ifs with listed
    · simp [listed]
    · simp [listed]
  have diagonal (r1 r2 : Nat) : pairType s(r1, r2) = .multihit ↔ r1 = r2 := by
    unfold pairType
    split_ifs with same
    · exact ⟨fun _ => Sym2.mk_isDiag_iff.mp same, fun _ => rfl⟩
    · exact ⟨nofun, fun equal => absurd (Sym2.mk_isDiag_iff.mpr equal) same⟩
  have apart (r1 r2 : Nat) : pairType s(r1, r2) = .coincidence ↔ r1 ≠ r2 := by
    rw [Ne, ← diagonal]
    cases pairType s(r1, r2) <;> simp
  refine ⟨inside, ?_, ?_⟩
  · intro r1 first r2 second
    rw [(represents_allowed maps _ represents r1 r2 first second).1]
    congr 1
    apply decide_eq_decide.mpr
    rw [told, diagonal]
    constructor
    · rintro ⟨⟨listed, _⟩, rfl⟩
      exact ⟨rfl, listed⟩
    · rintro ⟨rfl, listed⟩
      exact ⟨⟨listed, listed⟩, rfl⟩
  · intro r1 first r2 second
    rw [(represents_allowed maps _ represents r1 r2 first second).2]
    congr 1
    apply decide_eq_decide.mpr
    rw [told, apart]
    exact and_comm

end Pairs

section Ranges
variable {connection : Connection} {tgr : Option Address} {boards : List Board}

theorem fem_per_febd_le (d : UnitInfo) (n_fem : Nat) (fems : fem_per_febd d = some n_fem) :
    n_fem ≤ 16 := by
  unfold fem_per_febd at fems
  split_ifs at fems <;> (cases fems; decide)

theorem asic_per_module_le (d : UnitInfo) (asics_per_fem : Nat)
    (modules : asic_per_module d = some asics_per_fem) : asics_per_fem ≤ 8 := by
  unfold asic_per_module at modules
  dsimp only at modules
  split_ifs at modules <;> (cases modules; decide)

theorem mem_region_list (region : Nat) :
    region ∈ (generate boards).region_list ↔
      ∃ board ∈ boards, ∃ quadrant < 4, board.trigger_region quadrant = region := by
  simp only [generate, Board.regions, List.mem_flatMap, List.mem_map, List.mem_range]

theorem triggerPort_lt (i : Nat) (unit : Address) (listed : i < 16384) :
    triggerPort connection tgr i unit < 65536 := by
  unfold triggerPort
  dsimp only
  split_ifs
  · omega
  · omega
  · exact (connection.register unit ^^^ 0xFFFF).isLt

section
variable (found : boardsOf connection tgr 0 connection.getActiveFEBDs = some boards)
include found

theorem board_ranges (board : Board) (member : board ∈ boards) :
    board.portID < 64 ∧ board.slaveID < 256 ∧ board.n_fem * board.asics_per_fem ≤ 128 ∧
      board.trigger_port < 65536 := by
  obtain ⟨j, unit, here, made⟩ := (mem_boards tgr 0 _ boards found board).mp member
  obtain ⟨d, _, fems, modules, port, slave, trigger⟩ := (boardOf_eq_some tgr _ unit board).mp made
  obtain ⟨inside, _⟩ := List.getElem?_eq_some_iff.mp here
  refine ⟨port ▸ unit.1.isLt, slave ▸ unit.2.isLt, ?_, ?_⟩
  · exact Nat.mul_le_mul (fem_per_febd_le d _ fems) (asic_per_module_le d _ modules)
  · have few : connection.getActiveFEBDs.length ≤ 16384 := febds_length
    rw [trigger]
    exact triggerPort_lt _ unit (by omega)

theorem region_lt (region : Nat) (listed : region ∈ (generate boards).region_list) :
    region < 2 ^ 31 := by
  obtain ⟨board, member, quadrant, fourth, rfl⟩ := (mem_region_list region).mp listed
  obtain ⟨_, _, _, port⟩ := board_ranges found board member
  unfold Board.trigger_region
  omega

theorem trigger_scanned (row : TriggerRow) (member : row ∈ (generate boards).triggerRows) :
    row.Scanned := by
  obtain ⟨first, second, _⟩ := trigger_row boards row member
  exact ⟨region_lt found _ first, region_lt found _ second⟩

theorem channel_inRange (row : ChannelRow) (member : row ∈ (generate boards).channelRows) :
    row.InRange := by
  obtain ⟨board, memberBoard, quadrant, fourth, inside⟩ := (mem_generated boards row).mp member
  obtain ⟨port, slave, channel, region, _, below⟩ := (mem_quadrantRows board quadrant row).mp inside
  obtain ⟨ports, slaves, asics, _⟩ := board_ranges found board memberBoard
  have listed : row.trigger_region ∈ (generate boards).region_list :=
    (mem_region_list _).mpr ⟨board, memberBoard, quadrant, fourth, region.symm⟩
  have asic := asic_inside board quadrant _ fourth below
  rw [Board.n_asics_per_region] at asic
  exact ⟨port ▸ ports, slave ▸ slaves, by omega, channel, region_lt found _ listed⟩

theorem trigger_loaded_iff :
    (∃ maps, loadTriggerMap newTriggerMaps (triggerText (generate boards).triggerRows) = .ok maps ∧
      Separates maps (generate boards).region_list) ↔
      ∀ region ∈ (generate boards).region_list, region < maxTriggerRegions := by
  refine ⟨fun ⟨maps, _, separates⟩ => separates.inside, fun inside => ?_⟩
  have scanned := trigger_scanned found
  obtain ⟨maps, loaded⟩ := (file_loaded_iff (generate boards).triggerRows scanned).mpr
    fun row member =>
      ⟨inside _ (trigger_row boards row member).1, inside _ (trigger_row boards row member).2.1⟩
  exact ⟨maps, loaded, represents_separates boards maps inside
    (file_represents _ scanned maps loaded)⟩

theorem ports_iff :
    (∀ region ∈ (generate boards).region_list, region < maxTriggerRegions) ↔
      PortsFit connection tgr := by
  have ports : (∀ region ∈ (generate boards).region_list, region < maxTriggerRegions) ↔
      ∀ (i : Nat) (unit : Address), connection.getActiveFEBDs[i]? = some unit →
        triggerPort connection tgr i unit < 1024 := by
    constructor
    · intro inside i unit here
      obtain ⟨board, made⟩ := boards_all tgr 0 _ boards found i unit here
      have member := (mem_boards tgr 0 _ boards found board).mpr ⟨i, unit, here, made⟩
      have last := inside _ ((mem_region_list _).mpr ⟨board, member, 3, by decide, rfl⟩)
      obtain ⟨_, _, _, _, _, _, trigger⟩ := (boardOf_eq_some tgr _ unit board).mp made
      rw [Nat.zero_add] at trigger
      rw [Board.trigger_region, trigger, maxTriggerRegions] at last
      omega
    · intro small region listed
      obtain ⟨board, member, quadrant, fourth, rfl⟩ := (mem_region_list region).mp listed
      obtain ⟨i, unit, here, made⟩ := (mem_boards tgr 0 _ boards found board).mp member
      obtain ⟨_, _, _, _, _, _, trigger⟩ := (boardOf_eq_some tgr _ unit board).mp made
      have port := small i unit here
      rw [Nat.zero_add] at trigger
      rw [Board.trigger_region, trigger, maxTriggerRegions]
      omega
  rw [ports]
  cases tgr with
  | none =>
      have never : ¬ connection.getActiveFEBDs.map some = [none] := by
        intro same
        have listed : none ∈ connection.getActiveFEBDs.map some := same ▸ List.mem_cons_self
        obtain ⟨_, _, absent⟩ := List.mem_map.mp listed
        cases absent
      simp only [triggerPort, never, if_false, if_true, PortsFit]
      constructor
      · intro small
        by_contra many
        have inside : 1024 < connection.getActiveFEBDs.length := Nat.lt_of_not_le many
        exact absurd (small 1024 _ (List.getElem?_eq_getElem inside)) (lt_irrefl _)
      · intro few i unit here
        obtain ⟨inside, _⟩ := List.getElem?_eq_some_iff.mp here
        omega
  | some tgr =>
      have ekit : connection.getActiveFEBDs.map some = [some tgr] ↔
          connection.getActiveFEBDs = [tgr] :=
        ⟨fun same => List.map_injective_iff.mpr (Option.some_injective _) same,
          fun same => congrArg (List.map some) same⟩
      unfold PortsFit
      by_cases alone : connection.getActiveFEBDs = [tgr]
      · simp [triggerPort, alone]
      · have apart : ¬ connection.getActiveFEBDs.map some = [some tgr] := fun same =>
          alone (ekit.mp same)
        simp only [triggerPort, apart, if_false, reduceCtorEq, alone, false_or]
        constructor
        · intro small unit listed
          obtain ⟨i, inside, here⟩ := List.getElem_of_mem listed
          exact small i unit (List.getElem?_eq_some_iff.mpr ⟨inside, here⟩)
        · intro small i unit here
          exact small unit (List.mem_of_getElem? here)

end

end Ranges

theorem maps_made_iff (connection : Connection) :
    (∃ generated, make_simple_channel_map connection = some generated) ↔
      (∃ tgr, connection.getTriggerUnit = some tgr) ∧
        ∀ unit ∈ connection.getActiveFEBDs, ∃ asics, HasAsics connection unit asics := by
  constructor
  · rintro ⟨generated, made⟩
    simp only [make_simple_channel_map, Option.bind_eq_bind, Option.bind_eq_some_iff,
      Option.some.injEq] at made
    obtain ⟨tgr, unit, boards, found, _⟩ := made
    refine ⟨⟨tgr, unit⟩, ?_⟩
    intro febd listed
    obtain ⟨i, inside, here⟩ := List.getElem_of_mem listed
    obtain ⟨board, read⟩ := boards_all tgr 0 _ boards found i febd
      (List.getElem?_eq_some_iff.mpr ⟨inside, here⟩)
    obtain ⟨d, active, fems, modules, _⟩ := (boardOf_eq_some tgr _ febd board).mp read
    obtain ⟨other, also, kind⟩ := (mem_febds febd).mp listed
    obtain rfl := active_unique febd d other active also
    exact ⟨_, d, _, _, active, kind, fems, modules, rfl⟩
  · rintro ⟨⟨tgr, unit⟩, known⟩
    have each (units : List Address)
        (all : ∀ unit ∈ units, ∃ asics, HasAsics connection unit asics) (i : Nat) :
        ∃ boards, boardsOf connection tgr i units = some boards := by
      induction units generalizing i with
      | nil => exact ⟨[], rfl⟩
      | cons febd rest ih =>
          obtain ⟨⟨_, d, n_fem, asics_per_fem, active, _, fems, modules, _⟩, others⟩ :=
            List.forall_mem_cons.mp all
          obtain ⟨boards, found⟩ := ih others (i + 1)
          have read := (boardOf_eq_some tgr i febd ⟨febd.1, febd.2, triggerPort connection tgr i febd,
            n_fem, asics_per_fem⟩).mpr ⟨d, active, fems, modules, rfl, rfl, rfl⟩
          exact ⟨_, by rw [boardsOf, read, found]; rfl⟩
    obtain ⟨boards, found⟩ := each _ known 0
    refine ⟨generate boards, ?_⟩
    simp only [make_simple_channel_map, unit, found, Option.bind_eq_bind, Option.bind_some]

/-- The maps that are made cover the detector exactly if the ASICs of each FEB/D
make four regions and the ports are small enough. -/
theorem maps_cover_iff (connection : Connection) (generated : Generated)
    (made : make_simple_channel_map connection = some generated) :
    Covers connection generated ↔ Fits connection := by
  simp only [make_simple_channel_map, Option.bind_eq_bind, Option.bind_eq_some_iff,
    Option.some.injEq] at made
  obtain ⟨tgr, unit, boards, found, rfl⟩ := made
  have assigned := assigned_iff found
  have ports := (trigger_loaded_iff found).trans (ports_iff found)
  constructor
  · rintro ⟨covered, _, loaded⟩
    refine ⟨assigned.mp covered, ?_⟩
    intro other same
    obtain rfl := Option.some.inj (unit.symm.trans same)
    exact ports.mp loaded
  · rintro ⟨whole, fit⟩
    refine ⟨assigned.mpr whole, ?_, ports.mpr (fit tgr unit)⟩
    intro Number scanFloat config
    exact channels_loaded scanFloat _ (channel_inRange found) config

def kit (unit : Address) (fw_variant : Nat) : Connection :=
  { activeUnits := [(unit, ⟨0x0003, fw_variant⟩)]
    distinct := List.nodup_singleton _
    register := fun _ => 0xFFFF }

/-- A module of four ASICs. -/
theorem kit_covers :
    ∃ generated, make_simple_channel_map (kit (0, 0) 0x0001011100000000) = some generated ∧
      Covers (kit (0, 0) 0x0001011100000000) generated := by
  refine ⟨generate [⟨0, 0, 0, 1, 4⟩], rfl, (maps_cover_iff _ _ rfl).mpr ⟨?_, ?_⟩⟩
  · rintro unit asics ⟨d, n_fem, asics_per_fem, active, _, fems, modules, rfl⟩
    cases List.mem_singleton.mp active
    cases fems
    cases modules
    decide
  · rintro tgr ⟨⟩
    exact .inl rfl

/-- A module of two ASICs has no line in the channel map. -/
theorem two_asics_unassigned :
    ¬ ∀ connection generated, make_simple_channel_map connection = some generated →
      Covers connection generated := by
  intro always
  have covers := always (kit (0, 0) 0x0001000000000000) (generate [⟨0, 0, 0, 1, 2⟩]) rfl
  have has : HasAsics (kit (0, 0) 0x0001000000000000) (0, 0) 2 :=
    ⟨⟨0x0003, 0x0001000000000000⟩, 1, 2, List.mem_singleton.mpr rfl, rfl, rfl, rfl, rfl⟩
  obtain ⟨region, listed, _⟩ := covers.assigned (0, 0) 2 has 0 (by decide) 0 (by decide)
  exact List.not_mem_nil listed

end GramsTof.SimpleChannelMap
