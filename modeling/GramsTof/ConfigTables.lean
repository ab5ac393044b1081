import GramsTof.ScanText

/-!
The tables of `SystemConfig`, and the functions that load them from text files.
A file can be opened; what `%f` takes for a number is an argument. An access
outside of an array ends the model.
-/

namespace GramsTof.ConfigTables

open PaddedDigits ScanText

structure TacConfig (Number : Type) where
  t0 : Number
  a0 : Number
  a1 : Number
  a2 : Number
  deriving DecidableEq, Repr

structure QacConfig (Number : Type) where
  p0 : Number
  p1 : Number
  p2 : Number
  p3 : Number
  p4 : Number
  p5 : Number
  p6 : Number
  p7 : Number
  p8 : Number
  p9 : Number
  deriving DecidableEq, Repr

structure EnergyConfig (Number : Type) where
  p0 : Number
  p1 : Number
  p2 : Number
  p3 : Number
  deriving DecidableEq, Repr

structure Mapping (Number : Type) where
  x : Number
  y : Number
  z : Number
  xi : Int
  yi : Int
  triggerRegion : Int
  deriving DecidableEq, Repr

structure ChannelConfig (Number : Type) where
  mapping : Mapping Number
  t0 : Number
  tac_T : Fin 4 → TacConfig Number
  tac_E : Fin 4 → TacConfig Number
  qac_Q : Fin 4 → QacConfig Number
  eCal : Fin 4 → EnergyConfig Number

def pathMax : Nat := 4096

/-- Where the entry of a channel is: `indexH` and `indexL`. -/
structure Index where
  high : Fin pathMax
  low : Fin 4096
  deriving DecidableEq, Repr

def Index.channelID (index : Index) : Nat := index.high * 4096 + index.low

/-- `none` is outside of the tables. -/
def indexOf (channelID : Nat) : Option Index :=
  if inside : channelID / 4096 < pathMax then
    some ⟨⟨channelID / 4096, inside⟩, ⟨channelID % 4096, Nat.mod_lt _ (by decide)⟩⟩
  else none

/-- `none` in `channelConfig` is a null pointer. -/
structure SystemConfig (Number : Type) where
  hasTDCCalibration : Bool
  hasQDCCalibration : Bool
  hasEnergyCalibration : Bool
  hasTimeOffsetCalibration : Bool
  hasXYZ : Bool
  channelConfig : Fin pathMax → Option (Fin 4096 → ChannelConfig Number)
  nullChannelConfig : ChannelConfig Number

variable {Number : Type}

section Access
variable (config : SystemConfig Number) (index : Index)

def SystemConfig.touchChannelConfig : SystemConfig Number :=
  match config.channelConfig index.high with
  | none => { config with
      channelConfig := Function.update config.channelConfig index.high
        (some fun _ => config.nullChannelConfig) }
  | some _ => config

def SystemConfig.getChannelConfig : ChannelConfig Number :=
  match config.channelConfig index.high with
  | none => config.nullChannelConfig
  | some table => table index.low

/-- What is written through the reference that `getChannelConfig` returns. -/
def SystemConfig.setChannelConfig (channel : ChannelConfig Number) : SystemConfig Number :=
  match config.channelConfig index.high with
  | none => { config with nullChannelConfig := channel }
  | some table => { config with
      channelConfig := Function.update config.channelConfig index.high
        (some (Function.update table index.low channel)) }

end Access

section Null
variable [Zero Number]

def nullChannelConfig : ChannelConfig Number :=
  { mapping := ⟨0, 0, 0, 0, 0, -1⟩
    t0 := 0
    tac_T := fun _ => ⟨0, 0, 0, 0⟩
    tac_E := fun _ => ⟨0, 0, 0, 0⟩
    qac_Q := fun _ => ⟨0, 0, 0, 0, 0, 0, 0, 0, 0, 0⟩
    eCal := fun _ => ⟨0, 0, 0, 0⟩ }

/-- The flags that the constructor leaves open are set by `fromFile` before they
are used. -/
def newSystemConfig : SystemConfig Number :=
  { hasTDCCalibration := false
    hasQDCCalibration := false
    hasEnergyCalibration := false
    hasTimeOffsetCalibration := false
    hasXYZ := false
    channelConfig := fun _ => none
    nullChannelConfig := nullChannelConfig }

end Null

/-- `\s*#.*`, where `.` is any character. -/
def eraseComment (line : Text) : Text :=
  if '#' ∈ line then trimEnd (line.takeWhile (· ≠ '#')) else line

/-- `line` is a C string in its buffer. The expressions with `^` and `$` also match
beside a form feed, which is white space and so comes to the same. -/
def normalizeLine (line : Text) : Text :=
  let s := line.takeWhile (· ≠ '\x00')
  let s := s.filter (· ≠ '\r')
  let s := eraseComment s
  let s := skipSpace s
  let s := trimEnd s
  squeeze false s

def makeGID (portID slaveID chipID channelID : Nat) : Nat :=
  (channelID ||| chipID <<< 6 ||| slaveID <<< 12 ||| portID <<< 17) % 2 ^ 32

/-- The bits of an `int` as an `unsigned`. -/
def unsignedOf (n : Int) : Nat := (n % 2 ^ 32).toNat

/-- The bits of an `int` as an `unsigned long`. -/
def unsignedLongOf (n : Int) : Nat := (n % 2 ^ 64).toNat

/-- What a line writes into the entry of its channel. -/
inductive Write (Number : Type) where
  | tac_T (tac : TacConfig Number)
  | tac_E (tac : TacConfig Number)
  | qac_Q (qac : QacConfig Number)
  | eCal (energy : EnergyConfig Number)
  | timeOffset (t0 : Number)
  | mapping (position : Mapping Number)
  deriving DecidableEq, Repr

/-- The fields of a line as they are written; `tacID` is 0 where the table has none. -/
structure Named where
  portID : Int
  slaveID : Int
  chipID : Int
  channelID : Int
  tacID : Int
  deriving DecidableEq, Repr

/-- A line from which all fields were taken. -/
structure Entry (Number : Type) where
  named : Named
  gChannelID : Nat
  tacID : Nat
  write : Write Number
  deriving DecidableEq, Repr

def assign {Value : Type} (array : Fin 4 → Value) (n : Nat) (value : Value) :
    Option (Fin 4 → Value) :=
  if inside : n < 4 then some (Function.update array ⟨n, inside⟩ value) else none

def Write.apply (write : Write Number) (tacID : Nat) (channel : ChannelConfig Number) :
    Option (ChannelConfig Number) :=
  match write with
  | .tac_T tac => (assign channel.tac_T tacID tac).map fun tacs => { channel with tac_T := tacs }
  | .tac_E tac => (assign channel.tac_E tacID tac).map fun tacs => { channel with tac_E := tacs }
  | .qac_Q qac => (assign channel.qac_Q tacID qac).map fun qacs => { channel with qac_Q := qacs }
  | .eCal energy => (assign channel.eCal tacID energy).map fun eCal => { channel with eCal := eCal }
  | .timeOffset t0 => some { channel with t0 := t0 }
  | .mapping position => some { channel with mapping := position }

/-- The size of `line`, and `sscanf` with the conversions of a table. -/
structure Loader (Number : Type) where
  bufferSize : Nat
  scan : Text → Option (Entry Number)

/-- The line that is used, unless it is left with `continue`. -/
def Loader.accepted (loader : Loader Number) (line : Text) : Option (Entry Number) :=
  let line := normalizeLine line
  if line = [] then none else loader.scan line

/-- The body of the loop. A line that does not fit its buffer, with the 0 behind
it, is written past its end. -/
def Loader.loadLine (loader : Loader Number) (config : SystemConfig Number) (line : Text) :
    Option (SystemConfig Number) :=
  if loader.bufferSize ≤ line.length then none
  else
    match loader.accepted line with
    | none => some config
    | some entry =>
        match indexOf entry.gChannelID with
        | none => none
        | some index =>
            let config := config.touchChannelConfig index
            (entry.write.apply entry.tacID (config.getChannelConfig index)).map
              (config.setChannelConfig index)

def Loader.load (loader : Loader Number) (config : SystemConfig Number) (text : Text) :
    Option (SystemConfig Number) :=
  (linesOf text).foldlM loader.loadLine config

section Tables
variable (scanFloat : ScanFloat Number)

def scanTDC (line : Text) : Option (Entry Number) := do
  let (portID, line) ← scanField line
  let (slaveID, line) ← scanField line
  let (chipID, line) ← scanField line
  let (channelID, line) ← scanField line
  let (tacID, line) ← scanField line
  let (bStr, line) ← scanCharField line
  let (t0, line) ← scanFloatField scanFloat line
  let (a0, line) ← scanFloatField scanFloat line
  let (a1, line) ← scanFloatField scanFloat line
  let (a2, _) ← scanFloatField scanFloat line
  some
    { named := ⟨written portID, written slaveID, written chipID, written channelID, written tacID⟩
      gChannelID := makeGID (unsignedOf (toInt portID)) (toUnsigned slaveID) (toUnsigned chipID)
        (toUnsigned channelID)
      tacID := toUnsigned tacID
      write := if bStr = 'T' then .tac_T ⟨t0, a0, a1, a2⟩ else .tac_E ⟨t0, a0, a1, a2⟩ }

def scanQDC (line : Text) : Option (Entry Number) := do
  let (portID, line) ← scanField line
  let (slaveID, line) ← scanField line
  let (chipID, line) ← scanField line
  let (channelID, line) ← scanField line
  let (tacID, line) ← scanField line
  let (p0, line) ← scanFloatField scanFloat line
  let (p1, line) ← scanFloatField scanFloat line
  let (p2, line) ← scanFloatField scanFloat line
  let (p3, line) ← scanFloatField scanFloat line
  let (p4, line) ← scanFloatField scanFloat line
  let (p5, line) ← scanFloatField scanFloat line
  let (p6, line) ← scanFloatField scanFloat line
  let (p7, line) ← scanFloatField scanFloat line
  let (p8, line) ← scanFloatField scanFloat line
  let (p9, _) ← scanFloatField scanFloat line
  some
    { named := ⟨written portID, written slaveID, written chipID, written channelID, written tacID⟩
      gChannelID := makeGID (unsignedOf (toInt portID)) (toUnsigned slaveID) (toUnsigned chipID)
        (toUnsigned channelID)
      tacID := toUnsigned tacID
      write := .qac_Q ⟨p0, p1, p2, p3, p4, p5, p6, p7, p8, p9⟩ }

def scanEnergy (line : Text) : Option (Entry Number) := do
  let (portID, line) ← scanField line
  let (slaveID, line) ← scanField line
  let (chipID, line) ← scanField line
  let (channelID, line) ← scanField line
  let (tacID, line) ← scanField line
  let (p0, line) ← scanFloatField scanFloat line
  let (p1, line) ← scanFloatField scanFloat line
  let (p2, line) ← scanFloatField scanFloat line
  let (p3, _) ← scanFloatField scanFloat line
  some
    { named := ⟨written portID, written slaveID, written chipID, written channelID, written tacID⟩
      gChannelID := makeGID (unsignedOf (toInt portID)) (toUnsigned slaveID) (toUnsigned chipID)
        (toUnsigned channelID)
      tacID := toUnsigned tacID
      write := .eCal ⟨p0, p1, p2, p3⟩ }

def scanTimeOffset (line : Text) : Option (Entry Number) := do
  let (portID, line) ← scanField line
  let (slaveID, line) ← scanField line
  let (chipID, line) ← scanField line
  let (channelID, line) ← scanField line
  let (t0, _) ← scanFloatField scanFloat line
  some
    { named := ⟨written portID, written slaveID, written chipID, written channelID, 0⟩
      gChannelID := makeGID (toUnsigned portID) (toUnsigned slaveID) (toUnsigned chipID)
        (unsignedLongOf (toInt channelID))
      tacID := 0
      write := .timeOffset t0 }

def scanChannelMap (line : Text) : Option (Entry Number) := do
  let (portID, line) ← scanField line
  let (slaveID, line) ← scanField line
  let (chipID, line) ← scanField line
  let (channelID, line) ← scanField line
  let (region, line) ← scanField line
  let (xi, line) ← scanField line
  let (yi, line) ← scanField line
  let (x, line) ← scanFloatField scanFloat line
  let (y, line) ← scanFloatField scanFloat line
  let (z, _) ← scanFloatField scanFloat line
  some
    { named := ⟨written portID, written slaveID, written chipID, written channelID, 0⟩
      gChannelID := makeGID (toUnsigned portID) (toUnsigned slaveID) (toUnsigned chipID)
        (toUnsigned channelID)
      tacID := 0
      write := .mapping ⟨x, y, z, toInt xi, toInt yi, toInt region⟩ }

inductive Table where
  | tdcCalibration
  | qdcCalibration
  | energyCalibration
  | timeOffsetCalibration
  | channelMap
  deriving DecidableEq, Repr

def Table.loader : Table → Loader Number
  | .tdcCalibration => ⟨pathMax, scanTDC scanFloat⟩
  | .qdcCalibration => ⟨pathMax, scanQDC scanFloat⟩
  | .energyCalibration => ⟨1024, scanEnergy scanFloat⟩
  | .timeOffsetCalibration => ⟨pathMax, scanTimeOffset scanFloat⟩
  | .channelMap => ⟨pathMax, scanChannelMap scanFloat⟩

def loadTDCCalibration : SystemConfig Number → Text → Option (SystemConfig Number) :=
  (Table.tdcCalibration.loader scanFloat).load

def loadQDCCalibration : SystemConfig Number → Text → Option (SystemConfig Number) :=
  (Table.qdcCalibration.loader scanFloat).load

def loadEnergyCalibration : SystemConfig Number → Text → Option (SystemConfig Number) :=
  (Table.energyCalibration.loader scanFloat).load

def loadTimeOffsetCalibration : SystemConfig Number → Text → Option (SystemConfig Number) :=
  (Table.timeOffsetCalibration.loader scanFloat).load

def loadChannelMap : SystemConfig Number → Text → Option (SystemConfig Number) :=
  (Table.channelMap.loader scanFloat).load

end Tables

/-! How the tables are reached -/

section Access
variable (config : SystemConfig Number)

theorem indexOf_eq_some (channelID : Nat) (inside : channelID < pathMax * 4096) :
    ∃ index, indexOf channelID = some index ∧ index.channelID = channelID := by
  have high : channelID / 4096 < pathMax := Nat.div_lt_of_lt_mul (Nat.mul_comm _ _ ▸ inside)
  refine ⟨⟨⟨channelID / 4096, high⟩, ⟨channelID % 4096, Nat.mod_lt _ (by decide)⟩⟩, ?_, ?_⟩
  · rw [indexOf, dif_pos high]
  · exact Nat.div_add_mod' channelID 4096

theorem channelID_injective (left right : Index) (same : left.channelID = right.channelID) :
    left = right := by
  obtain ⟨⟨leftHigh, _⟩, ⟨leftLow, leftBelow⟩⟩ := left
  obtain ⟨⟨rightHigh, _⟩, ⟨rightLow, rightBelow⟩⟩ := right
  simp only [Index.channelID] at same
  have low : leftLow = rightLow := by omega
  have high : leftHigh = rightHigh := by omega
  subst low high
  rfl

@[simp] theorem get_touch (index other : Index) :
    (config.touchChannelConfig index).getChannelConfig other = config.getChannelConfig other := by
  unfold SystemConfig.touchChannelConfig
  cases table : config.channelConfig index.high with
  | some _ => rfl
  | none =>
      unfold SystemConfig.getChannelConfig
      by_cases same : other.high = index.high
      · simp [same, table]
      · simp [Function.update_of_ne same]

theorem get_set_touch (index other : Index) (channel : ChannelConfig Number) :
    ((config.touchChannelConfig index).setChannelConfig index channel).getChannelConfig other =
      if other = index then channel else config.getChannelConfig other := by
  obtain ⟨table, touched⟩ : ∃ table,
      (config.touchChannelConfig index).channelConfig index.high = some table := by
    unfold SystemConfig.touchChannelConfig
    cases present : config.channelConfig index.high with
    | some table => exact ⟨table, present⟩
    | none => exact ⟨_, Function.update_self _ _ _⟩
  rw [← get_touch config index other]
  generalize config.touchChannelConfig index = config at touched
  simp only [SystemConfig.setChannelConfig, SystemConfig.getChannelConfig, touched]
  by_cases high : other.high = index.high
  · by_cases low : other.low = index.low
    · have same : other = index := by
        obtain ⟨otherHigh, otherLow⟩ := other
        subst high low
        rfl
      rw [if_pos same, same, Function.update_self]
      exact Function.update_self _ _ _
    · rw [if_neg (fun same => low (congrArg Index.low same)), high, Function.update_self, touched]
      exact Function.update_of_ne low _ _
  · rw [if_neg (fun same => high (congrArg Index.high same)), Function.update_of_ne high]

end Access

end GramsTof.ConfigTables
