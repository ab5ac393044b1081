import GramsTof.CommandPrograms
import GramsTof.RailRegisters
import GramsTof.TransitionSystem

/-!
The power of one FEB/D: `petsys.fe_power` and `petsys.fe_power_8k`, and the cache of the
bias DACs in `petsys.daqd.Connection`. Every command can raise an exception, a write also
after it has reached the board. `read_sense` and `set_dac` are one command each.
-/

namespace GramsTof.PowerControl

open CommandPrograms RailRegisters TransitionSystem

structure PortCounts where
  u2V7 : Nat
  u3V2 : Nat
  u1V35 : Nat
  gnd : Nat
  deriving DecidableEq, Repr

structure PortReading where
  v2V7 : ℚ
  v3V2 : ℚ
  v1V35 : ℚ
  gnd : ℚ
  deriving DecidableEq, Repr

inductive Command where
  | readRegister (address : Nat)
  | writeRegister (address value : Nat)
  | getActiveBiasChannels
  | getHvdacConfig
  | writeHvChannel (channel : Nat) (value : Int) (forceAccess : Bool)
  | readPowerGood
  | timeLeft
  | probeMux (busID : Nat)
  | readSense (busID : Nat)
  | setDac (busID : Nat) (version : ModuleVersion) (rail : Rail) (setting : Int)
  | setLegacyFemMode
  deriving DecidableEq, Repr

def Answer : Command → Type
  | .readRegister _ => Nat
  | .writeRegister _ _ => Unit
  | .getActiveBiasChannels => List Nat
  | .getHvdacConfig => Nat → Option Int
  | .writeHvChannel _ _ _ => Unit
  | .readPowerGood => Nat × Nat × Nat
  | .timeLeft => Bool
  | .probeMux _ => Unit
  | .readSense _ => List PortCounts
  | .setDac _ _ _ _ => Unit
  | .setLegacyFemMode => Unit

inductive Error where
  /-- Of a command, such as `RSenseReadError`. -/
  | hardware
  | keyError
  | powerGood
  | dacMaximumReached (busID : Nat) (rail : Rail)
  deriving DecidableEq, Repr

abbrev Script (Value : Type) : Type := Program Command Answer Error Value

def give (command : Command) : Script (Answer command) := Program.give command

/-! Settings and readings -/

structure Preset where
  min : Int
  max : Int
  baseline : Int
  deriving DecidableEq, Repr

/-- `VDD1_PRESET`, `VDD2_PRESET` and `VDD3_PRESET` -/
def preset : Rail → ModuleVersion → Preset
  | .vdd1, .ti => ⟨-31, 31, -30⟩
  | .vdd1, .murata => ⟨-127, 127, 2⟩
  | .vdd2, .ti => ⟨-127, 127, 37⟩
  | .vdd2, .murata => ⟨-127, 127, -23⟩
  | .vdd3, .ti => ⟨-127, 127, 69⟩
  | .vdd3, .murata => ⟨-127, 127, 40⟩

def target : Rail → ℚ
  | .vdd1 => 1.35
  | .vdd2 => 2.75
  | .vdd3 => 3.25

/-- `range(first, stop, step)` -/
def pyRange (first stop step : Int) : List Int :=
  (List.range ((stop - first + step - 1) / step).toNat).map fun k : Nat => first + step * k

def portReading (counts : PortCounts) : PortReading :=
  let gnd : ℚ := 2.5 * counts.gnd / 4096
  { v2V7 := 2.5 * counts.u2V7 / 4096 * 2 - gnd
    v3V2 := 2.5 * counts.u3V2 / 4096 * 2 - gnd
    v1V35 := 2.5 * counts.u1V35 / 4096 * 1 - gnd
    gnd := gnd }

def PortReading.rail (reading : PortReading) : Rail → ℚ
  | .vdd1 => reading.v1V35
  | .vdd2 => reading.v2V7
  | .vdd3 => reading.v3V2

/-- Ground has been taken off the readings already. -/
def readingConnected (rail : Rail) (reading : List PortReading) : List ℚ :=
  let connected := (reading.filter fun r => r.gnd < 0.1).map fun r => r.rail rail - r.gnd
  if rail = .vdd2 then connected.filter fun vddEffective => vddEffective > 1.5 else connected

def stops (rail : Rail) (target : ℚ) (reading : List PortReading) : Bool :=
  match (readingConnected rail reading).min? with
  | none => true
  | some least => least > target

def readSense (busID : Nat) : Script (List PortReading) := do
  let counts : List PortCounts ← give (.readSense busID)
  pure (counts.map portReading)

/-! Off -/

def femPowerEnReg : Nat := 0x0213

def femPowerFbReg : Nat := 0x021C

def asicResetReg : Nat := 0x300

def basePcbReg : Nat := 0x0000

def getBiasPowerStatus : Script Nat := do
  let powerEn : Nat ← give (.readRegister femPowerEnReg)
  pure ((powerEn >>> 1) &&& 0b1)

def getFemPowerStatus : Script Nat := do
  let powerEn : Nat ← give (.readRegister femPowerEnReg)
  pure (powerEn &&& 0b1)

def setHvdacConfig (config : Nat → Option Int) (forceAccess : Bool) : Script Unit := do
  let activeBiasChannels : List Nat ← give .getActiveBiasChannels
  if activeBiasChannels.all fun channel => (config channel).isSome then
    Program.forEach activeBiasChannels fun channel =>
      give (.writeHvChannel channel ((config channel).getD 0) forceAccess)
  else Program.raise .keyError

def setBiasPowerOff : Script Unit := do
  let femEn ← getFemPowerStatus
  let config : Nat → Option Int ← give .getHvdacConfig
  setHvdacConfig (fun channel => (config channel).map fun _ => 0) false
  give (.writeRegister femPowerEnReg (0b00 ||| femEn))

def setAllDacs (busID : Nat) (version : ModuleVersion) (vdd1 vdd2 vdd3 : Int) : Script Unit := do
  give (.setDac busID version .vdd1 vdd1)
  give (.setDac busID version .vdd2 vdd2)
  give (.setDac busID version .vdd3 vdd3)

/-- No exception leaves the loop over the modules. -/
def shutDownModule (busID : Nat) : Script Unit := do
  match ← (setAllDacs busID .ti 0 0 0).attempt with
  | .ok () => pure ()
  | .error _ =>
      match ← (setAllDacs busID .murata 0 0 0).attempt with
      | .ok () => pure ()
      | .error _ => pure ()

def setFemPower8kOff : Script Unit := do
  setBiasPowerOff
  give (.writeRegister femPowerEnReg 0)
  Program.forEach [1, 2, 3, 4] shutDownModule

def setFemPowerOriginalOff : Script Unit := do
  let _ ← getBiasPowerStatus
  setBiasPowerOff
  give (.writeRegister femPowerEnReg 0b00)

def setModulePowerOff (basePcb : Nat) : Script Unit :=
  if basePcb = 0x0005 then setFemPower8kOff else setFemPowerOriginalOff

def setFemPowerOff : Script Unit := do
  let basePcb : Nat ← give (.readRegister basePcbReg)
  give (.writeRegister asicResetReg 0b1)
  setModulePowerOff basePcb
  give (.writeRegister asicResetReg 0b0)

/-! On -/

def chkPowerGoodOriginal : Script Bool := do
  let powerFb : Nat ← give (.readRegister femPowerFbReg)
  pure (((powerFb >>> 2) &&& 0b1) &&& ((powerFb >>> 3) &&& 0b1) != 0)

def setFemPowerOriginalOn : Script Unit := do
  let biasEn ← getBiasPowerStatus
  give (.writeRegister femPowerEnReg (0b01 ||| (biasEn <<< 1)))
  let good ← chkPowerGoodOriginal
  if good then pure ()
  else do
    setFemPowerOff
    Program.raise .powerGood

/-- A round takes a tenth of a second, and there is one second. -/
def pollPowerGood (busID : Nat) : Nat → Script Bool
  | 0 => pure false
  | rounds + 1 => do
      let powerGood : Nat × Nat × Nat ← give .readPowerGood
      let pg (x : Nat) := (x >>> (busID - 1)) &&& 0x1
      if (pg powerGood.1, pg powerGood.2.1, pg powerGood.2.2) = (1, 1, 1) then pure true
      else do
        let more : Bool ← give .timeLeft
        if more then pollPowerGood busID rounds else pure false

def chkPowerGood (busID : Nat) : Script Unit := do
  let good ← pollPowerGood busID 10
  if good then pure ()
  else do
    setFemPower8kOff
    Program.raise .powerGood

def getModuleVersion (busID : Nat) : Script ModuleVersion := do
  let probed ← (give (.probeMux busID)).attempt
  match (probed : Except Error Unit) with
  | .error _ => pure .ti
  | .ok () => pure .murata

def detectActiveBus : List Nat → Script (List (Nat × ModuleVersion))
  | [] => pure []
  | testID :: rest => do
      let reading ← readSense testID
      if reading.any fun r => r.gnd < 0.1 then do
        let version ← getModuleVersion testID
        let others ← detectActiveBus rest
        pure ((testID, version) :: others)
      else detectActiveBus rest

/-- The loop of `ramp_up_rail`, from the setting before. -/
def rampLoop (busID : Nat) (version : ModuleVersion) (rail : Rail) (target : ℚ) :
    List Int → Int → Script Int
  | [], setpoint => pure setpoint
  | dacSetting :: rest, _ => do
      give (.setDac busID version rail dacSetting)
      let reading ← readSense busID
      if stops rail target reading then pure dacSetting
      else rampLoop busID version rail target rest dacSetting

def rampUpRail (busID : Nat) (version : ModuleVersion) (rail : Rail) (rangeToIterate : List Int)
    (max : Int) (target : ℚ) : Script Int := do
  let setpoint ← rampLoop busID version rail target rangeToIterate max
  if setpoint = max then do
    setFemPower8kOff
    Program.raise (.dacMaximumReached busID rail)
  else pure setpoint

def rampRange (rail : Rail) (version : ModuleVersion) : List Int :=
  let step := match rail with
    | .vdd1 => 3
    | .vdd2 => 4
    | .vdd3 => 3
  pyRange (preset rail version).baseline ((preset rail version).max + 1) step

def rampUpBus (bus : Nat × ModuleVersion) : Script Unit := do
  let (busID, version) := bus
  let max (rail : Rail) := (preset rail version).max
  let vdd1Setpoint ←
    rampUpRail busID version .vdd1 (rampRange .vdd1 version) (max .vdd1) (target .vdd1)
  let _ ← rampUpRail busID version .vdd2 (rampRange .vdd2 version) (max .vdd2) (target .vdd2)
  let _ ← rampUpRail busID version .vdd3 (rampRange .vdd3 version) (max .vdd3) (target .vdd3)
  let _ ← rampUpRail busID version .vdd1 (pyRange vdd1Setpoint (max .vdd1 + 1) 1) (max .vdd1)
    (target .vdd1)
  pure ()

def setBaseline (bus : Nat × ModuleVersion) : Script Unit :=
  setAllDacs bus.1 bus.2 (preset .vdd1 bus.2).baseline (preset .vdd2 bus.2).baseline
    (preset .vdd3 bus.2).baseline

def setFemPower8kOn : Script Unit := do
  let busIDs ← detectActiveBus [1, 2, 3, 4]
  Program.forEach busIDs setBaseline
  let biasEn ← getBiasPowerStatus
  give (.writeRegister femPowerEnReg (0b01 ||| (biasEn <<< 1)))
  Program.forEach busIDs fun bus => chkPowerGood bus.1
  Program.forEach busIDs rampUpBus
  Program.forEach busIDs fun bus => chkPowerGood bus.1

def setModulePowerOn (basePcb : Nat) : Script Unit :=
  if basePcb = 0x0005 then setFemPower8kOn else setFemPowerOriginalOn

def setFemPowerOn : Script Unit := do
  let basePcb : Nat ← give (.readRegister basePcbReg)
  give (.writeRegister asicResetReg 0b1)
  setModulePowerOn basePcb
  give (.writeRegister asicResetReg 0b0)
  give .setLegacyFemMode

def guaranteeFemPower (femEn : Nat) : Script Unit :=
  if femEn = 0 then setFemPowerOn else pure ()

def setBiasPowerOn : Script Unit := do
  let femEn ← getFemPowerStatus
  guaranteeFemPower femEn
  give (.writeRegister femPowerEnReg 0b11)

/-! The board -/

/-- The bias channels: the settings that have reached their DACs, which cannot be read
back, and the `__hvdac_config_cache` of the connection. -/
structure BiasDacs where
  activeChannels : List Nat
  settings : Nat → Int
  cache : Nat → Option Int

/-- An empty cache is filled with 0. -/
def BiasDacs.filled (hv : BiasDacs) : BiasDacs :=
  if hv.activeChannels.all fun channel => (hv.cache channel).isNone then
    { hv with cache := fun channel => if channel ∈ hv.activeChannels then some 0 else none }
  else hv

def BiasDacs.reached (hv : BiasDacs) (channel : Nat) (value : Int) : BiasDacs :=
  { hv with settings := Function.update hv.settings channel value }

def BiasDacs.written (hv : BiasDacs) (channel : Nat) (value : Int) : BiasDacs :=
  { hv.reached channel value with cache := Function.update hv.cache channel (some value) }

/-- `sensed` is the last reading of a bus. -/
structure Board where
  registers : Nat → Nat
  rails : Nat → Rail → Int
  hv : BiasDacs
  sensed : Nat → List PortCounts

/-- A command that fails may have `reached` the board. -/
structure Brought where
  fails : Bool
  reached : Bool
  powerFb : Nat
  powerGood : Nat × Nat × Nat
  timeLeft : Bool
  counts : List PortCounts

def Board.changed (board : Board) : Command → Board
  | .writeRegister address value =>
      { board with registers := Function.update board.registers address value }
  | .setDac busID _ rail setting =>
      { board with rails := fun bus other =>
          if bus = busID ∧ other = rail then setting else board.rails bus other }
  | .writeHvChannel channel value _ => { board with hv := board.hv.reached channel value }
  | _ => board

/-- Nothing is sent for a value that is in the cache. -/
def Board.cached (board : Board) : Command → Bool
  | .writeHvChannel channel value forceAccess =>
      !forceAccess && board.hv.cache channel == some value
  | _ => false

def Board.answered (board : Board) (command : Command) (brought : Brought) :
    Answer command × Board :=
  match command with
  | .readRegister address =>
      (if address = femPowerFbReg then brought.powerFb else board.registers address, board)
  | .writeRegister address value => ((), board.changed (.writeRegister address value))
  | .getActiveBiasChannels => (board.hv.activeChannels, board)
  | .getHvdacConfig => (board.hv.filled.cache, { board with hv := board.hv.filled })
  | .writeHvChannel channel value forceAccess =>
      ((), if board.cached (.writeHvChannel channel value forceAccess) then board
        else { board with hv := board.hv.written channel value })
  | .readPowerGood => (brought.powerGood, board)
  | .timeLeft => (brought.timeLeft, board)
  | .probeMux _ => ((), board)
  | .readSense busID =>
      (brought.counts, { board with sensed := Function.update board.sensed busID brought.counts })
  | .setDac busID version rail setting => ((), board.changed (.setDac busID version rail setting))
  | .setLegacyFemMode => ((), board)

def Board.act (board : Board) (command : Command) (brought : Brought) :
    Except Error (Answer command) × Board :=
  if brought.fails && !board.cached command then
    (.error .hardware, if brought.reached then board.changed command else board)
  else (.ok (board.answered command brought).1, (board.answered command brought).2)

def machine : Machine Command Answer Error := ⟨Board, Brought, Board.act⟩

/-! What is kept -/

def FemOn (powerEn : Nat) : Prop := powerEn % 2 = 1

def BiasOn (powerEn : Nat) : Prop := powerEn / 2 % 2 = 1

/-- Bias is not on without the modules. -/
def Powered (powerEn : Nat) : Prop := powerEn = 0 ∨ powerEn = 1 ∨ powerEn = 3

instance (powerEn : Nat) : Decidable (FemOn powerEn) := inferInstanceAs (Decidable (_ = _))
instance (powerEn : Nat) : Decidable (BiasOn powerEn) := inferInstanceAs (Decidable (_ = _))
instance (powerEn : Nat) : Decidable (Powered powerEn) := inferInstanceAs (Decidable (_ ∨ _))

def Board.powerEn (board : Board) : Nat := board.registers femPowerEnReg

/-- The cache says that no channel has a voltage. -/
def BiasDacs.Zero (hv : BiasDacs) : Prop :=
  ∀ channel ∈ hv.activeChannels, hv.cache channel = some 0

/-- Bias is switched off with 0 in the cache of its DACs and before the modules, which are
switched on in reset. No DAC of a rail is set beyond its range. -/
def Safe (board : Board) : Command → Prop
  | .writeRegister address value => address = femPowerEnReg →
      Powered value ∧
      (BiasOn board.powerEn → ¬ BiasOn value → board.hv.Zero) ∧
      (FemOn board.powerEn → ¬ FemOn value → ¬ BiasOn board.powerEn) ∧
      (¬ FemOn board.powerEn → FemOn value → board.registers asicResetReg = 1)
  | .setDac _ version rail setting =>
      setting = 0 ∨ (preset rail version).baseline ≤ setting ∧ setting ≤ (preset rail version).max
  | _ => True

abbrev Meets {Value : Type} (script : Script Value)
    (post : Except Error Value → Board → Prop) (board : Board) : Prop :=
  Program.Meets machine Safe script post board

/-- After an exception of the power the board is off. The ramp of VDD2 never has one. -/
structure Failed (error : Error) (board : Board) : Prop where
  powered : Powered board.powerEn
  powerGood : error = .powerGood → board.powerEn = 0
  dacMaximum : ∀ busID rail, error = .dacMaximumReached busID rail →
    board.powerEn = 0 ∧ rail ≠ .vdd2

theorem failed_hardware {board : Board} (powered : Powered board.powerEn) :
    Failed .hardware board :=
  ⟨powered, fun same => Error.noConfusion same, fun _ _ same => Error.noConfusion same⟩

abbrev Ends {Value : Type} (ok : Value → Board → Prop) : Except Error Value → Board → Prop :=
  Ending Board ok Failed

def Same (before after : Board) : Prop :=
  after.registers = before.registers ∧ after.hv = before.hv

/-- Nothing but rails and readings changes. -/
abbrev Quiet {Value : Type} (ok : Value → Board → Prop) (before : Board) :
    Except Error Value → Board → Prop :=
  Ending Board (fun value after => Same before after ∧ ok value after)
    fun error after => Same before after ∧ error = .hardware

theorem quiet_ends {Value : Type} {script : Script Value} {ok : Value → Board → Prop}
    {board : Board} (powered : Powered board.powerEn)
    (quiet : Meets script (Quiet ok board) board) :
    Meets script (Ends fun value after => Same board after ∧ ok value after) board := by
  refine meets_mono quiet (fun _ _ holds => holds) fun error after holds => ?_
  have same : after.powerEn = board.powerEn := congrFun holds.1.1 _
  rw [holds.2]
  exact failed_hardware (same ▸ powered)

theorem quiet_attempt {Value : Type} {script : Script Value} {ok : Value → Board → Prop}
    {before board : Board} (quiet : Meets script (Quiet ok before) board) :
    Meets script.attempt (Quiet (fun _ _ => True) before) board := by
  have tried : Meets script.attempt (Ending Board (Quiet ok before) fun _ _ => False) board :=
    meets_attempt quiet
  refine meets_mono tried (fun result after holds => ?_) fun _ _ no => no.elim
  cases result with
  | ok value => exact ⟨holds.1, trivial⟩
  | error error => exact ⟨holds.1, trivial⟩

theorem Same.refl (board : Board) : Same board board := ⟨rfl, rfl⟩

theorem Same.trans {first second third : Board} (left : Same first second)
    (right : Same second third) : Same first third :=
  ⟨right.1.trans left.1, right.2.trans left.2⟩

/-! One command -/

/-- A command fails, with or without its change, or answers. -/
theorem meets_command (command : Command) {post : Except Error (Answer command) → Board → Prop}
    {board : Board} (allowed : Safe board command) (failed : post (.error .hardware) board)
    (reached : post (.error .hardware) (board.changed command))
    (answered : ∀ brought, post (.ok (board.answered command brought).1)
      (board.answered command brought).2) :
    Meets (give command) post board := by
  refine meets_give command allowed fun brought => ?_
  change post (board.act command brought).1 (board.act command brought).2
  unfold Board.act
  split_ifs
  · exact reached
  · exact failed
  · exact answered brought

section Quietly
variable {before board : Board} (same : Same before board)
include same

theorem read_register {address : Nat} (plain : address ≠ femPowerFbReg) :
    Meets (give (.readRegister address))
      (Quiet (fun value after => value = before.registers address ∧ after = board) before)
      board := by
  refine meets_command (.readRegister address) trivial ⟨same, rfl⟩ ⟨same, rfl⟩ fun _ => ?_
  exact ⟨same, (if_neg plain).trans (congrFun same.1 address), rfl⟩

theorem read_power_fb :
    Meets (give (.readRegister femPowerFbReg)) (Quiet (fun _ after => after = board) before)
      board :=
  meets_command (.readRegister femPowerFbReg) trivial ⟨same, rfl⟩ ⟨same, rfl⟩ fun _ => ⟨same, rfl⟩

theorem read_power_good :
    Meets (give .readPowerGood) (Quiet (fun _ after => after = board) before) board :=
  meets_command .readPowerGood trivial ⟨same, rfl⟩ ⟨same, rfl⟩ fun _ => ⟨same, rfl⟩

theorem time_left : Meets (give .timeLeft) (Quiet (fun _ after => after = board) before) board :=
  meets_command .timeLeft trivial ⟨same, rfl⟩ ⟨same, rfl⟩ fun _ => ⟨same, rfl⟩

theorem legacy_fem_mode :
    Meets (give .setLegacyFemMode) (Quiet (fun _ after => after = board) before) board :=
  meets_command .setLegacyFemMode trivial ⟨same, rfl⟩ ⟨same, rfl⟩ fun _ => ⟨same, rfl⟩

/-- What is read of a bus is its last reading; the others keep theirs. -/
theorem read_sense (busID : Nat) :
    Meets (readSense busID) (Quiet (fun reading after =>
      reading = (after.sensed busID).map portReading ∧ after.rails = board.rails ∧
        ∀ other ≠ busID, after.sensed other = board.sensed other) before) board := by
  have sensed : Meets (give (.readSense busID)) (Quiet (fun counts after =>
      counts = after.sensed busID ∧ after.rails = board.rails ∧
        ∀ other ≠ busID, after.sensed other = board.sensed other) before) board := by
    refine meets_command (.readSense busID) trivial ⟨same, rfl⟩ ⟨same, rfl⟩ fun brought => ?_
    have own : (board.answered (.readSense busID) brought).2.sensed busID = brought.counts :=
      Function.update_self ..
    exact ⟨same, own.symm, rfl, fun other unlike => Function.update_of_ne unlike ..⟩
  refine meets_bind sensed fun counts after holds => ?_
  obtain ⟨same', read, rails, others⟩ := holds
  exact ⟨same', congrArg _ read, rails, others⟩

def InRange (rail : Rail) (version : ModuleVersion) (setting : Int) : Prop :=
  setting = 0 ∨ (preset rail version).baseline ≤ setting ∧ setting ≤ (preset rail version).max

theorem set_dac {rail : Rail} {version : ModuleVersion} {setting : Int} (busID : Nat)
    (inRange : InRange rail version setting) :
    Meets (give (.setDac busID version rail setting)) (Quiet (fun _ after =>
      after.rails busID rail = setting ∧ after.sensed = board.sensed) before) board :=
  meets_command (.setDac busID version rail setting) inRange ⟨same, rfl⟩ ⟨same, rfl⟩ fun _ =>
    ⟨same, if_pos ⟨rfl, rfl⟩, rfl⟩

theorem set_all_dacs (busID : Nat) (version : ModuleVersion) {vdd1 vdd2 vdd3 : Int}
    (first : InRange .vdd1 version vdd1) (second : InRange .vdd2 version vdd2)
    (third : InRange .vdd3 version vdd3) :
    Meets (setAllDacs busID version vdd1 vdd2 vdd3)
      (Quiet (fun _ after => after.sensed = board.sensed) before) board := by
  refine meets_bind (set_dac same busID first) fun _ _ set => ?_
  refine meets_bind (set_dac set.1 busID second) fun _ _ set' => ?_
  refine meets_mono (set_dac set'.1 busID third) (fun _ _ set'' => ?_) fun _ _ broken => broken
  exact ⟨set''.1, set''.2.2.trans (set'.2.2.trans set.2.2)⟩

end Quietly

/-! Writes -/

def Written (address value : Nat) (before after : Board) : Prop :=
  after.registers = Function.update before.registers address value

theorem Written.self {address value : Nat} {before after : Board}
    (written : Written address value before after) : after.registers address = value :=
  (congrFun written address).trans (Function.update_self ..)

theorem Written.other {address value other : Nat} {before after : Board}
    (written : Written address value before after) (unlike : other ≠ address) :
    after.registers other = before.registers other :=
  (congrFun written other).trans (Function.update_of_ne unlike ..)

theorem written_twice {address value value' : Nat} {first second third : Board}
    (before : Written address value first second) (after : Written address value' second third) :
    Written address value' first third := by
  rw [Written, after, before, Function.update_idem]

theorem written_same {address value : Nat} {first second third : Board}
    (written : Written address value first second) (same : Same second third) :
    Written address value first third := same.1.trans written

theorem same_written {address value : Nat} {first second third : Board}
    (same : second.registers = first.registers) (written : Written address value second third) :
    Written address value first third :=
  Eq.trans written (congrArg (Function.update · address value) same)

theorem changed_power_en (board : Board) (value : Nat) :
    (board.changed (.writeRegister femPowerEnReg value)).powerEn = value := by
  change Function.update board.registers femPowerEnReg value femPowerEnReg = value
  exact Function.update_self ..

/-- With the DACs at 0, bias can be switched off while the modules stay. -/
theorem keep_fem_safe {board : Board} (powered : Powered board.powerEn)
    (zero : board.hv.Zero) :
    Safe board (.writeRegister femPowerEnReg (0b00 ||| board.powerEn &&& 0b1)) := by
  intro _
  have same : FemOn (0b00 ||| board.powerEn &&& 0b1) ↔ FemOn board.powerEn := by
    rcases powered with off | fem | bias <;> simp only [*] <;> decide
  refine ⟨?_, fun _ _ => zero, fun on unlike => absurd (same.mpr on) unlike,
    fun unlike on => absurd (same.mp on) unlike⟩
  rcases powered with off | fem | bias <;> simp only [*] <;> decide

/-- Without bias, everything can be switched off. -/
theorem cut_fem_safe {board : Board} (off : ¬ BiasOn board.powerEn) :
    Safe board (.writeRegister femPowerEnReg 0) :=
  fun _ => ⟨.inl rfl, fun on => absurd on off, fun _ _ => off, fun _ on => absurd on (by decide)⟩

section Writes
variable {board : Board} (powered : Powered board.powerEn)
include powered

theorem write_power_en {value : Nat} (allowed : Safe board (.writeRegister femPowerEnReg value)) :
    Meets (give (.writeRegister femPowerEnReg value)) (Ends fun _ after =>
      Written femPowerEnReg value board after ∧ after.hv = board.hv ∧
        after.sensed = board.sensed) board := by
  refine meets_command (.writeRegister femPowerEnReg value) allowed
    (failed_hardware powered) (failed_hardware ?_) fun _ => ⟨rfl, rfl, rfl⟩
  rw [changed_power_en]
  exact (allowed rfl).1

theorem write_asic_reset (value : Nat) :
    Meets (give (.writeRegister asicResetReg value)) (Ends fun _ after =>
      Written asicResetReg value board after ∧ after.hv = board.hv ∧
        after.sensed = board.sensed) board := by
  refine meets_command (.writeRegister asicResetReg value) (fun same => absurd same (by decide))
    (failed_hardware powered) (failed_hardware ?_) fun _ => ⟨rfl, rfl, rfl⟩
  have kept : (board.changed (.writeRegister asicResetReg value)).powerEn = board.powerEn :=
    Function.update_of_ne (by decide : femPowerEnReg ≠ asicResetReg) value board.registers
  rwa [kept]

theorem get_hvdac_config : Meets (give .getHvdacConfig) (Ends fun config after =>
    after.registers = board.registers ∧ config = after.hv.cache) board :=
  meets_command .getHvdacConfig trivial (failed_hardware powered) (failed_hardware powered)
    fun _ => ⟨rfl, rfl⟩

theorem active_bias_channels : Meets (give .getActiveBiasChannels) (Ends fun channels after =>
    channels = board.hv.activeChannels ∧ after = board) board :=
  meets_command .getActiveBiasChannels trivial (failed_hardware powered) (failed_hardware powered)
    fun _ => ⟨rfl, rfl⟩

/-- Whether it is sent or not, 0 is in the cache then. -/
theorem write_hv_channel (channel : Nat) (forceAccess : Bool) :
    Meets (give (.writeHvChannel channel 0 forceAccess)) (Ends fun _ after =>
      after.registers = board.registers ∧ after.hv.activeChannels = board.hv.activeChannels ∧
        after.hv.cache channel = some 0 ∧
        ∀ other, board.hv.cache other = some 0 → after.hv.cache other = some 0) board := by
  refine meets_command (.writeHvChannel channel 0 forceAccess) trivial (failed_hardware powered)
    (failed_hardware powered) fun brought => ?_
  unfold Board.answered
  dsimp only
  split_ifs with cached
  · simp only [Board.cached, Bool.and_eq_true, beq_iff_eq] at cached
    exact ⟨rfl, rfl, cached.2, fun _ zero => zero⟩
  · refine ⟨rfl, rfl, Function.update_self .., fun other zero => ?_⟩
    by_cases same : other = channel
    · subst same
      exact Function.update_self ..
    · exact (Function.update_of_ne same ..).trans zero

omit powered in
theorem write_hv_channels (channels : List Nat) (forceAccess : Bool) {board : Board}
    (powered : Powered board.powerEn) :
    Meets (Program.forEach channels fun channel => give (.writeHvChannel channel 0 forceAccess))
      (Ends fun _ after => after.registers = board.registers ∧
        after.hv.activeChannels = board.hv.activeChannels ∧
        (∀ channel ∈ channels, after.hv.cache channel = some 0) ∧
        ∀ other, board.hv.cache other = some 0 → after.hv.cache other = some 0) board := by
  induction channels generalizing board with
  | nil => exact ⟨rfl, rfl, fun _ no => absurd no List.not_mem_nil, fun _ zero => zero⟩
  | cons channel rest ih =>
      refine meets_bind (write_hv_channel powered channel forceAccess) fun _ middle wrote => ?_
      obtain ⟨registers, active, here, kept⟩ := wrote
      have power : middle.powerEn = board.powerEn := congrFun registers _
      refine meets_mono (ih (power ▸ powered)) (fun _ after done => ?_) fun _ _ failed => failed
      obtain ⟨registers', active', later, kept'⟩ := done
      refine ⟨registers'.trans registers, active'.trans active, ?_,
        fun other zero => kept' other (kept other zero)⟩
      exact List.forall_mem_cons.mpr ⟨kept' channel here, later⟩

theorem set_hvdac_zero (keys : Nat → Option Int) (forceAccess : Bool) :
    Meets (setHvdacConfig (fun channel => (keys channel).map fun _ => 0) forceAccess)
      (Ends fun _ after => after.registers = board.registers ∧ after.hv.Zero) board := by
  refine meets_bind (active_bias_channels powered) fun channels after read => ?_
  obtain ⟨rfl, rfl⟩ := read
  have zeroes : (fun channel => give (.writeHvChannel channel
      (((keys channel).map fun _ => (0 : Int)).getD 0) forceAccess)) =
        fun channel => give (.writeHvChannel channel 0 forceAccess) :=
    funext fun channel => by cases keys channel <;> rfl
  dsimp only
  rw [zeroes]
  split_ifs
  · refine meets_mono (write_hv_channels _ forceAccess powered) (fun _ done wrote => ?_)
      fun _ _ failed => failed
    refine ⟨wrote.1, fun channel active => wrote.2.2.1 channel ?_⟩
    rwa [wrote.2.1] at active
  · exact ⟨powered, fun same => Error.noConfusion same, fun _ _ same => Error.noConfusion same⟩

theorem power_status (bits : Nat → Nat) : Meets (do
      let powerEn : Nat ← give (.readRegister femPowerEnReg)
      pure (bits powerEn))
    (Ends fun value after => Same board after ∧ value = bits board.powerEn ∧ after = board)
    board := by
  refine quiet_ends powered (meets_bind (read_register (Same.refl board) (by decide)) ?_)
  rintro value after ⟨same, read, stayed⟩
  exact ⟨same, congrArg bits read, stayed⟩

theorem bias_power_off : Meets setBiasPowerOff (Ends fun _ after =>
    Written femPowerEnReg (board.powerEn &&& 0b1) board after ∧ after.hv.Zero) board := by
  refine meets_bind (power_status powered fun powerEn => powerEn &&& 0b1) ?_
  rintro femEn after ⟨_, value, stayed⟩
  rw [value, stayed]
  refine meets_bind (get_hvdac_config powered) fun config read known => ?_
  have power : read.powerEn = board.powerEn := congrFun known.1 _
  refine meets_bind (set_hvdac_zero (power ▸ powered) config false) ?_
  rintro _ zeroed ⟨registers', zero⟩
  have registers := registers'.trans known.1
  have same : zeroed.powerEn = board.powerEn := congrFun registers _
  have allowed := keep_fem_safe (same ▸ powered) zero
  rw [same] at allowed
  refine meets_mono (write_power_en (same ▸ powered) allowed) ?_ fun _ _ failed => failed
  rintro _ unbiased ⟨written, kept, _⟩
  rw [Nat.zero_or] at written
  exact ⟨same_written registers written, kept ▸ zero⟩

end Writes

/-! Off -/

theorem shut_down_module {before board : Board} (same : Same before board) (busID : Nat) :
    Meets (shutDownModule busID) (Quiet (fun _ _ => True) before) board := by
  refine meets_bind
    (quiet_attempt (set_all_dacs same busID .ti (.inl rfl) (.inl rfl) (.inl rfl))) ?_
  rintro (error | value) after ⟨same', _⟩
  · refine meets_bind
      (quiet_attempt (set_all_dacs same' busID .murata (.inl rfl) (.inl rfl) (.inl rfl))) ?_
    rintro (error | value) after' ⟨same'', _⟩
    · exact ⟨same'', trivial⟩
    · exact ⟨same'', trivial⟩
  · exact ⟨same', trivial⟩

theorem shut_down_modules (busIDs : List Nat) (board : Board) :
    Meets (Program.forEach busIDs shutDownModule) (Quiet (fun _ _ => True) board) board := by
  have loop : Meets (Program.forEach busIDs shutDownModule)
      (Ending Board (fun _ => Same board) fun error after => Same board after ∧ error = .hardware)
      board :=
    meets_forEach busIDs (fun busID _ state same =>
      meets_mono (shut_down_module same busID) (fun _ _ holds => holds.1) fun _ _ broken => broken)
      (Same.refl board)
  exact meets_mono loop (fun _ _ same => ⟨same, trivial⟩) fun _ _ broken => broken

section Off
variable {board : Board} (powered : Powered board.powerEn)
include powered

theorem unbiased_power {after : Board}
    (written : Written femPowerEnReg (board.powerEn &&& 0b1) board after) :
    Powered after.powerEn ∧ ¬ BiasOn after.powerEn := by
  have power : after.powerEn = board.powerEn &&& 0b1 := written.self
  rw [power]
  rcases powered with off | fem | bias <;> simp only [*] <;> decide

theorem cut_fem {after : Board} (zero : after.hv.Zero)
    (written : Written femPowerEnReg (board.powerEn &&& 0b1) board after) :
    Meets (give (.writeRegister femPowerEnReg 0)) (Ends fun _ off =>
      Written femPowerEnReg 0 board off ∧ off.hv.Zero) after := by
  obtain ⟨powered', unbiased⟩ := unbiased_power powered written
  refine meets_mono (write_power_en powered' (cut_fem_safe unbiased)) ?_ fun _ _ failed => failed
  exact fun _ _ cut => ⟨written_twice written cut.1, cut.2.1 ▸ zero⟩

theorem fem_8k_off : Meets setFemPower8kOff (Ends fun _ after =>
    Written femPowerEnReg 0 board after ∧ after.hv.Zero) board := by
  refine meets_bind (bias_power_off powered) fun _ unbiased bias => ?_
  refine meets_bind (cut_fem powered bias.2 bias.1) fun _ off cut => ?_
  have powered' : Powered off.powerEn := .inl cut.1.self
  refine meets_mono (quiet_ends powered' (shut_down_modules _ off)) ?_ fun _ _ failed => failed
  exact fun _ _ holds => ⟨written_same cut.1 holds.1, holds.1.2 ▸ cut.2⟩

theorem fem_original_off : Meets setFemPowerOriginalOff (Ends fun _ after =>
    Written femPowerEnReg 0 board after ∧ after.hv.Zero) board := by
  refine meets_bind (power_status powered fun powerEn => (powerEn >>> 1) &&& 0b1) fun _ _ read => ?_
  rw [read.2.2]
  exact meets_bind (bias_power_off powered) fun _ _ bias => cut_fem powered bias.2 bias.1

theorem module_power_off (basePcb : Nat) : Meets (setModulePowerOff basePcb) (Ends fun _ after =>
    Written femPowerEnReg 0 board after ∧ after.hv.Zero) board := by
  unfold setModulePowerOff
  split_ifs
  · exact fem_8k_off powered
  · exact fem_original_off powered

theorem base_pcb : Meets (give (.readRegister basePcbReg))
    (Ends fun value after => value = board.registers basePcbReg ∧ after = board) board :=
  meets_mono (quiet_ends powered (read_register (Same.refl board) (by decide)))
    (fun _ _ holds => holds.2) fun _ _ failed => failed

theorem fem_power_off : Meets setFemPowerOff (Ends fun _ after =>
    after.powerEn = 0 ∧ after.registers asicResetReg = 0 ∧ after.hv.Zero) board := by
  refine meets_bind (base_pcb powered) fun basePcb after read => ?_
  rw [read.2]
  refine meets_bind (write_asic_reset powered 0b1) fun _ resetting reset => ?_
  have same : resetting.powerEn = board.powerEn := reset.1.other (by decide)
  refine meets_bind (module_power_off (same ▸ powered) basePcb) fun _ off power => ?_
  have powered' : Powered off.powerEn := .inl power.1.self
  refine meets_mono (write_asic_reset powered' 0b0) ?_ fun _ _ failed => failed
  exact fun _ _ done =>
    ⟨(done.1.other (by decide)).trans power.1.self, done.1.self, done.2.1 ▸ power.2⟩

end Off

/-! Ramps -/

theorem stops_iff (rail : Rail) (target : ℚ) (reading : List PortReading) :
    stops rail target reading = true ↔ ∀ v ∈ readingConnected rail reading, target < v := by
  unfold stops
  generalize readingConnected rail reading = connected
  cases least : connected.min? with
  | none =>
      rw [List.min?_eq_none_iff.mp least]
      simp
  | some low =>
      obtain ⟨member, below⟩ := List.min?_eq_some_iff.mp least
      rw [decide_eq_true_eq]
      exact ⟨fun above v inside => lt_of_lt_of_le above (below v inside), fun all => all low member⟩

def Reached (busID : Nat) (rail : Rail) (board : Board) : Prop :=
  ∀ v ∈ readingConnected rail ((board.sensed busID).map portReading), target rail < v

/-- What a ramp that ends leaves behind: the target, or the last setting. -/
structure Ramped (busID : Nat) (rail : Rail) (settings : List Int) (before : Board) (result : Int)
    (after : Board) : Prop where
  member : result ∈ settings
  reached : Reached busID rail after ∨ settings.getLast? = some result
  set : after.rails busID rail = result
  others : ∀ other ≠ busID, after.sensed other = before.sensed other

theorem ramp_loop {busID : Nat} {version : ModuleVersion} {rail : Rail} {before board : Board}
    (settings : List Int) (setting previous : Int)
    (inRange : ∀ setting' ∈ setting :: settings, InRange rail version setting')
    (same : Same before board) :
    Meets (rampLoop busID version rail (target rail) (setting :: settings) previous)
      (Quiet (Ramped busID rail (setting :: settings) board) before) board := by
  induction settings generalizing setting previous board with
  | nil =>
      refine meets_bind (set_dac same busID (inRange setting (.head _))) fun _ driven set => ?_
      refine meets_bind (read_sense set.1 busID) fun reading after read => ?_
      have done : Ramped busID rail [setting] board setting after :=
        ⟨.head _, .inr rfl, (congrFun (congrFun read.2.2.1 busID) rail).trans set.2.1,
          fun other unlike => (read.2.2.2 other unlike).trans (congrFun set.2.2 other)⟩
      split_ifs
      · exact ⟨read.1, done⟩
      · exact ⟨read.1, done⟩
  | cons next rest ih =>
      refine meets_bind (set_dac same busID (inRange setting (.head _))) fun _ driven set => ?_
      refine meets_bind (read_sense set.1 busID) fun reading after read => ?_
      have others (other : Nat) (unlike : other ≠ busID) : after.sensed other = board.sensed other :=
        (read.2.2.2 other unlike).trans (congrFun set.2.2 other)
      split_ifs with stopped
      · rw [read.2.1, stops_iff] at stopped
        exact ⟨read.1, .head _, .inl stopped,
          (congrFun (congrFun read.2.2.1 busID) rail).trans set.2.1, others⟩
      · refine meets_mono (ih next setting (fun other member => inRange other (.tail _ member))
          read.1) (fun result final ends => ?_) fun _ _ broken => broken
        obtain ⟨same', ramped⟩ := ends
        exact ⟨same', .tail _ ramped.member,
          ramped.reached.imp_right fun last => List.getLast?_cons_cons.trans last, ramped.set,
          fun other unlike => (ramped.others other unlike).trans (others other unlike)⟩

theorem ramp_up_rail {busID : Nat} {version : ModuleVersion} {rail : Rail} {board : Board}
    {max : Int} (settings : List Int) (powered : Powered board.powerEn) (some : settings ≠ [])
    (inRange : ∀ setting ∈ settings, InRange rail version setting)
    (never : rail = .vdd2 → max ∉ settings) :
    Meets (rampUpRail busID version rail settings max (target rail))
      (Ends fun result after =>
        Same board after ∧ Ramped busID rail settings board result after ∧ result ≠ max) board := by
  obtain ⟨setting, rest, rfl⟩ := List.exists_cons_of_ne_nil some
  refine meets_bind (quiet_ends powered (ramp_loop rest setting max inRange (Same.refl board))) ?_
  rintro setpoint after ⟨same, ramped⟩
  have power : after.powerEn = board.powerEn := congrFun same.1 femPowerEnReg
  have powered' : Powered after.powerEn := power ▸ powered
  split_ifs with maximal
  · refine meets_bind (fem_8k_off powered') fun _ off cut => ?_
    refine ⟨.inl cut.1.self, fun same => Error.noConfusion same, fun bus other same => ?_⟩
    obtain ⟨_, rfl⟩ := Error.dacMaximumReached.inj same
    exact ⟨cut.1.self, fun vdd2 => never vdd2 (maximal ▸ ramped.member)⟩
  · exact ⟨same, ramped, maximal⟩

theorem range_by_one (first stop : Int) (some : first ≤ stop) :
    pyRange first (stop + 1) 1 ≠ [] ∧ (pyRange first (stop + 1) 1).getLast? = .some stop ∧
      ∀ setting ∈ pyRange first (stop + 1) 1, first ≤ setting ∧ setting ≤ stop := by
  obtain ⟨count, rfl⟩ : ∃ count : Nat, stop = first + count := ⟨(stop - first).toNat, by omega⟩
  have length : ((first + count + 1 - first + 1 - 1) / 1 : Int).toNat = count + 1 := by omega
  unfold pyRange
  rw [length]
  refine ⟨?_, ?_, ?_⟩
  · simp
  · rw [List.range_succ, List.map_append, List.map_singleton, List.getLast?_concat, one_mul]
  · intro setting member
    obtain ⟨k, inside, rfl⟩ := List.mem_map.mp member
    have below := List.mem_range.mp inside
    omega

theorem ramp_range (rail : Rail) (version : ModuleVersion) :
    rampRange rail version ≠ [] ∧ (∀ setting ∈ rampRange rail version,
      (preset rail version).baseline ≤ setting ∧ setting ≤ (preset rail version).max) ∧
    (rail = .vdd2 → (preset rail version).max ∉ rampRange rail version) := by
  cases rail <;> cases version <;> decide

theorem baseline_inRange (rail : Rail) (version : ModuleVersion) :
    InRange rail version (preset rail version).baseline := by
  cases rail <;> cases version <;> exact .inr (by decide)

/-! On -/

/-- One bus is read, and the others keep their readings. -/
def Others (busID : Nat) (before after : Board) : Prop :=
  ∀ other ≠ busID, after.sensed other = before.sensed other

theorem Others.trans {busID : Nat} {first second third : Board} (left : Others busID first second)
    (right : Others busID second third) : Others busID first third :=
  fun other unlike => (right other unlike).trans (left other unlike)

theorem Same.power {before after : Board} (same : Same before after)
    (powered : Powered before.powerEn) : Powered after.powerEn := by
  have power : after.powerEn = before.powerEn := congrFun same.1 femPowerEnReg
  rwa [power]

theorem ramp_up_bus {bus : Nat × ModuleVersion} {board : Board} (powered : Powered board.powerEn) :
    Meets (rampUpBus bus) (Ends fun _ after =>
      Same board after ∧ Reached bus.1 .vdd1 after ∧ Others bus.1 board after) board := by
  obtain ⟨busID, version⟩ := bus
  have ranged (rail : Rail) := ramp_range rail version
  have ramp (rail : Rail) (state : Board) (powered : Powered state.powerEn) :
      Meets (rampUpRail busID version rail (rampRange rail version) (preset rail version).max
        (target rail)) (Ends fun result after => Same state after ∧
          Ramped busID rail (rampRange rail version) state result after ∧
          result ≠ (preset rail version).max) state :=
    ramp_up_rail (rampRange rail version) powered (ranged rail).1
      (fun setting member => .inr ((ranged rail).2.1 setting member)) (ranged rail).2.2
  refine meets_bind (ramp .vdd1 board powered) fun first second one => ?_
  obtain ⟨same, ramped, _⟩ := one
  refine meets_bind (ramp .vdd2 second (same.power powered)) fun _ third two => ?_
  have same2 := same.trans two.1
  refine meets_bind (ramp .vdd3 third (same2.power powered)) fun _ fourth three => ?_
  have same3 := same2.trans three.1
  obtain ⟨above, below⟩ := (ranged .vdd1).2.1 first ramped.member
  obtain ⟨some, last, bounds⟩ := range_by_one first (preset .vdd1 version).max below
  have again : Meets (rampUpRail busID version .vdd1
      (pyRange first ((preset .vdd1 version).max + 1) 1) (preset .vdd1 version).max (target .vdd1))
      (Ends fun result after => Same fourth after ∧ Ramped busID .vdd1
        (pyRange first ((preset .vdd1 version).max + 1) 1) fourth result after ∧
          result ≠ (preset .vdd1 version).max) fourth :=
    ramp_up_rail _ (same3.power powered) some (fun setting member =>
      .inr ⟨above.trans (bounds setting member).1, (bounds setting member).2⟩)
      fun no => Rail.noConfusion no
  refine meets_bind again fun final after four => ?_
  obtain ⟨same4, ramped4, returned⟩ := four
  refine ⟨same3.trans same4, ?_, ?_⟩
  · -- The last setting is the maximum, which does not return.
    exact ramped4.reached.resolve_right fun ended =>
      returned (Option.some.inj (ended.symm.trans last))
  · exact ((Others.trans ramped.others two.2.1.others).trans three.2.1.others).trans ramped4.others

theorem ramp_up_buses {board : Board} (buses : List (Nat × ModuleVersion))
    (distinct : (buses.map Prod.fst).Nodup) (powered : Powered board.powerEn) :
    Meets (Program.forEach buses rampUpBus) (Ends fun _ after =>
      Same board after ∧ (∀ bus ∈ buses, Reached bus.1 .vdd1 after) ∧
        ∀ other ∉ buses.map Prod.fst, after.sensed other = board.sensed other) board := by
  induction buses generalizing board with
  | nil => exact ⟨Same.refl board, fun _ no => absurd no List.not_mem_nil, fun _ _ => rfl⟩
  | cons bus rest ih =>
      obtain ⟨unlike, distinct'⟩ := List.nodup_cons.mp distinct
      refine meets_bind (ramp_up_bus powered) fun _ middle ramped => ?_
      obtain ⟨same, reached, others⟩ := ramped
      refine meets_mono (ih distinct' (same.power powered)) ?_ fun _ _ failed => failed
      rintro _ after ⟨same', reached', others'⟩
      refine ⟨same.trans same', fun bus' member => ?_, fun other outside => ?_⟩
      · rcases List.mem_cons.mp member with rfl | later
        · have kept := others' bus'.1 unlike
          unfold Reached
          rw [kept]
          exact reached
        · exact reached' bus' later
      · have apart : other ≠ bus.1 := fun same => outside (same ▸ List.mem_cons_self)
        exact (others' other fun later => outside (.tail _ later)).trans (others other apart)

theorem poll_power_good {board : Board} (busID rounds : Nat) :
    Meets (pollPowerGood busID rounds) (Quiet (fun _ after => after = board) board) board := by
  induction rounds with
  | zero => exact ⟨Same.refl board, rfl⟩
  | succ rounds ih =>
      refine meets_bind (read_power_good (Same.refl board)) fun powerGood after read => ?_
      rw [read.2]
      dsimp only
      split_ifs with good
      · exact ⟨Same.refl board, rfl⟩
      · refine meets_bind (time_left (Same.refl board)) fun more after' left => ?_
        rw [left.2]
        split_ifs
        · exact ih
        · exact ⟨Same.refl board, rfl⟩

theorem chk_power_good {board : Board} (powered : Powered board.powerEn) (busID : Nat) :
    Meets (chkPowerGood busID) (Ends fun _ after => after = board) board := by
  refine meets_bind (quiet_ends powered (poll_power_good busID 10)) fun good after polled => ?_
  rw [polled.2]
  split_ifs
  · rfl
  · refine meets_bind (fem_8k_off powered) fun _ off cut => ?_
    exact ⟨.inl cut.1.self, fun _ => cut.1.self, fun _ _ same => Error.noConfusion same⟩

theorem get_module_version {before board : Board} (same : Same before board) (busID : Nat) :
    Meets (getModuleVersion busID) (Quiet (fun _ after => after = board) before) board := by
  have probed : Meets (give (.probeMux busID))
      (Ending Board (fun _ after => after = board) fun _ after => after = board) board :=
    meets_command (.probeMux busID) trivial rfl rfl fun _ => rfl
  have tried : Meets (give (.probeMux busID)).attempt (Ending Board
      (Ending Board (fun _ after => after = board) fun _ after => after = board)
      fun error after => Same before after ∧ error = .hardware) board := meets_attempt probed
  refine meets_bind tried fun result after stayed => ?_
  cases (result : Except Error Unit) with
  | error error => exact ⟨(stayed : after = board) ▸ same, stayed⟩
  | ok value => exact ⟨(stayed : after = board) ▸ same, stayed⟩

theorem unconnected_reached {busID : Nat} {board : Board} (rail : Rail)
    (unconnected : ¬ ((board.sensed busID).map portReading).any (fun r => r.gnd < 0.1) = true) :
    Reached busID rail board := by
  have none : ((board.sensed busID).map portReading).filter (fun r => r.gnd < 0.1) = [] := by
    rw [List.filter_eq_nil_iff]
    exact fun r member connected => unconnected (List.any_eq_true.mpr ⟨r, member, connected⟩)
  unfold Reached readingConnected
  rw [none]
  split_ifs <;> simp

theorem detect_active_bus {before board : Board} (testIDs : List Nat) (distinct : testIDs.Nodup)
    (same : Same before board) :
    Meets (detectActiveBus testIDs) (Quiet (fun buses after =>
      (buses.map Prod.fst).Sublist testIDs ∧
      (∀ busID ∈ testIDs, busID ∉ buses.map Prod.fst → Reached busID .vdd1 after) ∧
      ∀ other ∉ testIDs, after.sensed other = board.sensed other) before) board := by
  induction testIDs generalizing board with
  | nil => exact ⟨same, List.Sublist.refl _, fun _ no => absurd no List.not_mem_nil, fun _ _ => rfl⟩
  | cons testID rest ih =>
      obtain ⟨unlike, distinct'⟩ := List.nodup_cons.mp distinct
      refine meets_bind (read_sense same testID) fun reading sensed read => ?_
      obtain ⟨same', counts, _, others⟩ := read
      have kept (after : Board) (later : ∀ other ∉ rest, after.sensed other = sensed.sensed other)
          (other : Nat) (outside : other ∉ testID :: rest) :
          after.sensed other = board.sensed other := by
        have apart := List.ne_of_not_mem_cons outside
        have outside' := List.not_mem_of_not_mem_cons outside
        exact (later other outside').trans (others other apart)
      split_ifs with connected
      · refine meets_bind (get_module_version same' testID) fun version known found => ?_
        rw [found.2]
        refine meets_bind (ih distinct' same') fun buses after detected => ?_
        obtain ⟨same'', sublist, reached, later⟩ := detected
        refine ⟨same'', sublist.cons_cons testID, fun busID member outside => ?_, kept after later⟩
        have apart := List.ne_of_not_mem_cons outside
        have outside' := List.not_mem_of_not_mem_cons outside
        exact reached busID ((List.mem_cons.mp member).resolve_left apart) outside'
      · refine meets_mono (ih distinct' same') (fun buses after detected => ?_)
          fun _ _ broken => broken
        obtain ⟨same'', sublist, reached, later⟩ := detected
        refine ⟨same'', sublist.cons testID, fun busID member outside => ?_, kept after later⟩
        rcases List.mem_cons.mp member with rfl | inside
        · rw [counts, ← later busID unlike] at connected
          exact unconnected_reached .vdd1 connected
        · exact reached busID inside outside

def switchedOn (powerEn : Nat) : Nat := 0b01 ||| (((powerEn >>> 1) &&& 0b1) <<< 1)

theorem switch_on_safe {board : Board} (powered : Powered board.powerEn)
    (reset : board.registers asicResetReg = 1) :
    Safe board (.writeRegister femPowerEnReg (switchedOn board.powerEn)) := by
  intro _
  have bias : BiasOn (switchedOn board.powerEn) ↔ BiasOn board.powerEn := by
    rcases powered with off | fem | bias <;> simp only [*] <;> decide
  have fem : FemOn (switchedOn board.powerEn) := by
    rcases powered with off | fem | bias <;> simp only [*] <;> decide
  refine ⟨?_, fun on off => absurd (bias.mpr on) off, fun _ off => absurd fem off, fun _ _ => reset⟩
  rcases powered with off | fem | bias <;> simp only [*] <;> decide

theorem set_baselines (buses : List (Nat × ModuleVersion)) (board : Board) :
    Meets (Program.forEach buses setBaseline)
      (Quiet (fun _ after => after.sensed = board.sensed) board) board := by
  have loop : Meets (Program.forEach buses setBaseline)
      (Ending Board (fun _ after => Same board after ∧ after.sensed = board.sensed)
        fun error after => Same board after ∧ error = .hardware) board :=
    meets_forEach buses (fun bus _ state kept =>
      meets_mono (set_all_dacs kept.1 bus.1 bus.2 (baseline_inRange .vdd1 bus.2)
        (baseline_inRange .vdd2 bus.2) (baseline_inRange .vdd3 bus.2))
        (fun _ _ set => ⟨set.1, set.2.trans kept.2⟩) fun _ _ broken => broken)
      ⟨Same.refl board, rfl⟩
  exact loop

section On
variable {board : Board} (powered : Powered board.powerEn)
include powered

theorem switch_on (reset : board.registers asicResetReg = 1) :
    Meets (give (.writeRegister femPowerEnReg (switchedOn board.powerEn))) (Ends fun _ after =>
      Written femPowerEnReg (switchedOn board.powerEn) board after ∧ Powered after.powerEn ∧
        after.sensed = board.sensed) board := by
  have allowed := switch_on_safe powered reset
  refine meets_mono (write_power_en powered allowed) (fun _ after written => ?_)
    fun _ _ failed => failed
  have power : after.powerEn = switchedOn board.powerEn := written.1.self
  exact ⟨written.1, power ▸ (allowed rfl).1, written.2.2⟩

theorem chk_power_good_original : Meets chkPowerGoodOriginal
    (Ends fun _ after => after = board) board := by
  have read : Meets chkPowerGoodOriginal (Quiet (fun _ after => after = board) board) board :=
    meets_bind (read_power_fb (Same.refl board)) fun _ _ read => read
  exact meets_mono (quiet_ends powered read) (fun _ _ holds => holds.2) fun _ _ failed => failed

theorem fem_original_on (reset : board.registers asicResetReg = 1) :
    Meets setFemPowerOriginalOn (Ends fun _ after =>
      Written femPowerEnReg (switchedOn board.powerEn) board after) board := by
  have status := power_status powered fun powerEn => (powerEn >>> 1) &&& 0b1
  refine meets_bind status fun biasEn after read => ?_
  rw [read.2.1, read.2.2]
  refine meets_bind (switch_on powered reset) fun _ on written => ?_
  refine meets_bind (chk_power_good_original written.2.1) fun good after checked => ?_
  rw [checked]
  split_ifs
  · exact written.1
  · refine meets_bind (fem_power_off written.2.1) fun _ off cut => ?_
    exact ⟨.inl cut.1, fun _ => cut.1, fun _ _ same => Error.noConfusion same⟩

theorem chk_all_power_good (buses : List (Nat × ModuleVersion)) :
    Meets (Program.forEach buses fun bus => chkPowerGood bus.1)
      (Ends fun _ after => after = board) board := by
  refine meets_forEach buses (fun bus _ state stayed => ?_) rfl
  rw [stayed]
  exact chk_power_good powered bus.1

/-- The 1.35 V of every port that is connected to a bus. -/
def RampedUp (board : Board) : Prop := ∀ busID ∈ [1, 2, 3, 4], Reached busID .vdd1 board

theorem fem_8k_on (reset : board.registers asicResetReg = 1) :
    Meets setFemPower8kOn (Ends fun _ after =>
      Written femPowerEnReg (switchedOn board.powerEn) board after ∧ RampedUp after) board := by
  refine meets_bind (quiet_ends powered (detect_active_bus [1, 2, 3, 4] (by decide)
    (Same.refl board))) fun buses detected found => ?_
  obtain ⟨same, sublist, unconnected, _⟩ := found
  have powered' := same.power powered
  refine meets_bind (quiet_ends powered' (set_baselines buses detected)) fun _ based set => ?_
  obtain ⟨same', sensed⟩ := set
  have same2 := same.trans same'
  have power : based.powerEn = board.powerEn := congrFun same2.1 _
  refine meets_bind (power_status (same2.power powered) fun powerEn => (powerEn >>> 1) &&& 0b1)
    fun biasEn after read => ?_
  rw [read.2.1, read.2.2]
  refine meets_bind (switch_on (same2.power powered) ((congrFun same2.1 _).trans reset))
    fun _ on written => ?_
  refine meets_bind (chk_all_power_good written.2.1 buses) fun _ checked stayed => ?_
  rw [stayed]
  have distinct : (buses.map Prod.fst).Nodup := sublist.nodup (by decide)
  refine meets_bind (ramp_up_buses buses distinct written.2.1) fun _ ramped ramps => ?_
  obtain ⟨same3, reached, others⟩ := ramps
  refine meets_mono (chk_all_power_good (same3.power written.2.1) buses) (fun _ final stayed => ?_)
    fun _ _ failed => failed
  rw [stayed]
  refine ⟨written_same (same_written same2.1 (power ▸ written.1)) same3, fun busID inside => ?_⟩
  by_cases active : busID ∈ buses.map Prod.fst
  · obtain ⟨bus, member, rfl⟩ := List.mem_map.mp active
    exact reached bus member
  · -- The readings of the other buses are those of the detection.
    have kept : ramped.sensed busID = detected.sensed busID :=
      (others busID active).trans ((congrFun written.2.2 busID).trans (congrFun sensed busID))
    unfold Reached
    rw [kept]
    exact unconnected busID inside active

theorem module_power_on (basePcb : Nat) (reset : board.registers asicResetReg = 1) :
    Meets (setModulePowerOn basePcb) (Ends fun _ after =>
      Written femPowerEnReg (switchedOn board.powerEn) board after ∧
        (basePcb = 0x0005 → RampedUp after)) board := by
  unfold setModulePowerOn
  split_ifs with pcb
  · exact meets_mono (fem_8k_on powered reset) (fun _ _ on => ⟨on.1, fun _ => on.2⟩)
      fun _ _ failed => failed
  · exact meets_mono (fem_original_on powered reset) (fun _ _ on => ⟨on, fun no => absurd no pcb⟩)
      fun _ _ failed => failed

omit powered in
theorem switched_on_powered (powered : Powered board.powerEn) :
    Powered (switchedOn board.powerEn) ∧ FemOn (switchedOn board.powerEn) := by
  rcases powered with off | fem | bias <;> simp only [*] <;> decide

/-- The modules are on, out of reset, and bias is as it was. -/
structure PoweredOn (board after : Board) : Prop where
  power : after.powerEn = switchedOn board.powerEn
  reset : after.registers asicResetReg = 0
  ramped : board.registers basePcbReg = 0x0005 → RampedUp after

theorem fem_power_on : Meets setFemPowerOn (Ends fun _ => PoweredOn board) board := by
  refine meets_bind (base_pcb powered) fun basePcb after read => ?_
  rw [read.1, read.2]
  refine meets_bind (write_asic_reset powered 0b1) fun _ resetting reset => ?_
  have same : resetting.powerEn = board.powerEn := reset.1.other (by decide)
  refine meets_bind (module_power_on (same ▸ powered) _ reset.1.self) fun _ on switched => ?_
  have power : on.powerEn = switchedOn board.powerEn := switched.1.self.trans (congrArg _ same)
  have powered' : Powered on.powerEn := power ▸ (switched_on_powered powered).1
  refine meets_bind (write_asic_reset powered' 0b0) fun _ done released => ?_
  have power' : done.powerEn = on.powerEn := released.1.other (by decide)
  have legacy := quiet_ends (power' ▸ powered') (legacy_fem_mode (Same.refl done))
  refine meets_mono legacy (fun _ final stayed => ?_) fun _ _ failed => failed
  rw [stayed.2]
  refine ⟨power'.trans power, released.1.self, fun pcb busID inside => ?_⟩
  have reached := switched.2 pcb busID inside
  unfold Reached at reached ⊢
  rwa [released.2.2]

end On

/-! The cache of the bias DACs -/

/-- The cache holds what the DACs hold, a missing entry stands for 0. -/
def BiasDacs.Known (hv : BiasDacs) : Prop :=
  ∀ channel ∈ hv.activeChannels, hv.settings channel = (hv.cache channel).getD 0

/-- A command that fails has not reached the board. -/
def Brought.Clean (brought : Brought) : Prop := brought.fails = true → brought.reached = false

instance (brought : Brought) : Decidable brought.Clean := inferInstanceAs (Decidable (_ → _))

/-- A call, with what is brought to it. -/
inductive Call where
  | setFemPower (on : Bool)
  | setBiasPower (on : Bool)
  | setHvdacConfig (config : Nat → Option Int) (forceAccess : Bool)

def setFemPower (on : Bool) : Script Unit := if on then setFemPowerOn else setFemPowerOff

def setBiasPower (on : Bool) : Script Unit := if on then setBiasPowerOn else setBiasPowerOff

def Call.script : Call → Script Unit
  | .setFemPower on => PowerControl.setFemPower on
  | .setBiasPower on => PowerControl.setBiasPower on
  | .setHvdacConfig config forceAccess => PowerControl.setHvdacConfig config forceAccess

inductive Action where
  | call (call : Call) (brings : Nat → Brought)
  /-- A new `Connection`, with an empty cache. -/
  | connect

def step (board : Board) : Action → Option Board
  | .call call brings => some (call.script.run machine brings board).2
  | .connect => some { board with hv := { board.hv with cache := fun _ => none } }

/-- The commands of a call are safe, and an exception of the power leaves the board off. -/
def CallSafe (board : Board) : Action → Prop
  | .call call brings => call.script.Kept machine Safe brings board ∧
      ∀ error, (call.script.run machine brings board).1 = .error error →
        Failed error (call.script.run machine brings board).2
  | .connect => True

/-- No command fails behind its effect, and a connection begins with its DACs at 0. -/
def Orderly (board : Board) : Action → Prop
  | .call _ brings => ∀ n, (brings n).Clean
  | .connect => ∀ channel ∈ board.hv.activeChannels, board.hv.settings channel = 0

def samplePort : PortCounts := ⟨2400, 2800, 2400, 0⟩

def sampleBrought (fails : Bool) : Brought :=
  { fails := fails, reached := false, powerFb := 0b1100, powerGood := (0xF, 0xF, 0xF),
    timeLeft := true, counts := [samplePort, samplePort, samplePort, samplePort] }

def sampleBoard : Board :=
  { registers := Function.update (fun _ => 0) basePcbReg 0x0005, rails := fun _ _ => 0,
    hv := ⟨[0, 1], fun _ => 0, fun _ => none⟩, sensed := fun _ => [] }

/-- If the power comes on, the modules are out of reset, bias is as it was, and 1.35 V is
above its target on every port that the last reading of a bus found connected. The ramp of
VDD2 cannot fail, and so need not come to its target. -/
theorem power_on_returns (board after : Board) (powered : Powered board.powerEn)
    (brings : Nat → Brought) (result : Except Error Unit)
    (ran : (setFemPower true).run machine brings board = (result, after)) :
    (result = .ok () →
      after.powerEn = switchedOn board.powerEn ∧ after.registers asicResetReg = 0 ∧
        (board.registers basePcbReg = 0x0005 → ∀ busID ∈ [1, 2, 3, 4],
          ∀ reading ∈ (after.sensed busID).map portReading, reading.gnd < 0.1 →
            1.35 < reading.v1V35 - reading.gnd)) ∧
    (result = .error .powerGood → after.powerEn = 0) ∧
    ∀ busID rail, result = .error (.dacMaximumReached busID rail) →
      after.powerEn = 0 ∧ rail ≠ .vdd2 := by
  have ends : Ends (fun _ => PoweredOn board) result after := by
    have whole := (meets_run (fem_power_on powered) brings).1
    change (setFemPowerOn.run machine brings board) = (result, after) at ran
    rwa [ran] at whole
  refine ⟨?_, ?_, ?_⟩
  · rintro rfl
    obtain ⟨power, reset, ramped⟩ := ends
    refine ⟨power, reset, fun pcb busID inside reading member grounded => ?_⟩
    refine ramped pcb busID inside _ (List.mem_map.mpr ⟨reading, ?_, rfl⟩)
    exact List.mem_filter.mpr ⟨member, decide_eq_true grounded⟩
  · rintro rfl
    exact ends.powerGood rfl
  · rintro busID rail rfl
    exact ends.dacMaximum busID rail rfl

theorem power_on_returns_sample : ∃ after : Board,
    after.powerEn = switchedOn sampleBoard.powerEn ∧ after.registers asicResetReg = 0 ∧
      ∀ reading ∈ (after.sensed 3).map portReading, reading.gnd < 0.1 →
        1.35 < reading.v1V35 - reading.gnd := by
  have returned := (power_on_returns sampleBoard _ (.inl rfl) (fun _ => sampleBrought false) _
    rfl).1 (by decide +kernel)
  exact ⟨_, returned.1, returned.2.1, returned.2.2 (by decide +kernel) 3 (by decide)⟩

end GramsTof.PowerControl
