import Mathlib.Tactic

/-!
The command codes of `GRAMS_TOF_CommandDefs.h` and the bridge to the codes of
the hub in `CommunicationCodes.hh`. A `CommunicationCodes` value is kept as its
16-bit number, since `static_cast` builds one from any number off the wire.
-/

namespace GramsTof.CommandDefs

inductive TOFCommandCode where
  | startDAQ
  | stopDAQ
  | resetDAQ
  | runInitSystem
  | runMakeBiasCalibTable
  | runMakeSimpleBiasSetTable
  | runMakeSimpleChannelMap
  | runMakeSimpleDiscSetTable
  | runReadTemperatureSensors
  | runAcquireThresholdCalibration
  | runAcquireTDCCalibration
  | runAcquireQDCCalibration
  | runAcquireSiPMData
  | runAcquireThresholdCalibrationBN
  | runAcquireThresholdCalibrationD
  | runProcessThresholdCalibration
  | runProcessTDCCalibration
  | runProcessQDCCalibration
  | runConvertRawToRaw
  | runConvertRawToSingles
  | ack
  | callback
  | status
  | dummyTest
  | heartBeat
  | unknown
  deriving DecidableEq, Repr

def TOFCommandCode.value : TOFCommandCode → UInt16
  | .startDAQ => 0x5000
  | .stopDAQ => 0x5001
  | .resetDAQ => 0x5002
  | .runInitSystem => 0x5100
  | .runMakeBiasCalibTable => 0x5101
  | .runMakeSimpleBiasSetTable => 0x5102
  | .runMakeSimpleChannelMap => 0x5103
  | .runMakeSimpleDiscSetTable => 0x5104
  | .runReadTemperatureSensors => 0x5105
  | .runAcquireThresholdCalibration => 0x5106
  | .runAcquireTDCCalibration => 0x5107
  | .runAcquireQDCCalibration => 0x5108
  | .runAcquireSiPMData => 0x5109
  | .runAcquireThresholdCalibrationBN => 0x5110
  | .runAcquireThresholdCalibrationD => 0x5111
  | .runProcessThresholdCalibration => 0x5200
  | .runProcessTDCCalibration => 0x5201
  | .runProcessQDCCalibration => 0x5202
  | .runConvertRawToRaw => 0x5203
  | .runConvertRawToSingles => 0x5204
  | .ack => 0x5FFF
  | .callback => 0x5FFE
  | .status => 0x5FFD
  | .dummyTest => 0x5FFC
  | .heartBeat => 0xFFFF
  | .unknown => 0x0000

def comSubsystemTOFMask : UInt16 := 0x5000

def constructCode (code subsystemMask : UInt16) : UInt16 := code + subsystemMask

/-- The `TOF_` enumerators of `CommunicationCodes`, and `COM_HeartBeat`. -/
def tofCode (code : UInt16) : UInt16 := constructCode code comSubsystemTOFMask

def comHeartBeat : UInt16 := 0xFFFF

def toCommCode : TOFCommandCode → UInt16
  | .startDAQ => tofCode 0x0
  | .stopDAQ => tofCode 0x1
  | .resetDAQ => tofCode 0x2
  | .runInitSystem => tofCode 0x100
  | .runMakeBiasCalibTable => tofCode 0x101
  | .runMakeSimpleBiasSetTable => tofCode 0x102
  | .runMakeSimpleChannelMap => tofCode 0x103
  | .runMakeSimpleDiscSetTable => tofCode 0x104
  | .runReadTemperatureSensors => tofCode 0x105
  | .runAcquireThresholdCalibration => tofCode 0x106
  | .runAcquireTDCCalibration => tofCode 0x107
  | .runAcquireQDCCalibration => tofCode 0x108
  | .runAcquireSiPMData => tofCode 0x109
  | .runAcquireThresholdCalibrationBN => tofCode 0x110
  | .runAcquireThresholdCalibrationD => tofCode 0x111
  | .runProcessThresholdCalibration => tofCode 0x200
  | .runProcessTDCCalibration => tofCode 0x201
  | .runProcessQDCCalibration => tofCode 0x202
  | .runConvertRawToRaw => tofCode 0x203
  | .runConvertRawToSingles => tofCode 0x204
  | .ack => tofCode 0xFFF
  | .callback => tofCode 0xFFE
  | .dummyTest => tofCode 0xFFC
  | .heartBeat => comHeartBeat
  -- `default`: STATUS and UNKNOWN both become `TOF_Status`.
  | .status => tofCode 0xFFD
  | .unknown => tofCode 0xFFD

/-- The enumerators `toTOFCommand` has a case for. -/
def bridged : List TOFCommandCode :=
  [.startDAQ, .stopDAQ, .resetDAQ, .runInitSystem, .runMakeBiasCalibTable,
    .runMakeSimpleBiasSetTable, .runMakeSimpleChannelMap, .runMakeSimpleDiscSetTable,
    .runReadTemperatureSensors, .runAcquireThresholdCalibration, .runAcquireTDCCalibration,
    .runAcquireQDCCalibration, .runAcquireSiPMData, .runAcquireThresholdCalibrationBN,
    .runAcquireThresholdCalibrationD, .runProcessThresholdCalibration, .runProcessTDCCalibration,
    .runProcessQDCCalibration, .runConvertRawToRaw, .runConvertRawToSingles, .ack, .callback,
    .dummyTest, .heartBeat]

/-- The switch of `toTOFCommand`: each case label is the code `toCommCode`
gives for the same enumerator. -/
def toTOFCommand (code : UInt16) : TOFCommandCode :=
  (bridged.find? fun command => toCommCode command == code).getD .unknown

theorem to_tof_command_comm (command : TOFCommandCode) (known : command ∈ bridged) :
    toTOFCommand (toCommCode command) = command := by
  revert command
  decide

theorem to_comm_code_value (command : TOFCommandCode) (named : command ≠ .unknown) :
    toCommCode command = command.value := by
  cases command <;> first | rfl | exact absurd rfl named

/-- No other 16-bit number reaches a handler: it is dispatched as UNKNOWN. -/
theorem to_tof_command_unbridged (code : UInt16)
    (unnamed : ∀ command ∈ bridged, toCommCode command ≠ code) : toTOFCommand code = .unknown := by
  have missing : bridged.find? (fun command => toCommCode command == code) = none :=
    List.find?_eq_none.mpr fun command member => by simpa using unnamed command member
  rw [toTOFCommand, missing]
  rfl

end GramsTof.CommandDefs
