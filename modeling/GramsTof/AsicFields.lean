import GramsTof.BitFields

/-!
The fields of `AsicGlobalConfig` and `AsicChannelConfig` in `tofpet2b` and `tofpet2c`,
with the order of their bits, and `setValue` and `getValue`. The initial values and what
is printed are left out.
-/

namespace GramsTof.AsicFields

open BitFields

/-- `getAsicSubtype` -/
inductive AsicSubtype where
  | tofpet2b
  | tofpet2c
  deriving DecidableEq, Repr

inductive GlobalKey where
  | txNlinks | txDdr | txMode | debugMode | vetoMode | tdcClkDiv | rClkEn | stopRampEn
  | counterEn | counterPeriod | tacRefreshEn | tacRefreshPeriod | dataClkDiv | unused1
  | fetpEnable | inputPolarity | attenuatorLs | vRefDiffBiasIg | vCalRefIg | fePostampT
  | fePostampE | vCalTpTop | vCalDiffBiasIg | vAttDiffBiasIg | vIntegRefIg | imirrorBiasTop
  | tdcCompBias | tdcILsb | discLsbT1 | feIb2 | vdifffoldcas | discVcas | discLsbE | tdcIRef
  | tdcCompVcas | mainGlobalDac | feIb1 | discIb | discLsbT2 | tdcTacVcasP | tdcTacVcasN
  | adebugOutMode | tdcGlobalDac | adebugBuffer | discSfBias
  deriving DecidableEq, Repr

inductive ChannelKey where
  | triggerMode1 | debugMode | syncChainLength | deadTime | counterMode | tacMaxAge | tacMinAge
  | triggerMode2T | triggerMode2E | triggerMode2Q | triggerMode2B | branchEnEq | branchEnT
  | qdcMode | triggerBLatched | minIntgTime | maxIntgTime | outputEn | qtx2En | baselineT
  | vthT1 | vthT2 | vthE | baselineE | feDelay | postampGainT | postampGainE | postampShE
  | intgEn | intgSignalEn | att | tdcCurrentT | tdcCurrentE | feTpEn | ch63ObufMsb
  | integSourceSw | t1Hysteresis | t2Hysteresis | eHysteresis | hysteresisEnN
  deriving DecidableEq, Repr

def range (start stop : Nat) : List Nat := List.range' start (stop - start)

def nrange (start stop : Nat) : List Nat := (range start stop).reverse

def feIb2Bits : AsicSubtype → List Nat
  | .tofpet2b => [134] ++ range 104 109
  | .tofpet2c => [134] ++ [176] ++ range 104 109

def sharedFields (subtype : AsicSubtype) : List (GlobalKey × List Nat) :=
  [(.txNlinks, nrange 0 2), (.txDdr, nrange 2 3), (.txMode, nrange 3 5), (.debugMode, nrange 5 6),
    (.vetoMode, nrange 6 12), (.tdcClkDiv, nrange 12 13),
    -- bits 16 and 17 are ignored
    (.rClkEn, nrange 13 16), (.stopRampEn, nrange 18 20), (.counterEn, nrange 20 21),
    (.counterPeriod, nrange 21 24), (.tacRefreshEn, nrange 24 25),
    (.tacRefreshPeriod, nrange 25 29), (.dataClkDiv, nrange 29 31), (.unused1, range 31 32),
    (.fetpEnable, range 32 33), (.inputPolarity, range 33 34), (.attenuatorLs, range 34 40),
    (.vRefDiffBiasIg, range 40 46), (.vCalRefIg, range 46 51), (.fePostampT, range 51 56),
    (.fePostampE, range 56 61), (.vCalTpTop, range 61 66), (.vCalDiffBiasIg, range 66 71),
    (.vAttDiffBiasIg, range 71 77), (.vIntegRefIg, range 77 83), (.imirrorBiasTop, range 83 88),
    (.tdcCompBias, range 88 93), (.tdcILsb, range 93 98), (.discLsbT1, range 98 104),
    (.feIb2, feIb2Bits subtype),
    (.vdifffoldcas, range 109 115), (.discVcas, range 115 119), (.discLsbE, range 119 125),
    (.tdcIRef, range 125 130), (.tdcCompVcas, range 130 134), (.mainGlobalDac, range 135 140),
    (.feIb1, range 140 146), (.discIb, range 146 152), (.discLsbT2, range 152 158),
    (.tdcTacVcasP, range 158 163), (.tdcTacVcasN, range 163 167), (.adebugOutMode, range 167 169),
    (.tdcGlobalDac, range 169 175), (.discSfBias, range 178 184)]

def globalFields : AsicSubtype → List (GlobalKey × List Nat)
  | .tofpet2b => sharedFields .tofpet2b
  | .tofpet2c => (.adebugBuffer, [175]) :: sharedFields .tofpet2c

def baselineEBits : AsicSubtype → List Nat
  | .tofpet2b => nrange 81 84
  | .tofpet2c => [82, 83, 81]

def integSourceSwBits : AsicSubtype → List Nat
  | .tofpet2b => nrange 111 112
  | .tofpet2c => nrange 111 113

def channelFields (subtype : AsicSubtype) : List (ChannelKey × List Nat) :=
  [(.triggerMode1, nrange 0 2), (.debugMode, nrange 2 4), (.syncChainLength, nrange 4 6),
    (.deadTime, nrange 6 12), (.counterMode, nrange 12 16), (.tacMaxAge, nrange 16 21),
    (.tacMinAge, nrange 21 26), (.triggerMode2T, nrange 26 28), (.triggerMode2E, nrange 28 31),
    (.triggerMode2Q, nrange 31 33), (.triggerMode2B, nrange 33 36), (.branchEnEq, nrange 36 37),
    (.branchEnT, nrange 37 38), (.qdcMode, nrange 38 39), (.triggerBLatched, nrange 39 40),
    (.minIntgTime, nrange 40 47), (.maxIntgTime, nrange 47 54), (.outputEn, nrange 54 56),
    (.qtx2En, nrange 56 57), (.baselineT, nrange 57 63), (.vthT1, nrange 63 69),
    (.vthT2, nrange 69 75), (.vthE, nrange 75 81),
    (.baselineE, baselineEBits subtype),
    (.feDelay, [84, 88, 87, 85, 86]), (.postampGainT, range 89 91), (.postampGainE, range 91 93),
    (.postampShE, nrange 93 95), (.intgEn, nrange 95 96), (.intgSignalEn, nrange 96 97),
    (.att, nrange 97 100), (.tdcCurrentT, nrange 100 104), (.tdcCurrentE, nrange 104 108),
    (.feTpEn, nrange 108 110), (.ch63ObufMsb, nrange 110 111),
    (.integSourceSw, integSourceSwBits subtype),
    (.t1Hysteresis, nrange 115 118), (.t2Hysteresis, nrange 118 121), (.eHysteresis, nrange 121 124),
    (.hysteresisEnN, nrange 124 125)]

/-- The register is sent from the last bit on. -/
def backwards {Key : Type} (last : Nat) (fields : List (Key × List Nat)) : List (Key × List Nat) :=
  fields.map fun field => (field.1, field.2.map fun bit => last - bit)

def globalLayout (subtype : AsicSubtype) : Layout GlobalKey :=
  layoutOf 184 (backwards 183 (globalFields subtype)) (by cases subtype <;> decide +kernel)

def channelLayout (subtype : AsicSubtype) : Layout ChannelKey :=
  layoutOf 125 (backwards 124 (channelFields subtype)) (by cases subtype <;> decide +kernel)

end GramsTof.AsicFields
