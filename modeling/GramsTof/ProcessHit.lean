import GramsTof.ConfigTables
import GramsTof.RawFrame

/-!
`ProcessHit::handleEvents`. The times and energies it computes are an argument,
and so is the comparison of a number with 0. An access outside of an array, and a
loop index beyond an `int`, end the model.
-/

namespace GramsTof.ProcessHit

open ConfigTables

variable {Number Measured : Type}

structure RawHit where
  valid : Bool
  qdcMode : Bool
  time : Int
  timeEnd : Int
  channelID : Nat
  tfine : Nat
  efine : Nat
  tacID : Nat
  deriving DecidableEq, Repr

/-- The hits of a buffer; `used` is a `size_t`. -/
structure EventBuffer where
  hits : List RawHit
  used : hits.length < 2 ^ 64

/-- A hit that is pushed, so `valid` is set; `measured` is `time`, `timeEnd` and
`energy`. -/
structure Hit (Number Measured : Type) where
  raw : RawHit
  measured : Measured
  region : Int
  xi : Int
  yi : Int
  x : Number
  y : Number
  z : Number
  deriving DecidableEq, Repr

structure Counters where
  nReceived : UInt64
  nReceivedInvalid : UInt64
  nTDCCalibrationMissing : UInt64
  nQDCCalibrationMissing : UInt64
  nEnergyCalibrationMissing : UInt64
  nXYZMissing : UInt64
  nSent : UInt64
  deriving DecidableEq, Repr

/-- `measure` has the entry of a channel unless the hit comes from the trigger. -/
structure Arithmetic (Number Measured : Type) where
  isZero : Number → Bool
  measure : RawHit → Option (ChannelConfig Number) → Measured

/-- The bits of an `int` as a `short`. -/
def toShort (n : Int) : Int := n.bmod (2 ^ 16)

def fromTrigger (triggerID : Int) (raw : RawHit) : Bool :=
  raw.channelID >>> 12 == unsignedOf triggerID

section Handler
variable [Zero Number] (arithmetic : Arithmetic Number Measured) (triggerID : Int)
variable (config : SystemConfig Number)

/-- The calibration of a hit that does not come from the trigger, and what is
written of the channel map. -/
def calibrate (eventFlags : UInt8) (cc : ChannelConfig Number) (tacID : Fin 4) (raw : RawHit) :
    UInt8 × Hit Number Measured :=
  let ct := cc.tac_T tacID
  let ce := cc.tac_E tacID
  let cq := cc.qac_Q tacID
  let cen := cc.eCal tacID
  let eventFlags :=
    if config.hasTDCCalibration && arithmetic.isZero ct.a1 then eventFlags ||| 0x2 else eventFlags
  let eventFlags :=
    if raw.qdcMode = false then
      if config.hasTDCCalibration && arithmetic.isZero ce.a1 then eventFlags ||| 0x2
      else eventFlags
    else if config.hasQDCCalibration then
      let eventFlags := if arithmetic.isZero cq.p1 then eventFlags ||| 0x4 else eventFlags
      if config.hasEnergyCalibration && arithmetic.isZero cen.p0 then eventFlags ||| 0x16
      else eventFlags
    else eventFlags
  let measured := arithmetic.measure raw (some cc)
  if config.hasXYZ then
    (if cc.mapping.triggerRegion = -1 then eventFlags ||| 0x8 else eventFlags,
      { raw := raw
        measured := measured
        region := toShort cc.mapping.triggerRegion
        xi := toShort cc.mapping.xi
        yi := toShort cc.mapping.yi
        x := cc.mapping.x
        y := cc.mapping.y
        z := cc.mapping.z })
  else
    (eventFlags,
      { raw := raw, measured := measured, region := -1, xi := 0, yi := 0, x := 0, y := 0, z := 0 })

def lookup (raw : RawHit) : Option (ChannelConfig Number × Fin 4) :=
  match indexOf raw.channelID with
  | none => none
  | some index =>
      if inside : raw.tacID < 4 then some (config.getChannelConfig index, ⟨raw.tacID, inside⟩)
      else none

def processHit (raw : RawHit) : Option (UInt8 × Hit Number Measured) :=
  let eventFlags : UInt8 := if raw.valid then 0x0 else 0x1
  if fromTrigger triggerID raw then
    some (eventFlags,
      { raw := raw
        measured := arithmetic.measure raw none
        region := -1, xi := 0, yi := 0, x := 0, y := 0, z := 0 })
  else (lookup config raw).map fun (cc, tacID) => calibrate arithmetic config eventFlags cc tacID raw

/-- What the loop has counted, and the hits it has pushed. -/
structure Progress (Number Measured : Type) where
  lReceived : Nat
  lReceivedInvalid : Nat
  lTDCCalibrationMissing : Nat
  lQDCCalibrationMissing : Nat
  lEnergyCalibrationMissing : Nat
  lXYZMissing : Nat
  lSent : Nat
  outBuffer : List (Hit Number Measured)
  deriving DecidableEq, Repr

def start : Progress Number Measured := ⟨0, 0, 0, 0, 0, 0, 0, []⟩

def Progress.count (progress : Progress Number Measured) (eventFlags : UInt8)
    (out : Hit Number Measured) : Progress Number Measured :=
  let add (mask : UInt8) : Nat := if eventFlags &&& mask ≠ 0 then 1 else 0
  { lReceived := progress.lReceived + 1
    lReceivedInvalid := progress.lReceivedInvalid + add 0x1
    lTDCCalibrationMissing := progress.lTDCCalibrationMissing + add 0x2
    lQDCCalibrationMissing := progress.lQDCCalibrationMissing + add 0x4
    lXYZMissing := progress.lXYZMissing + add 0x8
    lEnergyCalibrationMissing := progress.lEnergyCalibrationMissing + add 0x16
    lSent := progress.lSent + if eventFlags = 0 then 1 else 0
    outBuffer := progress.outBuffer ++ if eventFlags = 0 then [out] else [] }

def loopBody (progress : Progress Number Measured) (raw : RawHit) :
    Option (Progress Number Measured) :=
  (processHit arithmetic triggerID config raw).map fun (eventFlags, out) =>
    progress.count eventFlags out

/-- The size of the buffer is cut off to an `unsigned`, and counted through with an
`int`. -/
def handleEvents (counters : Counters) (inBuffer : EventBuffer) :
    Option (Counters × List (Hit Number Measured)) :=
  let n := inBuffer.hits.length % 2 ^ 32
  if 2 ^ 31 ≤ n then none
  else
    ((inBuffer.hits.take n).foldlM (loopBody arithmetic triggerID config) start).map fun progress =>
      ({ nReceived := counters.nReceived + UInt64.ofNat progress.lReceived
         nReceivedInvalid := counters.nReceivedInvalid + UInt64.ofNat progress.lReceivedInvalid
         nTDCCalibrationMissing :=
          counters.nTDCCalibrationMissing + UInt64.ofNat progress.lTDCCalibrationMissing
         nQDCCalibrationMissing :=
          counters.nQDCCalibrationMissing + UInt64.ofNat progress.lQDCCalibrationMissing
         nEnergyCalibrationMissing :=
          counters.nEnergyCalibrationMissing + UInt64.ofNat progress.lEnergyCalibrationMissing
         nXYZMissing := counters.nXYZMissing + UInt64.ofNat progress.lXYZMissing
         nSent := counters.nSent + UInt64.ofNat progress.lSent },
        progress.outBuffer)

end Handler

structure Causes where
  invalid : Bool
  missingTDC : Bool
  missingQDC : Bool
  missingEnergy : Bool
  missingXYZ : Bool
  deriving DecidableEq, Repr

def Causes.none (causes : Causes) : Bool :=
  !(causes.invalid || causes.missingTDC || causes.missingQDC || causes.missingEnergy ||
    causes.missingXYZ)

section Counted
variable (arithmetic : Arithmetic Number Measured) (triggerID : Int)
variable (config : SystemConfig Number)

/-- The coefficients that the hit needs and that are not there. Time over
threshold needs both branches of the TDC; the energy is only calibrated behind
the QDC. -/
def causesOf (raw : RawHit) : Causes :=
  match if fromTrigger triggerID raw then none else lookup config raw with
  | none => ⟨!raw.valid, false, false, false, false⟩
  | some (cc, tacID) =>
      { invalid := !raw.valid
        missingTDC := config.hasTDCCalibration && (arithmetic.isZero (cc.tac_T tacID).a1 ||
          (!raw.qdcMode && arithmetic.isZero (cc.tac_E tacID).a1))
        missingQDC := raw.qdcMode && config.hasQDCCalibration &&
          arithmetic.isZero (cc.qac_Q tacID).p1
        missingEnergy := raw.qdcMode && config.hasQDCCalibration &&
          config.hasEnergyCalibration && arithmetic.isZero (cc.eCal tacID).p0
        missingXYZ := config.hasXYZ && cc.mapping.triggerRegion = -1 }

/-- Each cause is counted where it is there, and the hits without one are sent. -/
structure Counted (hits : List RawHit) (before after : Counters)
    (outBuffer : List (Hit Number Measured)) : Prop where
  received : after.nReceived = before.nReceived + UInt64.ofNat hits.length
  invalid : after.nReceivedInvalid = before.nReceivedInvalid +
    UInt64.ofNat (hits.countP fun raw => (causesOf arithmetic triggerID config raw).invalid)
  tdc : after.nTDCCalibrationMissing = before.nTDCCalibrationMissing +
    UInt64.ofNat (hits.countP fun raw => (causesOf arithmetic triggerID config raw).missingTDC)
  qdc : after.nQDCCalibrationMissing = before.nQDCCalibrationMissing +
    UInt64.ofNat (hits.countP fun raw => (causesOf arithmetic triggerID config raw).missingQDC)
  energy : after.nEnergyCalibrationMissing = before.nEnergyCalibrationMissing +
    UInt64.ofNat
      (hits.countP fun raw => (causesOf arithmetic triggerID config raw).missingEnergy)
  xyz : after.nXYZMissing = before.nXYZMissing +
    UInt64.ofNat (hits.countP fun raw => (causesOf arithmetic triggerID config raw).missingXYZ)
  sent : after.nSent = before.nSent +
    UInt64.ofNat (hits.countP fun raw => (causesOf arithmetic triggerID config raw).none)
  output : outBuffer.map Hit.raw =
    hits.filter fun raw => (causesOf arithmetic triggerID config raw).none

/-- The hit refers to entries that exist. -/
def InBounds (raw : RawHit) : Prop :=
  fromTrigger triggerID raw = true ∨ (lookup config raw).isSome = true

end Counted

theorem reader_inBounds (triggerID : Int) (config : SystemConfig Number) (word : RawFrame.Word)
    (raw : RawHit) (channel : raw.channelID = RawFrame.getChannelID word)
    (tac : raw.tacID = RawFrame.getTacID word) : InBounds triggerID config raw := by
  right
  have channelBelow : raw.channelID < pathMax * 4096 := by
    have bits := word.toNat_lt
    rw [channel, RawFrame.getChannelID, UInt64.toNat_shiftRight, Nat.shiftRight_eq_div_pow]
    unfold pathMax
    have shift : (42 : UInt64).toNat % 64 = 42 := by decide
    rw [shift]
    omega
  have tacBelow : raw.tacID < 4 := by
    rw [tac, RawFrame.getTacID, UInt64.toNat_mod]
    exact Nat.mod_lt _ (by decide)
  obtain ⟨index, inside, _⟩ := indexOf_eq_some raw.channelID channelBelow
  rw [lookup, inside]
  dsimp only
  rw [dif_pos tacBelow]
  rfl

/-! What the loop counts -/

/-- The flags of a hit with these causes. -/
def Causes.flags (causes : Causes) : UInt8 :=
  (if causes.invalid then 0x1 else 0x0) ||| (if causes.missingTDC then 0x2 else 0x0) |||
    (if causes.missingQDC then 0x4 else 0x0) ||| (if causes.missingEnergy then 0x16 else 0x0) |||
      (if causes.missingXYZ then 0x8 else 0x0)

/-- The masks count more than the causes they are for: 0x16 is made of bits of which
two are those of the other calibrations. -/
theorem flags_masks (causes : Causes) :
    (causes.flags &&& 0x1 ≠ 0 ↔ causes.invalid = true) ∧
      (causes.flags &&& 0x2 ≠ 0 ↔ (causes.missingTDC || causes.missingEnergy) = true) ∧
      (causes.flags &&& 0x4 ≠ 0 ↔ (causes.missingQDC || causes.missingEnergy) = true) ∧
      (causes.flags &&& 0x8 ≠ 0 ↔ causes.missingXYZ = true) ∧
      (causes.flags &&& 0x16 ≠ 0 ↔
        (causes.missingTDC || causes.missingQDC || causes.missingEnergy) = true) ∧
      (causes.flags = 0 ↔ causes.none = true) := by
  obtain ⟨invalid, tdc, qdc, energy, xyz⟩ := causes
  revert invalid tdc qdc energy xyz
  decide

section Flags
variable [Zero Number] (arithmetic : Arithmetic Number Measured) (triggerID : Int)
variable (config : SystemConfig Number)

theorem calibrate_raw (eventFlags : UInt8) (cc : ChannelConfig Number) (tacID : Fin 4)
    (raw : RawHit) : (calibrate arithmetic config eventFlags cc tacID raw).2.raw = raw := by
  unfold calibrate
  dsimp only
  cases config.hasXYZ <;> rfl

theorem tot_flags : ∀ valid useTDC ct ce useXYZ region : Bool,
    (let flags : UInt8 := if valid then 0x0 else 0x1
     let flags := if useTDC && ct then flags ||| 0x2 else flags
     let flags := if useTDC && ce then flags ||| 0x2 else flags
     if useXYZ then if region then flags ||| 0x8 else flags else flags) =
      Causes.flags ⟨!valid, useTDC && (ct || ce), false, false, useXYZ && region⟩ := by
  decide

theorem qdc_flags : ∀ valid useTDC ct useQDC cq useEnergy cen useXYZ region : Bool,
    (let flags : UInt8 := if valid then 0x0 else 0x1
     let flags := if useTDC && ct then flags ||| 0x2 else flags
     let flags :=
      if useQDC then
        let flags := if cq then flags ||| 0x4 else flags
        if useEnergy && cen then flags ||| 0x16 else flags
      else flags
     if useXYZ then if region then flags ||| 0x8 else flags else flags) =
      Causes.flags ⟨!valid, useTDC && ct, useQDC && cq, useQDC && useEnergy && cen,
        useXYZ && region⟩ := by
  decide

theorem calibrate_flags (cc : ChannelConfig Number) (tacID : Fin 4) (raw : RawHit)
    (found : lookup config raw = some (cc, tacID)) (channel : fromTrigger triggerID raw = false) :
    (calibrate arithmetic config (if raw.valid then 0x0 else 0x1) cc tacID raw).1 =
      (causesOf arithmetic triggerID config raw).flags := by
  unfold calibrate causesOf
  rw [channel, if_neg Bool.false_ne_true, found]
  dsimp only
  rw [apply_ite Prod.fst]
  cases mode : raw.qdcMode with
  | false =>
      have flags := tot_flags raw.valid config.hasTDCCalibration
        (arithmetic.isZero (cc.tac_T tacID).a1) (arithmetic.isZero (cc.tac_E tacID).a1)
        config.hasXYZ (decide (cc.mapping.triggerRegion = -1))
      simpa using flags
  | true =>
      have flags := qdc_flags raw.valid config.hasTDCCalibration
        (arithmetic.isZero (cc.tac_T tacID).a1) config.hasQDCCalibration
        (arithmetic.isZero (cc.qac_Q tacID).p1) config.hasEnergyCalibration
        (arithmetic.isZero (cc.eCal tacID).p0) config.hasXYZ
        (decide (cc.mapping.triggerRegion = -1))
      simpa using flags

theorem processHit_some (raw : RawHit) (inside : InBounds triggerID config raw) :
    ∃ out : Hit Number Measured, out.raw = raw ∧ processHit arithmetic triggerID config raw =
      some ((causesOf arithmetic triggerID config raw).flags, out) := by
  unfold processHit
  dsimp only
  cases trigger : fromTrigger triggerID raw with
  | true =>
      let out : Hit Number Measured :=
        ⟨raw, arithmetic.measure raw none, -1, 0, 0, 0, 0, 0⟩
      refine ⟨out, rfl, ?_⟩
      have flags : ∀ valid : Bool, (if valid then 0x0 else 0x1 : UInt8) =
          Causes.flags ⟨!valid, false, false, false, false⟩ := by decide
      rw [if_pos rfl, causesOf, trigger, if_pos rfl, flags]
  | false =>
      rcases inside with absurdly | entries
      · rw [trigger] at absurdly
        cases absurdly
      · obtain ⟨⟨cc, tacID⟩, found⟩ := Option.isSome_iff_exists.mp entries
        rw [if_neg Bool.false_ne_true, found, Option.map_some]
        refine ⟨_, calibrate_raw arithmetic config (if raw.valid then 0x0 else 0x1) cc tacID raw, ?_⟩
        rw [← calibrate_flags arithmetic triggerID config cc tacID raw found trigger]

theorem processHit_inBounds (raw : RawHit) (result : UInt8 × Hit Number Measured)
    (done : processHit arithmetic triggerID config raw = some result) :
    InBounds triggerID config raw := by
  unfold processHit at done
  dsimp only at done
  cases trigger : fromTrigger triggerID raw with
  | true => exact Or.inl trigger
  | false =>
      rw [trigger, if_neg Bool.false_ne_true] at done
      obtain ⟨entries, found, _⟩ := Option.map_eq_some_iff.mp done
      exact Or.inr (found ▸ rfl)

end Flags

/-- What the masks count. -/
structure Tally (causes : RawHit → Causes) (hits : List RawHit)
    (progress : Progress Number Measured) : Prop where
  received : progress.lReceived = hits.length
  invalid : progress.lReceivedInvalid = hits.countP fun raw => (causes raw).invalid
  tdc : progress.lTDCCalibrationMissing =
    hits.countP fun raw => (causes raw).missingTDC || (causes raw).missingEnergy
  qdc : progress.lQDCCalibrationMissing =
    hits.countP fun raw => (causes raw).missingQDC || (causes raw).missingEnergy
  energy : progress.lEnergyCalibrationMissing = hits.countP fun raw =>
    (causes raw).missingTDC || (causes raw).missingQDC || (causes raw).missingEnergy
  xyz : progress.lXYZMissing = hits.countP fun raw => (causes raw).missingXYZ
  sent : progress.lSent = hits.countP fun raw => (causes raw).none
  output : progress.outBuffer.map Hit.raw = hits.filter fun raw => (causes raw).none

theorem countP_last (hits : List RawHit) (raw : RawHit) (pred : RawHit → Bool) (seen : Prop)
    [Decidable seen] (same : seen ↔ pred raw = true) :
    hits.countP pred + (if seen then 1 else 0) = (hits ++ [raw]).countP pred := by
  rw [List.countP_append, List.countP_singleton]
  congr 1
  exact if_congr same rfl rfl

theorem count_tally (causes : RawHit → Causes) (hits : List RawHit)
    (progress : Progress Number Measured) (tally : Tally causes hits progress) (raw : RawHit)
    (out : Hit Number Measured) (own : out.raw = raw) :
    Tally causes (hits ++ [raw]) (progress.count (causes raw).flags out) := by
  obtain ⟨one, two, four, eight, sixteen, zero⟩ := flags_masks (causes raw)
  constructor
  · rw [List.length_append, ← tally.received]
    rfl
  · rw [← countP_last _ _ _ _ one, ← tally.invalid]
    rfl
  · rw [← countP_last _ _ _ _ two, ← tally.tdc]
    rfl
  · rw [← countP_last _ _ _ _ four, ← tally.qdc]
    rfl
  · rw [← countP_last _ _ _ _ sixteen, ← tally.energy]
    rfl
  · rw [← countP_last _ _ _ _ eight, ← tally.xyz]
    rfl
  · rw [← countP_last _ _ _ _ zero, ← tally.sent]
    rfl
  · rw [List.filter_append, ← tally.output, Progress.count]
    dsimp only
    rw [List.map_append]
    congr 1
    by_cases sent : (causes raw).flags = 0
    · have kept := zero.mp sent
      rw [if_pos sent, List.filter_singleton, kept, cond_true, List.map_singleton, own]
    · have lost := eq_false_of_ne_true (mt zero.mpr sent)
      rw [if_neg sent, List.filter_singleton, lost, cond_false, List.map_nil]

section Run
variable [Zero Number] (arithmetic : Arithmetic Number Measured) (triggerID : Int)
variable (config : SystemConfig Number)

theorem loop_tally (hits : List RawHit) (inside : ∀ raw ∈ hits, InBounds triggerID config raw) :
    ∃ progress : Progress Number Measured,
      hits.foldlM (loopBody arithmetic triggerID config) start = some progress ∧
        Tally (causesOf arithmetic triggerID config) hits progress := by
  induction hits using List.reverseRecOn with
  | nil => exact ⟨start, rfl, rfl, rfl, rfl, rfl, rfl, rfl, rfl, rfl⟩
  | append_singleton hits raw ih =>
      obtain ⟨progress, ran, tally⟩ :=
        ih fun other member => inside other (List.mem_append_left _ member)
      obtain ⟨out, own, processed⟩ := processHit_some arithmetic triggerID config raw
        (inside raw (List.mem_append_right _ List.mem_cons_self))
      refine ⟨_, ?_, count_tally _ hits progress tally raw out own⟩
      rw [List.foldlM_append, ran, Option.bind_eq_bind, Option.bind_some, List.foldlM_cons, loopBody,
        processed]
      rfl

theorem loop_inBounds (hits : List RawHit) (first last : Progress Number Measured)
    (ran : hits.foldlM (loopBody arithmetic triggerID config) first = some last) :
    ∀ raw ∈ hits, InBounds triggerID config raw := by
  induction hits generalizing first with
  | nil =>
      intro raw member
      cases member
  | cons raw rest ih =>
      rw [List.foldlM_cons] at ran
      obtain ⟨next, body, later⟩ := Option.bind_eq_some_iff.mp ran
      obtain ⟨result, processed, _⟩ := Option.map_eq_some_iff.mp body
      intro other member
      rcases List.mem_cons.mp member with rfl | inRest
      · exact processHit_inBounds arithmetic triggerID config other result processed
      · exact ih next later other inRest

end Run

theorem countP_or_iff (hits : List RawHit) (own other : RawHit → Bool) :
    (hits.countP fun raw => own raw || other raw) = hits.countP own ↔
      ∀ raw ∈ hits, other raw = true → own raw = true := by
  have least (hits : List RawHit) : hits.countP own ≤ hits.countP fun raw => own raw || other raw :=
    List.countP_mono_left fun raw _ counted => by rw [counted, Bool.true_or]
  induction hits with
  | nil => simp
  | cons raw rest ih =>
      have below := least rest
      rw [List.forall_mem_cons, List.countP_cons, List.countP_cons]
      refine Iff.trans ?_ (and_congr_right' ih)
      cases own raw with
      | true => simp
      | false =>
          cases other raw with
          | false => simp
          | true =>
              simp
              omega

theorem ofNat_inj (m n : Nat) (first : m < 2 ^ 64) (second : n < 2 ^ 64) (base : UInt64)
    (same : base + UInt64.ofNat m = base + UInt64.ofNat n) : m = n := by
  have numbers := congrArg UInt64.toNat ((UInt64.add_right_inj base).mp same)
  rwa [UInt64.toNat_ofNat_of_lt' first, UInt64.toNat_ofNat_of_lt' second] at numbers

section Claim
variable [Zero Number] (arithmetic : Arithmetic Number Measured) (triggerID : Int)
variable (config : SystemConfig Number)

/-- A hit without the coefficients of one calibration is without those of all three. -/
def AllOrNone (causes : Causes) : Prop :=
  (causes.missingTDC = true ↔ causes.missingQDC = true) ∧
    (causes.missingQDC = true ↔ causes.missingEnergy = true)

theorem handleEvents_short (before : Counters) (inBuffer : EventBuffer)
    (short : inBuffer.hits.length < 2 ^ 31) (progress : Progress Number Measured)
    (ran : inBuffer.hits.foldlM (loopBody arithmetic triggerID config) start = some progress) :
    handleEvents arithmetic triggerID config before inBuffer = some
      ({ nReceived := before.nReceived + UInt64.ofNat progress.lReceived
         nReceivedInvalid := before.nReceivedInvalid + UInt64.ofNat progress.lReceivedInvalid
         nTDCCalibrationMissing :=
          before.nTDCCalibrationMissing + UInt64.ofNat progress.lTDCCalibrationMissing
         nQDCCalibrationMissing :=
          before.nQDCCalibrationMissing + UInt64.ofNat progress.lQDCCalibrationMissing
         nEnergyCalibrationMissing :=
          before.nEnergyCalibrationMissing + UInt64.ofNat progress.lEnergyCalibrationMissing
         nXYZMissing := before.nXYZMissing + UInt64.ofNat progress.lXYZMissing
         nSent := before.nSent + UInt64.ofNat progress.lSent }, progress.outBuffer) := by
  have whole : inBuffer.hits.length % 2 ^ 32 = inBuffer.hits.length :=
    Nat.mod_eq_of_lt (Nat.lt_trans short (by decide))
  rw [handleEvents, whole, if_neg (Nat.not_le.mpr short), List.take_length, ran]
  rfl

theorem handled_short (before after : Counters) (inBuffer : EventBuffer)
    (outBuffer : List (Hit Number Measured))
    (handled : handleEvents arithmetic triggerID config before inBuffer = some (after, outBuffer))
    (received : after.nReceived = before.nReceived + UInt64.ofNat inBuffer.hits.length) :
    inBuffer.hits.length < 2 ^ 31 ∧ ∀ raw ∈ inBuffer.hits, InBounds triggerID config raw := by
  unfold handleEvents at handled
  dsimp only at handled
  split_ifs at handled with long
  obtain ⟨progress, ran, same⟩ := Option.map_eq_some_iff.mp handled
  have inside := loop_inBounds arithmetic triggerID config _ _ _ ran
  obtain ⟨other, again, tally⟩ := loop_tally arithmetic triggerID config _ inside
  cases ran.symm.trans again
  have count : progress.lReceived = inBuffer.hits.length % 2 ^ 32 := by
    rw [tally.received, List.length_take, Nat.min_eq_left (Nat.mod_le _ _)]
  have all : inBuffer.hits.length % 2 ^ 32 = inBuffer.hits.length := by
    rw [← (congrArg (fun pair => pair.1.nReceived) same), count] at received
    exact ofNat_inj _ _ (Nat.lt_trans (Nat.mod_lt _ (by decide)) (by decide)) inBuffer.used _ received
  rw [all] at long inside
  rw [List.take_length] at inside
  exact ⟨Nat.not_le.mp long, inside⟩

variable (before : Counters) (inBuffer : EventBuffer)

/-- The call returns, and its counters are right. -/
def CountsRight : Prop :=
  ∃ after outBuffer,
    handleEvents arithmetic triggerID config before inBuffer = some (after, outBuffer) ∧
      Counted arithmetic triggerID config inBuffer.hits before after outBuffer

theorem right_only_if : CountsRight arithmetic triggerID config before inBuffer →
    inBuffer.hits.length < 2 ^ 31 ∧ (∀ raw ∈ inBuffer.hits, InBounds triggerID config raw) ∧
      ∀ raw ∈ inBuffer.hits, AllOrNone (causesOf arithmetic triggerID config raw) := by
  have bound (pred : RawHit → Bool) : inBuffer.hits.countP pred < 2 ^ 64 :=
    Nat.lt_of_le_of_lt List.countP_le_length inBuffer.used
  rintro ⟨after, outBuffer, handled, counted⟩
  obtain ⟨short, inside⟩ := handled_short arithmetic triggerID config before after inBuffer
    outBuffer handled counted.received
  obtain ⟨progress, ran, tally⟩ := loop_tally arithmetic triggerID config _ inside
  rw [handleEvents_short arithmetic triggerID config before inBuffer short progress ran] at handled
  cases handled
  have tdc := counted.tdc
  have qdc := counted.qdc
  have energy := counted.energy
  dsimp only at tdc qdc energy
  rw [tally.tdc] at tdc
  rw [tally.qdc] at qdc
  rw [tally.energy] at energy
  have energyTDC := (countP_or_iff _ _ _).mp (ofNat_inj _ _ (bound _) (bound _) _ tdc)
  have energyQDC := (countP_or_iff _ _ _).mp (ofNat_inj _ _ (bound _) (bound _) _ qdc)
  have swapped : (inBuffer.hits.countP fun raw =>
      (causesOf arithmetic triggerID config raw).missingEnergy ||
        ((causesOf arithmetic triggerID config raw).missingTDC ||
          (causesOf arithmetic triggerID config raw).missingQDC)) =
      inBuffer.hits.countP fun raw =>
        (causesOf arithmetic triggerID config raw).missingEnergy := by
    rw [← ofNat_inj _ _ (bound _) (bound _) _ energy]
    congr 1
    funext raw
    exact Bool.or_comm _ _
  have others := (countP_or_iff _ _ _).mp swapped
  refine ⟨short, inside, ?_⟩
  intro raw member
  have toTDC := energyTDC raw member
  have toQDC := energyQDC raw member
  have toEnergy := others raw member
  rw [Bool.or_eq_true] at toEnergy
  exact ⟨⟨fun tdc => toQDC (toEnergy (Or.inl tdc)), fun qdc => toTDC (toEnergy (Or.inr qdc))⟩,
    fun qdc => toEnergy (Or.inr qdc), toQDC⟩

theorem right_if : inBuffer.hits.length < 2 ^ 31 ∧
    (∀ raw ∈ inBuffer.hits, InBounds triggerID config raw) ∧
      (∀ raw ∈ inBuffer.hits, AllOrNone (causesOf arithmetic triggerID config raw)) →
    CountsRight arithmetic triggerID config before inBuffer := by
  rintro ⟨short, inside, together⟩
  obtain ⟨progress, ran, tally⟩ := loop_tally arithmetic triggerID config _ inside
  refine ⟨_, _, handleEvents_short arithmetic triggerID config before inBuffer short progress ran,
    ?_⟩
  have tdc := (countP_or_iff inBuffer.hits
    (fun raw => (causesOf arithmetic triggerID config raw).missingTDC)
    (fun raw => (causesOf arithmetic triggerID config raw).missingEnergy)).mpr
    fun raw member energy => (together raw member).1.mpr ((together raw member).2.mpr energy)
  have qdc := (countP_or_iff inBuffer.hits
    (fun raw => (causesOf arithmetic triggerID config raw).missingQDC)
    (fun raw => (causesOf arithmetic triggerID config raw).missingEnergy)).mpr
    fun raw member energy => (together raw member).2.mpr energy
  have energy : (inBuffer.hits.countP fun raw =>
      (causesOf arithmetic triggerID config raw).missingTDC ||
        (causesOf arithmetic triggerID config raw).missingQDC ||
          (causesOf arithmetic triggerID config raw).missingEnergy) =
      inBuffer.hits.countP fun raw =>
        (causesOf arithmetic triggerID config raw).missingEnergy := by
    apply List.countP_congr
    intro raw member
    obtain ⟨first, second⟩ := together raw member
    rw [Bool.or_eq_true, Bool.or_eq_true, first, second, or_self, or_self]
  constructor
  · exact congrArg (before.nReceived + UInt64.ofNat ·) tally.received
  · exact congrArg (before.nReceivedInvalid + UInt64.ofNat ·) tally.invalid
  · exact congrArg (before.nTDCCalibrationMissing + UInt64.ofNat ·) (tally.tdc.trans tdc)
  · exact congrArg (before.nQDCCalibrationMissing + UInt64.ofNat ·) (tally.qdc.trans qdc)
  · exact congrArg (before.nEnergyCalibrationMissing + UInt64.ofNat ·) (tally.energy.trans energy)
  · exact congrArg (before.nXYZMissing + UInt64.ofNat ·) tally.xyz
  · exact congrArg (before.nSent + UInt64.ofNat ·) tally.sent
  · exact tally.output

/-- The counters are right exactly for buffers an `int` can count through, with hits
whose entries exist, of which none lacks some of the three calibrations only. -/
theorem counts_right_iff : CountsRight arithmetic triggerID config before inBuffer ↔
    inBuffer.hits.length < 2 ^ 31 ∧ (∀ raw ∈ inBuffer.hits, InBounds triggerID config raw) ∧
      ∀ raw ∈ inBuffer.hits, AllOrNone (causesOf arithmetic triggerID config raw) :=
  ⟨right_only_if arithmetic triggerID config before inBuffer,
    right_if arithmetic triggerID config before inBuffer⟩

end Claim

/-- Only the energy calibration is missing. -/
def withoutEnergy : SystemConfig Nat :=
  { (newSystemConfig : SystemConfig Nat) with
    hasTDCCalibration := true
    hasQDCCalibration := true
    hasEnergyCalibration := true
    channelConfig := fun _ => some fun _ =>
      { (nullChannelConfig : ChannelConfig Nat) with
        tac_T := fun _ => ⟨0, 0, 1, 0⟩
        qac_Q := fun _ => ⟨0, 1, 0, 0, 0, 0, 0, 0, 0, 0⟩ } }

def integrated : EventBuffer := ⟨[⟨true, true, 0, 0, 0, 0, 0, 0⟩], by decide⟩

/-- Its hits are also counted as missing the TDC and the QDC calibration. -/
theorem energy_counted_thrice :
    ¬ ∀ (arithmetic : Arithmetic Nat Unit) (triggerID : Int) (config : SystemConfig Nat)
      (before : Counters) (inBuffer : EventBuffer),
      CountsRight arithmetic triggerID config before inBuffer := by
  intro always
  obtain ⟨_, _, together⟩ := right_only_if ⟨(· == 0), fun _ _ => ()⟩ (-1) withoutEnergy
    ⟨0, 0, 0, 0, 0, 0, 0⟩ integrated (always _ _ _ _ _)
  have causes : causesOf (⟨(· == 0), fun _ _ => ()⟩ : Arithmetic Nat Unit) (-1) withoutEnergy
      ⟨true, true, 0, 0, 0, 0, 0, 0⟩ = ⟨false, false, false, true, false⟩ := by decide
  have energy := (together _ List.mem_cons_self).2
  rw [causes] at energy
  cases energy.mpr rfl

end GramsTof.ProcessHit
