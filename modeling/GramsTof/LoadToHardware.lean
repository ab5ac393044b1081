import GramsTof.AsicConfigCache
import GramsTof.AsicFields

/-!
`Config.loadToHardware` as far as the ASICs go: parameters, baselines, thresholds and
the acquisition mode become fields of the registers, on top of what the registers hold.
The tables are given; a row that is too short counts as missing. The bias voltages and
the hardware trigger are left out.
-/

namespace GramsTof.LoadToHardware

open BitFields AsicFields AsicConfigCache

inductive ChannelMode where
  | tot
  | qdc
  deriving DecidableEq, Repr

/-- The argument `qdc_mode`; anything else than the two has each channel looked up. -/
inductive QdcMode where
  | tot
  | qdc
  | mixed
  deriving DecidableEq, Repr

inductive Parameter where
  | globalKey (key : GlobalKey)
  | channelKey (key : ChannelKey)
  deriving DecidableEq, Repr

/-- `(portID, slaveID, chipID, channelID)` -/
abbrev Channel := Asic × Fin 64

variable {Number : Type}

structure Config (Number : Type) where
  loadDiscCalibration : Bool
  loadDiscSettings : Bool
  asicParameterTable : List (Parameter × Int)
  asicChannelBaselineSettingsTable : Channel → Option (Int × Int)
  asicChannelThresholdCalibrationTable : Channel → Option (Number × Number × Number)
  asicChannelThresholdSettingsTable : Channel → Option (Number × Number × Number)
  asicChannelQDCModeTable : Channel → Option ChannelMode

/-- `toInt` is the difference of two floats, made an `int`. -/
structure Numerics (Number : Type) where
  toInt : Number → Number → Int

section Settings
variable (numerics : Numerics Number) (config : Config Number) (qdcMode : QdcMode)
  (channel : Channel)

def baselineSettings : Option (List (ChannelKey × Int)) :=
  (config.asicChannelBaselineSettingsTable channel).map fun (baselineT, baselineE) =>
    [(.baselineT, baselineT), (.baselineE, baselineE)]

/-- `mapAsicChannelThresholdToDAC` for each of the three. -/
def thresholdSettings : Option (List (ChannelKey × Int)) :=
  (config.asicChannelThresholdSettingsTable channel).bind fun (vthT1, vthT2, vthE) =>
    (config.asicChannelThresholdCalibrationTable channel).map fun (zeroT1, zeroT2, zeroE) =>
      [(.vthT1, numerics.toInt zeroT1 vthT1), (.vthT2, numerics.toInt zeroT2 vthT2),
        (.vthE, numerics.toInt zeroE vthE), (.triggerMode1, 0b00)]

def channelQdcMode : Option ChannelMode :=
  match qdcMode with
  | .tot => some .tot
  | .qdc => some .qdc
  | .mixed => config.asicChannelQDCModeTable channel

def modeSettings : ChannelMode → List (ChannelKey × Int)
  | .tot => [(.qdcMode, 0), (.intgEn, 0), (.intgSignalEn, 0)]
  | .qdc => [(.qdcMode, 1), (.intgEn, 1), (.intgSignalEn, 1)]

/-- A turn of the last loop. -/
def acquisitionSettings : Option (List (ChannelKey × Int)) :=
  (if config.loadDiscSettings then thresholdSettings numerics config channel else some []).bind
    fun thresholds => (channelQdcMode config qdcMode channel).map fun mode =>
      thresholds ++ modeSettings mode

end Settings

def setGlobal (subtype : AsicSubtype) (settings : List (GlobalKey × Int)) (ac : AsicConfig) :
    Option AsicConfig :=
  ((globalLayout subtype).setAll settings (ac .globalConfig)).map
    (Function.update ac .globalConfig)

def setChannel (subtype : AsicSubtype) (channelID : Fin 64) (settings : List (ChannelKey × Int))
    (ac : AsicConfig) : Option AsicConfig :=
  ((channelLayout subtype).setAll settings (ac (.channelConfig channelID))).map
    (Function.update ac (.channelConfig channelID))

/-- The loop over the channels of an ASIC; a key that is missing ends it. -/
def setChannels (subtype : AsicSubtype)
    (settings : Fin 64 → Option (List (ChannelKey × Int))) :
    List (Fin 64) → AsicConfig → Option AsicConfig
  | [], ac => some ac
  | channelID :: rest, ac =>
      (settings channelID).bind fun settings' =>
        (setChannel subtype channelID settings' ac).bind (setChannels subtype settings rest)

def applyParameters (subtype : AsicSubtype) : List (Parameter × Int) → AsicConfig → Option AsicConfig
  | [], ac => some ac
  | (.globalKey key, value) :: rest, ac =>
      (setGlobal subtype [(key, value)] ac).bind (applyParameters subtype rest)
  | (.channelKey key, value) :: rest, ac =>
      (setChannels subtype (fun _ => some [(key, value)]) (List.finRange 64) ac).bind
        (applyParameters subtype rest)

section Load
variable (numerics : Numerics Number) (config : Config Number) (qdcMode : QdcMode)

def configureAsic (subtype : AsicSubtype) (asic : Asic) (ac : AsicConfig) : Option AsicConfig :=
  (applyParameters subtype config.asicParameterTable ac).bind fun ac =>
    (if config.loadDiscCalibration then
      setChannels subtype (fun channelID => baselineSettings config (asic, channelID))
        (List.finRange 64) ac
    else some ac).bind fun ac =>
      setChannels subtype
        (fun channelID => acquisitionSettings numerics config qdcMode (asic, channelID))
        (List.finRange 64) ac

def cached (connection : Connection) (asic : Asic) : Option AsicConfig :=
  connection.asicConfigCache.bind fun cache => cache asic

def loadToHardware (subtypes : Asic → AsicSubtype) (connection : Connection)
    (outcomes : List Outcome) : Session :=
  let session := getAsicsConfig false connection outcomes
  match session.raised with
  | some _ => session
  | none =>
      let asicsConfig asic := (cached session.connection asic).bind
        (configureAsic numerics config qdcMode (subtypes asic) asic)
      -- a key that is missing is found before anything is written
      if ∀ asic ∈ session.connection.activeAsics,
          (cached session.connection asic).isSome → (asicsConfig asic).isSome then
        setAsicsConfig asicsConfig false session.connection session.outcomes
      else session.fail .missing

end Load

/-! What the loops do to each register -/

def globalSettings (table : List (Parameter × Int)) : List (GlobalKey × Int) :=
  table.filterMap fun
    | (.globalKey key, value) => some (key, value)
    | _ => none

def parameterSettings (table : List (Parameter × Int)) : List (ChannelKey × Int) :=
  table.filterMap fun
    | (.channelKey key, value) => some (key, value)
    | _ => none

def channelSettings (numerics : Numerics Number) (config : Config Number) (qdcMode : QdcMode)
    (channel : Channel) : Option (List (ChannelKey × Int)) :=
  (if config.loadDiscCalibration then baselineSettings config channel else some []).bind
    fun baselines => (acquisitionSettings numerics config qdcMode channel).map fun acquisition =>
      parameterSettings config.asicParameterTable ++ (baselines ++ acquisition)

section Registers
variable {subtype : AsicSubtype} {ac next : AsicConfig}

theorem set_channel_here (channelID : Fin 64) (settings : List (ChannelKey × Int))
    (done : setChannel subtype channelID settings ac = some next) :
    (channelLayout subtype).setAll settings (ac (.channelConfig channelID)) =
        some (next (.channelConfig channelID)) ∧
      ∀ register, register ≠ .channelConfig channelID → next register = ac register := by
  obtain ⟨bits, set, rfl⟩ := Option.map_eq_some_iff.mp done
  rw [Function.update_self]
  exact ⟨set, fun register other => Function.update_of_ne other _ _⟩

theorem set_global_here (settings : List (GlobalKey × Int))
    (done : setGlobal subtype settings ac = some next) :
    (globalLayout subtype).setAll settings (ac .globalConfig) = some (next .globalConfig) ∧
      ∀ channelID, next (.channelConfig channelID) = ac (.channelConfig channelID) := by
  obtain ⟨bits, set, rfl⟩ := Option.map_eq_some_iff.mp done
  rw [Function.update_self]
  exact ⟨set, fun channelID => Function.update_of_ne (by exact Register.noConfusion) _ _⟩

theorem set_channels_here (settings : Fin 64 → Option (List (ChannelKey × Int)))
    (channels : List (Fin 64)) (distinct : channels.Nodup)
    (done : setChannels subtype settings channels ac = some next) :
    (∀ channelID ∈ channels, ∃ settings', settings channelID = some settings' ∧
        (channelLayout subtype).setAll settings' (ac (.channelConfig channelID)) =
          some (next (.channelConfig channelID))) ∧
      ∀ register, (∀ channelID ∈ channels, register ≠ .channelConfig channelID) →
        next register = ac register := by
  induction channels generalizing ac with
  | nil =>
      cases done
      exact ⟨fun _ member => (by cases member), fun _ _ => rfl⟩
  | cons first rest ih =>
      obtain ⟨apart, distinct'⟩ := List.nodup_cons.mp distinct
      obtain ⟨settings', found, done⟩ := Option.bind_eq_some_iff.mp done
      obtain ⟨middle, set, later⟩ := Option.bind_eq_some_iff.mp done
      obtain ⟨here, others⟩ := set_channel_here first settings' set
      obtain ⟨each, kept⟩ := ih distinct' later
      have first' : next (.channelConfig first) = middle (.channelConfig first) := by
        refine kept _ fun channelID member same => ?_
        cases same
        exact apart member
      constructor
      · intro channelID member
        rcases List.mem_cons.mp member with rfl | among
        · exact ⟨settings', found, by rw [first']; exact here⟩
        · obtain ⟨settings'', found', set'⟩ := each channelID among
          refine ⟨settings'', found', ?_⟩
          rw [← others (.channelConfig channelID) fun same => by cases same; exact apart among]
          exact set'
      · intro register away
        rw [kept register fun channelID member => away channelID (List.mem_cons_of_mem _ member)]
        exact others register (away first List.mem_cons_self)

theorem set_all_channels (settings : Fin 64 → Option (List (ChannelKey × Int)))
    (done : setChannels subtype settings (List.finRange 64) ac = some next) :
    next .globalConfig = ac .globalConfig ∧ ∀ channelID, ∃ settings',
      settings channelID = some settings' ∧
        (channelLayout subtype).setAll settings' (ac (.channelConfig channelID)) =
          some (next (.channelConfig channelID)) := by
  obtain ⟨each, kept⟩ := set_channels_here settings _ (List.nodup_finRange 64) done
  exact ⟨kept .globalConfig fun _ _ same => Register.noConfusion same,
    fun channelID => each channelID (List.mem_finRange channelID)⟩

theorem apply_parameters_here (table : List (Parameter × Int))
    (done : applyParameters subtype table ac = some next) :
    (globalLayout subtype).setAll (globalSettings table) (ac .globalConfig) =
        some (next .globalConfig) ∧
      ∀ channelID, (channelLayout subtype).setAll (parameterSettings table)
        (ac (.channelConfig channelID)) = some (next (.channelConfig channelID)) := by
  induction table generalizing ac with
  | nil =>
      cases done
      exact ⟨rfl, fun _ => rfl⟩
  | cons parameter rest ih =>
      obtain ⟨key | key, value⟩ := parameter
      · obtain ⟨middle, set, later⟩ := Option.bind_eq_some_iff.mp done
        obtain ⟨here, others⟩ := set_global_here [(key, value)] set
        obtain ⟨globals, channels⟩ := ih later
        have both : globalSettings ((.globalKey key, value) :: rest) =
          [(key, value)] ++ globalSettings rest := rfl
        constructor
        · rw [both, Layout.set_all_append, here]
          exact globals
        · intro channelID
          rw [← others channelID]
          exact channels channelID
      · obtain ⟨middle, set, later⟩ := Option.bind_eq_some_iff.mp done
        obtain ⟨kept, each⟩ := set_all_channels _ set
        obtain ⟨globals, channels⟩ := ih later
        have both : parameterSettings ((.channelKey key, value) :: rest) =
          [(key, value)] ++ parameterSettings rest := rfl
        constructor
        · rw [← kept]
          exact globals
        · intro channelID
          obtain ⟨_, ⟨⟩, here⟩ := each channelID
          rw [both, Layout.set_all_append, here]
          exact channels channelID

end Registers

section Asic
variable (numerics : Numerics Number) (config : Config Number) (qdcMode : QdcMode)
  (subtype : AsicSubtype) (asic : Asic) (ac next : AsicConfig)

theorem configure_asic_here
    (done : configureAsic numerics config qdcMode subtype asic ac = some next) :
    (globalLayout subtype).setAll (globalSettings config.asicParameterTable) (ac .globalConfig) =
        some (next .globalConfig) ∧
      ∀ channelID, ∃ settings,
        channelSettings numerics config qdcMode (asic, channelID) = some settings ∧
          (channelLayout subtype).setAll settings (ac (.channelConfig channelID)) =
            some (next (.channelConfig channelID)) := by
  obtain ⟨first, parameters, done⟩ := Option.bind_eq_some_iff.mp done
  obtain ⟨second, baselines, acquisition⟩ := Option.bind_eq_some_iff.mp done
  obtain ⟨globals, channels⟩ := apply_parameters_here _ parameters
  obtain ⟨kept, each⟩ := set_all_channels _ acquisition
  have middle : second .globalConfig = first .globalConfig ∧ ∀ channelID, ∃ settings,
      (if config.loadDiscCalibration then baselineSettings config (asic, channelID) else some []) =
          some settings ∧
        (channelLayout subtype).setAll settings (first (.channelConfig channelID)) =
          some (second (.channelConfig channelID)) := by
    by_cases loads : config.loadDiscCalibration = true
    · rw [if_pos loads] at baselines
      simp only [if_pos loads]
      exact set_all_channels _ baselines
    · rw [if_neg loads] at baselines
      cases baselines
      exact ⟨rfl, fun channelID => ⟨[], if_neg loads, rfl⟩⟩
  refine ⟨?_, fun channelID => ?_⟩
  · rw [kept, middle.1]
    exact globals
  · obtain ⟨baselines', found, set⟩ := middle.2 channelID
    obtain ⟨acquisition', found', set'⟩ := each channelID
    refine ⟨parameterSettings config.asicParameterTable ++ (baselines' ++ acquisition'), ?_, ?_⟩
    · rw [channelSettings, found, Option.bind_some, found']
      rfl
    · rw [Layout.set_all_append, channels channelID, Option.bind_some, Layout.set_all_append, set,
        Option.bind_some, set']

end Asic

/-! What the registers hold in the end -/

section Writes
variable (asicsConfig : Asic → Option AsicConfig) (forceAccess : Bool) (session : Session)

theorem set_register_holds (asic : Asic) (register : Register)
    (coherent : Coherent session.connection) (running : session.raised = none)
    (done : (setRegister asicsConfig forceAccess session (asic, register)).raised = none) :
    ∃ newAC, asicsConfig asic = some newAC ∧
      (setRegister asicsConfig forceAccess session (asic, register)).connection.hardware =
        setContent session.connection.hardware asic register (newAC register) := by
  unfold setRegister at done ⊢
  simp only [running] at done ⊢
  cases found : session.connection.asicConfigCache.bind fun cache => cache asic with
  | none =>
      rw [found] at done
      cases done
  | some cachedAC =>
      obtain ⟨cache, there, placed⟩ := Option.bind_eq_some_iff.mp found
      rw [found] at done
      cases named : asicsConfig asic with
      | none =>
          rw [named] at done
          cases done
      | some newAC =>
          rw [named] at done
          refine ⟨newAC, rfl, ?_⟩
          dsimp only at done ⊢
          split_ifs at done ⊢ with due
          · rcases written : session.write asic register (newAC register) with ⟨_ | error, held, rest⟩
            · rw [write_held session asic register _ held rest written]
              rfl
            · rw [written] at done
              cases done
          · have same : newAC register = cachedAC register := by
              by_contra differ
              exact due (Or.inr differ)
            have holds := coherent.held cache asic cachedAC there placed register _ same.symm
            funext other which
            unfold setContent
            split_ifs with here
            · rw [here.1, here.2]
              exact holds
            · rfl

def Holds (asic : Asic) (register : Register) : Prop :=
  ∃ newAC, asicsConfig asic = some newAC ∧ session.connection.hardware asic register = newAC register

/-- When no exception was raised, every register that was asked for holds what was
asked for. -/
theorem set_registers_hold (places : List (Asic × Register)) (coherent : Coherent session.connection)
    (running : session.raised = none)
    (done : (places.foldl (setRegister asicsConfig forceAccess) session).raised = none)
    (asic : Asic) (register : Register)
    (due : (asic, register) ∈ places ∨ Holds asicsConfig session asic register) :
    Holds asicsConfig (places.foldl (setRegister asicsConfig forceAccess) session) asic register := by
  induction places generalizing session with
  | nil => exact due.resolve_left (by rintro ⟨⟩)
  | cons task rest ih =>
      obtain ⟨asic', register'⟩ := task
      rw [List.foldl_cons] at done ⊢
      -- an exception would have ended the loop
      have running' : (setRegister asicsConfig forceAccess session (asic', register')).raised = none := by
        by_contra raised
        rw [raised_stays_all rest raised] at done
        exact raised done
      have safe : WriteSafe asicsConfig forceAccess session (asic', register') := by
        by_contra stale
        exact unsafe_write_raises (asic', register') running stale running'
      have coherent' := (set_register_coherent_iff (asic', register') coherent running).mpr safe
      obtain ⟨newAC, named, held⟩ :=
        set_register_holds asicsConfig forceAccess session asic' register' coherent running running'
      refine ih _ coherent' running' done ?_
      by_cases here : asic = asic' ∧ register = register'
      · obtain ⟨rfl, rfl⟩ := here
        exact .inr ⟨newAC, named, by rw [held, setContent, if_pos ⟨rfl, rfl⟩]⟩
      · rcases due with member | ⟨oldAC, named', before⟩
        · refine .inl ((List.mem_cons.mp member).resolve_left fun same => here ?_)
          cases same
          exact ⟨rfl, rfl⟩
        · exact .inr ⟨oldAC, named', by rw [held, setContent, if_neg here]; exact before⟩

end Writes

/-- What a field holds after settings: the last of them as far as it fits, or what it
held before. -/
def Settled {Key : Type} [DecidableEq Key] (layout : Layout Key) (settings : List (Key × Int))
    (before after : Bits) : Prop :=
  ∀ key, layout.get key after =
    match lastSetting settings key with
    | none => layout.get key before
    | some value => (layout.places key).map fun places => clamp value places.length

structure AsicSettled (numerics : Numerics Number) (config : Config Number) (qdcMode : QdcMode)
    (subtype : AsicSubtype) (asic : Asic) (before after : AsicConfig) : Prop where
  globals : Settled (globalLayout subtype) (globalSettings config.asicParameterTable)
    (before .globalConfig) (after .globalConfig)
  channels : ∀ channelID, ∃ settings,
    channelSettings numerics config qdcMode (asic, channelID) = some settings ∧
      Settled (channelLayout subtype) settings (before (.channelConfig channelID))
        (after (.channelConfig channelID))

section Load
variable (numerics : Numerics Number) (config : Config Number) (qdcMode : QdcMode)

theorem configured_settled (subtype : AsicSubtype) (asic : Asic) (ac next : AsicConfig)
    (whole : ∀ register, (ac register).length = register.dataLength)
    (done : configureAsic numerics config qdcMode subtype asic ac = some next) :
    AsicSettled numerics config qdcMode subtype asic ac next := by
  obtain ⟨globals, channels⟩ := configure_asic_here numerics config qdcMode subtype asic ac next done
  refine ⟨Layout.get_set_all _ (whole .globalConfig) globals, fun channelID => ?_⟩
  obtain ⟨settings, found, set⟩ := channels channelID
  exact ⟨settings, found, Layout.get_set_all settings (whole (.channelConfig channelID)) set⟩

theorem read_asic_hardware (session : Session) (asic : Asic) :
    (readAsic session asic).connection.hardware = session.connection.hardware ∧
      (readAsic session asic).connection.activeAsics = session.connection.activeAsics := by
  have same := read_registers_connection asic registers session
  unfold readAsic
  dsimp only
  split
  · rw [same]
    exact ⟨rfl, rfl⟩
  · rw [same]
    exact ⟨rfl, rfl⟩

theorem read_asics_hardware (asics : List Asic) (session : Session) :
    (asics.foldl readAsic session).connection.hardware = session.connection.hardware ∧
      (asics.foldl readAsic session).connection.activeAsics = session.connection.activeAsics := by
  induction asics generalizing session with
  | nil => exact ⟨rfl, rfl⟩
  | cons asic rest ih =>
      obtain ⟨hardware, active⟩ := read_asic_hardware session asic
      rw [List.foldl_cons, (ih _).1, (ih _).2]
      exact ⟨hardware, active⟩

theorem get_asics_hardware (connection : Connection) (outcomes : List Outcome) :
    (getAsicsConfig false connection outcomes).connection.hardware = connection.hardware ∧
      (getAsicsConfig false connection outcomes).connection.activeAsics =
        connection.activeAsics := by
  unfold getAsicsConfig
  split
  · exact read_asics_hardware _ _
  · exact ⟨rfl, rfl⟩

theorem set_asics_hold (asicsConfig : Asic → Option AsicConfig) (connection : Connection)
    (coherent : Coherent connection) (outcomes : List Outcome)
    (done : (setAsicsConfig asicsConfig false connection outcomes).raised = none)
    (asic : Asic) (active : asic ∈ connection.activeAsics) :
    asicsConfig asic =
      some ((setAsicsConfig asicsConfig false connection outcomes).connection.hardware asic) := by
  unfold setAsicsConfig at done ⊢
  have running : (ensureCache connection outcomes).raised = none := by
    by_contra raised
    rw [raised_stays_all _ raised] at done
    exact raised done
  have holds (register : Register) : Holds asicsConfig
      ((tasks connection.activeAsics).foldl (setRegister asicsConfig false)
        (ensureCache connection outcomes)) asic register := by
    refine set_registers_hold asicsConfig false _ _
      (ensure_cache_coherent connection outcomes coherent) running done asic register (.inl ?_)
    refine List.mem_flatMap.mpr ⟨asic, active, List.mem_map.mpr ⟨register, ?_, rfl⟩⟩
    cases register with
    | globalConfig => exact List.mem_cons_self
    | channelConfig channelID =>
        exact List.mem_cons_of_mem _ (List.mem_map_of_mem (List.mem_finRange channelID))
  obtain ⟨newAC, named, _⟩ := holds .globalConfig
  rw [named]
  refine congrArg some (funext fun register => ?_)
  obtain ⟨again, named', held⟩ := holds register
  rw [named] at named'
  cases named'
  exact held.symm

/-- Once `loadToHardware` returns, every field of every ASIC holds what the tables say
last, as far as it fits, or else what it held before. -/
theorem settings_loaded (subtypes : Asic → AsicSubtype) (connection : Connection)
    (coherent : Coherent connection)
    (whole : ∀ asic register, (connection.hardware asic register).length = register.dataLength)
    (outcomes : List Outcome)
    (done : (loadToHardware numerics config qdcMode subtypes connection outcomes).raised = none)
    (asic : Asic) (active : asic ∈ connection.activeAsics) :
    AsicSettled numerics config qdcMode (subtypes asic) asic (connection.hardware asic)
      ((loadToHardware numerics config qdcMode subtypes connection outcomes).connection.hardware
        asic) := by
  have coherent' := get_asics_config_coherent false connection outcomes coherent
  obtain ⟨hardware, active'⟩ := get_asics_hardware connection outcomes
  unfold loadToHardware at done ⊢
  dsimp only at done ⊢
  split at done
  · rename_i error raised
    rw [raised] at done
    cases done
  · split_ifs at done ⊢ with there
    · have set := set_asics_hold _ _ coherent' _ done asic (active'.symm ▸ active)
      obtain ⟨ac, found, configured⟩ := Option.bind_eq_some_iff.mp set
      obtain ⟨cache, made, placed⟩ := Option.bind_eq_some_iff.mp found
      have same : ac = connection.hardware asic := by
        funext register
        rw [← hardware]
        exact (coherent'.held cache asic ac made placed register _ rfl).symm
      rw [same] at configured
      exact configured_settled numerics config qdcMode (subtypes asic) asic _ _ (whole asic) configured
    · cases done

end Load

/-- A link mode that does not fit its field, thresholds for channel 5 alone, and
channel 7 in QDC mode. -/
def sampleConfig : Config Int :=
  { loadDiscCalibration := true
    loadDiscSettings := true
    asicParameterTable := [(.globalKey .txMode, 9)]
    asicChannelBaselineSettingsTable := fun _ => some (0, -1)
    asicChannelThresholdCalibrationTable := fun _ => some (60, 50, 40)
    asicChannelThresholdSettingsTable := fun channel =>
      if channel.2.val = 5 then some (20, 20, 20) else some (60, 50, 40)
    asicChannelQDCModeTable := fun channel => some (if channel.2.val = 7 then .qdc else .tot) }

def sampleNumerics : Numerics Int := ⟨fun zero threshold => zero - threshold⟩

def sampleConnection : Connection := connected [(0, 0, 0)] fun _ => uniform false

def channelSample (channelID : Fin 64) (settings : List (ChannelKey × Int)) : Bits :=
  ((channelLayout .tofpet2c).setAll settings (uniform false (.channelConfig channelID))).getD []

/-- The cache is made; the global configuration and two of the channels are
written, each of which is read back. -/
def sampleOutcomes : List Outcome :=
  List.replicate 65 ⟨[], answeredWell⟩ ++
    [((globalLayout .tofpet2c).set .txMode 9 (uniform false .globalConfig)).getD [],
      channelSample ⟨5, Nat.le_of_ble_eq_true rfl⟩ [(.vthT1, 40), (.vthT2, 30), (.vthE, 20)],
      channelSample ⟨7, Nat.le_of_ble_eq_true rfl⟩
        [(.qdcMode, 1), (.intgEn, 1), (.intgSignalEn, 1)]].flatMap
        fun held => List.replicate 2 ⟨held, answeredWell⟩

theorem settings_loaded_sample :
    (loadToHardware sampleNumerics sampleConfig .mixed (fun _ => .tofpet2c) sampleConnection
      sampleOutcomes).raised = none ∧
    AsicSettled sampleNumerics sampleConfig .mixed .tofpet2c (0, 0, 0)
      (sampleConnection.hardware (0, 0, 0))
      ((loadToHardware sampleNumerics sampleConfig .mixed (fun _ => .tofpet2c) sampleConnection
        sampleOutcomes).connection.hardware (0, 0, 0)) := by
  have done : (loadToHardware sampleNumerics sampleConfig .mixed (fun _ => .tofpet2c)
      sampleConnection sampleOutcomes).raised = none := by decide +kernel
  refine ⟨done, settings_loaded sampleNumerics sampleConfig .mixed (fun _ => .tofpet2c)
    sampleConnection ⟨fun _ _ _ none => ?_, fun _ member => ?_⟩
    (fun _ register => List.length_replicate ..) sampleOutcomes done (0, 0, 0) List.mem_cons_self⟩
  · cases none
  · cases member

end GramsTof.LoadToHardware
