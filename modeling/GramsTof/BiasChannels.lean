import GramsTof.TransitionSystem

/-!
The bias voltage channels: `set_hvdac_config` with its cache in `petsys.daqd.Connection`
and `bias.set_channel`, which finds the DAC of a channel. There is no reading back. What
a command brings is an argument. `initializeSystem` is its bias part; the supply of the
`BIAS_32P_AG` boards is left out.
-/

namespace GramsTof.BiasChannels

open TransitionSystem

inductive BiasName where
  | bias64P
  | bias16P
  | bias32P
  | bias32PAG
  | bias32PLTC2439
  deriving DecidableEq, Repr

def getNumberChannels : BiasName → Nat
  | .bias64P => 64
  | .bias16P => 16
  | .bias32P => 32
  | .bias32PAG => 32
  | .bias32PLTC2439 => 32

structure Slot where
  portID : Nat
  slaveID : Nat
  slotID : Nat
  deriving DecidableEq, Repr

structure Channel where
  slot : Slot
  channelID : Nat
  deriving DecidableEq, Repr

structure Address where
  portID : Nat
  slaveID : Nat
  chipID : Nat
  dacChannel : Nat
  deriving DecidableEq, Repr

/-- The chip of a channel, and the channel within it. -/
def dacOf (name : BiasName) (channelID : Nat) : Nat × Nat :=
  match name with
  | .bias64P => (if channelID > 32 then 0x11 else 0x10, channelID % 32)
  | .bias16P => (0x10, channelID)
  | _ => (0x10 + channelID / 16, channelID % 16)

/-- The setting for 1 V. -/
def minDac : BiasName → Int
  | .bias64P => 82
  | .bias16P => 874
  | _ => 1093

/-- What is sent, which are the bits of the DAC. -/
def dacValue (name : BiasName) (value : Int) : Int :=
  match name with
  | .bias64P => max value (minDac name) % 2 ^ 14
  | _ => max value (minDac name) % 2 ^ 16

/-- What the connection has found in the bias slots. -/
structure Boards where
  activeBiasSlots : List Slot
  biasSlotInfo : Slot → BiasName

structure Connection where
  hvdacConfigCache : Channel → Option Int
  dacs : Address → Int

def Connection.holds (connection : Connection) (place : Address) (held : Int) : Connection :=
  { connection with dacs := Function.update connection.dacs place held }

/-- What the commands for one channel bring. A command that raises an exception leaves
something in the DAC; with `biasOff`, `get_bias_power_status` reads 0. -/
inductive Outcome where
  | written
  | biasOff
  | raised (held : Int)
  deriving DecidableEq, Repr

def Outcome.returns : Outcome → Bool
  | .raised _ => false
  | _ => true

structure Session where
  connection : Connection
  outcomes : List Outcome
  raised : Bool

namespace Boards
variable (boards : Boards)

def activeBiasChannels : List Channel :=
  boards.activeBiasSlots.flatMap fun slot =>
    (List.range (getNumberChannels (boards.biasSlotInfo slot))).map fun k => ⟨slot, k⟩

def name (channel : Channel) : BiasName :=
  boards.biasSlotInfo channel.slot

def address (channel : Channel) : Address :=
  { portID := channel.slot.portID
    slaveID := channel.slot.slaveID
    chipID := 0x8000 + 0x100 * channel.slot.slotID +
      (dacOf (boards.name channel) channel.channelID).1
    dacChannel := (dacOf (boards.name channel) channel.channelID).2 }

/-- The two channels of a `BIAS_64P` that have one DAC. -/
def Shared (channel : Channel) : Prop :=
  boards.name channel = .bias64P ∧ (channel.channelID = 0 ∨ channel.channelID = 32)

end Boards

section Commands
variable (boards : Boards)

/-- `bias.set_channel`: what is in the DAC then, and if an exception was raised. -/
def setChannel (connection : Connection) (channel : Channel) (value : Int) (outcome : Outcome) :
    Connection × Bool :=
  let held := dacValue (boards.name channel) value
  match outcome with
  | .raised held => (connection.holds (boards.address channel) held, true)
  | .written => (connection.holds (boards.address channel) held, false)
  | .biasOff =>
      if boards.name channel = .bias16P ∧ value = 0 then (connection, false)
      else (connection.holds (boards.address channel) held, false)

def writeHvChannel (config : Channel → Option Int) (forceAccess : Bool) (session : Session)
    (channel : Channel) : Session :=
  if session.raised then session
  else
    match config channel with
    | none => { session with raised := true }
    | some value =>
        if forceAccess = false ∧ session.connection.hvdacConfigCache channel = some value then
          session
        else
          match session.outcomes with
          | [] => { session with raised := true }
          | outcome :: rest =>
              match setChannel boards session.connection channel value outcome with
              | (connection, true) => ⟨connection, rest, true⟩
              | (connection, false) =>
                  ⟨{ connection with
                      hvdacConfigCache :=
                        Function.update connection.hvdacConfigCache channel (some value) },
                    rest, false⟩

def writeHvChannels (config : Channel → Option Int) (forceAccess : Bool)
    (channels : List Channel) (session : Session) : Session :=
  channels.foldl (writeHvChannel boards config forceAccess) session

/-- A channel that `config` has not is found before anything is written. -/
def setHvdacConfig (config : Channel → Option Int) (forceAccess : Bool) (connection : Connection)
    (outcomes : List Outcome) : Session :=
  if boards.activeBiasChannels.all fun channel => (config channel).isSome then
    writeHvChannels boards config forceAccess boards.activeBiasChannels
      ⟨connection, outcomes, false⟩
  else ⟨connection, outcomes, true⟩

/-- An empty cache is filled with zeros. -/
def getHvdacConfig (connection : Connection) : Connection :=
  if boards.activeBiasChannels.all fun channel =>
      (connection.hvdacConfigCache channel).isNone then
    { connection with hvdacConfigCache := fun channel =>
        if channel ∈ boards.activeBiasChannels then some 0
        else connection.hvdacConfigCache channel }
  else connection

def initializeSystem (connection : Connection) (outcomes : List Outcome) : Session :=
  writeHvChannels boards (fun _ => some 0) true boards.activeBiasChannels
    ⟨connection, outcomes, false⟩

inductive Action where
  | initializeSystem (outcomes : List Outcome)
  | getHvdacConfig
  | setHvdacConfig (config : Channel → Option Int) (forceAccess : Bool) (outcomes : List Outcome)

def Action.outcomes : Action → List Outcome
  | .initializeSystem outcomes => outcomes
  | .getHvdacConfig => []
  | .setHvdacConfig _ _ outcomes => outcomes

def step (connection : Connection) : Action → Option Connection
  | .initializeSystem outcomes => some (initializeSystem boards connection outcomes).connection
  | .getHvdacConfig => some (getHvdacConfig boards connection)
  | .setHvdacConfig config forceAccess outcomes =>
      some (setHvdacConfig boards config forceAccess connection outcomes).connection

end Commands

/-! Addresses -/

section Addresses
variable (boards : Boards)

theorem active_inside (channel : Channel) (active : channel ∈ boards.activeBiasChannels) :
    channel.channelID < getNumberChannels (boards.name channel) := by
  obtain ⟨slot, _, member⟩ := List.mem_flatMap.mp active
  obtain ⟨k, inside, rfl⟩ := List.mem_map.mp member
  exact List.mem_range.mp inside

theorem chip_small (name : BiasName) (channelID : Nat)
    (inside : channelID < getNumberChannels name) : (dacOf name channelID).1 < 0x100 := by
  cases name <;> simp only [getNumberChannels] at inside <;> simp only [dacOf]
  · split_ifs <;> decide
  · decide
  all_goals omega

theorem dac_injective (name : BiasName) (left right : Nat) (inside : left < getNumberChannels name)
    (inside' : right < getNumberChannels name) (same : dacOf name left = dacOf name right) :
    left = right ∨ name = .bias64P ∧ (left = 0 ∧ right = 32 ∨ left = 32 ∧ right = 0) := by
  obtain ⟨chip, within⟩ := Prod.mk.inj same
  cases name <;> simp only [getNumberChannels] at inside inside' <;> dsimp only at chip within
  · have pair : left = right ∨ left = 0 ∧ right = 32 ∨ left = 32 ∧ right = 0 := by
      split_ifs at chip <;> omega
    exact pair.imp_right fun ends => ⟨rfl, ends⟩
  · exact .inl within
  all_goals omega

theorem slot_of_chip {slot slot' : Slot} {chip chip' : Nat} (small : chip < 0x100)
    (small' : chip' < 0x100) (port : slot.portID = slot'.portID)
    (slave : slot.slaveID = slot'.slaveID)
    (chips : 0x8000 + 0x100 * slot.slotID + chip = 0x8000 + 0x100 * slot'.slotID + chip') :
    slot = slot' ∧ chip = chip' := by
  obtain ⟨portID, slaveID, slotID⟩ := slot
  obtain ⟨portID', slaveID', slotID'⟩ := slot'
  dsimp only at port slave chips
  have slotIDs : slotID = slotID' := by omega
  subst port slave slotIDs
  exact ⟨rfl, by omega⟩

theorem address_injective (left right : Channel) (active : left ∈ boards.activeBiasChannels)
    (active' : right ∈ boards.activeBiasChannels)
    (same : boards.address left = boards.address right) :
    left = right ∨ left.slot = right.slot ∧ boards.name left = .bias64P ∧
      (left.channelID = 0 ∧ right.channelID = 32 ∨ left.channelID = 32 ∧ right.channelID = 0) := by
  have inside := active_inside boards left active
  have inside' := active_inside boards right active'
  obtain ⟨slots, chips⟩ := slot_of_chip (chip_small _ _ inside) (chip_small _ _ inside')
    (congrArg Address.portID same) (congrArg Address.slaveID same) (congrArg Address.chipID same)
  obtain ⟨slot, leftID⟩ := left
  obtain ⟨slot', rightID⟩ := right
  dsimp only at slots
  subst slots
  refine (dac_injective _ leftID rightID inside inside'
    (Prod.ext chips (congrArg Address.dacChannel same))).imp ?_ fun ends => ⟨rfl, ends⟩
  rintro rfl
  rfl

/-- The first channel of the second chip of a `BIAS_64P`. -/
def unreached (slot : Slot) : Address :=
  { portID := slot.portID
    slaveID := slot.slaveID
    chipID := 0x8000 + 0x100 * slot.slotID + 0x11
    dacChannel := 0 }

theorem address_not_unreached (slot : Slot) (channel : Channel)
    (active : channel ∈ boards.activeBiasChannels) (name : boards.biasSlotInfo slot = .bias64P) :
    boards.address channel ≠ unreached slot := by
  intro same
  have inside := active_inside boards channel active
  obtain ⟨slots, chip⟩ := slot_of_chip (chip_small _ _ inside) (by decide : 0x11 < 0x100)
    (congrArg Address.portID same) (congrArg Address.slaveID same) (congrArg Address.chipID same)
  have within : (dacOf (boards.name channel) channel.channelID).2 = 0 :=
    congrArg Address.dacChannel same
  rw [Boards.name, slots, name] at inside chip within
  simp only [getNumberChannels, dacOf] at inside chip within
  split_ifs at chip <;> omega

end Addresses

/-! One channel -/

section Writes
variable (boards : Boards) (config : Channel → Option Int) (forceAccess : Bool)

/-- The DAC has the value in the cache. A `BIAS_16P` without power keeps what it has when 0
is asked for. -/
def Held (connection : Connection) (channel : Channel) : Prop :=
  ∀ value, connection.hvdacConfigCache channel = some value →
    (boards.name channel = .bias16P → value ≠ 0) → ¬ boards.Shared channel →
    connection.dacs (boards.address channel) = dacValue (boards.name channel) value

inductive Write (session : Session) (channel : Channel) : Session → Prop
  | kept (raised : Bool)
      (quiet : raised = false → session.raised = false ∧ forceAccess = false ∧
        session.connection.hvdacConfigCache channel = config channel) :
      Write session channel { session with raised := raised }
  | failed (held : Int) (rest : List Outcome) (brought : session.outcomes = .raised held :: rest) :
      Write session channel
        ⟨session.connection.holds (boards.address channel) held, rest, true⟩
  | written (value : Int) (outcome : Outcome) (rest : List Outcome) (dacs : Address → Int)
      (wanted : config channel = some value) (brought : session.outcomes = outcome :: rest)
      (running : session.raised = false)
      (others : ∀ place ≠ boards.address channel, dacs place = session.connection.dacs place)
      (held : (boards.name channel = .bias16P → value ≠ 0) →
        dacs (boards.address channel) = dacValue (boards.name channel) value) :
      Write session channel
        ⟨⟨Function.update session.connection.hvdacConfigCache channel (some value), dacs⟩,
          rest, false⟩

theorem write_cases (session : Session) (channel : Channel) :
    Write boards config forceAccess session channel
      (writeHvChannel boards config forceAccess session channel) := by
  obtain ⟨connection, outcomes, raised⟩ := session
  unfold writeHvChannel
  cases raised with
  | true => exact .kept true (fun running => absurd running (by decide))
  | false =>
      rw [if_neg Bool.false_ne_true]
      cases wanted : config channel with
      | none => exact .kept true (fun running => absurd running (by decide))
      | some value =>
          dsimp only
          split_ifs with cached
          · exact .kept false fun _ => ⟨rfl, cached.1, cached.2.trans wanted.symm⟩
          · cases outcomes with
            | nil => exact .kept true (fun running => absurd running (by decide))
            | cons outcome rest =>
                dsimp only
                cases outcome with
                | raised held => exact .failed held rest rfl
                | written =>
                    exact .written value .written rest _ wanted rfl rfl
                      (fun _ other => Function.update_of_ne other ..)
                      (fun _ => Function.update_self ..)
                | biasOff =>
                    unfold setChannel
                    dsimp only
                    split_ifs with off
                    · exact .written value .biasOff rest _ wanted rfl rfl (fun _ _ => rfl)
                        fun unlike => absurd off.2 (unlike off.1)
                    · exact .written value .biasOff rest _ wanted rfl rfl
                        (fun _ other => Function.update_of_ne other ..)
                        (fun _ => Function.update_self ..)

variable {boards config forceAccess}

theorem write_others {session after : Session} {channel : Channel}
    (wrote : Write boards config forceAccess session channel after) (place : Address)
    (other : place ≠ boards.address channel) :
    after.connection.dacs place = session.connection.dacs place := by
  cases wrote with
  | kept _ _ => rfl
  | failed held rest _ => exact Function.update_of_ne other ..
  | written _ _ _ dacs _ _ _ others _ => exact others place other

theorem write_running {session after : Session} {channel : Channel}
    (wrote : Write boards config forceAccess session channel after)
    (returned : after.raised = false) : session.raised = false := by
  cases wrote with
  | kept _ quiet => exact (quiet returned).1
  | failed _ _ _ => exact absurd returned (by simp)
  | written _ _ _ _ _ _ running _ _ => exact running

theorem write_cached {session after : Session} {channel : Channel}
    (wrote : Write boards config forceAccess session channel after)
    (returned : after.raised = false) :
    after.connection.hvdacConfigCache channel = config channel := by
  cases wrote with
  | kept _ quiet => exact (quiet returned).2.2
  | failed _ _ _ => exact absurd returned (by simp)
  | written value _ _ _ wanted _ _ _ _ => exact (Function.update_self ..).trans wanted.symm

theorem write_cache_others {session after : Session} {channel : Channel}
    (wrote : Write boards config forceAccess session channel after) (other : Channel)
    (unlike : other ≠ channel) :
    after.connection.hvdacConfigCache other = session.connection.hvdacConfigCache other := by
  cases wrote with
  | kept _ _ => rfl
  | failed _ _ _ => rfl
  | written _ _ _ _ _ _ _ _ _ => exact Function.update_of_ne unlike ..

theorem write_cached_stays {session after : Session} {channel : Channel}
    (wrote : Write boards config forceAccess session channel after) (other : Channel)
    (cached : (session.connection.hvdacConfigCache other).isSome = true) :
    (after.connection.hvdacConfigCache other).isSome = true := by
  cases wrote with
  | kept _ _ => exact cached
  | failed _ _ _ => exact cached
  | written _ _ _ _ _ _ _ _ _ =>
      dsimp only
      by_cases same : other = channel
      · rw [same, Function.update_self]
        rfl
      · rw [Function.update_of_ne same]
        exact cached

/-- A write that returns leaves its channel right if it was, or if access is forced. -/
theorem write_held {session after : Session} {channel : Channel}
    (wrote : Write boards config forceAccess session channel after)
    (returned : after.raised = false)
    (before : forceAccess = true ∨ Held boards session.connection channel) :
    Held boards after.connection channel := by
  cases wrote with
  | kept _ quiet =>
      rcases before with forced | held
      · exact absurd ((quiet returned).2.1.symm.trans forced) (by simp)
      · exact held
  | failed _ _ _ => exact absurd returned (by simp)
  | written value _ _ dacs _ _ _ _ held =>
      intro value' cached unlike _
      cases (Function.update_self ..).symm.trans cached
      exact held unlike

theorem write_held_others {session after : Session} {channel : Channel}
    (wrote : Write boards config forceAccess session channel after) (other : Channel)
    (active : channel ∈ boards.activeBiasChannels)
    (active' : other ∈ boards.activeBiasChannels) (unlike : other ≠ channel)
    (before : Held boards session.connection other) : Held boards after.connection other := by
  intro value cached nonzero alone
  have place : boards.address other ≠ boards.address channel := fun same =>
    (address_injective boards other channel active' active same).elim unlike fun pair =>
      alone ⟨pair.2.1, pair.2.2.imp And.left And.left⟩
  rw [write_others wrote _ place]
  exact before value ((write_cache_others wrote other unlike).symm.trans cached) nonzero alone

/-- Without an exception from a DAC, a write leaves its channel right if it was. -/
theorem write_held_quiet {session after : Session} {channel : Channel}
    (wrote : Write boards config forceAccess session channel after)
    (returns : ∀ outcome ∈ session.outcomes, outcome.returns = true)
    (before : Held boards session.connection channel) : Held boards after.connection channel := by
  cases wrote with
  | kept _ _ => exact before
  | failed held rest brought =>
      exact absurd (returns (.raised held) (brought ▸ List.mem_cons_self)) Bool.false_ne_true
  | written value _ _ dacs _ _ _ _ held =>
      intro value' cached unlike _
      cases (Function.update_self ..).symm.trans cached
      exact held unlike

theorem write_outcomes {session after : Session} {channel : Channel}
    (wrote : Write boards config forceAccess session channel after) :
    after.outcomes ⊆ session.outcomes := by
  cases wrote with
  | kept _ _ => exact List.Subset.refl _
  | failed _ _ brought => exact brought ▸ List.subset_cons_self ..
  | written _ _ _ _ _ brought _ _ _ => exact brought ▸ List.subset_cons_self ..

end Writes

/-! All channels -/

section Runs
variable {boards : Boards} {config : Channel → Option Int} {forceAccess : Bool}

theorem writes_running (channels : List Channel) (session : Session)
    (returned : (writeHvChannels boards config forceAccess channels session).raised = false) :
    session.raised = false := by
  induction channels generalizing session with
  | nil => exact returned
  | cons channel rest ih => exact write_running (write_cases ..) (ih _ returned)

theorem writes_others (channels : List Channel) (session : Session) (place : Address)
    (others : ∀ channel ∈ channels, place ≠ boards.address channel) :
    (writeHvChannels boards config forceAccess channels session).connection.dacs place =
      session.connection.dacs place := by
  induction channels generalizing session with
  | nil => rfl
  | cons channel rest ih =>
      refine (ih _ fun channel' member => others channel' (.tail _ member)).trans ?_
      exact write_others (write_cases ..) place (others channel (.head _))

theorem writes_cached (channels : List Channel) (session : Session) (other : Channel)
    (returned : (writeHvChannels boards config forceAccess channels session).raised = false)
    (before : session.connection.hvdacConfigCache other = config other ∨ other ∈ channels) :
    (writeHvChannels boards config forceAccess channels session).connection.hvdacConfigCache other =
      config other := by
  induction channels generalizing session with
  | nil => exact before.resolve_right (List.not_mem_nil)
  | cons channel rest ih =>
      have wrote := write_cases boards config forceAccess session channel
      have running := writes_running rest _ returned
      refine ih _ returned ?_
      by_cases same : other = channel
      · subst same
        exact .inl (write_cached wrote running)
      · refine before.imp (write_cache_others wrote other same).trans fun member => ?_
        exact (List.mem_cons.mp member).resolve_left same

theorem writes_held (channels : List Channel) (session : Session) (other : Channel)
    (inside : ∀ channel ∈ channels, channel ∈ boards.activeBiasChannels)
    (active : other ∈ boards.activeBiasChannels)
    (returned : (writeHvChannels boards config forceAccess channels session).raised = false)
    (before : Held boards session.connection other ∨ forceAccess = true ∧ other ∈ channels) :
    Held boards (writeHvChannels boards config forceAccess channels session).connection other := by
  induction channels generalizing session with
  | nil => exact before.resolve_right fun forced => List.not_mem_nil forced.2
  | cons channel rest ih =>
      have wrote := write_cases boards config forceAccess session channel
      have running := writes_running rest _ returned
      refine ih _ (fun channel' member => inside channel' (.tail _ member)) returned ?_
      by_cases same : other = channel
      · subst same
        exact .inl (write_held wrote running (before.symm.imp_left And.left))
      · refine before.imp (fun held => ?_) fun forced => ⟨forced.1, ?_⟩
        · exact write_held_others wrote other (inside channel (.head _)) active same held
        · exact (List.mem_cons.mp forced.2).resolve_left same

/-- The cache can be relied on, and is not empty. -/
structure Coherent (boards : Boards) (connection : Connection) : Prop where
  held : ∀ channel ∈ boards.activeBiasChannels, Held boards connection channel
  cached : ∀ channel ∈ boards.activeBiasChannels,
    (connection.hvdacConfigCache channel).isSome = true

theorem writes_coherent (channels : List Channel) (session : Session)
    (inside : ∀ channel ∈ channels, channel ∈ boards.activeBiasChannels)
    (returns : ∀ outcome ∈ session.outcomes, outcome.returns = true)
    (coherent : Coherent boards session.connection) :
    Coherent boards (writeHvChannels boards config forceAccess channels session).connection := by
  induction channels generalizing session with
  | nil => exact coherent
  | cons channel rest ih =>
      have wrote := write_cases boards config forceAccess session channel
      refine ih _ (fun channel' member => inside channel' (.tail _ member))
        (fun outcome member => returns outcome (write_outcomes wrote member)) ⟨?_, ?_⟩
      · intro other active
        by_cases same : other = channel
        · subst same
          exact write_held_quiet wrote returns (coherent.held other active)
        · exact write_held_others wrote other (inside channel (.head _)) active same
            (coherent.held other active)
      · intro other active
        exact write_cached_stays wrote other (coherent.cached other active)

theorem initialize_coherent (connection : Connection) (outcomes : List Outcome)
    (returned : (initializeSystem boards connection outcomes).raised = false) :
    Coherent boards (initializeSystem boards connection outcomes).connection where
  held channel active :=
    writes_held _ _ channel (fun _ member => member) active returned (.inr ⟨rfl, active⟩)
  cached channel active := by
    rw [initializeSystem, writes_cached _ _ channel returned (.inr active)]
    rfl

theorem set_coherent (connection : Connection) (outcomes : List Outcome)
    (returns : ∀ outcome ∈ outcomes, outcome.returns = true)
    (coherent : Coherent boards connection) :
    Coherent boards (setHvdacConfig boards config forceAccess connection outcomes).connection := by
  unfold setHvdacConfig
  split_ifs
  · exact writes_coherent _ _ (fun _ member => member) returns coherent
  · exact coherent

theorem get_coherent (connection : Connection) (coherent : Coherent boards connection) :
    Coherent boards (getHvdacConfig boards connection) := by
  unfold getHvdacConfig
  split_ifs with empty
  · -- A cache without entries has no channel to have one.
    have none (channel : Channel) : channel ∉ boards.activeBiasChannels := fun active => by
      have blank := List.all_eq_true.mp empty channel active
      have cached := coherent.cached channel active
      rw [Option.isNone_iff_eq_none.mp blank] at cached
      exact Bool.false_ne_true cached
    exact ⟨fun channel active => absurd active (none channel),
      fun channel active => absurd active (none channel)⟩
  · exact coherent

/-- No command raises an exception at a DAC. -/
def Action.Returns (action : Action) : Prop :=
  ∀ outcome ∈ action.outcomes, outcome.returns = true

instance (action : Action) : Decidable action.Returns :=
  List.decidableBAll (fun outcome : Outcome => outcome.returns = true) action.outcomes

theorem step_coherent (connection : Connection) (action : Action) (next : Connection)
    (coherent : Coherent boards connection) (stepped : step boards connection action = some next)
    (returns : action.Returns) : Coherent boards next := by
  cases action with
  | initializeSystem outcomes =>
      cases stepped
      exact writes_coherent _ _ (fun _ member => member) returns coherent
  | getHvdacConfig =>
      cases stepped
      exact get_coherent connection coherent
  | setHvdacConfig config forceAccess outcomes =>
      cases stepped
      exact set_coherent connection outcomes returns coherent

theorem set_held (connection : Connection) (outcomes : List Outcome) (channel : Channel)
    (coherent : Coherent boards connection) (active : channel ∈ boards.activeBiasChannels)
    (returned : (setHvdacConfig boards config forceAccess connection outcomes).raised = false) :
    Held boards (setHvdacConfig boards config forceAccess connection outcomes).connection channel ∧
      (setHvdacConfig boards config forceAccess connection outcomes).connection.hvdacConfigCache
        channel = config channel := by
  unfold setHvdacConfig at returned ⊢
  split_ifs at returned ⊢
  exact ⟨writes_held _ _ channel (fun _ member => member) active returned
      (.inl (coherent.held channel active)),
    writes_cached _ _ channel returned (.inr active)⟩

theorem step_others (connection : Connection) (action : Action) (next : Connection)
    (stepped : step boards connection action = some next) (place : Address)
    (others : ∀ channel ∈ boards.activeBiasChannels, place ≠ boards.address channel) :
    next.dacs place = connection.dacs place := by
  cases action with
  | initializeSystem outcomes =>
      cases stepped
      exact writes_others _ _ place others
  | getHvdacConfig =>
      cases stepped
      unfold getHvdacConfig
      split_ifs <;> rfl
  | setHvdacConfig config forceAccess outcomes =>
      cases stepped
      unfold setHvdacConfig
      split_ifs
      · exact writes_others _ _ place others
      · rfl

/-- With access forced, the last channel written at a place decides. -/
theorem writes_last (front back : List Channel) (channel : Channel) (session : Session)
    (value : Int)
    (returned : (writeHvChannels boards config true (front ++ channel :: back) session).raised =
      false)
    (wanted : config channel = some value) (unlike : boards.name channel = .bias16P → value ≠ 0)
    (others : ∀ later ∈ back, boards.address channel ≠ boards.address later) :
    (writeHvChannels boards config true (front ++ channel :: back) session).connection.dacs
      (boards.address channel) = dacValue (boards.name channel) value := by
  have split : writeHvChannels boards config true (front ++ channel :: back) session =
      writeHvChannels boards config true back (writeHvChannel boards config true
        (writeHvChannels boards config true front session) channel) :=
    List.foldl_append ..
  rw [split] at returned ⊢
  rw [writes_others back _ _ others]
  have running := writes_running back _ returned
  have wrote := write_cases boards config true
    (writeHvChannels boards config true front session) channel
  generalize writeHvChannel boards config true
    (writeHvChannels boards config true front session) channel = after at wrote running
  cases wrote with
  | kept _ quiet => exact absurd (quiet running).2.1 (by decide)
  | failed _ _ _ => exact Bool.noConfusion running
  | written value' _ _ dacs wanted' _ _ _ held =>
      cases wanted.symm.trans wanted'
      exact held unlike

end Runs

theorem channels_nodup (boards : Boards) (distinct : boards.activeBiasSlots.Nodup) :
    boards.activeBiasChannels.Nodup := by
  refine List.nodup_flatMap.mpr ⟨fun slot _ => ?_, distinct.imp fun {slot slot'} unlike => ?_⟩
  · exact List.nodup_range.map fun left right same => congrArg Channel.channelID same
  · intro channel member member'
    obtain ⟨_, _, rfl⟩ := List.mem_map.mp member
    obtain ⟨_, _, same⟩ := List.mem_map.mp member'
    exact unlike (congrArg Channel.slot same).symm

/-- After the channel 32 of a `BIAS_64P` no other channel comes with its DAC. -/
theorem channels_split (boards : Boards) (slot : Slot) (active : slot ∈ boards.activeBiasSlots)
    (distinct : boards.activeBiasSlots.Nodup) (name : boards.biasSlotInfo slot = .bias64P) :
    ∃ front back, boards.activeBiasChannels = front ++ ⟨slot, 32⟩ :: back ∧
      ∀ later ∈ back, boards.address ⟨slot, 32⟩ ≠ boards.address later := by
  obtain ⟨before, after, slots⟩ := List.append_of_mem active
  have range : List.range 64 = List.range 32 ++ 32 :: (List.range 31).map (33 + ·) := by decide
  have split : ∃ front back, boards.activeBiasChannels = front ++ ⟨slot, 32⟩ :: back ∧
      ⟨slot, 0⟩ ∈ front := by
    unfold Boards.activeBiasChannels
    rw [slots, List.flatMap_append, List.flatMap_cons, name, getNumberChannels, range,
      List.map_append, List.map_cons]
    simp only [List.append_assoc, List.cons_append]
    rw [← List.append_assoc]
    exact ⟨_, _, rfl, List.mem_append_right _
      (List.mem_map.mpr ⟨0, List.mem_range.mpr (by decide), rfl⟩)⟩
  obtain ⟨front, back, channels, first⟩ := split
  have unlike := channels ▸ channels_nodup boards distinct
  refine ⟨front, back, channels, fun later member same => ?_⟩
  have within (channel : Channel) (found : channel ∈ front ++ ⟨slot, 32⟩ :: back) :
      channel ∈ boards.activeBiasChannels := channels ▸ found
  obtain ⟨_, right, apart⟩ := List.nodup_append.mp unlike
  rcases address_injective boards ⟨slot, 32⟩ later (within _ (by simp))
    (within _ (by simp [member])) same with rfl | ⟨sameSlot, _, ends⟩
  · exact (List.nodup_cons.mp right).1 member
  · have zero : later = ⟨slot, 0⟩ := by
      obtain ⟨slot', channelID⟩ := later
      dsimp only at sameSlot ends
      subst sameSlot
      exact congrArg _ (ends.resolve_left fun pair => absurd pair.1 (by decide)).2
    exact apart _ first _ (.tail _ (zero ▸ member)) rfl

/-- After an initialization, and commands without an exception from a DAC, a call that
returns has every channel at what was asked for, whatever it has not sent. -/
theorem requested_held (boards : Boards) (earlier connection : Connection)
    (first outcomes : List Outcome) (later : List Action) (config : Channel → Option Int)
    (forceAccess : Bool) (channel : Channel) (value : Int)
    (initialized : (initializeSystem boards earlier first).raised = false)
    (returns : Along (step boards) (fun _ action => action.Returns)
      (initializeSystem boards earlier first).connection later)
    (ran : run (step boards) (initializeSystem boards earlier first).connection later =
      some connection)
    (returned : (setHvdacConfig boards config forceAccess connection outcomes).raised = false)
    (active : channel ∈ boards.activeBiasChannels) (wanted : config channel = some value)
    (unlike : boards.name channel = .bias16P → value ≠ 0) (alone : ¬ boards.Shared channel) :
    (setHvdacConfig boards config forceAccess connection outcomes).connection.dacs
      (boards.address channel) = dacValue (boards.name channel) value := by
  have coherent : Coherent boards connection :=
    run_keeps (step boards) (fun _ action _ => step_coherent _ action _) later _ _
      (initialize_coherent earlier first initialized) returns ran
  obtain ⟨held, cached⟩ := set_held connection outcomes channel coherent active returned
  exact held value (cached.trans wanted) unlike alone

def sampleBoards : Boards := ⟨[⟨0, 0, 1⟩], fun _ => .bias16P⟩

def sampleConfig (value : Int) (channel : Channel) : Option Int :=
  some (if channel.channelID = 3 then value else 2000)

def sampleConnection : Connection :=
  (setHvdacConfig sampleBoards (sampleConfig 2000) false
    (initializeSystem sampleBoards ⟨fun _ => none, fun _ => 5⟩
      (List.replicate 16 .biasOff)).connection (List.replicate 16 .written)).connection

/-- One channel is sent, and another one still has its value. -/
theorem requested_held_sample :
    (setHvdacConfig sampleBoards (sampleConfig 2500) false sampleConnection
      [.written]).connection.dacs (sampleBoards.address ⟨⟨0, 0, 1⟩, 4⟩) = 2000 :=
  requested_held sampleBoards ⟨fun _ => none, fun _ => 5⟩ sampleConnection
    (List.replicate 16 .biasOff) [.written]
    [.getHvdacConfig, .setHvdacConfig (sampleConfig 2000) false (List.replicate 16 .written)]
    (sampleConfig 2500) false ⟨⟨0, 0, 1⟩, 4⟩ 2000 (by decide +kernel) (by decide +kernel) rfl
    (by decide +kernel) (by decide +kernel) rfl (by decide) fun shared => absurd shared.1 (by decide)

/-- Of the channels of a `BIAS_64P`, two have one DAC and the second decides, and the DAC
beside theirs is never reached. -/
theorem board64_dacs (boards : Boards) (slot : Slot) (active : slot ∈ boards.activeBiasSlots)
    (distinct : boards.activeBiasSlots.Nodup) (name : boards.biasSlotInfo slot = .bias64P) :
    (∀ connection actions final, run (step boards) connection actions = some final →
      final.dacs (unreached slot) = connection.dacs (unreached slot)) ∧
    ∀ config connection outcomes value, config ⟨slot, 32⟩ = some value →
      (setHvdacConfig boards config true connection outcomes).raised = false →
      (setHvdacConfig boards config true connection outcomes).connection.dacs
        (boards.address ⟨slot, 0⟩) = dacValue .bias64P value := by
  constructor
  · intro connection actions final ran
    have kept (reached : Connection) (action : Action) (next : Connection)
        (same : reached.dacs (unreached slot) = connection.dacs (unreached slot))
        (stepped : step boards reached action = some next) :
        next.dacs (unreached slot) = connection.dacs (unreached slot) :=
      (step_others reached action next stepped _ fun channel member =>
        (address_not_unreached boards slot channel member name).symm).trans same
    exact run_invariant (step boards) kept actions connection final rfl ran
  · intro config connection outcomes value wanted returned
    obtain ⟨front, back, split, later⟩ := channels_split boards slot active distinct name
    have place : boards.address ⟨slot, 0⟩ = boards.address ⟨slot, 32⟩ := by
      simp only [Boards.address, Boards.name, name, dacOf]
      rfl
    unfold setHvdacConfig at returned ⊢
    split_ifs at returned ⊢
    rw [split] at returned ⊢
    rw [place]
    have last := writes_last front back ⟨slot, 32⟩ _ value returned wanted
      (fun other => absurd (name.symm.trans other) (by decide)) later
    rwa [Boards.name, name] at last

theorem board64_dacs_sample :
    let boards : Boards := ⟨[⟨0, 0, 1⟩], fun _ => .bias64P⟩
    (∀ connection actions final, run (step boards) connection actions = some final →
      final.dacs (unreached ⟨0, 0, 1⟩) = connection.dacs (unreached ⟨0, 0, 1⟩)) ∧
    ∀ config connection outcomes value, config ⟨⟨0, 0, 1⟩, 32⟩ = some value →
      (setHvdacConfig boards config true connection outcomes).raised = false →
      (setHvdacConfig boards config true connection outcomes).connection.dacs
        (boards.address ⟨⟨0, 0, 1⟩, 0⟩) = dacValue .bias64P value :=
  board64_dacs ⟨[⟨0, 0, 1⟩], fun _ => .bias64P⟩ ⟨0, 0, 1⟩ (by decide) (by decide) rfl

end GramsTof.BiasChannels
