import GramsTof.TransitionSystem

/-!
The configuration registers of the ASICs and their cache in
`petsys.daqd.Connection`: `getAsicsConfig`, `setAsicsConfig` and the command
with its retries below them. What the front end makes of each command and
answers is an argument. A read that is accepted brings what the register holds:
the front end checks its CRC, and sends a channel in 16 bytes, of which the code
asks for 15. Left out is the set of TAC refresh periods, which is kept beside the
cache for a warning.
-/

namespace GramsTof.AsicConfigCache

open TransitionSystem

abbrev Bits := List Bool

/-- `(portID, slaveID, chipID)` -/
abbrev Asic := Nat × Nat × Nat

inductive Register where
  | globalConfig
  | channelConfig (channelID : Fin 64)
  deriving DecidableEq, Repr

def Register.dataLength : Register → Nat
  | .globalConfig => 184
  | .channelConfig _ => 125

abbrev AsicConfig := Register → Bits

def registers : List Register := .globalConfig :: (List.finRange 64).map .channelConfig

/-- What `sendCommand` returns: `dataFollows` if the `expectedBytes` of a read are
there, `dataLength // 8`. -/
inductive Reply where
  | timeout
  | empty
  | answered (status : Nat) (dataFollows : Bool)
  deriving DecidableEq, Repr

/-- One command, with what the register it writes holds then. -/
structure Outcome where
  held : Bits
  reply : Reply
  deriving DecidableEq, Repr

inductive Error where
  /-- `tofpet2b.ConfigurationError`, which is what is tried again. -/
  | configuration
  /-- `CommandErrorTimeout` -/
  | timeout
  /-- `AssertionError` -/
  | assertion
  /-- `KeyError` -/
  | missing
  deriving DecidableEq, Repr

def Reply.error : Reply → Option Error
  | .timeout => some .timeout
  | .empty => some .configuration
  | .answered status _ => if status = 0x00 then none else some .configuration

def Reply.readError : Reply → Option Error
  | .answered 0x00 false => some .configuration
  | reply => reply.error

/-- What a command leaves: its exception, what the register holds, and the
commands not sent yet. -/
abbrev Left := Option Error × Bits × List Outcome

/-- `___doAsicCommand` for a read. -/
def readOnce (content : Bits) : List Outcome → Left
  | [] => (some .timeout, content, [])
  | read :: rest => (read.reply.readError, content, rest)

/-- `___doAsicCommand` for a write, which reads back what it has written. -/
def writeOnce (dataLength : Nat) (value content : Bits) (outcomes : List Outcome) : Left :=
  if value.length ≠ dataLength then (some .assertion, content, outcomes)
  else
    match outcomes with
    | [] => (some .timeout, content, [])
    | write :: rest =>
        match write.reply.error with
        | some error => (some error, write.held, rest)
        | none =>
            match readOnce write.held rest with
            | (some error, held, rest) => (some error, held, rest)
            | (none, readValue, rest) =>
                if readValue ≠ value then (some .configuration, readValue, rest)
                else (none, readValue, rest)

/-- `__doAsicCommand`: so many attempts more. -/
def retried (once : Bits → List Outcome → Left) : Nat → Bits → List Outcome → Left
  | 0, content, outcomes => once content outcomes
  | more + 1, content, outcomes =>
      match once content outcomes with
      | (some .configuration, content, outcomes) => retried once more content outcomes
      | left => left

def maxRetries : Nat := 4

/-- `skipped` is history, no step depends on it: of each write left out, the
value asked for and what the register held. -/
structure Connection where
  activeAsics : List Asic
  hardware : Asic → AsicConfig
  asicConfigCache : Option (Asic → Option AsicConfig)
  skipped : List (Bits × Bits)

/-- A call under way; once an exception is raised nothing follows. -/
structure Session where
  connection : Connection
  outcomes : List Outcome
  raised : Option Error

def Connection.opens (connection : Connection) (outcomes : List Outcome) : Session :=
  { connection := connection, outcomes := outcomes, raised := none }

def Session.fail (session : Session) (error : Error) : Session :=
  { session with raised := some error }

def readRegister (asic : Asic) (session : Session) (register : Register) : Session :=
  match session.raised with
  | some _ => session
  | none =>
      match retried readOnce maxRetries (session.connection.hardware asic register)
        session.outcomes with
      | (error, _, rest) => { session with outcomes := rest, raised := error }

def storeAsic (connection : Connection) (asic : Asic) (ac : AsicConfig) : Connection :=
  { connection with
    asicConfigCache := connection.asicConfigCache.map fun cache other =>
      if other = asic then some ac else cache other }

/-- Stored when all registers are read. -/
def readAsic (session : Session) (asic : Asic) : Session :=
  let session := registers.foldl (readRegister asic) session
  match session.raised with
  | some _ => session
  | none => { session with
      connection := storeAsic session.connection asic (session.connection.hardware asic) }

def getAsicsConfig (forceAccess : Bool) (connection : Connection) (outcomes : List Outcome) :
    Session :=
  if forceAccess ∨ connection.asicConfigCache.isNone then
    -- emptied before anything is read
    connection.activeAsics.foldl readAsic
      ({ connection with asicConfigCache := some fun _ => none }.opens outcomes)
  else connection.opens outcomes

def setContent (hardware : Asic → AsicConfig) (asic : Asic) (register : Register) (value : Bits) :
    Asic → AsicConfig := fun other place =>
  if other = asic ∧ place = register then value else hardware other place

def Session.write (session : Session) (asic : Asic) (register : Register) (value : Bits) : Left :=
  retried (writeOnce register.dataLength value) maxRetries
    (session.connection.hardware asic register) session.outcomes

/-- One turn of the loops of `setAsicsConfig`. -/
def setRegister (config : Asic → Option AsicConfig) (forceAccess : Bool) (session : Session)
    (task : Asic × Register) : Session :=
  let (asic, register) := task
  match session.raised with
  | some _ => session
  | none =>
      match session.connection.asicConfigCache.bind fun cache => cache asic, config asic with
      | some cachedAC, some newAC =>
          if forceAccess ∨ newAC register ≠ cachedAC register then
            match session.write asic register (newAC register) with
            | (some error, held, rest) =>
                { connection := { session.connection with
                    hardware := setContent session.connection.hardware asic register held }
                  outcomes := rest
                  raised := some error }
            | (none, held, rest) =>
                { connection := storeAsic { session.connection with
                    hardware := setContent session.connection.hardware asic register held } asic
                      fun place => if place = register then newAC register else cachedAC place
                  outcomes := rest
                  raised := none }
          else { session with
            connection := { session.connection with
              skipped := session.connection.skipped ++
                [(newAC register, session.connection.hardware asic register)] } }
      | _, _ => session.fail .missing

def tasks (activeAsics : List Asic) : List (Asic × Register) :=
  activeAsics.flatMap fun asic => registers.map fun register => (asic, register)

/-- The cache is made first if there is none. -/
def ensureCache (connection : Connection) (outcomes : List Outcome) : Session :=
  if connection.asicConfigCache.isNone then getAsicsConfig false connection outcomes
  else connection.opens outcomes

def setAsicsConfig (config : Asic → Option AsicConfig) (forceAccess : Bool)
    (connection : Connection) (outcomes : List Outcome) : Session :=
  (tasks connection.activeAsics).foldl (setRegister config forceAccess)
    (ensureCache connection outcomes)

inductive Action where
  | getAsicsConfig (forceAccess : Bool) (outcomes : List Outcome)
  | setAsicsConfig (config : Asic → Option AsicConfig) (forceAccess : Bool)
      (outcomes : List Outcome)

def step (connection : Connection) : Action → Option Connection
  | .getAsicsConfig forceAccess outcomes =>
      some (getAsicsConfig forceAccess connection outcomes).connection
  | .setAsicsConfig config forceAccess outcomes =>
      some (setAsicsConfig config forceAccess connection outcomes).connection

/-- A new connection; the registers hold anything. -/
def connected (activeAsics : List Asic) (hardware : Asic → AsicConfig) : Connection :=
  { activeAsics := activeAsics, hardware := hardware, asicConfigCache := none, skipped := [] }

/-- A register whose cached value is asked for holds it, and so did every
register whose write was left out. -/
structure Coherent (connection : Connection) : Prop where
  held : ∀ cache asic ac, connection.asicConfigCache = some cache → cache asic = some ac →
    ∀ register requested, ac register = requested → connection.hardware asic register = requested
  skips : ∀ skip ∈ connection.skipped, skip.1 = skip.2

/-- A write that ends in an exception leaves what is cached. -/
def WriteSafe (config : Asic → Option AsicConfig) (forceAccess : Bool) (session : Session)
    (task : Asic × Register) : Prop :=
  session.raised = none → ∀ cachedAC newAC,
    (session.connection.asicConfigCache.bind fun cache => cache task.1) = some cachedAC →
    config task.1 = some newAC →
    (forceAccess = true ∨ newAC task.2 ≠ cachedAC task.2) →
    ∀ error held rest, session.write task.1 task.2 (newAC task.2) = (some error, held, rest) →
      held = cachedAC task.2

def SetSafe (config : Asic → Option AsicConfig) (forceAccess : Bool) :
    Session → List (Asic × Register) → Prop
  | _, [] => True
  | session, task :: rest =>
      WriteSafe config forceAccess session task ∧
        SetSafe config forceAccess (setRegister config forceAccess session task) rest

def CallSafe (connection : Connection) : Action → Prop
  | .getAsicsConfig _ _ => True
  | .setAsicsConfig config forceAccess outcomes =>
      SetSafe config forceAccess (ensureCache connection outcomes) (tasks connection.activeAsics)

theorem write_once_held (dataLength : Nat) (value content held : Bits)
    (outcomes rest : List Outcome)
    (written : writeOnce dataLength value content outcomes = (none, held, rest)) : held = value := by
  unfold writeOnce at written
  split at written
  · cases written
  · split at written
    · cases written
    · split at written
      · cases written
      · split at written
        · cases written
        · split at written
          · cases written
          · next _ same =>
              cases written
              exact not_not.mp same

theorem retried_held (once : Bits → List Outcome → Left) (value : Bits)
    (sound : ∀ content outcomes held rest, once content outcomes = (none, held, rest) →
      held = value)
    (more : Nat) (content held : Bits) (outcomes rest : List Outcome)
    (done : retried once more content outcomes = (none, held, rest)) : held = value := by
  induction more generalizing content outcomes with
  | zero => exact sound content outcomes held rest done
  | succ more ih =>
      unfold retried at done
      split at done
      · exact ih _ _ done
      · exact sound content outcomes held rest done

theorem write_held (session : Session) (asic : Asic) (register : Register) (value held : Bits)
    (rest : List Outcome) (written : session.write asic register value = (none, held, rest)) :
    held = value :=
  retried_held _ value (fun _ _ _ _ once => write_once_held _ _ _ _ _ _ once) _ _ _ _ _ written

section Reading
variable {session : Session}

theorem read_register_connection (asic : Asic) (register : Register) :
    (readRegister asic session register).connection = session.connection := by
  unfold readRegister
  split <;> rfl

theorem read_registers_connection (asic : Asic) (places : List Register) (session : Session) :
    (places.foldl (readRegister asic) session).connection = session.connection := by
  induction places generalizing session with
  | nil => rfl
  | cons register rest ih =>
      rw [List.foldl_cons, ih, read_register_connection]

theorem store_asic_coherent {connection : Connection} (coherent : Coherent connection)
    (asic : Asic) :
    Coherent (storeAsic connection asic (connection.hardware asic)) where
  held := by
    intro cache other ac there found register requested same
    obtain ⟨before, cached, rfl⟩ := Option.map_eq_some_iff.mp there
    dsimp only at found
    by_cases stored : other = asic
    · subst stored
      rw [if_pos rfl] at found
      cases found
      exact same
    · rw [if_neg stored] at found
      exact coherent.held before other ac cached found register requested same
  skips := coherent.skips

theorem read_asic_coherent (asic : Asic) (session : Session)
    (coherent : Coherent session.connection) : Coherent (readAsic session asic).connection := by
  have same := read_registers_connection asic registers session
  unfold readAsic
  dsimp only
  split
  · rw [same]
    exact coherent
  · rw [same]
    exact store_asic_coherent coherent asic

theorem read_asics_coherent (asics : List Asic) (session : Session)
    (coherent : Coherent session.connection) :
    Coherent (asics.foldl readAsic session).connection := by
  induction asics generalizing session with
  | nil => exact coherent
  | cons asic rest ih => exact ih _ (read_asic_coherent asic session coherent)

/-- Reading makes no value stale, even if it ends half way. -/
theorem get_asics_config_coherent (forceAccess : Bool) (connection : Connection)
    (outcomes : List Outcome) (coherent : Coherent connection) :
    Coherent (getAsicsConfig forceAccess connection outcomes).connection := by
  unfold getAsicsConfig
  split
  · apply read_asics_coherent
    refine ⟨fun cache asic ac there found => ?_, coherent.skips⟩
    cases there
    cases found
  · exact coherent

theorem ensure_cache_coherent (connection : Connection) (outcomes : List Outcome)
    (coherent : Coherent connection) :
    Coherent (ensureCache connection outcomes).connection := by
  unfold ensureCache
  split
  · exact get_asics_config_coherent false connection outcomes coherent
  · exact coherent

end Reading

section Writing
variable {config : Asic → Option AsicConfig} {forceAccess : Bool} {session : Session}

theorem raised_stays (task : Asic × Register) (raised : session.raised ≠ none) :
    setRegister config forceAccess session task = session := by
  unfold setRegister
  dsimp only
  split
  · rfl
  · contradiction

theorem raised_stays_all (places : List (Asic × Register)) (raised : session.raised ≠ none) :
    places.foldl (setRegister config forceAccess) session = session := by
  induction places with
  | nil => rfl
  | cons task rest ih => rw [List.foldl_cons, raised_stays task raised, ih]

theorem failed_write_coherent_iff {connection : Connection} (coherent : Coherent connection)
    (cache : Asic → Option AsicConfig) (asic : Asic) (register : Register) (cachedAC : AsicConfig)
    (held : Bits) (there : connection.asicConfigCache = some cache)
    (found : cache asic = some cachedAC) :
    Coherent { connection with hardware := setContent connection.hardware asic register held } ↔
      held = cachedAC register := by
  constructor
  · intro after
    have same : setContent connection.hardware asic register held asic register =
        cachedAC register := after.held cache asic cachedAC there found register _ rfl
    unfold setContent at same
    rwa [if_pos ⟨rfl, rfl⟩] at same
  · rintro rfl
    refine ⟨fun other place ac cached placed which requested same => ?_, coherent.skips⟩
    show setContent connection.hardware asic register (cachedAC register) place which = requested
    unfold setContent
    split_ifs with here
    · obtain ⟨rfl, rfl⟩ := here
      rw [there] at cached
      cases cached
      rw [found] at placed
      cases placed
      exact same
    · exact coherent.held other place ac cached placed which requested same

theorem done_write_coherent {connection : Connection} (coherent : Coherent connection)
    (cache : Asic → Option AsicConfig) (asic : Asic) (register : Register)
    (newAC cachedAC : AsicConfig) (there : connection.asicConfigCache = some cache)
    (found : cache asic = some cachedAC) :
    Coherent (storeAsic { connection with
        hardware := setContent connection.hardware asic register (newAC register) } asic
      fun place => if place = register then newAC register else cachedAC place) where
  held := by
    intro after other ac stored placed which requested same
    obtain ⟨before, cached, rfl⟩ := Option.map_eq_some_iff.mp stored
    show setContent connection.hardware asic register (newAC register) other which = requested
    unfold setContent
    dsimp only at placed
    by_cases here : other = asic
    · subst here
      rw [if_pos rfl] at placed
      cases placed
      dsimp only at same
      by_cases written : which = register
      · rw [if_pos written] at same
        rw [if_pos ⟨rfl, written⟩]
        exact same
      · rw [if_neg written] at same
        rw [if_neg fun both => written both.2]
        exact coherent.held cache other cachedAC there found which requested same
    · rw [if_neg here] at placed
      rw [if_neg fun both => here both.1]
      exact coherent.held before other ac cached placed which requested same
  skips := coherent.skips

theorem skipped_write_coherent {connection : Connection} (coherent : Coherent connection)
    (cache : Asic → Option AsicConfig) (asic : Asic) (register : Register)
    (newAC cachedAC : AsicConfig) (there : connection.asicConfigCache = some cache)
    (found : cache asic = some cachedAC) (same : newAC register = cachedAC register) :
    Coherent { connection with
      skipped := connection.skipped ++ [(newAC register, connection.hardware asic register)] } where
  held := coherent.held
  skips := by
    intro skip member
    rcases List.mem_append.mp member with early | last
    · exact coherent.skips skip early
    · rw [List.mem_singleton.mp last]
      exact (coherent.held cache asic cachedAC there found register _ same.symm).symm

theorem set_register_coherent_iff (task : Asic × Register)
    (coherent : Coherent session.connection) (running : session.raised = none) :
    Coherent (setRegister config forceAccess session task).connection ↔
      WriteSafe config forceAccess session task := by
  obtain ⟨asic, register⟩ := task
  unfold setRegister WriteSafe
  simp only [running, true_imp_iff]
  cases found : session.connection.asicConfigCache.bind fun cache => cache asic with
  | none => exact iff_of_true coherent (by simp)
  | some cachedAC =>
      obtain ⟨cache, there, placed⟩ := Option.bind_eq_some_iff.mp found
      cases named : config asic with
      | none => exact iff_of_true coherent (by simp)
      | some newAC =>
          by_cases due : forceAccess = true ∨ newAC register ≠ cachedAC register
          · simp only [if_pos due]
            rcases written : session.write asic register (newAC register) with ⟨_ | error, held, rest⟩
            · cases write_held session asic register _ held rest written
              refine iff_of_true (done_write_coherent coherent cache asic register newAC cachedAC
                there placed) ?_
              rintro _ _ ⟨⟩ ⟨⟩ _ error held rest failed
              rw [written] at failed
              cases failed
            · have stale := failed_write_coherent_iff coherent cache asic register cachedAC held
                there placed
              refine stale.trans ⟨fun same => ?_, fun safe => ?_⟩
              · rintro _ _ ⟨⟩ ⟨⟩ _ _ _ _ failed
                rw [written] at failed
                cases failed
                exact same
              · exact safe cachedAC newAC rfl rfl due error held rest written
          · have same : newAC register = cachedAC register := by
              by_contra differ
              exact due (Or.inr differ)
            simp only [if_neg due]
            refine iff_of_true (skipped_write_coherent coherent cache asic register newAC cachedAC
              there placed same) ?_
            rintro _ _ ⟨⟩ ⟨⟩ write
            exact absurd write due

/-- After an unsafe write the call has ended. -/
theorem unsafe_write_raises (task : Asic × Register) (running : session.raised = none)
    (stale : ¬ WriteSafe config forceAccess session task) :
    (setRegister config forceAccess session task).raised ≠ none := by
  obtain ⟨asic, register⟩ := task
  simp only [WriteSafe, not_forall] at stale
  obtain ⟨_, cachedAC, newAC, found, named, due, error, held, rest, written, _⟩ := stale
  unfold setRegister
  simp only [running, found, named, if_pos due, written]
  exact Option.some_ne_none error

theorem set_registers_coherent_iff (places : List (Asic × Register)) (session : Session)
    (coherent : Coherent session.connection) :
    Coherent (places.foldl (setRegister config forceAccess) session).connection ↔
      SetSafe config forceAccess session places := by
  induction places generalizing session with
  | nil => exact iff_of_true coherent trivial
  | cons task rest ih =>
      rw [List.foldl_cons]
      cases raised : session.raised with
      | some error =>
          have ended : session.raised ≠ none := by rw [raised]; exact Option.some_ne_none error
          have safe : WriteSafe config forceAccess session task := fun none => absurd none ended
          rw [SetSafe, raised_stays task ended, ih session coherent]
          exact ⟨fun later => ⟨safe, later⟩, And.right⟩
      | none =>
          have turn : Coherent (setRegister config forceAccess session task).connection ↔
              WriteSafe config forceAccess session task :=
            set_register_coherent_iff task coherent raised
          by_cases safe : WriteSafe config forceAccess session task
          · rw [SetSafe, ih _ (turn.mpr safe)]
            exact ⟨fun later => ⟨safe, later⟩, And.right⟩
          · rw [raised_stays_all rest (unsafe_write_raises task raised safe)]
            exact iff_of_false (mt turn.mp safe) fun both => safe both.1

end Writing

theorem step_coherent_iff (connection : Connection) (action : Action) (next : Connection)
    (coherent : Coherent connection) (stepped : step connection action = some next) :
    Coherent next ↔ CallSafe connection action := by
  cases action with
  | getAsicsConfig forceAccess outcomes =>
      cases stepped
      exact iff_of_true (get_asics_config_coherent forceAccess connection outcomes coherent) trivial
  | setAsicsConfig config forceAccess outcomes =>
      cases stepped
      exact set_registers_coherent_iff _ _ (ensure_cache_coherent connection outcomes coherent)

/-- Whatever calls are made and whatever their commands bring, cached values
are what the registers hold exactly as long as each write that ends in an
exception leaves the cached value. -/
theorem cache_coherent_iff (activeAsics : List Asic) (hardware : Asic → AsicConfig)
    (actions : List Action) :
    Throughout step Coherent (connected activeAsics hardware) actions ↔
      Along step CallSafe (connected activeAsics hardware) actions := by
  refine throughout_iff_along step (fun _ coherent => coherent)
    (fun connection action next coherent stepped =>
      (step_coherent_iff connection action next coherent stepped).mpr)
    (fun connection action next coherent stepped =>
      (step_coherent_iff connection action next coherent stepped).mp) actions _ ?_
  exact ⟨fun cache asic ac there => (nomatch there), List.forall_mem_nil _⟩

def uniform (bit : Bool) : AsicConfig := fun register => List.replicate register.dataLength bit

def answeredWell : Reply := .answered 0x00 true

/-- The cache is made; a write of the global configuration comes through, but no
reply to reading it back does; then the old configuration is asked for. -/
def rewritten : List Action :=
  [.getAsicsConfig false (List.replicate 65 ⟨[], answeredWell⟩),
    .setAsicsConfig (fun _ => some (uniform true)) false
      [⟨uniform true .globalConfig, answeredWell⟩, ⟨[], .timeout⟩],
    .setAsicsConfig (fun _ => some (uniform false)) false []]

theorem failed_write_stays_cached :
    ¬ ∀ activeAsics hardware actions, Throughout step Coherent (connected activeAsics hardware)
      actions := by
  intro always
  have skips : ((run step (connected [(0, 0, 0)] fun _ => uniform false) rewritten).map
      fun connection => connection.skipped.all fun skip => skip.1 == skip.2) = some false := by
    decide +kernel
  obtain ⟨connection, ran, differs⟩ := Option.map_eq_some_iff.mp skips
  have coherent := throughout_last step rewritten _ connection (always _ _ _) ran
  rw [List.all_eq_true.mpr fun skip member => beq_iff_eq.mpr (coherent.skips skip member)] at differs
  exact absurd differs (by decide)

end GramsTof.AsicConfigCache
