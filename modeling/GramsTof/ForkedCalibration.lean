import GramsTof.TransitionSystem

/-!
`runProcessTdcCalibration` and `runProcessQdcCalibration` with the children that
`calibrateAllAsics` forks, one for each temporary file of the list. The parent
and the children take steps in any order; how a call, a `fork` or a child ends
is part of the step. What a child computes is left out: its results come back
in shared memory, which the parent does not look at before it writes the table.
The process may have other children, which `wait` returns as well: those of an
earlier call that threw, or the `write_raw` processes that `daqd.py` starts and
never waits for.
-/

namespace GramsTof.ForkedCalibration

open TransitionSystem

structure TmpEntry where
  asicID : Nat
  fileName : String
  deriving DecidableEq, Repr

/-- How a child ends: with a status, or by a signal. -/
inductive Ended where
  | exited (status : Nat)
  | signalled (signal : Nat)
  deriving DecidableEq, Repr

/-- `reaped` is a child that `wait` has returned. -/
structure Child where
  asic : TmpEntry
  ended : Option Ended
  reaped : Bool
  deriving DecidableEq, Repr

/-- The statements around the loops of `calibrateAllAsics`. -/
inductive Stage where
  | loadConfig
  | readBins
  | sortData
  | readList
  | adjustCalibrationTable
  | writeCalibrationTable
  | deleteTemporaryFiles
  deriving DecidableEq, Repr

/-- The table is adjusted in memory; all other statements use files. -/
def Stage.mayThrow : Stage → Bool
  | .adjustCalibrationTable => false
  | _ => true

structure Program where
  before : List Stage
  listed : List TmpEntry
  maxWorkers : Int
  behind : List Stage
  positive : 1 ≤ maxWorkers

/-- The limit on the workers; `maxWorkersByMem` is an `int`. -/
def maxWorkers (nCPU : Int) (totalRamBytes maxTmpFileSize : Nat) : Int :=
  let maxWorkersByMem : Int :=
    ((totalRamBytes / (1024 * 1024 * 1024 + maxTmpFileSize) : Nat) : Int).bmod (2 ^ 32)
  let maxWorkers := if nCPU < maxWorkersByMem then nCPU else maxWorkersByMem
  if maxWorkers > 1 then maxWorkers else 1

theorem max_workers_positive (nCPU : Int) (totalRamBytes maxTmpFileSize : Nat) :
    1 ≤ maxWorkers nCPU totalRamBytes maxTmpFileSize := by
  unfold maxWorkers
  dsimp only
  split_ifs <;> omega

structure Setting where
  listed : List TmpEntry
  nCPU : Int
  totalRamBytes : Nat
  maxTmpFileSize : Nat

def sorting (doSorting : Bool) : List Stage := if doSorting then [.sortData] else []

def deleting (keepTemporary : Bool) : List Stage :=
  if keepTemporary then [] else [.deleteTemporaryFiles]

def runProcessTdcCalibration (setting : Setting) (doSorting keepTemporary : Bool) : Program :=
  { before := [.readBins] ++ sorting doSorting ++ [.readList]
    listed := setting.listed
    maxWorkers := maxWorkers setting.nCPU setting.totalRamBytes setting.maxTmpFileSize
    behind := [.adjustCalibrationTable, .writeCalibrationTable] ++ deleting keepTemporary
    positive := max_workers_positive _ _ _ }

def runProcessQdcCalibration (setting : Setting) (doSorting keepTemporary : Bool) : Program :=
  { before := [.loadConfig, .readBins] ++ sorting doSorting ++ [.readList]
    listed := setting.listed
    maxWorkers := maxWorkers setting.nCPU setting.totalRamBytes setting.maxTmpFileSize
    behind := [.writeCalibrationTable] ++ deleting keepTemporary
    positive := max_workers_positive _ _ _ }

/-- Where the parent is. `next` is at the head of the `for` loop, `opened`
before the `fork`, `limiting` at the loop behind it and `reaping` at the last
loop; `returned` is the end with `true`, `thrown` the one by an exception. -/
inductive Pc where
  | before (stages : List Stage)
  | next (rest : List TmpEntry)
  | opened (asic : TmpEntry) (rest : List TmpEntry)
  | limiting (rest : List TmpEntry)
  | reaping
  | behind (stages : List Stage)
  | returned
  | thrown
  deriving DecidableEq, Repr

/-- The last two fields are history, no step depends on them. `strays` are the
children that `wait` has returned and this call has not forked. -/
structure State where
  pc : Pc
  children : List Child
  nWorkers : Int
  failedForks : Nat
  strays : Nat
  deriving DecidableEq, Repr

def start (program : Program) : State :=
  { pc := .before program.before
    children := []
    nWorkers := 0
    failedForks := 0
    strays := 0 }

/-- What `wait` returns: -1, or a child that has ended. -/
inductive Waited where
  | failed
  | child (place : Nat)
  | stray
  deriving DecidableEq, Repr

/-- `proceed` is a statement that cannot fail, `ends` the end of a child. -/
inductive Action where
  | proceed
  | statement (ok : Bool)
  | openFile (ok : Bool)
  | fork (ok : Bool)
  | ends (child : Nat) (how : Ended)
  | wait (waited : Waited)
  deriving DecidableEq, Repr

def State.proceed (program : Program) (state : State) : Option State :=
  match state.pc with
  | .before [] => some { state with pc := .next program.listed }
  | .next [] => some { state with pc := .reaping }
  | .limiting rest =>
      if program.maxWorkers ≤ state.nWorkers then none else some { state with pc := .next rest }
  | .reaping => if 0 < state.nWorkers then none else some { state with pc := .behind program.behind }
  | .behind [] => some { state with pc := .returned }
  | _ => none

def State.statement (state : State) (ok : Bool) : Option State :=
  match state.pc with
  | .before (stage :: stages) =>
      if ok then some { state with pc := .before stages }
      else if stage.mayThrow then some { state with pc := .thrown } else none
  | .behind (stage :: stages) =>
      if ok then some { state with pc := .behind stages }
      else if stage.mayThrow then some { state with pc := .thrown } else none
  | _ => none

def State.openFile (state : State) (ok : Bool) : Option State :=
  match state.pc with
  | .next (asic :: rest) => some { state with pc := if ok then .opened asic rest else .thrown }
  | _ => none

/-- What is not 0, and so -1, counts as a worker. -/
def State.fork (state : State) (ok : Bool) : Option State :=
  match state.pc with
  | .opened asic rest =>
      if ok then some { state with
        pc := .limiting rest
        children := state.children ++ [⟨asic, none, false⟩]
        nWorkers := state.nWorkers + 1 }
      else some { state with
        pc := .limiting rest
        nWorkers := state.nWorkers + 1
        failedForks := state.failedForks + 1 }
  | _ => none

def State.ends (state : State) (child : Nat) (how : Ended) : Option State :=
  match state.children[child]? with
  | some ⟨asic, none, reaped⟩ =>
      some { state with children := state.children.set child ⟨asic, some how, reaped⟩ }
  | _ => none

/-- Neither which child it is nor its status is asked for. -/
def State.reap (state : State) : Waited → Option State
  | .failed => some { state with pc := .thrown }
  | .child place =>
      match state.children[place]? with
      | some ⟨asic, some how, false⟩ =>
          some { state with
            children := state.children.set place ⟨asic, some how, true⟩
            nWorkers := state.nWorkers - 1 }
      | _ => none
  | .stray => some { state with
      nWorkers := state.nWorkers - 1
      strays := state.strays + 1 }

def State.wait (program : Program) (state : State) (waited : Waited) : Option State :=
  match state.pc with
  | .limiting _ => if program.maxWorkers ≤ state.nWorkers then state.reap waited else none
  | .reaping => if 0 < state.nWorkers then state.reap waited else none
  | _ => none

def step (program : Program) (state : State) : Action → Option State
  | .proceed => state.proceed program
  | .statement ok => state.statement ok
  | .openFile ok => state.openFile ok
  | .fork ok => state.fork ok
  | .ends child how => state.ends child how
  | .wait waited => state.wait program waited

/-- A function that has returned `true` has started a child for every listed
ASIC, and each has ended with status 0. -/
def Calibrated (program : Program) (state : State) : Prop :=
  state.pc = .returned →
    state.children.map Child.asic = program.listed ∧
      ∀ child ∈ state.children, child.ended = some (.exited 0)

/-- The function cannot return `true` any more: it has thrown, or will, since
more children are missing than others were returned for them. -/
def State.Doomed (state : State) : Prop := state.pc = .thrown ∨ state.strays < state.failedForks

def State.unreaped (state : State) : Nat := state.children.countP fun child => !child.reaped

def State.unended (state : State) : Nat := state.children.countP fun child => child.ended.isNone

def Pc.remaining (program : Program) : Pc → Option (List TmpEntry)
  | .before _ => some program.listed
  | .next rest => some rest
  | .opened asic rest => some (asic :: rest)
  | .limiting rest => some rest
  | .reaping | .behind _ | .returned => some []
  | .thrown => none

def Pc.reaped : Pc → Bool
  | .behind _ | .returned => true
  | _ => false

/-- There is nothing left that could go wrong: all children are started, and
have ended. -/
structure State.Complete (program : Program) (state : State) : Prop where
  started : state.pc.remaining program = some []
  whole : state.failedForks = 0
  ended : ∀ child ∈ state.children, child.ended ≠ none

/-- A child ends normally, and `wait` returns none but those of this call, unless
it does not matter any more. -/
def Orderly (program : Program) (state : State) : Action → Prop
  | .ends _ how => how = .exited 0 ∨ state.Doomed
  | .wait .stray => state.Complete program ∨ state.strays + 1 < state.failedForks
  | _ => True

structure Inv (program : Program) (state : State) : Prop where
  counted : state.pc ≠ .thrown → state.nWorkers + state.strays = state.unreaped + state.failedForks
  started : ∀ rest, state.pc.remaining program = some rest → state.failedForks = 0 →
    state.children.map Child.asic ++ rest = program.listed
  tried : ∀ rest, state.pc.remaining program = some rest →
    state.children.length + state.failedForks + rest.length = program.listed.length
  reapedEnded : ∀ child ∈ state.children, child.reaped = true → child.ended ≠ none
  all : state.pc.reaped = true → state.nWorkers ≤ 0

/-- While the function can still return `true`, its children have ended with
status 0, and it has waited for them. -/
structure Clean (program : Program) (state : State) : Prop where
  normal : ¬ state.Doomed →
    ∀ child ∈ state.children, ∀ how, child.ended = some how → how = .exited 0
  own : ¬ state.Doomed → state.strays = 0 ∨ state.Complete program

/-- Steps on the way to `true`, all of them orderly. -/
def Action.isDue : Action → Bool
  | .proceed => true
  | .statement ok | .openFile ok | .fork ok => ok
  | .ends _ how => how = .exited 0
  | .wait (.child _) => true
  | .wait _ => false

/-- What the parent has left to do, but for its children. -/
def Pc.weight (program : Program) : Pc → Nat
  | .before stages => stages.length + 8 * program.listed.length + program.behind.length + 5
  | .next rest => 8 * rest.length + program.behind.length + 4
  | .opened _ rest => 8 * rest.length + program.behind.length + 11
  | .limiting rest => 8 * rest.length + program.behind.length + 5
  | .reaping => program.behind.length + 3
  | .behind stages => stages.length + 1
  | .returned | .thrown => 0

/-- What a step can be. -/
inductive Takes (program : Program) (state : State) : Action → State → Prop where
  | moved (action : Action) (pc : Pc) (alive : pc ≠ .thrown)
      (same : pc.remaining program = state.pc.remaining program)
      (all : pc.reaped = true → state.pc.reaped = true ∨ state.nWorkers ≤ 0)
      (lighter : pc.weight program < state.pc.weight program) :
      Takes program state action { state with pc := pc }
  | threw (action : Action) (undue : action.isDue = false) :
      Takes program state action { state with pc := .thrown }
  | forked (asic : TmpEntry) (rest : List TmpEntry) (opened : state.pc = .opened asic rest) :
      Takes program state (.fork true) { state with
        pc := .limiting rest
        children := state.children ++ [⟨asic, none, false⟩]
        nWorkers := state.nWorkers + 1 }
  | refused (asic : TmpEntry) (rest : List TmpEntry) (opened : state.pc = .opened asic rest) :
      Takes program state (.fork false) { state with
        pc := .limiting rest
        nWorkers := state.nWorkers + 1
        failedForks := state.failedForks + 1 }
  | ended (child : Nat) (how : Ended) (asic : TmpEntry) (reaped : Bool)
      (found : state.children[child]? = some ⟨asic, none, reaped⟩) :
      Takes program state (.ends child how)
        { state with children := state.children.set child ⟨asic, some how, reaped⟩ }
  | reaped (child : Nat) (how : Ended) (asic : TmpEntry) (waits : state.pc.reaped = false)
      (found : state.children[child]? = some ⟨asic, some how, false⟩) :
      Takes program state (.wait (.child child)) { state with
        children := state.children.set child ⟨asic, some how, true⟩
        nWorkers := state.nWorkers - 1 }
  | strayed (alive : state.pc ≠ .thrown) (waits : state.pc.reaped = false) :
      Takes program state (.wait .stray) { state with
        nWorkers := state.nWorkers - 1
        strays := state.strays + 1 }

theorem proceed_takes (program : Program) (state next : State)
    (stepped : state.proceed program = some next) : Takes program state .proceed next := by
  unfold State.proceed at stepped
  split at stepped
  case h_3 rest limiting =>
    rw [Option.ite_none_left_eq_some] at stepped
    rw [← Option.some.inj stepped.2]
    exact .moved _ _ (by simp) (by simp [Pc.remaining, limiting]) (by simp [Pc.reaped])
      (by simp only [Pc.weight, limiting]; omega)
  case h_4 reaping =>
    rw [Option.ite_none_left_eq_some] at stepped
    rw [← Option.some.inj stepped.2]
    exact .moved _ _ (by simp) (by simp [Pc.remaining, reaping])
      (fun _ => Or.inr (by omega)) (by simp only [Pc.weight, reaping]; omega)
  case h_6 => cases stepped
  case h_1 isPc =>
    cases stepped
    exact .moved _ _ (by simp) (by simp [Pc.remaining, isPc]) (by simp [Pc.reaped])
      (by simp only [Pc.weight, isPc]; omega)
  case h_2 isPc =>
    cases stepped
    exact .moved _ _ (by simp) (by simp [Pc.remaining, isPc]) (by simp [Pc.reaped])
      (by simp only [Pc.weight, isPc]; omega)
  case h_5 isPc =>
    cases stepped
    exact .moved _ _ (by simp) (by simp [Pc.remaining, isPc]) (by simp [Pc.reaped, isPc])
      (by simp [Pc.weight, isPc])

theorem statement_takes (program : Program) (state next : State) (ok : Bool)
    (stepped : state.statement ok = some next) : Takes program state (.statement ok) next := by
  unfold State.statement at stepped
  split at stepped
  · rename_i stage stages isPc
    cases ok with
    | true =>
        cases stepped
        exact .moved _ _ (by simp) (by simp [Pc.remaining, isPc]) (by simp [Pc.reaped])
          (by simp [Pc.weight, isPc])
    | false =>
        rw [if_neg (by decide), Option.ite_none_right_eq_some] at stepped
        rw [← Option.some.inj stepped.2]
        exact .threw _ rfl
  · rename_i stage stages isPc
    cases ok with
    | true =>
        cases stepped
        exact .moved _ _ (by simp) (by simp [Pc.remaining, isPc]) (by simp [Pc.reaped, isPc])
          (by simp [Pc.weight, isPc])
    | false =>
        rw [if_neg (by decide), Option.ite_none_right_eq_some] at stepped
        rw [← Option.some.inj stepped.2]
        exact .threw _ rfl
  · cases stepped

theorem wait_takes (program : Program) (state next : State) (waited : Waited)
    (stepped : state.wait program waited = some next) :
    Takes program state (.wait waited) next := by
  have reaps : state.pc ≠ .thrown → state.pc.reaped = false → state.reap waited = some next →
      Takes program state (.wait waited) next := by
    intro alive waits reaped
    unfold State.reap at reaped
    split at reaped
    · cases reaped
      exact .threw _ rfl
    · split at reaped
      · cases reaped
        exact .reaped _ _ _ waits ‹_›
      · cases reaped
    · cases reaped
      exact .strayed alive waits
  unfold State.wait at stepped
  split at stepped
  · rename_i rest isPc
    rw [Option.ite_none_right_eq_some] at stepped
    exact reaps (by simp [isPc]) (by simp [Pc.reaped, isPc]) stepped.2
  · rename_i isPc
    rw [Option.ite_none_right_eq_some] at stepped
    exact reaps (by simp [isPc]) (by simp [Pc.reaped, isPc]) stepped.2
  · cases stepped

theorem stray_next (program : Program) (state next : State)
    (stepped : state.wait program .stray = some next) :
    state.pc ≠ .thrown ∧ next = { state with
      nWorkers := state.nWorkers - 1
      strays := state.strays + 1 } := by
  unfold State.wait State.reap at stepped
  split at stepped
  · rename_i isPc
    rw [Option.ite_none_right_eq_some] at stepped
    exact ⟨by simp [isPc], (Option.some.inj stepped.2).symm⟩
  · rename_i isPc
    rw [Option.ite_none_right_eq_some] at stepped
    exact ⟨by simp [isPc], (Option.some.inj stepped.2).symm⟩
  · cases stepped

theorem step_takes (program : Program) (state : State) (action : Action) (next : State)
    (stepped : step program state action = some next) : Takes program state action next := by
  cases action with
  | proceed => exact proceed_takes program state next stepped
  | statement ok => exact statement_takes program state next ok stepped
  | openFile ok =>
      rw [step, State.openFile] at stepped
      split at stepped
      · rename_i asic rest isPc
        cases ok with
        | true =>
            cases stepped
            exact .moved _ _ (by simp) (by simp [Pc.remaining, isPc]) (by simp [Pc.reaped])
              (by simp only [if_true, Pc.weight, isPc, List.length_cons]; omega)
        | false =>
            cases stepped
            exact .threw _ rfl
      · cases stepped
  | fork ok =>
      rw [step, State.fork] at stepped
      split at stepped
      · rename_i asic rest isPc
        cases ok with
        | true =>
            cases stepped
            exact .forked asic rest isPc
        | false =>
            cases stepped
            exact .refused asic rest isPc
      · cases stepped
  | ends child how =>
      rw [step, State.ends] at stepped
      split at stepped
      · cases stepped
        exact .ended child how _ _ ‹_›
      · cases stepped
  | wait waited => exact wait_takes program state next waited stepped

section Replaced
variable {children : List Child} {place : Nat} {old : Child} (new : Child)
variable (found : children[place]? = some old)
include found

theorem replaced_asics (same : new.asic = old.asic) :
    (children.set place new).map Child.asic = children.map Child.asic := by
  have there : (children.map Child.asic)[place]? = some new.asic := by
    rw [List.getElem?_map, found, same]
    rfl
  obtain ⟨inside, here⟩ := List.getElem?_eq_some_iff.mp there
  rw [List.map_set, ← here, List.set_getElem_self]

theorem replaced_count (pred : Child → Bool) :
    (children.set place new).countP pred + (if pred old then 1 else 0) =
      children.countP pred + if pred new then 1 else 0 := by
  obtain ⟨inside, here⟩ := List.getElem?_eq_some_iff.mp found
  have present : pred old = true → 0 < children.countP pred := by
    intro holds
    exact List.countP_pos_iff.mpr ⟨old, here ▸ List.getElem_mem inside, holds⟩
  rw [List.countP_set inside, here]
  split_ifs with holds
  · have some := present holds
    omega
  · have some := present holds
    omega
  · omega
  · omega

end Replaced

theorem counted_other (pred : Child → Bool) (children : List Child) (spare : Nat)
    (two : 1 < children.countP pred) :
    ∃ place child, children[place]? = some child ∧ pred child = true ∧ place ≠ spare := by
  induction children generalizing spare with
  | nil => cases two
  | cons first rest ih =>
      cases spare with
      | zero =>
          rw [List.countP_cons] at two
          have one : 0 < rest.countP pred := by
            split_ifs at two <;> omega
          obtain ⟨child, member, holds⟩ := List.countP_pos_iff.mp one
          obtain ⟨place, found⟩ := List.mem_iff_getElem?.mp member
          exact ⟨place + 1, child, by rwa [List.getElem?_cons_succ], holds, Nat.succ_ne_zero place⟩
      | succ spare =>
          by_cases holds : pred first = true
          · exact ⟨0, first, rfl, holds, (Nat.succ_ne_zero spare).symm⟩
          · rw [List.countP_cons_of_neg holds] at two
            obtain ⟨place, child, found, holds, other⟩ := ih spare two
            exact ⟨place + 1, child, by rwa [List.getElem?_cons_succ], holds,
              mt Nat.succ.inj other⟩

theorem replaced_all {children : List Child} {place : Nat} {new : Child} {good : Child → Prop}
    (others : ∀ child ∈ children, good child) (here : good new) :
    ∀ child ∈ children.set place new, good child := by
  intro child member
  rcases List.mem_or_eq_of_mem_set member with old | rfl
  · exact others child old
  · exact here

theorem start_inv (program : Program) : Inv program (start program) where
  counted := fun _ => rfl
  started := by
    rintro rest ⟨⟩ _
    rfl
  tried := by
    rintro rest ⟨⟩
    exact Nat.zero_add _
  reapedEnded := fun _ member => by cases member
  all := fun reaped => by cases reaped

theorem step_inv (program : Program) (state : State) (action : Action) (next : State)
    (inv : Inv program state) (stepped : step program state action = some next) :
    Inv program next := by
  cases step_takes program state action next stepped with
  | moved action pc alive same all lighter =>
      have running : state.pc ≠ .thrown := by
        intro thrown
        rw [thrown] at lighter
        exact absurd lighter (Nat.not_lt_zero _)
      refine ⟨fun _ => inv.counted running, fun rest remaining => ?_, fun rest remaining => ?_,
        inv.reapedEnded, ?_⟩
      · exact inv.started rest (same.symm.trans remaining)
      · exact inv.tried rest (same.symm.trans remaining)
      · intro reaped
        rcases all reaped with before | none
        · exact inv.all before
        · exact none
  | threw action undue =>
      refine ⟨fun alive => absurd rfl alive, ?_, ?_, inv.reapedEnded, fun reaped => by cases reaped⟩
      · rintro rest ⟨⟩
      · rintro rest ⟨⟩
  | forked asic rest opened =>
      have counted := inv.counted (by simp [opened])
      have tried := inv.tried (asic :: rest) (by simp [Pc.remaining, opened])
      refine ⟨fun _ => ?_, ?_, ?_, ?_, fun reaped => by cases reaped⟩
      · simp only [State.unreaped, List.countP_append] at counted ⊢
        simp
        omega
      · rintro _ ⟨⟩ whole
        have started := inv.started (asic :: rest) (by simp [Pc.remaining, opened]) whole
        simpa using started
      · rintro _ ⟨⟩
        rw [List.length_cons] at tried
        simp only [List.length_append, List.length_singleton]
        omega
      · intro child member reaped
        rcases List.mem_append.mp member with old | new
        · exact inv.reapedEnded child old reaped
        · rw [List.mem_singleton.mp new] at reaped
          cases reaped
  | refused asic rest opened =>
      have counted := inv.counted (by simp [opened])
      have tried := inv.tried (asic :: rest) (by simp [Pc.remaining, opened])
      refine ⟨fun _ => ?_, ?_, ?_, inv.reapedEnded, fun reaped => by cases reaped⟩
      · simp only [State.unreaped] at counted ⊢
        push_cast
        omega
      · rintro _ ⟨⟩ whole
        cases whole
      · rintro _ ⟨⟩
        rw [List.length_cons] at tried
        dsimp only
        omega
  | ended child how asic reaped found =>
      refine ⟨fun alive => ?_, fun rest remaining whole => ?_, fun rest remaining => ?_, ?_, inv.all⟩
      · have count := replaced_count ⟨asic, some how, reaped⟩ found
          fun child => !child.reaped
        have counted := inv.counted alive
        dsimp only [State.unreaped] at counted count ⊢
        omega
      · rw [replaced_asics ⟨asic, some how, reaped⟩ found rfl]
        exact inv.started rest remaining whole
      · rw [List.length_set]
        exact inv.tried rest remaining
      · exact replaced_all inv.reapedEnded fun _ => Option.some_ne_none _
  | reaped child how asic waits found =>
      refine ⟨fun alive => ?_, fun rest remaining whole => ?_, fun rest remaining => ?_, ?_,
        fun reaped => ?_⟩
      · have count := replaced_count ⟨asic, some how, true⟩ found
          fun child => !child.reaped
        have counted := inv.counted alive
        simp only [State.unreaped, Bool.not_false, if_true, Bool.not_true, Bool.false_eq_true,
          if_false] at counted count ⊢
        omega
      · rw [replaced_asics ⟨asic, some how, true⟩ found rfl]
        exact inv.started rest remaining whole
      · rw [List.length_set]
        exact inv.tried rest remaining
      · exact replaced_all inv.reapedEnded fun _ => Option.some_ne_none _
      · rw [waits] at reaped
        cases reaped
  | strayed alive waits =>
      refine ⟨fun alive => ?_, inv.started, inv.tried, inv.reapedEnded, fun reaped => ?_⟩
      · have counted := inv.counted alive
        simp only [State.unreaped] at counted ⊢
        push_cast
        omega
      · rw [waits] at reaped
        cases reaped

theorem step_doomed (program : Program) (state : State) (action : Action) (next : State)
    (stepped : step program state action = some next) (orderly : Orderly program state action)
    (doomed : state.Doomed) : next.Doomed := by
  cases step_takes program state action next stepped with
  | moved action pc alive same all lighter =>
      rcases doomed with thrown | failed
      · rw [thrown] at lighter
        exact absurd lighter (Nat.not_lt_zero _)
      · exact Or.inr failed
  | threw action undue => exact Or.inl rfl
  | forked asic rest opened =>
      rcases doomed with thrown | failed
      · rw [opened] at thrown
        cases thrown
      · exact Or.inr failed
  | refused asic rest opened =>
      rcases doomed with thrown | failed
      · rw [opened] at thrown
        cases thrown
      · exact Or.inr (Nat.lt_succ_of_lt failed)
  | ended child how asic reaped found => exact doomed
  | reaped child how asic waits found => exact doomed
  | strayed alive waits =>
      have failed := doomed.resolve_left alive
      rcases orderly with complete | more
      · rw [complete.whole] at failed
        exact absurd failed (Nat.not_lt_zero _)
      · exact Or.inr more

theorem State.Complete.unopened {program : Program} {state : State} (complete : state.Complete program)
    (asic : TmpEntry) (rest : List TmpEntry) : state.pc ≠ .opened asic rest := by
  intro opened
  have started := complete.started
  rw [opened] at started
  cases started

theorem step_clean (program : Program) (state : State) (action : Action) (next : State)
    (clean : Clean program state) (stepped : step program state action = some next)
    (orderly : Orderly program state action) : Clean program next := by
  have before : ¬ next.Doomed → ¬ state.Doomed :=
    mt (step_doomed program state action next stepped orderly)
  cases step_takes program state action next stepped with
  | moved action pc alive same all lighter =>
      refine ⟨fun hopeful => clean.normal (before hopeful), fun hopeful => ?_⟩
      exact (clean.own (before hopeful)).imp_right fun complete =>
        ⟨same.trans complete.started, complete.whole, complete.ended⟩
  | threw action undue =>
      exact ⟨fun hopeful => absurd (Or.inl rfl) hopeful, fun hopeful => absurd (Or.inl rfl) hopeful⟩
  | forked asic rest opened =>
      refine ⟨fun hopeful child member how ended => ?_, fun hopeful => Or.inl ?_⟩
      · rcases List.mem_append.mp member with old | new
        · exact clean.normal (before hopeful) child old how ended
        · rw [List.mem_singleton.mp new] at ended
          cases ended
      · exact (clean.own (before hopeful)).resolve_right fun complete =>
          complete.unopened asic rest opened
  | refused asic rest opened =>
      -- no other child has been returned, so one is missing now
      have doomed : ¬ state.Doomed → state.strays < state.failedForks + 1 := by
        intro hopeful
        rw [(clean.own hopeful).resolve_right fun complete => complete.unopened asic rest opened]
        exact Nat.succ_pos _
      exact ⟨fun hopeful => absurd (Or.inr (doomed (before hopeful))) hopeful,
        fun hopeful => absurd (Or.inr (doomed (before hopeful))) hopeful⟩
  | ended child how asic reaped found =>
      refine ⟨fun hopeful => ?_, fun hopeful => ?_⟩
      · apply replaced_all (clean.normal hopeful)
        rintro _ ⟨⟩
        exact orderly.resolve_right hopeful
      · exact (clean.own hopeful).imp_right fun complete => ⟨complete.started, complete.whole,
          replaced_all complete.ended (Option.some_ne_none _)⟩
  | reaped child how asic waits found =>
      refine ⟨fun hopeful => ?_, fun hopeful => ?_⟩
      · apply replaced_all (clean.normal hopeful)
        rintro _ ⟨⟩
        exact clean.normal hopeful _ (List.mem_of_getElem? found) how rfl
      · exact (clean.own hopeful).imp_right fun complete => ⟨complete.started, complete.whole,
          replaced_all complete.ended (Option.some_ne_none _)⟩
  | strayed alive waits =>
      refine ⟨fun hopeful => clean.normal (before hopeful), fun hopeful => Or.inr ?_⟩
      have complete := orderly.resolve_right fun more => hopeful (Or.inr more)
      exact ⟨complete.started, complete.whole, complete.ended⟩

/-- Where `true` is returned `wait` has returned as many children as there are
workers. -/
theorem returned_counted (program : Program) (state : State) (inv : Inv program state)
    (returned : state.pc = .returned) : state.unreaped + state.failedForks ≤ state.strays := by
  have counted := inv.counted (by simp [returned])
  have none := inv.all (by simp [Pc.reaped, returned])
  omega

theorem clean_calibrated (program : Program) (state : State) (inv : Inv program state)
    (clean : Clean program state) : Calibrated program state := by
  intro returned
  have counted := returned_counted program state inv returned
  have hopeful : ¬ state.Doomed := by
    rintro (thrown | failed)
    · rw [returned] at thrown
      cases thrown
    · omega
  -- nothing is left to wait for, or all children had ended before another was returned
  have whole : state.failedForks = 0 ∧ ∀ child ∈ state.children, child.ended ≠ none := by
    rcases clean.own hopeful with own | complete
    · refine ⟨by omega, fun child member => inv.reapedEnded child member ?_⟩
      have count := List.countP_eq_zero.mp (show state.unreaped = 0 by omega) child member
      simpa using count
    · exact ⟨complete.whole, complete.ended⟩
  constructor
  · have started := inv.started [] (by simp [Pc.remaining, returned]) whole.1
    rwa [List.append_nil] at started
  · intro child member
    obtain ⟨how, ended⟩ := Option.ne_none_iff_exists'.mp (whole.2 child member)
    rw [ended, clean.normal hopeful child member how ended]

def Spoiled (state : State) : Prop :=
  ∃ child ∈ state.children, ∃ how, child.ended = some how ∧ how ≠ .exited 0

theorem step_spoiled (program : Program) (state : State) (action : Action) (next : State)
    (spoiled : Spoiled state) (stepped : step program state action = some next) : Spoiled next := by
  obtain ⟨child, member, how, ended, wrong⟩ := spoiled
  -- a child that has ended is not replaced but by itself, reaped
  have kept : ∀ place old new, state.children[place]? = some old →
      (old.ended = some how → new.ended = some how) →
      ∃ other ∈ state.children.set place new, ∃ how, other.ended = some how ∧ how ≠ .exited 0 := by
    intro place old new found same
    obtain ⟨i, inside, here⟩ := List.getElem_of_mem member
    by_cases replaced : place = i
    · subst replaced
      rw [List.getElem?_eq_getElem inside, here, Option.some.injEq] at found
      subst found
      exact ⟨new, List.mem_set inside new, how, same ended, wrong⟩
    · refine ⟨child, ?_, how, ended, wrong⟩
      rw [← here, ← List.getElem_set_ne replaced (by simpa using inside)]
      exact List.getElem_mem _
  cases step_takes program state action next stepped with
  | moved _ _ _ _ _ _ => exact ⟨child, member, how, ended, wrong⟩
  | threw _ _ => exact ⟨child, member, how, ended, wrong⟩
  | forked _ _ _ => exact ⟨child, List.mem_append_left _ member, how, ended, wrong⟩
  | refused _ _ _ => exact ⟨child, member, how, ended, wrong⟩
  | ended place _ asic reaped found => exact kept place _ _ found fun none => by cases none
  | reaped place _ asic _ found => exact kept place _ _ found id
  | strayed _ _ => exact ⟨child, member, how, ended, wrong⟩

/-- Steps on the way to `true` that do not end the spared child. -/
def Due (spared : Option Nat) (action : Action) : Prop :=
  action.isDue = true ∧ ∀ place how, action = .ends place how → spared ≠ some place

/-- What the function still does until it returns. -/
def left (program : Program) (state : State) : Nat :=
  state.pc.weight program + state.unended + state.unreaped

theorem due_descends (program : Program) (state : State) (action : Action) (next : State)
    (due : action.isDue = true) (stepped : step program state action = some next) :
    left program next < left program state := by
  cases step_takes program state action next stepped with
  | moved action pc alive same all lighter =>
      simp only [left, State.unended, State.unreaped]
      omega
  | threw action undue =>
      rw [due] at undue
      cases undue
  | forked asic rest opened =>
      simp only [left, State.unended, State.unreaped, List.countP_append, opened, Pc.weight]
      simp
      omega
  | refused asic rest opened => cases due
  | ended child how asic reaped found =>
      have reaping := replaced_count ⟨asic, some how, reaped⟩ found
        fun child => !child.reaped
      have ending := replaced_count ⟨asic, some how, reaped⟩ found
        fun child => child.ended.isNone
      simp only [left, State.unended, State.unreaped, Option.isNone_none, Option.isNone_some,
        if_true, Bool.false_eq_true, if_false] at reaping ending ⊢
      omega
  | reaped child how asic waits found =>
      have reaping := replaced_count ⟨asic, some how, true⟩ found
        fun child => !child.reaped
      have ending := replaced_count ⟨asic, some how, true⟩ found
        fun child => child.ended.isNone
      simp only [left, State.unended, State.unreaped, Bool.not_false, Bool.not_true, if_true,
        Bool.false_eq_true, if_false, Option.isNone_some] at reaping ending ⊢
      omega
  | strayed alive waits => cases due

/-- While a child other than the spared one is not reaped, it can end, or be
reaped. -/
theorem child_due (program : Program) (state : State) (spared : Option Nat) (place : Nat)
    (child : Child) (found : state.children[place]? = some child) (unreaped : child.reaped = false)
    (other : spared ≠ some place)
    (waits : ∀ child, state.wait program (.child child) = state.reap (.child child)) :
    ∃ action next, Due spared action ∧ step program state action = some next := by
  obtain ⟨asic, ended, reaped⟩ := child
  subst unreaped
  cases ended with
  | none =>
      have can : step program state (.ends place (.exited 0)) = some { state with
          children := state.children.set place ⟨asic, some (.exited 0), false⟩ } := by
        rw [step, State.ends, found]
      refine ⟨_, _, ⟨by rw [Action.isDue, decide_eq_true_iff], fun spare how same => ?_⟩, can⟩
      cases same
      exact other
  | some how =>
      have can : step program state (.wait (.child place)) = some { state with
          children := state.children.set place ⟨asic, some how, true⟩
          nWorkers := state.nWorkers - 1 } := by
        rw [step, waits, State.reap, found]
      exact ⟨_, _, ⟨rfl, fun spare how => Action.noConfusion⟩, can⟩

/-- A state on the way to `true`, on which the spared child never ends. -/
structure OnWay (program : Program) (spared : Option Nat) (state : State) : Prop where
  inv : Inv program state
  hopeful : ¬ state.Doomed
  spares : ∀ place ∈ spared, 1 ≤ state.strays ∧ state.failedForks = 0 ∧
    place < program.listed.length ∧ ∀ child ∈ state.children[place]?, child.ended = none

/-- Whenever the function waits, a child is there that can be waited for. -/
theorem waited_due (program : Program) (spared : Option Nat) (state : State)
    (onWay : OnWay program spared state) (busy : 0 < state.nWorkers)
    (waits : ∀ child, state.wait program (.child child) = state.reap (.child child)) :
    ∃ action next, Due spared action ∧ step program state action = some next := by
  obtain ⟨inv, hopeful, spares⟩ := onWay
  simp only [State.Doomed, not_or, Nat.not_lt] at hopeful
  have counted := inv.counted hopeful.1
  cases spared with
  | none =>
      obtain ⟨child, member, unreaped⟩ :=
        List.countP_pos_iff.mp (show 0 < state.unreaped by omega)
      obtain ⟨place, found⟩ := List.mem_iff_getElem?.mp member
      exact child_due program state none place child found (by simpa using unreaped)
        (by simp) waits
  | some spare =>
      -- two children are not reaped, and one of them is not spared
      have two : 1 < state.unreaped := by
        obtain ⟨strays, whole, _⟩ := spares spare rfl
        omega
      obtain ⟨place, child, found, unreaped, other⟩ :=
        counted_other (fun child : Child => !child.reaped) state.children spare two
      exact child_due program state (.some spare) place child found (by simpa using unreaped)
        (fun same => other (Option.some.inj same).symm) waits

theorem due_left (program : Program) (spared : Option Nat) (state : State)
    (onWay : OnWay program spared state) (short : state.pc ≠ .returned) :
    ∃ action next, Due spared action ∧ step program state action = some next := by
  have alive : state.pc ≠ .thrown := fun thrown => onWay.hopeful (Or.inl thrown)
  have due : ∀ action next, action.isDue = true → (∀ place how, action ≠ .ends place how) →
      step program state action = some next →
      ∃ action next, Due spared action ∧ step program state action = some next :=
    fun action next isDue moves stepped =>
      ⟨action, next, ⟨isDue, fun place how same => absurd same (moves place how)⟩, stepped⟩
  cases isPc : state.pc with
  | before stages =>
      cases stages with
      | nil =>
          exact due .proceed _ rfl (fun _ _ => Action.noConfusion)
            (by rw [step, State.proceed, isPc])
      | cons stage stages =>
          exact due (.statement true) _ rfl (fun _ _ => Action.noConfusion)
            (by rw [step, State.statement, isPc]; rfl)
  | next rest =>
      cases rest with
      | nil =>
          exact due .proceed _ rfl (fun _ _ => Action.noConfusion)
            (by rw [step, State.proceed, isPc])
      | cons asic rest =>
          exact due (.openFile true) _ rfl (fun _ _ => Action.noConfusion)
            (by rw [step, State.openFile, isPc])
  | opened asic rest =>
      exact due (.fork true) _ rfl (fun _ _ => Action.noConfusion)
        (by rw [step, State.fork, isPc]; rfl)
  | limiting rest =>
      by_cases full : program.maxWorkers ≤ state.nWorkers
      · have positive := program.positive
        refine waited_due program spared state onWay (by omega) fun child => ?_
        rw [State.wait, isPc]
        exact if_pos full
      · refine due .proceed { state with pc := .next rest } rfl (fun _ _ => Action.noConfusion) ?_
        rw [step, State.proceed, isPc]
        exact if_neg full
  | reaping =>
      by_cases busy : 0 < state.nWorkers
      · refine waited_due program spared state onWay busy fun child => ?_
        rw [State.wait, isPc]
        exact if_pos busy
      · refine due .proceed { state with pc := .behind program.behind } rfl
          (fun _ _ => Action.noConfusion) ?_
        rw [step, State.proceed, isPc]
        exact if_neg busy
  | behind stages =>
      cases stages with
      | nil =>
          exact due .proceed _ rfl (fun _ _ => Action.noConfusion)
            (by rw [step, State.proceed, isPc])
      | cons stage stages =>
          exact due (.statement true) _ rfl (fun _ _ => Action.noConfusion)
            (by rw [step, State.statement, isPc]; rfl)
  | returned => exact absurd isPc short
  | thrown => exact absurd isPc alive

theorem due_on_way (program : Program) (spared : Option Nat) (state : State) (action : Action)
    (next : State) (onWay : OnWay program spared state) (due : Due spared action)
    (stepped : step program state action = some next) : OnWay program spared next := by
  obtain ⟨inv, hopeful, spares⟩ := onWay
  refine ⟨step_inv program state action next inv stepped, ?_, ?_⟩
  · simp only [State.Doomed, not_or, Nat.not_lt] at hopeful ⊢
    cases step_takes program state action next stepped with
    | moved action pc alive same all lighter => exact ⟨alive, hopeful.2⟩
    | threw action undue => exact absurd (undue.symm.trans due.1) Bool.false_ne_true
    | forked asic rest opened => exact ⟨Pc.noConfusion, hopeful.2⟩
    | refused asic rest opened => exact absurd due.1 Bool.false_ne_true
    | ended child how asic reaped found => exact hopeful
    | reaped child how asic waits found => exact hopeful
    | strayed alive waits => exact absurd due.1 Bool.false_ne_true
  · intro place spare
    obtain ⟨strays, whole, listed, running⟩ := spares place spare
    cases step_takes program state action next stepped with
    | moved action pc alive same all lighter => exact ⟨strays, whole, listed, running⟩
    | threw action undue => exact ⟨strays, whole, listed, running⟩
    | forked asic rest opened =>
        refine ⟨strays, whole, listed, fun child here => ?_⟩
        rw [List.getElem?_append] at here
        split_ifs at here with old
        · exact running child here
        · rw [(List.mem_singleton.mp (List.mem_of_getElem? here))]
    | refused asic rest opened => exact absurd due.1 Bool.false_ne_true
    | ended other how asic reaped found =>
        have apart : other ≠ place := by
          rintro rfl
          exact due.2 other how rfl spare
        refine ⟨strays, whole, listed, fun child here => running child ?_⟩
        rwa [List.getElem?_set_ne apart] at here
    | reaped other how asic waits found =>
        have apart : other ≠ place := by
          rintro rfl
          cases running _ found
        refine ⟨strays, whole, listed, fun child here => running child ?_⟩
        rwa [List.getElem?_set_ne apart] at here
    | strayed alive waits => exact absurd due.1 Bool.false_ne_true

theorem due_orderly (program : Program) (spared : Option Nat) (state : State) (action : Action)
    (due : Due spared action) : Orderly program state action := by
  obtain ⟨isDue, _⟩ := due
  cases action with
  | ends child how => exact Or.inl (of_decide_eq_true isDue)
  | wait waited =>
      cases waited with
      | stray => cases isDue
      | _ => trivial
  | _ => trivial

theorem way_returns (program : Program) (spared : Option Nat) (state : State)
    (onWay : OnWay program spared state) :
    ∃ more final, Along (step program) (Orderly program) state more ∧
      run (step program) state more = some final ∧ OnWay program spared final ∧
      final.pc = .returned := by
  obtain ⟨more, final, due, ran, arrived, returned⟩ :=
    @goal_reached State Action (step program) (OnWay program spared)
      (fun state => state.pc = .returned) (Due spared) (left program)
      (fun state action next onWay _ due stepped =>
        due_on_way program spared state action next onWay due stepped)
      (due_left program spared)
      (fun state action next _ _ due stepped =>
        due_descends program state action next due.1 stepped)
      state onWay
  exact ⟨more, final, along_members (step program) more state fun action member state =>
    due_orderly program spared state action (due action member), ran, arrived, returned⟩

/-- After a child has ended otherwise, the function can still return `true`. -/
theorem spoiled_returns (program : Program) (state : State) (inv : Inv program state)
    (hopeful : ¬ state.Doomed) (spoiled : Spoiled state) :
    ∃ more final, Along (step program) (Orderly program) state more ∧
      run (step program) state more = some final ∧ ¬ Calibrated program final := by
  obtain ⟨more, final, along, ran, _, returned⟩ :=
    way_returns program none state ⟨inv, hopeful, fun _ none => by cases none⟩
  refine ⟨more, final, along, ran, fun calibrated => ?_⟩
  obtain ⟨child, member, how, ended, wrong⟩ :=
    run_invariant _ (step_spoiled program) more state final spoiled ran
  have normal := (calibrated returned).2 child member
  rw [ended, Option.some.injEq] at normal
  exact wrong normal

theorem step_failed (program : Program) (state : State) (action : Action) (next : State)
    (failed : state.failedForks ≠ 0) (stepped : step program state action = some next) :
    next.failedForks ≠ 0 := by
  cases step_takes program state action next stepped with
  | refused _ _ _ => exact Nat.succ_ne_zero _
  | _ => exact failed

/-- After another child was returned in the place of one of this call, the
function can return `true` without that one. -/
theorem strayed_returns (program : Program) (state : State) (inv : Inv program state)
    (hopeful : ¬ state.Doomed) (strays : 1 ≤ state.strays) (short : ¬ state.Complete program) :
    ∃ more final, Along (step program) (Orderly program) state more ∧
      run (step program) state more = some final ∧ ¬ Calibrated program final := by
  by_cases failed : state.failedForks = 0
  · obtain ⟨rest, remaining⟩ : ∃ rest, state.pc.remaining program = some rest := by
      have alive : state.pc ≠ .thrown := fun thrown => hopeful (Or.inl thrown)
      cases isPc : state.pc <;> first | exact ⟨_, rfl⟩ | exact absurd isPc alive
    have tried := inv.tried rest remaining
    -- one that runs, or else the next one, never ends
    obtain ⟨place, listed, running⟩ : ∃ place < program.listed.length,
        ∀ child ∈ state.children[place]?, child.ended = none := by
      by_cases ended : ∀ child ∈ state.children, child.ended ≠ none
      · refine ⟨state.children.length, ?_, fun child here => ?_⟩
        · cases rest with
          | nil => exact absurd ⟨remaining, failed, ended⟩ short
          | cons asic rest =>
              rw [List.length_cons] at tried
              omega
        · rw [List.getElem?_eq_none (Nat.le_refl _)] at here
          cases here
      · push Not at ended
        obtain ⟨child, member, running⟩ := ended
        obtain ⟨place, inside, rfl⟩ := List.getElem_of_mem member
        refine ⟨place, by omega, fun other here => ?_⟩
        rw [List.getElem?_eq_getElem inside] at here
        rw [← Option.some.inj here]
        exact running
    obtain ⟨more, final, along, ran, arrived, returned⟩ :=
      way_returns program (some place) state ⟨inv, hopeful, by
        rintro _ ⟨⟩
        exact ⟨strays, failed, listed, running⟩⟩
    refine ⟨more, final, along, ran, fun calibrated => ?_⟩
    obtain ⟨started, normal⟩ := calibrated returned
    have all : final.children.length = program.listed.length := by
      rw [← started, List.length_map]
    have inside : place < final.children.length := all ▸ listed
    have unended := (arrived.spares place rfl).2.2.2 _ (List.getElem?_eq_getElem inside)
    rw [normal _ (List.getElem_mem inside)] at unended
    cases unended
  · obtain ⟨more, final, along, ran, arrived, returned⟩ :=
      way_returns program none state ⟨inv, hopeful, fun _ none => by cases none⟩
    refine ⟨more, final, along, ran, fun calibrated => ?_⟩
    have missing := run_invariant _ (step_failed program) more state final failed ran
    have tried := arrived.inv.tried [] (by simp [Pc.remaining, returned])
    have all : final.children.length = program.listed.length := by
      rw [← (calibrated returned).1, List.length_map]
    rw [List.length_nil] at tried
    omega

/-- While every child ends with status 0 and `wait` returns no other, `true` means
that all ASICs are calibrated; and from every step where that fails, and still
mattered, an orderly way leads to `true` without. -/
def SuccessExact (program : Program) : Prop :=
  (∀ actions, Along (step program) (Orderly program) (start program) actions →
    Throughout (step program) (Calibrated program) (start program) actions) ∧
  ∀ actions state action next, run (step program) (start program) actions = some state →
    step program state action = some next → ¬ Orderly program state action →
    ∃ more final, Along (step program) (Orderly program) next more ∧
      run (step program) next more = some final ∧ ¬ Calibrated program final

theorem success_exact (program : Program) : SuccessExact program := by
  constructor
  · intro actions
    have sound : ∀ state, Inv program state ∧ Clean program state → Calibrated program state :=
      fun state inv => clean_calibrated program state inv.1 inv.2
    refine throughout_along _ sound ?_ actions _
      ⟨start_inv program, ⟨fun _ child member => (by cases member), fun _ => Or.inl rfl⟩⟩
    rintro state action next ⟨inv, clean⟩ stepped orderly
    exact ⟨step_inv program state action next inv stepped,
      step_clean program state action next clean stepped orderly⟩
  · intro actions state action next ran stepped disorderly
    have inv := run_invariant _ (step_inv program) actions _ state (start_inv program) ran
    have inv' := step_inv program state action next inv stepped
    cases action with
    | ends place how =>
        simp only [Orderly, not_or] at disorderly
        rw [step, State.ends] at stepped
        split at stepped
        · rename_i asic reaped found
          cases stepped
          obtain ⟨inside, _⟩ := List.getElem?_eq_some_iff.mp found
          exact spoiled_returns program _ inv' disorderly.2
            ⟨_, List.mem_set inside _, how, rfl, disorderly.1⟩
        · cases stepped
    | wait waited =>
        cases waited with
        | stray =>
            simp only [Orderly, not_or, Nat.not_lt] at disorderly
            obtain ⟨alive, rfl⟩ := stray_next program state next stepped
            refine strayed_returns program _ inv' ?_ (Nat.succ_pos _) fun complete =>
              disorderly.1 ⟨complete.started, complete.whole, complete.ended⟩
            rintro (thrown | failed)
            · exact alive thrown
            · exact absurd failed (Nat.not_lt.mpr disorderly.2)
        | _ => exact absurd trivial disorderly
    | _ => exact absurd trivial disorderly

theorem calibration_success (setting : Setting) (doSorting keepTemporary : Bool) :
    SuccessExact (runProcessTdcCalibration setting doSorting keepTemporary) ∧
      SuccessExact (runProcessQdcCalibration setting doSorting keepTemporary) :=
  ⟨success_exact _, success_exact _⟩

def oneAsic : Setting :=
  { listed := [⟨0, "tdc_00_00_00.tmp"⟩]
    nCPU := 4
    totalRamBytes := 2 ^ 34
    maxTmpFileSize := 0 }

def killed : List Action :=
  [.statement true, .statement true, .proceed, .openFile true, .fork true, .proceed, .proceed,
    .ends 0 (.signalled 9), .wait (.child 0), .proceed, .statement true, .statement true, .proceed]

theorem killed_child_succeeds :
    ¬ ∀ actions, Throughout (step (runProcessTdcCalibration oneAsic false true))
      (Calibrated (runProcessTdcCalibration oneAsic false true))
      (start (runProcessTdcCalibration oneAsic false true)) actions := by
  intro always
  have ran : run (step (runProcessTdcCalibration oneAsic false true))
      (start (runProcessTdcCalibration oneAsic false true)) killed =
      some ⟨.returned, [⟨⟨0, "tdc_00_00_00.tmp"⟩, some (.signalled 9), true⟩], 0, 0, 0⟩ := by decide
  have calibrated := throughout_last _ _ _ _ (always killed) ran
  have normal := (calibrated rfl).2 _ List.mem_cons_self
  cases normal

end GramsTof.ForkedCalibration
