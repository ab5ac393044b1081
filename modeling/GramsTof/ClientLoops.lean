import GramsTof.FDManager
import GramsTof.TransitionSystem

/-!
`run()` and `stop()` of `GRAMS_TOF_CommandClient` and `GRAMS_TOF_EventClient`
as far as they open and close descriptors. Both classes have the same loop; the
command loop reads `hubConnection_` once more after it has released the lock.
Each client has its own thread in `run` and a second thread that calls `stop`
and then destroys the client. Critical sections are one step, and so are the
calls that do not touch a descriptor or `hubConnection_`.
-/

namespace GramsTof.ClientLoops

open DescriptorTable TransitionSystem FDManager

/-- A `GRAMS_TOF_Client`: its `fd_`, and which connection it was made for. -/
structure Client where
  fd : Option Nat
  serial : Nat
  deriving DecidableEq, Repr

/-- The next statement of `run`, with its locals. A pc named `...Close` is at
the `::close` that follows an exchange in `SafeFD`. -/
inductive RunPc where
  | loopHead
  | resetOld
  | openSocket
  | setServer (fd : Handle)
  | setServerClose (fd old : Handle)
  | resolve (fd : Handle)
  | connect (fd : Handle)
  | failClose (fd : Handle)
  | failRemove
  | failRemoveClose (old : Handle)
  | makeClient (fd : Handle)
  | epollCreate
  | epollAdd (epoll : Handle)
  | epollClose (epoll : Handle)
  | drop
  | poll (epoll : Handle)
  | deref (epoll : Handle)
  | serve (epoll : Handle) (client : Nat)
  | lostRemove (epoll fd : Handle)
  | lostMark (epoll : Handle) (client : Nat)
  | lostReset (epoll : Handle)
  | closeEpoll (epoll : Handle)
  | exitRemove
  | exitRemoveClose (old : Handle)
  | done
  deriving DecidableEq, Repr

/-- The next statement of `stop`, and of the destructor after it. -/
inductive StopPc where
  | ready
  | take
  | read
  | remove (fd : Handle)
  | mark
  | join
  | removeSlot
  | removeSlotClose (old : Handle)
  | returned
  | destroy
  | gone
  deriving DecidableEq, Repr

/-- One client object with its two threads. `closing` is `client_to_close`. -/
structure Worker where
  run : RunPc
  stop : StopPc
  running : Bool
  hub : Option Client
  closing : Option Client
  deriving DecidableEq, Repr

structure State where
  fds : Descriptors
  workers : Kind → Worker

def start : State :=
  { fds := initial
    workers := fun _ =>
      { run := .loopHead, stop := .ready, running := true, hub := none, closing := none } }

/-- `outcome` is what the next fallible call gives: `socket`, `inet_pton`,
`connect`, `epoll_create1` and `epoll_ctl` succeed, `epoll_pwait` reports an
event, the received data leaves the connection up. -/
inductive Action where
  | run (kind : Kind) (outcome : Bool)
  | stop (kind : Kind)
  | openOther
  | closeOther (number : Nat)
  deriving DecidableEq, Repr

def State.set (state : State) (fds : Descriptors) (kind : Kind) (worker : Worker) : State :=
  { fds := fds, workers := Function.update state.workers kind worker }

/-- The destructor of a connection object: `closeFD`. -/
def destroyClient (fds : Descriptors) (kind : Kind) : Option Client → Descriptors
  | some ⟨some number, serial⟩ => fds.removeClientFD kind ⟨number, serial⟩
  | _ => fds

/-- The object a reference to connection `serial` denotes. -/
def Worker.client (worker : Worker) (serial : Nat) : Option Client :=
  (worker.hub.filter (·.serial = serial)).or (worker.closing.filter (·.serial = serial))

/-- `fd_ = -1` in the object of connection `serial`. -/
def Worker.mark (worker : Worker) (serial : Nat) : Worker :=
  { worker with
    hub := worker.hub.map fun client =>
      if client.serial = serial then { client with fd := none } else client
    closing := worker.closing.map fun client =>
      if client.serial = serial then { client with fd := none } else client }

def runStep (state : State) (kind : Kind) (outcome : Bool) : Option State :=
  let worker := state.workers kind
  let fds := state.fds
  match worker.run with
  | .loopHead =>
      some (state.set fds kind
        { worker with run := if worker.running then .resetOld else .exitRemove })
  | .resetOld =>
      some (state.set (destroyClient fds kind worker.hub) kind
        { worker with run := .openSocket, hub := none })
  | .openSocket =>
      if outcome then
        some (state.set (fds.socket kind).2 kind
          { worker with run := .setServer (fds.socket kind).1 })
      else some (state.set fds kind { worker with run := .loopHead })
  | .setServer fd =>
      let (old, after) := fds.exchange kind (some fd)
      some (state.set after kind
        { worker with run := match old with
          | some old => .setServerClose fd old
          | none => .resolve fd })
  | .setServerClose fd old =>
      some (state.set (fds.close (.socket kind old.serial) old.number) kind
        { worker with run := .resolve fd })
  | .resolve fd =>
      some (state.set fds kind
        { worker with run := if outcome then .connect fd else .failClose fd })
  | .connect fd =>
      some (state.set fds kind
        { worker with run := if outcome then .makeClient fd else .failClose fd })
  | .failClose fd =>
      -- `serverFDs_` keeps the number that is closed here
      some (state.set (fds.close (.socket kind fd.serial) fd.number) kind
        { worker with run := .failRemove })
  | .failRemove =>
      let (old, after) := fds.exchange kind none
      some (state.set after kind
        { worker with run := match old with
          | some old => .failRemoveClose old
          | none => .loopHead })
  | .failRemoveClose old =>
      some (state.set (fds.close (.socket kind old.serial) old.number) kind
        { worker with run := .loopHead })
  | .makeClient fd =>
      -- `hubConnection_` is empty here: only this thread fills it, and it has reset it
      some (state.set (fds.addClientFD kind fd) kind
        { worker with run := .epollCreate, hub := some ⟨some fd.number, fd.serial⟩ })
  | .epollCreate =>
      if outcome then
        some (state.set (fds.epollCreate kind).2 kind
          { worker with run := .epollAdd (fds.epollCreate kind).1 })
      else some (state.set fds kind { worker with run := .drop })
  | .epollAdd epoll =>
      some (state.set fds kind
        { worker with run := if outcome then .poll epoll else .epollClose epoll })
  | .epollClose epoll =>
      some (state.set (fds.close (.epoll kind epoll.serial) epoll.number) kind
        { worker with run := .drop })
  | .drop =>
      some (state.set (destroyClient fds kind worker.hub) kind
        { worker with run := .loopHead, hub := none })
  | .poll epoll =>
      if worker.running = false then
        some (state.set fds kind { worker with run := .closeEpoll epoll })
      else if outcome = false then some state
      else match worker.hub with
        | none => some (state.set fds kind { worker with run := .closeEpoll epoll })
        | some client =>
            some (state.set fds kind
              { worker with run := match kind with
                | .command => .deref epoll
                | .event => .serve epoll client.serial })
  | .deref epoll =>
      -- `**clientPtr` of a pointer that `stop` has moved from is undefined
      worker.hub.map fun client =>
        state.set fds kind { worker with run := .serve epoll client.serial }
  | .serve epoll serial =>
      if outcome then some (state.set fds kind { worker with run := .poll epoll })
      else (worker.client serial).map fun client =>
        state.set fds kind
          { worker with run := match client.fd with
            | some number => .lostRemove epoll ⟨number, serial⟩
            | none => .lostReset epoll }
  | .lostRemove epoll fd =>
      some (state.set (fds.removeClientFD kind fd) kind
        { worker with run := .lostMark epoll fd.serial })
  | .lostMark epoll serial =>
      some (state.set fds kind { worker.mark serial with run := .lostReset epoll })
  | .lostReset epoll =>
      some (state.set (destroyClient fds kind worker.hub) kind
        { worker with run := .closeEpoll epoll, hub := none })
  | .closeEpoll epoll =>
      some (state.set (fds.close (.epoll kind epoll.serial) epoll.number) kind
        { worker with run := .loopHead })
  | .exitRemove =>
      let (old, after) := fds.exchange kind none
      some (state.set after kind
        { worker with run := match old with
          | some old => .exitRemoveClose old
          | none => .done })
  | .exitRemoveClose old =>
      some (state.set (fds.close (.socket kind old.serial) old.number) kind
        { worker with run := .done })
  | .done => none

def stopStep (state : State) (kind : Kind) : Option State :=
  let worker := state.workers kind
  let fds := state.fds
  match worker.stop with
  | .ready => some (state.set fds kind { worker with running := false, stop := .take })
  | .take =>
      some (state.set fds kind
        { worker with
          hub := none
          closing := worker.hub
          stop := match worker.hub with
            | some _ => .read
            | none => .join })
  | .read =>
      some (state.set fds kind
        { worker with stop := match worker.closing with
          | some ⟨some number, serial⟩ => .remove ⟨number, serial⟩
          | _ => .join })
  | .remove fd =>
      some (state.set (fds.removeClientFD kind fd) kind { worker with stop := .mark })
  | .mark =>
      some (state.set fds kind
        { worker with
          closing := worker.closing.map fun client => { client with fd := none }
          stop := .join })
  | .join =>
      if worker.run = .done then some (state.set fds kind { worker with stop := .removeSlot })
      else none
  | .removeSlot =>
      let (old, after) := fds.exchange kind none
      some (state.set after kind
        { worker with stop := match old with
          | some old => .removeSlotClose old
          | none => .returned })
  | .removeSlotClose old =>
      some (state.set (fds.close (.socket kind old.serial) old.number) kind
        { worker with stop := .returned })
  | .returned =>
      some (state.set (destroyClient fds kind worker.closing) kind
        { worker with stop := .destroy, closing := none })
  | .destroy =>
      -- `hubConnection_` is a member of the client itself
      some (state.set (destroyClient fds kind worker.hub) kind
        { worker with stop := .gone, hub := none })
  | .gone => none

def step (state : State) : Action → Option State
  | .run kind outcome => runStep state kind outcome
  | .stop kind => stopStep state kind
  | .openOther => some { state with fds := state.fds.openOther }
  | .closeOther number =>
      (state.fds.closeOther number).map fun fds => { state with fds := fds }

def RunPc.connecting : RunPc → Option Handle
  | .setServer fd | .setServerClose fd _ | .resolve fd | .connect fd | .failClose fd
  | .makeClient fd => some fd
  | _ => none

def RunPc.closing : RunPc → Option Handle
  | .setServerClose _ old | .failRemoveClose old | .exitRemoveClose old => some old
  | _ => none

def RunPc.polling : RunPc → Option Handle
  | .epollAdd epoll | .epollClose epoll | .poll epoll | .deref epoll | .serve epoll _
  | .lostRemove epoll _ | .lostMark epoll _ | .lostReset epoll | .closeEpoll epoll => some epoll
  | _ => none

def RunPc.view (pc : RunPc) : View := ⟨pc.connecting, pc.closing, pc.polling⟩

def StopPc.closing : StopPc → Option Handle
  | .removeSlotClose old => some old
  | _ => none

/-- `stop` has joined the thread in `run`. -/
def StopPc.joined : StopPc → Bool
  | .removeSlot | .removeSlotClose _ | .returned | .destroy | .gone => true
  | _ => false

def Worker.view (worker : Worker) : View :=
  { connecting := worker.run.connecting
    closing := worker.stop.closing.or worker.run.closing
    polling := worker.run.polling }

def State.views (state : State) : Kind → View := fun kind => (state.workers kind).view

/-- What `serverFDs_` holds is still registered in `clientFDs_`. -/
def SlotRegistered (fds : Descriptors) (kind : Kind) : Prop :=
  ∀ old ∈ fds.serverFDs kind, fds.Registered kind old

/-- The entry to be erased, if there is one, is of the same connection, and
`serverFDs_` still holds that connection. -/
def EntryPaired (fds : Descriptors) (kind : Kind) (fd : Handle) : Prop :=
  fds.clientFDs fd.number ≠ none → fds.Registered kind fd ∧ fds.serverFDs kind = some fd

def held : Option Client → List Handle
  | some ⟨some number, serial⟩ => [⟨number, serial⟩]
  | _ => []

/-- The next statement takes the number out of `serverFDs_`. -/
def RunPc.exchanges : RunPc → Bool
  | .setServer _ | .failRemove | .exitRemove => true
  | _ => false

def StopPc.exchanges : StopPc → Bool
  | .removeSlot => true
  | _ => false

/-- The numbers the next statement of `run` removes from `clientFDs_`. -/
def Worker.runErases (worker : Worker) : List Handle :=
  match worker.run with
  | .resetOld | .drop | .lostReset _ => held worker.hub
  | .lostRemove _ fd => [fd]
  | _ => []

def Worker.stopErases (worker : Worker) : List Handle :=
  match worker.stop with
  | .remove fd => [fd]
  | .returned => held worker.closing
  | .destroy => held worker.hub
  | _ => []

/-- A registry gives a number up only while the other registry still has the
same connection. -/
def BothHold (state : State) : Action → Prop
  | .run kind _ =>
      ((state.workers kind).run.exchanges = true → SlotRegistered state.fds kind) ∧
        ∀ fd ∈ (state.workers kind).runErases, EntryPaired state.fds kind fd
  | .stop kind =>
      ((state.workers kind).stop.exchanges = true → SlotRegistered state.fds kind) ∧
        ∀ fd ∈ (state.workers kind).stopErases, EntryPaired state.fds kind fd
  | .openOther => True
  | .closeOther _ => True

instance (fds : Descriptors) (kind : Kind) : Decidable (SlotRegistered fds kind) :=
  inferInstanceAs (Decidable (∀ old ∈ fds.serverFDs kind, fds.Registered kind old))

instance (fds : Descriptors) (kind : Kind) (fd : Handle) : Decidable (EntryPaired fds kind fd) :=
  inferInstanceAs (Decidable (_ ≠ _ → _ ∧ _ = _))

instance (state : State) : (action : Action) → Decidable (BothHold state action)
  | .run kind _ => inferInstanceAs (Decidable (
      ((state.workers kind).run.exchanges = true → SlotRegistered state.fds kind) ∧
        ∀ fd ∈ (state.workers kind).runErases, EntryPaired state.fds kind fd))
  | .stop kind => inferInstanceAs (Decidable (
      ((state.workers kind).stop.exchanges = true → SlotRegistered state.fds kind) ∧
        ∀ fd ∈ (state.workers kind).stopErases, EntryPaired state.fds kind fd))
  | .openOther => inferInstanceAs (Decidable True)
  | .closeOther _ => inferInstanceAs (Decidable True)

structure LoopInv (state : State) : Prop where
  fds : Inv state.fds state.views
  joined : ∀ kind, (state.workers kind).stop.joined = true → (state.workers kind).run = .done

theorem views_set (state : State) (fds : Descriptors) (kind : Kind) (worker : Worker) :
    (state.set fds kind worker).views = put state.views kind worker.view := by
  funext other
  by_cases same : other = kind
  · subst same
    simp [State.views, State.set, put]
  · simp [State.views, State.set, put, same]

theorem LoopInv.set {state : State} (inv : LoopInv state) (after : Descriptors) (kind : Kind)
    (worker : Worker) (fds : Inv after (put state.views kind worker.view))
    (joined : worker.stop.joined = true → worker.run = .done) :
    LoopInv (state.set after kind worker) := by
  refine ⟨by rw [views_set]; exact fds, fun other => ?_⟩
  by_cases same : other = kind
  · subst same
    simpa [State.set] using joined
  · simpa [State.set, same] using inv.joined other

/-- As long as `run` has a step, only it takes numbers out of `serverFDs_`. -/
theorem stop_idle {state : State} (inv : LoopInv state) (kind : Kind)
    (running : (state.workers kind).run ≠ .done) :
    (state.workers kind).stop.joined = false ∧ (state.workers kind).stop.closing = none := by
  have joined : (state.workers kind).stop.joined = false := by
    by_contra set
    exact running (inv.joined kind (by simpa using set))
  refine ⟨joined, ?_⟩
  cases pc : (state.workers kind).stop <;> rw [pc] at joined <;> first | rfl | cases joined

theorem destroy_client_keeps {fds : Descriptors} {views : Kind → View} (inv : Inv fds views)
    (kind : Kind) (client : Option Client)
    (paired : ∀ fd ∈ held client, EntryPaired fds kind fd) :
    Inv (destroyClient fds kind client) views := by
  cases client with
  | none => exact inv
  | some client =>
      obtain ⟨fd, serial⟩ := client
      cases fd with
      | none => exact inv
      | some number => exact remove_client_keeps inv kind _ (paired _ (List.mem_singleton_self _))

theorem quiet_keeps {fds : Descriptors} {views : Kind → View} (inv : Inv fds views) (kind : Kind)
    (closing : Option Handle) (same : closing = (views kind).closing) :
    Inv fds (put views kind { views kind with closing := closing }) := by
  subst same
  exact inv.put (inv.hands kind)

/-- What a step of `run` does to the descriptors, and the statement it ends at. -/
inductive RunEffect (state : State) (kind : Kind) : Descriptors → RunPc → Prop where
  | moves {next : RunPc} (same : next.view = (state.workers kind).run.view) :
      RunEffect state kind state.fds next
  | destroys {next : RunPc} (erases : (state.workers kind).runErases = held (state.workers kind).hub)
      (same : next.view = (state.workers kind).run.view) :
      RunEffect state kind (destroyClient state.fds kind (state.workers kind).hub) next
  | removes {fd : Handle} {next : RunPc} (erased : fd ∈ (state.workers kind).runErases)
      (same : next.view = (state.workers kind).run.view) :
      RunEffect state kind (state.fds.removeClientFD kind fd) next
  | exchanges {fd : Option Handle} {next : RunPc}
      (here : (state.workers kind).run.exchanges = true)
      (own : ∀ new, fd = some new → (state.workers kind).run.connecting = fd)
      (takes : next.view =
        { (state.workers kind).run.view with closing := (state.fds.exchange kind fd).1 }) :
      RunEffect state kind (state.fds.exchange kind fd).2 next
  | closesReplaced {old : Handle} {next : RunPc}
      (taken : (state.workers kind).run.closing = some old)
      (drops : next.view = { (state.workers kind).run.view with closing := none }) :
      RunEffect state kind (state.fds.close (.socket kind old.serial) old.number) next
  | closesFailed {fd : Handle} {next : RunPc}
      (taken : (state.workers kind).run.connecting = some fd)
      (drops : next.view = { (state.workers kind).run.view with connecting := none }) :
      RunEffect state kind (state.fds.close (.socket kind fd.serial) fd.number) next
  | closesEpoll {epoll : Handle} {next : RunPc}
      (taken : (state.workers kind).run.polling = some epoll)
      (drops : next.view = { (state.workers kind).run.view with polling := none }) :
      RunEffect state kind (state.fds.close (.epoll kind epoll.serial) epoll.number) next
  | opensSocket {next : RunPc} (takes : next.view = { (state.workers kind).run.view with
        connecting := some (state.fds.socket kind).1 }) :
      RunEffect state kind (state.fds.socket kind).2 next
  | opensEpoll {next : RunPc} (takes : next.view = { (state.workers kind).run.view with
        polling := some (state.fds.epollCreate kind).1 }) :
      RunEffect state kind (state.fds.epollCreate kind).2 next
  | adds {fd : Handle} {next : RunPc} (taken : (state.workers kind).run.connecting = some fd)
      (drops : next.view = { (state.workers kind).run.view with connecting := none }) :
      RunEffect state kind (state.fds.addClientFD kind fd) next

theorem run_step_effect {state next : State} {kind : Kind} {outcome : Bool}
    (stepped : runStep state kind outcome = some next) :
    next = state ∨ ∃ after worker, next = state.set after kind worker ∧
      worker.stop = (state.workers kind).stop ∧ RunEffect state kind after worker.run := by
  unfold runStep at stepped
  cases pc : (state.workers kind).run <;> simp only [pc] at stepped
  case done => cases stepped
  -- the test of the loop, and what may fail
  case loopHead | resolve fd | connect fd | epollAdd epoll =>
    cases stepped
    refine Or.inr ⟨_, _, rfl, rfl, .moves ?_⟩
    rw [pc]
    dsimp only
    split <;> rfl
  case openSocket =>
    split at stepped
    · cases stepped
      exact Or.inr ⟨_, _, rfl, rfl, .opensSocket (by rw [pc]; rfl)⟩
    · cases stepped
      exact Or.inr ⟨_, _, rfl, rfl, .moves (by rw [pc]; rfl)⟩
  case epollCreate =>
    split at stepped
    · cases stepped
      exact Or.inr ⟨_, _, rfl, rfl, .opensEpoll (by rw [pc]; rfl)⟩
    · cases stepped
      exact Or.inr ⟨_, _, rfl, rfl, .moves (by rw [pc]; rfl)⟩
  case makeClient fd =>
    cases stepped
    exact Or.inr ⟨_, _, rfl, rfl, .adds (by rw [pc]; rfl) (by rw [pc]; rfl)⟩
  -- a number goes into `serverFDs_` or out of it
  case setServer fd =>
    cases stepped
    refine Or.inr ⟨_, _, rfl, rfl, .exchanges (by rw [pc]; rfl) (fun new same => ?_) ?_⟩
    · rw [pc]
      rfl
    · rw [pc]
      cases (state.fds.exchange kind (some fd)).1 <;> rfl
  case failRemove | exitRemove =>
    cases stepped
    refine Or.inr ⟨_, _, rfl, rfl, .exchanges (by rw [pc]; rfl) (fun new same => ?_) ?_⟩
    · cases same
    · rw [pc]
      cases (state.fds.exchange kind none).1 <;> rfl
  case setServerClose fd old | failRemoveClose old | exitRemoveClose old =>
    cases stepped
    exact Or.inr ⟨_, _, rfl, rfl, .closesReplaced (by rw [pc]; rfl) (by rw [pc]; rfl)⟩
  case failClose fd =>
    cases stepped
    exact Or.inr ⟨_, _, rfl, rfl, .closesFailed (by rw [pc]; rfl) (by rw [pc]; rfl)⟩
  case epollClose epoll | closeEpoll epoll =>
    cases stepped
    exact Or.inr ⟨_, _, rfl, rfl, .closesEpoll (by rw [pc]; rfl) (by rw [pc]; rfl)⟩
  -- an object is destroyed, or its number taken out of `clientFDs_`
  case resetOld | drop | lostReset epoll =>
    cases stepped
    refine Or.inr ⟨_, _, rfl, rfl, .destroys ?_ (by rw [pc]; rfl)⟩
    rw [Worker.runErases, pc]
  case lostRemove epoll fd =>
    cases stepped
    refine Or.inr ⟨_, _, rfl, rfl, .removes ?_ (by rw [pc]; rfl)⟩
    rw [Worker.runErases, pc]
    exact List.mem_singleton_self fd
  case poll epoll =>
    split at stepped
    · cases stepped
      exact Or.inr ⟨_, _, rfl, rfl, .moves (by rw [pc]; rfl)⟩
    split at stepped
    · cases stepped
      exact Or.inl rfl
    split at stepped
    · cases stepped
      exact Or.inr ⟨_, _, rfl, rfl, .moves (by rw [pc]; rfl)⟩
    · cases stepped
      exact Or.inr ⟨_, _, rfl, rfl, .moves (by rw [pc]; cases kind <;> rfl)⟩
  case deref epoll =>
    obtain ⟨client, _, rfl⟩ := Option.map_eq_some_iff.mp stepped
    exact Or.inr ⟨_, _, rfl, rfl, .moves (by rw [pc]; rfl)⟩
  case serve epoll serial =>
    split at stepped
    · cases stepped
      exact Or.inr ⟨_, _, rfl, rfl, .moves (by rw [pc]; rfl)⟩
    · obtain ⟨client, _, rfl⟩ := Option.map_eq_some_iff.mp stepped
      refine Or.inr ⟨_, _, rfl, rfl, .moves ?_⟩
      rw [pc]
      dsimp only
      split <;> rfl
  case lostMark epoll serial =>
    cases stepped
    exact Or.inr ⟨_, _, rfl, rfl, .moves (by rw [pc]; rfl)⟩

theorem LoopInv.runSet {state : State} (inv : LoopInv state) (kind : Kind) (after : Descriptors)
    (worker : Worker) (running : (state.workers kind).run ≠ .done)
    (stop : worker.stop = (state.workers kind).stop)
    (fds : Inv after (put state.views kind worker.run.view)) :
    LoopInv (state.set after kind worker) := by
  obtain ⟨early, idle⟩ := stop_idle inv kind running
  refine inv.set after kind worker ?_ fun joined => ?_
  · rw [Worker.view, stop, idle]
    exact fds
  · rw [stop, early] at joined
    cases joined

theorem run_view {state : State} (inv : LoopInv state) (kind : Kind)
    (running : (state.workers kind).run ≠ .done) :
    state.views kind = (state.workers kind).run.view := by
  obtain ⟨_, idle⟩ := stop_idle inv kind running
  simp only [State.views, Worker.view, RunPc.view, idle, Option.none_or]

theorem run_effect_keeps {state : State} {kind : Kind} {after : Descriptors} {next : RunPc}
    (inv : Inv state.fds state.views)
    (view : state.views kind = (state.workers kind).run.view) (outcome : Bool)
    (both : BothHold state (.run kind outcome)) (effect : RunEffect state kind after next) :
    Inv after (put state.views kind next.view) := by
  obtain ⟨registered, paired⟩ := both
  have connecting := congrArg View.connecting view
  have closing := congrArg View.closing view
  have polling := congrArg View.polling view
  cases effect with
  | moves same =>
      rw [same, ← view]
      exact quiet_keeps inv kind _ rfl
  | destroys erases same =>
      rw [same, ← view]
      exact quiet_keeps (destroy_client_keeps inv kind _ (erases ▸ paired)) kind _ rfl
  | @removes fd _ erased same =>
      rw [same, ← view]
      exact quiet_keeps (remove_client_keeps inv kind fd (paired fd erased)) kind _ rfl
  | @exchanges fd _ here own takes =>
      rw [takes, ← view]
      exact exchange_keeps inv kind fd (fun new same => connecting.trans (own new same))
        (registered here)
  | @closesReplaced old _ taken drops =>
      rw [drops, ← view]
      exact close_closing_keeps inv kind old (closing.trans taken)
  | @closesFailed fd _ taken drops =>
      rw [drops, ← view]
      exact close_connecting_keeps inv kind fd (connecting.trans taken)
  | @closesEpoll epoll _ taken drops =>
      rw [drops, ← view]
      exact close_polling_keeps inv kind epoll (polling.trans taken)
  | opensSocket takes =>
      rw [takes, ← view]
      exact socket_keeps inv kind
  | opensEpoll takes =>
      rw [takes, ← view]
      exact epoll_create_keeps inv kind
  | @adds fd _ taken drops =>
      rw [drops, ← view]
      exact add_client_keeps inv kind fd (connecting.trans taken)

theorem run_step_keeps (state next : State) (kind : Kind) (outcome : Bool) (inv : LoopInv state)
    (stepped : runStep state kind outcome = some next)
    (both : BothHold state (.run kind outcome)) : LoopInv next := by
  have running : (state.workers kind).run ≠ .done := by
    intro done
    simp [runStep, done] at stepped
  obtain rfl | ⟨after, worker, rfl, stop, effect⟩ := run_step_effect stepped
  · exact inv
  · exact inv.runSet kind after worker running stop
      (run_effect_keeps inv.fds (run_view inv kind running) outcome both effect)

theorem LoopInv.stopSet {state : State} (inv : LoopInv state) (kind : Kind) (after : Descriptors)
    (worker : Worker) (run : worker.run = (state.workers kind).run)
    (fds : Inv after (put state.views kind { state.views kind with
      closing := worker.stop.closing.or (state.workers kind).run.closing }))
    (joined : worker.stop.joined = true → (state.workers kind).run = .done) :
    LoopInv (state.set after kind worker) := by
  refine inv.set after kind worker ?_ (by rw [run]; exact joined)
  rw [Worker.view, run]
  exact fds

theorem stop_step_keeps (state next : State) (kind : Kind) (inv : LoopInv state)
    (stepped : stopStep state kind = some next) (both : BothHold state (.stop kind)) :
    LoopInv next := by
  have open_fds := inv.fds
  have joined := inv.joined kind
  have closing : (state.views kind).closing =
      (state.workers kind).stop.closing.or (state.workers kind).run.closing := rfl
  obtain ⟨registered, paired⟩ := both
  unfold Worker.stopErases at paired
  unfold stopStep at stepped
  cases pc : (state.workers kind).stop with
  | ready =>
      simp only [pc] at stepped closing
      cases stepped
      exact inv.stopSet kind _ _ rfl (quiet_keeps open_fds kind _ closing.symm)
        fun set => by cases set
  | take =>
      simp only [pc] at stepped closing
      cases stepped
      refine inv.stopSet kind _ _ rfl (quiet_keeps open_fds kind _ ?_) ?_
      · rw [closing]
        cases (state.workers kind).hub <;> rfl
      · cases (state.workers kind).hub <;> exact fun set => by cases set
  | read =>
      simp only [pc] at stepped closing
      cases stepped
      refine inv.stopSet kind _ _ rfl (quiet_keeps open_fds kind _ ?_) ?_
      · rw [closing]
        dsimp only
        split <;> rfl
      · dsimp only
        split <;> exact fun set => by cases set
  | remove fd =>
      simp only [pc] at stepped closing paired
      cases stepped
      have removed := remove_client_keeps open_fds kind fd (paired fd (List.mem_singleton_self fd))
      exact inv.stopSet kind _ _ rfl (quiet_keeps removed kind _ closing.symm)
        fun set => by cases set
  | mark =>
      simp only [pc] at stepped closing
      cases stepped
      exact inv.stopSet kind _ _ rfl (quiet_keeps open_fds kind _ closing.symm)
        fun set => by cases set
  | join =>
      simp only [pc] at stepped closing
      split at stepped
      · next done =>
          cases stepped
          exact inv.stopSet kind _ _ rfl (quiet_keeps open_fds kind _ closing.symm)
            fun _ => done
      · cases stepped
  | removeSlot =>
      -- the thread in `run` is joined, so the number taken out is in these hands only
      have done := joined (by rw [pc]; rfl)
      simp only [pc] at stepped registered
      have exchanged := exchange_keeps open_fds kind none (fun _ same => by cases same)
        (registered rfl)
      cases stepped
      refine inv.stopSet kind _ _ rfl ?_ fun _ => done
      rw [done]
      cases taken : (state.fds.exchange kind none).1 with
      | none =>
          rw [taken] at exchanged
          exact exchanged
      | some old =>
          rw [taken] at exchanged
          exact exchanged
  | removeSlotClose old =>
      have done := joined (by rw [pc]; rfl)
      simp only [pc] at stepped closing
      have closed := close_closing_keeps open_fds kind old (by rw [closing]; rfl)
      cases stepped
      refine inv.stopSet kind _ _ rfl ?_ fun _ => done
      rw [done]
      exact closed
  | returned =>
      have done := joined (by rw [pc]; rfl)
      simp only [pc] at stepped closing paired
      cases stepped
      have dropped := destroy_client_keeps open_fds kind _ paired
      exact inv.stopSet kind _ _ rfl (quiet_keeps dropped kind _ closing.symm) fun _ => done
  | destroy =>
      have done := joined (by rw [pc]; rfl)
      simp only [pc] at stepped closing paired
      cases stepped
      have dropped := destroy_client_keeps open_fds kind _ paired
      exact inv.stopSet kind _ _ rfl (quiet_keeps dropped kind _ closing.symm) fun _ => done
  | gone =>
      simp only [pc] at stepped
      cases stepped

theorem start_inv : LoopInv start where
  fds := initial_inv
  joined := fun _ set => by cases set

theorem step_keeps (state : State) (action : Action) (next : State) (inv : LoopInv state)
    (stepped : step state action = some next) (both : BothHold state action) : LoopInv next := by
  cases action with
  | run kind outcome => exact run_step_keeps state next kind outcome inv stepped both
  | stop kind => exact stop_step_keeps state next kind inv stepped both
  | openOther =>
      cases stepped
      exact ⟨open_other_keeps inv.fds, inv.joined⟩
  | closeOther number =>
      obtain ⟨fds, closed, rfl⟩ := Option.map_eq_some_iff.mp stepped
      exact ⟨close_other_keeps inv.fds number closed, inv.joined⟩

/-- In a run in which a registry gives a number up only while the other one
still has the connection, every close finds the object it is meant for, and no
object is closed twice. -/
theorem descriptors_closed_once (actions : List Action) (final : State)
    (both : Along step BothHold start actions) (ran : run step start actions = some final) :
    Sound final.fds :=
  (run_keeps step step_keeps actions start final start_inv both ran).fds.sound

def connected (kind : Kind) : List Action :=
  List.replicate (match kind with
    | .command => 11
    | .event => 10) (.run kind true)

/-- Both clients connect, and the command connection is lost. -/
def lostOnce : List Action :=
  connected .command ++ connected .event ++ List.replicate 5 (.run .command false)

theorem descriptors_closed_once_lost :
    ∃ final, run step start lostOnce = some final ∧ final.fds.closes ≠ [] ∧ Sound final.fds := by
  refine ⟨(run step start lostOnce).get (by decide +kernel), (Option.some_get _).symm,
    by decide +kernel, ?_⟩
  exact descriptors_closed_once lostOnce _ (by decide +kernel) (Option.some_get _).symm

/-- A refused connection is closed by the loop, and its number once more by
`removeServerFD`. -/
theorem refused_connection_closed_twice :
    ∃ final, run step start (List.replicate 5 (.run .command true) ++
        List.replicate 4 (.run .command false)) = some final ∧ ¬ Sound final.fds := by
  refine ⟨(run step start (List.replicate 5 (.run .command true) ++
    List.replicate 4 (.run .command false))).get (by decide +kernel), (Option.some_get _).symm, ?_⟩
  decide +kernel

end GramsTof.ClientLoops
