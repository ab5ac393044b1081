import GramsTof.ClientLoops

/-!
The connection objects of the two client loops: which object the next
statement of `run` uses, and which entries `stop` leaves in the registries.
`stop` moves the object away while `run` may have it in hand, and destroys it
after the join; `run` may store a new one after `stop` has looked. There is
never more than one object, in `hubConnection_` or in `client_to_close`.
-/

namespace GramsTof.ConnectionUse

open DescriptorTable TransitionSystem FDManager ClientLoops

/-- The object the next statement of `run` uses is there. -/
def UseSafe (worker : Worker) : Prop :=
  match worker.run with
  | .deref _ => worker.hub ≠ none
  | .serve _ serial | .lostMark _ serial => worker.client serial ≠ none
  | .lostRemove _ fd => worker.client fd.serial ≠ none
  | _ => True

def Returned : StopPc → Bool
  | .destroy | .gone => true
  | _ => false

/-- After `stop` no descriptor of the client is registered. -/
def Unregistered (fds : Descriptors) (kind : Kind) : Prop :=
  fds.serverFDs kind = none ∧ ∀ fd, ¬ fds.Registered kind fd

def Safe (state : State) : Prop :=
  ∀ kind, UseSafe (state.workers kind) ∧
    (Returned (state.workers kind).stop = true → Unregistered state.fds kind)

def Taken : StopPc → Bool
  | .ready | .take => false
  | _ => true

def Dereferencing : RunPc → Bool
  | .deref _ => true
  | _ => false

def Adding : RunPc → Bool
  | .epollAdd _ => true
  | _ => false

/-- `stop` does not take the object between the locked test and the
dereference, and a connection on which `epoll_ctl` succeeds was not stored
after `stop` had looked. -/
def Undisturbed (state : State) : Action → Prop
  | .stop kind => (state.workers kind).stop = .take →
      Dereferencing (state.workers kind).run = false
  | .run kind outcome => Adding (state.workers kind).run = true → outcome = true →
      Taken (state.workers kind).stop = true → (state.workers kind).hub = none
  | .openOther => True
  | .closeOther _ => True

instance (state : State) : (action : Action) → Decidable (Undisturbed state action)
  | .stop _ => inferInstanceAs (Decidable (_ → _))
  | .run _ _ => inferInstanceAs (Decidable (_ → _ → _ → _))
  | .openOther => inferInstanceAs (Decidable True)
  | .closeOther _ => inferInstanceAs (Decidable True)

def object (worker : Worker) : Option Client := worker.hub.or worker.closing

def HasObject (worker : Worker) (serial : Nat) : Prop :=
  ∃ client, object worker = some client ∧ client.serial = serial

/-- With the number it was read with, or marked since. -/
def HasNumber (client : Option Client) (fd : Handle) : Prop :=
  client = some ⟨some fd.number, fd.serial⟩ ∨ client = some ⟨none, fd.serial⟩

def Late (worker : Worker) : Prop := Taken worker.stop = true → worker.hub = none

/-- What holds at each statement of `run`. From the test of `running_` to the
new connection there is no object at all. -/
def RunOk (fds : Descriptors) (kind : Kind) (worker : Worker) : RunPc → Prop
  | .resetOld | .openSocket | .setServer _ | .setServerClose _ _ | .resolve _ | .connect _
  | .failClose _ | .failRemove | .failRemoveClose _ | .makeClient _ =>
      worker.hub = none ∧ worker.closing = none
  | .epollCreate | .epollAdd _ | .epollClose _ | .drop => True
  | .loopHead | .closeEpoll _ | .exitRemove | .exitRemoveClose _ | .done =>
      (worker.hub ≠ none → worker.running = false) ∧ Late worker
  | .poll _ | .lostReset _ => Late worker
  | .deref _ => worker.hub ≠ none ∧ Late worker
  | .serve _ serial => HasObject worker serial ∧ Late worker
  -- the number was read before, and `stop` may have marked the object since
  | .lostRemove _ fd => HasNumber (object worker) fd ∧ Late worker
  | .lostMark _ serial => HasObject worker serial ∧ (∀ fd, ¬ fds.Registered kind fd) ∧ Late worker

def Marked (worker : Worker) : Prop := ∀ client, worker.closing = some client → client.fd = none

def StopOk (fds : Descriptors) (kind : Kind) (worker : Worker) : StopPc → Prop
  | .ready => worker.closing = none
  | .take => worker.closing = none ∧ worker.running = false
  | .read => worker.running = false
  | .remove fd => HasNumber worker.closing fd ∧ worker.running = false
  | .mark => worker.closing ≠ none ∧ (∀ fd, ¬ fds.Registered kind fd) ∧ worker.running = false
  | .join => Marked worker ∧ worker.running = false
  | .removeSlot => Marked worker ∧ worker.running = false ∧ worker.run = .done
  | .removeSlotClose _ | .returned | .destroy | .gone =>
      Marked worker ∧ worker.running = false ∧ worker.run = .done ∧ fds.serverFDs kind = none

structure UseInv (fds : Descriptors) (kind : Kind) (worker : Worker) : Prop where
  run : RunOk fds kind worker worker.run
  stop : StopOk fds kind worker worker.stop
  single : worker.hub = none ∨ worker.closing = none
  owned : ∀ fd, fds.Registered kind fd → object worker = some ⟨some fd.number, fd.serial⟩

/-- No entry of this client is new, and its server number stays. -/
structure Fewer (fds after : Descriptors) (kind : Kind) : Prop where
  entries : ∀ fd, after.Registered kind fd → fds.Registered kind fd
  slot : after.serverFDs kind = fds.serverFDs kind

theorem Fewer.kept {fds after : Descriptors} {kind : Kind}
    (entries : after.clientFDs = fds.clientFDs)
    (slot : after.serverFDs kind = fds.serverFDs kind) : Fewer fds after kind := by
  refine ⟨?_, slot⟩
  intro fd registered
  unfold Descriptors.Registered at registered ⊢
  rwa [entries] at registered

theorem run_ok_fewer {fds after : Descriptors} {kind : Kind} {worker : Worker}
    (fewer : Fewer fds after kind) (pc : RunPc) (ok : RunOk fds kind worker pc) :
    RunOk after kind worker pc := by
  cases pc with
  | lostMark epoll serial =>
      exact ⟨ok.1, fun fd registered => ok.2.1 fd (fewer.entries fd registered), ok.2.2⟩
  | _ => exact ok

theorem stop_ok_fewer {fds after : Descriptors} {kind : Kind} {worker : Worker}
    (fewer : Fewer fds after kind) (pc : StopPc) (ok : StopOk fds kind worker pc) :
    StopOk after kind worker pc := by
  cases pc with
  | mark => exact ⟨ok.1, fun fd registered => ok.2.1 fd (fewer.entries fd registered), ok.2.2⟩
  | removeSlotClose _ | returned | destroy | gone =>
      exact ⟨ok.1, ok.2.1, ok.2.2.1, fewer.slot.trans ok.2.2.2⟩
  | _ => exact ok

/-- What another thread does to the registries is no harm. -/
theorem UseInv.fewer {fds after : Descriptors} {kind : Kind} {worker : Worker}
    (inv : UseInv fds kind worker) (fewer : Fewer fds after kind) : UseInv after kind worker :=
  ⟨run_ok_fewer fewer _ inv.run, stop_ok_fewer fewer _ inv.stop, inv.single,
    fun fd registered => inv.owned fd (fewer.entries fd registered)⟩

theorem remove_client_fewer (fds : Descriptors) (acting kind : Kind) (fd : Handle) :
    Fewer fds (fds.removeClientFD acting fd) kind ∧
      ∀ handle, (fds.removeClientFD acting fd).Registered kind handle →
        handle.number ≠ fd.number := by
  unfold Descriptors.removeClientFD
  cases entry : fds.clientFDs fd.number with
  | none =>
      refine ⟨Fewer.kept rfl rfl, ?_⟩
      intro handle registered same
      have there : fds.clientFDs handle.number = some (kind, handle.serial) := registered
      rw [same, entry] at there
      cases there
  | some label =>
      have gone := registered_erase fds fd.number kind
      simp only
      split_ifs
      · exact ⟨⟨fun handle kept => (gone handle kept).2, rfl⟩,
          fun handle kept => (gone handle kept).1⟩
      · exact ⟨⟨fun handle kept => (gone handle kept).2, rfl⟩,
          fun handle kept => (gone handle kept).1⟩

theorem destroy_client_fewer (fds : Descriptors) (acting kind : Kind) (client : Option Client) :
    Fewer fds (destroyClient fds acting client) kind ∧
      ∀ handle, (destroyClient fds acting client).Registered kind handle →
        client ≠ some ⟨some handle.number, handle.serial⟩ := by
  cases client with
  | none => exact ⟨Fewer.kept rfl rfl, fun _ _ same => by cases same⟩
  | some client =>
      obtain ⟨fd, serial⟩ := client
      cases fd with
      | none => exact ⟨Fewer.kept rfl rfl, fun _ _ same => by cases same⟩
      | some number =>
          obtain ⟨fewer, gone⟩ := remove_client_fewer fds acting kind ⟨number, serial⟩
          refine ⟨fewer, ?_⟩
          rintro handle registered ⟨⟩
          exact gone handle registered rfl

theorem add_client_other (fds : Descriptors) (acting kind : Kind) (fd : Handle)
    (other : kind ≠ acting) : Fewer fds (fds.addClientFD acting fd) kind := by
  refine ⟨?_, rfl⟩
  intro handle registered
  unfold Descriptors.Registered Descriptors.addClientFD at registered
  by_cases same : handle.number = fd.number
  · simp only [same, Function.update_self, Option.some.injEq, Prod.mk.injEq] at registered
    exact absurd registered.1.symm other
  · simp only [Function.update_of_ne same] at registered
    exact registered

theorem run_ok_pc (fds : Descriptors) (kind : Kind) (worker : Worker) (pc other : RunPc)
    (ok : RunOk fds kind worker pc) : RunOk fds kind { worker with run := other } pc := by
  cases pc <;> exact ok

/-- While `run` goes on, `stop` has not got past the join. -/
theorem stop_ok_alive {fds after : Descriptors} {kind : Kind} {worker : Worker}
    (ok : StopOk fds kind worker worker.stop) (alive : worker.run ≠ .done)
    (entries : ∀ fd, after.Registered kind fd → fds.Registered kind fd) (next : Worker)
    (stop : next.stop = worker.stop) (running : next.running = worker.running)
    (closing : next.closing = worker.closing) : StopOk after kind next next.stop := by
  rw [stop]
  cases pc : worker.stop <;> rw [pc] at ok <;>
    simp only [StopOk, Marked, running, closing] at ok ⊢
  case ready | take | read | remove | join => exact ok
  case mark => exact ⟨ok.1, fun fd registered => ok.2.1 fd (entries fd registered), ok.2.2⟩
  case removeSlot => exact absurd ok.2.2 alive
  all_goals exact absurd ok.2.2.1 alive

theorem UseInv.moved {fds after : Descriptors} {kind : Kind} {worker : Worker}
    (inv : UseInv fds kind worker) (alive : worker.run ≠ .done)
    (entries : ∀ fd, after.Registered kind fd → fds.Registered kind fd)
    {pc : RunPc} (ok : RunOk after kind worker pc) :
    UseInv after kind { worker with run := pc } where
  run := run_ok_pc after kind worker pc pc ok
  stop := stop_ok_alive inv.stop alive entries _ rfl rfl rfl
  single := inv.single
  owned := fun fd registered => inv.owned fd (entries fd registered)

theorem UseInv.cleared {fds : Descriptors} {kind : Kind} {worker : Worker}
    (inv : UseInv fds kind worker) (alive : worker.run ≠ .done) (pc : RunPc)
    (ok : RunOk (destroyClient fds kind worker.hub) kind { worker with hub := none } pc) :
    UseInv (destroyClient fds kind worker.hub) kind { worker with run := pc, hub := none } := by
  obtain ⟨fewer, gone⟩ := destroy_client_fewer fds kind kind worker.hub
  refine ⟨run_ok_pc _ kind { worker with hub := none } pc pc ok,
    stop_ok_alive inv.stop alive fewer.entries _ rfl rfl rfl, Or.inl rfl, ?_⟩
  intro fd registered
  have owned := inv.owned fd (fewer.entries fd registered)
  have other := gone fd registered
  unfold object at owned ⊢
  cases hub : worker.hub with
  | none => simpa [hub] using owned
  | some client =>
      rw [hub] at owned other
      exact absurd owned other

theorem client_of_object (worker : Worker) (single : worker.hub = none ∨ worker.closing = none)
    (serial : Nat) :
    worker.client serial = (object worker).filter (·.serial = serial) := by
  unfold Worker.client object
  rcases single with hub | closing
  · simp [hub]
  · simp [closing]

theorem late_none {worker : Worker} (none : worker.hub = none) : Late worker := fun _ => none

theorem stopped_closing {fds : Descriptors} {kind : Kind} {worker : Worker}
    (inv : UseInv fds kind worker) (going : worker.running = true) : worker.closing = none := by
  have stop := inv.stop
  cases pc : worker.stop with
  | ready =>
      rw [pc] at stop
      exact stop
  | take =>
      rw [pc] at stop
      exact stop.1
  | _ =>
      rw [pc] at stop
      simp [StopOk, going] at stop

theorem run_step_fewer (state next : State) (kind other : Kind) (outcome : Bool)
    (apart : other ≠ kind) (stepped : runStep state kind outcome = some next) :
    Fewer state.fds next.fds other ∧ next.workers other = state.workers other := by
  obtain rfl | ⟨after, worker, rfl, _, effect⟩ := run_step_effect stepped
  · exact ⟨Fewer.kept rfl rfl, rfl⟩
  refine ⟨?_, Function.update_of_ne apart _ _⟩
  show Fewer state.fds after other
  cases effect with
  | destroys => exact (destroy_client_fewer _ _ _ _).1
  | removes => exact (remove_client_fewer _ _ _ _).1
  | adds => exact add_client_other _ _ _ _ apart
  | exchanges =>
      refine ⟨fun _ registered => registered, ?_⟩
      simp [Descriptors.exchange, apart]
  | _ => exact Fewer.kept rfl rfl

theorem set_inv (state : State) (after : Descriptors) (kind : Kind) (worker : Worker)
    (inv : UseInv after kind worker) :
    UseInv (state.set after kind worker).fds kind ((state.set after kind worker).workers kind) := by
  have same : (state.set after kind worker).workers kind = worker := Function.update_self _ _ _
  rw [same]
  exact inv

theorem UseInv.runSet {state : State} {after : Descriptors} {kind : Kind} {pc : RunPc}
    (inv : UseInv state.fds kind (state.workers kind)) (alive : (state.workers kind).run ≠ .done)
    (entries : ∀ fd, after.Registered kind fd → state.fds.Registered kind fd)
    (ok : RunOk after kind (state.workers kind) pc) :
    UseInv (state.set after kind { state.workers kind with run := pc }).fds kind
      ((state.set after kind { state.workers kind with run := pc }).workers kind) :=
  set_inv state after kind _ (inv.moved alive entries ok)

theorem UseInv.made {fds : Descriptors} {kind : Kind} {worker : Worker}
    (inv : UseInv fds kind worker) (alive : worker.run ≠ .done) (fd : Handle)
    (empty : worker.hub = none ∧ worker.closing = none) :
    UseInv (fds.addClientFD kind fd) kind
      { worker with run := .epollCreate, hub := some ⟨some fd.number, fd.serial⟩ } := by
  obtain ⟨hub, closing⟩ := empty
  -- an entry would belong to an object, and there is none
  have nothing : ∀ handle, ¬ fds.Registered kind handle := by
    intro handle registered
    have owned := inv.owned handle registered
    unfold object at owned
    rw [hub, closing] at owned
    cases owned
  refine ⟨trivial, ?_, Or.inr closing, ?_⟩
  · have stop := inv.stop
    change StopOk _ kind _ worker.stop
    cases pc : worker.stop <;> rw [pc] at stop <;> simp only [StopOk, Marked] at stop ⊢
    case ready | take | read | join => exact stop
    case remove =>
      obtain ⟨held | held, _⟩ := stop <;> rw [closing] at held <;> cases held
    case mark => exact absurd closing stop.1
    all_goals
      first | exact absurd stop.2.2 alive | exact absurd stop.2.2.1 alive
  · intro handle registered
    unfold Descriptors.Registered Descriptors.addClientFD at registered
    by_cases same : handle.number = fd.number
    · simp only [same, Function.update_self, Option.some.injEq, Prod.mk.injEq] at registered
      simp [object, same, registered.2]
    · simp only [Function.update_of_ne same] at registered
      exact absurd registered (nothing handle)

theorem mark_none (worker : Worker) (serial : Nat) :
    ((worker.mark serial).hub = none ↔ worker.hub = none) ∧
      ((worker.mark serial).closing = none ↔ worker.closing = none) :=
  ⟨Option.map_eq_none_iff, Option.map_eq_none_iff⟩

theorem UseInv.marked {fds : Descriptors} {kind : Kind} {worker : Worker}
    (inv : UseInv fds kind worker) (alive : worker.run ≠ .done) (serial : Nat) (epoll : Handle)
    (nothing : ∀ fd, ¬ fds.Registered kind fd) (late : Late worker) :
    UseInv fds kind { worker.mark serial with run := .lostReset epoll } := by
  obtain ⟨hub, closing⟩ := mark_none worker serial
  refine ⟨fun taken => hub.mpr (late taken), ?_, ?_, fun fd registered =>
    absurd registered (nothing fd)⟩
  · have stop := inv.stop
    change StopOk fds kind _ worker.stop
    cases pc : worker.stop <;> rw [pc] at stop
    case ready => exact closing.mpr stop
    case take => exact ⟨closing.mpr stop.1, stop.2⟩
    case read => exact stop
    case remove fd =>
      refine ⟨?_, stop.2⟩
      unfold HasNumber
      rcases stop.1 with held | held
      · by_cases same : fd.serial = serial
        · right
          simp [Worker.mark, held, same]
        · left
          simp [Worker.mark, held, same]
      · right
        simp [Worker.mark, held]
    case mark => exact ⟨mt closing.mp stop.1, stop.2⟩
    case join =>
      refine ⟨?_, stop.2⟩
      intro client held
      obtain ⟨before, there, rfl⟩ := Option.map_eq_some_iff.mp held
      split_ifs
      · rfl
      · exact stop.1 before there
    case removeSlot => exact absurd stop.2.2 alive
    all_goals exact absurd stop.2.2.1 alive
  · rcases inv.single with empty | empty
    · exact Or.inl (hub.mpr empty)
    · exact Or.inr (closing.mpr empty)

/-- From the end of the test of `running_` to the new connection. -/
def Connecting : RunPc → Bool
  | .openSocket | .setServer _ | .setServerClose _ _ | .resolve _ | .connect _ | .failClose _
  | .failRemove | .failRemoveClose _ => true
  | _ => false

/-! The statements of `run`, one after the other -/

section Run
variable {state next : State} {kind : Kind} {outcome : Bool}
  (inv : UseInv state.fds kind (state.workers kind))
  (stepped : runStep state kind outcome = some next)

include stepped in
theorem run_alive : (state.workers kind).run ≠ .done := by
  intro done
  simp [runStep, done] at stepped

include inv stepped

theorem loop_head_here (pc : (state.workers kind).run = .loopHead) :
    UseInv next.fds kind (next.workers kind) := by
  have alive := run_alive stepped
  have ok := inv.run
  simp only [runStep, pc, RunOk] at stepped ok
  cases stepped
  refine inv.runSet alive (fun _ => id) ?_
  split_ifs with going
  · -- `running_` is still set, so that nothing was left behind or taken
    refine ⟨?_, stopped_closing inv going⟩
    by_contra there
    rw [ok.1 there] at going
    cases going
  · exact ok

theorem connecting_here (connecting : Connecting (state.workers kind).run = true)
    (empty : (state.workers kind).hub = none ∧ (state.workers kind).closing = none) :
    UseInv next.fds kind (next.workers kind) := by
  have alive := run_alive stepped
  have again : ∀ after, RunOk after kind (state.workers kind) .loopHead :=
    fun _ => ⟨fun there => absurd empty.1 there, late_none empty.1⟩
  unfold runStep at stepped
  cases pc : (state.workers kind).run <;> rw [pc] at connecting <;> simp only [pc] at stepped
  case openSocket =>
    split_ifs at stepped
    · cases stepped
      exact inv.runSet alive (fun _ => id) empty
    · cases stepped
      exact inv.runSet alive (fun _ => id) (again _)
  case setServer fd =>
    cases stepped
    refine inv.runSet alive (fun _ => id) ?_
    split <;> exact empty
  case resolve fd | connect fd =>
    cases stepped
    refine inv.runSet alive (fun _ => id) ?_
    split_ifs <;> exact empty
  case setServerClose fd old | failClose fd =>
    cases stepped
    exact inv.runSet alive (fun _ => id) empty
  case failRemove =>
    cases stepped
    refine inv.runSet alive (fun _ => id) ?_
    split
    · exact empty
    · exact again _
  case failRemoveClose old =>
    cases stepped
    exact inv.runSet alive (fun _ => id) (again _)
  all_goals cases connecting

theorem reset_old_here (pc : (state.workers kind).run = .resetOld) :
    UseInv next.fds kind (next.workers kind) := by
  have alive := run_alive stepped
  have ok := inv.run
  simp only [runStep, pc, RunOk] at stepped ok
  cases stepped
  apply set_inv
  exact inv.cleared alive _ ⟨rfl, ok.2⟩

theorem make_client_here (fd : Handle) (pc : (state.workers kind).run = .makeClient fd) :
    UseInv next.fds kind (next.workers kind) := by
  have alive := run_alive stepped
  have ok := inv.run
  simp only [runStep, pc, RunOk] at stepped ok
  cases stepped
  apply set_inv
  exact inv.made alive fd ok

theorem epoll_create_here (pc : (state.workers kind).run = .epollCreate) :
    UseInv next.fds kind (next.workers kind) := by
  have alive := run_alive stepped
  simp only [runStep, pc] at stepped
  split_ifs at stepped
  · cases stepped
    exact inv.runSet alive (fun _ => id) trivial
  · cases stepped
    exact inv.runSet alive (fun _ => id) trivial

theorem epoll_add_here (epoll : Handle) (pc : (state.workers kind).run = .epollAdd epoll)
    (met : Undisturbed state (.run kind outcome)) :
    UseInv next.fds kind (next.workers kind) := by
  have alive := run_alive stepped
  unfold Undisturbed at met
  simp only [runStep, pc] at stepped
  cases stepped
  refine inv.runSet alive (fun _ => id) ?_
  split_ifs with added
  · -- what was stored late would stay registered from here on
    exact met (by rw [pc]; rfl) added
  · trivial

theorem epoll_close_here (epoll : Handle) (pc : (state.workers kind).run = .epollClose epoll) :
    UseInv next.fds kind (next.workers kind) := by
  have alive := run_alive stepped
  simp only [runStep, pc] at stepped
  cases stepped
  exact inv.runSet alive (fun _ => id) trivial

theorem reset_here (pc : (state.workers kind).run = .drop ∨
      ∃ epoll, (state.workers kind).run = .lostReset epoll) :
    UseInv next.fds kind (next.workers kind) := by
  have alive := run_alive stepped
  obtain pc | ⟨epoll, pc⟩ := pc
  · simp only [runStep, pc] at stepped
    cases stepped
    apply set_inv
    exact inv.cleared alive _ ⟨fun there => absurd rfl there, late_none rfl⟩
  · simp only [runStep, pc] at stepped
    cases stepped
    apply set_inv
    exact inv.cleared alive _ ⟨fun there => absurd rfl there, late_none rfl⟩

theorem poll_here (epoll : Handle) (pc : (state.workers kind).run = .poll epoll) :
    UseInv next.fds kind (next.workers kind) := by
  have alive := run_alive stepped
  have ok := inv.run
  simp only [runStep, pc, RunOk] at stepped ok
  split_ifs at stepped with stopped
  · cases stepped
    exact inv.runSet alive (fun _ => id) ⟨fun _ => stopped, ok⟩
  · cases stepped
    exact inv
  · split at stepped
    next hub =>
      cases stepped
      exact inv.runSet alive (fun _ => id) ⟨fun there => absurd hub there, ok⟩
    next client hub =>
      cases stepped
      refine inv.runSet alive (fun _ => id) ?_
      -- the command loop has the place of the pointer, the event loop the object
      cases kind with
      | command => exact ⟨by rw [hub]; simp, ok⟩
      | event => exact ⟨⟨client, by simp [object, hub], rfl⟩, ok⟩

theorem deref_here (epoll : Handle) (pc : (state.workers kind).run = .deref epoll) :
    UseInv next.fds kind (next.workers kind) := by
  have alive := run_alive stepped
  have ok := inv.run
  simp only [runStep, pc, RunOk] at stepped ok
  obtain ⟨client, hub, rfl⟩ := Option.map_eq_some_iff.mp stepped
  exact inv.runSet alive (fun _ => id) ⟨⟨client, by simp [object, hub], rfl⟩, ok.2⟩

theorem serve_here (epoll : Handle) (serial : Nat)
    (pc : (state.workers kind).run = .serve epoll serial) :
    UseInv next.fds kind (next.workers kind) := by
  have alive := run_alive stepped
  have ok := inv.run
  simp only [runStep, pc, RunOk] at stepped ok
  split_ifs at stepped
  · cases stepped
    exact inv.runSet alive (fun _ => id) ok.2
  · obtain ⟨client, found, rfl⟩ := Option.map_eq_some_iff.mp stepped
    rw [client_of_object _ inv.single, Option.filter_eq_some_iff] at found
    refine inv.runSet alive (fun _ => id) ?_
    obtain ⟨fd, own⟩ := client
    have same : own = serial := by simpa using found.2
    cases fd with
    | none => exact ok.2
    | some number => exact ⟨Or.inl (by rw [found.1, same]), ok.2⟩

theorem lost_remove_here (epoll fd : Handle)
    (pc : (state.workers kind).run = .lostRemove epoll fd) :
    UseInv next.fds kind (next.workers kind) := by
  have alive := run_alive stepped
  have ok := inv.run
  simp only [runStep, pc, RunOk] at stepped ok
  cases stepped
  obtain ⟨fewer, gone⟩ := remove_client_fewer state.fds kind kind fd
  apply inv.runSet alive fewer.entries
  refine ⟨?_, ?_, ok.2⟩
  · rcases ok.1 with held | held
    · exact ⟨_, held, rfl⟩
    · exact ⟨_, held, rfl⟩
  · intro handle registered
    have owned := inv.owned handle (fewer.entries handle registered)
    rcases ok.1 with held | held
    · rw [held] at owned
      simp only [Option.some.injEq, Client.mk.injEq] at owned
      exact gone handle registered owned.1.symm
    · rw [held] at owned
      cases owned

theorem lost_mark_here (epoll : Handle) (serial : Nat)
    (pc : (state.workers kind).run = .lostMark epoll serial) :
    UseInv next.fds kind (next.workers kind) := by
  have alive := run_alive stepped
  have ok := inv.run
  simp only [runStep, pc, RunOk] at stepped ok
  cases stepped
  apply set_inv
  exact inv.marked alive serial _ ok.2.1 ok.2.2

theorem close_epoll_here (epoll : Handle) (pc : (state.workers kind).run = .closeEpoll epoll) :
    UseInv next.fds kind (next.workers kind) := by
  have alive := run_alive stepped
  have ok := inv.run
  simp only [runStep, pc, RunOk] at stepped ok
  cases stepped
  exact inv.runSet alive (fun _ => id) ok

theorem exit_remove_here (pc : (state.workers kind).run = .exitRemove) :
    UseInv next.fds kind (next.workers kind) := by
  have alive := run_alive stepped
  have ok := inv.run
  simp only [runStep, pc, RunOk] at stepped ok
  cases stepped
  refine inv.runSet alive (fun _ => id) ?_
  split <;> exact ok

theorem exit_remove_close_here (old : Handle)
    (pc : (state.workers kind).run = .exitRemoveClose old) :
    UseInv next.fds kind (next.workers kind) := by
  have alive := run_alive stepped
  have ok := inv.run
  simp only [runStep, pc, RunOk] at stepped ok
  cases stepped
  exact inv.runSet alive (fun _ => id) ok

end Run

theorem run_step_here (state next : State) (kind : Kind) (outcome : Bool)
    (inv : UseInv state.fds kind (state.workers kind))
    (stepped : runStep state kind outcome = some next)
    (met : Undisturbed state (.run kind outcome)) :
    UseInv next.fds kind (next.workers kind) := by
  have ok := inv.run
  cases pc : (state.workers kind).run with
  | loopHead => exact loop_head_here inv stepped pc
  | resetOld => exact reset_old_here inv stepped pc
  | openSocket | setServer fd | setServerClose fd old | resolve fd | connect fd | failClose fd
  | failRemove | failRemoveClose old =>
      rw [pc] at ok
      exact connecting_here inv stepped (by rw [pc]; rfl) ok
  | makeClient fd => exact make_client_here inv stepped fd pc
  | epollCreate => exact epoll_create_here inv stepped pc
  | epollAdd epoll => exact epoll_add_here inv stepped epoll pc met
  | epollClose epoll => exact epoll_close_here inv stepped epoll pc
  | drop => exact reset_here inv stepped (Or.inl pc)
  | poll epoll => exact poll_here inv stepped epoll pc
  | deref epoll => exact deref_here inv stepped epoll pc
  | serve epoll serial => exact serve_here inv stepped epoll serial pc
  | lostRemove epoll fd => exact lost_remove_here inv stepped epoll fd pc
  | lostMark epoll serial => exact lost_mark_here inv stepped epoll serial pc
  | lostReset epoll => exact reset_here inv stepped (Or.inr ⟨epoll, pc⟩)
  | closeEpoll epoll => exact close_epoll_here inv stepped epoll pc
  | exitRemove => exact exit_remove_here inv stepped pc
  | exitRemoveClose old => exact exit_remove_close_here inv stepped old pc
  | done => exact absurd pc (run_alive stepped)

theorem stop_step_fewer (state next : State) (kind other : Kind) (apart : other ≠ kind)
    (stepped : stopStep state kind = some next) :
    Fewer state.fds next.fds other ∧ next.workers other = state.workers other := by
  have same : ∀ after worker, (state.set after kind worker).workers other = state.workers other :=
    fun after worker => Function.update_of_ne apart _ _
  unfold stopStep at stepped
  cases pc : (state.workers kind).stop <;> simp only [pc] at stepped
  case gone => cases stepped
  case join =>
    split_ifs at stepped
    cases stepped
    exact ⟨Fewer.kept rfl rfl, same _ _⟩
  case remove =>
    cases stepped
    exact ⟨(remove_client_fewer _ _ _ _).1, same _ _⟩
  case returned | destroy =>
    cases stepped
    exact ⟨(destroy_client_fewer _ _ _ _).1, same _ _⟩
  case removeSlot =>
    cases stepped
    refine ⟨⟨fun _ registered => registered, ?_⟩, same _ _⟩
    simp [Descriptors.exchange, State.set, apart]
  all_goals
    cases stepped
    exact ⟨Fewer.kept rfl rfl, same _ _⟩

theorem take_object (worker : Worker) (closing : worker.closing = none) (stop : StopPc) :
    object { worker with hub := none, closing := worker.hub, stop := stop } = object worker := by
  simp [object, closing]

theorem run_ok_take {fds : Descriptors} {kind : Kind} {worker : Worker} (pc : RunPc)
    (ok : RunOk fds kind worker pc) (closing : worker.closing = none)
    (running : worker.running = false) (stop : StopPc)
    (undisturbed : Dereferencing pc = false) :
    RunOk fds kind { worker with hub := none, closing := worker.hub, stop := stop } pc := by
  have late : Late { worker with hub := none, closing := worker.hub, stop := stop } := fun _ => rfl
  cases pc <;> simp only [RunOk, HasObject, take_object worker closing stop] at ok ⊢
  case deref => cases undisturbed
  case poll | lostReset => exact late
  case loopHead | closeEpoll | exitRemove | exitRemoveClose | done =>
    exact ⟨fun _ => running, late⟩
  case serve | lostRemove => exact ⟨ok.1, late⟩
  case lostMark => exact ⟨ok.1, ok.2.1, late⟩
  all_goals exact ⟨trivial, ok.1⟩

theorem run_ok_stop {fds : Descriptors} {kind : Kind} {worker : Worker} (pc : RunPc)
    (ok : RunOk fds kind worker pc) (stop : StopPc) (running : Bool)
    (stopped : worker.running = false → running = false)
    (late : Late worker → Late { worker with running := running, stop := stop }) :
    RunOk fds kind { worker with running := running, stop := stop } pc := by
  cases pc <;> simp only [RunOk] at ok ⊢
  case poll | lostReset => exact late ok
  case loopHead | closeEpoll | exitRemove | exitRemoveClose | done =>
    exact ⟨fun there => stopped (ok.1 there), late ok.2⟩
  case deref | serve | lostRemove => exact ⟨ok.1, late ok.2⟩
  case lostMark => exact ⟨ok.1, ok.2.1, late ok.2.2⟩
  all_goals exact ok

theorem closing_unregistered {fds : Descriptors} {kind : Kind} {worker : Worker}
    (inv : UseInv fds kind worker) (fd : Handle) (registered : fds.Registered kind fd)
    (there : worker.closing ≠ none) : worker.closing = some ⟨some fd.number, fd.serial⟩ := by
  have owned := inv.owned fd registered
  unfold object at owned
  rcases inv.single with hub | closing
  · rwa [hub] at owned
  · exact absurd closing there

theorem UseInv.closed {fds : Descriptors} {kind : Kind} {worker : Worker}
    (inv : UseInv fds kind worker) (there : worker.closing ≠ none)
    (nothing : ∀ fd, ¬ fds.Registered kind fd) (stop : worker.stop = .mark)
    (running : worker.running = false) :
    UseInv fds kind
      { worker with
        closing := worker.closing.map fun client => { client with fd := none }
        stop := .join } := by
  have hub : worker.hub = none := by
    rcases inv.single with hub | closing
    · exact hub
    · exact absurd closing there
  obtain ⟨client, held⟩ := Option.ne_none_iff_exists'.mp there
  refine ⟨?_, ⟨?_, running⟩, Or.inl hub, fun fd registered => absurd registered (nothing fd)⟩
  · have ok := inv.run
    change RunOk fds kind _ worker.run
    cases pc : worker.run <;> rw [pc] at ok <;>
      simp only [RunOk, Late, HasObject, HasNumber, object, hub, held, Option.none_or,
        Option.map_some, Option.some.injEq, exists_eq_left'] at ok ⊢
    case lostRemove fd =>
      refine ⟨Or.inr ?_, fun _ => trivial⟩
      rcases ok.1 with rfl | rfl <;> rfl
    all_goals simp_all
  · intro marked same
    obtain ⟨before, _, rfl⟩ := Option.map_eq_some_iff.mp same
    rfl

/-- Past the look at `hubConnection_` a further statement of `stop` changes
nothing for `run`. -/
theorem run_ok_past {fds : Descriptors} {kind : Kind} {worker : Worker} (pc : RunPc)
    (ok : RunOk fds kind worker pc) (taken : Taken worker.stop = true) (stop : StopPc) :
    RunOk fds kind { worker with stop := stop } pc := by
  apply run_ok_stop pc ok stop _ id
  intro late _
  exact late taken

theorem marked_destroy (fds : Descriptors) (kind : Kind) (client : Option Client)
    (marked : ∀ held, client = some held → held.fd = none) :
    destroyClient fds kind client = fds := by
  cases client with
  | none => rfl
  | some client =>
      obtain ⟨fd, serial⟩ := client
      have gone : fd = none := marked ⟨fd, serial⟩ rfl
      rw [gone]
      rfl

/-- After the join there is no object with a number, and so no entry. -/
theorem joined_unregistered {fds : Descriptors} {kind : Kind} {worker : Worker}
    (inv : UseInv fds kind worker) (done : worker.run = .done) (taken : Taken worker.stop = true)
    (marked : Marked worker) : worker.hub = none ∧ ∀ fd, ¬ fds.Registered kind fd := by
  have ok := inv.run
  rw [done] at ok
  have hub : worker.hub = none := ok.2 taken
  refine ⟨hub, ?_⟩
  -- an entry has its object, which could only be the marked one
  intro fd registered
  have owned := inv.owned fd registered
  unfold object at owned
  rw [hub] at owned
  exact absurd (marked _ owned) (by simp)

/-! The statements of `stop` -/

section Stop
variable {state next : State} {kind : Kind} (inv : UseInv state.fds kind (state.workers kind))
  (stepped : stopStep state kind = some next)
include inv stepped

theorem stop_ready_here (pc : (state.workers kind).stop = .ready) :
    UseInv next.fds kind (next.workers kind) := by
  have ok := inv.stop
  simp only [stopStep, pc, StopOk] at stepped ok
  cases stepped
  apply set_inv
  refine ⟨?_, ⟨ok, rfl⟩, inv.single, inv.owned⟩
  apply run_ok_stop _ inv.run _ _ fun _ => rfl
  intro _ taken
  cases taken

theorem take_here (pc : (state.workers kind).stop = .take)
    (met : Undisturbed state (.stop kind)) :
    UseInv next.fds kind (next.workers kind) := by
  have ok := inv.stop
  simp only [stopStep, pc, StopOk] at stepped ok
  cases stepped
  apply set_inv
  obtain ⟨closing, running⟩ := ok
  have same := take_object (state.workers kind) closing
  refine ⟨?_, ?_, Or.inl rfl, fun fd registered => ?_⟩
  · exact run_ok_take _ inv.run closing running _ (met pc)
  · -- without an object there is nothing to close, and `stop` joins
    cases hub : (state.workers kind).hub with
    | none =>
        refine ⟨?_, running⟩
        intro client held
        cases held
    | some client => exact running
  · rw [same]
    exact inv.owned fd registered

theorem read_here (pc : (state.workers kind).stop = .read) :
    UseInv next.fds kind (next.workers kind) := by
  have ok := inv.stop
  simp only [stopStep, pc, StopOk] at stepped ok
  cases stepped
  apply set_inv
  refine ⟨?_, ?_, inv.single, inv.owned⟩
  · exact run_ok_past _ inv.run (by rw [pc]; rfl) _
  · split
    next number serial held => exact ⟨Or.inl held, ok⟩
    next unheld =>
      refine ⟨?_, ok⟩
      rintro ⟨fd, serial⟩ held
      cases fd with
      | none => rfl
      | some number => exact absurd held (unheld number serial)

theorem remove_here (fd : Handle) (pc : (state.workers kind).stop = .remove fd) :
    UseInv next.fds kind (next.workers kind) := by
  have ok := inv.stop
  simp only [stopStep, pc, StopOk] at stepped ok
  cases stepped
  apply set_inv
  obtain ⟨fewer, gone⟩ := remove_client_fewer state.fds kind kind fd
  have there : (state.workers kind).closing ≠ none := by
    rcases ok.1 with held | held
    · rw [held]
      simp
    · rw [held]
      simp
  refine ⟨?_, ⟨there, ?_, ok.2⟩, inv.single, (inv.fewer fewer).owned⟩
  · exact run_ok_past _ (run_ok_fewer fewer _ inv.run) (by rw [pc]; rfl) _
  · -- the entry of the object that was taken is the one removed
    intro handle registered
    have owned := closing_unregistered inv handle (fewer.entries handle registered) there
    rcases ok.1 with held | held
    · rw [held] at owned
      simp only [Option.some.injEq, Client.mk.injEq] at owned
      exact gone handle registered owned.1.symm
    · rw [held] at owned
      cases owned

theorem mark_here (pc : (state.workers kind).stop = .mark) :
    UseInv next.fds kind (next.workers kind) := by
  have ok := inv.stop
  simp only [stopStep, pc, StopOk] at stepped ok
  cases stepped
  apply set_inv
  exact inv.closed ok.1 ok.2.1 pc ok.2.2

theorem join_here (pc : (state.workers kind).stop = .join) :
    UseInv next.fds kind (next.workers kind) := by
  have ok := inv.stop
  simp only [stopStep, pc, StopOk] at stepped ok
  split_ifs at stepped with done
  cases stepped
  apply set_inv
  refine ⟨?_, ⟨ok.1, ok.2, done⟩, inv.single, inv.owned⟩
  exact run_ok_past _ inv.run (by rw [pc]; rfl) _

theorem remove_slot_here (pc : (state.workers kind).stop = .removeSlot) :
    UseInv next.fds kind (next.workers kind) := by
  have ok := inv.stop
  simp only [stopStep, pc, StopOk] at stepped ok
  cases stepped
  apply set_inv
  refine ⟨?_, ?_, inv.single, inv.owned⟩
  · exact run_ok_past _ inv.run (by rw [pc]; rfl) _
  · split <;> exact ⟨ok.1, ok.2.1, ok.2.2, Function.update_self _ _ _⟩

theorem remove_slot_close_here (old : Handle) (pc : (state.workers kind).stop = .removeSlotClose old) :
    UseInv next.fds kind (next.workers kind) := by
  have ok := inv.stop
  simp only [stopStep, pc, StopOk] at stepped ok
  cases stepped
  apply set_inv
  refine ⟨?_, ok, inv.single, inv.owned⟩
  exact run_ok_past _ inv.run (by rw [pc]; rfl) _

theorem returned_here (pc : (state.workers kind).stop = .returned) :
    UseInv next.fds kind (next.workers kind) := by
  have ok := inv.stop
  simp only [stopStep, pc, StopOk] at stepped ok
  cases stepped
  apply set_inv
  obtain ⟨marked, running, done, slot⟩ := ok
  obtain ⟨hub, nothing⟩ := joined_unregistered inv done (by rw [pc]; rfl) marked
  rw [marked_destroy _ _ _ marked]
  refine ⟨?_, ⟨?_, running, done, slot⟩, Or.inr rfl,
    fun fd registered => absurd registered (nothing fd)⟩
  case refine_2 =>
    intro client held
    cases held
  change RunOk state.fds kind _ (state.workers kind).run
  rw [done]
  exact ⟨fun _ => running, fun _ => hub⟩

theorem destroy_here (pc : (state.workers kind).stop = .destroy) :
    UseInv next.fds kind (next.workers kind) := by
  have ok := inv.stop
  simp only [stopStep, pc, StopOk] at stepped ok
  cases stepped
  apply set_inv
  obtain ⟨marked, running, done, slot⟩ := ok
  obtain ⟨hub, nothing⟩ := joined_unregistered inv done (by rw [pc]; rfl) marked
  rw [hub]
  refine ⟨?_, ⟨marked, running, done, slot⟩, Or.inl rfl,
    fun fd registered => absurd registered (nothing fd)⟩
  change RunOk state.fds kind _ (state.workers kind).run
  rw [done]
  exact ⟨fun _ => running, fun _ => rfl⟩

end Stop

theorem stop_step_here (state next : State) (kind : Kind)
    (inv : UseInv state.fds kind (state.workers kind))
    (stepped : stopStep state kind = some next) (met : Undisturbed state (.stop kind)) :
    UseInv next.fds kind (next.workers kind) := by
  cases pc : (state.workers kind).stop with
  | ready => exact stop_ready_here inv stepped pc
  | take => exact take_here inv stepped pc met
  | read => exact read_here inv stepped pc
  | remove fd => exact remove_here inv stepped fd pc
  | mark => exact mark_here inv stepped pc
  | join => exact join_here inv stepped pc
  | removeSlot => exact remove_slot_here inv stepped pc
  | removeSlotClose old => exact remove_slot_close_here inv stepped old pc
  | returned => exact returned_here inv stepped pc
  | destroy => exact destroy_here inv stepped pc
  | gone =>
      simp only [stopStep, pc] at stepped
      cases stepped

def StateInv (state : State) : Prop := ∀ kind, UseInv state.fds kind (state.workers kind)

theorem use_start : StateInv start := by
  intro kind
  refine ⟨⟨fun _ => ?_, fun taken => by cases taken⟩, rfl, Or.inl rfl, ?_⟩
  · contradiction
  · intro fd registered
    cases registered

theorem use_step (state : State) (action : Action) (next : State) (inv : StateInv state)
    (stepped : step state action = some next) (met : Undisturbed state action) :
    StateInv next := by
  intro other
  cases action with
  | run kind outcome =>
      by_cases same : other = kind
      · subst same
        exact run_step_here state next other outcome (inv other) stepped met
      · -- the other client only sees entries go
        obtain ⟨fewer, worker⟩ := run_step_fewer state next kind other outcome same stepped
        rw [worker]
        exact (inv other).fewer fewer
  | stop kind =>
      by_cases same : other = kind
      · subst same
        exact stop_step_here state next other (inv other) stepped met
      · obtain ⟨fewer, worker⟩ := stop_step_fewer state next kind other same stepped
        rw [worker]
        exact (inv other).fewer fewer
  | openOther =>
      cases stepped
      exact (inv other).fewer (Fewer.kept rfl rfl)
  | closeOther number =>
      obtain ⟨fds, closed, rfl⟩ := Option.map_eq_some_iff.mp stepped
      unfold Descriptors.closeOther at closed
      split_ifs at closed
      cases closed
      exact (inv other).fewer (Fewer.kept rfl rfl)

theorem object_found {worker : Worker} (single : worker.hub = none ∨ worker.closing = none)
    (serial : Nat) (has : HasObject worker serial) : worker.client serial ≠ none := by
  obtain ⟨client, held, same⟩ := has
  rw [client_of_object worker single, held]
  simp [same]

theorem use_safe (state : State) (inv : StateInv state) : Safe state := by
  intro kind
  constructor
  · have ok := (inv kind).run
    have found := object_found (inv kind).single
    unfold UseSafe
    cases pc : (state.workers kind).run with
    | deref epoll =>
        rw [pc] at ok
        exact ok.1
    | serve epoll serial =>
        rw [pc] at ok
        exact found serial ok.1
    | lostMark epoll serial =>
        rw [pc] at ok
        exact found serial ok.1
    | lostRemove epoll fd =>
        rw [pc] at ok
        apply found
        rcases ok.1 with held | held
        · exact ⟨_, held, rfl⟩
        · exact ⟨_, held, rfl⟩
    | _ => trivial
  · intro returned
    have ok := (inv kind).stop
    cases pc : (state.workers kind).stop with
    | destroy | gone =>
        rw [pc] at ok
        obtain ⟨marked, _, done, slot⟩ := ok
        exact ⟨slot, (joined_unregistered (inv kind) done (by rw [pc]; rfl) marked).2⟩
    | _ =>
        rw [pc] at returned
        cases returned

/-- In a run that `stop` does not disturb, `run` uses no object that was moved
away or destroyed, and when `stop` has returned nothing is registered. -/
theorem connection_used_while_held (actions : List Action)
    (met : Along step Undisturbed start actions) : Throughout step Safe start actions :=
  throughout_along step use_safe use_step actions start use_start met

/-- `stop` up to the join, `run` to its end, and `stop` to its return. -/
def stopped (kind : Kind) : List Action :=
  List.replicate 5 (.stop kind) ++ List.replicate 6 (.run kind true) ++
    List.replicate 3 (.stop kind)

theorem connection_used_while_held_stopped :
    (run step start (connected .event ++ stopped .event)).isSome ∧
      Throughout step Safe start (connected .event ++ stopped .event) :=
  ⟨by decide +kernel, connection_used_while_held _ (by decide +kernel)⟩

/-- `stop` takes the object between the test and the dereference. -/
def takenAway : List Action :=
  List.replicate 10 (.run .command true) ++ List.replicate 2 (.stop .command)

/-- `stop` looks before the connection is stored; `run` then ends and `stop`
returns. -/
def storedLate (kind : Kind) : List Action :=
  List.replicate 6 (.run kind true) ++ List.replicate 2 (.stop kind) ++
    List.replicate 8 (.run kind true) ++ List.replicate 3 (.stop kind)

/-- The command client dereferences a null pointer, and either client leaves a
connection registered. -/
theorem connection_taken_or_left :
    ¬ Throughout step Safe start takenAway ∧
      ∀ kind, ¬ Throughout step Safe start (storedLate kind) := by
  constructor
  · intro safe
    have ran : ∃ final, run step start takenAway = some final ∧
        Dereferencing (final.workers .command).run = true ∧ (final.workers .command).hub = none :=
      ⟨(run step start takenAway).get (by decide +kernel), (Option.some_get _).symm,
        by decide +kernel, by decide +kernel⟩
    obtain ⟨final, reached, following, moved⟩ := ran
    have used := (throughout_last step takenAway start final safe reached .command).1
    unfold UseSafe at used
    cases pc : (final.workers .command).run <;> rw [pc] at following used <;>
      first | exact used moved | cases following
  · intro kind safe
    have ran : ∃ final, run step start (storedLate kind) = some final ∧
        Returned (final.workers kind).stop = true ∧ final.fds.Registered kind ⟨3, 0⟩ := by
      cases kind <;> exact ⟨(run step start (storedLate _)).get (by decide +kernel),
        (Option.some_get _).symm, by decide +kernel, by decide +kernel⟩
    obtain ⟨final, reached, returned, registered⟩ := ran
    exact ((throughout_last step (storedLate kind) start final safe reached kind).2 returned).2 _
      registered

end GramsTof.ConnectionUse
