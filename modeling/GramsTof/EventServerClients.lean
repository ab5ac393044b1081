import GramsTof.ClientLoops
import Mathlib.Data.List.AList

/-!
`clientList_` of `GRAMS_TOF_EventServer` under `run`, `heartbeatLoop` and any
number of callers of `send`. A critical section is one step, and so is a
statement between two. A sender copies the pairs of number and raw pointer
under the lock and goes through them without it. A pointer is the serial of its
object; a call through the pointer of a destroyed object is undefined, and here
finds the -1 the destructor has left. The listening socket and the epoll
instance are among the descriptors of the rest of the process.
-/

namespace GramsTof.EventServerClients

open DescriptorTable TransitionSystem FDManager ClientLoops

variable {Caller : Type}

abbrev ClientList := AList fun _ : Nat => Client

/-- The next statement of `run`. -/
inductive ServerPc where
  | poll
  | addEpoll (fd : Handle)
  | insert (fd : Handle)
  | lookup (number : Nat)
  | receive (client : Handle)
  | closing (client : Handle)
  | erasing (number : Nat)
  | cleanup
  | done
  deriving DecidableEq, Repr

/-- `heartbeatLoop`, or a caller of `send`. -/
inductive Sender (Caller : Type) where
  | heartbeat
  | caller (who : Caller)
  deriving DecidableEq, Repr

/-- A sender has `rest` of its copy ahead of it; in `failed` it waits for the
lock to remove a client. Only the heartbeat is ever asleep or ended. -/
inductive SenderPc where
  | idle
  | asleep
  | sending (rest : List Handle)
  | failed (client : Handle) (rest : List Handle)
  | ended
  deriving DecidableEq, Repr

/-- A removal after a failed `sendData`: the object it failed on, and the one
that was erased. -/
structure Removal where
  failed : Nat
  erased : Option Nat
  deriving DecidableEq, Repr

structure State (Caller : Type) where
  fds : Descriptors
  running : Bool
  run : ServerPc
  clients : ClientList
  senders : Sender Caller → SenderPc
  removals : List Removal

def start : State Caller :=
  { fds := initial, running := true, run := .poll, clients := ∅, senders := fun _ => .idle
    removals := [] }

/-- What `epoll_pwait` reports; `accept` may fail. -/
inductive Event where
  | nothing
  | connection (accepted : Bool)
  | client (number : Nat)
  deriving DecidableEq, Repr

/-- `outcome` is whether the next fallible call succeeds: `epoll_ctl`, the
receive that leaves the client connected, and the kernel's send. -/
inductive Action (Caller : Type) where
  | run (event : Event) (outcome : Bool)
  | send (sender : Sender Caller) (outcome : Bool)
  | stop
  | openOther
  | closeOther (number : Nat)

/-- The object a pointer from the entry of `client.number` denotes. -/
def target (clients : ClientList) (client : Handle) : Option Client :=
  (clients.lookup client.number).filter (·.serial = client.serial)

def closeFD (fds : Descriptors) (clients : ClientList) (client : Handle) :
    Descriptors × ClientList :=
  match target clients client with
  | none => (fds, clients)
  | some found =>
      (destroyClient fds .event (some found),
        clients.insert client.number { found with fd := none })

/-- `clientList_.erase`, with the destructor of the object. -/
def eraseClient (fds : Descriptors) (clients : ClientList) (number : Nat) :
    Descriptors × ClientList :=
  (destroyClient fds .event (clients.lookup number), clients.erase number)

/-- `clientList_[new_fd] = std::make_unique<GRAMS_TOF_Client>(new_fd)`: the
object in an entry that is there is destroyed last. -/
def insertClient (fds : Descriptors) (clients : ClientList) (fd : Handle) :
    Descriptors × ClientList :=
  (destroyClient (fds.addClientFD .event fd) .event (clients.lookup fd.number),
    clients.insert fd.number ⟨some fd.number, fd.serial⟩)

def closeEntries : Descriptors → List (Σ _ : Nat, Client) → Descriptors
  | fds, [] => fds
  | fds, entry :: rest => closeEntries (destroyClient fds .event (some entry.2)) rest

def copy (clients : ClientList) : List Handle :=
  (clients.entries.map fun entry => (⟨entry.1, entry.2.serial⟩ : Handle)).insertionSort
    fun left right => left.number ≤ right.number

def serverStep (state : State Caller) (event : Event) (outcome : Bool) : Option (State Caller) :=
  match state.run with
  | .poll =>
      if state.running then
        match event with
        | .nothing => some state
        | .connection false => some state
        | .connection true =>
            let (fd, fds) := state.fds.socket .event
            if fd.number ≤ 2 then
              some { state with fds := fds.close (.socket .event fd.serial) fd.number }
            else some { state with fds := fds, run := .addEpoll fd }
        | .client number => some { state with run := .lookup number }
      else some { state with run := .cleanup }
  | .addEpoll fd =>
      if outcome then some { state with run := .insert fd }
      else
        some { state with
          fds := state.fds.close (.socket .event fd.serial) fd.number
          run := .poll }
  | .insert fd =>
      let (fds, clients) := insertClient state.fds state.clients fd
      some { state with fds := fds, clients := clients, run := .poll }
  | .lookup number =>
      some { state with
        run := match state.clients.lookup number with
          | none => .poll
          | some client => .receive ⟨number, client.serial⟩ }
  | .receive client =>
      -- without a descriptor `recvData` fails
      let received := outcome && (target state.clients client).any (·.fd.isSome)
      some { state with run := if received then .poll else .closing client }
  | .closing client =>
      -- the entry stays until the lock is taken again
      let (fds, clients) := closeFD state.fds state.clients client
      some { state with fds := fds, clients := clients, run := .erasing client.number }
  | .erasing number =>
      let (fds, clients) := eraseClient state.fds state.clients number
      some { state with fds := fds, clients := clients, run := .poll }
  | .cleanup =>
      some { state with
        fds := closeEntries state.fds state.clients.entries, clients := ∅, run := .done }
  | .done => none

def State.put [DecidableEq Caller] (state : State Caller) (sender : Sender Caller)
    (pc : SenderPc) : State Caller :=
  { state with senders := Function.update state.senders sender pc }

/-- `sendData` reaches the kernel only through an entry of `clientFDs_`. -/
def reaches (state : State Caller) (client : Handle) : Bool :=
  match target state.clients client with
  | some ⟨some number, _⟩ => (state.fds.clientFDs number).isSome
  | _ => false

/-- The removal after a failed `sendData`, in one critical section. -/
def removeFailed (state : State Caller) (client : Handle) : State Caller :=
  let (fds, clients) := closeFD state.fds state.clients client
  let (fds, rest) := eraseClient fds clients client.number
  { state with
    fds := fds
    clients := rest
    removals := state.removals ++
      [⟨client.serial, (clients.lookup client.number).map Client.serial⟩] }

def senderStep [DecidableEq Caller] (state : State Caller) (sender : Sender Caller)
    (outcome : Bool) : Option (State Caller) :=
  match state.senders sender with
  | .idle =>
      match sender with
      | .heartbeat => some (state.put sender (if state.running then .asleep else .ended))
      | .caller _ => some (state.put sender (.sending (copy state.clients)))
  | .asleep => some (state.put sender (.sending (copy state.clients)))
  | .sending [] => some (state.put sender .idle)
  | .sending (client :: rest) =>
      some (state.put sender
        (if outcome && reaches state client then .sending rest else .failed client rest))
  -- all of it under `clientListMutex_`
  | .failed client rest => some ((removeFailed state client).put sender (.sending rest))
  | .ended => none

def step [DecidableEq Caller] (state : State Caller) : Action Caller → Option (State Caller)
  | .run event outcome => serverStep state event outcome
  | .send sender outcome => senderStep state sender outcome
  | .stop => some { state with running := false }
  | .openOther => some { state with fds := state.fds.openOther }
  | .closeOther number =>
      (state.fds.closeOther number).map fun fds => { state with fds := fds }

/-- The pointers a thread may still follow. -/
def ServerPc.held : ServerPc → List Handle
  | .receive client | .closing client => [client]
  | _ => []

def SenderPc.held : SenderPc → List Handle
  | .sending rest => rest
  | .failed client rest => client :: rest
  | _ => []

def Points (clients : ClientList) (client : Handle) : Prop :=
  ∃ found, clients.lookup client.number = some found ∧ found.serial = client.serial

def Closed (fds : Descriptors) (serial : Nat) : Prop :=
  ∀ number, lookup fds.table number ≠ some (.socket .event serial)

/-- Every removal has erased and closed the client on which `sendData` failed
and nothing else was closed, and no thread holds the pointer of a destroyed
client. -/
structure RemovesFailed (state : State Caller) : Prop where
  erased : ∀ removal ∈ state.removals, removal.erased = some removal.failed
  closed : ∀ removal ∈ state.removals, Closed state.fds removal.failed
  own : ∀ close ∈ state.fds.closes, close.found = some close.actor
  server : ∀ client ∈ state.run.held, Points state.clients client
  senders : ∀ sender, ∀ client ∈ (state.senders sender).held, Points state.clients client

/-- A client is erased only while no other thread has its pointer. -/
def Unshared (state : State Caller) : Action Caller → Prop
  | .run _ _ =>
      match state.run with
      | .erasing number =>
          ∀ sender, ∀ client ∈ (state.senders sender).held, client.number ≠ number
      | .cleanup => ∀ sender, (state.senders sender).held = []
      | _ => True
  | .send sender _ =>
      match state.senders sender with
      | .failed client _ =>
          (∀ held ∈ state.run.held, held.number ≠ client.number) ∧
            ∀ other, other ≠ sender → ∀ held ∈ (state.senders other).held,
              held.number ≠ client.number
      | _ => True
  | .stop | .openOther | .closeOther _ => True

/-- The object in an entry has its descriptor, or was closed by `run`, which
is about to erase it. -/
def EntryOk (fds : Descriptors) (erasing : Option Nat) (number : Nat) (client : Client) : Prop :=
  client.fd = some number ∧ fds.Open .event ⟨number, client.serial⟩ ∧
      fds.clientFDs number ≠ none ∨
    client.fd = none ∧ erasing = some number ∧ Closed fds client.serial

/-- The entries against the kernel's table: `hand` is a socket `run` has
accepted and not yet inserted, `gone` are the connections that were removed. -/
structure Kernel (fds : Descriptors) (entry : Nat → Option Client) (erasing : Option Nat)
    (hand : Option Handle) (gone : List Nat) : Prop where
  standard : ∀ number, number ≤ 2 → lookup fds.table number = some .other
  unique : ∀ left right serial, lookup fds.table left = some (.socket .event serial) →
    lookup fds.table right = some (.socket .event serial) → left = right
  below : ∀ number serial, lookup fds.table number = some (.socket .event serial) →
    serial < fds.serial
  own : ∀ close ∈ fds.closes, close.found = some close.actor
  entries : ∀ number client, entry number = some client →
    client.serial < fds.serial ∧ EntryOk fds erasing number client
  hand : ∀ fd, hand = some fd → fds.Open .event fd ∧ entry fd.number = none
  gone : ∀ serial ∈ gone, serial < fds.serial ∧ Closed fds serial

section Kernel
variable {fds : Descriptors} {entry : Nat → Option Client} {erasing : Option Nat}
  {hand : Option Handle} {gone : List Nat}

theorem Kernel.forget (kernel : Kernel fds entry erasing hand gone) (number : Nat) :
    Kernel fds (Function.update entry number none) erasing hand gone := by
  refine { kernel with entries := fun other client held => ?_, hand := fun fd held => ?_ }
  · by_cases same : other = number
    · simp [same] at held
    · rw [Function.update_of_ne same] at held
      exact kernel.entries other client held
  · obtain ⟨there, absent⟩ := kernel.hand fd held
    refine ⟨there, ?_⟩
    by_cases same : fd.number = number
    · simp [same]
    · rwa [Function.update_of_ne same]

theorem Kernel.unregister (kernel : Kernel fds entry erasing hand gone) (number : Nat)
    (absent : entry number = none) : Kernel (fds.erase number) entry erasing hand gone := by
  refine { kernel with entries := fun other client held => ?_ }
  obtain ⟨below, ok⟩ := kernel.entries other client held
  refine ⟨below, ?_⟩
  rcases ok with ⟨fd, there, registered⟩ | marked
  · left
    refine ⟨fd, there, ?_⟩
    have apart : other ≠ number := by
      rintro rfl
      rw [absent] at held
      cases held
    simpa [Descriptors.erase, apart] using registered
  · exact Or.inr marked

theorem Kernel.release (kernel : Kernel fds entry erasing hand gone) (number : Nat)
    (high : 2 < number) (absent : ∀ client, entry number = some client → client.fd = none)
    (notHeld : ∀ fd, hand = some fd → fd.number ≠ number) :
    Kernel { fds with table := release fds.table number } entry erasing hand gone where
  standard := by
    intro low bound
    rw [lookup_release_other _ _ _ (by omega)]
    exact kernel.standard low bound
  unique := fun left right serial leftHeld rightHeld =>
    kernel.unique left right serial (lookup_release _ _ _ _ leftHeld)
      (lookup_release _ _ _ _ rightHeld)
  below := fun other serial held => kernel.below other serial (lookup_release _ _ _ _ held)
  own := kernel.own
  entries := by
    intro other client held
    obtain ⟨below, ok⟩ := kernel.entries other client held
    refine ⟨below, ?_⟩
    rcases ok with ⟨fd, there, registered⟩ | ⟨none, marked, closed⟩
    · left
      refine ⟨fd, ?_, registered⟩
      unfold Descriptors.Open
      -- the number that is freed is not this open entry's
      rw [lookup_release_other]
      · exact there
      · rintro rfl
        rw [absent client held] at fd
        cases fd
    · right
      exact ⟨none, marked, fun free open_ => closed free (lookup_release _ _ _ _ open_)⟩
  hand := by
    intro fd held
    obtain ⟨there, empty⟩ := kernel.hand fd held
    refine ⟨?_, empty⟩
    unfold Descriptors.Open
    rw [lookup_release_other _ _ _ (notHeld fd held)]
    exact there
  gone := by
    intro serial member
    obtain ⟨below, closed⟩ := kernel.gone serial member
    exact ⟨below, fun free open_ => closed free (lookup_release _ _ _ _ open_)⟩

theorem Kernel.close (kernel : Kernel fds entry erasing hand gone) (actor : Object) (number : Nat)
    (found : lookup fds.table number = some actor) (high : 2 < number)
    (absent : ∀ client, entry number = some client → client.fd = none)
    (notHeld : ∀ fd, hand = some fd → fd.number ≠ number) :
    Kernel (fds.close actor number) entry erasing hand gone := by
  have released := kernel.release number high absent notHeld
  refine ⟨released.standard, released.unique, released.below, ?_, released.entries, released.hand,
    released.gone⟩
  intro close member
  rcases List.mem_append.mp member with old | new
  · exact kernel.own close old
  · rw [List.mem_singleton.mp new]
    exact found

theorem Kernel.opens (kernel : Kernel fds entry erasing hand gone) (object : Object) (serial : Nat)
    (grown : fds.serial ≤ serial)
    (fresh : ∀ own, object = .socket .event own → fds.serial ≤ own ∧ own < serial) :
    Kernel { fds with table := place fds.table object, serial := serial } entry erasing hand
      gone := by
  have kept : ∀ other found, lookup fds.table other = some found →
      lookup (place fds.table object) other = some found :=
    fun other found there => lookup_place _ _ _ _ there
  -- a socket found now was there before, or it is the new one
  have opened : ∀ other own, lookup (place fds.table object) other = some (.socket .event own) →
      lookup fds.table other = some (.socket .event own) ∨
        other = lowest fds.table ∧ object = .socket .event own := by
    intro other own there
    by_cases same : other = lowest fds.table
    · subst same
      rw [lookup_place_self] at there
      exact Or.inr ⟨rfl, Option.some.inj there⟩
    · rw [lookup_place_other _ _ _ same] at there
      exact Or.inl there
  have closed : ∀ own, own < fds.serial → Closed fds own → Closed { fds with
      table := place fds.table object, serial := serial } own := by
    intro own below closed other there
    rcases opened other own there with old | ⟨_, new⟩
    · exact closed other old
    · have bound := (fresh own new).1
      omega
  constructor
  case standard => exact fun low bound => kept _ _ (kernel.standard low bound)
  case unique =>
    intro left right own leftThere rightThere
    rcases opened left own leftThere with leftOld | ⟨leftNew, isNew⟩ <;>
      rcases opened right own rightThere with rightOld | ⟨rightNew, isNew'⟩
    · exact kernel.unique left right own leftOld rightOld
    · have bound := (fresh own isNew').1
      have below := kernel.below left own leftOld
      omega
    · have bound := (fresh own isNew).1
      have below := kernel.below right own rightOld
      omega
    · rw [leftNew, rightNew]
  case below =>
    intro other own there
    rcases opened other own there with old | ⟨_, new⟩
    · exact Nat.lt_of_lt_of_le (kernel.below other own old) grown
    · exact (fresh own new).2
  case own => exact kernel.own
  case entries =>
    intro other client held
    obtain ⟨below, ok⟩ := kernel.entries other client held
    refine ⟨Nat.lt_of_lt_of_le below grown, ?_⟩
    rcases ok with ⟨fd, there, registered⟩ | ⟨none, marked, gone⟩
    · exact Or.inl ⟨fd, kept _ _ there, registered⟩
    · exact Or.inr ⟨none, marked, closed _ below gone⟩
  case hand =>
    intro fd held
    obtain ⟨there, empty⟩ := kernel.hand fd held
    exact ⟨kept _ _ there, empty⟩
  case gone =>
    intro own member
    obtain ⟨below, gone⟩ := kernel.gone own member
    exact ⟨Nat.lt_of_lt_of_le below grown, closed own below gone⟩

theorem Kernel.high (kernel : Kernel fds entry erasing hand gone) (fd : Handle)
    (there : fds.Open .event fd) : 2 < fd.number := by
  by_contra low
  have standard := kernel.standard fd.number (by omega)
  rw [there] at standard
  cases standard

/-- The kernel gives a new connection no number that is in `clientList_`. -/
theorem Kernel.accept (kernel : Kernel fds entry none none gone) :
    Kernel (fds.socket .event).2 entry none (some (fds.socket .event).1) gone := by
  have placed := kernel.opens (.socket .event fds.serial) (fds.serial + 1) (by omega)
    (by
      rintro own same
      cases same
      omega)
  refine { placed with hand := ?_ }
  rintro fd ⟨⟩
  refine ⟨lookup_place_self _ _, ?_⟩
  by_contra occupied
  obtain ⟨client, held⟩ := Option.ne_none_iff_exists'.mp occupied
  rcases (kernel.entries _ client held).2 with ⟨_, there, _⟩ | ⟨_, marked, _⟩
  · change lookup fds.table (lowest fds.table) = _ at there
    rw [lowest_free] at there
    cases there
  · cases marked

theorem Kernel.refuse {fd : Handle} (kernel : Kernel fds entry erasing (some fd) gone) :
    Kernel (fds.close (.socket .event fd.serial) fd.number) entry erasing none gone := by
  obtain ⟨there, empty⟩ := kernel.hand fd rfl
  have high := kernel.high fd there
  have dropped : Kernel fds entry erasing none gone :=
    { kernel with hand := fun _ none => (nomatch none) }
  exact dropped.close _ _ there high (fun client held => by rw [empty] at held; cases held)
    fun _ none => nomatch none

theorem Kernel.insert {fd : Handle} (kernel : Kernel fds entry erasing (some fd) gone) :
    Kernel (fds.addClientFD .event fd)
      (Function.update entry fd.number (some ⟨some fd.number, fd.serial⟩)) erasing none gone := by
  obtain ⟨there, empty⟩ := kernel.hand fd rfl
  refine { kernel with
    hand := fun _ none => (nomatch none)
    entries := fun other client held => ?_ }
  by_cases same : other = fd.number
  · subst same
    rw [Function.update_self] at held
    cases held
    exact ⟨kernel.below _ _ there, Or.inl ⟨rfl, there, by simp [Descriptors.addClientFD]⟩⟩
  · rw [Function.update_of_ne same] at held
    obtain ⟨below, ok⟩ := kernel.entries other client held
    refine ⟨below, ?_⟩
    rcases ok with ⟨number, open_, registered⟩ | marked
    · exact Or.inl ⟨number, open_, by simpa [Descriptors.addClientFD, same] using registered⟩
    · exact Or.inr marked

theorem Kernel.destroy (kernel : Kernel fds entry erasing hand gone) (number : Nat)
    (client : Client) (held : entry number = some client) :
    Kernel (destroyClient fds .event (some client)) (Function.update entry number none) erasing hand
      (gone ++ [client.serial]) := by
  obtain ⟨below, ok⟩ := kernel.entries number client held
  have forgotten := kernel.forget number
  have extend : ∀ after : Descriptors, after.serial = fds.serial → Closed after client.serial →
      Kernel after (Function.update entry number none) erasing hand gone →
      Kernel after (Function.update entry number none) erasing hand (gone ++ [client.serial]) := by
    intro after serial closed rest
    refine { rest with gone := fun own member => ?_ }
    rcases List.mem_append.mp member with old | new
    · exact rest.gone own old
    · rw [List.mem_singleton.mp new, serial]
      exact ⟨below, closed⟩
  obtain ⟨fd, serial⟩ := client
  rcases ok with ⟨own, there, registered⟩ | ⟨none, _, closed⟩
  · subst own
    have high := kernel.high _ there
    have removed : destroyClient fds .event (some ⟨some number, serial⟩) =
        (fds.erase number).close (.socket .event serial) number := by
      obtain ⟨label, entered⟩ := Option.ne_none_iff_exists'.mp registered
      simp [destroyClient, Descriptors.removeClientFD, entered, if_pos high]
    rw [removed]
    apply extend
    · rfl
    · -- no other number has this socket
      intro other open_
      have before := lookup_release _ _ _ _ open_
      have same := kernel.unique other number serial before there
      rw [same] at open_
      have freed := lookup_release_self fds.table number
      exact absurd (freed.symm.trans open_) (by simp)
    · apply (forgotten.unregister number (Function.update_self _ _ _)).close _ _ there high
      · intro client held
        rw [Function.update_self] at held
        cases held
      · rintro handle inHand rfl
        have empty := (kernel.hand handle inHand).2
        rw [held] at empty
        cases empty
  · subst none
    exact extend fds rfl closed forgotten

theorem Kernel.fewer {less : List Nat} (kernel : Kernel fds entry erasing hand gone)
    (subset : ∀ serial ∈ less, serial ∈ gone) : Kernel fds entry erasing hand less :=
  { kernel with gone := fun serial member => kernel.gone serial (subset serial member) }

theorem Kernel.marked (kernel : Kernel fds entry none none gone) (number : Nat) (client : Client)
    (held : entry number = some client) :
    Kernel (destroyClient fds .event (some client))
      (Function.update entry number (some { client with fd := none })) (some number) none gone := by
  have destroyed := kernel.destroy number client held
  obtain ⟨below, closed⟩ :=
    destroyed.gone client.serial (List.mem_append_right _ (List.mem_singleton_self _))
  have rest := destroyed.fewer (fun serial member => List.mem_append_left _ member)
  refine { rest with
    hand := fun _ none => (nomatch none)
    entries := fun other found there => ?_ }
  by_cases same : other = number
  · subst same
    rw [Function.update_self] at there
    cases there
    exact ⟨below, Or.inr ⟨rfl, rfl, closed⟩⟩
  · rw [Function.update_of_ne same] at there
    have before := rest.entries other found (by rwa [Function.update_of_ne same])
    refine ⟨before.1, ?_⟩
    rcases before.2 with open_ | ⟨_, wrong, _⟩
    · exact Or.inl open_
    · cases wrong

theorem Kernel.settled {number : Nat} (kernel : Kernel fds entry (some number) hand gone)
    (absent : entry number = none) : Kernel fds entry none hand gone := by
  refine { kernel with entries := fun other client held => ?_ }
  obtain ⟨below, ok⟩ := kernel.entries other client held
  refine ⟨below, ?_⟩
  rcases ok with open_ | ⟨_, marked, _⟩
  · exact Or.inl open_
  · cases marked
    rw [absent] at held
    cases held

end Kernel

theorem lookup_erased (clients : ClientList) (number : Nat) :
    (fun other => (clients.erase number).lookup other) =
      Function.update (fun other => clients.lookup other) number none := by
  funext other
  by_cases same : other = number
  · subst same
    rw [Function.update_self]
    exact AList.lookup_erase other clients
  · rw [Function.update_of_ne same]
    exact AList.lookup_erase_ne same

theorem lookup_inserted (clients : ClientList) (number : Nat) (client : Client) :
    (fun other => (clients.insert number client).lookup other) =
      Function.update (fun other => clients.lookup other) number (some client) := by
  funext other
  by_cases same : other = number
  · subst same
    rw [Function.update_self]
    exact AList.lookup_insert clients
  · rw [Function.update_of_ne same]
    exact AList.lookup_insert_ne same

theorem points_erase {clients : ClientList} {client : Handle} (points : Points clients client)
    (number : Nat) (apart : client.number ≠ number) : Points (clients.erase number) client := by
  obtain ⟨found, held, same⟩ := points
  refine ⟨found, ?_, same⟩
  rw [AList.lookup_erase_ne apart]
  exact held

theorem points_erased {clients : ClientList} {client : Handle} {number : Nat}
    (points : Points (clients.erase number) client) : client.number ≠ number := by
  rintro rfl
  obtain ⟨found, held, _⟩ := points
  rw [AList.lookup_erase] at held
  cases held

theorem points_insert {clients : ClientList} {client : Handle} (points : Points clients client)
    (number : Nat) (object : Client)
    (same : ∀ found, clients.lookup number = some found → object.serial = found.serial) :
    Points (clients.insert number object) client := by
  obtain ⟨found, held, identity⟩ := points
  by_cases here : client.number = number
  · subst here
    exact ⟨object, AList.lookup_insert clients, (same found held).trans identity⟩
  · refine ⟨found, ?_, identity⟩
    rw [AList.lookup_insert_ne here]
    exact held

theorem copy_points (clients : ClientList) (client : Handle) (member : client ∈ copy clients) :
    Points clients client := by
  unfold copy at member
  rw [List.mem_insertionSort] at member
  obtain ⟨entry, inside, rfl⟩ := List.mem_map.mp member
  exact ⟨entry.2, AList.mem_lookup_iff.mpr inside, rfl⟩

theorem copy_distinct (clients : ClientList) : ((copy clients).map Handle.number).Nodup := by
  have sorted := (List.perm_insertionSort (fun left right : Handle => left.number ≤ right.number)
    (clients.entries.map fun entry => (⟨entry.1, entry.2.serial⟩ : Handle))).map Handle.number
  rw [copy, sorted.nodup_iff, List.map_map]
  exact clients.keys_nodup

theorem target_points {clients : ClientList} {client : Handle} (points : Points clients client) :
    ∃ found, clients.lookup client.number = some found ∧ found.serial = client.serial ∧
      target clients client = some found := by
  obtain ⟨found, held, same⟩ := points
  refine ⟨found, held, same, ?_⟩
  unfold target
  rw [held]
  simp [same]

theorem close_entries_kernel (list : List (Σ _ : Nat, Client)) (fds : Descriptors)
    (gone : List Nat) (distinct : list.NodupKeys)
    (kernel : Kernel fds (fun number => list.dlookup number) none none gone) :
    Kernel (closeEntries fds list) (fun _ => none) none none gone := by
  induction list generalizing fds with
  | nil => exact kernel
  | cons entry rest ih =>
      obtain ⟨absent, later⟩ := List.nodupKeys_cons.mp distinct
      have destroyed := (kernel.destroy entry.1 entry.2 (List.dlookup_cons_eq _ _ _)).fewer
        fun serial member => List.mem_append_left _ member
      apply ih _ later
      have emptied : Function.update (fun number => (entry :: rest).dlookup number) entry.1 none =
          fun number => rest.dlookup number := by
        funext number
        by_cases same : number = entry.1
        · subst same
          rw [Function.update_self]
          exact (List.dlookup_eq_none.mpr absent).symm
        · rw [Function.update_of_ne same]
          exact List.dlookup_cons_ne _ _ same
      rwa [emptied] at destroyed

def ServerPc.erases : ServerPc → Option Nat
  | .erasing number => some number
  | _ => none

def ServerPc.accepted : ServerPc → Option Handle
  | .addEpoll fd | .insert fd => some fd
  | _ => none

structure Inv (state : State Caller) : Prop where
  kernel : Kernel state.fds (fun number => state.clients.lookup number) state.run.erases
    state.run.accepted (state.removals.map Removal.failed)
  erased : ∀ removal ∈ state.removals, removal.erased = some removal.failed
  server : ∀ client ∈ state.run.held, Points state.clients client
  senders : ∀ sender, ∀ client ∈ (state.senders sender).held, Points state.clients client
  distinct : ∀ sender, ((state.senders sender).held.map Handle.number).Nodup

theorem start_inv : Inv (start : State Caller) where
  kernel :=
    { standard := initial_inv.standard
      unique := fun left _ _ held _ => by cases initial_lookup left _ held
      below := fun number _ held => by cases initial_lookup number _ held
      own := fun _ none => (nomatch none)
      entries := fun _ _ none => (nomatch none)
      hand := fun _ none => (nomatch none)
      gone := fun _ none => (nomatch none) }
  erased := fun _ none => (nomatch none)
  server := fun _ none => (nomatch none)
  senders := fun _ _ none => (nomatch none)
  distinct := fun _ => List.nodup_nil

theorem inv_sound (state : State Caller) (inv : Inv state) : RemovesFailed state where
  erased := inv.erased
  closed := fun removal member =>
    (inv.kernel.gone removal.failed (List.mem_map_of_mem member)).2
  own := inv.kernel.own
  server := inv.server
  senders := inv.senders

theorem Inv.serverSet {state : State Caller} (inv : Inv state) (fds : Descriptors)
    (clients : ClientList) (run : ServerPc)
    (kernel : Kernel fds (fun number => clients.lookup number) run.erases run.accepted
      (state.removals.map Removal.failed))
    (server : ∀ client ∈ run.held, Points clients client)
    (kept : ∀ sender, ∀ client ∈ (state.senders sender).held, Points state.clients client →
      Points clients client) :
    Inv { state with fds := fds, clients := clients, run := run } where
  kernel := kernel
  erased := inv.erased
  server := server
  senders := fun sender client member =>
    kept sender client member (inv.senders sender client member)
  distinct := inv.distinct

section Server
variable {state next : State Caller} {event : Event} {outcome : Bool} (inv : Inv state)
  (stepped : serverStep state event outcome = some next)
include inv stepped

theorem poll_keeps (pc : state.run = .poll) : Inv next := by
  have kernel := inv.kernel
  simp only [pc, ServerPc.erases, ServerPc.accepted] at kernel
  simp only [serverStep, pc] at stepped
  by_cases going : state.running = true
  · rw [if_pos going] at stepped
    cases event with
    | nothing =>
        cases stepped
        exact inv
    | connection accepted =>
        cases accepted with
        | false =>
            cases stepped
            exact inv
        | true =>
            -- the standard descriptors are open, so the number is above them
            have accept := kernel.accept
            have high := accept.high _ (accept.hand _ rfl).1
            simp only [if_neg (Nat.not_le.mpr high)] at stepped
            cases stepped
            exact inv.serverSet _ _ (.addEpoll _) accept (fun _ none => (nomatch none))
              fun _ _ _ => id
    | client number =>
        cases stepped
        exact inv.serverSet _ _ (.lookup number) kernel (fun _ none => (nomatch none))
          fun _ _ _ => id
  · rw [if_neg going] at stepped
    cases stepped
    exact inv.serverSet _ _ .cleanup kernel (fun _ none => (nomatch none)) fun _ _ _ => id

theorem add_epoll_keeps (fd : Handle) (pc : state.run = .addEpoll fd) : Inv next := by
  have kernel := inv.kernel
  simp only [pc, ServerPc.erases, ServerPc.accepted] at kernel
  simp only [serverStep, pc] at stepped
  split_ifs at stepped
  · cases stepped
    exact inv.serverSet _ _ (.insert fd) kernel (fun _ none => (nomatch none)) fun _ _ _ => id
  · cases stepped
    exact inv.serverSet _ _ .poll kernel.refuse (fun _ none => (nomatch none)) fun _ _ _ => id

theorem insert_keeps (fd : Handle) (pc : state.run = .insert fd) : Inv next := by
  have kernel := inv.kernel
  simp only [pc, ServerPc.erases, ServerPc.accepted] at kernel
  have empty := (kernel.hand fd rfl).2
  simp only [serverStep, pc, insertClient, empty, destroyClient] at stepped
  cases stepped
  refine inv.serverSet _ _ .poll ?_ (fun _ none => (nomatch none)) fun _ _ _ points => ?_
  · rw [lookup_inserted]
    exact kernel.insert
  · apply points_insert points
    intro found held
    rw [empty] at held
    cases held

theorem lookup_keeps (number : Nat) (pc : state.run = .lookup number) : Inv next := by
  have kernel := inv.kernel
  simp only [pc, ServerPc.erases, ServerPc.accepted] at kernel
  simp only [serverStep, pc] at stepped
  cases held : state.clients.lookup number with
  | none =>
      rw [held] at stepped
      cases stepped
      exact inv.serverSet _ _ .poll kernel (fun _ none => (nomatch none)) fun _ _ _ => id
  | some found =>
      rw [held] at stepped
      cases stepped
      refine inv.serverSet _ _ (.receive _) kernel (fun client member => ?_) fun _ _ _ => id
      rw [List.mem_singleton.mp member]
      exact ⟨found, held, rfl⟩

theorem receive_keeps (client : Handle) (pc : state.run = .receive client) : Inv next := by
  have kernel := inv.kernel
  have server := inv.server
  simp only [pc, ServerPc.erases, ServerPc.accepted, ServerPc.held] at kernel server
  simp only [serverStep, pc] at stepped
  cases stepped
  split_ifs
  · exact inv.serverSet _ _ .poll kernel (fun _ none => (nomatch none)) fun _ _ _ => id
  · exact inv.serverSet _ _ (.closing client) kernel server fun _ _ _ => id

theorem closing_keeps (client : Handle) (pc : state.run = .closing client) : Inv next := by
  have kernel := inv.kernel
  have server := inv.server
  simp only [pc, ServerPc.erases, ServerPc.accepted, ServerPc.held] at kernel server
  obtain ⟨found, held, _, denoted⟩ := target_points (server client (List.mem_singleton_self _))
  simp only [serverStep, pc, closeFD, denoted] at stepped
  cases stepped
  refine inv.serverSet _ _ (.erasing _) ?_ (fun _ none => (nomatch none)) fun _ _ _ points => ?_
  · rw [lookup_inserted]
    exact kernel.marked _ _ held
  · apply points_insert points
    intro other there
    rw [held] at there
    cases there
    rfl

theorem erasing_keeps (number : Nat) (pc : state.run = .erasing number)
    (unshared : Unshared state (.run event outcome)) : Inv next := by
  have kernel := inv.kernel
  simp only [pc, ServerPc.erases, ServerPc.accepted] at kernel
  simp only [Unshared, pc] at unshared
  simp only [serverStep, pc, eraseClient] at stepped
  cases stepped
  refine inv.serverSet _ _ .poll ?_ (fun _ none => (nomatch none))
    fun sender client member points => points_erase points _ (unshared sender client member)
  rw [lookup_erased]
  cases held : state.clients.lookup number with
  | none => exact (kernel.forget number).settled (Function.update_self _ _ _)
  | some found =>
      have destroyed := (kernel.destroy number found held).fewer
        fun serial member => List.mem_append_left _ member
      exact destroyed.settled (Function.update_self _ _ _)

theorem cleanup_keeps (pc : state.run = .cleanup)
    (unshared : Unshared state (.run event outcome)) : Inv next := by
  have kernel := inv.kernel
  simp only [pc, ServerPc.erases, ServerPc.accepted] at kernel
  simp only [Unshared, pc] at unshared
  simp only [serverStep, pc] at stepped
  cases stepped
  refine inv.serverSet _ _ .done ?_ (fun _ none => (nomatch none)) fun sender client member => ?_
  · exact close_entries_kernel _ _ _ state.clients.nodupKeys kernel
  · rw [unshared sender] at member
    cases member

theorem server_step_keeps (unshared : Unshared state (.run event outcome)) : Inv next := by
  cases pc : state.run with
  | poll => exact poll_keeps inv stepped pc
  | addEpoll fd => exact add_epoll_keeps inv stepped fd pc
  | insert fd => exact insert_keeps inv stepped fd pc
  | lookup number => exact lookup_keeps inv stepped number pc
  | receive client => exact receive_keeps inv stepped client pc
  | closing client => exact closing_keeps inv stepped client pc
  | erasing number => exact erasing_keeps inv stepped number pc unshared
  | cleanup => exact cleanup_keeps inv stepped pc unshared
  | done =>
      simp only [serverStep, pc] at stepped
      cases stepped

end Server

theorem remove_failed_points (state : State Caller) (client : Handle)
    (points : Points state.clients client) :
    ∃ found, state.clients.lookup client.number = some found ∧
      removeFailed state client = { state with
        fds := destroyClient state.fds .event (some found)
        clients :=
          (state.clients.insert client.number { found with fd := none }).erase client.number
        removals := state.removals ++ [⟨client.serial, some client.serial⟩] } := by
  obtain ⟨found, held, same, denoted⟩ := target_points points
  refine ⟨found, held, ?_⟩
  simp [removeFailed, closeFD, denoted, eraseClient, AList.lookup_insert, destroyClient, same]

theorem marked_erased (clients : ClientList) (number : Nat) (object : Client) :
    (fun other => ((clients.insert number object).erase number).lookup other) =
      Function.update (fun other => clients.lookup other) number none := by
  rw [lookup_erased, lookup_inserted, Function.update_idem]

section Senders
variable [DecidableEq Caller]

theorem Inv.senderPut {state : State Caller} (inv : Inv state) (sender : Sender Caller)
    (pc : SenderPc) (points : ∀ client ∈ pc.held, Points state.clients client)
    (distinct : (pc.held.map Handle.number).Nodup) : Inv (state.put sender pc) := by
  refine ⟨inv.kernel, inv.erased, inv.server, fun other => ?_, fun other => ?_⟩
  · by_cases same : other = sender
    · subst same
      simpa [State.put] using points
    · simpa [State.put, same] using inv.senders other
  · by_cases same : other = sender
    · subst same
      simpa [State.put] using distinct
    · simpa [State.put, same] using inv.distinct other

theorem failed_keeps {state next : State Caller} {sender : Sender Caller} {outcome : Bool}
    (inv : Inv state) (stepped : senderStep state sender outcome = some next)
    (client : Handle) (rest : List Handle) (pc : state.senders sender = .failed client rest)
    (unshared : Unshared state (.send sender outcome)) : Inv next := by
  have held := inv.senders sender
  have distinct := inv.distinct sender
  simp only [pc, SenderPc.held] at held distinct
  simp only [Unshared, pc] at unshared
  simp only [senderStep, pc] at stepped
  cases stepped
  -- the rest of the copy has other numbers
  obtain ⟨absent, later⟩ := List.nodup_cons.mp distinct
  obtain ⟨found, there, removed⟩ :=
    remove_failed_points state client (held client List.mem_cons_self)
  have identity : found.serial = client.serial := by
    obtain ⟨object, same, identity⟩ := held client List.mem_cons_self
    rw [there] at same
    cases same
    exact identity
  have kept : ∀ other, Points state.clients other → other.number ≠ client.number →
      Points ((state.clients.insert client.number { found with fd := none }).erase
        client.number) other := by
    intro other points apart
    apply points_erase _ _ apart
    apply points_insert points
    intro object same
    rw [there] at same
    cases same
    rfl
  rw [removed]
  refine ⟨?_, ?_, ?_, ?_, ?_⟩
  · have destroyed := inv.kernel.destroy client.number found there
    simpa [State.put, marked_erased, identity] using destroyed
  · intro removal member
    rcases List.mem_append.mp member with old | new
    · exact inv.erased removal old
    · rw [List.mem_singleton.mp new]
  · intro other member
    exact kept other (inv.server other member) (unshared.1 other member)
  · intro other pointer member
    by_cases same : other = sender
    · subst same
      simp only [State.put, Function.update_self] at member
      apply kept pointer (held pointer (List.mem_cons_of_mem _ member))
      rintro equal
      exact absent (List.mem_map.mpr ⟨pointer, member, equal⟩)
    · simp only [State.put, Function.update_of_ne same] at member
      exact kept pointer (inv.senders other pointer member)
        (unshared.2 other same pointer member)
  · intro other
    by_cases same : other = sender
    · subst same
      simpa [State.put, SenderPc.held] using later
    · simpa [State.put, same] using inv.distinct other

theorem sender_step_keeps (state next : State Caller) (sender : Sender Caller) (outcome : Bool)
    (inv : Inv state) (stepped : senderStep state sender outcome = some next)
    (unshared : Unshared state (.send sender outcome)) : Inv next := by
  have held := inv.senders sender
  have distinct := inv.distinct sender
  cases pc : state.senders sender with
  | idle =>
      simp only [senderStep, pc] at stepped
      cases sender with
      | heartbeat =>
          cases stepped
          split_ifs
          · exact inv.senderPut _ .asleep (fun _ none => (nomatch none)) List.nodup_nil
          · exact inv.senderPut _ .ended (fun _ none => (nomatch none)) List.nodup_nil
      | caller who =>
          cases stepped
          exact inv.senderPut _ (.sending _) (copy_points state.clients)
            (copy_distinct state.clients)
  | asleep =>
      simp only [senderStep, pc] at stepped
      cases stepped
      exact inv.senderPut _ (.sending _) (copy_points state.clients) (copy_distinct state.clients)
  | sending rest =>
      cases rest with
      | nil =>
          simp only [senderStep, pc] at stepped
          cases stepped
          exact inv.senderPut _ .idle (fun _ none => (nomatch none)) List.nodup_nil
      | cons client rest =>
          simp only [senderStep, pc] at stepped
          simp only [pc, SenderPc.held] at held distinct
          cases stepped
          split_ifs
          · exact inv.senderPut _ (.sending rest)
              (fun other member => held other (List.mem_cons_of_mem _ member))
              (List.nodup_cons.mp distinct).2
          · exact inv.senderPut _ (.failed client rest) held distinct
  | failed client rest => exact failed_keeps inv stepped client rest pc unshared
  | ended =>
      simp only [senderStep, pc] at stepped
      cases stepped

theorem step_keeps (state : State Caller) (action : Action Caller) (next : State Caller)
    (inv : Inv state) (stepped : step state action = some next)
    (unshared : Unshared state action) : Inv next := by
  cases action with
  | run event outcome => exact server_step_keeps inv stepped unshared
  | send sender outcome => exact sender_step_keeps state next sender outcome inv stepped unshared
  | stop =>
      cases stepped
      exact ⟨inv.kernel, inv.erased, inv.server, inv.senders, inv.distinct⟩
  | openOther =>
      cases stepped
      have opened := inv.kernel.opens .other state.fds.serial le_rfl fun _ same => by cases same
      exact ⟨opened, inv.erased, inv.server, inv.senders, inv.distinct⟩
  | closeOther number =>
      obtain ⟨fds, closed, rfl⟩ := Option.map_eq_some_iff.mp stepped
      unfold Descriptors.closeOther at closed
      split_ifs at closed with own
      cases closed
      -- the rest of the process closes only what is its own
      have foreign : ∀ serial, lookup state.fds.table number ≠ some (.socket .event serial) := by
        intro serial there
        rw [own.2] at there
        cases there
      refine ⟨inv.kernel.release number own.1 ?_ ?_, inv.erased, inv.server, inv.senders,
        inv.distinct⟩
      · intro client held
        rcases (inv.kernel.entries number client held).2 with ⟨_, there, _⟩ | ⟨none, _⟩
        · exact absurd there (foreign client.serial)
        · exact none
      · rintro fd inHand rfl
        exact absurd (inv.kernel.hand fd inHand).1 (foreign fd.serial)

/-- A client that is erased while another thread has its pointer leaves that
thread with the pointer of a destroyed client. -/
theorem step_needs (state : State Caller) (action : Action Caller) (next : State Caller)
    (_ : Inv state) (stepped : step state action = some next) (good : RemovesFailed next) :
    Unshared state action := by
  unfold Unshared
  cases action with
  | run event outcome =>
      unfold step serverStep at stepped
      cases pc : state.run with
      | erasing number =>
          simp only [pc, eraseClient] at stepped ⊢
          cases stepped
          intro sender client member
          exact points_erased (good.senders sender client member)
      -- the list is empty afterwards, so no pointer into it is left
      | cleanup =>
          simp only [pc] at stepped ⊢
          cases stepped
          intro sender
          apply List.eq_nil_iff_forall_not_mem.mpr
          intro client member
          obtain ⟨found, held, _⟩ := good.senders sender client member
          rw [AList.lookup_empty] at held
          cases held
      | _ => trivial
  | send sender outcome =>
      unfold step senderStep at stepped
      cases pc : state.senders sender with
      | failed client rest =>
          simp only [pc] at stepped ⊢
          cases stepped
          constructor
          · intro held member
            exact points_erased (good.server held member)
          · intro other apart held member
            have same := good.senders other held
            simp only [State.put, Function.update_of_ne apart] at same
            exact points_erased (same member)
      | _ => simp only [pc]
  | stop | openOther | closeOther _ => trivial

/-- `EventServer` removes only the failed client exactly in the runs in which
no client is erased while another thread has its pointer. -/
theorem removes_failed_iff (actions : List (Action Caller)) :
    Throughout step RemovesFailed start actions ↔ Along step Unshared start actions :=
  throughout_iff_along step inv_sound step_keeps step_needs actions start start_inv

end Senders

def connect : List (Action Unit) := List.replicate 3 (.run (.connection true) true)

def lose (number : Nat) : List (Action Unit) :=
  List.replicate 5 (.run (.client number) false)

/-- A caller of `send` fails on a client; before it has the lock, `run` erases
that client and accepts another one under the same number. -/
def newerErased : List (Action Unit) :=
  connect ++ List.replicate 2 (.send (.caller ()) false) ++ lose 3 ++ connect ++
    [.send (.caller ()) false]

/-- The heartbeat and a caller of `send` fail on the same client. -/
def removedTwice : List (Action Unit) :=
  connect ++ List.replicate 3 (.send .heartbeat false) ++
    List.replicate 3 (.send (.caller ()) false) ++ [.send .heartbeat false]

theorem newer_client_erased :
    ¬ Throughout step RemovesFailed start newerErased ∧
      ¬ Throughout step RemovesFailed start removedTwice := by
  constructor
  · intro removes
    have ran : ∃ final, run step start newerErased = some final ∧
        final.removals = [⟨0, some 1⟩] :=
      ⟨(run step start newerErased).get (by decide +kernel), (Option.some_get _).symm,
        by decide +kernel⟩
    obtain ⟨final, reached, removals⟩ := ran
    have wrong := (throughout_last step newerErased start final removes reached).erased ⟨0, some 1⟩
    rw [removals] at wrong
    exact absurd (wrong (List.mem_singleton_self _)) (by decide)
  · intro removes
    have ran : ∃ final, run step start removedTwice = some final ∧
        final.removals = [⟨0, some 0⟩, ⟨0, none⟩] :=
      ⟨(run step start removedTwice).get (by decide +kernel), (Option.some_get _).symm,
        by decide +kernel⟩
    obtain ⟨final, reached, removals⟩ := ran
    have wrong := (throughout_last step removedTwice start final removes reached).erased ⟨0, none⟩
    rw [removals] at wrong
    exact absurd (wrong (by simp)) (by decide)

end GramsTof.EventServerClients
