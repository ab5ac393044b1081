import GramsTof.DescriptorTable

/-!
`GRAMS_TOF_FDManager` over the kernel's descriptor table, as the two client
loops use it. A number is not an identity: the kernel hands it out again. Every
socket and epoll instance therefore carries a serial, which no code reads, and
every `::close` is recorded with the object it was meant for and the object
that was open under the number.

The invariant is about who may still close what. It is kept by every operation
that finds what the operation's theorem asks for, and it makes each recorded
close right.
-/

namespace GramsTof.FDManager

open DescriptorTable

/-- `ServerKind`, without the DAQ socket, which neither client loop touches. -/
inductive Kind where
  | command
  | event
  deriving DecidableEq, Repr

/-- What is open under a number. `other` is what the rest of the process has
opened. -/
inductive Object where
  | other
  | socket (kind : Kind) (serial : Nat)
  | epoll (kind : Kind) (serial : Nat)
  deriving DecidableEq, Repr

/-- A number as a variable of the code holds it, with the serial of what it was
returned for. -/
structure Handle where
  number : Nat
  serial : Nat
  deriving DecidableEq, Repr

structure Close where
  actor : Object
  number : Nat
  found : Option Object
  deriving DecidableEq, Repr

/-- `serverFDs_` holds a number or -1. An entry of `clientFDs_` is a `SafeFD`
that holds its own key; it is labelled with the connection that registered the
number last. -/
structure Descriptors where
  table : Table Object
  serverFDs : Kind → Option Handle
  clientFDs : Nat → Option (Kind × Nat)
  serial : Nat
  closes : List Close

/-- `::close`, which frees the number whatever is open under it. -/
def Descriptors.close (fds : Descriptors) (actor : Object) (number : Nat) : Descriptors :=
  { fds with
    table := release fds.table number
    closes := fds.closes ++
      [{ actor := actor, number := number, found := lookup fds.table number }] }

def Descriptors.socket (fds : Descriptors) (kind : Kind) : Handle × Descriptors :=
  ({ number := lowest fds.table, serial := fds.serial },
    { fds with table := place fds.table (.socket kind fds.serial), serial := fds.serial + 1 })

def Descriptors.epollCreate (fds : Descriptors) (kind : Kind) : Handle × Descriptors :=
  ({ number := lowest fds.table, serial := fds.serial },
    { fds with table := place fds.table (.epoll kind fds.serial), serial := fds.serial + 1 })

/-- The kernel hands out the lowest number that is not open. -/
theorem socket_lowest (fds : Descriptors) (kind : Kind) :
    lookup fds.table (fds.socket kind).1.number = none ∧
      ∀ number < (fds.socket kind).1.number, ∃ object, lookup fds.table number = some object :=
  ⟨lowest_free fds.table, lowest_least fds.table⟩

/-- The exchange in `SafeFD::setFD` and `closeFD`, with the old number if it is
to be closed. -/
def Descriptors.exchange (fds : Descriptors) (kind : Kind) (fd : Option Handle) :
    Option Handle × Descriptors :=
  ((fds.serverFDs kind).filter (2 < ·.number),
    { fds with serverFDs := Function.update fds.serverFDs kind fd })

/-- `addClientFD`: an entry that is there already stays. -/
def Descriptors.addClientFD (fds : Descriptors) (kind : Kind) (fd : Handle) : Descriptors :=
  { fds with clientFDs := Function.update fds.clientFDs fd.number (some (kind, fd.serial)) }

def Descriptors.erase (fds : Descriptors) (number : Nat) : Descriptors :=
  { fds with clientFDs := Function.update fds.clientFDs number none }

/-- `removeClientFD`: the `SafeFD` of an erased entry closes its number. All of
it runs under `mtx_`. -/
def Descriptors.removeClientFD (fds : Descriptors) (kind : Kind) (fd : Handle) : Descriptors :=
  match fds.clientFDs fd.number with
  | none => fds
  | some _ =>
      let erased := fds.erase fd.number
      if 2 < fd.number then erased.close (.socket kind fd.serial) fd.number else erased

/-- The rest of the process opens and closes descriptors of its own, and keeps
the standard ones. -/
def Descriptors.openOther (fds : Descriptors) : Descriptors :=
  { fds with table := place fds.table .other }

def Descriptors.closeOther (fds : Descriptors) (number : Nat) : Option Descriptors :=
  if 2 < number ∧ lookup fds.table number = some .other then
    some { fds with table := release fds.table number }
  else none

def Descriptors.Open (fds : Descriptors) (kind : Kind) (fd : Handle) : Prop :=
  lookup fds.table fd.number = some (.socket kind fd.serial)

def Descriptors.Registered (fds : Descriptors) (kind : Kind) (fd : Handle) : Prop :=
  fds.clientFDs fd.number = some (kind, fd.serial)

instance (fds : Descriptors) (kind : Kind) (fd : Handle) : Decidable (fds.Registered kind fd) :=
  inferInstanceAs (Decidable (_ = _))

/-- Every close found what it was meant for, and nothing was closed twice. -/
structure Sound (fds : Descriptors) : Prop where
  own : ∀ close ∈ fds.closes, close.found = some close.actor
  once : (fds.closes.map Close.actor).Nodup

instance (fds : Descriptors) : Decidable (Sound fds) :=
  decidable_of_iff ((∀ close ∈ fds.closes, close.found = some close.actor) ∧
      (fds.closes.map Close.actor).Nodup)
    ⟨fun ⟨own, once⟩ => ⟨own, once⟩, fun sound => ⟨sound.own, sound.once⟩⟩

/-- The descriptors in the hands of a client's threads: a socket not yet
registered, a number taken out of `serverFDs_` to be closed, and the epoll
instance. -/
structure View where
  connecting : Option Handle
  closing : Option Handle
  polling : Option Handle
  deriving DecidableEq, Repr

def Object.Below (serial : Nat) : Object → Prop
  | .other => True
  | .socket _ own => own < serial
  | .epoll _ own => own < serial

structure Hands (fds : Descriptors) (kind : Kind) (view : View) : Prop where
  connecting : ∀ fd, view.connecting = some fd → fds.Open kind fd
  closing : ∀ fd, view.closing = some fd → fds.Open kind fd
  polling : ∀ fd, view.polling = some fd →
    lookup fds.table fd.number = some (.epoll kind fd.serial)
  early : ∀ fd, view.connecting = some fd → ¬ fds.Registered kind fd
  taken : ∀ fd, view.closing = some fd →
    fds.serverFDs kind ≠ some fd ∧ view.connecting ≠ some fd

structure Inv (fds : Descriptors) (views : Kind → View) : Prop where
  standard : ∀ number, number ≤ 2 → lookup fds.table number = some .other
  hands : ∀ kind, Hands fds kind (views kind)
  paired : ∀ kind fd, fds.serverFDs kind = some fd → fds.Registered kind fd → fds.Open kind fd
  unique : ∀ left right object, lookup fds.table left = some object →
    lookup fds.table right = some object → object ≠ .other → left = right
  below : ∀ number object, lookup fds.table number = some object → object.Below fds.serial
  labels : ∀ kind fd, fds.Registered kind fd → fd.serial < fds.serial
  sound : Sound fds
  gone : ∀ close ∈ fds.closes, close.actor ≠ .other ∧ close.actor.Below fds.serial ∧
    ∀ number, lookup fds.table number ≠ some close.actor

def initial : Descriptors :=
  { table := [some .other, some .other, some .other], serverFDs := fun _ => none
    clientFDs := fun _ => none, serial := 0, closes := [] }

theorem initial_lookup (number : Nat) (object : Object)
    (held : lookup initial.table number = some object) : object = .other := by
  rcases number with _ | _ | _ | number
  · exact (Option.some.inj held).symm
  · exact (Option.some.inj held).symm
  · exact (Option.some.inj held).symm
  · simp [lookup, initial] at held

theorem initial_inv : Inv initial fun _ => ⟨none, none, none⟩ where
  standard := by
    intro number low
    have cases : number = 0 ∨ number = 1 ∨ number = 2 := by omega
    rcases cases with rfl | rfl | rfl <;> rfl
  hands := fun _ => ⟨fun _ none => (nomatch none), fun _ none => (nomatch none),
    fun _ none => (nomatch none), fun _ none => (nomatch none), fun _ none => (nomatch none)⟩
  paired := fun _ _ none => (nomatch none)
  unique := by
    intro left right object held _ proper
    exact absurd (initial_lookup left object held) proper
  below := by
    intro number object held
    rw [initial_lookup number object held]
    trivial
  labels := fun _ _ none => (nomatch none)
  sound := ⟨fun _ none => (nomatch none), List.nodup_nil⟩
  gone := fun _ none => (nomatch none)

theorem open_above {fds : Descriptors} {views : Kind → View} (inv : Inv fds views) (kind : Kind)
    (fd : Handle) (there : fds.Open kind fd) : 2 < fd.number := by
  by_contra low
  have standard := inv.standard fd.number (by omega)
  rw [there] at standard
  cases standard

theorem open_unique {fds : Descriptors} {views : Kind → View} (inv : Inv fds views)
    {kind other : Kind} {fd handle : Handle} (left : fds.Open kind fd)
    (right : fds.Open other handle)
    (same : Object.socket kind fd.serial = .socket other handle.serial) :
    other = kind ∧ handle = fd := by
  unfold Descriptors.Open at left right
  rw [← same] at right
  have number := inv.unique _ _ _ left right (by simp)
  obtain ⟨rfl, serial⟩ := Object.socket.inj same
  cases fd
  cases handle
  simp only at number serial
  subst number serial
  exact ⟨rfl, rfl⟩

def put (views : Kind → View) (kind : Kind) (view : View) : Kind → View :=
  Function.update views kind view

theorem hands_put {fds : Descriptors} {views : Kind → View} {kind : Kind} {view : View}
    (here : Hands fds kind view) (others : ∀ other, Hands fds other (views other)) :
    ∀ other, Hands fds other (put views kind view other) := by
  intro other
  by_cases same : other = kind
  · subst same
    simpa [put] using here
  · simpa [put, same] using others other

theorem Inv.put {fds : Descriptors} {views : Kind → View} {kind : Kind} {view : View}
    (inv : Inv fds views) (here : Hands fds kind view) : Inv fds (put views kind view) :=
  { inv with hands := hands_put here inv.hands }

theorem Hands.drop {fds : Descriptors} {kind : Kind} {view : View}
    (hands : Hands fds kind view) (smaller : View)
    (connecting : ∀ fd, smaller.connecting = some fd → view.connecting = some fd)
    (closing : ∀ fd, smaller.closing = some fd → view.closing = some fd)
    (polling : ∀ fd, smaller.polling = some fd → view.polling = some fd) :
    Hands fds kind smaller where
  connecting := fun fd held => hands.connecting fd (connecting fd held)
  closing := fun fd held => hands.closing fd (closing fd held)
  polling := fun fd held => hands.polling fd (polling fd held)
  early := fun fd held => hands.early fd (connecting fd held)
  taken := fun fd held =>
    have apart := hands.taken fd (closing fd held)
    ⟨apart.1, fun same => apart.2 (connecting fd same)⟩

/-- A view needs the object open. -/
def View.Holds (view : View) (kind : Kind) (object : Object) : Prop :=
  (∃ fd, (view.connecting = some fd ∨ view.closing = some fd) ∧ object = .socket kind fd.serial) ∨
    ∃ fd, view.polling = some fd ∧ object = .epoll kind fd.serial

theorem Object.Below.mono {object : Object} {low high : Nat} (below : object.Below low)
    (le : low ≤ high) : object.Below high := by
  cases object with
  | other => trivial
  | socket kind serial => exact Nat.lt_of_lt_of_le below le
  | epoll kind serial => exact Nat.lt_of_lt_of_le below le

/-- A number may be freed when no hand, and no pair of registered and server
descriptor, still needs what is open under it. -/
theorem release_keeps {fds : Descriptors} {views : Kind → View} (inv : Inv fds views)
    (object : Object) (number : Nat) (there : lookup fds.table number = some object)
    (high : 2 < number) (free : ∀ kind, ¬ (views kind).Holds kind object)
    (paired : ∀ kind fd, fds.serverFDs kind = some fd → fds.Registered kind fd →
      object ≠ .socket kind fd.serial) :
    Inv { fds with table := release fds.table number } views := by
  -- what is open elsewhere stays open, as it is another object
  have stays : ∀ other found, lookup fds.table other = some found → object ≠ found →
      lookup (release fds.table number) other = some found := by
    intro other found held differs
    rw [lookup_release_other, held]
    rintro rfl
    rw [there] at held
    exact differs (Option.some.inj held)
  constructor
  case standard =>
    intro low bound
    rw [lookup_release_other _ _ _ (by omega)]
    exact inv.standard low bound
  case hands =>
    intro kind
    have hands := inv.hands kind
    refine ⟨fun fd held => ?_, fun fd held => ?_, fun fd held => ?_, hands.early, hands.taken⟩
    · exact stays _ _ (hands.connecting fd held)
        fun same => free kind (Or.inl ⟨fd, Or.inl held, same⟩)
    · exact stays _ _ (hands.closing fd held)
        fun same => free kind (Or.inl ⟨fd, Or.inr held, same⟩)
    · exact stays _ _ (hands.polling fd held) fun same => free kind (Or.inr ⟨fd, held, same⟩)
  case paired =>
    exact fun kind fd slot label =>
      stays _ _ (inv.paired kind fd slot label) (paired kind fd slot label)
  case unique =>
    intro left right found leftHeld rightHeld
    exact inv.unique left right found (lookup_release _ _ _ _ leftHeld)
      (lookup_release _ _ _ _ rightHeld)
  case below =>
    exact fun other found held => inv.below other found (lookup_release _ _ _ _ held)
  case labels => exact inv.labels
  case sound => exact ⟨inv.sound.own, inv.sound.once⟩
  case gone =>
    intro close member
    obtain ⟨proper, bound, absent⟩ := inv.gone close member
    exact ⟨proper, bound, fun other held => absent other (lookup_release _ _ _ _ held)⟩

theorem close_keeps {fds : Descriptors} {views : Kind → View} (inv : Inv fds views)
    (object : Object) (number : Nat) (there : lookup fds.table number = some object)
    (closable : object ≠ .other) (free : ∀ kind, ¬ (views kind).Holds kind object)
    (paired : ∀ kind fd, fds.serverFDs kind = some fd → fds.Registered kind fd →
      object ≠ .socket kind fd.serial) :
    Inv (fds.close object number) views := by
  have high : 2 < number := by
    by_contra low
    have standard := inv.standard number (by omega)
    rw [there] at standard
    exact closable (Option.some.inj standard)
  have released := release_keeps inv object number there high free paired
  -- what was closed before is open nowhere
  have fresh : object ∉ fds.closes.map Close.actor := by
    intro member
    obtain ⟨close, logged, rfl⟩ := List.mem_map.mp member
    exact (inv.gone close logged).2.2 number there
  refine ⟨released.standard, fun kind => ?_, released.paired, released.unique, released.below,
    released.labels, ⟨fun close member => ?_, ?_⟩, fun close member => ?_⟩
  · have hands := released.hands kind
    exact ⟨hands.connecting, hands.closing, hands.polling, hands.early, hands.taken⟩
  · rcases List.mem_append.mp member with old | new
    · exact inv.sound.own close old
    · rw [List.mem_singleton.mp new]
      exact there
  · simp only [Descriptors.close, List.map_append, List.map_cons, List.map_nil]
    exact List.Nodup.append inv.sound.once (List.nodup_singleton _)
      (List.disjoint_singleton.mpr fresh)
  · rcases List.mem_append.mp member with old | new
    · exact released.gone close old
    · rw [List.mem_singleton.mp new]
      refine ⟨closable, inv.below number object there, fun other held => ?_⟩
      have same := inv.unique other number object (lookup_release _ _ _ _ held) there closable
      rw [same] at held
      simp only [Descriptors.close, lookup_release_self] at held
      cases held

/-- A new object gets a number nobody holds and a serial nobody knows. -/
theorem place_keeps {fds : Descriptors} {views : Kind → View} (inv : Inv fds views)
    (object : Object) (serial : Nat) (later : fds.serial ≤ serial) (below : object.Below serial)
    (new : object = .other ∨ ¬ object.Below fds.serial) :
    Inv { fds with table := place fds.table object, serial := serial } views := by
  have stays := lookup_place fds.table object
  have back : ∀ number found, lookup (place fds.table object) number = some found →
      lookup fds.table number = some found ∨ number = lowest fds.table ∧ found = object := by
    intro number found held
    by_cases same : number = lowest fds.table
    · rw [same, lookup_place_self] at held
      exact Or.inr ⟨same, (Option.some.inj held).symm⟩
    · rw [lookup_place_other _ _ _ same] at held
      exact Or.inl held
  constructor
  case standard => exact fun number low => stays _ _ (inv.standard number low)
  case hands =>
    intro kind
    have hands := inv.hands kind
    exact ⟨fun fd held => stays _ _ (hands.connecting fd held),
      fun fd held => stays _ _ (hands.closing fd held),
      fun fd held => stays _ _ (hands.polling fd held), hands.early, hands.taken⟩
  case paired => exact fun kind fd slot label => stays _ _ (inv.paired kind fd slot label)
  case unique =>
    intro left right found leftHeld rightHeld proper
    rcases back left found leftHeld with oldLeft | ⟨newLeft, rfl⟩
    · rcases back right found rightHeld with oldRight | ⟨newRight, rfl⟩
      · exact inv.unique left right found oldLeft oldRight proper
      · exact absurd (inv.below left found oldLeft) (new.resolve_left proper)
    · rcases back right found rightHeld with oldRight | ⟨newRight, _⟩
      · exact absurd (inv.below right found oldRight) (new.resolve_left proper)
      · rw [newLeft, newRight]
  case below =>
    intro number found held
    rcases back number found held with old | ⟨_, rfl⟩
    · exact (inv.below number found old).mono later
    · exact below
  case labels => exact fun kind fd label => Nat.lt_of_lt_of_le (inv.labels kind fd label) later
  case sound => exact ⟨inv.sound.own, inv.sound.once⟩
  case gone =>
    intro close member
    obtain ⟨proper, bound, absent⟩ := inv.gone close member
    refine ⟨proper, bound.mono later, fun number held => ?_⟩
    rcases back number close.actor held with old | ⟨_, same⟩
    · exact absent number old
    · rcases new with other | unknown
      · exact proper (same.trans other)
      · exact unknown (same ▸ bound)

theorem socket_keeps {fds : Descriptors} {views : Kind → View} (inv : Inv fds views)
    (kind : Kind) :
    Inv (fds.socket kind).2
      (put views kind { views kind with connecting := some (fds.socket kind).1 }) := by
  have placed : Inv (fds.socket kind).2 views :=
    place_keeps inv (.socket kind fds.serial) (fds.serial + 1) (Nat.le_succ _)
      (Nat.lt_succ_self _) (Or.inr (Nat.lt_irrefl _))
  have hands := placed.hands kind
  refine placed.put ⟨fun fd held => ?_, hands.closing, hands.polling, fun fd held label => ?_,
    fun fd held => ⟨(hands.taken fd held).1, fun new => ?_⟩⟩
  · cases held
    exact lookup_place_self _ _
  · cases held
    exact absurd (inv.labels kind _ label) (Nat.lt_irrefl _)
  · have known : fd.serial < fds.serial := inv.below fd.number _ ((inv.hands kind).closing fd held)
    rw [← Option.some.inj new] at known
    exact absurd known (Nat.lt_irrefl _)

theorem epoll_create_keeps {fds : Descriptors} {views : Kind → View} (inv : Inv fds views)
    (kind : Kind) :
    Inv (fds.epollCreate kind).2
      (put views kind { views kind with polling := some (fds.epollCreate kind).1 }) := by
  have placed : Inv (fds.epollCreate kind).2 views :=
    place_keeps inv (.epoll kind fds.serial) (fds.serial + 1) (Nat.le_succ _)
      (Nat.lt_succ_self _) (Or.inr (Nat.lt_irrefl _))
  have hands := placed.hands kind
  refine placed.put ⟨hands.connecting, hands.closing, fun fd held => ?_, hands.early, hands.taken⟩
  cases held
  exact lookup_place_self _ _

theorem open_other_keeps {fds : Descriptors} {views : Kind → View} (inv : Inv fds views) :
    Inv fds.openOther views :=
  place_keeps inv .other fds.serial (Nat.le_refl _) trivial (Or.inl rfl)

theorem close_other_keeps {fds after : Descriptors} {views : Kind → View} (inv : Inv fds views)
    (number : Nat) (closed : fds.closeOther number = some after) : Inv after views := by
  unfold Descriptors.closeOther at closed
  split at closed
  · next own =>
      cases closed
      refine release_keeps inv .other number own.2 own.1 ?_ fun _ _ _ _ same => by cases same
      rintro kind (⟨_, _, same⟩ | ⟨_, _, same⟩) <;> cases same
  · cases closed

/-- A number leaves `serverFDs_` safely while its connection is registered. -/
theorem exchange_keeps {fds : Descriptors} {views : Kind → View} (inv : Inv fds views)
    (kind : Kind) (fd : Option Handle) (own : ∀ new, fd = some new → (views kind).connecting = fd)
    (registered : ∀ old, fds.serverFDs kind = some old → fds.Registered kind old) :
    Inv (fds.exchange kind fd).2
      (put views kind { views kind with closing := (fds.exchange kind fd).1 }) := by
  have hands := inv.hands kind
  -- the old descriptor is registered, the one being connected is not yet
  have apart : ∀ old, fds.serverFDs kind = some old → (views kind).connecting ≠ some old :=
    fun old slot held => hands.early old held (registered old slot)
  have shifted : ∀ other, Hands fds other (put views kind
      { views kind with closing := none } other) :=
    hands_put (hands.drop { views kind with closing := none } (fun _ => id)
      (fun _ none => by cases none) fun _ => id) inv.hands
  constructor
  case standard => exact inv.standard
  case hands =>
    intro other
    by_cases same : other = kind
    · subst same
      simp only [put, Function.update_self]
      refine ⟨hands.connecting, fun old held => ?_, hands.polling, hands.early,
        fun old held => ⟨?_, ?_⟩⟩
      · -- registered and in the slot: the number still names its own socket
        obtain ⟨slot, _⟩ := Option.filter_eq_some_iff.mp held
        exact inv.paired other old slot (registered old slot)
      · obtain ⟨slot, _⟩ := Option.filter_eq_some_iff.mp held
        simp only [Descriptors.exchange, Function.update_self]
        rintro rfl
        exact apart old slot (own old rfl)
      · obtain ⟨slot, _⟩ := Option.filter_eq_some_iff.mp held
        exact apart old slot
    · have elsewhere := shifted other
      simp only [put, Function.update_of_ne same] at elsewhere ⊢
      refine ⟨elsewhere.connecting, elsewhere.closing, elsewhere.polling, elsewhere.early, ?_⟩
      intro old held
      simp only [Descriptors.exchange, Function.update_of_ne same]
      exact elsewhere.taken old held
  case paired =>
    intro other slotFd slot label
    by_cases same : other = kind
    · subst same
      simp only [Descriptors.exchange, Function.update_self] at slot
      subst slot
      exact absurd label (hands.early slotFd (own slotFd rfl))
    · simp only [Descriptors.exchange, Function.update_of_ne same] at slot
      exact inv.paired other slotFd slot label
  case unique => exact inv.unique
  case below => exact inv.below
  case labels => exact inv.labels
  case sound => exact ⟨inv.sound.own, inv.sound.once⟩
  case gone => exact inv.gone

theorem add_client_keeps {fds : Descriptors} {views : Kind → View} (inv : Inv fds views)
    (kind : Kind) (fd : Handle) (held : (views kind).connecting = some fd) :
    Inv (fds.addClientFD kind fd) (put views kind { views kind with connecting := none }) := by
  have there := (inv.hands kind).connecting fd held
  have label : ∀ other handle, (fds.addClientFD kind fd).Registered other handle →
      other = kind ∧ handle = fd ∨ fds.Registered other handle := by
    intro other handle registered
    unfold Descriptors.Registered Descriptors.addClientFD at registered
    by_cases same : handle.number = fd.number
    · simp only [same, Function.update_self, Option.some.injEq, Prod.mk.injEq] at registered
      obtain ⟨rfl, serial⟩ := registered
      cases handle
      cases fd
      simp only at same serial
      subst same serial
      exact Or.inl ⟨rfl, rfl⟩
    · simp only [Function.update_of_ne same] at registered
      exact Or.inr registered
  constructor
  case standard => exact inv.standard
  case hands =>
    -- the entry takes the socket over from the hands of `run`
    have emptied := hands_put ((inv.hands kind).drop { views kind with connecting := none }
      (fun _ none => by cases none) (fun _ => id) fun _ => id) inv.hands
    intro other
    have hands := emptied other
    refine ⟨hands.connecting, hands.closing, hands.polling, fun handle connecting registered => ?_,
      hands.taken⟩
    rcases label other handle registered with ⟨rfl, rfl⟩ | old
    · simp [put] at connecting
    · exact hands.early handle connecting old
  case paired =>
    intro other handle slot registered
    rcases label other handle registered with ⟨rfl, rfl⟩ | old
    · exact there
    · exact inv.paired other handle slot old
  case unique => exact inv.unique
  case below => exact inv.below
  case labels =>
    intro other handle registered
    rcases label other handle registered with ⟨rfl, rfl⟩ | old
    · exact inv.below _ _ there
    · exact inv.labels other handle old
  case sound => exact ⟨inv.sound.own, inv.sound.once⟩
  case gone => exact inv.gone

theorem registered_erase (fds : Descriptors) (number : Nat) (kind : Kind) (fd : Handle)
    (kept : (fds.erase number).Registered kind fd) :
    fd.number ≠ number ∧ fds.Registered kind fd := by
  unfold Descriptors.Registered Descriptors.erase at kept
  by_cases same : fd.number = number
  · simp [same] at kept
  · simp only [Function.update_of_ne same] at kept
    exact ⟨same, kept⟩

theorem erase_keeps {fds : Descriptors} {views : Kind → View} (inv : Inv fds views)
    (number : Nat) : Inv (fds.erase number) views := by
  have fewer := registered_erase fds number
  refine ⟨inv.standard, fun kind => ?_, ?_, inv.unique, inv.below, ?_,
    ⟨inv.sound.own, inv.sound.once⟩, inv.gone⟩
  · have hands := inv.hands kind
    exact ⟨hands.connecting, hands.closing, hands.polling,
      fun fd held kept => hands.early fd held (fewer kind fd kept).2, hands.taken⟩
  · exact fun kind fd slot kept => inv.paired kind fd slot (fewer kind fd kept).2
  · exact fun kind fd kept => inv.labels kind fd (fewer kind fd kept).2

/-- `clientFDs_` gives up a number safely when the entry is that of the
connection acting, and `serverFDs_` still holds the same connection. -/
theorem remove_client_keeps {fds : Descriptors} {views : Kind → View} (inv : Inv fds views)
    (kind : Kind) (fd : Handle)
    (both : fds.clientFDs fd.number ≠ none →
      fds.Registered kind fd ∧ fds.serverFDs kind = some fd) :
    Inv (fds.removeClientFD kind fd) views := by
  unfold Descriptors.removeClientFD
  cases entry : fds.clientFDs fd.number with
  | none => exact inv
  | some label =>
      obtain ⟨registered, slot⟩ := both (by simp [entry])
      have there := inv.paired kind fd slot registered
      simp only [if_pos (open_above inv kind fd there)]
      refine close_keeps (erase_keeps inv fd.number) _ _ there (by simp) ?_ ?_
      · rintro other (⟨handle, held, same⟩ | ⟨_, _, same⟩)
        · rcases held with connecting | closing
          · obtain ⟨rfl, rfl⟩ :=
              open_unique inv there ((inv.hands other).connecting handle connecting) same
            exact (inv.hands other).early handle connecting registered
          · obtain ⟨rfl, rfl⟩ :=
              open_unique inv there ((inv.hands other).closing handle closing) same
            exact ((inv.hands other).taken handle closing).1 slot
        · cases same
      · -- the slot keeps the number, but no entry goes with it any more
        rintro other handle held kept same
        obtain ⟨rfl, _⟩ := Object.socket.inj same
        obtain ⟨apart, _⟩ := registered_erase fds fd.number kind handle kept
        have slotNow : fds.serverFDs kind = some handle := held
        rw [slot] at slotNow
        exact apart (congrArg Handle.number (Option.some.inj slotNow)).symm

theorem close_connecting_keeps {fds : Descriptors} {views : Kind → View} (inv : Inv fds views)
    (kind : Kind) (fd : Handle) (held : (views kind).connecting = some fd) :
    Inv (fds.close (.socket kind fd.serial) fd.number)
      (put views kind { views kind with connecting := none }) := by
  have hands := inv.hands kind
  have there := hands.connecting fd held
  have emptied := inv.put (hands.drop { views kind with connecting := none }
    (fun _ none => by cases none) (fun _ => id) fun _ => id)
  refine close_keeps emptied _ _ there (by simp) ?_ ?_
  · rintro other (⟨handle, connecting | closing, same⟩ | ⟨_, _, same⟩)
    · obtain ⟨rfl, rfl⟩ :=
        open_unique inv there ((emptied.hands other).connecting handle connecting) same
      simp [put] at connecting
    · obtain ⟨rfl, rfl⟩ := open_unique inv there ((emptied.hands other).closing handle closing) same
      simp only [put, Function.update_self] at closing
      exact (hands.taken handle closing).2 held
    · cases same
  · intro other handle slot registered same
    obtain ⟨rfl, rfl⟩ := open_unique inv there (inv.paired other handle slot registered) same
    exact hands.early handle held registered

theorem close_closing_keeps {fds : Descriptors} {views : Kind → View} (inv : Inv fds views)
    (kind : Kind) (fd : Handle) (held : (views kind).closing = some fd) :
    Inv (fds.close (.socket kind fd.serial) fd.number)
      (put views kind { views kind with closing := none }) := by
  have hands := inv.hands kind
  have there := hands.closing fd held
  have emptied := inv.put (hands.drop { views kind with closing := none }
    (fun _ => id) (fun _ none => by cases none) fun _ => id)
  refine close_keeps emptied _ _ there (by simp) ?_ ?_
  · rintro other (⟨handle, connecting | closing, same⟩ | ⟨_, _, same⟩)
    · obtain ⟨rfl, rfl⟩ :=
        open_unique inv there ((emptied.hands other).connecting handle connecting) same
      simp only [put, Function.update_self] at connecting
      exact (hands.taken handle held).2 connecting
    · obtain ⟨rfl, rfl⟩ := open_unique inv there ((emptied.hands other).closing handle closing) same
      simp [put] at closing
    · cases same
  · intro other handle slot registered same
    obtain ⟨rfl, rfl⟩ := open_unique inv there (inv.paired other handle slot registered) same
    exact (hands.taken handle held).1 slot

theorem close_polling_keeps {fds : Descriptors} {views : Kind → View} (inv : Inv fds views)
    (kind : Kind) (fd : Handle) (held : (views kind).polling = some fd) :
    Inv (fds.close (.epoll kind fd.serial) fd.number)
      (put views kind { views kind with polling := none }) := by
  have hands := inv.hands kind
  have there := hands.polling fd held
  have emptied := inv.put (hands.drop { views kind with polling := none }
    (fun _ => id) (fun _ => id) fun _ none => by cases none)
  refine close_keeps emptied _ _ there (by simp) ?_ fun _ _ _ _ same => by cases same
  rintro other (⟨_, _, same⟩ | ⟨handle, polling, same⟩)
  · cases same
  · obtain ⟨rfl, _⟩ := Object.epoll.inj same
    simp [put] at polling

end GramsTof.FDManager
