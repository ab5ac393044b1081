import Mathlib.Tactic

/-!
A bus of two wires that any party may pull down. A sender drives the wires tick by tick
and may have them checked; what a listener hears are the conditions and the bits of the
protocol. Nothing here names a sender.
-/

namespace GramsTof.TwoWireBus

structure Lines where
  scl : Bool
  sda : Bool
  deriving DecidableEq, Repr

inductive Symbol where
  | start
  | stop
  | bit (value : Bool)
  deriving DecidableEq, Repr

/-! The listener -/

/-- A bit is complete when the clock falls; `clocked` says that nothing else happened
since it rose. -/
structure Listener where
  last : Lines
  clocked : Bool
  deriving DecidableEq, Repr

def idle : Listener := ⟨⟨true, true⟩, false⟩

def Listener.next (listener : Listener) (lines : Lines) : Listener :=
  { last := lines
    clocked := lines.scl && (!listener.last.scl ||
      listener.clocked && lines.sda == listener.last.sda) }

def Listener.hears (listener : Listener) (lines : Lines) : List Symbol :=
  match listener.last.scl, lines.scl with
  | true, true =>
      if listener.last.sda = lines.sda then []
      else if lines.sda then [.stop] else [.start]
  | true, false => if listener.clocked then [.bit listener.last.sda] else []
  | false, _ => []

def heard (listener : Listener) : List Lines → List Symbol
  | [] => []
  | lines :: rest => listener.hears lines ++ heard (listener.next lines) rest

/-! The sender -/

structure Drive where
  scl : Bool
  sda : Bool
  sclChecked : Bool
  sdaChecked : Bool
  deriving DecidableEq, Repr

/-- A wire that is pulled down is low, one that is checked is as it was driven. -/
structure Followed (drive : Drive) (lines : Lines) : Prop where
  sclPulled : drive.scl = false → lines.scl = false
  sdaPulled : drive.sda = false → lines.sda = false
  sclChecked : drive.sclChecked = true → lines.scl = drive.scl
  sdaChecked : drive.sdaChecked = true → lines.sda = drive.sda

/-- What is sent in three ticks. Of a bit that is put, `kept` says if it stays on the
wire while the clock is low again. -/
inductive Item where
  | start
  | put (value kept : Bool)
  | release
  deriving DecidableEq, Repr

def Item.drives : Item → List Drive
  | .start => [⟨true, true, true, true⟩, ⟨true, false, true, true⟩, ⟨false, false, true, true⟩]
  | .put value kept =>
      [⟨false, value, true, true⟩, ⟨true, value, true, true⟩, ⟨false, kept && value, true, true⟩]
  | .release =>
      [⟨false, true, true, false⟩, ⟨true, true, true, false⟩, ⟨false, true, true, false⟩]

def stopDrives : List Drive :=
  [⟨false, false, true, false⟩, ⟨true, false, false, false⟩, ⟨true, true, false, false⟩]

/-- What the item is on the bus: a released bit is as the others leave it. -/
def Item.symbol (item : Item) (lines : List Lines) : Symbol :=
  match item with
  | .start => .start
  | .put value _ => .bit value
  | .release => .bit (lines.getD 1 ⟨false, false⟩).sda

def said : List Item → List Lines → List Symbol
  | [], _ => []
  | item :: rest, lines => item.symbol lines :: said rest (lines.drop 3)

theorem start_heard (listener : Listener) (later : List Lines)
    (ready : listener.last.scl = false ∨ listener = idle) :
    heard listener (⟨true, true⟩ :: ⟨true, false⟩ :: ⟨false, false⟩ :: later) =
      .start :: heard ⟨⟨false, false⟩, false⟩ later := by
  rcases ready with low | rfl
  · obtain ⟨⟨scl, sda⟩, clocked⟩ := listener
    cases low
    rfl
  · rfl

theorem clock_heard (listener : Listener) (low : listener.last.scl = false)
    (before value after : Bool) (later : List Lines) :
    heard listener (⟨false, before⟩ :: ⟨true, value⟩ :: ⟨false, after⟩ :: later) =
      .bit value :: heard ⟨⟨false, after⟩, false⟩ later := by
  obtain ⟨⟨scl, sda⟩, clocked⟩ := listener
  cases low
  rfl

theorem stop_heard (listener : Listener) (low : listener.last.scl = false) :
    heard listener [⟨false, false⟩, ⟨true, false⟩, ⟨true, true⟩] = [.stop] := by
  obtain ⟨⟨scl, sda⟩, clocked⟩ := listener
  cases low
  rfl

theorem followed_checked {drive : Drive} {lines : Lines} (followed : Followed drive lines)
    (scl : drive.sclChecked = true) (sda : drive.sdaChecked = true) :
    lines = ⟨drive.scl, drive.sda⟩ := by
  obtain ⟨lineScl, lineSda⟩ := lines
  exact congrArg₂ Lines.mk (followed.sclChecked scl) (followed.sdaChecked sda)

theorem followed_clock {drive : Drive} {lines : Lines} (followed : Followed drive lines)
    (scl : drive.sclChecked = true) : lines = ⟨drive.scl, lines.sda⟩ := by
  obtain ⟨lineScl, lineSda⟩ := lines
  exact congrArg (Lines.mk · lineSda) (followed.sclChecked scl)

theorem item_heard (item : Item) (listener : Listener) (lines later : List Lines)
    (ready : listener.last.scl = false ∨ item = .start ∧ listener = idle)
    (followed : List.Forall₂ Followed item.drives lines) :
    ∃ after, after.last.scl = false ∧
      heard listener (lines ++ later) = item.symbol lines :: heard after later := by
  cases item with
  | start =>
      obtain _ | ⟨first, _ | ⟨second, _ | ⟨third, _ | _⟩⟩⟩ := followed
      rw [followed_checked first rfl rfl, followed_checked second rfl rfl,
        followed_checked third rfl rfl]
      exact ⟨_, rfl, start_heard listener later (ready.imp_right And.right)⟩
  | put value kept =>
      have low := ready.resolve_right fun start => Item.noConfusion start.1
      obtain _ | ⟨first, _ | ⟨second, _ | ⟨third, _ | _⟩⟩⟩ := followed
      rw [followed_checked first rfl rfl, followed_checked second rfl rfl,
        followed_checked third rfl rfl]
      exact ⟨_, rfl, clock_heard listener low value value (kept && value) later⟩
  | release =>
      have low := ready.resolve_right fun start => Item.noConfusion start.1
      obtain _ | ⟨first, _ | ⟨second, _ | ⟨third, _ | _⟩⟩⟩ := followed
      rw [followed_clock first rfl, followed_clock second rfl, followed_clock third rfl]
      exact ⟨_, rfl, clock_heard listener low _ _ _ later⟩

theorem drives_length (item : Item) : item.drives.length = 3 := by
  cases item <;> rfl

theorem followed_split {first rest : List Drive} {lines : List Lines}
    (followed : List.Forall₂ Followed (first ++ rest) lines) :
    List.Forall₂ Followed first (lines.take first.length) ∧
      List.Forall₂ Followed rest (lines.drop first.length) :=
  ⟨(List.forall₂_take_append lines first rest followed.flip).flip,
    (List.forall₂_drop_append lines first rest followed.flip).flip⟩

theorem symbol_take (item : Item) (lines : List Lines) (ticks : Nat) (enough : 3 ≤ ticks) :
    item.symbol (lines.take ticks) = item.symbol lines := by
  cases item with
  | start => rfl
  | put value kept => rfl
  | release =>
      have second : (lines.take ticks).getD 1 ⟨false, false⟩ = lines.getD 1 ⟨false, false⟩ := by
        simp only [List.getD_eq_getElem?_getD, List.getElem?_take_of_lt (by omega : 1 < ticks)]
      rw [Item.symbol, Item.symbol, second]

theorem said_take (items : List Item) (lines : List Lines) (ticks : Nat)
    (enough : 3 * items.length ≤ ticks) : said items (lines.take ticks) = said items lines := by
  induction items generalizing lines ticks with
  | nil => rfl
  | cons item rest ih =>
      rw [List.length_cons] at enough
      rw [said, said, symbol_take item lines ticks (by omega), List.drop_take,
        ih (lines.drop 3) (ticks - 3) (by omega)]

/-- What is heard of checked items is what was said, with the bits that were released. -/
theorem items_heard (items : List Item) (listener : Listener) (lines later : List Lines)
    (low : listener.last.scl = false)
    (followed : List.Forall₂ Followed (items.flatMap Item.drives) lines) :
    ∃ after, after.last.scl = false ∧
      heard listener (lines ++ later) = said items lines ++ heard after later := by
  induction items generalizing listener lines with
  | nil =>
      cases followed
      exact ⟨listener, low, rfl⟩
  | cons item rest ih =>
      obtain ⟨first, others⟩ := followed_split followed
      rw [drives_length] at first others
      obtain ⟨middle, low', start⟩ :=
        item_heard item listener (lines.take 3) (lines.drop 3 ++ later) (.inl low) first
      obtain ⟨after, low'', tail⟩ := ih middle (lines.drop 3) low' others
      rw [← List.append_assoc, List.take_append_drop, tail, symbol_take _ _ 3 (by decide)] at start
      exact ⟨after, low'', start⟩

theorem items_length (items : List Item) :
    (items.flatMap Item.drives).length = 3 * items.length := by
  induction items with
  | nil => rfl
  | cons item rest ih =>
      rw [List.flatMap_cons, List.length_append, drives_length, ih, List.length_cons]
      omega

/-- After the last item the clock is low, and a stop is heard if the wires go up. -/
theorem stop_lines (lines : List Lines) (followed : List.Forall₂ Followed stopDrives lines)
    (free : lines.drop 1 = [⟨true, false⟩, ⟨true, true⟩]) :
    lines = [⟨false, false⟩, ⟨true, false⟩, ⟨true, true⟩] := by
  obtain _ | ⟨first, _⟩ := followed
  rename_i lines rest _
  obtain ⟨scl, sda⟩ := lines
  have low : scl = false := first.sclChecked rfl
  have pulled : sda = false := first.sdaPulled rfl
  subst low pulled
  exact congrArg _ free

theorem talk_heard (items : List Item) (lines : List Lines)
    (followed : List.Forall₂ Followed ((.start :: items).flatMap Item.drives ++ stopDrives) lines)
    (free : ∃ front, lines = front ++ [⟨true, false⟩, ⟨true, true⟩]) :
    heard idle lines = said (.start :: items) lines ++ [.stop] := by
  obtain ⟨spoken, stopped⟩ := followed_split followed
  rw [items_length] at spoken stopped
  obtain ⟨front, split⟩ := free
  have long : lines.length = 3 * (Item.start :: items).length + 3 := by
    rw [← followed.length_eq, List.length_append, items_length]
    rfl
  have short : front.length = 3 * (Item.start :: items).length + 1 := by
    rw [split, List.length_append] at long
    simpa using long
  have ending := stop_lines _ stopped (by
    rw [List.drop_drop, ← short, split, List.drop_left])
  rw [List.flatMap_cons] at spoken
  obtain ⟨first, others⟩ := followed_split spoken
  rw [drives_length] at first others
  obtain ⟨middle, low, start⟩ := item_heard .start idle _
    ((lines.take (3 * (Item.start :: items).length)).drop 3 ++
      lines.drop (3 * (Item.start :: items).length)) (.inr ⟨rfl, rfl⟩) first
  obtain ⟨after, low', tail⟩ := items_heard items middle _
    (lines.drop (3 * (Item.start :: items).length)) low others
  rw [← List.append_assoc, List.take_append_drop, List.take_append_drop, tail, ending,
    stop_heard after low', ← List.cons_append] at start
  rw [start, ← said_take (.start :: items) lines _ (le_refl _)]
  rfl

/-! Where the bits are -/

theorem said_append (first rest : List Item) (lines : List Lines) :
    said (first ++ rest) lines = said first lines ++ said rest (lines.drop (3 * first.length)) := by
  induction first generalizing lines with
  | nil => rfl
  | cons item first ih =>
      rw [List.cons_append, said, said, ih, List.cons_append, List.drop_drop, List.length_cons,
        Nat.mul_succ, Nat.add_comm 3]

theorem said_put (values : List Bool) (kept : Bool) (lines : List Lines) :
    said (values.map fun value => .put value kept) lines = values.map .bit := by
  induction values generalizing lines with
  | nil => rfl
  | cons value rest ih => exact congrArg _ (ih (lines.drop 3))

end GramsTof.TwoWireBus
