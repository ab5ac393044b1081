import GramsTof.ConfigTables

/-!
Which entries the lines of a table change. Fields in range name the entry that is
written; fields out of range are nowhere refused, and name another one or none.
-/

namespace GramsTof.TableLoaders

open PaddedDigits ScanText ConfigTables

variable {Number : Type}

structure Named.InRange (named : Named) : Prop where
  portID : 0 ≤ named.portID ∧ named.portID < 32
  slaveID : 0 ≤ named.slaveID ∧ named.slaveID < 32
  chipID : 0 ≤ named.chipID ∧ named.chipID < 64
  channelID : 0 ≤ named.channelID ∧ named.channelID < 64
  tacID : 0 ≤ named.tacID ∧ named.tacID < 4

def Named.channel (named : Named) : Int :=
  ((named.portID * 32 + named.slaveID) * 64 + named.chipID) * 64 + named.channelID

/-- What a line of a table is about in the entry of its channel. -/
inductive Part where
  | tac_T (tacID : Fin 4)
  | tac_E (tacID : Fin 4)
  | qac_Q (tacID : Fin 4)
  | eCal (tacID : Fin 4)
  | timeOffset
  | mapping
  deriving DecidableEq, Repr

def Write.part (write : Write Number) (tacID : Fin 4) : Part :=
  match write with
  | .tac_T _ => .tac_T tacID
  | .tac_E _ => .tac_E tacID
  | .qac_Q _ => .qac_Q tacID
  | .eCal _ => .eCal tacID
  | .timeOffset _ => .timeOffset
  | .mapping _ => .mapping

def Part.Same (part : Part) (before after : ChannelConfig Number) : Prop :=
  match part with
  | .tac_T tacID => after.tac_T tacID = before.tac_T tacID
  | .tac_E tacID => after.tac_E tacID = before.tac_E tacID
  | .qac_Q tacID => after.qac_Q tacID = before.qac_Q tacID
  | .eCal tacID => after.eCal tacID = before.eCal tacID
  | .timeOffset => after.t0 = before.t0
  | .mapping => after.mapping = before.mapping

structure Place where
  index : Index
  part : Part
  deriving DecidableEq, Repr

def Place.Same (place : Place) (before after : SystemConfig Number) : Prop :=
  place.part.Same (before.getChannelConfig place.index) (after.getChannelConfig place.index)

/-- A line with a field out of range names no place. -/
def Entry.Names (entry : Entry Number) (place : Place) : Prop :=
  Named.InRange entry.named ∧ (place.index.channelID : Int) = Named.channel entry.named ∧
    ∃ tacID : Fin 4, (tacID : Int) = entry.named.tacID ∧ place.part = Write.part entry.write tacID

/-- The line changes nothing but what it names. -/
def Keeps (loader : Loader Number) (before : SystemConfig Number) (line : Text) : Prop :=
  ∃ after, loader.loadLine before line = some after ∧
    ∀ place : Place, (∀ entry, loader.accepted line = some entry → ¬ Entry.Names entry place) →
      place.Same before after

def Write.Holds (write : Write Number) (tacID : Nat) (channel : ChannelConfig Number) : Prop :=
  match write with
  | .tac_T tac => ∃ inside : tacID < 4, channel.tac_T ⟨tacID, inside⟩ = tac
  | .tac_E tac => ∃ inside : tacID < 4, channel.tac_E ⟨tacID, inside⟩ = tac
  | .qac_Q qac => ∃ inside : tacID < 4, channel.qac_Q ⟨tacID, inside⟩ = qac
  | .eCal energy => ∃ inside : tacID < 4, channel.eCal ⟨tacID, inside⟩ = energy
  | .timeOffset t0 => channel.t0 = t0
  | .mapping position => channel.mapping = position

/-- The line fits its buffer, and if it is used its fields are in range, or name an
entry of the tables that has its values already. -/
def Harmless (loader : Loader Number) (before : SystemConfig Number) (line : Text) : Prop :=
  line.length < loader.bufferSize ∧ ∀ entry, loader.accepted line = some entry →
    Named.InRange entry.named ∨ ∃ index, indexOf entry.gChannelID = some index ∧
      Write.Holds entry.write entry.tacID (before.getChannelConfig index)

section Assignments
variable {Value : Type} (array : Fin 4 → Value)

theorem assign_eq_some (n : Nat) (value : Value) (after : Fin 4 → Value)
    (assigned : assign array n value = some after) : ∃ inside : n < 4, after ⟨n, inside⟩ = value := by
  unfold assign at assigned
  split_ifs at assigned with inside
  cases assigned
  exact ⟨inside, Function.update_self _ _ _⟩

theorem assign_inside (n : Fin 4) (value : Value) :
    assign array n value = some (Function.update array n value) := dif_pos n.isLt

theorem assign_held (n : Nat) (inside : n < 4) :
    assign array n (array ⟨n, inside⟩) = some array := by
  rw [assign, dif_pos inside, Function.update_eq_self]

theorem apply_holds (write : Write Number) (tacID : Nat) (before after : ChannelConfig Number)
    (applied : write.apply tacID before = some after) : Write.Holds write tacID after := by
  cases write with
  | tac_T tac =>
      obtain ⟨tacs, assigned, rfl⟩ := Option.map_eq_some_iff.mp applied
      exact assign_eq_some _ _ _ _ assigned
  | tac_E tac =>
      obtain ⟨tacs, assigned, rfl⟩ := Option.map_eq_some_iff.mp applied
      exact assign_eq_some _ _ _ _ assigned
  | qac_Q qac =>
      obtain ⟨qacs, assigned, rfl⟩ := Option.map_eq_some_iff.mp applied
      exact assign_eq_some _ _ _ _ assigned
  | eCal energy =>
      obtain ⟨eCal, assigned, rfl⟩ := Option.map_eq_some_iff.mp applied
      exact assign_eq_some _ _ _ _ assigned
  | timeOffset t0 =>
      cases applied
      rfl
  | mapping position =>
      cases applied
      rfl

theorem apply_inside (write : Write Number) (tacID : Fin 4) (before : ChannelConfig Number) :
    ∃ after, write.apply tacID before = some after ∧
      ∀ part, part ≠ Write.part write tacID → part.Same before after := by
  have elsewhere {Value : Type} (array : Fin 4 → Value) (value : Value) (kind : Fin 4 → Part)
      (other : Fin 4) (differs : kind other ≠ kind tacID) :
      Function.update array tacID value other = array other :=
    Function.update_of_ne (fun same => differs (congrArg kind same)) _ _
  cases write with
  | tac_T tac =>
      refine ⟨_, by rw [Write.apply, assign_inside, Option.map_some], ?_⟩
      intro part differs
      cases part with
      | tac_T other => exact elsewhere _ _ _ other differs
      | _ => rfl
  | tac_E tac =>
      refine ⟨_, by rw [Write.apply, assign_inside, Option.map_some], ?_⟩
      intro part differs
      cases part with
      | tac_E other => exact elsewhere _ _ _ other differs
      | _ => rfl
  | qac_Q qac =>
      refine ⟨_, by rw [Write.apply, assign_inside, Option.map_some], ?_⟩
      intro part differs
      cases part with
      | qac_Q other => exact elsewhere _ _ _ other differs
      | _ => rfl
  | eCal energy =>
      refine ⟨_, by rw [Write.apply, assign_inside, Option.map_some], ?_⟩
      intro part differs
      cases part with
      | eCal other => exact elsewhere _ _ _ other differs
      | _ => rfl
  | timeOffset t0 =>
      refine ⟨_, rfl, ?_⟩
      intro part differs
      cases part with
      | timeOffset => exact absurd rfl differs
      | _ => rfl
  | mapping position =>
      refine ⟨_, rfl, ?_⟩
      intro part differs
      cases part with
      | mapping => exact absurd rfl differs
      | _ => rfl

theorem apply_held (write : Write Number) (tacID : Nat) (channel : ChannelConfig Number)
    (held : Write.Holds write tacID channel) : write.apply tacID channel = some channel := by
  cases write with
  | tac_T tac =>
      obtain ⟨inside, rfl⟩ := held
      rw [Write.apply, assign_held, Option.map_some]
  | tac_E tac =>
      obtain ⟨inside, rfl⟩ := held
      rw [Write.apply, assign_held, Option.map_some]
  | qac_Q qac =>
      obtain ⟨inside, rfl⟩ := held
      rw [Write.apply, assign_held, Option.map_some]
  | eCal energy =>
      obtain ⟨inside, rfl⟩ := held
      rw [Write.apply, assign_held, Option.map_some]
  | timeOffset t0 =>
      cases held
      rfl
  | mapping position =>
      cases held
      rfl

theorem holds_of_same (write : Write Number) (tacID : Nat) (before after : ChannelConfig Number)
    (same : ∀ part : Part, part.Same before after) (held : Write.Holds write tacID after) :
    Write.Holds write tacID before := by
  cases write with
  | tac_T tac =>
      obtain ⟨inside, rfl⟩ := held
      exact ⟨inside, (same (.tac_T ⟨tacID, inside⟩)).symm⟩
  | tac_E tac =>
      obtain ⟨inside, rfl⟩ := held
      exact ⟨inside, (same (.tac_E ⟨tacID, inside⟩)).symm⟩
  | qac_Q qac =>
      obtain ⟨inside, rfl⟩ := held
      exact ⟨inside, (same (.qac_Q ⟨tacID, inside⟩)).symm⟩
  | eCal energy =>
      obtain ⟨inside, rfl⟩ := held
      exact ⟨inside, (same (.eCal ⟨tacID, inside⟩)).symm⟩
  | timeOffset t0 => exact (same .timeOffset).symm.trans held
  | mapping position => exact (same .mapping).symm.trans held

theorem same_trans (part : Part) (first second third : ChannelConfig Number)
    (before : part.Same first second) (behind : part.Same second third) :
    part.Same first third := by
  cases part <;> exact Eq.trans behind before

theorem same_refl (part : Part) (channel : ChannelConfig Number) : part.Same channel channel := by
  cases part <;> rfl

end Assignments

section Fields

theorem makeGID_eq (portID slaveID chipID channelID : Nat) (port : portID < 32)
    (slave : slaveID < 32) (chip : chipID < 64) (channel : channelID < 64) :
    makeGID portID slaveID chipID channelID =
      ((portID * 32 + slaveID) * 64 + chipID) * 64 + channelID := by
  have chips : channelID ||| chipID <<< 6 = chipID * 64 + channelID := by
    rw [Nat.or_comm, ← Nat.shiftLeft_add_eq_or_of_lt channel, Nat.shiftLeft_eq]
  have slaves : channelID ||| chipID <<< 6 ||| slaveID <<< 12 =
      slaveID * 4096 + (chipID * 64 + channelID) := by
    rw [chips, Nat.or_comm, ← Nat.shiftLeft_add_eq_or_of_lt (by omega), Nat.shiftLeft_eq]
  rw [makeGID, slaves, Nat.or_comm, ← Nat.shiftLeft_add_eq_or_of_lt (by omega), Nat.shiftLeft_eq]
  omega

/-- Fields in range arrive as they are written. -/
def Entry.Stored (entry : Entry Number) : Prop :=
  Named.InRange entry.named → (entry.gChannelID : Int) = Named.channel entry.named ∧
    (entry.tacID : Int) = entry.named.tacID

/-- What a variable holds of a field: the field, if it is small enough for all. -/
def Carries (n : Nat) (field : Int) : Prop := 0 ≤ field → field < 2 ^ 31 → (n : Int) = field

theorem toUnsigned_carries (number : Bool × Nat) : Carries (toUnsigned number) (written number) :=
  fun positive small => toUnsigned_written number positive (by omega)

theorem unsignedOf_carries (number : Bool × Nat) :
    Carries (unsignedOf (toInt number)) (written number) := by
  intro positive small
  rw [toInt_written number positive small, unsignedOf]
  omega

theorem unsignedLongOf_carries (number : Bool × Nat) :
    Carries (unsignedLongOf (toInt number)) (written number) := by
  intro positive small
  rw [toInt_written number positive small, unsignedLongOf]
  omega

theorem bind_forall {Source Target : Type} {source : Option Source} {next : Source → Option Target}
    {good : Target → Prop} (each : ∀ value target, next value = some target → good target)
    (target : Target) (found : source.bind next = some target) : good target := by
  obtain ⟨value, _, later⟩ := Option.bind_eq_some_iff.mp found
  exact each value target later

/-- The variables of the loaders differ in their types only. -/
theorem fields_stored (named : Named) (portID slaveID chipID channelID tacID : Nat)
    (write : Write Number) (port : Carries portID named.portID) (slave : Carries slaveID named.slaveID)
    (chip : Carries chipID named.chipID) (channel : Carries channelID named.channelID)
    (tac : Carries tacID named.tacID) :
    Entry.Stored ⟨named, makeGID portID slaveID chipID channelID, tacID, write⟩ := by
  rintro ⟨portIn, slaveIn, chipIn, channelIn, tacIn⟩
  dsimp only at portIn slaveIn chipIn channelIn tacIn
  have portHeld := port portIn.1 (by omega)
  have slaveHeld := slave slaveIn.1 (by omega)
  have chipHeld := chip chipIn.1 (by omega)
  have channelHeld := channel channelIn.1 (by omega)
  refine ⟨?_, tac tacIn.1 (by omega)⟩
  rw [makeGID_eq _ _ _ _ (by omega) (by omega) (by omega) (by omega), Named.channel, ← portHeld,
    ← slaveHeld, ← chipHeld, ← channelHeld]
  push_cast
  rfl

theorem zero_carries : Carries 0 0 := fun _ _ => rfl

variable (scanFloat : ScanFloat Number) (line : Text)

theorem scanTDC_stored : ∀ entry, scanTDC scanFloat line = some entry → Entry.Stored entry := by
  unfold scanTDC
  iterate 10
    refine bind_forall ?_
    rintro ⟨_, line⟩
  rintro entry ⟨⟩
  exact fields_stored _ _ _ _ _ _ _ (unsignedOf_carries _) (toUnsigned_carries _) (toUnsigned_carries _)
    (toUnsigned_carries _) (toUnsigned_carries _)

theorem scanQDC_stored : ∀ entry, scanQDC scanFloat line = some entry → Entry.Stored entry := by
  unfold scanQDC
  iterate 15
    refine bind_forall ?_
    rintro ⟨_, line⟩
  rintro entry ⟨⟩
  exact fields_stored _ _ _ _ _ _ _ (unsignedOf_carries _) (toUnsigned_carries _) (toUnsigned_carries _)
    (toUnsigned_carries _) (toUnsigned_carries _)

theorem scanEnergy_stored :
    ∀ entry, scanEnergy scanFloat line = some entry → Entry.Stored entry := by
  unfold scanEnergy
  iterate 9
    refine bind_forall ?_
    rintro ⟨_, line⟩
  rintro entry ⟨⟩
  exact fields_stored _ _ _ _ _ _ _ (unsignedOf_carries _) (toUnsigned_carries _) (toUnsigned_carries _)
    (toUnsigned_carries _) (toUnsigned_carries _)

theorem scanTimeOffset_stored :
    ∀ entry, scanTimeOffset scanFloat line = some entry → Entry.Stored entry := by
  unfold scanTimeOffset
  iterate 5
    refine bind_forall ?_
    rintro ⟨_, line⟩
  rintro entry ⟨⟩
  exact fields_stored _ _ _ _ _ _ _ (toUnsigned_carries _) (toUnsigned_carries _) (toUnsigned_carries _)
    (unsignedLongOf_carries _) zero_carries

theorem scanChannelMap_stored :
    ∀ entry, scanChannelMap scanFloat line = some entry → Entry.Stored entry := by
  unfold scanChannelMap
  iterate 10
    refine bind_forall ?_
    rintro ⟨_, line⟩
  rintro entry ⟨⟩
  exact fields_stored _ _ _ _ _ _ _ (toUnsigned_carries _) (toUnsigned_carries _) (toUnsigned_carries _)
    (toUnsigned_carries _) zero_carries

theorem accepted_stored (table : Table) (entry : Entry Number)
    (accepted : (table.loader scanFloat).accepted line = some entry) : Entry.Stored entry := by
  unfold Loader.accepted at accepted
  dsimp only at accepted
  split_ifs at accepted
  cases table with
  | tdcCalibration => exact scanTDC_stored scanFloat _ entry accepted
  | qdcCalibration => exact scanQDC_stored scanFloat _ entry accepted
  | energyCalibration => exact scanEnergy_stored scanFloat _ entry accepted
  | timeOffsetCalibration => exact scanTimeOffset_stored scanFloat _ entry accepted
  | channelMap => exact scanChannelMap_stored scanFloat _ entry accepted

end Fields

section Lines
variable (loader : Loader Number) (before : SystemConfig Number) (line : Text)

theorem loadLine_skipped (short : line.length < loader.bufferSize)
    (skipped : loader.accepted line = none) : loader.loadLine before line = some before := by
  rw [Loader.loadLine, if_neg (Nat.not_le.mpr short), skipped]

theorem loadLine_used (short : line.length < loader.bufferSize) (entry : Entry Number)
    (accepted : loader.accepted line = some entry) (index : Index)
    (inside : indexOf entry.gChannelID = some index) :
    loader.loadLine before line =
      (entry.write.apply entry.tacID (before.getChannelConfig index)).map
        ((before.touchChannelConfig index).setChannelConfig index) := by
  rw [Loader.loadLine, if_neg (Nat.not_le.mpr short), accepted]
  dsimp only
  rw [inside]
  dsimp only
  rw [get_touch]

theorem loadLine_cases (after : SystemConfig Number)
    (loaded : loader.loadLine before line = some after) :
    line.length < loader.bufferSize ∧ (loader.accepted line = none ∨
      ∃ entry index channel, loader.accepted line = some entry ∧
        indexOf entry.gChannelID = some index ∧
        entry.write.apply entry.tacID (before.getChannelConfig index) = some channel ∧
        after = (before.touchChannelConfig index).setChannelConfig index channel) := by
  have short : line.length < loader.bufferSize := by
    by_contra long
    rw [Loader.loadLine, if_pos (Nat.not_lt.mp long)] at loaded
    cases loaded
  refine ⟨short, ?_⟩
  cases accepted : loader.accepted line with
  | none => exact Or.inl rfl
  | some entry =>
      right
      cases inside : indexOf entry.gChannelID with
      | none =>
          rw [Loader.loadLine, if_neg (Nat.not_le.mpr short), accepted] at loaded
          dsimp only at loaded
          rw [inside] at loaded
          cases loaded
      | some index =>
          rw [loadLine_used loader before line short entry accepted index inside] at loaded
          obtain ⟨channel, applied, same⟩ := Option.map_eq_some_iff.mp loaded
          exact ⟨entry, index, channel, rfl, inside, applied, same.symm⟩

theorem keeps_harmless (keeps : Keeps loader before line) : Harmless loader before line := by
  obtain ⟨after, loaded, same⟩ := keeps
  obtain ⟨short, skipped | ⟨entry, index, channel, accepted, inside, applied, rfl⟩⟩ :=
    loadLine_cases loader before line after loaded
  · refine ⟨short, ?_⟩
    intro entry accepted
    rw [skipped] at accepted
    cases accepted
  · refine ⟨short, ?_⟩
    intro other found
    rw [accepted] at found
    cases found
    by_cases inRange : Named.InRange entry.named
    · exact Or.inl inRange
    · right
      refine ⟨index, inside, ?_⟩
      apply holds_of_same _ _ _ channel
      · -- nothing is named, so every part of the entry is as it was
        intro part
        have unnamed := same ⟨index, part⟩ (by
          intro other found names
          rw [accepted] at found
          cases found
          exact inRange names.1)
        rwa [Place.Same, get_set_touch, if_pos rfl] at unnamed
      · exact apply_holds _ _ _ _ applied

theorem used_keeps (short : line.length < loader.bufferSize) (entry : Entry Number)
    (accepted : loader.accepted line = some entry) (index : Index)
    (inside : indexOf entry.gChannelID = some index) (channel : ChannelConfig Number)
    (applied : entry.write.apply entry.tacID (before.getChannelConfig index) = some channel)
    (frame : ∀ part, ¬ Entry.Names entry ⟨index, part⟩ →
      part.Same (before.getChannelConfig index) channel) : Keeps loader before line := by
  refine ⟨(before.touchChannelConfig index).setChannelConfig index channel, ?_, ?_⟩
  · rw [loadLine_used loader before line short entry accepted index inside, applied]
    rfl
  · rintro ⟨other, part⟩ unnamed
    rw [Place.Same, get_set_touch]
    by_cases here : other = index
    · rw [if_pos here, here]
      apply frame
      rw [← here]
      exact unnamed entry accepted
    · rw [if_neg here]
      exact same_refl _ _

theorem inRange_reached (entry : Entry Number) (stored : Entry.Stored entry)
    (inRange : Named.InRange entry.named) :
    ∃ (index : Index) (tacID : Fin 4), indexOf entry.gChannelID = some index ∧
      (index.channelID : Int) = Named.channel entry.named ∧
      (tacID : Int) = entry.named.tacID ∧ (tacID : Nat) = entry.tacID := by
  obtain ⟨gid, tac⟩ := stored inRange
  obtain ⟨portIn, slaveIn, chipIn, channelIn, tacIn⟩ := inRange
  obtain ⟨index, inside, number⟩ : ∃ index, indexOf entry.gChannelID = some index ∧
      index.channelID = entry.gChannelID := by
    apply indexOf_eq_some
    unfold Named.channel at gid
    unfold pathMax
    omega
  exact ⟨index, ⟨entry.tacID, by omega⟩, inside, by rw [number, gid], tac, rfl⟩

theorem inRange_keeps (short : line.length < loader.bufferSize) (entry : Entry Number)
    (accepted : loader.accepted line = some entry) (stored : Entry.Stored entry)
    (inRange : Named.InRange entry.named) : Keeps loader before line := by
  obtain ⟨index, tacID, inside, number, tac, same⟩ := inRange_reached entry stored inRange
  obtain ⟨channel, applied, frame⟩ :=
    apply_inside entry.write tacID (before.getChannelConfig index)
  rw [same] at applied
  apply used_keeps loader before line short entry accepted index inside channel applied
  intro part unnamed
  apply frame
  intro samePart
  exact unnamed ⟨inRange, number, tacID, tac, samePart⟩

theorem held_keeps (short : line.length < loader.bufferSize) (entry : Entry Number)
    (accepted : loader.accepted line = some entry) (index : Index)
    (inside : indexOf entry.gChannelID = some index)
    (held : Write.Holds entry.write entry.tacID (before.getChannelConfig index)) :
    Keeps loader before line := by
  apply used_keeps loader before line short entry accepted index inside _ (apply_held _ _ _ held)
  intro part _
  exact same_refl _ _

theorem keeps_iff (stored : ∀ entry, loader.accepted line = some entry → Entry.Stored entry) :
    Keeps loader before line ↔ Harmless loader before line := by
  refine ⟨keeps_harmless loader before line, ?_⟩
  rintro ⟨short, harmless⟩
  cases accepted : loader.accepted line with
  | none =>
      refine ⟨before, loadLine_skipped loader before line short accepted, ?_⟩
      intro place _
      exact same_refl _ _
  | some entry =>
      rcases harmless entry accepted with inRange | ⟨index, inside, held⟩
      · exact inRange_keeps loader before line short entry accepted (stored entry accepted) inRange
      · exact held_keeps loader before line short entry accepted index inside held

end Lines

/-- The lines of a file, each with the configuration it is read into; behind an
access outside of an array there are none. -/
def steps (loader : Loader Number) : SystemConfig Number → List Text →
    List (SystemConfig Number × Text)
  | _, [] => []
  | config, line :: rest =>
      (config, line) ::
        match loader.loadLine config line with
        | none => []
        | some after => steps loader after rest

def FileKeeps (loader : Loader Number) (config : SystemConfig Number) (text : Text) : Prop :=
  (∃ after, loader.load config text = some after ∧
    ∀ place : Place, (∀ line ∈ linesOf text, ∀ entry, loader.accepted line = some entry →
      ¬ Entry.Names entry place) → place.Same config after) ∧
  ∀ step ∈ steps loader config (linesOf text), Keeps loader step.1 step.2

theorem lines_load (loader : Loader Number) (config : SystemConfig Number) (lines : List Text)
    (keeps : ∀ step ∈ steps loader config lines, Keeps loader step.1 step.2) :
    ∃ after, lines.foldlM loader.loadLine config = some after ∧
      ∀ place : Place, (∀ line ∈ lines, ∀ entry, loader.accepted line = some entry →
        ¬ Entry.Names entry place) → place.Same config after := by
  induction lines generalizing config with
  | nil => exact ⟨config, rfl, fun place _ => same_refl _ _⟩
  | cons line rest ih =>
      obtain ⟨next, loaded, first⟩ := keeps (config, line) List.mem_cons_self
      obtain ⟨after, rested, later⟩ := ih next (by
        intro step member
        apply keeps
        rw [steps, loaded]
        exact List.mem_cons_of_mem _ member)
      refine ⟨after, ?_, ?_⟩
      · rw [List.foldlM_cons, loaded]
        exact rested
      · intro place unnamed
        apply same_trans _ _ (next.getChannelConfig place.index)
        · exact first place (unnamed line List.mem_cons_self)
        · exact later place fun other member => unnamed other (List.mem_cons_of_mem _ member)

/-- A table changes only what its lines name exactly if every line fits its buffer
and, where it is used, has its fields in range or finds its values where it
writes them. -/
theorem table_keeps_iff (table : Table) (scanFloat : ScanFloat Number)
    (config : SystemConfig Number) (text : Text) :
    FileKeeps (table.loader scanFloat) config text ↔
      ∀ step ∈ steps (table.loader scanFloat) config (linesOf text),
        Harmless (table.loader scanFloat) step.1 step.2 := by
  have each (step : SystemConfig Number × Text) :=
    keeps_iff (table.loader scanFloat) step.1 step.2 (accepted_stored scanFloat step.2 table)
  constructor
  · intro keeps step member
    exact (each step).mp (keeps.2 step member)
  · intro harmless
    have keeps : ∀ step ∈ steps (table.loader scanFloat) config (linesOf text),
        Keeps (table.loader scanFloat) step.1 step.2 :=
      fun step member => (each step).mpr (harmless step member)
    exact ⟨lines_load _ config (linesOf text) keeps, keeps⟩

def aliasedLine : Text := "0\t0\t0\t64\t0\tT\t1\t2\t3\t4".toList

/-- It is written into channel 0 of the next chip. -/
theorem channel_aliased :
    ¬ ∀ (table : Table) (scanFloat : ScanFloat Nat) (config : SystemConfig Nat) (text : Text),
      FileKeeps (table.loader scanFloat) config text := by
  intro always
  have keeps := (always .tdcCalibration scanDigits newSystemConfig aliasedLine).2
    (newSystemConfig, aliasedLine) (by
      have lines : linesOf aliasedLine = [aliasedLine] := by decide +kernel
      rw [lines]
      exact List.mem_cons_self)
  obtain ⟨_, harmless⟩ := keeps_harmless _ _ _ keeps
  have accepted : (Table.tdcCalibration.loader scanDigits).accepted aliasedLine =
      some ⟨⟨0, 0, 0, 64, 0⟩, 64, 0, .tac_T ⟨1, 2, 3, 4⟩⟩ := by decide +kernel
  rcases harmless _ accepted with inRange | ⟨index, _, inside, held⟩
  · exact absurd inRange.channelID.2 (by decide)
  · cases held

end GramsTof.TableLoaders
