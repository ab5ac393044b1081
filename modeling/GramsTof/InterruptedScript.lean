import GramsTof.PaddedDigits

/-!
Scripts that write files and can be broken off at any point. A script is the
list of its effects and how it ends; a run does the effects up to a point. A
text reaches its file one character after the other. Nothing here names a
script.
-/

namespace GramsTof.InterruptedScript

open PaddedDigits

/-- A call changes no file. -/
inductive Effect (File : Type) where
  | call
  | truncate (file : File)
  | append (file : File) (c : Char)
  deriving DecidableEq, Repr

abbrev Files (File : Type) : Type := File → Option Text

/-- An exception, or what `except Exception` lets pass. -/
inductive Raised where
  | exception
  | other
  deriving DecidableEq, Repr

structure Script (File Value : Type) where
  effects : List (Effect File)
  ended : Except Raised Value

variable {File Value Result Item : Type}

namespace Script

def done (value : Value) : Script File Value := ⟨[], .ok value⟩

def andThen (script : Script File Value) (next : Value → Script File Result) :
    Script File Result :=
  match script.ended with
  | .error raised => ⟨script.effects, .error raised⟩
  | .ok value => ⟨script.effects ++ (next value).effects, (next value).ended⟩

instance : Monad (Script File) where
  pure := done
  bind := andThen

def call : Script File Unit := ⟨[.call], .ok ()⟩

def openWrite (file : File) : Script File Unit := ⟨[.truncate file], .ok ()⟩

def write (file : File) (text : Text) : Script File Unit := ⟨text.map (.append file), .ok ()⟩

def raise (raised : Raised) : Script File Value := ⟨[], .error raised⟩

/-- A loop that collects what its rounds return. -/
def gather (body : Item → Script File Value) : List Item → Script File (List Value)
  | [] => pure []
  | item :: rest => do
      let value ← body item
      let values ← gather body rest
      pure (value :: values)

def forEach (items : List Item) (body : Item → Script File Unit) : Script File Unit :=
  match items with
  | [] => pure ()
  | item :: rest => do
      body item
      forEach rest body

end Script

section Runs
variable [DecidableEq File]

def Effect.apply (files : Files File) : Effect File → Files File
  | call => files
  | truncate file => Function.update files file (some [])
  | append file c => Function.update files file ((files file).map fun text => text ++ [c])

def applyAll (files : Files File) (effects : List (Effect File)) : Files File :=
  effects.foldl Effect.apply files

/-- The effects before `point` are done; if there are more, the run is broken
off there. -/
def Script.run (script : Script File Value) (point : Nat) (raised : Raised) (files : Files File) :
    Except Raised Value × Files File :=
  (if point < script.effects.length then .error raised else script.ended,
    applyAll files (script.effects.take point))

def appended (file : File) (effects : List (Effect File)) : Text :=
  effects.filterMap fun effect =>
    match effect with
    | .append target c => if target = file then some c else none
    | _ => none

def Effect.Touches (file : File) : Effect File → Prop
  | call => False
  | truncate target => target = file
  | append target _ => target = file

/-- A file that is emptied once, by effect number `opening`, and not written
before. -/
def OpensAt (file : File) (opening : Nat) (effects : List (Effect File)) : Prop :=
  ∃ front rest, effects = front ++ .truncate file :: rest ∧ front.length = opening ∧
    (∀ effect ∈ front, ¬ effect.Touches file) ∧ .truncate file ∉ rest

end Runs

/-- No file is emptied. -/
def Script.Plain (script : Script File Value) : Prop :=
  ∀ file : File, .truncate file ∉ script.effects

section Plain

theorem done_plain (value : Value) : (Script.done value : Script File Value).Plain :=
  fun _ => List.not_mem_nil

theorem call_plain : (Script.call : Script File Unit).Plain :=
  fun _ member => nomatch List.mem_singleton.mp member

theorem raise_plain (raised : Raised) : (Script.raise raised : Script File Value).Plain :=
  fun _ => List.not_mem_nil

theorem write_plain (file : File) (text : Text) : (Script.write file text).Plain := by
  intro other member
  obtain ⟨_, _, same⟩ := List.mem_map.mp member
  cases same

theorem andThen_plain (script : Script File Value) (next : Value → Script File Result)
    (first : script.Plain) (second : ∀ value, (next value).Plain) : (script >>= next).Plain := by
  intro file member
  change Effect.truncate file ∈ (script.andThen next).effects at member
  unfold Script.andThen at member
  cases ended : script.ended with
  | error raised =>
      rw [ended] at member
      exact first file member
  | ok value =>
      rw [ended] at member
      exact (List.mem_append.mp member).elim (first file) (second value file)

theorem gather_plain (body : Item → Script File Value) (each : ∀ item, (body item).Plain)
    (items : List Item) : (Script.gather body items).Plain := by
  induction items with
  | nil => exact done_plain []
  | cons item rest ih =>
      exact andThen_plain _ _ (each item) fun value =>
        andThen_plain _ _ ih fun values => done_plain (value :: values)

theorem forEach_plain (items : List Item) (body : Item → Script File Unit)
    (each : ∀ item, (body item).Plain) : (Script.forEach items body).Plain := by
  induction items with
  | nil => exact done_plain ()
  | cons item rest ih => exact andThen_plain _ _ (each item) fun _ => ih

end Plain

section Kept
variable [DecidableEq File]

theorem applyAll_untouched (files : Files File) (file : File) (effects : List (Effect File))
    (untouched : ∀ effect ∈ effects, ¬ effect.Touches file) :
    applyAll files effects file = files file := by
  induction effects generalizing files with
  | nil => rfl
  | cons effect rest ih =>
      obtain ⟨first, others⟩ := List.forall_mem_cons.mp untouched
      rw [applyAll, List.foldl_cons]
      refine (ih _ others).trans ?_
      cases effect with
      | call => rfl
      | truncate target => exact Function.update_of_ne (Ne.symm first) _ _
      | append target c => exact Function.update_of_ne (Ne.symm first) _ _

theorem applyAll_appended (files : Files File) (file : File) (effects : List (Effect File))
    (text : Text) (there : files file = some text) (kept : .truncate file ∉ effects) :
    applyAll files effects file = some (text ++ appended file effects) := by
  induction effects generalizing files text with
  | nil => rw [appended, List.filterMap_nil, List.append_nil, ← there]; rfl
  | cons effect rest ih =>
      obtain ⟨first, others⟩ := not_or.mp (List.mem_cons.not.mp kept)
      rw [applyAll, List.foldl_cons]
      cases effect with
      | call => exact ih files text there others
      | truncate target =>
          have apart : file ≠ target := fun same => first (same ▸ rfl)
          exact ih _ text ((Function.update_of_ne apart _ _).trans there) others
      | append target c =>
          by_cases same : target = file
          · subst same
            have grown := ih (Effect.apply files (.append target c)) (text ++ [c])
              (by rw [Effect.apply, Function.update_self, there]; rfl) others
            refine grown.trans ?_
            rw [appended, appended, List.filterMap_cons]
            simp
          · have elsewhere := ih (Effect.apply files (.append target c)) text
              ((Function.update_of_ne (Ne.symm same) _ _).trans there) others
            refine elsewhere.trans ?_
            rw [appended, appended, List.filterMap_cons]
            simp [same]

theorem appended_untouched (file : File) (effects : List (Effect File))
    (untouched : ∀ effect ∈ effects, ¬ effect.Touches file) : appended file effects = [] := by
  rw [appended, List.filterMap_eq_nil_iff]
  intro effect member
  have apart := untouched effect member
  cases effect with
  | call => rfl
  | truncate target => rfl
  | append target c => exact if_neg apart

theorem appended_append (file : File) (first second : List (Effect File)) :
    appended file (first ++ second) = appended file first ++ appended file second :=
  List.filterMap_append

/-- Behind its opening a file holds what has been written, and its old content
only if that is the same. -/
theorem kept_iff (file : File) (opening : Nat) (effects : List (Effect File))
    (opens : OpensAt file opening effects) (files : Files File) (old : Text)
    (there : files file = some old) (point : Nat) :
    applyAll files (effects.take point) file = some old ↔
      point ≤ opening ∨ old = appended file (effects.take point) := by
  obtain ⟨front, rest, rfl, rfl, untouched, once⟩ := opens
  by_cases before : point ≤ front.length
  · have early : (front ++ .truncate file :: rest).take point = front.take point :=
      List.take_append_of_le_length before
    have same := applyAll_untouched files file (front.take point) fun effect member =>
      untouched effect (List.mem_of_mem_take member)
    rw [early, same]
    exact ⟨fun _ => .inl before, fun _ => there⟩
  · obtain ⟨more, rfl⟩ := Nat.exists_eq_add_of_lt (Nat.lt_of_not_le before)
    have late : (front ++ .truncate file :: rest).take (front.length + more + 1) =
        front ++ .truncate file :: rest.take more := by
      rw [List.take_append, List.take_of_length_le (by omega), Nat.add_assoc, Nat.add_sub_cancel_left,
        List.take_succ_cons]
    have emptied := applyAll_appended
      (Effect.apply (applyAll files front) (.truncate file)) file (rest.take more) []
      (Function.update_self _ _ _) fun member => once (List.mem_of_mem_take member)
    have written : appended file (front ++ .truncate file :: rest.take more) =
        appended file (rest.take more) := by
      rw [appended_append, appended_untouched file front untouched, List.nil_append]
      rfl
    rw [late, written, applyAll, List.foldl_append, List.foldl_cons]
    constructor
    · intro held
      exact .inr (Option.some.inj (held.symm.trans emptied))
    · rintro (early | same)
      · exact absurd early before
      · rw [same]
        exact emptied

/-- A file that is not opened before the run is broken off, or held just what is
written to it. -/
def Spared (file : File) (opening : Nat) (effects : List (Effect File)) (point : Nat)
    (files : Files File) : Prop :=
  point ≤ opening ∨ ∀ old, files file = some old → old = appended file (effects.take point)

theorem spared_iff (file : File) (opening : Nat) (effects : List (Effect File))
    (opens : OpensAt file opening effects) (files : Files File) (point : Nat) :
    (∀ old, files file = some old → applyAll files (effects.take point) file = some old) ↔
      Spared file opening effects point files := by
  constructor
  · intro kept
    by_cases before : point ≤ opening
    · exact .inl before
    · refine .inr fun old there => ?_
      exact ((kept_iff file opening effects opens files old there point).mp
        (kept old there)).resolve_left before
  · intro spared old there
    refine (kept_iff file opening effects opens files old there point).mpr ?_
    exact spared.imp_right fun same => same old there

end Kept

/-- A script and its wrapper: the wrapper reports success only where the script
does, and otherwise the files that were there are as before. -/
structure FailsCleanly (targets : List File) (inner safe : Except Raised Bool)
    (before after : Files File) : Prop where
  honest : safe = .ok true → inner = .ok true
  restored : inner ≠ .ok true → ∀ target ∈ targets, ∀ old,
    before target = some old → after target = some old

theorem failed_cleanly_iff (targets : List File) (inner safe : Except Raised Bool)
    (before after : Files File) (failed : inner ≠ .ok true) (honest : safe ≠ .ok true) :
    FailsCleanly targets inner safe before after ↔
      ∀ target ∈ targets, ∀ old, before target = some old → after target = some old :=
  ⟨fun cleanly => cleanly.restored failed,
    fun restored => ⟨fun success => absurd success honest, fun _ => restored⟩⟩

/-- A wrapper that does not tell a refusal from success fails cleanly where its
script succeeds, and where the script leaves by an exception with all targets
spared. The targets come with the numbers of the effects that open them. -/
theorem safe_cleanly_iff [DecidableEq File] (script : Script File Bool)
    (safe : Except Raised Bool → Except Raised Bool) (targets : List (File × Nat))
    (opens : ∀ target ∈ targets, OpensAt target.1 target.2 script.effects)
    (raises : ∀ cause, safe (.error cause) ≠ .ok true)
    (untold : script.ended = .ok false → safe (.ok false) = .ok true)
    (files : Files File) (point : Nat) (raised : Raised) :
    FailsCleanly (targets.map Prod.fst) (script.run point raised files).1
        (safe (script.run point raised files).1) files (script.run point raised files).2 ↔
      (script.effects.length ≤ point ∧ script.ended = .ok true) ∨
      (¬ (script.effects.length ≤ point ∧ script.ended = .ok false) ∧
        ∀ target ∈ targets, Spared target.1 target.2 script.effects point files) := by
  have failing (cause : Raised) (result : (script.run point raised files).1 = .error cause) :
      FailsCleanly (targets.map Prod.fst) (script.run point raised files).1
          (safe (script.run point raised files).1) files (script.run point raised files).2 ↔
        ∀ target ∈ targets, Spared target.1 target.2 script.effects point files := by
    rw [failed_cleanly_iff _ _ _ _ _ (by rw [result]; exact nofun)
      (by rw [result]; exact raises cause), List.forall_mem_map]
    exact forall₂_congr fun target member =>
      spared_iff target.1 target.2 script.effects (opens target member) files point
  by_cases whole : script.effects.length ≤ point
  · have result : (script.run point raised files).1 = script.ended := if_neg (Nat.not_lt.mpr whole)
    cases ended : script.ended with
    | error cause =>
        rw [failing cause (result.trans ended)]
        simp
    | ok success =>
        cases success with
        | true =>
            refine iff_of_true ?_ (.inl ⟨whole, rfl⟩)
            rw [result, ended]
            exact ⟨fun _ => rfl, fun failed => absurd rfl failed⟩
        | false =>
            refine iff_of_false ?_ ?_
            · rw [result, ended]
              exact fun cleanly => nomatch cleanly.honest (untold ended)
            · rintro (⟨_, impossible⟩ | ⟨accepted, _⟩)
              · cases impossible
              · exact accepted ⟨whole, rfl⟩
  · rw [failing raised (if_pos (Nat.lt_of_not_le whole))]
    simp [whole]

section Ended

theorem ended_bind (script : Script File Value) (next : Value → Script File Result)
    (result : Result) :
    (script >>= next).ended = .ok result ↔
      ∃ value, script.ended = .ok value ∧ (next value).ended = .ok result := by
  change (script.andThen next).ended = .ok result ↔ _
  unfold Script.andThen
  cases ended : script.ended with
  | error raised => simp
  | ok value => simp

theorem ended_after (script : Script File Value) (next : Value → Script File Result) (value : Value)
    (first : script.ended = .ok value) : (script >>= next).ended = (next value).ended := by
  change (script.andThen next).ended = _
  rw [Script.andThen, first]

theorem effects_after (script : Script File Value) (next : Value → Script File Result)
    (value : Value) (first : script.ended = .ok value) :
    (script >>= next).effects = script.effects ++ (next value).effects := by
  change (script.andThen next).effects = _
  rw [Script.andThen, first]

theorem gather_ended (body : Item → Script File Value)
    (each : ∀ item, ∃ value, (body item).ended = .ok value) (items : List Item) :
    ∃ values, (Script.gather body items).ended = .ok values := by
  induction items with
  | nil => exact ⟨[], rfl⟩
  | cons item rest ih =>
      obtain ⟨value, first⟩ := each item
      obtain ⟨values, others⟩ := ih
      exact ⟨value :: values, (ended_bind _ _ _).mpr ⟨value, first,
        (ended_bind _ _ _).mpr ⟨values, others, rfl⟩⟩⟩

theorem forEach_ended (items : List Item) (body : Item → Script File Unit)
    (each : ∀ item, (body item).ended = .ok ()) :
    (Script.forEach items body).ended = .ok () := by
  induction items with
  | nil => rfl
  | cons item rest ih => exact (ended_bind _ _ _).mpr ⟨(), each item, ih⟩

end Ended

section Written
variable [DecidableEq File]

theorem appended_pure (file : File) (value : Value) :
    appended file (pure value : Script File Value).effects = [] := rfl

theorem appended_call (file : File) : appended file (Script.call).effects = [] := rfl

theorem appended_write (file target : File) (text : Text) :
    appended file (Script.write target text).effects = if target = file then text else [] := by
  rw [appended, Script.write, List.filterMap_map]
  by_cases same : target = file
  · simp [same]
  · simp [same]

theorem appended_forEach (file : File) (items : List Item) (body : Item → Script File Unit)
    (each : ∀ item, (body item).ended = .ok ()) :
    appended file (Script.forEach items body).effects =
      items.flatMap fun item => appended file (body item).effects := by
  induction items with
  | nil => rfl
  | cons item rest ih =>
      rw [Script.forEach, effects_after _ _ () (each item), appended_append, ih, List.flatMap_cons]

end Written

end GramsTof.InterruptedScript
