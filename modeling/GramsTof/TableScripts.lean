import GramsTof.BiasCalibrationTable
import GramsTof.SimpleChannelMap

/-!
The scripts that make tables, broken off at any point. `make_simple_channel_map`
opens its two files before it connects. Uninterrupted, it writes the maps of
`SimpleChannelMap`.
-/

namespace GramsTof.TableScripts

open PaddedDigits ScanText TriggerMap SimpleChannelMap InterruptedScript BiasCalibrationTable

section Script
variable (connection : Connection) (output_path : Text)

def channelOutputFile : Text := output_path ++ "_channel.tsv".toList

def triggerOutputFile : Text := output_path ++ "_trigger.tsv".toList

def writeQuadrant (board : Board) (quadrant : Nat) : Script Text Unit := do
  Script.forEach (board.quadrantRows quadrant) fun row =>
    Script.write (channelOutputFile output_path) (row.line ++ ['\n'])
  let trigger_region := board.trigger_region quadrant
  let row : TriggerRow := ⟨trigger_region, trigger_region, .multihit⟩
  Script.write (triggerOutputFile output_path) (row.line ++ ['\n'])

/-- The register is read where there is a trigger unit apart. -/
def readTriggerPort (tgr : Option Address) : Script Text Unit :=
  if connection.getActiveFEBDs.map some = [tgr] ∨ tgr = none then pure () else Script.call

/-- The loop over the FEB/Ds, with what it appends to `region_list`. -/
def writeBoards (tgr : Option Address) : Nat → List Address → Script Text (List Nat)
  | _, [] => pure []
  | i, unit :: rest => do
      readTriggerPort connection tgr
      match boardOf connection tgr i unit with
      | none => Script.raise .exception
      | some board => do
          Script.forEach (List.range 4) (writeQuadrant output_path board)
          let regions ← writeBoards tgr (i + 1) rest
          pure (board.regions ++ regions)

/-- The script behind the opening of its files. -/
def fillMaps : Script Text Bool := do
  -- `Connection()`, `initializeSystem` and the units
  Script.call
  Script.call
  Script.call
  match connection.getTriggerUnit with
  | none => Script.raise .exception
  | some tgr => do
      let region_list ← writeBoards connection output_path tgr 0 connection.getActiveFEBDs
      Script.forEach (coincidenceRows region_list) fun row =>
        Script.write (triggerOutputFile output_path) (row.line ++ ['\n'])
      -- both files are closed
      Script.call
      Script.call
      pure true

def make_simple_channel_map : Script Text Bool := do
  Script.openWrite (channelOutputFile output_path)
  Script.openWrite (triggerOutputFile output_path)
  fillMaps connection output_path

end Script

def safe_make_simple_channel_map (inner : Except Raised Bool) : Except Raised Bool :=
  match inner with
  | .ok result => .ok result
  | .error .exception => .ok false
  | .error .other => .error .other

/-- One trigger unit at most, and FEB/Ds with known numbers of ASICs. -/
def Known (connection : Connection) : Prop :=
  (∃ tgr, connection.getTriggerUnit = some tgr) ∧
    ∀ unit ∈ connection.getActiveFEBDs, ∃ asics, HasAsics connection unit asics

section Ends
variable (connection : Connection) (output_path : Text)

theorem writeQuadrant_ended (board : Board) (quadrant : Nat) :
    (writeQuadrant output_path board quadrant).ended = .ok () := by
  have rows := forEach_ended (board.quadrantRows quadrant)
    (fun row => Script.write (channelOutputFile output_path) (row.line ++ ['\n'])) fun _ => rfl
  rw [writeQuadrant, ended_after _ _ _ rows]
  rfl

theorem writeBoard_ended (board : Board) :
    (Script.forEach (List.range 4) (writeQuadrant output_path board)).ended = .ok () :=
  forEach_ended _ _ (writeQuadrant_ended output_path board)

theorem readTriggerPort_ended (tgr : Option Address) :
    (readTriggerPort connection tgr).ended = .ok () := by
  unfold readTriggerPort
  split_ifs <;> rfl

theorem writeBoards_ended (tgr : Option Address) (units : List Address) (i : Nat)
    (regions : List Nat) :
    (writeBoards connection output_path tgr i units).ended = .ok regions ↔
      ∃ boards, boardsOf connection tgr i units = some boards ∧
        regions = boards.flatMap Board.regions := by
  induction units generalizing i regions with
  | nil =>
      constructor
      · intro ended
        exact ⟨[], rfl, (Except.ok.inj ended).symm⟩
      · rintro ⟨boards, found, rfl⟩
        cases found
        rfl
  | cons unit rest ih =>
      rw [writeBoards, ended_after _ _ _ (readTriggerPort_ended connection tgr)]
      cases made : boardOf connection tgr i unit with
      | none =>
          refine iff_of_false nofun ?_
          rintro ⟨boards, found, _⟩
          rw [boardsOf, made] at found
          cases found
      | some board =>
          dsimp only
          rw [ended_after _ _ _ (writeBoard_ended output_path board), ended_bind]
          constructor
          · rintro ⟨others, later, ended⟩
            obtain ⟨boards, found, rfl⟩ := (ih (i + 1) others).mp later
            refine ⟨board :: boards, ?_, (Except.ok.inj ended).symm⟩
            rw [boardsOf, made, found]
            rfl
          · rintro ⟨boards, found, rfl⟩
            simp only [boardsOf, made, Option.bind_eq_bind, Option.bind_some,
              Option.bind_eq_some_iff, Option.some.injEq] at found
            obtain ⟨others, later, rfl⟩ := found
            exact ⟨_, (ih (i + 1) _).mpr ⟨others, later, rfl⟩, rfl⟩

theorem maps_ended (result : Bool) :
    (make_simple_channel_map connection output_path).ended = .ok result ↔
      result = true ∧
        ∃ generated, SimpleChannelMap.make_simple_channel_map connection = some generated := by
  rw [make_simple_channel_map,
    ended_after _ _ _ (rfl : (Script.openWrite (channelOutputFile output_path)).ended = .ok ()),
    ended_after _ _ _ (rfl : (Script.openWrite (triggerOutputFile output_path)).ended = .ok ()),
    fillMaps]
  iterate 3 rw [ended_after _ _ _ (rfl : Script.call.ended = .ok ())]
  rw [SimpleChannelMap.make_simple_channel_map]
  cases connection.getTriggerUnit with
  | none =>
      constructor
      · intro raised
        cases raised
      · rintro ⟨-, generated, impossible⟩
        cases impossible
  | some tgr =>
      dsimp only
      rw [ended_bind]
      have pairs (region_list : List Nat) := forEach_ended (coincidenceRows region_list)
        (fun row => Script.write (triggerOutputFile output_path) (row.line ++ ['\n'])) fun _ => rfl
      constructor
      · rintro ⟨regions, loop, ended⟩
        obtain ⟨boards, found, _⟩ := (writeBoards_ended connection output_path tgr _ 0 _).mp loop
        rw [ended_after _ _ _ (pairs regions)] at ended
        refine ⟨(Except.ok.inj ended).symm, generate boards, ?_⟩
        simp only [found, Option.bind_eq_bind, Option.bind_some]
      · rintro ⟨rfl, generated, made⟩
        simp only [Option.bind_eq_bind, Option.bind_some, Option.bind_eq_some_iff] at made
        obtain ⟨boards, found, _⟩ := made
        refine ⟨_, (writeBoards_ended connection output_path tgr _ 0 _).mpr ⟨boards, found, rfl⟩, ?_⟩
        rw [ended_after _ _ _ (pairs _)]
        rfl

end Ends

section Opening
variable (connection : Connection) (output_path : Text)

theorem writeQuadrant_plain (board : Board) (quadrant : Nat) :
    (writeQuadrant output_path board quadrant).Plain :=
  andThen_plain _ _ (forEach_plain _ _ fun _ => write_plain _ _) fun _ => write_plain _ _

theorem readTriggerPort_plain (tgr : Option Address) : (readTriggerPort connection tgr).Plain := by
  unfold readTriggerPort
  split_ifs with known
  · exact done_plain ()
  · exact call_plain

theorem writeBoards_plain (tgr : Option Address) (units : List Address) (i : Nat) :
    (writeBoards connection output_path tgr i units).Plain := by
  induction units generalizing i with
  | nil => exact done_plain []
  | cons unit rest ih =>
      refine andThen_plain _ _ (readTriggerPort_plain connection tgr) fun _ => ?_
      cases boardOf connection tgr i unit with
      | none => exact raise_plain .exception
      | some board =>
          refine andThen_plain _ _ (forEach_plain _ _ (writeQuadrant_plain output_path board))
            fun _ => ?_
          exact andThen_plain _ _ (ih (i + 1)) fun regions => done_plain (board.regions ++ regions)

theorem fillMaps_plain : (fillMaps connection output_path).Plain := by
  refine andThen_plain _ _ call_plain fun _ => andThen_plain _ _ call_plain fun _ =>
    andThen_plain _ _ call_plain fun _ => ?_
  cases connection.getTriggerUnit with
  | none => exact raise_plain .exception
  | some tgr =>
      refine andThen_plain _ _ (writeBoards_plain connection output_path tgr _ 0) fun regions => ?_
      refine andThen_plain _ _ (forEach_plain _ _ fun _ => write_plain _ _) fun _ => ?_
      exact andThen_plain _ _ call_plain fun _ => andThen_plain _ _ call_plain fun _ =>
        done_plain true

theorem files_apart : channelOutputFile output_path ≠ triggerOutputFile output_path := by
  intro same
  have ends := List.append_cancel_left same
  revert ends
  decide

theorem maps_effects : (make_simple_channel_map connection output_path).effects =
    .truncate (channelOutputFile output_path) :: .truncate (triggerOutputFile output_path) ::
      (fillMaps connection output_path).effects := by
  rw [make_simple_channel_map, effects_after _ _ () rfl, effects_after _ _ () rfl]
  rfl

theorem channel_opens : OpensAt (channelOutputFile output_path) 0
    (make_simple_channel_map connection output_path).effects := by
  refine ⟨[], .truncate (triggerOutputFile output_path) ::
    (fillMaps connection output_path).effects, maps_effects connection output_path, rfl,
    List.forall_mem_nil _, ?_⟩
  rw [List.mem_cons, not_or]
  refine ⟨fun same => ?_, fillMaps_plain connection output_path _⟩
  exact files_apart output_path (Effect.truncate.inj same)

theorem trigger_opens : OpensAt (triggerOutputFile output_path) 1
    (make_simple_channel_map connection output_path).effects := by
  refine ⟨[.truncate (channelOutputFile output_path)], (fillMaps connection output_path).effects,
    maps_effects connection output_path, rfl, ?_, fillMaps_plain connection output_path _⟩
  exact List.forall_mem_singleton.mpr (files_apart output_path)

theorem made_iff_known :
    (make_simple_channel_map connection output_path).ended = .ok true ↔ Known connection :=
  (maps_ended connection output_path true).trans
    ((and_iff_right rfl).trans (maps_made_iff connection))

end Opening

/-! What is written -/

section Written
variable (connection : Connection) (output_path : Text)

theorem quadrant_written (board : Board) (quadrant : Nat) :
    appended (channelOutputFile output_path) (writeQuadrant output_path board quadrant).effects =
        channelText (board.quadrantRows quadrant) ∧
      appended (triggerOutputFile output_path) (writeQuadrant output_path board quadrant).effects =
        triggerText [⟨board.trigger_region quadrant, board.trigger_region quadrant, .multihit⟩] := by
  have rows := forEach_ended (board.quadrantRows quadrant)
    (fun row => Script.write (channelOutputFile output_path) (row.line ++ ['\n'])) fun _ => rfl
  have written (file : Text) := appended_forEach file (board.quadrantRows quadrant)
    (fun row => Script.write (channelOutputFile output_path) (row.line ++ ['\n'])) fun _ => rfl
  rw [writeQuadrant, effects_after _ _ _ rows, appended_append, appended_append, written, written]
  dsimp only
  simp only [appended_write, files_apart, (files_apart output_path).symm, if_true, if_false]
  constructor
  · rw [List.append_nil]
    rfl
  · rw [List.flatMap_eq_nil_iff.mpr fun _ _ => rfl, List.nil_append]
    exact (List.flatMap_singleton _ _).symm

theorem board_written (board : Board) :
    appended (channelOutputFile output_path)
        (Script.forEach (List.range 4) (writeQuadrant output_path board)).effects =
        channelText board.channelRows ∧
      appended (triggerOutputFile output_path)
        (Script.forEach (List.range 4) (writeQuadrant output_path board)).effects =
        triggerText (board.regions.map fun region => ⟨region, region, .multihit⟩) := by
  rw [appended_forEach _ _ _ (writeQuadrant_ended output_path board),
    appended_forEach _ _ _ (writeQuadrant_ended output_path board)]
  simp only [quadrant_written]
  constructor
  · rw [channelText, Board.channelRows, List.flatMap_assoc]
    rfl
  · simp [triggerText, Board.regions, List.flatMap_map]

theorem readTriggerPort_written (tgr : Option Address) (file : Text) :
    appended file (readTriggerPort connection tgr).effects = [] := by
  unfold readTriggerPort
  split_ifs <;> rfl

theorem boards_written (tgr : Option Address) (units : List Address) (i : Nat)
    (boards : List Board) (found : boardsOf connection tgr i units = some boards) :
    appended (channelOutputFile output_path)
        (writeBoards connection output_path tgr i units).effects =
        channelText (boards.flatMap Board.channelRows) ∧
      appended (triggerOutputFile output_path)
        (writeBoards connection output_path tgr i units).effects =
        triggerText ((boards.flatMap Board.regions).map fun region =>
          ⟨region, region, .multihit⟩) := by
  induction units generalizing i boards with
  | nil =>
      cases found
      exact ⟨rfl, rfl⟩
  | cons unit rest ih =>
      simp only [boardsOf, Option.bind_eq_bind, Option.bind_eq_some_iff, Option.some.injEq] at found
      obtain ⟨board, made, others, later, rfl⟩ := found
      obtain ⟨channels, triggers⟩ := ih (i + 1) others later
      obtain ⟨boardChannels, boardTriggers⟩ := board_written output_path board
      have loop := (writeBoards_ended connection output_path tgr rest (i + 1) _).mpr
        ⟨others, later, rfl⟩
      rw [writeBoards, effects_after _ _ _ (readTriggerPort_ended connection tgr), made]
      dsimp only
      rw [effects_after _ _ _ (writeBoard_ended output_path board), effects_after _ _ _ loop]
      simp only [appended_append, readTriggerPort_written, boardChannels, boardTriggers, channels,
        triggers, appended_pure, List.nil_append, List.append_nil]
      rw [List.flatMap_cons, channelText_append, List.flatMap_cons, List.map_append,
        triggerText_append]
      exact ⟨rfl, rfl⟩

theorem script_writes_maps (generated : Generated)
    (made : SimpleChannelMap.make_simple_channel_map connection = some generated) :
    appended (channelOutputFile output_path)
        (make_simple_channel_map connection output_path).effects =
        channelText generated.channelRows ∧
      appended (triggerOutputFile output_path)
        (make_simple_channel_map connection output_path).effects =
        triggerText generated.triggerRows := by
  simp only [SimpleChannelMap.make_simple_channel_map, Option.bind_eq_bind,
    Option.bind_eq_some_iff, Option.some.injEq] at made
  obtain ⟨tgr, unit, boards, found, rfl⟩ := made
  obtain ⟨channels, triggers⟩ := boards_written connection output_path tgr _ 0 boards found
  have loop := (writeBoards_ended connection output_path tgr _ 0 _).mpr ⟨boards, found, rfl⟩
  have pairs := forEach_ended (coincidenceRows (boards.flatMap Board.regions))
    (fun row => Script.write (triggerOutputFile output_path) (row.line ++ ['\n'])) fun _ => rfl
  have written (file : Text) := appended_forEach file
    (coincidenceRows (boards.flatMap Board.regions))
    (fun row => Script.write (triggerOutputFile output_path) (row.line ++ ['\n'])) fun _ => rfl
  have opened (file : Text) : appended file
      (make_simple_channel_map connection output_path).effects =
      appended file (fillMaps connection output_path).effects := by
    rw [maps_effects]
    rfl
  rw [opened, opened, fillMaps]
  iterate 3 rw [effects_after _ _ () rfl]
  rw [unit]
  dsimp only
  rw [effects_after _ _ _ loop, effects_after _ _ _ pairs]
  iterate 2 rw [effects_after _ _ () rfl]
  simp only [appended_append, appended_call, appended_pure, channels, triggers, written,
    appended_write, (files_apart output_path).symm, if_true, if_false, List.nil_append,
    List.append_nil]
  constructor
  · rw [List.flatMap_eq_nil_iff.mpr fun _ _ => rfl, List.append_nil]
    rfl
  · exact (triggerText_append _ _).symm

end Written

/-! Both scripts -/

inductive SafeCall where
  | bias (python : Python) (system : System) (request : Request)
  | maps (connection : Connection) (output_path : Text)

namespace SafeCall

def script : SafeCall → Script Text Bool
  | bias python system request => make_bias_calibration_table python system request
  | maps connection output_path => make_simple_channel_map connection output_path

def safe : SafeCall → Except Raised Bool → Except Raised Bool
  | bias _ _ _ => safe_make_bias_calibration_table
  | maps _ _ => safe_make_simple_channel_map

/-- The files, and the numbers of the effects that open them. -/
def targets : SafeCall → List (Text × Nat)
  | bias _ _ request => [(request.output_path, 1)]
  | maps _ output_path => [(channelOutputFile output_path, 0), (triggerOutputFile output_path, 1)]

/-- What the script needs has been found, and can be read. -/
def Supplied : SafeCall → Prop
  | bias python system request => Complete python system request
  | maps connection _ => Known connection

def Declined : SafeCall → Prop
  | bias python system request => Refused python system request
  | maps _ _ => False

variable (call : SafeCall)

def Cleanly (files : Files Text) (point : Nat) (raised : Raised) : Prop :=
  let ran := call.script.run point raised files
  FailsCleanly (call.targets.map Prod.fst) ran.1 (call.safe ran.1) files ran.2

theorem supplied_iff : call.script.ended = .ok true ↔ call.Supplied := by
  cases call with
  | bias python system request => exact make_true_iff python system request
  | maps connection output_path => exact made_iff_known connection output_path

theorem declined_iff : call.script.ended = .ok false ↔ call.Declined := by
  cases call with
  | bias python system request => exact make_false_iff python system request
  | maps connection output_path =>
      exact iff_of_false (fun ended => nomatch ((maps_ended _ _ false).mp ended).1) id

theorem targets_open : ∀ target ∈ call.targets, OpensAt target.1 target.2 call.script.effects := by
  cases call with
  | bias python system request =>
      exact List.forall_mem_singleton.mpr (table_opens python system request)
  | maps connection output_path =>
      exact List.forall_mem_cons.mpr ⟨channel_opens connection output_path,
        List.forall_mem_singleton.mpr (trigger_opens connection output_path)⟩

theorem raised_reported (cause : Raised) : call.safe (.error cause) ≠ .ok true := by
  cases call <;> cases cause <;> exact nofun

theorem declined_untold (declined : call.script.ended = .ok false) :
    call.safe (.ok false) = .ok true := by
  cases call with
  | bias python system request => rfl
  | maps connection output_path => exact nomatch ((maps_ended _ _ false).mp declined).1

end SafeCall

/-- The entry points fail cleanly exactly where their scripts come to their end
with success, and where they leave by an exception with their files spared. -/
theorem table_scripts_cleanly_iff (call : SafeCall) (files : Files Text) (point : Nat)
    (raised : Raised) :
    call.Cleanly files point raised ↔
      (call.script.effects.length ≤ point ∧ call.Supplied) ∨
      (¬ (call.script.effects.length ≤ point ∧ call.Declined) ∧
        ∀ target ∈ call.targets, Spared target.1 target.2 call.script.effects point files) := by
  rw [← call.supplied_iff, ← call.declined_iff]
  exact safe_cleanly_iff call.script call.safe call.targets call.targets_open call.raised_reported
    call.declined_untold files point raised

def bareSlot : System :=
  { activeBiasSlots := [(0, 0, 0)]
    distinct := List.nodup_singleton _
    interface := fun _ _ => 0xF
    prom := fun _ _ => 0xFF }

def tableRequest : Request :=
  { output_path := "bias_calibration.tsv".toList
    port_ids := []
    slave_ids := []
    slot_ids := []
    filenames := []
    lines := fun _ => [] }

def asciiPython : Python :=
  { space := isSpace
    int := fun text => (scanDigits text).bind fun (n, rest) => if rest = [] then some n else none
    float := fun text => some text
    voltage := decimal }

/-- Without a calibration file for it the script refuses, and its wrapper says
that it has made the table. -/
theorem bare_slot_reported :
    ¬ ∀ (call : SafeCall) (files : Files Text) (point : Nat) (raised : Raised),
      call.Cleanly files point raised := by
  intro always
  have cleanly := always (.bias asciiPython bareSlot tableRequest) (fun _ => some []) 4 .exception
  have refused : ((make_bias_calibration_table asciiPython bareSlot tableRequest).run 4 .exception
      fun _ => some []).1 = .ok false := rfl
  have reported : safe_make_bias_calibration_table (.ok false) = .ok true →
      Except.ok false = .ok true := refused ▸ cleanly.honest
  exact nomatch reported rfl

end GramsTof.TableScripts
