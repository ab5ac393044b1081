import Mathlib.Tactic

/-!
`mapBiasChannelVoltageToDAC` over exact numbers. A table has no place for a key, or
too few points, where the result is `none`.
-/

namespace GramsTof.BiasMapping

structure Point where
  dacSet : Int
  vMeas : ℚ
  adcMeas : Int
  deriving DecidableEq

/-- The two points whose line is used: the first with `y2 >= y`, else the last. -/
def segment (y : ℚ) : List Point → Option (Point × Point)
  | first :: second :: rest =>
      if second.vMeas ≥ y ∨ rest = [] then some (first, second) else segment y (second :: rest)
  | _ => none

/-- The DAC at `y` on the line through two points. -/
def onLine (first second : Point) (y : ℚ) : ℚ :=
  let m := (second.vMeas - first.vMeas) / (second.dacSet - first.dacSet)
  let b := first.vMeas - m * first.dacSet
  (y - b) / m

def mapVoltage (table : List Point) (voltage : ℚ) : Option ℚ :=
  (segment voltage table).map fun ends => onLine ends.1 ends.2 voltage

/-- `round`: a half goes to the even neighbour. -/
def roundHalfEven (x : ℚ) : Int :=
  if x - ⌊x⌋ < 1 / 2 then ⌊x⌋
  else if x - ⌊x⌋ > 1 / 2 then ⌊x⌋ + 1
  else if ⌊x⌋ % 2 = 0 then ⌊x⌋ else ⌊x⌋ + 1

def mapBiasChannelVoltageToDAC {Key : Type} (biasChannelCalibrationTable : Key → Option (List Point))
    (key : Key) (voltage : ℚ) : Option Int := do
  let table ← biasChannelCalibrationTable key
  let x ← mapVoltage table voltage
  return roundHalfEven x

def Point.below (first second : Point) : Prop :=
  first.dacSet < second.dacSet ∧ first.vMeas < second.vMeas

structure CalibrationTable where
  points : List Point
  two : 2 ≤ points.length
  increasing : points.Pairwise Point.below

section Line
variable {first second : Point} (below : first.below second)
include below

theorem onLine_eq (y : ℚ) : onLine first second y =
    first.dacSet + (y - first.vMeas) * ((second.dacSet - first.dacSet) / (second.vMeas - first.vMeas)) := by
  have dac : (second.dacSet : ℚ) - first.dacSet ≠ 0 :=
    sub_ne_zero.mpr (Int.cast_injective.ne below.1.ne')
  have voltage : second.vMeas - first.vMeas ≠ 0 := sub_ne_zero.mpr below.2.ne'
  unfold onLine
  field_simp
  ring

theorem onLine_first : onLine first second first.vMeas = first.dacSet := by
  rw [onLine_eq below, sub_self, zero_mul, add_zero]

theorem onLine_second : onLine first second second.vMeas = second.dacSet := by
  have voltage : second.vMeas - first.vMeas ≠ 0 := sub_ne_zero.mpr below.2.ne'
  rw [onLine_eq below, mul_div_cancel₀ _ voltage, add_sub_cancel]

theorem onLine_mono {low high : ℚ} (le : low ≤ high) :
    onLine first second low ≤ onLine first second high := by
  have dac : (0 : ℚ) ≤ second.dacSet - first.dacSet :=
    sub_nonneg.mpr (Int.cast_le.mpr below.1.le)
  have voltage : 0 ≤ second.vMeas - first.vMeas := sub_nonneg.mpr below.2.le
  have slope := div_nonneg dac voltage
  rw [onLine_eq below, onLine_eq below]
  have shifted := sub_le_sub_right le first.vMeas
  have scaled := mul_le_mul_of_nonneg_right shifted slope
  exact add_le_add_right scaled _

end Line

/-! The whole table -/

section Table
variable (first second : Point) (rest : List Point)

theorem mapVoltage_here (y : ℚ) (here : y ≤ second.vMeas ∨ rest = []) :
    mapVoltage (first :: second :: rest) y = some (onLine first second y) := by
  rw [mapVoltage, segment, if_pos here]
  rfl

theorem mapVoltage_later (y : ℚ) (above : second.vMeas < y) (more : rest ≠ []) :
    mapVoltage (first :: second :: rest) y = mapVoltage (second :: rest) y := by
  rw [mapVoltage, segment, if_neg (not_or.mpr ⟨not_le.mpr above, more⟩)]
  rfl

end Table

theorem mapVoltage_knot (first second : Point) (rest : List Point)
    (increasing : (first :: second :: rest).Pairwise Point.below) (point : Point)
    (member : point ∈ first :: second :: rest) :
    mapVoltage (first :: second :: rest) point.vMeas = some (point.dacSet : ℚ) := by
  induction rest generalizing first second with
  | nil =>
      obtain ⟨above, _⟩ := List.pairwise_cons.mp increasing
      have below := above second List.mem_cons_self
      rw [mapVoltage_here _ _ _ _ (Or.inr rfl)]
      rcases List.mem_cons.mp member with rfl | member
      · rw [onLine_first below]
      · rw [List.mem_singleton.mp member, onLine_second below]
  | cons third rest ih =>
      obtain ⟨above, later⟩ := List.pairwise_cons.mp increasing
      have below := above second List.mem_cons_self
      rcases List.mem_cons.mp member with rfl | member
      · rw [mapVoltage_here _ _ _ _ (Or.inl below.2.le), onLine_first below]
      · rcases List.mem_cons.mp member with rfl | behind
        · rw [mapVoltage_here _ _ _ _ (Or.inl le_rfl), onLine_second below]
        · have higher := (List.pairwise_cons.mp later).1 point behind
          rw [mapVoltage_later _ _ _ _ higher.2 (List.cons_ne_nil _ _)]
          exact ih second third later member

theorem mapVoltage_mono (first second : Point) (rest : List Point)
    (increasing : (first :: second :: rest).Pairwise Point.below) (low high : ℚ)
    (le : low ≤ high) :
    ∃ left right, mapVoltage (first :: second :: rest) low = some left ∧
      mapVoltage (first :: second :: rest) high = some right ∧ left ≤ right := by
  induction rest generalizing first second low with
  | nil =>
      have below := (List.pairwise_cons.mp increasing).1 second List.mem_cons_self
      exact ⟨_, _, mapVoltage_here _ _ _ _ (Or.inr rfl), mapVoltage_here _ _ _ _ (Or.inr rfl),
        onLine_mono below le⟩
  | cons third rest ih =>
      obtain ⟨above, later⟩ := List.pairwise_cons.mp increasing
      have below := above second List.mem_cons_self
      rcases le_or_gt high second.vMeas with under | over'
      · exact ⟨_, _, mapVoltage_here _ _ _ _ (Or.inl (le.trans under)),
          mapVoltage_here _ _ _ _ (Or.inl under), onLine_mono below le⟩
      · rw [mapVoltage_later _ _ _ high over' (List.cons_ne_nil _ _)]
        rcases le_or_gt low second.vMeas with under | over''
        · -- the point between the two has its own DAC on both sides
          obtain ⟨knot, right, here, there, higher⟩ := ih second third later second.vMeas over'.le
          rw [mapVoltage_knot second third rest later second List.mem_cons_self] at here
          cases here
          refine ⟨_, right, mapVoltage_here _ _ _ _ (Or.inl under), there, le_trans ?_ higher⟩
          rw [← onLine_second below]
          exact onLine_mono below under
        · rw [mapVoltage_later _ _ _ low over'' (List.cons_ne_nil _ _)]
          exact ih second third later low le

namespace CalibrationTable
variable (table : CalibrationTable)

theorem points_cons : ∃ first second rest, table.points = first :: second :: rest := by
  match points : table.points, table.two with
  | first :: second :: rest, _ => exact ⟨first, second, rest, rfl⟩

theorem maps (voltage : ℚ) : ∃ dac, mapVoltage table.points voltage = some dac := by
  obtain ⟨first, second, rest, points⟩ := table.points_cons
  have increasing := table.increasing
  rw [points] at increasing ⊢
  obtain ⟨dac, _, mapped, _⟩ := mapVoltage_mono first second rest increasing voltage voltage le_rfl
  exact ⟨dac, mapped⟩

theorem knot {point : Point} (member : point ∈ table.points) :
    mapVoltage table.points point.vMeas = some (point.dacSet : ℚ) := by
  obtain ⟨first, second, rest, points⟩ := table.points_cons
  have increasing := table.increasing
  rw [points] at increasing member ⊢
  exact mapVoltage_knot first second rest increasing point member

theorem no_lower {low high left right : ℚ} (le : low ≤ high)
    (here : mapVoltage table.points low = some left)
    (there : mapVoltage table.points high = some right) : left ≤ right := by
  obtain ⟨first, second, rest, points⟩ := table.points_cons
  have increasing := table.increasing
  rw [points] at increasing here there
  obtain ⟨_, _, left', right', higher⟩ := mapVoltage_mono first second rest increasing low high le
  cases here.symm.trans left'
  cases there.symm.trans right'
  exact higher

end CalibrationTable

/-- Every voltage is mapped, a calibrated one to the DAC of its point, and a higher one
to no lower DAC. -/
theorem bias_mapping (table : CalibrationTable) :
    ∃ dac : ℚ → ℚ, (∀ voltage, mapVoltage table.points voltage = some (dac voltage)) ∧
      (∀ point ∈ table.points, dac point.vMeas = point.dacSet) ∧ Monotone dac := by
  choose dac mapped using table.maps
  refine ⟨dac, mapped, ?_, ?_⟩
  · intro point member
    exact Option.some.inj ((mapped point.vMeas).symm.trans (table.knot member))
  · intro low high le
    exact table.no_lower le (mapped low) (mapped high)

/-- A channel that was measured at three of its DACs, the last of them saturated. -/
def measuredPoints : List Point := [⟨0, 1 / 2, 131⟩, ⟨8192, 25, 7208⟩, ⟨16383, 46, 13240⟩]

theorem measured_increasing : measuredPoints.Pairwise Point.below := by
  norm_num [measuredPoints, Point.below]

def measured : CalibrationTable := ⟨measuredPoints, Nat.le_succ 2, measured_increasing⟩

/-- Between two measured voltages the DAC lies between theirs, and outside it goes on. -/
theorem bias_mapping_measured :
    ∃ dac : ℚ → ℚ, (∀ voltage, mapVoltage measured.points voltage = some (dac voltage)) ∧
      dac 25 = 8192 ∧ 8192 ≤ dac 30 ∧ dac 30 ≤ 16383 ∧ dac 0 ≤ 0 := by
  obtain ⟨dac, mapped, knots, mono⟩ := bias_mapping measured
  have low : dac (1 / 2) = 0 := knots ⟨0, 1 / 2, 131⟩ (by simp [measured, measuredPoints])
  have middle : dac 25 = 8192 := knots ⟨8192, 25, 7208⟩ (by simp [measured, measuredPoints])
  have high : dac 46 = 16383 := knots ⟨16383, 46, 13240⟩ (by simp [measured, measuredPoints])
  refine ⟨dac, mapped, middle, ?_, ?_, ?_⟩
  · exact middle.symm.trans_le (mono (by norm_num))
  · exact (mono (by norm_num)).trans_eq high
  · exact (mono (by norm_num)).trans_eq low

/-! The rounded result -/

theorem roundHalfEven_int (n : Int) : roundHalfEven n = n := by
  unfold roundHalfEven
  rw [Int.floor_intCast, sub_self, if_pos (by norm_num)]

theorem roundHalfEven_between (x : ℚ) : ⌊x⌋ ≤ roundHalfEven x ∧ roundHalfEven x ≤ ⌊x⌋ + 1 := by
  unfold roundHalfEven
  split_ifs <;> omega

theorem roundHalfEven_mono : Monotone roundHalfEven := by
  intro low high le
  have floors := Int.floor_le_floor le
  rcases floors.lt_or_eq with lower | same
  · have left := (roundHalfEven_between low).2
    have right := (roundHalfEven_between high).1
    omega
  · have parts : low - ⌊low⌋ ≤ high - ⌊high⌋ := by
      rw [same]
      exact sub_le_sub_right le _
    unfold roundHalfEven
    rw [same] at parts ⊢
    split_ifs <;> first | omega | linarith

/-- The DACs that are set: those of the table at its voltages, and no lower ones higher up. -/
theorem dac_set {Key : Type} (tables : Key → Option (List Point)) (key : Key)
    (table : CalibrationTable) (found : tables key = some table.points) :
    ∃ dac : ℚ → Int,
      (∀ voltage, mapBiasChannelVoltageToDAC tables key voltage = some (dac voltage)) ∧
      (∀ point ∈ table.points, dac point.vMeas = point.dacSet) ∧ Monotone dac := by
  choose dac mapped using table.maps
  have mono : Monotone dac := fun low high le => table.no_lower le (mapped low) (mapped high)
  refine ⟨fun voltage => roundHalfEven (dac voltage), ?_, ?_, roundHalfEven_mono.comp mono⟩
  · intro voltage
    rw [mapBiasChannelVoltageToDAC, found]
    change (mapVoltage table.points voltage >>= fun x => some (roundHalfEven x)) = _
    rw [mapped]
    rfl
  · intro point member
    have same : dac point.vMeas = point.dacSet :=
      Option.some.inj ((mapped point.vMeas).symm.trans (table.knot member))
    dsimp only
    rw [same, roundHalfEven_int]

end GramsTof.BiasMapping
