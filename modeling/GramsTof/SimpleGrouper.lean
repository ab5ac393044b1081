import GramsTof.BubbleSort
import GramsTof.WindowScan
import GramsTof.TriggerMap

/-!
`SimpleGrouper::handleEvents`: hits that are close to each other become photons.
The numbers are exact. A hit stands with its place in the buffer, for the pointer
to it.
-/

namespace GramsTof.SimpleGrouper

open TriggerMap BubbleSort WindowScan

variable {Number : Type}

/-- The region of a hit. The maps have elements for it, unless it is negative. -/
abbrev Region : Type := {region : Int // region < (maxTriggerRegions : Int)}

structure Hit (Number : Type) where
  valid : Bool
  time : Number
  energy : Number
  region : Region
  x : Number
  y : Number
  z : Number
  deriving DecidableEq

abbrev HitRef (Number : Type) : Type := Hit Number × Nat

structure GammaPhoton (Number : Type) where
  time : Number
  energy : Number
  region : Region
  x : Number
  y : Number
  z : Number
  hits : List (HitRef Number)
  deriving DecidableEq

/-- `GammaPhoton::maxHits`, the size of its array. -/
def maxHitsOfPhoton : Nat := 256

/-- `sw_trigger_*` and the maps. A bound above the size of the array is not
lowered to it, so it has to fit. -/
structure SoftwareTrigger (Number : Type) where
  groupMaxHits : Nat
  groupMinHits : Int
  groupMinEnergy : Number
  groupMaxEnergy : Number
  groupMaxDistance : Number
  groupTimeWindow : Number
  coincidenceTimeWindow : Number
  maps : TriggerMaps
  positive : 0 < groupMaxHits
  fits : groupMaxHits ≤ maxHitsOfPhoton

def SoftwareTrigger.isMultiHitAllowed (trigger : SoftwareTrigger Number) (r1 r2 : Region) : Bool :=
  trigger.maps.isMultiHitAllowed r1 r2 == some true

theorem allowed_isSome (map : Nat → Bool) (r1 r2 : Region) : (allowed map r1 r2).isSome := by
  obtain ⟨r1, first⟩ := r1
  obtain ⟨r2, second⟩ := r2
  unfold allowed
  by_cases negative : r1 < 0 ∨ r2 < 0
  · rw [if_pos negative]
    rfl
  · have inside : triggerIndex r1.toNat r2.toNat < maxTriggerRegions * maxTriggerRegions := by
      unfold triggerIndex
      unfold maxTriggerRegions at *
      omega
    rw [if_neg negative]
    dsimp only
    rw [if_pos inside]
    rfl

section Arithmetic
variable [Field Number] [LinearOrder Number]

def maxUnorder : Number := 20

variable (trigger : SoftwareTrigger Number)

/-- Stop searching for more hits for this photon. -/
def tooLate (hit hit2 : HitRef Number) : Bool :=
  decide (hit2.1.time - hit.1.time > trigger.groupTimeWindow + maxUnorder)

def distance2 (hit hit2 : Hit Number) : Number :=
  let u := hit.x - hit2.x
  let v := hit.y - hit2.y
  let w := hit.z - hit2.z
  u * u + v * v + w * w

/-- No `continue` of the inner loop behind its `break` is taken. -/
def joins (hit hit2 : HitRef Number) : Bool :=
  trigger.isMultiHitAllowed hit2.1.region hit.1.region &&
    !decide (|hit.1.time - hit2.1.time| > trigger.groupTimeWindow) &&
    !decide (distance2 hit.1 hit2.1 > trigger.groupMaxDistance * trigger.groupMaxDistance)

end Arithmetic

/-- What the inner loop changes. -/
structure Search (Number : Type) where
  taken : Nat → Bool
  hits : List (HitRef Number)
  nHits : Nat

/-- With excessive hits the count goes on, but no hit is added. -/
def Search.add (maxHits : Nat) (search : Search Number) (hit2 : HitRef Number) : Search Number :=
  { taken := Function.update search.taken hit2.2 true
    hits := if search.nHits ≥ maxHits then search.hits else search.hits ++ [hit2]
    nHits := search.nHits + 1 }

/-- The inner loop. `stops` is the test in front of its `break`. -/
def searchHits (stops accepts : HitRef Number → Bool) (maxHits : Nat) :
    List (HitRef Number) → Search Number → Search Number
  | [], search => search
  | hit2 :: rest, search =>
      if !hit2.1.valid then searchHits stops accepts maxHits rest search
      else if search.taken hit2.2 then searchHits stops accepts maxHits rest search
      else if stops hit2 then search
      else if !accepts hit2 then searchHits stops accepts maxHits rest search
      else searchHits stops accepts maxHits rest (search.add maxHits hit2)

section Photons
variable [LinearOrder Number] (trigger : SoftwareTrigger Number)

def lessEnergy (left right : HitRef Number) : Bool := decide (left.1.energy < right.1.energy)

/-- `eventFlags` behind the inner loop. -/
def hitFlags (nHits : Nat) : UInt8 :=
  if nHits > trigger.groupMaxHits then 0x1
  else if (nHits : Int) < trigger.groupMinHits then 0x8
  else 0x0

def energyFlags (energy : Number) : UInt8 :=
  (if energy < trigger.groupMinEnergy then 0x2 else 0x0) |||
    (if energy > trigger.groupMaxEnergy then 0x4 else 0x0)

def assemble (hits : List (HitRef Number)) (nHits : Nat) : Option (GammaPhoton Number × UInt8) :=
  (bubbleSort lessEnergy hits).bind fun sorted =>
    sorted.head?.map fun first =>
      ({ time := first.1.time
         energy := first.1.energy
         region := first.1.region
         x := first.1.x
         y := first.1.y
         z := first.1.z
         hits := sorted },
        hitFlags trigger nHits ||| energyFlags trigger first.1.energy)

end Photons

/-- The counts of photons, and the photons pushed. -/
structure Found (Number : Type) where
  lPhotonsHits : Nat → Nat
  lPhotonsFound : Nat
  lPhotonsHitsOverflow : Nat
  lPhotonsHitsUnderflow : Nat
  lPhotonsLowEnergy : Nat
  lPhotonsHighEnergy : Nat
  lPhotonsPassed : Nat
  outBuffer : List (GammaPhoton Number)

def noneFound : Found Number :=
  { lPhotonsHits := fun _ => 0
    lPhotonsFound := 0
    lPhotonsHitsOverflow := 0
    lPhotonsHitsUnderflow := 0
    lPhotonsLowEnergy := 0
    lPhotonsHighEnergy := 0
    lPhotonsPassed := 0
    outBuffer := [] }

def Found.count (found : Found Number) (photon : GammaPhoton Number) (eventFlags : UInt8) :
    Found Number :=
  let add (mask : UInt8) : Nat := if eventFlags &&& mask ≠ 0 then 1 else 0
  let slot := photon.hits.length - 1
  { lPhotonsHits :=
      if eventFlags &&& 0x1 = 0 then
        Function.update found.lPhotonsHits slot (found.lPhotonsHits slot + 1)
      else found.lPhotonsHits
    lPhotonsFound := found.lPhotonsFound + 1
    lPhotonsHitsOverflow := found.lPhotonsHitsOverflow + add 0x1
    lPhotonsHitsUnderflow := found.lPhotonsHitsUnderflow + add 0x8
    lPhotonsLowEnergy := found.lPhotonsLowEnergy + add 0x2
    lPhotonsHighEnergy := found.lPhotonsHighEnergy + add 0x4
    lPhotonsPassed := found.lPhotonsPassed + if eventFlags = 0 then 1 else 0
    outBuffer := found.outBuffer ++ if eventFlags = 0 then [photon] else [] }

structure Progress (Number : Type) where
  lHitsReceived : Nat
  lHitsReceivedValid : Nat
  found : Found Number

section Loop
variable [LinearOrder Number] (trigger : SoftwareTrigger Number)
variable (stops accepts : HitRef Number → HitRef Number → Bool)

def groupHits : List (HitRef Number) → (Nat → Bool) → Progress Number → Option (Progress Number)
  | [], _, progress => some progress
  | hit :: rest, taken, progress =>
      let progress := { progress with lHitsReceived := progress.lHitsReceived + 1 }
      if !hit.1.valid then groupHits rest taken progress
      else
        let progress := { progress with lHitsReceivedValid := progress.lHitsReceivedValid + 1 }
        if taken hit.2 then groupHits rest taken progress
        else
          let search := searchHits (stops hit) (accepts hit) trigger.groupMaxHits rest
            { taken := Function.update taken hit.2 true, hits := [hit], nHits := 1 }
          (assemble trigger search.hits search.nHits).bind fun (photon, eventFlags) =>
            groupHits rest search.taken
              { progress with found := progress.found.count photon eventFlags }

end Loop

/-- The counters of the whole run; `nPhotonsHits` is an array. -/
structure Counters where
  nHitsReceived : UInt64
  nHitsReceivedValid : UInt64
  nPhotonsFound : UInt64
  nPhotonsHits : Nat → UInt64
  nPhotonsHitsOverflow : UInt64
  nPhotonsHitsUnderflow : UInt64
  nPhotonsLowEnergy : UInt64
  nPhotonsHighEnergy : UInt64
  nPhotonsPassed : UInt64

def Counters.add (maxHits : Nat) (counters : Counters) (progress : Progress Number) : Counters :=
  let found := progress.found
  { nHitsReceived := counters.nHitsReceived + UInt64.ofNat progress.lHitsReceived
    nHitsReceivedValid := counters.nHitsReceivedValid + UInt64.ofNat progress.lHitsReceivedValid
    nPhotonsFound := counters.nPhotonsFound + UInt64.ofNat found.lPhotonsFound
    nPhotonsHits := fun i =>
      if i < maxHits then counters.nPhotonsHits i + UInt64.ofNat (found.lPhotonsHits i)
      else counters.nPhotonsHits i
    nPhotonsHitsOverflow :=
      counters.nPhotonsHitsOverflow + UInt64.ofNat found.lPhotonsHitsOverflow
    nPhotonsHitsUnderflow :=
      counters.nPhotonsHitsUnderflow + UInt64.ofNat found.lPhotonsHitsUnderflow
    nPhotonsLowEnergy := counters.nPhotonsLowEnergy + UInt64.ofNat found.lPhotonsLowEnergy
    nPhotonsHighEnergy := counters.nPhotonsHighEnergy + UInt64.ofNat found.lPhotonsHighEnergy
    nPhotonsPassed := counters.nPhotonsPassed + UInt64.ofNat found.lPhotonsPassed }

section Handler
variable [LinearOrder Number] (trigger : SoftwareTrigger Number)

def handleWith (stops accepts : HitRef Number → HitRef Number → Bool) (counters : Counters)
    (inBuffer : List (Hit Number)) : Option (Counters × List (GammaPhoton Number)) :=
  (groupHits trigger stops accepts inBuffer.zipIdx (fun _ => false) ⟨0, 0, noneFound⟩).map
    fun progress => (counters.add trigger.groupMaxHits progress, progress.found.outBuffer)

def handleEvents [Field Number] : Counters → List (Hit Number) →
    Option (Counters × List (GammaPhoton Number)) :=
  handleWith trigger (tooLate trigger) (joins trigger)

end Handler

/-! The groups behind the photons -/

section Searching
variable (stops accepts : HitRef Number → HitRef Number → Bool) (maxHits : Nat)

def remaining (taken : Nat → Bool) (refs : List (HitRef Number)) : List (HitRef Number) :=
  refs.filter fun hit => hit.1.valid && !taken hit.2

theorem remaining_congr (taken other : Nat → Bool) (refs : List (HitRef Number))
    (same : ∀ hit ∈ refs, taken hit.2 = other hit.2) : remaining taken refs = remaining other refs :=
  List.filter_congr fun hit member => by rw [same hit member]

theorem remaining_skip (taken : Nat → Bool) (hit : HitRef Number) (rest : List (HitRef Number))
    (skipped : hit.1.valid = false ∨ taken hit.2 = true) :
    remaining taken (hit :: rest) = remaining taken rest := by
  refine List.filter_cons_of_neg ?_
  rcases skipped with invalid | before
  · simp [invalid]
  · simp [before]

theorem remaining_take (taken : Nat → Bool) (hit : HitRef Number) (rest : List (HitRef Number))
    (valid : hit.1.valid = true) (free : taken hit.2 = false) :
    remaining taken (hit :: rest) = hit :: remaining taken rest :=
  List.filter_cons_of_pos (by simp [valid, free])

/-- The search counts the hits of a group and holds the first of them. -/
structure Holds (search : Search Number) (group : List (HitRef Number)) : Prop where
  count : search.nHits = group.length
  hits : search.hits = group.take maxHits

theorem Holds.add {search : Search Number} {group : List (HitRef Number)}
    (holds : Holds maxHits search group) (hit2 : HitRef Number) :
    Holds maxHits (search.add maxHits hit2) (group ++ [hit2]) where
  count := by
    rw [List.length_append, ← holds.count]
    rfl
  hits := by
    unfold Search.add
    rw [holds.count, holds.hits]
    dsimp only
    split_ifs with full
    · exact (List.take_append_of_le_length full).symm
    · rw [List.take_of_length_le (by omega), List.take_of_length_le]
      rw [List.length_append, List.length_singleton]
      omega

theorem search_taken (stops accepts : HitRef Number → Bool) (refs : List (HitRef Number))
    (search : Search Number) (place : Nat) (absent : ∀ hit ∈ refs, hit.2 ≠ place) :
    (searchHits stops accepts maxHits refs search).taken place = search.taken place := by
  induction refs generalizing search with
  | nil => rfl
  | cons hit2 rest ih =>
      obtain ⟨here, others⟩ := List.forall_mem_cons.mp absent
      unfold searchHits
      split_ifs
      · exact ih search others
      · exact ih search others
      · rfl
      · exact ih search others
      · rw [ih _ others]
        exact Function.update_of_ne (Ne.symm here) _ _

theorem search_scan (stops accepts : HitRef Number → Bool) (refs : List (HitRef Number))
    (distinct : (refs.map Prod.snd).Nodup) (search : Search Number) (group : List (HitRef Number))
    (holds : Holds maxHits search group) :
    Holds maxHits (searchHits stops accepts maxHits refs search)
        (group ++ (scan stops accepts (remaining search.taken refs)).1) ∧
      remaining (searchHits stops accepts maxHits refs search).taken refs =
        (scan stops accepts (remaining search.taken refs)).2 := by
  induction refs generalizing search group with
  | nil =>
      refine ⟨?_, rfl⟩
      rw [show (scan stops accepts (remaining search.taken [])).1 = [] from rfl, List.append_nil]
      exact holds
  | cons hit2 rest ih =>
      obtain ⟨absent, others⟩ := List.nodup_cons.mp distinct
      have apart : ∀ hit ∈ rest, hit.2 ≠ hit2.2 := fun hit member same =>
        absent (same ▸ List.mem_map_of_mem member)
      unfold searchHits
      by_cases invalid : hit2.1.valid = false
      · rw [if_pos (by simp [invalid]), remaining_skip _ _ _ (.inl invalid),
          remaining_skip _ _ _ (.inl invalid)]
        exact ih others search group holds
      · have valid := Bool.not_eq_false _ ▸ invalid
        rw [if_neg (by simp [valid])]
        by_cases before : search.taken hit2.2 = true
        · have still := (search_taken maxHits stops accepts rest search hit2.2 apart).trans before
          rw [if_pos before, remaining_skip _ _ _ (.inr before), remaining_skip _ _ _ (.inr still)]
          exact ih others search group holds
        · have free := Bool.not_eq_true _ ▸ before
          rw [if_neg before, remaining_take _ _ _ valid free, scan]
          by_cases stopped : stops hit2 = true
          · rw [if_pos stopped, if_pos stopped, List.append_nil]
            exact ⟨holds, remaining_take _ _ _ valid free⟩
          · rw [if_neg stopped, if_neg stopped]
            by_cases accepted : accepts hit2 = true
            · have untouched : remaining (search.add maxHits hit2).taken rest =
                  remaining search.taken rest :=
                remaining_congr _ _ _ fun hit member =>
                  Function.update_of_ne (apart hit member) _ _
              have marked := search_taken maxHits stops accepts rest (search.add maxHits hit2)
                hit2.2 apart
              have now : (search.add maxHits hit2).taken hit2.2 = true := Function.update_self ..
              obtain ⟨held, left⟩ := ih others _ _ (holds.add maxHits hit2)
              rw [untouched] at held left
              rw [if_neg (by simp [accepted]), if_pos accepted,
                remaining_skip _ _ _ (.inr (marked.trans now))]
              rw [List.append_assoc] at held
              exact ⟨held, left⟩
            · have kept := (search_taken maxHits stops accepts rest search hit2.2 apart).trans free
              obtain ⟨held, left⟩ := ih others search group holds
              rw [if_pos (by simp [accepted]), if_neg accepted, remaining_take _ _ _ valid kept]
              exact ⟨held, congrArg _ left⟩

end Searching

section Grouping
variable [LinearOrder Number] (trigger : SoftwareTrigger Number)
variable (stops accepts : HitRef Number → HitRef Number → Bool)

def countGroup (found : Found Number) (group : List (HitRef Number)) : Option (Found Number) :=
  (assemble trigger (group.take trigger.groupMaxHits) group.length).map fun (photon, eventFlags) =>
    found.count photon eventFlags

theorem group_hits_groups (refs : List (HitRef Number)) (distinct : (refs.map Prod.snd).Nodup)
    (taken : Nat → Bool) (progress : Progress Number) :
    groupHits trigger stops accepts refs taken progress =
      ((groups stops accepts (remaining taken refs)).foldlM (countGroup trigger)
        progress.found).map fun found =>
          { lHitsReceived := progress.lHitsReceived + refs.length
            lHitsReceivedValid := progress.lHitsReceivedValid + refs.countP fun hit => hit.1.valid
            found := found } := by
  induction refs generalizing taken progress with
  | nil =>
      rw [show remaining taken ([] : List (HitRef Number)) = [] from rfl, groups_nil]
      rfl
  | cons hit rest ih =>
      obtain ⟨absent, others⟩ := List.nodup_cons.mp distinct
      have apart : ∀ other ∈ rest, other.2 ≠ hit.2 := fun other member same =>
        absent (same ▸ List.mem_map_of_mem member)
      unfold groupHits
      dsimp only
      rw [List.length_cons, List.countP_cons]
      by_cases invalid : hit.1.valid = false
      · rw [if_pos (by simp [invalid]), remaining_skip _ _ _ (.inl invalid), ih others]
        simp only [invalid, Bool.false_eq_true, if_false, Nat.add_zero, Nat.add_assoc,
          Nat.add_comm 1]
      · have valid := Bool.not_eq_false _ ▸ invalid
        rw [if_neg (by simp [valid])]
        by_cases before : taken hit.2 = true
        · rw [if_pos before, remaining_skip _ _ _ (.inr before), ih others]
          simp only [valid, if_true, Nat.add_assoc, Nat.add_comm 1]
        · have free := Bool.not_eq_true _ ▸ before
          have untouched : remaining (Function.update taken hit.2 true) rest =
              remaining taken rest :=
            remaining_congr _ _ _ fun other member => Function.update_of_ne (apart other member) _ _
          have alone : Holds trigger.groupMaxHits
              { taken := Function.update taken hit.2 true, hits := [hit], nHits := 1 } [hit] := by
            refine ⟨rfl, (List.take_of_length_le ?_).symm⟩
            exact trigger.positive
          obtain ⟨held, left⟩ := search_scan trigger.groupMaxHits (stops hit) (accepts hit) rest
            others _ _ alone
          rw [untouched] at held left
          rw [if_neg before, remaining_take _ _ _ valid free, groups_cons, List.foldlM_cons,
            held.hits, held.count, Option.bind_eq_bind, countGroup, Option.map_bind,
            Option.bind_map]
          refine congrArg _ (funext fun made => ?_)
          obtain ⟨photon, eventFlags⟩ := made
          dsimp only [Function.comp_apply]
          rw [ih others, left]
          simp only [valid, if_true, Nat.add_assoc, Nat.add_comm 1]

end Grouping

/-! What is said of a group -/

section Size
variable (trigger : SoftwareTrigger Number) (group : List (HitRef Number))

def kept : List (HitRef Number) := group.take trigger.groupMaxHits

def tooMany : Bool := decide (trigger.groupMaxHits < group.length)

def tooFew : Bool := !tooMany trigger group && decide ((group.length : Int) < trigger.groupMinHits)

theorem hit_flags_cases :
    (tooMany trigger group = true ∧ tooFew trigger group = false ∧
        hitFlags trigger group.length = 0x1) ∨
      (tooMany trigger group = false ∧ tooFew trigger group = true ∧
        hitFlags trigger group.length = 0x8) ∨
      (tooMany trigger group = false ∧ tooFew trigger group = false ∧
        hitFlags trigger group.length = 0x0) := by
  unfold tooFew tooMany hitFlags
  by_cases many : trigger.groupMaxHits < group.length
  · exact .inl ⟨by simp [many], by simp [many], if_pos many⟩
  · by_cases few : (group.length : Int) < trigger.groupMinHits
    · exact .inr (.inl ⟨by simp [many], by simp [many, few], by rw [if_neg many, if_pos few]⟩)
    · exact .inr (.inr ⟨by simp [many], by simp [many, few], by rw [if_neg many, if_neg few]⟩)

end Size

section Verdict
variable [LinearOrder Number] (trigger : SoftwareTrigger Number) (group : List (HitRef Number))

def tooLow : Bool :=
  (kept trigger group).all fun hit => decide (hit.1.energy < trigger.groupMinEnergy)

def tooHigh : Bool :=
  (kept trigger group).any fun hit => decide (trigger.groupMaxEnergy < hit.1.energy)

def passes : Bool :=
  !(tooMany trigger group || tooFew trigger group || tooLow trigger group || tooHigh trigger group)

/-- The hits are those of the group, the highest energy first, and the rest is
that of the first hit. -/
structure PhotonOf (photon : GammaPhoton Number) (hits : List (HitRef Number)) : Prop where
  hits : photon.hits.Perm hits
  sorted : photon.hits.Pairwise fun left right => right.1.energy ≤ left.1.energy
  first : ∃ first ∈ photon.hits.head?, photon.time = first.1.time ∧
    photon.energy = first.1.energy ∧ photon.region = first.1.region ∧ photon.x = first.1.x ∧
    photon.y = first.1.y ∧ photon.z = first.1.z

theorem less_energy_asymmetric (left right : HitRef Number) (less : lessEnergy left right) :
    ¬ lessEnergy right left := by
  simp only [lessEnergy, decide_eq_true_eq] at less ⊢
  exact not_lt_of_gt less

theorem highest_first (sorted : List (HitRef Number))
    (ordered : sorted.Pairwise fun left right => ¬ lessEnergy left right)
    (first : HitRef Number) (head : sorted.head? = some first) :
    ∀ hit ∈ sorted, hit.1.energy ≤ first.1.energy := by
  cases sorted with
  | nil => cases head
  | cons top rest =>
      cases head
      obtain ⟨above, _⟩ := List.pairwise_cons.mp ordered
      refine List.forall_mem_cons.mpr ⟨le_rfl, fun hit member => ?_⟩
      have ordered := above hit member
      simp only [lessEnergy, decide_eq_true_eq, not_lt] at ordered
      exact ordered

structure FlagsOf (eventFlags : UInt8) (group : List (HitRef Number)) : Prop where
  overflow : eventFlags &&& 0x1 ≠ 0 ↔ tooMany trigger group
  underflow : eventFlags &&& 0x8 ≠ 0 ↔ tooFew trigger group
  low : eventFlags &&& 0x2 ≠ 0 ↔ tooLow trigger group
  high : eventFlags &&& 0x4 ≠ 0 ↔ tooHigh trigger group
  passed : eventFlags = 0 ↔ passes trigger group

theorem flags_of (energy : Number)
    (top : ∃ hit ∈ kept trigger group, hit.1.energy = energy)
    (highest : ∀ hit ∈ kept trigger group, hit.1.energy ≤ energy) :
    FlagsOf trigger (hitFlags trigger group.length ||| energyFlags trigger energy) group := by
  obtain ⟨hit, member, rfl⟩ := top
  have low : tooLow trigger group = decide (hit.1.energy < trigger.groupMinEnergy) := by
    rw [tooLow, Bool.eq_iff_iff, List.all_eq_true, decide_eq_true_eq]
    constructor
    · exact fun all => of_decide_eq_true (all hit member)
    · exact fun below other inside => decide_eq_true ((highest other inside).trans_lt below)
  have high : tooHigh trigger group = decide (trigger.groupMaxEnergy < hit.1.energy) := by
    rw [tooHigh, Bool.eq_iff_iff, List.any_eq_true, decide_eq_true_eq]
    constructor
    · rintro ⟨other, inside, above⟩
      exact (of_decide_eq_true above).trans_le (highest other inside)
    · exact fun above => ⟨hit, member, decide_eq_true above⟩
  have flags : energyFlags trigger hit.1.energy =
      (if tooLow trigger group then 0x2 else 0x0) |||
        (if tooHigh trigger group then 0x4 else 0x0) := by
    rw [low, high, energyFlags]
    simp only [decide_eq_true_eq, gt_iff_lt]
  rw [flags]
  rcases hit_flags_cases trigger group with ⟨many, few, made⟩ | ⟨many, few, made⟩ | ⟨many, few, made⟩
  all_goals
    rw [made]
    generalize isLow : tooLow trigger group = low'
    generalize isHigh : tooHigh trigger group = high'
    constructor
    all_goals
      simp only [passes, many, few, isLow, isHigh]
      cases low' <;> cases high' <;> decide

theorem assemble_group (some' : group ≠ []) :
    ∃ photon eventFlags,
      assemble trigger (group.take trigger.groupMaxHits) group.length =
          some (photon, eventFlags) ∧
        PhotonOf photon (kept trigger group) ∧ FlagsOf trigger eventFlags group := by
  obtain ⟨sorted, ended⟩ := bubble_sort_ends lessEnergy less_energy_asymmetric
    (group.take trigger.groupMaxHits)
  have perm : sorted.Perm (kept trigger group) := bubble_sort_perm lessEnergy _ _ ended
  have ordered := bubble_sort_sorted lessEnergy (fun first second third before behind => by
    simp only [lessEnergy, decide_eq_true_eq, not_lt] at before behind ⊢
    exact behind.trans before) _ _ ended
  have nonempty : kept trigger group ≠ [] := by
    rw [kept, ne_eq, List.take_eq_nil_iff]
    rintro (none | none)
    · exact absurd none (Nat.ne_of_gt trigger.positive)
    · exact some' none
  cases head : sorted.head? with
  | none =>
      rw [List.head?_eq_none_iff] at head
      exact absurd (List.perm_nil.mp (head ▸ perm).symm) nonempty
  | some first =>
      have highest := highest_first sorted ordered first head
      have inside := List.mem_of_mem_head? (Option.mem_def.mpr head)
      refine ⟨_, _, by rw [assemble, ended, Option.bind_some, head, Option.map_some], ?_, ?_⟩
      · refine ⟨perm, ordered.imp fun less => ?_, first, head, rfl, rfl, rfl, rfl, rfl, rfl⟩
        simp only [lessEnergy, decide_eq_true_eq, not_lt] at less
        exact less
      · exact flags_of trigger group first.1.energy ⟨first, perm.mem_iff.mp inside, rfl⟩
          fun hit member => highest hit (perm.mem_iff.mpr member)

end Verdict

section Tally
variable [LinearOrder Number] (trigger : SoftwareTrigger Number)

structure Tally (before after : Found Number) (groups : List (List (HitRef Number))) : Prop where
  hits : ∀ i, after.lPhotonsHits i = before.lPhotonsHits i +
    groups.countP fun group => !tooMany trigger group && decide (group.length = i + 1)
  found : after.lPhotonsFound = before.lPhotonsFound + groups.length
  overflow : after.lPhotonsHitsOverflow =
    before.lPhotonsHitsOverflow + groups.countP (tooMany trigger)
  underflow : after.lPhotonsHitsUnderflow =
    before.lPhotonsHitsUnderflow + groups.countP (tooFew trigger)
  low : after.lPhotonsLowEnergy = before.lPhotonsLowEnergy + groups.countP (tooLow trigger)
  high : after.lPhotonsHighEnergy = before.lPhotonsHighEnergy + groups.countP (tooHigh trigger)
  passed : after.lPhotonsPassed = before.lPhotonsPassed + groups.countP (passes trigger)
  photons : ∃ photons, after.outBuffer = before.outBuffer ++ photons ∧
    List.Forall₂ PhotonOf photons ((groups.filter (passes trigger)).map (kept trigger))

theorem tally_nil (found : Found Number) : Tally trigger found found [] :=
  ⟨fun _ => rfl, rfl, rfl, rfl, rfl, rfl, rfl, [], (List.append_nil _).symm, .nil⟩

theorem count_tally (found : Found Number) (group : List (HitRef Number)) (some' : group ≠ [])
    (photon : GammaPhoton Number) (eventFlags : UInt8)
    (photonOf : PhotonOf photon (kept trigger group))
    (flagsOf : FlagsOf trigger eventFlags group) :
    Tally trigger found (found.count photon eventFlags) [group] where
  hits := by
    intro i
    have length : photon.hits.length = min trigger.groupMaxHits group.length :=
      photonOf.hits.length_eq.trans List.length_take
    have long := List.length_pos_iff.mpr some'
    have single := flagsOf.overflow
    unfold Found.count
    dsimp only
    rw [List.countP_singleton]
    by_cases many : tooMany trigger group = true
    · rw [if_neg (single.mpr many), many]
      rfl
    · rw [if_pos (not_not.mp fun flagged => many (single.mp flagged)), Bool.eq_false_iff.mpr many]
      have short : group.length ≤ trigger.groupMaxHits := by
        rw [tooMany, decide_eq_true_eq] at many
        omega
      rw [length, Nat.min_eq_right short]
      by_cases here : group.length = i + 1
      · rw [here, Nat.add_sub_cancel, Function.update_self]
        simp
      · rw [Function.update_of_ne (by omega)]
        simp [here]
  found := rfl
  overflow := by simp only [Found.count, List.countP_singleton, flagsOf.overflow]
  underflow := by simp only [Found.count, List.countP_singleton, flagsOf.underflow]
  low := by simp only [Found.count, List.countP_singleton, flagsOf.low]
  high := by simp only [Found.count, List.countP_singleton, flagsOf.high]
  passed := by simp only [Found.count, List.countP_singleton, flagsOf.passed]
  photons := by
    refine ⟨_, rfl, ?_⟩
    by_cases passed : passes trigger group = true
    · rw [if_pos (flagsOf.passed.mpr passed), List.filter_cons_of_pos passed]
      exact .cons photonOf .nil
    · rw [if_neg (fun flags => passed (flagsOf.passed.mp flags)), List.filter_cons_of_neg passed]
      exact .nil

theorem Tally.append {first second third : Found Number} {left right : List (List (HitRef Number))}
    (before : Tally trigger first second left) (behind : Tally trigger second third right) :
    Tally trigger first third (left ++ right) where
  hits := by
    intro i
    rw [behind.hits, before.hits, List.countP_append, Nat.add_assoc]
  found := by rw [behind.found, before.found, List.length_append, Nat.add_assoc]
  overflow := by rw [behind.overflow, before.overflow, List.countP_append, Nat.add_assoc]
  underflow := by rw [behind.underflow, before.underflow, List.countP_append, Nat.add_assoc]
  low := by rw [behind.low, before.low, List.countP_append, Nat.add_assoc]
  high := by rw [behind.high, before.high, List.countP_append, Nat.add_assoc]
  passed := by rw [behind.passed, before.passed, List.countP_append, Nat.add_assoc]
  photons := by
    obtain ⟨photons, pushed, some'⟩ := before.photons
    obtain ⟨more, later, others⟩ := behind.photons
    refine ⟨photons ++ more, by rw [later, pushed, List.append_assoc], ?_⟩
    rw [List.filter_append, List.map_append]
    exact List.rel_append some' others

theorem count_groups (groups : List (List (HitRef Number))) (some' : ∀ group ∈ groups, group ≠ [])
    (found : Found Number) :
    ∃ after, groups.foldlM (countGroup trigger) found = some after ∧
      Tally trigger found after groups := by
  induction groups generalizing found with
  | nil => exact ⟨found, rfl, tally_nil trigger found⟩
  | cons group rest ih =>
      obtain ⟨here, others⟩ := List.forall_mem_cons.mp some'
      obtain ⟨photon, eventFlags, made, photonOf, flagsOf⟩ := assemble_group trigger group here
      obtain ⟨after, counted, tally⟩ := ih others (found.count photon eventFlags)
      refine ⟨after, ?_, (count_tally trigger found group here photon eventFlags photonOf
        flagsOf).append trigger tally⟩
      rw [List.foldlM_cons, countGroup, made]
      exact counted

end Tally

/-! The whole buffer -/

section Buffer

def validHits (inBuffer : List (Hit Number)) : List (HitRef Number) :=
  inBuffer.zipIdx.filter fun hit => hit.1.valid

def groupsOf (stops accepts : HitRef Number → HitRef Number → Bool) (inBuffer : List (Hit Number)) :
    List (List (HitRef Number)) :=
  groups stops accepts (validHits inBuffer)

theorem places_nodup (inBuffer : List (Hit Number)) : (inBuffer.zipIdx.map Prod.snd).Nodup := by
  rw [List.zipIdx_map_snd]
  exact List.nodup_range'

variable [LinearOrder Number] (trigger : SoftwareTrigger Number)
variable (stops accepts : HitRef Number → HitRef Number → Bool)

/-- The counters behind a buffer that was divided into these groups. -/
structure Counted (before after : Counters) (inBuffer : List (Hit Number))
    (groups : List (List (HitRef Number))) : Prop where
  received : after.nHitsReceived = before.nHitsReceived + UInt64.ofNat inBuffer.length
  valid : after.nHitsReceivedValid =
    before.nHitsReceivedValid + UInt64.ofNat groups.flatten.length
  found : after.nPhotonsFound = before.nPhotonsFound + UInt64.ofNat groups.length
  hits : ∀ i < trigger.groupMaxHits, after.nPhotonsHits i = before.nPhotonsHits i +
    UInt64.ofNat (groups.countP fun group => decide (group.length = i + 1))
  overflow : after.nPhotonsHitsOverflow =
    before.nPhotonsHitsOverflow + UInt64.ofNat (groups.countP (tooMany trigger))
  underflow : after.nPhotonsHitsUnderflow =
    before.nPhotonsHitsUnderflow + UInt64.ofNat (groups.countP (tooFew trigger))
  low : after.nPhotonsLowEnergy =
    before.nPhotonsLowEnergy + UInt64.ofNat (groups.countP (tooLow trigger))
  high : after.nPhotonsHighEnergy =
    before.nPhotonsHighEnergy + UInt64.ofNat (groups.countP (tooHigh trigger))
  passed : after.nPhotonsPassed =
    before.nPhotonsPassed + UInt64.ofNat (groups.countP (passes trigger))

/-- The loops come to an end, count the groups, and make a photon of each that
passes. -/
theorem handle_with_groups (counters : Counters) (inBuffer : List (Hit Number)) :
    ∃ after photons,
      handleWith trigger stops accepts counters inBuffer = some (after, photons) ∧
        Counted trigger counters after inBuffer (groupsOf stops accepts inBuffer) ∧
        List.Forall₂ PhotonOf photons
          ((groupsOf stops accepts inBuffer).filter (passes trigger)) := by
  have nonempty : ∀ group ∈ groupsOf stops accepts inBuffer, group ≠ [] := by
    intro group member
    obtain ⟨_, _, rfl, _⟩ := groups_form stops accepts _ group member
    exact List.cons_ne_nil _ _
  have start : remaining (fun _ => false) inBuffer.zipIdx = validHits inBuffer :=
    List.filter_congr fun hit _ => by rw [Bool.not_false, Bool.and_true]
  have whole : inBuffer.zipIdx.countP (fun hit => hit.1.valid) =
      (groupsOf stops accepts inBuffer).flatten.length := by
    rw [groupsOf, (groups_perm stops accepts _).length_eq, validHits, List.countP_eq_length_filter]
  obtain ⟨found, counted, tally⟩ :=
    count_groups trigger (groupsOf stops accepts inBuffer) nonempty noneFound
  obtain ⟨photons, pushed, photonsOf⟩ := tally.photons
  rw [handleWith, group_hits_groups trigger stops accepts _ (places_nodup inBuffer), start]
  rw [show groups stops accepts (validHits inBuffer) = groupsOf stops accepts inBuffer from rfl,
    counted]
  refine ⟨_, _, rfl, ?_, ?_⟩
  · constructor
    · simp only [Counters.add, Nat.zero_add, List.length_zipIdx]
    · simp only [Counters.add, Nat.zero_add, whole]
    · simp only [Counters.add, tally.found, noneFound, Nat.zero_add]
    · intro i below
      have exact_ : (groupsOf stops accepts inBuffer).countP
          (fun group => !tooMany trigger group && decide (group.length = i + 1)) =
          (groupsOf stops accepts inBuffer).countP fun group => decide (group.length = i + 1) := by
        refine List.countP_congr fun group _ => ?_
        simp only [tooMany, Bool.and_eq_true, Bool.not_eq_true', decide_eq_false_iff_not,
          decide_eq_true_eq]
        omega
      simp only [Counters.add, if_pos below, tally.hits, noneFound, Nat.zero_add, exact_]
    · simp only [Counters.add, tally.overflow, noneFound, Nat.zero_add]
    · simp only [Counters.add, tally.underflow, noneFound, Nat.zero_add]
    · simp only [Counters.add, tally.low, noneFound, Nat.zero_add]
    · simp only [Counters.add, tally.high, noneFound, Nat.zero_add]
    · simp only [Counters.add, tally.passed, noneFound, Nat.zero_add]
  · have same : ((groupsOf stops accepts inBuffer).filter (passes trigger)).map (kept trigger) =
        (groupsOf stops accepts inBuffer).filter (passes trigger) := by
      refine (List.map_congr_left fun group member => ?_).trans (List.map_id _)
      have passed := (List.mem_filter.mp member).2
      simp only [passes, tooMany, Bool.not_eq_true', Bool.or_eq_false_iff,
        decide_eq_false_iff_not] at passed
      exact List.take_of_length_le (by omega)
    dsimp only
    rw [pushed, show (noneFound : Found Number).outBuffer = [] from rfl, List.nil_append, ← same]
    exact photonsOf

end Buffer

section Made
variable [LinearOrder Number] {photons : List (GammaPhoton Number)}
  {groups : List (List (HitRef Number))}

theorem made_hits (photonsOf : List.Forall₂ PhotonOf photons groups) :
    (photons.flatMap GammaPhoton.hits).Perm groups.flatten := by
  induction photonsOf with
  | nil => exact .refl _
  | cons photonOf _ ih =>
      rw [List.flatMap_cons, List.flatten_cons]
      exact photonOf.hits.append ih

theorem made_group (photonsOf : List.Forall₂ PhotonOf photons groups)
    (photon : GammaPhoton Number) (member : photon ∈ photons) :
    ∃ group ∈ groups, PhotonOf photon group := by
  induction photonsOf with
  | nil => cases member
  | cons photonOf _ ih =>
      rcases List.mem_cons.mp member with rfl | later
      · exact ⟨_, List.mem_cons_self, photonOf⟩
      · obtain ⟨group, listed, made⟩ := ih later
        exact ⟨group, List.mem_cons_of_mem _ listed, made⟩

end Made

section Events
variable [Field Number] [LinearOrder Number] (trigger : SoftwareTrigger Number)

/-- Each valid hit is in one group, a group is a hit and others it is joined by,
and every group is counted and judged once. -/
theorem hits_are_grouped (counters : Counters) (inBuffer : List (Hit Number)) :
    ∃ groups after photons,
      handleEvents trigger counters inBuffer = some (after, photons) ∧
        groups.flatten.Perm (validHits inBuffer) ∧
        (∀ group ∈ groups, ∃ seed others, group = seed :: others ∧
          group.Sublist (validHits inBuffer) ∧ ∀ other ∈ others, joins trigger seed other) ∧
        Counted trigger counters after inBuffer groups ∧
        List.Forall₂ PhotonOf photons (groups.filter (passes trigger)) := by
  obtain ⟨after, photons, handled, counted, photonsOf⟩ :=
    handle_with_groups trigger (tooLate trigger) (joins trigger) counters inBuffer
  exact ⟨groupsOf (tooLate trigger) (joins trigger) inBuffer, after, photons, handled,
    groups_perm _ _ _, groups_form _ _ _, counted, photonsOf⟩

/-- What a photon that is passed on is like. -/
structure Within (photon : GammaPhoton Number) : Prop where
  atLeast : trigger.groupMinHits ≤ photon.hits.length
  atMost : photon.hits.length ≤ trigger.groupMaxHits
  aboveMin : trigger.groupMinEnergy ≤ photon.energy
  belowMax : photon.energy ≤ trigger.groupMaxEnergy
  sorted : photon.hits.Pairwise fun left right => right.1.energy ≤ left.1.energy
  joined : ∃ seed ∈ photon.hits, ∀ hit ∈ photon.hits, hit ≠ seed → joins trigger seed hit

theorem passes_within (photon : GammaPhoton Number) (group : List (HitRef Number))
    (photonOf : PhotonOf photon group) (passed : passes trigger group = true)
    (form : ∃ seed others, group = seed :: others ∧ ∀ other ∈ others, joins trigger seed other) :
    Within trigger photon := by
  obtain ⟨seed, others, rfl, joined⟩ := form
  obtain ⟨first, head, _, energy, _⟩ := photonOf.first
  have size := photonOf.hits.length_eq
  simp only [passes, Bool.not_eq_true', Bool.or_eq_false_iff] at passed
  obtain ⟨⟨⟨many, few⟩, low⟩, high⟩ := passed
  have short : (seed :: others).length ≤ trigger.groupMaxHits := by
    rw [tooMany, decide_eq_false_iff_not] at many
    omega
  have all : kept trigger (seed :: others) = seed :: others := List.take_of_length_le short
  rw [tooFew, many, Bool.not_false, Bool.true_and, decide_eq_false_iff_not] at few
  rw [tooLow, all, List.all_eq_false] at low
  rw [tooHigh, all, List.any_eq_false] at high
  have inside : first ∈ photon.hits := List.mem_of_mem_head? head
  have highest : ∀ hit ∈ photon.hits, hit.1.energy ≤ first.1.energy := by
    refine highest_first photon.hits (photonOf.sorted.imp fun ordered => ?_) first head
    simp only [lessEnergy, decide_eq_true_eq, not_lt]
    exact ordered
  refine ⟨by omega, by omega, ?_, ?_, photonOf.sorted, ?_⟩
  · obtain ⟨hit, member, reaches⟩ := low
    rw [decide_eq_true_eq, not_lt] at reaches
    rw [energy]
    exact reaches.trans (highest hit (photonOf.hits.mem_iff.mpr member))
  · have top := high first (photonOf.hits.mem_iff.mp inside)
    rw [decide_eq_true_eq, not_lt] at top
    rw [energy]
    exact top
  · refine ⟨seed, photonOf.hits.mem_iff.mpr List.mem_cons_self, fun hit member apart => ?_⟩
    rcases List.mem_cons.mp (photonOf.hits.mem_iff.mp member) with same | other
    · exact absurd same apart
    · exact joined hit other

/-- No hit is in two photons, and each photon is within all the limits. -/
theorem photons_within (counters after : Counters) (inBuffer : List (Hit Number))
    (photons : List (GammaPhoton Number))
    (handled : handleEvents trigger counters inBuffer = some (after, photons)) :
    (photons.flatMap GammaPhoton.hits).Nodup ∧
      (∀ hit ∈ photons.flatMap GammaPhoton.hits, hit ∈ validHits inBuffer) ∧
      ∀ photon ∈ photons, Within trigger photon := by
  obtain ⟨after', photons', found, _, photonsOf⟩ :=
    handle_with_groups trigger (tooLate trigger) (joins trigger) counters inBuffer
  obtain ⟨rfl, rfl⟩ := Prod.mk.inj (Option.some.inj (handled.symm.trans found))
  have whole := groups_perm (tooLate trigger) (joins trigger) (validHits inBuffer)
  have form := groups_form (tooLate trigger) (joins trigger) (validHits inBuffer)
  have perm := made_hits photonsOf
  have some' := List.Sublist.flatten (List.filter_sublist (p := passes trigger)
    (l := groupsOf (tooLate trigger) (joins trigger) inBuffer))
  have distinct : (validHits inBuffer).Nodup :=
    (List.Nodup.of_map Prod.snd (places_nodup inBuffer)).filter _
  refine ⟨?_, ?_, ?_⟩
  · exact perm.nodup_iff.mpr (some'.nodup (whole.nodup_iff.mpr distinct))
  · exact fun hit member => whole.mem_iff.mp (some'.subset (perm.mem_iff.mp member))
  · intro photon member
    obtain ⟨group, listed, photonOf⟩ := made_group photonsOf photon member
    obtain ⟨inside, passed⟩ := List.mem_filter.mp listed
    obtain ⟨seed, others, same, _, joined⟩ := form group inside
    exact passes_within trigger photon group photonOf passed ⟨seed, others, same, joined⟩

def sampleTrigger : SoftwareTrigger ℚ :=
  { groupMaxHits := 2
    groupMinHits := 1
    groupMinEnergy := 1
    groupMaxEnergy := 100
    groupMaxDistance := 3
    groupTimeWindow := 5
    coincidenceTimeWindow := 4
    maps := ⟨fun _ => true, fun _ => true⟩
    positive := by decide
    fits := by decide }

def sampleHit (time energy : ℚ) (region : Region) : Hit ℚ :=
  { valid := true, time := time, energy := energy, region := region, x := 0, y := 0, z := 0 }

def noCounters : Counters := ⟨0, 0, 0, fun _ => 0, 0, 0, 0, 0, 0⟩

/-- Two hits are one photon, a third is too late for it. -/
def sampleBuffer : List (Hit ℚ) :=
  [sampleHit 0 4 ⟨1, by decide⟩, sampleHit 2 8 ⟨1, by decide⟩, sampleHit 9 3 ⟨2, by decide⟩]

theorem photons_within_sample :
    ∃ after photons, handleEvents sampleTrigger noCounters sampleBuffer = some (after, photons) ∧
      photons.map (fun photon => photon.hits.length) = [2, 1] ∧
      (photons.flatMap GammaPhoton.hits).Nodup ∧
      (∀ hit ∈ photons.flatMap GammaPhoton.hits, hit ∈ validHits sampleBuffer) ∧
      ∀ photon ∈ photons, Within sampleTrigger photon := by
  have made : (handleEvents sampleTrigger noCounters sampleBuffer).map
      (fun result => result.2.map fun photon => photon.hits.length) = some [2, 1] := by
    decide +kernel
  obtain ⟨⟨after, photons⟩, handled, sizes⟩ := Option.map_eq_some_iff.mp made
  exact ⟨after, photons, handled, sizes,
    photons_within sampleTrigger noCounters after sampleBuffer photons handled⟩

theorem joins_near (hit hit2 : HitRef Number) (joined : joins trigger hit hit2 = true) :
    |hit.1.time - hit2.1.time| ≤ trigger.groupTimeWindow := by
  simp only [joins, Bool.and_eq_true, Bool.not_eq_true', decide_eq_false_iff_not, not_lt] at joined
  exact joined.1.2

variable [IsStrictOrderedRing Number]

/-- On hits that are sorted up to `MAX_UNORDER` the `break` changes nothing. -/
theorem break_harmless (counters : Counters) (inBuffer : List (Hit Number))
    (misordered : Misordered (fun hit : HitRef Number => hit.1.time) maxUnorder
      (validHits inBuffer)) :
    handleEvents trigger counters inBuffer =
      handleWith trigger (fun _ _ => false) (joins trigger) counters inBuffer := by
  have positive : (0 : Number) ≤ maxUnorder := by
    unfold maxUnorder
    norm_num
  have start : remaining (fun _ => false) inBuffer.zipIdx = validHits inBuffer :=
    List.filter_congr fun hit _ => by rw [Bool.not_false, Bool.and_true]
  have same := window_groups (fun hit : HitRef Number => hit.1.time) trigger.groupTimeWindow
    maxUnorder (joins trigger) (joins_near trigger) positive (validHits inBuffer) misordered
  rw [handleEvents, handleWith, handleWith,
    group_hits_groups trigger _ _ _ (places_nodup inBuffer),
    group_hits_groups trigger _ _ _ (places_nodup inBuffer), start]
  exact congrArg (fun found => Option.map _ (Option.map _ (List.foldlM _ _ found))) same

end Events

end GramsTof.SimpleGrouper
