import GramsTof.SimpleGrouper

/-!
`CoincidenceGrouper::handleEvents`: photons that are in time with each other are
prompts. A photon stands with its place in the buffer, for the pointer to it.
-/

namespace GramsTof.CoincidenceGrouper

open TriggerMap WindowScan SimpleGrouper

variable {Number : Type}

abbrev PhotonRef (Number : Type) : Type := GammaPhoton Number × Nat

structure Coincidence (Number : Type) where
  photon0 : PhotonRef Number
  photon1 : PhotonRef Number
  deriving DecidableEq

def isCoincidenceAllowed (trigger : SoftwareTrigger Number) (r1 r2 : Region) : Bool :=
  trigger.maps.isCoincidenceAllowed r1 r2 == some true

/-- The photon of the higher region comes first. -/
def coincidenceOf (photon1 photon2 : PhotonRef Number) : Coincidence Number :=
  let first1 := decide (photon1.1.region.val > photon2.1.region.val)
  { photon0 := if first1 then photon1 else photon2
    photon1 := if first1 then photon2 else photon1 }

/-- A prompt is made of the two photons, so it tells where they were. -/
theorem coincidence_places (photon1 photon2 : PhotonRef Number) :
    s((coincidenceOf photon1 photon2).photon0, (coincidenceOf photon1 photon2).photon1) =
      s(photon1, photon2) := by
  unfold coincidenceOf
  dsimp only
  split_ifs
  · rfl
  · exact Sym2.eq_swap

theorem coincidence_ordered (photon1 photon2 : PhotonRef Number) :
    (coincidenceOf photon1 photon2).photon1.1.region ≤
      (coincidenceOf photon1 photon2).photon0.1.region := by
  unfold coincidenceOf
  dsimp only
  split_ifs with first
  · exact (of_decide_eq_true first).le
  · exact not_lt.mp fun higher => first (decide_eq_true higher)

theorem places_ordered (inBuffer : List (GammaPhoton Number)) (photon1 photon2 : PhotonRef Number)
    (inside : [photon1, photon2].Sublist inBuffer.zipIdx) : photon1.2 < photon2.2 := by
  have places := inside.map Prod.snd
  rw [List.zipIdx_map_snd] at places
  have sorted : (List.range' 0 inBuffer.length).Pairwise (· < ·) := List.pairwise_lt_range'
  exact List.rel_of_pairwise_cons (sorted.sublist places) (List.mem_singleton.mpr rfl)

theorem coincidence_injective (inBuffer : List (GammaPhoton Number))
    (photon1 photon2 other1 other2 : PhotonRef Number)
    (inside : [photon1, photon2].Sublist inBuffer.zipIdx)
    (inside' : [other1, other2].Sublist inBuffer.zipIdx)
    (same : coincidenceOf photon1 photon2 = coincidenceOf other1 other2) :
    photon1 = other1 ∧ photon2 = other2 := by
  have ordered := places_ordered inBuffer photon1 photon2 inside
  have ordered' := places_ordered inBuffer other1 other2 inside'
  have pair := coincidence_places photon1 photon2
  rw [same, coincidence_places] at pair
  rcases Sym2.eq_iff.mp pair.symm with straight | ⟨rfl, rfl⟩
  · exact straight
  · exact absurd ordered (Nat.lt_asymm ordered')

section Loops
variable [Field Number] [LinearOrder Number] (trigger : SoftwareTrigger Number)

def tooLate (photon1 photon2 : PhotonRef Number) : Bool :=
  decide (photon2.1.time - photon1.1.time > trigger.coincidenceTimeWindow + maxUnorder)

/-- The inner loop. `stops` is the test in front of its `break`. -/
def partners (stops : PhotonRef Number → Bool) (photon1 : PhotonRef Number) :
    List (PhotonRef Number) → List (Coincidence Number)
  | [] => []
  | photon2 :: rest =>
      if stops photon2 then []
      else if !isCoincidenceAllowed trigger photon1.1.region photon2.1.region then
        partners stops photon1 rest
      else if |photon1.1.time - photon2.1.time| ≤ trigger.coincidenceTimeWindow then
        coincidenceOf photon1 photon2 :: partners stops photon1 rest
      else partners stops photon1 rest

def prompts (stops : PhotonRef Number → PhotonRef Number → Bool) :
    List (PhotonRef Number) → List (Coincidence Number)
  | [] => []
  | photon1 :: rest => partners trigger (stops photon1) photon1 rest ++ prompts stops rest

def handleWith (stops : PhotonRef Number → PhotonRef Number → Bool) (nPrompts : UInt64)
    (inBuffer : List (GammaPhoton Number)) : UInt64 × List (Coincidence Number) :=
  let outBuffer := prompts trigger stops inBuffer.zipIdx
  (nPrompts + UInt64.ofNat outBuffer.length, outBuffer)

def handleEvents : UInt64 → List (GammaPhoton Number) → UInt64 × List (Coincidence Number) :=
  handleWith trigger (tooLate trigger)

/-! Which pairs are prompts -/

def inTime (photon1 photon2 : PhotonRef Number) : Bool :=
  isCoincidenceAllowed trigger photon1.1.region photon2.1.region &&
    decide (|photon1.1.time - photon2.1.time| ≤ trigger.coincidenceTimeWindow)

theorem partners_scan (stops : PhotonRef Number → Bool) (photon1 : PhotonRef Number)
    (rest : List (PhotonRef Number)) :
    partners trigger stops photon1 rest =
      (scan stops (inTime trigger photon1) rest).1.map (coincidenceOf photon1) := by
  induction rest with
  | nil => rfl
  | cons photon2 rest ih =>
      unfold partners scan
      by_cases stopped : stops photon2 = true
      · rw [if_pos stopped, if_pos stopped]
        rfl
      · rw [if_neg stopped, if_neg stopped]
        cases allowed : isCoincidenceAllowed trigger photon1.1.region photon2.1.region with
        | false =>
            rw [if_pos (by simp), if_neg (by simp [inTime, allowed]), ih]
        | true =>
            rw [if_neg (by simp)]
            by_cases near : |photon1.1.time - photon2.1.time| ≤ trigger.coincidenceTimeWindow
            · rw [if_pos near, if_pos (by simp [inTime, allowed, near]), ih]
              rfl
            · rw [if_neg near, if_neg (by simp [inTime, allowed, near]), ih]

theorem prompts_pairs (stops : PhotonRef Number → PhotonRef Number → Bool)
    (photons : List (PhotonRef Number)) :
    prompts trigger stops photons =
      (pairs stops (inTime trigger) photons).map fun pair => coincidenceOf pair.1 pair.2 := by
  induction photons with
  | nil => rfl
  | cons photon1 rest ih =>
      rw [prompts, pairs, List.map_append, ih, partners_scan, List.map_map]
      rfl

/-- What is reported are pairs of photons in time, each once. -/
theorem prompts_sound (nPrompts : UInt64) (inBuffer : List (GammaPhoton Number)) :
    (handleEvents trigger nPrompts inBuffer).1 =
        nPrompts + UInt64.ofNat (handleEvents trigger nPrompts inBuffer).2.length ∧
      (handleEvents trigger nPrompts inBuffer).2.Nodup ∧
      ∀ coincidence ∈ (handleEvents trigger nPrompts inBuffer).2, ∃ photon1 photon2,
        [photon1, photon2].Sublist inBuffer.zipIdx ∧ inTime trigger photon1 photon2 = true ∧
          coincidence = coincidenceOf photon1 photon2 := by
  have made : (handleEvents trigger nPrompts inBuffer).2 =
      (pairs (tooLate trigger) (inTime trigger) inBuffer.zipIdx).map fun pair =>
        coincidenceOf pair.1 pair.2 := prompts_pairs trigger _ _
  have distinct : inBuffer.zipIdx.Nodup := by
    refine List.Nodup.of_map Prod.snd ?_
    rw [List.zipIdx_map_snd]
    exact List.nodup_range'
  refine ⟨rfl, ?_, ?_⟩
  · rw [made]
    refine List.Nodup.map_on ?_ (pairs_nodup _ _ _ distinct)
    rintro ⟨first, second⟩ member ⟨first', second'⟩ member' same
    obtain ⟨rfl, rfl⟩ := coincidence_injective inBuffer _ _ _ _
      (pairs_sound _ _ _ _ _ member).1 (pairs_sound _ _ _ _ _ member').1 same
    rfl
  · intro coincidence member
    rw [made] at member
    obtain ⟨⟨first, second⟩, listed, rfl⟩ := List.mem_map.mp member
    obtain ⟨inside, accepted⟩ := pairs_sound _ _ _ _ _ listed
    exact ⟨first, second, inside, accepted, rfl⟩

variable [IsStrictOrderedRing Number]

/-- On photons that are sorted up to `MAX_UNORDER` the `break` changes nothing. -/
theorem break_harmless (nPrompts : UInt64) (inBuffer : List (GammaPhoton Number))
    (misordered : Misordered (fun photon : PhotonRef Number => photon.1.time) maxUnorder
      inBuffer.zipIdx) :
    handleEvents trigger nPrompts inBuffer =
      handleWith trigger (fun _ _ => false) nPrompts inBuffer := by
  have positive : (0 : Number) ≤ maxUnorder := by
    unfold maxUnorder
    norm_num
  have near (first second : PhotonRef Number) (accepted : inTime trigger first second = true) :
      |first.1.time - second.1.time| ≤ trigger.coincidenceTimeWindow := by
    simp only [inTime, Bool.and_eq_true, decide_eq_true_eq] at accepted
    exact accepted.2
  have same := window_pairs (fun photon : PhotonRef Number => photon.1.time)
    trigger.coincidenceTimeWindow maxUnorder (inTime trigger) near positive inBuffer.zipIdx misordered
  rw [handleEvents, handleWith, handleWith, prompts_pairs, prompts_pairs, ← same]
  rfl

/-- Then all pairs of photons in time are reported. -/
theorem prompts_complete (nPrompts : UInt64) (inBuffer : List (GammaPhoton Number))
    (misordered : Misordered (fun photon : PhotonRef Number => photon.1.time) maxUnorder
      inBuffer.zipIdx)
    (photon1 photon2 : PhotonRef Number) (inside : [photon1, photon2].Sublist inBuffer.zipIdx)
    (together : inTime trigger photon1 photon2 = true) :
    coincidenceOf photon1 photon2 ∈ (handleEvents trigger nPrompts inBuffer).2 := by
  rw [break_harmless trigger nPrompts inBuffer misordered]
  show _ ∈ prompts trigger (fun _ _ => false) inBuffer.zipIdx
  rw [prompts_pairs]
  exact List.mem_map.mpr ⟨(photon1, photon2),
    (mem_pairs_endless _ _ _ _).mpr ⟨inside, together⟩, rfl⟩

end Loops

def samplePhoton (time : ℚ) (region : Region) : GammaPhoton ℚ :=
  { time := time, energy := 5, region := region, x := 0, y := 0, z := 0, hits := [] }

theorem region_one : (1 : Int) < (maxTriggerRegions : Int) := by decide

theorem region_two : (2 : Int) < (maxTriggerRegions : Int) := by decide

/-- Two pairs, in each of which the later photon stands first; the search for the
first photon breaks at the second pair. -/
def samplePhotons : List (GammaPhoton ℚ) :=
  [samplePhoton 7 ⟨1, region_one⟩, samplePhoton 4 ⟨2, region_two⟩,
    samplePhoton 90 ⟨1, region_one⟩, samplePhoton 88 ⟨2, region_two⟩]

theorem prompts_complete_sample :
    tooLate sampleTrigger (samplePhoton 7 ⟨1, region_one⟩, 0) (samplePhoton 90 ⟨1, region_one⟩, 2) =
        true ∧
      coincidenceOf (samplePhoton 7 ⟨1, region_one⟩, 0) (samplePhoton 4 ⟨2, region_two⟩, 1) ∈
        (handleEvents sampleTrigger 0 samplePhotons).2 ∧
      coincidenceOf (samplePhoton 90 ⟨1, region_one⟩, 2) (samplePhoton 88 ⟨2, region_two⟩, 3) ∈
        (handleEvents sampleTrigger 0 samplePhotons).2 := by
  have misordered : Misordered (fun photon : PhotonRef ℚ => photon.1.time) maxUnorder
      samplePhotons.zipIdx := by
    unfold Misordered
    decide +kernel
  refine ⟨by decide +kernel, ?_, ?_⟩
  · exact prompts_complete sampleTrigger 0 samplePhotons misordered _ _
      (.cons_cons _ (.cons_cons _ (List.nil_sublist _))) (by decide +kernel)
  · exact prompts_complete sampleTrigger 0 samplePhotons misordered _ _
      (.cons _ (.cons _ (.refl _))) (by decide +kernel)

end GramsTof.CoincidenceGrouper
