import GramsTof.CoincidenceGrouper
import GramsTof.ProcessHit

/-!
`CoarseSorter::handleEvents` and what its order is worth behind `ProcessHit`: the
groupers end their searches at `MAX_UNORDER`, although they are given hits in the
order of their raw times.
-/

namespace GramsTof.HitChain

open WindowScan SimpleGrouper

/-- `std::sort`, which is not stable: any sorted permutation may come out. -/
structure StdSort (Entry : Type) (time : Entry → Int) where
  sort : List Entry → List Entry
  perm : ∀ entries, (sort entries).Perm entries
  sorted : ∀ entries, (sort entries).Pairwise fun left right => time left ≤ time right

section CoarseSorter
variable (std : StdSort ProcessHit.RawHit ProcessHit.RawHit.time)

/-- The size of the buffer is cut off to an `unsigned`. -/
def coarseSorted (inBuffer : ProcessHit.EventBuffer) : List ProcessHit.RawHit :=
  std.sort (inBuffer.hits.take (inBuffer.hits.length % 2 ^ 32))

theorem sorted_used (inBuffer : ProcessHit.EventBuffer) :
    (coarseSorted std inBuffer).length < 2 ^ 64 := by
  rw [coarseSorted, (std.perm _).length_eq]
  exact (List.length_take_le' _ _).trans_lt inBuffer.used

def handleSorter (nSingleRead : UInt64) (inBuffer : ProcessHit.EventBuffer) :
    UInt64 × ProcessHit.EventBuffer :=
  (nSingleRead + UInt64.ofNat (coarseSorted std inBuffer).length,
    ⟨coarseSorted std inBuffer, sorted_used std inBuffer⟩)

end CoarseSorter

variable {Number : Type}

structure Measured (Number : Type) where
  time : Number
  timeEnd : Number
  energy : Number
  deriving DecidableEq

/-- The hit that the groupers see; a region beyond their maps is not one. -/
def seen (hit : ProcessHit.Hit Number (Measured Number)) : Option (Hit Number) :=
  if inside : hit.region < (TriggerMap.maxTriggerRegions : Int) then
    some
      { valid := true
        time := hit.measured.time
        energy := hit.measured.energy
        region := ⟨hit.region, inside⟩
        x := hit.x
        y := hit.y
        z := hit.z }
  else none

theorem seen_times (outBuffer : List (ProcessHit.Hit Number (Measured Number)))
    (inBuffer : List (Hit Number)) (saw : outBuffer.mapM seen = some inBuffer) :
    inBuffer.map Hit.time = outBuffer.map fun hit => hit.measured.time := by
  induction outBuffer generalizing inBuffer with
  | nil =>
      cases saw
      rfl
  | cons hit rest ih =>
      rw [List.mapM_cons] at saw
      obtain ⟨first, here, saw⟩ := Option.bind_eq_some_iff.mp saw
      obtain ⟨others, there, made⟩ := Option.bind_eq_some_iff.mp saw
      cases made
      unfold seen at here
      split_ifs at here
      cases here
      rw [List.map_cons, List.map_cons, ih others there]

section Raw
variable [Zero Number] (arithmetic : ProcessHit.Arithmetic Number (Measured Number))
variable (triggerID : Int) (config : ConfigTables.SystemConfig Number)

theorem sent_sublist (before after : ProcessHit.Counters) (inBuffer : ProcessHit.EventBuffer)
    (outBuffer : List (ProcessHit.Hit Number (Measured Number)))
    (handled : ProcessHit.handleEvents arithmetic triggerID config before inBuffer =
      some (after, outBuffer)) :
    (outBuffer.map ProcessHit.Hit.raw).Sublist inBuffer.hits := by
  unfold ProcessHit.handleEvents at handled
  dsimp only at handled
  split_ifs at handled
  obtain ⟨progress, ran, made⟩ := Option.map_eq_some_iff.mp handled
  cases made
  have inside := ProcessHit.loop_inBounds arithmetic triggerID config _ _ _ ran
  obtain ⟨other, again, tally⟩ := ProcessHit.loop_tally arithmetic triggerID config _ inside
  cases ran.symm.trans again
  rw [tally.output]
  exact List.filter_sublist.trans (List.take_sublist _ _)

end Raw

section Order
variable [Field Number] [LinearOrder Number]

theorem seen_misordered (slack : Number) (outBuffer : List (ProcessHit.Hit Number (Measured Number)))
    (inBuffer : List (Hit Number)) (saw : outBuffer.mapM seen = some inBuffer)
    (misordered : Misordered (fun hit : ProcessHit.Hit Number (Measured Number) => hit.measured.time)
      slack outBuffer) :
    Misordered (fun hit : HitRef Number => hit.1.time) slack (validHits inBuffer) := by
  have times : (inBuffer.map Hit.time).Pairwise fun left right => left ≤ right + slack := by
    rw [seen_times outBuffer inBuffer saw]
    exact List.pairwise_map.mpr misordered
  have refs : (inBuffer.zipIdx.map Prod.fst).Pairwise fun left right =>
      left.time ≤ right.time + slack := by
    rw [List.zipIdx_map_fst]
    exact List.pairwise_map.mp times
  exact List.Pairwise.sublist List.filter_sublist (List.pairwise_map.mp refs)

variable [IsStrictOrderedRing Number]

/-- Hits in the order of raw times are misordered by at most the sum of what two
calibrations move a time. -/
theorem sent_misordered (drift : Number)
    (outBuffer : List (ProcessHit.Hit Number (Measured Number)))
    (sorted : (outBuffer.map ProcessHit.Hit.raw).Pairwise fun left right => left.time ≤ right.time)
    (near : ∀ hit ∈ outBuffer, |hit.measured.time - (hit.raw.time : Number)| ≤ drift) :
    Misordered (fun hit : ProcessHit.Hit Number (Measured Number) => hit.measured.time)
      (drift + drift) outBuffer := by
  refine misordered_of_sorted _ (fun hit => (hit.raw.time : Number)) drift outBuffer ?_ near
  rw [List.pairwise_map] at sorted
  exact sorted.imp Int.cast_le.mpr

end Order

section Photons
variable [Field Number] [LinearOrder Number]

/-- The time of a photon is that of a hit of its group. -/
theorem photons_pairwise (slack : Number) (photons : List (GammaPhoton Number))
    (groups : List (List (HitRef Number))) (photonsOf : List.Forall₂ PhotonOf photons groups)
    (ordered : groups.Pairwise fun left right =>
      ∀ first ∈ left, ∀ second ∈ right, first.1.time ≤ second.1.time + slack) :
    photons.Pairwise fun left right => left.time ≤ right.time + slack := by
  have member (photon : GammaPhoton Number) (group : List (HitRef Number))
      (photonOf : PhotonOf photon group) : ∃ hit ∈ group, photon.time = hit.1.time := by
    obtain ⟨first, head, time, _⟩ := photonOf.first
    exact ⟨first, photonOf.hits.mem_iff.mp (List.mem_of_mem_head? head), time⟩
  induction photonsOf with
  | nil => exact .nil
  | cons photonOf others ih =>
      obtain ⟨ahead, behind⟩ := List.pairwise_cons.mp ordered
      refine List.pairwise_cons.mpr ⟨fun photon listed => ?_, ih behind⟩
      obtain ⟨group, inside, made⟩ := made_group others photon listed
      obtain ⟨first, inFirst, time⟩ := member _ _ photonOf
      obtain ⟨second, inSecond, time'⟩ := member _ _ made
      rw [time, time']
      exact ahead group inside first inFirst second inSecond

variable [IsStrictOrderedRing Number] (trigger : SoftwareTrigger Number)

/-- Photons are misordered by two windows more than the hits. -/
theorem photons_misordered (slack : Number) (wide : 0 ≤ trigger.groupTimeWindow)
    (counters after : SimpleGrouper.Counters) (inBuffer : List (Hit Number))
    (photons : List (GammaPhoton Number))
    (handled : SimpleGrouper.handleEvents trigger counters inBuffer = some (after, photons))
    (misordered : Misordered (fun hit : HitRef Number => hit.1.time) slack (validHits inBuffer)) :
    Misordered (fun photon : CoincidenceGrouper.PhotonRef Number => photon.1.time)
      (slack + (trigger.groupTimeWindow + trigger.groupTimeWindow)) photons.zipIdx := by
  obtain ⟨after', photons', found, _, photonsOf⟩ :=
    handle_with_groups trigger (tooLate trigger) (joins trigger) counters inBuffer
  obtain ⟨rfl, rfl⟩ := Prod.mk.inj (Option.some.inj (handled.symm.trans found))
  have ordered := groups_misordered (fun hit : HitRef Number => hit.1.time) trigger.groupTimeWindow
    slack (joins trigger) (joins_near trigger) (tooLate trigger) wide _ misordered
  have times := photons_pairwise _ photons _ photonsOf
    (List.Pairwise.sublist List.filter_sublist ordered)
  have refs : (photons.zipIdx.map Prod.fst).Pairwise fun left right => left.time ≤ right.time +
      (slack + (trigger.groupTimeWindow + trigger.groupTimeWindow)) := by
    rw [List.zipIdx_map_fst]
    exact times
  exact List.pairwise_map.mp refs

def groupWith (stops : HitRef Number → HitRef Number → Bool)
    (stops' : CoincidenceGrouper.PhotonRef Number → CoincidenceGrouper.PhotonRef Number → Bool)
    (counters : SimpleGrouper.Counters) (nPrompts : UInt64) (inBuffer : List (Hit Number)) :
    Option (SimpleGrouper.Counters × UInt64 × List (CoincidenceGrouper.Coincidence Number)) :=
  (SimpleGrouper.handleWith trigger stops (joins trigger) counters inBuffer).map fun (after, photons) =>
    (after, CoincidenceGrouper.handleWith trigger stops' nPrompts photons)

/-- Behind the sorter and the calibration, no search of the groupers ends early: it
takes that no calibration moves a time too far for `MAX_UNORDER`. -/
theorem sorted_hits_found (std : StdSort ProcessHit.RawHit ProcessHit.RawHit.time)
    (arithmetic : ProcessHit.Arithmetic Number (Measured Number)) (triggerID : Int)
    (config : ConfigTables.SystemConfig Number) (before after : ProcessHit.Counters)
    (nSingleRead : UInt64) (buffer : ProcessHit.EventBuffer)
    (hits : List (ProcessHit.Hit Number (Measured Number))) (inBuffer : List (Hit Number))
    (drift : Number) (wide : 0 ≤ trigger.groupTimeWindow)
    (handled : ProcessHit.handleEvents arithmetic triggerID config before
      (handleSorter std nSingleRead buffer).2 = some (after, hits))
    (saw : hits.mapM seen = some inBuffer)
    (near : ∀ hit ∈ hits, |hit.measured.time - (hit.raw.time : Number)| ≤ drift)
    (small : drift + drift + (trigger.groupTimeWindow + trigger.groupTimeWindow) ≤ maxUnorder)
    (counters : SimpleGrouper.Counters) (nPrompts : UInt64) :
    groupWith trigger (tooLate trigger) (CoincidenceGrouper.tooLate trigger) counters nPrompts
        inBuffer =
      groupWith trigger (fun _ _ => false) (fun _ _ => false) counters nPrompts inBuffer := by
  have sorted : (hits.map ProcessHit.Hit.raw).Pairwise fun left right => left.time ≤ right.time :=
    List.Pairwise.sublist (sent_sublist arithmetic triggerID config before after _ hits handled)
      (std.sorted _)
  have misordered := seen_misordered _ hits inBuffer saw (sent_misordered drift hits sorted near)
  have room : drift + drift ≤ maxUnorder :=
    (le_add_of_nonneg_right (add_nonneg wide wide)).trans small
  have photons := SimpleGrouper.break_harmless trigger counters inBuffer
    (misordered.widen _ room)
  obtain ⟨after', found, done, _⟩ :=
    handle_with_groups trigger (tooLate trigger) (joins trigger) counters inBuffer
  have ordered := photons_misordered trigger _ wide counters after' inBuffer found done misordered
  have prompts := CoincidenceGrouper.break_harmless trigger nPrompts found
    (ordered.widen _ small)
  rw [groupWith, groupWith, ← photons, SimpleGrouper.handleEvents, done, Option.map_some,
    Option.map_some]
  exact congrArg (fun made => some (after', made)) prompts

end Photons

def insertionSorter : StdSort ProcessHit.RawHit ProcessHit.RawHit.time where
  sort := List.insertionSort fun left right => left.time ≤ right.time
  perm := List.perm_insertionSort _
  sorted := by
    intro entries
    have total : Std.Total fun left right : ProcessHit.RawHit => left.time ≤ right.time :=
      ⟨fun left right => le_total left.time right.time⟩
    have trans : IsTrans ProcessHit.RawHit fun left right => left.time ≤ right.time :=
      ⟨fun _ _ _ => le_trans⟩
    exact List.pairwise_insertionSort _ entries

def halfClock : ProcessHit.Arithmetic ℚ (Measured ℚ) :=
  { isZero := (· == 0)
    measure := fun raw _ => ⟨raw.time - 1 / 2, raw.timeEnd, raw.efine⟩ }

def sampleRaw (time : Int) : ProcessHit.RawHit := ⟨true, true, time, 0, 0, 0, 5, 0⟩

def sampleOut (time : Int) : ProcessHit.Hit ℚ (Measured ℚ) :=
  { raw := sampleRaw time
    measured := ⟨time - 1 / 2, 0, 5⟩
    region := -1, xi := 0, yi := 0, x := 0, y := 0, z := 0 }

def sampleSeen (time : ℚ) : Hit ℚ := sampleHit (time - 1 / 2) 5 ⟨-1, by decide⟩

theorem sorted_hits_found_sample :
    groupWith sampleTrigger (tooLate sampleTrigger) (CoincidenceGrouper.tooLate sampleTrigger)
        noCounters 0 [sampleSeen 3, sampleSeen 30] =
      groupWith sampleTrigger (fun _ _ => false) (fun _ _ => false) noCounters 0
        [sampleSeen 3, sampleSeen 30] := by
  refine sorted_hits_found sampleTrigger insertionSorter halfClock (-1)
    ConfigTables.newSystemConfig ⟨0, 0, 0, 0, 0, 0, 0⟩ ⟨2, 0, 0, 0, 0, 0, 2⟩ 0
    ⟨[sampleRaw 30, sampleRaw 3], by decide⟩ [sampleOut 3, sampleOut 30] _ (1 / 2)
    (by decide +kernel) (by decide +kernel) (by decide +kernel) (by decide +kernel)
    (by decide +kernel) _ _

end GramsTof.HitChain
