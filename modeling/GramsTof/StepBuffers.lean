import GramsTof.RawRoundTrip

/-!
How many buffers `processStep` fills from a range of the data file, whatever
frames are in it: as many as their sizes and IDs ask for.
-/

namespace GramsTof.StepBuffers

open RawFrame RawReader RawRoundTrip

/-- The frames in a range of the data file, from their headers; every one has
two words or more, which bounds the first argument. -/
def framesFrom (file : List Word) (stepEnd : Nat) : Nat → Nat → List (List Word)
  | 0, _ => []
  | fuel + 1, position =>
      if position < stepEnd then
        let n := getNEvents ((file.drop position).take 2)
        (file.drop position).take (2 + n) :: framesFrom file stepEnd fuel (position + 2 + n)
      else []

end GramsTof.StepBuffers
