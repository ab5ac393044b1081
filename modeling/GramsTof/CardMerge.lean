import GramsTof.DmaBuffers
import GramsTof.MergeJoin
import Mathlib.Data.List.ReduceOption

/-!
`DAQFrameServer::doWork`: the worker that puts the frames of one DAQ card, or of two,
into the ring. Frames of two cards belong together when they have one ID; the events of
each get the number of their card. A turn of the worker's loop is a step; it ends the
run where a card returns nothing any more. Stopping the worker is left out.
-/

namespace GramsTof.CardMerge

open RawFrame DmaBuffers MergeJoin TransitionSystem

/-- What a call of `getNextFrame` returns. -/
abbrev Reply := Option (List Word)

/-- `portUp` is what `getPortUp` of each card says when the worker starts. -/
structure Server where
  portUp : List Word
  daqCardPortBits : Nat

def Server.nCards (server : Server) : Nat := server.portUp.length

def Server.activeCards (server : Server) : List Nat :=
  (List.range server.nCards).filter fun i => server.portUp.getD i 0 != 0x0

def Server.cardPrefix (server : Server) (i : Nat) : Word :=
  UInt64.ofNat i <<< UInt64.ofNat (59 + server.daqCardPortBits)

/-- The replies still to come of every card. -/
abbrev Cards := Nat → List Reply

def getNextFrame (cards : Cards) (card : Nat) : Option (Reply × Cards) :=
  match cards card with
  | [] => none
  | reply :: rest => some (reply, Function.update cards card rest)

/-- `getNextFrame` until it returns a frame. -/
def waitFrame : List Reply → Option (List Word × List Reply)
  | [] => none
  | none :: rest => waitFrame rest
  | some frame :: rest => some (frame, rest)

/-- The `do` loop: the card with the smaller ID is read on. -/
def synchronize : Nat → Cards → List Word → List Word → Option (List Word × List Word × Cards)
  | 0, _, _, _ => none
  | fuel + 1, cards, tmp0, tmp1 =>
      let frameID0 := getFrameID tmp0
      let frameID1 := getFrameID tmp1
      if frameID0 < frameID1 then
        (waitFrame (cards 0)).bind fun (tmp0, rest) =>
          synchronize fuel (Function.update cards 0 rest) tmp0 tmp1
      else if frameID1 < frameID0 then
        (waitFrame (cards 1)).bind fun (tmp1, rest) =>
          synchronize fuel (Function.update cards 1 rest) tmp0 tmp1
      else some (tmp0, tmp1, cards)

def nEvents (tmp : List Word) : Word := tmp.getD 1 0 &&& 0xFFFF

/-- The loop from `src_ptr` to `end_ptr`. -/
def tagged (cardPrefix : Word) (tmp : List Word) : List Word :=
  ((tmp.drop 2).take (nEvents tmp).toNat).map fun word => word ||| cardPrefix

def mergeFrames (prefix0 prefix1 : Word) (tmp0 tmp1 : List Word) : List Word :=
  let frameID0 := UInt64.ofNat (getFrameID tmp0)
  let events := nEvents tmp0 + nEvents tmp1
  let frameLost := (tmp0.getD 1 0 ||| tmp1.getD 1 0) &&& 0x10000 ≠ 0 ∨
    (events + 2).toNat > maxRawDataFrameSize
  if frameLost then [((2 : Word) <<< 36) ||| frameID0, 0x10000]
  else ((events + 2) <<< 36 ||| frameID0) :: events :: (tagged prefix0 tmp0 ++ tagged prefix1 tmp1)

/-- Two frames that were put together, and the `minimumFrameID` of that turn. -/
structure Merged where
  minimumFrameID : Nat
  tmp0 : List Word
  tmp1 : List Word

/-- The last two fields are history: what was put together, and the turns that ended
with a null or without a slot. -/
structure State where
  cards : Cards
  published : List (List Word)
  merged : List Merged
  missed : Nat

/-- What a turn finds: the slot at the write pointer with the words in it, unless the
ring is full. -/
structure Turn where
  dst : Option (List Word)
  minimumFrameID : Nat

/-- The tests behind which the write pointer moves. -/
def stored (minimumFrameID : Nat) (words : List Word) : Bool :=
  !(getFrameID words < minimumFrameID || getFrameLost words && getFrameID words % 128 != 0)

def publish (state : State) (minimumFrameID : Nat) (words : List Word) : State :=
  if stored minimumFrameID words then { state with published := state.published ++ [words] }
  else state

/-- A turn that ends with `continue`. -/
def State.passed (state : State) (cards : Cards) : State :=
  { state with cards := cards, missed := state.missed + 1 }

def oneCard (state : State) (turn : Turn) (card : Nat) (words : List Word → List Word) :
    Option State :=
  match getNextFrame state.cards card with
  | none => none
  | some (tmp, cards) =>
      match tmp, turn.dst with
      | some tmp, some _ =>
          some (publish { state with cards := cards } turn.minimumFrameID (words tmp))
      | _, _ => some (state.passed cards)

def twoCards (server : Server) (state : State) (turn : Turn) (card0 card1 : Nat) : Option State :=
  match getNextFrame state.cards card0 with
  | none => none
  | some (tmp0, cards) =>
      match getNextFrame cards card1 with
      | none => none
      | some (tmp1, cards) =>
          match tmp0, tmp1, turn.dst with
          | some tmp0, some tmp1, some _ =>
              match synchronize ((cards 0).length + (cards 1).length + 1) cards tmp0 tmp1 with
              | none => none
              | some (tmp0, tmp1, cards) =>
                  some (publish
                    { state with
                      cards := cards
                      merged := state.merged ++ [⟨turn.minimumFrameID, tmp0, tmp1⟩] }
                    turn.minimumFrameID
                    (mergeFrames (server.cardPrefix card0) (server.cardPrefix card1) tmp0 tmp1))
          | _, _, _ => some (state.passed cards)

def doWork (server : Server) (state : State) (turn : Turn) : Option State :=
  if server.nCards = 1 then
    oneCard state turn 0 fun tmp => tmp.take (getFrameSize tmp)
  else
    match server.activeCards with
    | [card] =>
        oneCard state turn card fun tmp =>
          tmp.getD 0 0 :: tmp.getD 1 0 :: tagged (server.cardPrefix card) tmp
    | [card0, card1] => twoCards server state turn card0 card1
    -- nothing is written to the slot
    | _ => turn.dst.map fun words => publish state turn.minimumFrameID words

def started (cards : Cards) : State :=
  { cards := cards
    published := []
    merged := []
    missed := 0 }

/-! What the loop finds -/

def frames (replies : List Reply) : List (List Word) := replies.reduceOption

theorem wait_some (replies rest : List Reply) (frame : List Word)
    (waited : waitFrame replies = some (frame, rest)) :
    frames replies = frame :: frames rest ∧ rest.length < replies.length := by
  induction replies with
  | nil => cases waited
  | cons reply others ih =>
      cases reply with
      | none =>
          obtain ⟨found, shorter⟩ := ih waited
          exact ⟨found, Nat.lt_succ_of_lt shorter⟩
      | some =>
          cases waited
          exact ⟨rfl, Nat.lt_succ_self _⟩

theorem wait_none (replies : List Reply) (waited : waitFrame replies = none) :
    frames replies = [] := by
  induction replies with
  | nil => rfl
  | cons reply others ih =>
      cases reply with
      | none => exact ih waited
      | some => cases waited

def common (cards : Cards) : List (List Word × List Word) :=
  join getFrameID getFrameID (frames (cards 0)) (frames (cards 1))

theorem synchronize_some (fuel : Nat) (cards cards' : Cards) (tmp0 tmp1 left right : List Word)
    (found : synchronize fuel cards tmp0 tmp1 = some (left, right, cards')) :
    join getFrameID getFrameID (tmp0 :: frames (cards 0)) (tmp1 :: frames (cards 1)) =
        (left, right) :: common cards' ∧
      (left :: frames (cards' 0)) <:+ (tmp0 :: frames (cards 0)) ∧
      (right :: frames (cards' 1)) <:+ (tmp1 :: frames (cards 1)) := by
  induction fuel generalizing cards tmp0 tmp1 with
  | zero => cases found
  | succ fuel ih =>
      rw [synchronize] at found
      dsimp only at found
      split_ifs at found with before after
      · obtain ⟨⟨next, rest⟩, waited, found⟩ := Option.bind_eq_some_iff.mp found
        obtain ⟨all, lefts, rights⟩ := ih _ next tmp1 found
        rw [Function.update_self, Function.update_of_ne (by decide)] at all
        rw [Function.update_self] at lefts
        rw [Function.update_of_ne (by decide)] at rights
        rw [join_left before, (wait_some _ _ _ waited).1]
        exact ⟨all, lefts.trans (List.suffix_cons _ _), rights⟩
      · obtain ⟨⟨next, rest⟩, waited, found⟩ := Option.bind_eq_some_iff.mp found
        obtain ⟨all, lefts, rights⟩ := ih _ tmp0 next found
        rw [Function.update_self, Function.update_of_ne (by decide)] at all
        rw [Function.update_of_ne (by decide)] at lefts
        rw [Function.update_self] at rights
        rw [join_right after, (wait_some _ _ _ waited).1]
        exact ⟨all, lefts, rights.trans (List.suffix_cons _ _)⟩
      · cases found
        have same := Nat.le_antisymm (Nat.not_lt.mp after) (Nat.not_lt.mp before)
        rw [join_pair same]
        exact ⟨rfl, List.suffix_rfl, List.suffix_rfl⟩

/-- There are enough turns: the loop waits only where nothing more has a partner. -/
theorem synchronize_none (fuel : Nat) (cards : Cards) (tmp0 tmp1 : List Word)
    (enough : (cards 0).length + (cards 1).length < fuel)
    (found : synchronize fuel cards tmp0 tmp1 = none) :
    join getFrameID getFrameID (tmp0 :: frames (cards 0)) (tmp1 :: frames (cards 1)) = [] := by
  induction fuel generalizing cards tmp0 tmp1 with
  | zero => omega
  | succ fuel ih =>
      rw [synchronize] at found
      dsimp only at found
      split_ifs at found with before after
      · rw [join_left before]
        cases waited : waitFrame (cards 0) with
        | none => rw [wait_none _ waited, join_no_left]
        | some next =>
            obtain ⟨next, rest⟩ := next
            obtain ⟨there, shorter⟩ := wait_some _ _ _ waited
            rw [waited, Option.bind_some] at found
            have none := ih (Function.update cards 0 rest) next tmp1
              (by rw [Function.update_self, Function.update_of_ne (by decide)]; omega) found
            rw [Function.update_self, Function.update_of_ne (by decide)] at none
            rw [there, none]
      · rw [join_right after]
        cases waited : waitFrame (cards 1) with
        | none => rw [wait_none _ waited, join_no_right]
        | some next =>
            obtain ⟨next, rest⟩ := next
            obtain ⟨there, shorter⟩ := wait_some _ _ _ waited
            rw [waited, Option.bind_some] at found
            have none := ih (Function.update cards 1 rest) tmp0 next
              (by rw [Function.update_self, Function.update_of_ne (by decide)]; omega) found
            rw [Function.update_self, Function.update_of_ne (by decide)] at none
            rw [there, none]

/-! What is put together -/

/-- What the reader of the ring relies on: the header counts the words. -/
structure WellFormed (words : List Word) : Prop where
  counted : words.length = getFrameSize words
  sized : getFrameSize words = 2 + getNEvents words
  bounded : words.length ≤ maxRawDataFrameSize

theorem n_events_checked (tmp : List Word) (checked : Checked tmp) :
    (nEvents tmp).toNat + 2 = tmp.length ∧ getNEvents tmp + 2 = tmp.length ∧
      tmp.length ≤ maxRawDataFrameSize := by
  obtain ⟨_, counted, bounded⟩ := frame_size_fields _ _ _ checked
  have events : (nEvents tmp).toNat = field (tmp.getD 1 0) 0 0xFFFF := by simp [nEvents, field]
  have wide := field_number (tmp.getD 1 0) 0 0xFFFF 16 (by decide) (by decide)
  have short := n_events_number tmp
  rw [events]
  refine ⟨counted, ?_, bounded⟩
  -- the frame is short enough for the narrower mask
  rw [wide, UInt64.toNat_zero, pow_zero, Nat.div_one] at counted
  rw [short]
  unfold maxRawDataFrameSize at bounded
  omega

theorem checked_well_formed (tmp : List Word) (checked : Checked tmp) : WellFormed tmp := by
  obtain ⟨size, _, bounded⟩ := frame_size_fields _ _ _ checked
  obtain ⟨_, events, _⟩ := n_events_checked tmp checked
  have same : getFrameSize tmp = tmp.length := size
  exact ⟨same.symm, by omega, bounded⟩

theorem tagged_length (cardPrefix : Word) (tmp : List Word) (checked : Checked tmp) :
    (tagged cardPrefix tmp).length = (nEvents tmp).toNat := by
  have counted := (n_events_checked tmp checked).1
  rw [tagged, List.length_map, List.length_take, List.length_drop]
  omega

theorem copied_well_formed (tmp : List Word) (checked : Checked tmp) :
    WellFormed (tmp.take (getFrameSize tmp)) := by
  have whole := checked_well_formed tmp checked
  rw [← whole.counted, List.take_length]
  exact whole

theorem tagged_well_formed (cardPrefix : Word) (tmp : List Word) (checked : Checked tmp) :
    WellFormed (tmp.getD 0 0 :: tmp.getD 1 0 :: tagged cardPrefix tmp) := by
  have whole := checked_well_formed tmp checked
  have counted := (n_events_checked tmp checked).1
  have length : (tmp.getD 0 0 :: tmp.getD 1 0 :: tagged cardPrefix tmp).length = tmp.length := by
    rw [List.length_cons, List.length_cons, tagged_length cardPrefix tmp checked, counted]
  exact ⟨length.trans whole.counted, whole.sized, length.trans_le whole.bounded⟩

def tooMuch (tmp0 tmp1 : List Word) : Prop :=
  (tmp0.getD 1 0 ||| tmp1.getD 1 0) &&& 0x10000 ≠ 0 ∨
    (nEvents tmp0 + nEvents tmp1 + 2).toNat > maxRawDataFrameSize

instance (tmp0 tmp1 : List Word) : Decidable (tooMuch tmp0 tmp1) := inferInstanceAs (Decidable (_ ∨ _))

structure Headed (words : List Word) (frameID events : Nat) (lost : Bool) : Prop where
  frameID : getFrameID words = frameID
  size : getFrameSize words = events + 2
  events : getNEvents words = events
  lost : getFrameLost words = lost

theorem header_fields (frameID events : Nat) (second : Word) (rest : List Word) (lost : Bool)
    (narrow : frameID < 2 ^ 36) (short : events + 2 < 2 ^ 15)
    (counts : second.toNat % 2 ^ 15 = events) (flag : (second &&& 0x18000 != 0) = lost) :
    Headed ((UInt64.ofNat (events + 2) <<< 36 ||| UInt64.ofNat frameID) :: second :: rest)
      frameID events lost := by
  have size : (UInt64.ofNat (events + 2)).toNat = events + 2 := by
    rw [UInt64.toNat_ofNat', Nat.mod_eq_of_lt (by omega)]
  have header := header_number (UInt64.ofNat (events + 2)) frameID (by rw [size]; exact short) narrow
  rw [size] at header
  refine ⟨?_, ?_, ?_, flag⟩
  · rw [frame_id_number, List.getD_cons_zero, header]
    omega
  · rw [frame_size_number, List.getD_cons_zero, header]
    omega
  · rw [n_events_number, List.getD_cons_succ, List.getD_cons_zero, counts]

theorem and_above (number width factor : Nat) (below : number < 2 ^ width) :
    number &&& 2 ^ width * factor = 0 := by
  refine Nat.eq_of_testBit_eq fun bit => ?_
  rw [Nat.testBit_and, Nat.testBit_two_pow_mul, Nat.zero_testBit]
  by_cases high : bit ≥ width
  · have clear := Nat.testBit_lt_two_pow (Nat.lt_of_lt_of_le below (Nat.pow_le_pow_right (by decide) high))
    rw [clear, Bool.false_and]
  · rw [decide_eq_false high, Bool.false_and, Bool.and_false]

theorem merge_lost (prefix0 prefix1 : Word) (tmp0 tmp1 : List Word) (lost : tooMuch tmp0 tmp1) :
    mergeFrames prefix0 prefix1 tmp0 tmp1 =
      [(UInt64.ofNat 2 <<< 36) ||| UInt64.ofNat (getFrameID tmp0), 0x10000] := by
  rw [mergeFrames]
  exact if_pos lost

theorem merge_whole (prefix0 prefix1 : Word) (tmp0 tmp1 : List Word)
    (checked0 : Checked tmp0) (checked1 : Checked tmp1) (whole : ¬ tooMuch tmp0 tmp1) :
    ∃ second : Word, second.toNat = getNEvents tmp0 + getNEvents tmp1 ∧
      getNEvents tmp0 + getNEvents tmp1 + 2 ≤ maxRawDataFrameSize ∧
      mergeFrames prefix0 prefix1 tmp0 tmp1 =
        (UInt64.ofNat (getNEvents tmp0 + getNEvents tmp1 + 2) <<< 36 |||
          UInt64.ofNat (getFrameID tmp0)) :: second ::
          (tagged prefix0 tmp0 ++ tagged prefix1 tmp1) := by
  obtain ⟨counted0, events0, bounded0⟩ := n_events_checked tmp0 checked0
  obtain ⟨counted1, events1, bounded1⟩ := n_events_checked tmp1 checked1
  unfold maxRawDataFrameSize at bounded0 bounded1
  have sum : (nEvents tmp0 + nEvents tmp1).toNat = getNEvents tmp0 + getNEvents tmp1 := by
    rw [UInt64.toNat_add, Nat.mod_eq_of_lt (by omega)]
    omega
  have size : nEvents tmp0 + nEvents tmp1 + 2 =
      UInt64.ofNat (getNEvents tmp0 + getNEvents tmp1 + 2) := by
    rw [← UInt64.toNat_inj, UInt64.toNat_add, sum, UInt64.toNat_ofNat']
    rfl
  have short : getNEvents tmp0 + getNEvents tmp1 + 2 ≤ maxRawDataFrameSize := by
    have fits := Nat.not_lt.mp (not_or.mp whole).2
    rw [size, UInt64.toNat_ofNat', Nat.mod_eq_of_lt (by omega)] at fits
    exact fits
  refine ⟨_, sum, short, ?_⟩
  rw [mergeFrames, ← size]
  exact if_neg whole

/-- The frame of the two has their ID, and the events of both unless it is lost. -/
theorem merge_headed (prefix0 prefix1 : Word) (tmp0 tmp1 : List Word)
    (checked0 : Checked tmp0) (checked1 : Checked tmp1) :
    Headed (mergeFrames prefix0 prefix1 tmp0 tmp1) (getFrameID tmp0)
      (if tooMuch tmp0 tmp1 then 0 else getNEvents tmp0 + getNEvents tmp1)
      (decide (tooMuch tmp0 tmp1)) := by
  have narrow := frame_id_bounded tmp0
  by_cases lost : tooMuch tmp0 tmp1
  · rw [if_pos lost, decide_eq_true lost, merge_lost _ _ _ _ lost]
    exact header_fields _ 0 0x10000 [] true narrow (by decide) (by decide) (by decide)
  · obtain ⟨second, sum, fits, shape⟩ := merge_whole prefix0 prefix1 tmp0 tmp1 checked0 checked1 lost
    unfold maxRawDataFrameSize at fits
    rw [if_neg lost, decide_eq_false lost, shape]
    refine header_fields _ _ second _ false narrow (by omega) ?_ ?_
    · rw [sum, Nat.mod_eq_of_lt (by omega)]
    · have nothing : second &&& 0x18000 = 0 := by
        rw [← UInt64.toNat_inj, UInt64.toNat_and]
        exact and_above second.toNat 15 3 (by omega)
      rw [nothing]
      rfl

theorem merge_well_formed (prefix0 prefix1 : Word) (tmp0 tmp1 : List Word)
    (checked0 : Checked tmp0) (checked1 : Checked tmp1) :
    WellFormed (mergeFrames prefix0 prefix1 tmp0 tmp1) := by
  have headed := merge_headed prefix0 prefix1 tmp0 tmp1 checked0 checked1
  have sized : getFrameSize (mergeFrames prefix0 prefix1 tmp0 tmp1) =
      2 + getNEvents (mergeFrames prefix0 prefix1 tmp0 tmp1) := by
    rw [headed.size, headed.events, Nat.add_comm]
  by_cases lost : tooMuch tmp0 tmp1
  · have size := headed.size
    rw [if_pos lost] at size
    have length : (mergeFrames prefix0 prefix1 tmp0 tmp1).length = 2 := by
      rw [merge_lost _ _ _ _ lost]
      rfl
    exact ⟨length.trans size.symm, sized, by rw [length]; decide⟩
  · have size := headed.size
    rw [if_neg lost] at size
    obtain ⟨second, sum, fits, shape⟩ := merge_whole prefix0 prefix1 tmp0 tmp1 checked0 checked1 lost
    have counted0 := n_events_checked tmp0 checked0
    have counted1 := n_events_checked tmp1 checked1
    have length : (mergeFrames prefix0 prefix1 tmp0 tmp1).length =
        getNEvents tmp0 + getNEvents tmp1 + 2 := by
      rw [shape, List.length_cons, List.length_cons, List.length_append,
        tagged_length prefix0 tmp0 checked0, tagged_length prefix1 tmp1 checked1]
      omega
    exact ⟨length.trans size.symm, sized, length.trans_le fits⟩

/-! What a turn can do -/

theorem next_frame (cards rest : Cards) (card : Nat) (reply : Reply)
    (read : getNextFrame cards card = some (reply, rest)) :
    frames (cards card) = reply.toList ++ frames (rest card) ∧
      ∀ other, other ≠ card → rest other = cards other := by
  unfold getNextFrame at read
  split at read
  · cases read
  · rename_i here
    cases read
    refine ⟨?_, fun other apart => Function.update_of_ne apart _ _⟩
    rw [Function.update_self, here]
    cases reply <;> rfl

theorem next_none (cards : Cards) (card : Nat) (read : getNextFrame cards card = none) :
    frames (cards card) = [] := by
  unfold getNextFrame at read
  split at read
  · rename_i here
    rw [here]
    rfl
  · cases read

theorem one_cases (state next : State) (turn : Turn) (card : Nat)
    (words : List Word → List Word) (stepped : oneCard state turn card words = some next) :
    ∃ reply cards, getNextFrame state.cards card = some (reply, cards) ∧
      (next = state.passed cards ∨ ∃ tmp, reply = some tmp ∧
        next = publish { state with cards := cards } turn.minimumFrameID (words tmp)) := by
  unfold oneCard at stepped
  split at stepped
  · cases stepped
  · rename_i reply cards read
    refine ⟨reply, cards, read, ?_⟩
    split at stepped
    · cases stepped
      exact .inr ⟨_, rfl, rfl⟩
    · cases stepped
      exact .inl rfl

section Two
variable (server : Server) (state : State) (turn : Turn)

/-- A turn of two cards that puts `left` and `right` together. -/
def joined (cards : Cards) (left right : List Word) : State :=
  publish
    { state with
      cards := cards
      merged := state.merged ++ [⟨turn.minimumFrameID, left, right⟩] }
    turn.minimumFrameID (mergeFrames (server.cardPrefix 0) (server.cardPrefix 1) left right)

theorem two_cases (next : State) (stepped : twoCards server state turn 0 1 = some next) :
    (∃ (reply0 reply1 : Reply) (cards : Cards),
        frames (state.cards 0) = reply0.toList ++ frames (cards 0) ∧
        frames (state.cards 1) = reply1.toList ++ frames (cards 1) ∧ next = state.passed cards) ∨
      ∃ left right cards, common state.cards = (left, right) :: common cards ∧
        (left :: frames (cards 0)) <:+ frames (state.cards 0) ∧
        (right :: frames (cards 1)) <:+ frames (state.cards 1) ∧
        next = joined server state turn cards left right := by
  unfold twoCards at stepped
  split at stepped
  · cases stepped
  · rename_i reply0 cards read
    obtain ⟨first, others⟩ := next_frame _ _ _ _ read
    split at stepped
    · cases stepped
    · rename_i reply1 cards' read'
      obtain ⟨second, others'⟩ := next_frame _ _ _ _ read'
      rw [← others' 0 (by decide)] at first
      rw [others 1 (by decide)] at second
      split at stepped
      · rename_i tmp0 tmp1 _ _
        split at stepped
        · cases stepped
        · rename_i left right rest found
          cases stepped
          obtain ⟨all, lefts, rights⟩ := synchronize_some _ _ _ _ _ _ _ found
          refine .inr ⟨left, right, rest, ?_, ?_, ?_, rfl⟩
          · rw [common, first, second]
            exact all
          · rw [first]
            exact lefts
          · rw [second]
            exact rights
      · cases stepped
        exact .inl ⟨_, _, cards', first, second, rfl⟩

/-- A turn waits for good only where no two frames to come have one ID. -/
theorem two_waits (stepped : twoCards server state turn 0 1 = none) :
    common state.cards = [] := by
  unfold twoCards at stepped
  split at stepped
  · rename_i read
    rw [common, next_none _ _ read, join_no_left]
  · rename_i reply0 cards read
    obtain ⟨first, others⟩ := next_frame _ _ _ _ read
    split at stepped
    · rename_i read'
      rw [common, ← others 1 (by decide), next_none _ _ read', join_no_right]
    · rename_i reply1 cards' read'
      obtain ⟨second, others'⟩ := next_frame _ _ _ _ read'
      rw [← others' 0 (by decide)] at first
      rw [others 1 (by decide)] at second
      split at stepped
      · rename_i tmp0 tmp1 _ _
        split at stepped
        · rename_i found
          rw [common, first, second]
          exact synchronize_none _ _ _ _ (Nat.lt_succ_self _) found
        · cases stepped
      · cases stepped

end Two

/-! Runs -/

theorem publish_cases (state : State) (minimumFrameID : Nat) (words : List Word) :
    (stored minimumFrameID words = true ∧ publish state minimumFrameID words =
        { state with published := state.published ++ [words] }) ∨
      (stored minimumFrameID words = false ∧ publish state minimumFrameID words = state) := by
  unfold publish
  cases kept : stored minimumFrameID words with
  | true => exact .inl ⟨rfl, rfl⟩
  | false => exact .inr ⟨rfl, rfl⟩

/-- Every frame of the first two cards has a header that counts its words. -/
def AllChecked (cards : Cards) : Prop := ∀ card < 2, ∀ frame ∈ frames (cards card), Checked frame

instance (cards : Cards) : Decidable (AllChecked cards) :=
  inferInstanceAs (Decidable (∀ card < 2, ∀ frame ∈ frames (cards card), Checked frame))

/-- What is published counts its words, and what is still to come. -/
structure Sound (state : State) : Prop where
  checked : AllChecked state.cards
  published : ∀ words ∈ state.published, WellFormed words

theorem sound_publish (state : State) (sound : Sound state) (minimumFrameID : Nat)
    (words : List Word) (formed : WellFormed words) :
    Sound (publish state minimumFrameID words) := by
  rcases publish_cases state minimumFrameID words with ⟨_, same⟩ | ⟨_, same⟩
  · rw [same]
    refine ⟨sound.checked, fun other member => ?_⟩
    rcases List.mem_append.mp member with before | last
    · exact sound.published other before
    · rw [List.mem_singleton.mp last]
      exact formed
  · rw [same]
    exact sound

theorem sound_one (state next : State) (turn : Turn) (card : Nat) (among : card < 2)
    (words : List Word → List Word) (formed : ∀ tmp, Checked tmp → WellFormed (words tmp))
    (sound : Sound state) (stepped : oneCard state turn card words = some next) : Sound next := by
  obtain ⟨reply, cards, read, outcome⟩ := one_cases state next turn card words stepped
  obtain ⟨here, others⟩ := next_frame _ _ _ _ read
  have mine := sound.checked card among
  rw [here] at mine
  have checked : AllChecked cards := by
    intro other among' frame member
    by_cases same : other = card
    · subst same
      exact mine frame (List.mem_append_right _ member)
    · rw [others other same] at member
      exact sound.checked other among' frame member
  rcases outcome with rfl | ⟨tmp, rfl, rfl⟩
  · exact ⟨checked, sound.published⟩
  · have read' : Sound { state with cards := cards } := ⟨checked, sound.published⟩
    exact sound_publish _ read' _ _ (formed tmp (mine tmp List.mem_cons_self))

theorem checked_suffix (cards rest : Cards) (checked : AllChecked cards)
    (left : frames (rest 0) <:+ frames (cards 0)) (right : frames (rest 1) <:+ frames (cards 1)) :
    AllChecked rest := by
  intro card among frame member
  rcases (show card = 0 ∨ card = 1 by omega) with rfl | rfl
  · exact checked 0 among frame (left.subset member)
  · exact checked 1 among frame (right.subset member)

theorem sound_two (server : Server) (state next : State) (turn : Turn) (sound : Sound state)
    (stepped : twoCards server state turn 0 1 = some next) : Sound next := by
  rcases two_cases server state turn next stepped with
    ⟨_, _, cards, first, second, rfl⟩ | ⟨left, right, cards, _, lefts, rights, rfl⟩
  · have checked := checked_suffix state.cards cards sound.checked ⟨_, first.symm⟩ ⟨_, second.symm⟩
    exact ⟨checked, sound.published⟩
  · have checked := checked_suffix state.cards cards sound.checked
      ((List.suffix_cons _ _).trans lefts) ((List.suffix_cons _ _).trans rights)
    have formed := merge_well_formed (server.cardPrefix 0) (server.cardPrefix 1) left right
      (sound.checked 0 (by decide) left (lefts.subset List.mem_cons_self))
      (sound.checked 1 (by decide) right (rights.subset List.mem_cons_self))
    have read' : Sound { state with
        cards := cards
        merged := state.merged ++ [⟨turn.minimumFrameID, left, right⟩] } :=
      ⟨checked, sound.published⟩
    exact sound_publish _ read' _ _ formed

/-- `daqd` takes two cards at most. -/
structure Served (server : Server) : Prop where
  few : server.nCards ≤ 2
  active : server.nCards = 1 ∨ server.activeCards ≠ []

theorem active_cards (server : Server) (few : server.nCards ≤ 2) :
    server.activeCards.Sublist [0, 1] := by
  have all : (List.range server.nCards).Sublist (List.range 2) := List.range_sublist.mpr few
  exact List.filter_sublist.trans all

theorem sound_step (server : Server) (served : Served server) (state : State) (turn : Turn)
    (next : State) (sound : Sound state) (stepped : doWork server state turn = some next) :
    Sound next := by
  unfold doWork at stepped
  split_ifs at stepped with lone
  · exact sound_one state next turn 0 (by decide) _ copied_well_formed sound stepped
  · have active := active_cards server served.few
    split at stepped
    · rename_i card same
      have member : card ∈ [0, 1] := active.subset (same ▸ List.mem_cons_self)
      have among : card < 2 := by
        simp at member
        omega
      exact sound_one state next turn card among _ (tagged_well_formed _) sound stepped
    · rename_i card0 card1 same
      rw [same] at active
      cases active.eq_of_length rfl
      exact sound_two server state next turn sound stepped
    · rename_i notOne notTwo
      have some' := served.active.resolve_left lone
      have short := active.length_le
      rcases shape : server.activeCards with _ | ⟨card0, _ | ⟨card1, _ | ⟨card2, more⟩⟩⟩
      · exact absurd shape some'
      · exact absurd shape (notOne card0)
      · exact absurd shape (notTwo card0 card1)
      · rw [shape] at short
        simp at short

theorem blocks_checked (blocks : Nat → List Block) :
    AllChecked fun card => (blocks card).flatMap outcomes := by
  intro card _ frame member
  obtain ⟨block, _, cut⟩ := List.mem_flatMap.mp (List.reduceOption_mem_iff.mp member)
  exact outcomes_checked block frame cut

/-- Whatever the blocks of the cards hold: a frame in the ring counts its words. -/
theorem published_well_formed (server : Server) (served : Served server)
    (blocks : Nat → List Block) (turns : List Turn) :
    Throughout (doWork server) (fun state => ∀ words ∈ state.published, WellFormed words)
      (started fun card => (blocks card).flatMap outcomes) turns :=
  throughout_invariant (doWork server) (fun _ sound => sound.published)
    (sound_step server served) turns _ ⟨blocks_checked blocks, fun _ member => (by cases member)⟩

def sampleServer : Server := ⟨[0x1, 0x3], 2⟩

def sampleFrame (frameID event : Word) : List Word :=
  [((1 : Word) <<< 51) ||| ((3 : Word) <<< 36) ||| frameID, 1, event]

def sampleBlock : Block := ⟨fun position => (sampleFrame 5 7).getD position 0, 3⟩

theorem published_well_formed_sample :
    Throughout (doWork sampleServer) (fun state => ∀ words ∈ state.published, WellFormed words)
      (started fun card => ((fun _ => [sampleBlock]) card).flatMap outcomes) [⟨some [], 0⟩] :=
  published_well_formed sampleServer ⟨by decide, .inr (by decide)⟩ (fun _ => [sampleBlock])
    [⟨some [], 0⟩]

/-! Two cards -/

def Merged.pair (merged : Merged) : List Word × List Word := (merged.tmp0, merged.tmp1)

def Merged.words (server : Server) (merged : Merged) : List Word :=
  mergeFrames (server.cardPrefix 0) (server.cardPrefix 1) merged.tmp0 merged.tmp1

def accepted (server : Server) (merged : List Merged) : List (List Word) :=
  (merged.filter fun turn => stored turn.minimumFrameID (turn.words server)).map
    (Merged.words server)

theorem accepted_kept (server : Server) (merged : List Merged) (last : Merged)
    (kept : stored last.minimumFrameID (last.words server) = true) :
    accepted server (merged ++ [last]) = accepted server merged ++ [last.words server] := by
  rw [accepted, List.filter_append, List.map_append, List.filter_singleton, kept]
  rfl

theorem accepted_refused (server : Server) (merged : List Merged) (last : Merged)
    (refused : stored last.minimumFrameID (last.words server) = false) :
    accepted server (merged ++ [last]) = accepted server merged := by
  rw [accepted, List.filter_append, List.map_append, List.filter_singleton, refused]
  exact List.append_nil _

structure Inv (server : Server) (start : Cards) (state : State) : Prop where
  left : Increasing getFrameID (frames (state.cards 0))
  right : Increasing getFrameID (frames (state.cards 1))
  inOrder : (state.merged.map Merged.pair ++ common state.cards).Sublist (common start)
  budget : (common start).length ≤
    state.merged.length + state.missed + (common state.cards).length
  published : state.published = accepted server state.merged

theorem inv_joined (server : Server) (start : Cards) (state : State) (turn : Turn)
    (inv : Inv server start state) (cards : Cards) (left right : List Word)
    (all : common state.cards = (left, right) :: common cards)
    (lefts : (left :: frames (cards 0)) <:+ frames (state.cards 0))
    (rights : (right :: frames (cards 1)) <:+ frames (state.cards 1)) :
    Inv server start (joined server state turn cards left right) := by
  have increasing0 : Increasing getFrameID (frames (cards 0)) :=
    (List.Pairwise.sublist lefts.sublist inv.left).of_cons
  have increasing1 : Increasing getFrameID (frames (cards 1)) :=
    (List.Pairwise.sublist rights.sublist inv.right).of_cons
  have inOrder := inv.inOrder
  have budget := inv.budget
  rw [all] at inOrder budget
  rw [List.length_cons] at budget
  have inOrder' : ((state.merged ++ [(⟨turn.minimumFrameID, left, right⟩ : Merged)]).map
      Merged.pair ++ common cards).Sublist (common start) := by
    rw [List.map_append, List.append_assoc]
    exact inOrder
  have budget' : (common start).length ≤
      (state.merged ++ [(⟨turn.minimumFrameID, left, right⟩ : Merged)]).length + state.missed +
        (common cards).length := by
    rw [List.length_append, List.length_singleton]
    omega
  rw [joined]
  rcases publish_cases
      { state with
        cards := cards
        merged := state.merged ++ [⟨turn.minimumFrameID, left, right⟩] }
      turn.minimumFrameID (mergeFrames (server.cardPrefix 0) (server.cardPrefix 1) left right) with
    ⟨kept, same⟩ | ⟨refused, same⟩
  · rw [same]
    refine ⟨increasing0, increasing1, inOrder', budget', ?_⟩
    have more := accepted_kept server state.merged ⟨turn.minimumFrameID, left, right⟩ kept
    rw [more, inv.published]
    rfl
  · rw [same]
    refine ⟨increasing0, increasing1, inOrder', budget', ?_⟩
    have more := accepted_refused server state.merged ⟨turn.minimumFrameID, left, right⟩ refused
    rw [more]
    exact inv.published

/-- A turn without a merge loses one pair at most. -/
theorem common_missed (before after : Cards) (reply0 reply1 : Reply)
    (left : Increasing getFrameID (frames (before 0)))
    (right : Increasing getFrameID (frames (before 1)))
    (first : frames (before 0) = reply0.toList ++ frames (after 0))
    (second : frames (before 1) = reply1.toList ++ frames (after 1)) :
    (common after).Sublist (common before) ∧
      (common before).length ≤ (common after).length + 1 := by
  unfold common
  rw [first] at left ⊢
  rw [second] at right ⊢
  cases reply0 with
  | none =>
      cases reply1 with
      | none => exact ⟨List.Sublist.refl _, Nat.le_succ _⟩
      | some => exact join_tail_right _ _ right
  | some =>
      cases reply1 with
      | none => exact join_tail _ _ left
      | some => exact join_tails _ _ left right

theorem work_both (server : Server) (both : server.activeCards = [0, 1]) (state : State)
    (turn : Turn) : doWork server state turn = twoCards server state turn 0 1 := by
  unfold doWork
  split_ifs with lone
  · have long : server.activeCards.length ≤ (List.range server.nCards).length :=
      List.length_filter_le _ _
    rw [both, lone] at long
    simp at long
  · rw [both]

theorem inv_step (server : Server) (both : server.activeCards = [0, 1]) (start : Cards)
    (state : State) (turn : Turn) (next : State) (inv : Inv server start state)
    (stepped : doWork server state turn = some next) : Inv server start next := by
  rw [work_both server both] at stepped
  rcases two_cases server state turn next stepped with
    ⟨reply0, reply1, cards, first, second, rfl⟩ | ⟨left, right, cards, all, lefts, rights, rfl⟩
  · have left := inv.left
    have right := inv.right
    obtain ⟨fewer, loss⟩ := common_missed state.cards cards reply0 reply1 left right first second
    have budget := inv.budget
    rw [first] at left
    rw [second] at right
    refine ⟨List.Pairwise.sublist (List.sublist_append_right _ _) left,
      List.Pairwise.sublist (List.sublist_append_right _ _) right, ?_, ?_, inv.published⟩
    · exact (fewer.append_left _).trans inv.inOrder
    · dsimp only [State.passed]
      omega
  · exact inv_joined server start state turn inv cards left right all lefts rights

structure Good (server : Server) (start : Cards) (state : State) : Prop where
  ids : Increasing getFrameID state.published
  /-- Frames are put together only with the one of their ID, and no frame twice. -/
  inOrder : (state.merged.map Merged.pair).Sublist (common start)
  published : state.published = accepted server state.merged
  /-- A turn that finds a null or a full ring loses one pair at most. -/
  budget : (common start).length ≤
    state.merged.length + state.missed + (common state.cards).length
  /-- Without such turns every two frames of one ID come together. -/
  together : state.missed = 0 → ∀ tmp0 ∈ frames (start 0), ∀ tmp1 ∈ frames (start 1),
    getFrameID tmp0 = getFrameID tmp1 →
      (tmp0, tmp1) ∈ state.merged.map Merged.pair ∨ (tmp0, tmp1) ∈ common state.cards
  /-- The worker waits for good only when no two frames of one ID are to come. -/
  waits : ∀ turn, doWork server state turn = none → common state.cards = []

theorem accepted_increasing (server : Server) (start : Cards) (checked : AllChecked start)
    (left : Increasing getFrameID (frames (start 0))) (merged : List Merged)
    (inOrder : (merged.map Merged.pair).Sublist (common start)) :
    Increasing getFrameID (accepted server merged) := by
  have pairs : Increasing (fun pair => getFrameID pair.1) (merged.map Merged.pair) :=
    List.Pairwise.sublist inOrder (join_increasing _ _ left)
  unfold Increasing at pairs ⊢
  rw [List.pairwise_map] at pairs
  rw [accepted, List.pairwise_map]
  refine (List.Pairwise.sublist List.filter_sublist pairs).imp_of_mem ?_
  intro before after member member' increases
  have headed (turn : Merged) (among : turn ∈ merged) :
      getFrameID (turn.words server) = getFrameID turn.tmp0 := by
    have pair := inOrder.subset (List.mem_map_of_mem among)
    have tmp0 := (join_firsts _ _).subset (List.mem_map_of_mem pair)
    have tmp1 := (join_seconds _ _).subset (List.mem_map_of_mem pair)
    exact (merge_headed _ _ _ _ (checked 0 (by decide) _ tmp0) (checked 1 (by decide) _ tmp1)).frameID
  rw [headed before (List.mem_filter.mp member).1, headed after (List.mem_filter.mp member').1]
  exact increases

theorem inv_good (server : Server) (both : server.activeCards = [0, 1]) (start : Cards)
    (checked : AllChecked start)
    (increasing : ∀ card < 2, Increasing getFrameID (frames (start card)))
    (state : State) (inv : Inv server start state) : Good server start state := by
  have inOrder : (state.merged.map Merged.pair).Sublist (common start) :=
    (List.sublist_append_left _ _).trans inv.inOrder
  refine
    { ids := ?_
      inOrder := inOrder
      published := inv.published
      budget := inv.budget
      together := fun none tmp0 member tmp1 member' same => ?_
      waits := fun turn stepped => ?_ }
  · rw [inv.published]
    exact accepted_increasing server start checked (increasing 0 (by decide)) state.merged inOrder
  · have budget := inv.budget
    have all : state.merged.map Merged.pair ++ common state.cards = common start := by
      refine inv.inOrder.eq_of_length_le ?_
      rw [List.length_append, List.length_map]
      omega
    have pair : (tmp0, tmp1) ∈ common start :=
      join_complete _ _ (increasing 0 (by decide)) (increasing 1 (by decide)) tmp0 tmp1 member
        member' same
    rw [← all] at pair
    exact List.mem_append.mp pair
  · rw [work_both server both] at stepped
    exact two_waits server state turn stepped

/-- The frames of two cards, whose IDs increase. -/
theorem cards_merged (server : Server) (both : server.activeCards = [0, 1]) (cards : Cards)
    (checked : AllChecked cards)
    (increasing : ∀ card < 2, Increasing getFrameID (frames (cards card))) (turns : List Turn) :
    Throughout (doWork server) (Good server cards) (started cards) turns := by
  refine throughout_invariant (doWork server) (inv_good server both cards checked increasing)
    (inv_step server both cards) turns (started cards) ?_
  exact
    { left := increasing 0 (by decide)
      right := increasing 1 (by decide)
      inOrder := List.Sublist.refl _
      budget := by
        dsimp only [started]
        omega
      published := rfl }

/-- The second card has no frame 1, and the first is slower. -/
def sampleCards : Cards := fun card =>
  if card = 0 then [some (sampleFrame 1 4), none, some (sampleFrame 2 5)]
  else [some (sampleFrame 2 6), some (sampleFrame 3 7)]

theorem cards_merged_sample :
    Throughout (doWork sampleServer) (Good sampleServer sampleCards) (started sampleCards)
      [⟨some [], 0⟩, ⟨some [], 0⟩] :=
  cards_merged sampleServer (by decide) sampleCards (by decide +kernel) (by decide +kernel)
    [⟨some [], 0⟩, ⟨some [], 0⟩]

/-! The events of the cards -/

def cardOf (server : Server) (word : Word) : Nat := word.toNat / 2 ^ (59 + server.daqCardPortBits)

def eventsOf (server : Server) (card : Nat) (words : List Word) : List Word :=
  ((words.drop 2).filter fun word => cardOf server word = card).map fun word =>
    word % UInt64.ofNat (2 ^ (59 + server.daqCardPortBits))

/-- The events of a card have the ports of one card. -/
def OwnPorts (server : Server) (tmp : List Word) : Prop :=
  ∀ word ∈ tmp.drop 2, word.toNat < 2 ^ (59 + server.daqCardPortBits)

section Events
variable (server : Server) (room : server.daqCardPortBits ≤ 4)
include room

theorem prefix_number (card : Nat) (among : card < 2) :
    (server.cardPrefix card).toNat = 2 ^ (59 + server.daqCardPortBits) * card := by
  have shift : (UInt64.ofNat (59 + server.daqCardPortBits)).toNat % 64 =
      59 + server.daqCardPortBits := by
    rw [UInt64.toNat_ofNat', Nat.mod_eq_of_lt (show 59 + server.daqCardPortBits < 2 ^ 64 by omega),
      Nat.mod_eq_of_lt (by omega)]
  have inside : card * 2 ^ (59 + server.daqCardPortBits) < 2 ^ 64 := by
    have power : 2 ^ (59 + server.daqCardPortBits) ≤ 2 ^ 63 :=
      Nat.pow_le_pow_right (by decide) (by omega)
    have most : card * 2 ^ (59 + server.daqCardPortBits) ≤ 1 * 2 ^ 63 :=
      Nat.mul_le_mul (Nat.le_of_lt_succ among) power
    omega
  rw [Server.cardPrefix, UInt64.toNat_shiftLeft, shift, UInt64.toNat_ofNat',
    Nat.mod_eq_of_lt (show card < 2 ^ 64 by omega), Nat.shiftLeft_eq, Nat.mod_eq_of_lt inside,
    Nat.mul_comm]

theorem tag_split (card : Nat) (among : card < 2) (word : Word)
    (own : word.toNat < 2 ^ (59 + server.daqCardPortBits)) :
    cardOf server (word ||| server.cardPrefix card) = card ∧
      (word ||| server.cardPrefix card) % UInt64.ofNat (2 ^ (59 + server.daqCardPortBits)) = word := by
  have number : (word ||| server.cardPrefix card).toNat =
      2 ^ (59 + server.daqCardPortBits) * card + word.toNat := by
    rw [UInt64.toNat_or, prefix_number server room card among, Nat.or_comm,
      ← Nat.two_pow_add_eq_or_of_lt own]
  have modulus : (UInt64.ofNat (2 ^ (59 + server.daqCardPortBits))).toNat =
      2 ^ (59 + server.daqCardPortBits) := by
    rw [UInt64.toNat_ofNat', Nat.mod_eq_of_lt]
    exact Nat.pow_lt_pow_right (by decide) (by omega)
  constructor
  · rw [cardOf, number, Nat.mul_add_div (Nat.two_pow_pos _), Nat.div_eq_of_lt own, Nat.add_zero]
  · rw [← UInt64.toNat_inj, UInt64.toNat_mod, modulus, number, Nat.mul_add_mod,
      Nat.mod_eq_of_lt own]

theorem tagged_events (card other : Nat) (among : card < 2) (tmp : List Word)
    (checked : Checked tmp) (own : OwnPorts server tmp) :
    ((tagged (server.cardPrefix card) tmp).filter fun word => cardOf server word = other).map
        (fun word => word % UInt64.ofNat (2 ^ (59 + server.daqCardPortBits))) =
      if card = other then tmp.drop 2 else [] := by
  have counted := (n_events_checked tmp checked).1
  have whole : (tmp.drop 2).take (nEvents tmp).toNat = tmp.drop 2 := by
    rw [List.take_of_length_le]
    rw [List.length_drop]
    omega
  rw [tagged, whole]
  unfold OwnPorts at own
  generalize tmp.drop 2 = events at own
  have split (word : Word) (member : word ∈ events) :=
    tag_split server room card among word (own word member)
  split_ifs with same
  · subst same
    rw [List.filter_eq_self.mpr, List.map_map]
    · refine (List.map_congr_left fun word member => (split word member).2).trans ?_
      exact List.map_id' events
    · rintro _ tagged'
      obtain ⟨word, member, rfl⟩ := List.mem_map.mp tagged'
      exact decide_eq_true (split word member).1
  · rw [List.filter_eq_nil_iff.mpr, List.map_nil]
    rintro _ tagged'
    obtain ⟨word, member, rfl⟩ := List.mem_map.mp tagged'
    rw [decide_eq_true_iff, (split word member).1]
    exact same

/-- From a frame in the ring the events of both cards can be told apart again. -/
theorem merge_split (tmp0 tmp1 : List Word) (checked0 : Checked tmp0) (checked1 : Checked tmp1)
    (own0 : OwnPorts server tmp0) (own1 : OwnPorts server tmp1) (whole : ¬ tooMuch tmp0 tmp1) :
    eventsOf server 0 (mergeFrames (server.cardPrefix 0) (server.cardPrefix 1) tmp0 tmp1) =
        tmp0.drop 2 ∧
      eventsOf server 1 (mergeFrames (server.cardPrefix 0) (server.cardPrefix 1) tmp0 tmp1) =
        tmp1.drop 2 := by
  obtain ⟨second, _, _, shape⟩ := merge_whole (server.cardPrefix 0) (server.cardPrefix 1) tmp0 tmp1
    checked0 checked1 whole
  have both (other : Nat) : eventsOf server other
      (mergeFrames (server.cardPrefix 0) (server.cardPrefix 1) tmp0 tmp1) =
        (if 0 = other then tmp0.drop 2 else []) ++ if 1 = other then tmp1.drop 2 else [] := by
    rw [eventsOf, shape, List.drop_succ_cons, List.drop_succ_cons, List.drop_zero,
      List.filter_append, List.map_append,
      tagged_events server room 0 other (by decide) tmp0 checked0 own0,
      tagged_events server room 1 other (by decide) tmp1 checked1 own1]
  rw [both 0, both 1]
  exact ⟨List.append_nil _, rfl⟩

end Events

instance (server : Server) (tmp : List Word) : Decidable (OwnPorts server tmp) :=
  List.decidableBAll (fun word : Word => word.toNat < 2 ^ (59 + server.daqCardPortBits)) (tmp.drop 2)

def Traced (server : Server) (start : Cards) (words : List Word) : Prop :=
  ∃ tmp0 ∈ frames (start 0), ∃ tmp1 ∈ frames (start 1),
    getFrameID words = getFrameID tmp0 ∧ getFrameID words = getFrameID tmp1 ∧
      (if getFrameLost words then getNEvents words = 0 ∧ getFrameID words % 128 = 0 ∧ tooMuch tmp0 tmp1
      else eventsOf server 0 words = tmp0.drop 2 ∧ eventsOf server 1 words = tmp1.drop 2)

structure Origin (server : Server) (start : Cards) (state : State) : Prop where
  left : frames (state.cards 0) <:+ frames (start 0)
  right : frames (state.cards 1) <:+ frames (start 1)
  traced : ∀ words ∈ state.published, Traced server start words

section Origin
variable (server : Server) (both : server.activeCards = [0, 1])
  (room : server.daqCardPortBits ≤ 4) (start : Cards) (checked : AllChecked start)
  (own : ∀ card < 2, ∀ tmp ∈ frames (start card), OwnPorts server tmp)
include room checked own

theorem merge_traced (minimumFrameID : Nat) (left right : List Word)
    (member : left ∈ frames (start 0)) (member' : right ∈ frames (start 1))
    (same : getFrameID left = getFrameID right)
    (kept : stored minimumFrameID
      (mergeFrames (server.cardPrefix 0) (server.cardPrefix 1) left right) = true) :
    Traced server start (mergeFrames (server.cardPrefix 0) (server.cardPrefix 1) left right) := by
  have checked0 := checked 0 (by decide) left member
  have checked1 := checked 1 (by decide) right member'
  have headed := merge_headed (server.cardPrefix 0) (server.cardPrefix 1) left right checked0 checked1
  refine ⟨left, member, right, member', headed.frameID, headed.frameID.trans same, ?_⟩
  rw [headed.lost]
  by_cases lost : tooMuch left right
  · rw [if_pos (decide_eq_true lost)]
    have events := headed.events
    rw [if_pos lost] at events
    refine ⟨events, ?_, lost⟩
    simp only [stored, headed.lost, decide_eq_true lost, Bool.true_and, Bool.not_or,
      Bool.and_eq_true, bne, Bool.not_not, beq_iff_eq] at kept
    exact kept.2
  · rw [if_neg (by rw [decide_eq_false lost]; exact Bool.false_ne_true)]
    exact merge_split server room left right checked0 checked1 (own 0 (by decide) left member)
      (own 1 (by decide) right member') lost

include both

theorem origin_step (state : State) (turn : Turn) (next : State)
    (origin : Origin server start state) (stepped : doWork server state turn = some next) :
    Origin server start next := by
  rw [work_both server both] at stepped
  rcases two_cases server state turn next stepped with
    ⟨_, _, cards, first, second, rfl⟩ | ⟨left, right, cards, all, lefts, rights, rfl⟩
  · exact ⟨List.IsSuffix.trans ⟨_, first.symm⟩ origin.left,
      List.IsSuffix.trans ⟨_, second.symm⟩ origin.right, origin.traced⟩
  · have lefts' := lefts.trans origin.left
    have rights' := rights.trans origin.right
    have pair : (left, right) ∈ common state.cards := all ▸ List.mem_cons_self
    have same : getFrameID left = getFrameID right := join_keys _ _ _ pair
    rw [joined]
    rcases publish_cases
        { state with
          cards := cards
          merged := state.merged ++ [⟨turn.minimumFrameID, left, right⟩] }
        turn.minimumFrameID (mergeFrames (server.cardPrefix 0) (server.cardPrefix 1) left right)
      with ⟨kept, published⟩ | ⟨_, published⟩
    · rw [published]
      refine ⟨(List.suffix_cons _ _).trans lefts', (List.suffix_cons _ _).trans rights', ?_⟩
      intro words member
      rcases List.mem_append.mp member with before | last
      · exact origin.traced words before
      · rw [List.mem_singleton.mp last]
        exact merge_traced server room start checked own turn.minimumFrameID left right
          (lefts'.subset List.mem_cons_self) (rights'.subset List.mem_cons_self) same kept
    · rw [published]
      exact ⟨(List.suffix_cons _ _).trans lefts', (List.suffix_cons _ _).trans rights',
        origin.traced⟩

/-- Whatever order the IDs come in: a frame in the ring is one frame of each card. -/
theorem events_recovered (turns : List Turn) :
    Throughout (doWork server) (fun state => ∀ words ∈ state.published, Traced server start words)
      (started start) turns :=
  throughout_invariant (doWork server) (fun _ origin => origin.traced)
    (origin_step server both room start checked own) turns (started start)
    ⟨List.suffix_rfl, List.suffix_rfl, fun _ member => (by cases member)⟩

end Origin

theorem events_recovered_sample :
    Throughout (doWork sampleServer)
      (fun state => ∀ words ∈ state.published, Traced sampleServer sampleCards words)
      (started sampleCards) [⟨some [], 0⟩, ⟨some [], 0⟩] :=
  events_recovered sampleServer (by decide) (by decide) sampleCards (by decide +kernel)
    (by decide +kernel) [⟨some [], 0⟩, ⟨some [], 0⟩]

end GramsTof.CardMerge
