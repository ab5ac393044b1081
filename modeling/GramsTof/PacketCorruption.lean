import GramsTof.CrcBurst

/-!
One altered byte of a serialized packet. Where the length stays, the CRC or a
comparison with a constant finds it. The low byte of `argc` moves the place
where `parse` looks for the CRC and the footer, and `parse` admits bytes behind
a packet; a smaller count is found out unless the arguments themselves look
like the end of a packet there.
-/

namespace GramsTof.PacketCorruption

open ByteWords CommandCodec InjectiveFold CrcBurst

theorem join16_injective (high low other another : UInt8)
    (same : join16 high low = join16 other another) : high = other ∧ low = another := by
  have bytes := congrArg split16 same
  rw [split16_join, split16_join] at bytes
  injection bytes with first rest
  injection rest with second _
  exact ⟨first, second⟩

theorem getD_set_other (data : List UInt8) (position index : Nat) (value : UInt8)
    (other : position ≠ index) : (data.set position value).getD index 0 = data.getD index 0 := by
  simp only [List.getD_eq_getElem?_getD, List.getElem?_set_ne other]

theorem getD_set_here (data : List UInt8) (position : Nat) (value : UInt8)
    (inside : position < data.length) : (data.set position value).getD position 0 = value := by
  simp [List.getD_eq_getElem?_getD, inside]

theorem word16_set_other (data : List UInt8) (position offset : Nat) (value : UInt8)
    (high : position ≠ offset) (low : position ≠ offset + 1) :
    word16 (data.set position value) offset = word16 data offset := by
  rw [word16, getD_set_other _ _ _ _ high, getD_set_other _ _ _ _ low, word16]

theorem word16_set_here (data : List UInt8) (position offset : Nat) (value : UInt8)
    (here : position = offset ∨ position = offset + 1) (inside : position < data.length)
    (differs : value ≠ data.getD position 0) :
    word16 (data.set position value) offset ≠ word16 data offset := by
  intro same
  obtain ⟨high, low⟩ := join16_injective _ _ _ _ same
  rcases here with rfl | rfl
  · rw [getD_set_here _ _ _ inside] at high
    exact differs high
  · rw [getD_set_here _ _ _ inside] at low
    exact differs low

theorem wire_words (pkt : Packet) :
    word16 (wire pkt) 0 = 0xEB90 ∧ word16 (wire pkt) 2 = 0x5B6A ∧
    word16 (wire pkt) 6 = pkt.argc ∧
    word16 (wire pkt) (8 + pkt.argv.length * 4) = crc16 (payload pkt) ∧
    word16 (wire pkt) (8 + pkt.argv.length * 4 + 2) = 0xC5A4 ∧
    word16 (wire pkt) (8 + pkt.argv.length * 4 + 4) = 0xD279 := by
  obtain ⟨header1, header2, _, argc⟩ := head_words pkt (trailer pkt)
  obtain ⟨crc, footer1, footer2⟩ := trailer_words pkt []
  rw [List.append_nil] at crc footer1 footer2
  rw [wire_trailer, ← payload_length]
  refine ⟨header1, header2, argc, ?_, ?_, ?_⟩
  · exact (word16_skip (payload pkt) (trailer pkt) 0).trans crc
  · exact (word16_skip (payload pkt) (trailer pkt) 2).trans footer1
  · exact (word16_skip (payload pkt) (trailer pkt) 4).trans footer2

theorem set_differs (data : List UInt8) (position : Nat) (value : UInt8)
    (inside : position < data.length) (differs : value ≠ data.getD position 0) :
    data.set position value ≠ data := by
  intro same
  have read := getD_set_here data position value inside
  rw [same] at read
  exact differs read.symm

theorem payload_byte_detected (pkt : Packet) (position : Nat) (value : UInt8)
    (inside : position < (payload pkt).length)
    (differs : value ≠ (payload pkt).getD position 0) :
    crc16 ((payload pkt).set position value) ≠ crc16 (payload pkt) := by
  have within : DifferWithin position 2 ((payload pkt).set position value) (payload pkt) :=
    ⟨List.length_set, fun i outside => List.getElem?_set_ne (by omega)⟩
  exact crc16_differs within (set_differs _ _ _ inside differs)

theorem counted_byte_rejected (pkt : Packet) (counted : Counted pkt) (position : Nat)
    (value : UInt8) (inside : position < (wire pkt).length)
    (differs : value ≠ (wire pkt).getD position 0) (high : position ≠ 6) (low : position ≠ 7) :
    ¬ Accepted ((wire pkt).set position value) := by
  intro accepted
  obtain ⟨header1, header2, argc, crc, footer1, footer2⟩ := wire_words pkt
  have here := fun offset near => word16_set_here (wire pkt) position offset value near inside
    differs
  have other := word16_set_other (wire pkt) position
  -- `argc` is unaltered, so CRC and footer are looked up where they are
  have size : (word16 ((wire pkt).set position value) 6).toNat = pkt.argv.length := by
    rw [other 6 value high low, argc]
    exact counted
  have acceptedCrc := accepted.crc
  have acceptedFooter := accepted.footer
  rw [size] at acceptedCrc acceptedFooter
  rw [wire_length] at inside
  by_cases head : position < 4
  · -- one of the two header words
    by_cases first : position < 2
    · exact here 0 (by omega) (accepted.header.1.trans header1.symm)
    · exact here 2 (by omega) (accepted.header.2.trans header2.symm)
  by_cases body : position < 8 + pkt.argv.length * 4
  · -- the payload, with the CRC that belongs to the unaltered one
    have front : ((wire pkt).set position value).take (8 + pkt.argv.length * 4) =
        (payload pkt).set position value := by
      rw [wire_trailer, ← payload_length, List.set_append_left _ _ (by rwa [payload_length])]
      exact List.take_left' List.length_set
    rw [front, other _ value (by omega) (by omega), crc] at acceptedCrc
    apply payload_byte_detected pkt position value (by rwa [payload_length]) ?_ acceptedCrc.symm
    rwa [wire_trailer, List.getD_eq_getElem?_getD,
      List.getElem?_append_left (by rwa [payload_length]), ← List.getD_eq_getElem?_getD] at differs
  have unaltered : ((wire pkt).set position value).take (8 + pkt.argv.length * 4) =
      payload pkt := by
    rw [List.take_set_of_le (by omega), wire_trailer, ← payload_length, List.take_left]
  rw [unaltered] at acceptedCrc
  by_cases sum : position < 8 + pkt.argv.length * 4 + 2
  · exact here (8 + pkt.argv.length * 4) (by omega) (acceptedCrc.trans crc.symm)
  by_cases first : position < 8 + pkt.argv.length * 4 + 4
  · exact here (8 + pkt.argv.length * 4 + 2) (by omega) (acceptedFooter.1.trans footer1.symm)
  · exact here (8 + pkt.argv.length * 4 + 4) (by omega) (acceptedFooter.2.trans footer2.symm)

def shortened (pkt : Packet) (count : UInt8) : Packet :=
  { pkt with argc := count.toUInt16, argv := pkt.argv.take count.toNat }

def highHalf (arg : Int32) : UInt16 := (arg.toUInt32 >>> 16).toUInt16

def lowHalf (arg : Int32) : UInt16 := arg.toUInt32.toUInt16

/-- The two bytes of a packet behind argument `index`: the next argument
begins there, or the CRC. -/
def wordBehind (pkt : Packet) (index : Nat) : UInt16 :=
  match pkt.argv[index + 1]? with
  | some next => highHalf next
  | none => crc16 (payload pkt)

/-- Behind the first `count` arguments stands what the packet cut down to them
would end with. -/
structure Imitated (pkt : Packet) (count : UInt8) : Prop where
  fewer : count.toNat < pkt.argv.length
  crc : highHalf pkt.argv[count.toNat] = crc16 (payload (shortened pkt count))
  footer1 : lowHalf pkt.argv[count.toNat] = 0xC5A4
  footer2 : wordBehind pkt count.toNat = 0xD279

instance (pkt : Packet) (count : UInt8) : Decidable (Imitated pkt count) :=
  decidable_of_iff (∃ fewer : count.toNat < pkt.argv.length,
      highHalf pkt.argv[count.toNat] = crc16 (payload (shortened pkt count)) ∧
      lowHalf pkt.argv[count.toNat] = 0xC5A4 ∧ wordBehind pkt count.toNat = 0xD279)
    ⟨fun ⟨fewer, crc, footer1, footer2⟩ => ⟨fewer, crc, footer1, footer2⟩,
      fun ⟨fewer, crc, footer1, footer2⟩ => ⟨fewer, crc, footer1, footer2⟩⟩

theorem split32_halves (arg : Int32) :
    split32 arg.toUInt32 = split16 (highHalf arg) ++ split16 (lowHalf arg) := by
  have bound := arg.toUInt32.toNat_lt
  obtain ⟨first, second, third, fourth⟩ := split32_toNat arg.toUInt32
  have high : (highHalf arg).toNat = arg.toUInt32.toNat / 65536 := by
    simp [highHalf, Nat.shiftRight_eq_div_pow]
    omega
  have low : (lowHalf arg).toNat = arg.toUInt32.toNat % 65536 := by simp [lowHalf]
  simp only [split32, split16, List.cons_append, List.nil_append, List.cons.injEq, and_true,
    ← UInt8.toNat_inj]
  rw [first, second, third, fourth, high_byte_toNat, low_byte_toNat, high_byte_toNat,
    low_byte_toNat, high, low]
  omega

theorem argc_bytes (argc : UInt16) (admitted : argc.toNat ≤ 32) (value : UInt8) :
    (split16 argc).set 1 value = split16 value.toUInt16 := by
  have bound := value.toNat_lt
  simp only [split16, List.set_cons_succ, List.set_cons_zero, List.cons.injEq, and_true,
    ← UInt8.toNat_inj]
  rw [high_byte_toNat, high_byte_toNat, low_byte_toNat, UInt8.toNat_toUInt16]
  omega

theorem valid_argc_le (pkt : Packet) (valid : Valid pkt) : pkt.argc.toNat ≤ 32 :=
  Nat.le_trans (Nat.le_of_eq valid.counted) valid.bounded

theorem wire_set_argc (pkt : Packet) (valid : Valid pkt) (value : UInt8) :
    (wire pkt).set 7 value = payload (shortened pkt value) ++
      (argBytes (pkt.argv.drop value.toNat) ++ trailer pkt) := by
  have cut : argBytes pkt.argv =
      argBytes (pkt.argv.take value.toNat) ++ argBytes (pkt.argv.drop value.toNat) := by
    rw [← arg_bytes_append, List.take_append_drop]
  have layout : wire pkt = (split16 0xEB90 ++ split16 0x5B6A ++ split16 pkt.code) ++
      (split16 pkt.argc ++ (argBytes pkt.argv ++ trailer pkt)) := by
    simp only [wire_trailer, payload, List.append_assoc]
  rw [layout, List.set_append_right _ _ (Nat.le_succ 6),
    List.set_append_left _ _ (Nat.lt_succ_self 1)]
  change _ ++ ((split16 pkt.argc).set 1 value ++ _) = _
  rw [argc_bytes pkt.argc (valid_argc_le pkt valid) value, cut]
  simp only [payload, shortened, List.append_assoc]

theorem shortened_valid (pkt : Packet) (valid : Valid pkt) (count : UInt8)
    (fewer : count.toNat ≤ pkt.argv.length) : Valid (shortened pkt count) := by
  have bounded := valid.bounded
  refine ⟨?_, ?_⟩
  · rw [Counted, shortened, List.length_take, UInt8.toNat_toUInt16]
    omega
  · rw [shortened, List.length_take]
    omega

theorem rest_words (pkt : Packet) (count : Nat) (fewer : count < pkt.argv.length) :
    ∃ more, argBytes (pkt.argv.drop count) ++ trailer pkt = split16 (highHalf pkt.argv[count]) ++
      (split16 (lowHalf pkt.argv[count]) ++ (split16 (wordBehind pkt count) ++ more)) := by
  have first : argBytes (pkt.argv.drop count) =
      split32 pkt.argv[count].toUInt32 ++ argBytes (pkt.argv.drop (count + 1)) := by
    rw [List.drop_eq_getElem_cons fewer]
    rfl
  have behind : ∃ more, argBytes (pkt.argv.drop (count + 1)) ++ trailer pkt =
      split16 (wordBehind pkt count) ++ more := by
    unfold wordBehind
    by_cases last : count + 1 < pkt.argv.length
    · refine ⟨split16 (lowHalf pkt.argv[count + 1]) ++
        (argBytes (pkt.argv.drop (count + 1 + 1)) ++ trailer pkt), ?_⟩
      rw [List.drop_eq_getElem_cons last, List.getElem?_eq_getElem last, ← List.append_assoc,
        ← List.append_assoc, ← split32_halves]
      rfl
    · rw [List.drop_of_length_le (Nat.not_lt.mp last),
        List.getElem?_eq_none (Nat.not_lt.mp last)]
      exact ⟨_, rfl⟩
  obtain ⟨more, rest⟩ := behind
  refine ⟨more, ?_⟩
  rw [first, List.append_assoc, rest, split32_halves, List.append_assoc]

theorem imitated_accepted (pkt : Packet) (valid : Valid pkt) (count : UInt8)
    (imitated : Imitated pkt count) :
    ∃ rest, (wire pkt).set 7 count = wire (shortened pkt count) ++ rest := by
  obtain ⟨fewer, crc, footer1, footer2⟩ := imitated
  obtain ⟨more, words⟩ := rest_words pkt count.toNat fewer
  refine ⟨more, ?_⟩
  rw [wire_set_argc pkt valid, words, crc, footer1, footer2, wire_trailer, trailer]
  simp only [List.append_assoc]

/-- An altered low byte of `argc` is noticed, unless the arguments imitate the
end of a shorter packet. -/
theorem accepted_imitated (pkt : Packet) (valid : Valid pkt) (value : UInt8)
    (differs : value ≠ (wire pkt).getD 7 0)
    (accepted : Accepted ((wire pkt).set 7 value)) : Imitated pkt value := by
  have counted : pkt.argc.toNat = pkt.argv.length := valid.counted
  -- the low byte of the unaltered `argc` is the number of arguments
  have other : value.toNat ≠ pkt.argv.length := by
    intro same
    apply differs
    have admitted := valid_argc_le pkt valid
    apply UInt8.toNat_inj.mp
    have number := congrArg UInt16.toNat (wire_words pkt).2.2.1
    rw [word16, join16_toNat] at number
    change _ + ((wire pkt).getD 7 0).toNat = _ at number
    omega
  have size := accepted.size
  have layout := wire_set_argc pkt valid value
  have argc : word16 ((wire pkt).set 7 value) 6 = value.toUInt16 := by
    rw [layout]
    exact (head_words (shortened pkt value) _).2.2.2
  rw [argc, UInt8.toNat_toUInt16, List.length_set, wire_length] at size
  have fewer : value.toNat < pkt.argv.length := by omega
  have extent : (payload (shortened pkt value)).length = 8 + value.toNat * 4 := by
    rw [payload_length, shortened, List.length_take, Nat.min_eq_left (Nat.le_of_lt fewer)]
  obtain ⟨more, words⟩ := rest_words pkt value.toNat fewer
  have crc := accepted.crc
  have footer := accepted.footer
  rw [argc, UInt8.toNat_toUInt16, layout, words, ← extent] at crc footer
  rw [List.take_left] at crc
  refine ⟨fewer, ?_, ?_, ?_⟩
  · rw [← crc]
    exact ((word16_skip _ _ 0).trans (word16_split _ _)).symm
  · rw [← footer.1, word16_skip]
    exact ((word16_skip (split16 _) _ 0).trans (word16_split _ _)).symm
  · rw [← footer.2, word16_skip]
    exact ((word16_skip (split16 _) _ 2).trans
      ((word16_skip (split16 _) _ 0).trans (word16_split _ _))).symm

theorem high_argc_rejected (pkt : Packet) (valid : Valid pkt) (value : UInt8)
    (differs : value ≠ (wire pkt).getD 6 0) : ¬ Accepted ((wire pkt).set 6 value) := by
  intro accepted
  have admitted := valid_argc_le pkt valid
  have inside : 6 < (wire pkt).length := by
    rw [wire_length]
    omega
  have unaltered := congrArg UInt16.toNat (wire_words pkt).2.2.1
  have limit := UInt16.le_iff_toNat_le.mp accepted.argc
  rw [word16, join16_toNat] at unaltered limit
  rw [getD_set_here _ _ _ inside] at limit
  have changed : value.toNat ≠ ((wire pkt).getD 6 0).toNat := fun same =>
    differs (UInt8.toNat_inj.mp same)
  change _ ≤ 32 at limit
  omega

/-- One altered byte, at every position of the wire form. -/
theorem altered_accepted_iff (pkt : Packet) (valid : Valid pkt) (position : Nat) (value : UInt8)
    (inside : position < (wire pkt).length) (differs : value ≠ (wire pkt).getD position 0) :
    Accepted ((wire pkt).set position value) ↔ position = 7 ∧ Imitated pkt value := by
  constructor
  · intro accepted
    by_cases high : position = 6
    · subst high
      exact absurd accepted (high_argc_rejected pkt valid value differs)
    by_cases low : position = 7
    · subst low
      exact ⟨rfl, accepted_imitated pkt valid value differs accepted⟩
    · exact absurd accepted
        (counted_byte_rejected pkt valid.counted position value inside differs high low)
  · rintro ⟨rfl, imitated⟩
    obtain ⟨rest, layout⟩ := imitated_accepted pkt valid value imitated
    have bounds := shortened_valid pkt valid value (Nat.le_of_lt imitated.fewer)
    rw [layout]
    exact ((wire_accepted (shortened pkt value) bounds.counted rest).2).mpr bounds.bounded

/-- One altered byte is detected at every position but the low byte of `argc`;
there it is detected unless the new count is smaller and the arguments behind
it imitate the end of the packet cut down to it, which `parse` then returns. -/
theorem altered_byte_parsed (pkt : Packet) (valid : Valid pkt) :
    ∃ bytes, serialize pkt none = .ok bytes ∧
      ∀ position (inside : position < bytes.length) (value : UInt8), value ≠ bytes[position] →
        ∀ outPacket, parse (bytes.set position value) outPacket =
          .ok (if position = 7 ∧ Imitated pkt value then (true, shortened pkt value)
            else (false, outPacket)) := by
  refine ⟨wire pkt, serialize_counted pkt valid.counted, ?_⟩
  intro position inside value differs outPacket
  rw [← getD_inside _ _ inside] at differs
  have accepted := altered_accepted_iff pkt valid position value inside differs
  by_cases imitated : position = 7 ∧ Imitated pkt value
  · obtain ⟨rfl, imitated⟩ := imitated
    obtain ⟨rest, layout⟩ := imitated_accepted pkt valid value imitated
    rw [if_pos ⟨rfl, imitated⟩, layout]
    exact parse_wire _ (shortened_valid pkt valid value (Nat.le_of_lt imitated.fewer)) rest _
  · rw [if_neg imitated, parse_eq, if_neg (mt accepted.mp imitated)]

theorem altered_byte_parsed_one_arg :
    ∃ bytes, serialize ⟨0x5010, 1, [7]⟩ none = .ok bytes ∧
      ∀ position (inside : position < bytes.length) (value : UInt8), value ≠ bytes[position] →
        ∀ outPacket, parse (bytes.set position value) outPacket =
          .ok (if position = 7 ∧ Imitated ⟨0x5010, 1, [7]⟩ value then
              (true, shortened ⟨0x5010, 1, [7]⟩ value)
            else (false, outPacket)) :=
  altered_byte_parsed ⟨0x5010, 1, [7]⟩ ⟨by decide, by decide⟩

/-- Two arguments that read as the CRC and the footer of the same command
without arguments. -/
def imitating : Packet := ⟨0x5010, 2, [0x5C87C5A4, -0x2D870000]⟩

/-- With `argc` altered to 0 the packet is taken for the shorter one. -/
theorem altered_argc_undetected :
    ¬ ∀ pkt, Valid pkt → ∃ bytes, serialize pkt none = .ok bytes ∧
      ∀ position (inside : position < bytes.length) (value : UInt8), value ≠ bytes[position] →
        ∀ outPacket, parse (bytes.set position value) outPacket = .ok (false, outPacket) := by
  intro detected
  obtain ⟨bytes, serialized, rejected⟩ := detected imitating ⟨by decide, by decide⟩
  have written : serialize imitating none = .ok [0xEB, 0x90, 0x5B, 0x6A, 0x50, 0x10, 0, 2,
      0x5C, 0x87, 0xC5, 0xA4, 0xD2, 0x79, 0, 0, 0x42, 0x45, 0xC5, 0xA4, 0xD2, 0x79] := by
    decide +kernel
  cases written.symm.trans serialized
  have parsed : parse [0xEB, 0x90, 0x5B, 0x6A, 0x50, 0x10, 0, 0,
      0x5C, 0x87, 0xC5, 0xA4, 0xD2, 0x79, 0, 0, 0x42, 0x45, 0xC5, 0xA4, 0xD2, 0x79] ⟨0, 0, []⟩ =
      .ok (true, ⟨0x5010, 0, []⟩) := by
    decide +kernel
  have wrong := rejected 7 (by decide) 0 (by decide) ⟨0, 0, []⟩
  cases parsed.symm.trans wrong

end GramsTof.PacketCorruption
