import J2534Oip.Cannelloni.Wire

/-!
# CAN identifiers on the wire

`PASSTHRU_MSG` holds the identifier most significant byte first.  `PassThruWriteMsgs` copies
its bytes into a host integer, least significant first, sets bit 31 of that for an extended
frame, and copies them back: the bit set is bit 7 of the identifier (`ofBE_canId`), which
extended identifiers use themselves.  Two frames are confused exactly when they differ in
that bit or the flag alone and both go out with the bit set:

    (frameBytes msg = frameBytes msg' → SameFrame msg msg') ↔ ¬Clash msg msg'
                                                                  (frameBytes_inj_iff)
-/

namespace J2534Oip

open Bytes

/-! ## Frames of messages -/

/-- The CAN identifier, as J2534 lays it out. -/
def identifier (msg : PassthruMsg) : Nat := ofBE (msg.bytes 0 4)

/-- `TxFlags` has `CAN_29BIT_ID`. -/
def Extended (msg : PassthruMsg) : Prop := msg.txFlags &&& can29BitId ≠ 0

instance (msg : PassthruMsg) : Decidable (Extended msg) := instDecidableNot

def payload (msg : PassthruMsg) : List UInt8 := msg.bytes 4 (msg.dataSize.toNat - 4)

/-- An identifier of 29 or of 11 bits. -/
def LegalId (msg : PassthruMsg) : Prop := identifier msg < if Extended msg then 2 ^ 29 else 2 ^ 11

/-- The two messages are one CAN frame. -/
structure SameFrame (msg msg' : PassthruMsg) : Prop where
  identifier : identifier msg = identifier msg'
  extended : Extended msg ↔ Extended msg'
  payload : payload msg = payload msg'

/-- The bytes a message gives behind the packet header. -/
def frameBytes (msg : PassthruMsg) : List UInt8 := (buildFrame msg).toBytes

theorem drop_buildPacket (version seqNo : UInt8) (msg : PassthruMsg) :
    (buildPacket version seqNo msg).drop sizeofDataPacket = frameBytes msg := rfl

theorem frameBytes_eq (msg : PassthruMsg) (h : Accepted msg) :
    frameBytes msg = leBytes 4 (buildCanId msg).toNat ++ buildLength msg :: payload msg := by
  have hlayout := buildPacket_layout 0 0 msg ((accepted_iff msg).1 h)
  rw [← drop_buildPacket 0 0 msg, hlayout]
  rfl

/-! ## The identifier that is sent -/

/-- Bit 7 of the identifier. -/
def markBit : Nat := 0x80

/-- The identifier as a receiver reads it, most significant byte first. -/
def wireId (msg : PassthruMsg) : Nat :=
  if Extended msg then identifier msg ||| markBit else identifier msg

/-- The flag goes into bit 7. -/
theorem ofBE_canId (msg : PassthruMsg) : ofBE (leBytes 4 (buildCanId msg).toNat) = wireId msg := by
  by_cases hext : Extended msg
  · have hlt := ofLE_lt_of_length (k := 4) (msg.bytes 0 4) (msg.length_bytes 0 4)
    have hcan : buildCanId msg = UInt32.ofNat (ofLE (msg.bytes 0 4)) ||| canEffFlag := by
      simp only [buildCanId, bne_iff_ne]
      exact if_pos hext
    have hnat : (buildCanId msg).toNat = ofLE (msg.bytes 0 4) ||| 0x80000000 := by
      rw [hcan, UInt32.toNat_or, UInt32.toNat_ofNat', Nat.mod_eq_of_lt (by omega)]
      rfl
    have hflag : ofBE (leBytes 4 0x80000000) = markBit := by decide
    rw [hnat, leBytes_or, leBytes_ofLE_of_length _ (msg.length_bytes 0 4),
      ofBE_or _ _ (by simp), hflag, wireId, if_pos hext]
    rfl
  · rw [leBytes_buildCanId msg (not_not.1 hext), wireId, if_neg hext]
    rfl

/-- Equal bytes are equal identifiers on the wire and equal payloads. -/
theorem frameBytes_eq_iff (msg msg' : PassthruMsg) (h : Accepted msg) (h' : Accepted msg') :
    frameBytes msg = frameBytes msg' ↔ wireId msg = wireId msg' ∧ payload msg = payload msg' := by
  have hlen := toNat_buildLength msg ((accepted_iff msg).1 h)
  have hlen' := toNat_buildLength msg' ((accepted_iff msg').1 h')
  have hpayload : ∀ msg, (payload msg).length = msg.dataSize.toNat - 4 := by
    intro msg
    exact msg.length_bytes _ _
  rw [frameBytes_eq msg h, frameBytes_eq msg' h', ← ofBE_canId, ← ofBE_canId]
  constructor
  · intro heq
    obtain ⟨hids, hrest⟩ := List.append_inj heq (by simp)
    exact ⟨congrArg ofBE hids, (List.cons.inj hrest).2⟩
  · rintro ⟨hids, hdata⟩
    have hsize : buildLength msg = buildLength msg' := by
      apply UInt8.toNat_inj.1
      rw [hlen, hlen', ← hpayload, ← hpayload, hdata]
    rw [ofBE_inj (by simp) hids, hsize, hdata]

/-! ## When frames are confused -/

/-- The identifier goes out with bit 7 set. -/
def Marked (msg : PassthruMsg) : Prop := Extended msg ∨ (identifier msg).testBit 7 = true

/-- Same payload, identifiers equal up to bit 7, which both go out with; and bit 7 itself or
the flag differ. -/
structure Clash (msg msg' : PassthruMsg) : Prop where
  payload : payload msg = payload msg'
  rest : identifier msg ||| markBit = identifier msg' ||| markBit
  marked : Marked msg
  marked' : Marked msg'
  differ : identifier msg ≠ identifier msg' ∨ ¬(Extended msg ↔ Extended msg')

theorem or_markBit_of_testBit (n : Nat) (h : n.testBit 7 = true) : n ||| markBit = n := by
  apply Nat.eq_of_testBit_eq
  intro i
  have hmark : markBit = 2 ^ 7 := rfl
  rw [Nat.testBit_or, hmark, Nat.testBit_two_pow]
  by_cases hi : 7 = i
  · subst hi
    simp [h]
  · simp [hi]

theorem testBit_or_markBit (n : Nat) : (n ||| markBit).testBit 7 = true := by
  have hmark : markBit.testBit 7 = true := by decide
  rw [Nat.testBit_or, hmark, Bool.or_true]

theorem wireId_of_marked (msg : PassthruMsg) (h : Marked msg) :
    wireId msg = identifier msg ||| markBit := by
  unfold wireId
  split
  · rfl
  · next hstd => exact (or_markBit_of_testBit _ (h.resolve_left hstd)).symm

theorem marked_iff (msg : PassthruMsg) : Marked msg ↔ (wireId msg).testBit 7 = true := by
  constructor
  · intro h
    rw [wireId_of_marked msg h]
    exact testBit_or_markBit _
  · intro h
    by_cases hext : Extended msg
    · exact Or.inl hext
    · rw [wireId, if_neg hext] at h
      exact Or.inr h

/-- Setting bit 7 hides whether the flag did. -/
theorem wireId_or_markBit (msg : PassthruMsg) : wireId msg ||| markBit = identifier msg ||| markBit := by
  unfold wireId
  split
  · rw [Nat.or_assoc, Nat.or_self]
  · rfl

/-- Unmarked identifiers go out as they are, in a standard frame. -/
theorem sameFrame_of_unmarked {msg msg' : PassthruMsg} (h : ¬Marked msg) (h' : ¬Marked msg')
    (hwire : wireId msg = wireId msg') (hpayload : payload msg = payload msg') :
    SameFrame msg msg' := by
  have hstd : ¬Extended msg := fun hext => h (Or.inl hext)
  have hstd' : ¬Extended msg' := fun hext => h' (Or.inl hext)
  rw [wireId, wireId, if_neg hstd, if_neg hstd'] at hwire
  exact ⟨hwire, iff_of_false hstd hstd', hpayload⟩

/-- **When different frames stay different.** -/
theorem frameBytes_inj_iff (msg msg' : PassthruMsg) (h : Accepted msg) (h' : Accepted msg') :
    (frameBytes msg = frameBytes msg' → SameFrame msg msg') ↔ ¬Clash msg msg' := by
  rw [frameBytes_eq_iff msg msg' h h']
  constructor
  · rintro hsame ⟨hpayload, hrest, hmarked, hmarked', hdiffer⟩
    have hwire : wireId msg = wireId msg' := by
      rw [wireId_of_marked msg hmarked, wireId_of_marked msg' hmarked', hrest]
    obtain ⟨hid, hext, -⟩ := hsame ⟨hwire, hpayload⟩
    rcases hdiffer with hne | hne
    · exact hne hid
    · exact hne hext
  · rintro hclash ⟨hwire, hpayload⟩
    by_contra hdiffer
    have hmarks : Marked msg ↔ Marked msg' := by rw [marked_iff, marked_iff, hwire]
    have hmarked : Marked msg := by
      by_contra hnot
      exact hdiffer (sameFrame_of_unmarked hnot (mt hmarks.2 hnot) hwire hpayload)
    refine hclash ⟨hpayload, ?_, hmarked, hmarks.1 hmarked, ?_⟩
    · rw [← wireId_or_markBit, hwire, wireId_or_markBit]
    · by_contra hboth
      obtain ⟨hid, hext⟩ := not_or.1 hboth
      exact hdiffer ⟨not_not.1 hid, not_not.1 hext, hpayload⟩

/-- The same of whole datagrams, whatever their headers. -/
theorem datagrams_distinct_iff (msg msg' : PassthruMsg) (h : Accepted msg) (h' : Accepted msg') :
    (∀ version seqNo version' seqNo',
      (buildPacket version seqNo msg).drop sizeofDataPacket =
        (buildPacket version' seqNo' msg').drop sizeofDataPacket → SameFrame msg msg') ↔
      ¬Clash msg msg' := by
  rw [← frameBytes_inj_iff msg msg' h h']
  constructor
  · intro hsame heq
    refine hsame 0 0 0 0 ?_
    rw [drop_buildPacket, drop_buildPacket, heq]
  · intro hsame version seqNo version' seqNo' heq
    rw [drop_buildPacket, drop_buildPacket] at heq
    exact hsame heq

/-- A frame with a 29-bit identifier. -/
def extendedFrame (bs : List UInt8) : PassthruMsg :=
  { PassthruMsg.ofBytes bs with txFlags := can29BitId }

theorem datagrams_distinct_iff_two :
    let msg := PassthruMsg.ofBytes [0, 0, 7, 0xE0, 1]
    let msg' := extendedFrame [0x18, 0xDA, 0xF1, 0x10, 1]
    (∀ version seqNo version' seqNo',
      (buildPacket version seqNo msg).drop sizeofDataPacket =
        (buildPacket version' seqNo' msg').drop sizeofDataPacket → SameFrame msg msg') ↔
      ¬Clash msg msg' :=
  datagrams_distinct_iff _ _ ⟨Or.inl rfl, by decide, by decide⟩ ⟨Or.inl rfl, by decide, by decide⟩

/-- The extended frames 18DAF100 and 18DAF180 are one on the wire. -/
theorem datagrams_confused :
    ¬∀ msg msg', Accepted msg → Accepted msg' → LegalId msg → LegalId msg' →
      ∀ version seqNo version' seqNo',
        (buildPacket version seqNo msg).drop sizeofDataPacket =
          (buildPacket version' seqNo' msg').drop sizeofDataPacket → SameFrame msg msg' := by
  intro h
  have hsame := h (extendedFrame [0x18, 0xDA, 0xF1, 0x00, 1])
    (extendedFrame [0x18, 0xDA, 0xF1, 0x80, 1]) ⟨Or.inl rfl, by decide, by decide⟩
    ⟨Or.inl rfl, by decide, by decide⟩ (by unfold LegalId; decide) (by unfold LegalId; decide)
    1 0 1 1 (by decide)
  exact absurd hsame.identifier (by decide)

end J2534Oip
