import J2534Oip.Cannelloni.Receive

/-!
# One datagram of the receive loop

A datagram that passes the three checks appends one message for each of its frames, field by
field as the format has it; any other leaves the queue alone.  What follows the frames is
read after all where a length byte makes the copy run past them:

    ParsesExactly version mem queue d ↔
      (d.wellFormed version → no room behind the frames ∨
        ∀ i < d.count, dataOffset i + (d.lengthByte i).toNat ≤ frameOffset d.count)
                                                                    (parsesExactly_iff)
-/

namespace J2534Oip

open Bytes

/-! ## The message of a frame -/

/-- What `parseFrame` gives: the size check never fails. -/
def frameMsg (mem : Mem) (i : Nat) : PassthruMsg :=
  { PassthruMsg.zero with
    protocolID := can
    dataSize := UInt32.ofNat (frameDataSize mem i)
    data := dataOf (leBytes 4 (frameId mem i).toNat ++ (payloadSources mem i).map mem) }

theorem parseFrame_eq (mem : Mem) (i : Nat) : parseFrame mem i = some (frameMsg mem i) := by
  have hle := frameDataSize_le mem i
  rw [parseFrame, if_neg (by omega)]
  rfl

theorem Datagram.messages_eq (mem : Mem) (d : Datagram) :
    d.messages mem = (List.range d.count).map (frameMsg (recv mem d)) := by
  have hparse : parseFrame (recv mem d) = some ∘ frameMsg (recv mem d) :=
    funext fun i => parseFrame_eq (recv mem d) i
  rw [Datagram.messages, hparse, List.filterMap_eq_map]

/-- `frames[i].length` as received -/
def Datagram.lengthByte (d : Datagram) (i : Nat) : UInt8 := d.bytes.getD (frameOffset i + 4) 0

theorem frameOffset_mono {i j : Nat} (h : i < j) : frameOffset i + sizeofCanFrame ≤ frameOffset j := by
  have hframes : (i + 1) * sizeofCanFrame ≤ j * sizeofCanFrame := Nat.mul_le_mul_right _ h
  rw [Nat.add_mul, Nat.one_mul] at hframes
  rw [frameOffset, frameOffset]
  omega

theorem frameLength_recv (mem : Mem) (d : Datagram) (i : Nat)
    (h : frameOffset i + 4 < d.bytes.length) : frameLength (recv mem d) i = d.lengthByte i := by
  rw [frameLength, recv_eq_getElem mem d _ h, Datagram.lengthByte, List.getD_eq_getElem _ 0 h]

/-- Memory that agrees up to where the copy of a frame ends gives the same message. -/
theorem frameMsg_congr {mem mem' : Mem} {i n : Nat} (h : ∀ o < n, mem o = mem' o)
    (hend : dataOffset i + (frameLength mem i).toNat ≤ n) : frameMsg mem i = frameMsg mem' i := by
  have hdata : dataOffset i = frameOffset i + 5 := rfl
  have hlen : frameLength mem i = frameLength mem' i := h _ (by omega)
  have hid : frameId mem i = frameId mem' i := by
    rw [frameId, frameId, h _ (by omega), h _ (by omega), h _ (by omega), h _ (by omega)]
  have hpayload : (payloadSources mem i).map mem = (payloadSources mem' i).map mem' := by
    rw [payloadSources, payloadSources, ← hlen]
    apply List.map_congr_left
    intro o ho
    obtain ⟨k, hk, rfl⟩ := List.mem_map.1 ho
    have hklt := List.mem_range.1 hk
    exact h _ (by omega)
  rw [frameMsg, frameMsg, frameDataSize, frameDataSize, hid, hlen, hpayload]

/-! ## The message the format describes -/

/-- Message `i` of a datagram, field by field.  A length byte above 8 is not the format's, so
there the payload is left open. -/
structure ParsedFrame (d : Datagram) (i : Nat) (msg : PassthruMsg) : Prop where
  protocolID : msg.protocolID = can
  rxStatus : msg.rxStatus = 0
  txFlags : msg.txFlags = 0
  timestamp : msg.timestamp = 0
  extraDataIndex : msg.extraDataIndex = 0
  dataSize : msg.dataSize.toNat = 4 + (d.lengthByte i).toNat
  ids : msg.bytes 0 4 = (d.bytes.drop (frameOffset i)).take 4
  data : (d.lengthByte i).toNat ≤ maxCanFrameDataLen →
    msg.bytes 4 (d.lengthByte i).toNat =
      (d.bytes.drop (dataOffset i)).take (d.lengthByte i).toNat
  zeros : (d.lengthByte i).toNat ≤ maxCanFrameDataLen →
    ∀ j (hj : j < 4128), 4 + (d.lengthByte i).toNat ≤ j → msg.data ⟨j, hj⟩ = 0

theorem parsedFrame (mem : Mem) (d : Datagram) (i : Nat)
    (h : frameOffset i + sizeofCanFrame ≤ d.bytes.length) :
    ParsedFrame d i (frameMsg (recv mem d) i) := by
  have h13 : sizeofCanFrame = 13 := rfl
  have h8 : maxCanFrameDataLen = 8 := rfl
  have hoffset : dataOffset i = frameOffset i + 5 := rfl
  have hlen := frameLength_recv mem d i (by omega)
  have hbyte := (d.lengthByte i).toNat_lt
  have hids : leBytes 4 (frameId (recv mem d) i).toNat = (d.bytes.drop (frameOffset i)).take 4 := by
    rw [leBytes_frameId, ← recv_range mem d (frameOffset i) 4 (by omega)]
    rfl
  have hsize : (leBytes 4 (frameId (recv mem d) i).toNat ++
      (payloadSources (recv mem d) i).map (recv mem d)).length = 4 + (d.lengthByte i).toNat := by
    simp only [payloadSources, List.length_append, length_leBytes, List.length_map,
      List.length_range, hlen]
  have hfront := (frameMsg (recv mem d) i).bytes_dataOf _ (by rw [hsize]; omega) rfl
  rw [hsize, PassthruMsg.bytes_add] at hfront
  obtain ⟨hfirst, hrest⟩ := List.append_inj hfront (by simp)
  refine ⟨rfl, rfl, rfl, rfl, rfl, ?_, hfirst.trans hids, fun hle => ?_, fun hle j hj hge => ?_⟩
  · show (UInt32.ofNat (frameDataSize (recv mem d) i)).toNat = _
    rw [frameDataSize, hlen, UInt32.toNat_ofNat']
    omega
  · rw [hrest, ← recv_range mem d (dataOffset i) _ (by omega)]
    simp only [payloadSources, hlen, List.map_map]
    rfl
  · exact List.getD_eq_default _ 0 (by rw [hsize]; exact hge)

/-! ## The receive step -/

/-- The queue after the loop has handled a datagram. -/
def queueAfter (version : UInt8) (mem : Mem) (queue : List PassthruMsg) (d : Datagram) :
    List PassthruMsg :=
  (Receiver.poll version ⟨mem, true, queue⟩ (.datagram d)).msgQueue

theorem queueAfter_eq (version : UInt8) (mem : Mem) (queue : List PassthruMsg) (d : Datagram) :
    queueAfter version mem queue d =
      if d.wellFormed version then queue ++ d.messages mem else queue := by
  rw [queueAfter, poll_datagram version _ d rfl]
  split <;> rfl

/-- The two start with the same header and frames. -/
def SameFrames (d d' : Datagram) : Prop :=
  d'.bytes.take (frameOffset d.count) = d.bytes.take (frameOffset d.count)

/-- The parser does with `d` what the format says. -/
def ParsesExactly (version : UInt8) (mem : Mem) (queue : List PassthruMsg) (d : Datagram) : Prop :=
  if d.wellFormed version then
    (∃ msgs, queueAfter version mem queue d = queue ++ msgs ∧ msgs.length = d.count ∧
      ∀ i (hi : i < msgs.length), ParsedFrame d i msgs[i]) ∧
    ∀ d', SameFrames d d' → queueAfter version mem queue d' = queueAfter version mem queue d
  else queueAfter version mem queue d = queue

/-- The arithmetic of the checks on words of at least 32 bits. -/
structure ChecksExact (d : Datagram) : Prop where
  framesSize : ∀ w ≥ 32, sizeofDataPacket ≤ d.bytes.length →
    (BitVec.ofNat w d.bytes.length - BitVec.ofNat w sizeofDataPacket).toNat =
      d.bytes.length - sizeofDataPacket
  needed : ∀ w ≥ 32, (BitVec.ofNat w d.count * BitVec.ofNat w sizeofCanFrame).toNat =
    d.count * sizeofCanFrame

theorem checksExact (d : Datagram) : ChecksExact d := by
  have hle : d.bytes.length ≤ 1500 := d.le
  have h5 : sizeofDataPacket = 5 := rfl
  have h13 : sizeofCanFrame = 13 := rfl
  have hcount : d.count < 256 ^ 2 := ofLE_lt_of_length _ rfl
  have hword : ∀ w ≥ 32, 2 ^ 32 ≤ 2 ^ w := fun w hw => Nat.pow_le_pow_right (by decide) hw
  constructor
  · intro w hw hsize
    have hw32 := hword w hw
    rw [BitVec.toNat_sub_of_le]
    · rw [BitVec.toNat_ofNat, BitVec.toNat_ofNat, Nat.mod_eq_of_lt (by omega),
        Nat.mod_eq_of_lt (by omega)]
    · rw [BitVec.le_def, BitVec.toNat_ofNat, BitVec.toNat_ofNat, Nat.mod_eq_of_lt (by omega),
        Nat.mod_eq_of_lt (by omega)]
      exact hsize
  · intro w hw
    have hw32 := hword w hw
    rw [BitVec.toNat_mul, BitVec.toNat_ofNat, BitVec.toNat_ofNat,
      Nat.mod_eq_of_lt (a := d.count) (by omega), Nat.mod_eq_of_lt (a := sizeofCanFrame) (by omega)]
    exact Nat.mod_eq_of_lt (by rw [h13]; omega)

/-! ## What follows the frames -/

/-- A datagram that holds its header and frames. -/
theorem frameOffset_count_le (version : UInt8) (d : Datagram) (h : d.wellFormed version = true) :
    sizeofDataPacket ≤ frameOffset d.count ∧ frameOffset d.count ≤ d.bytes.length := by
  simp only [Datagram.wellFormed, Bool.and_eq_true, decide_eq_true_eq] at h
  obtain ⟨⟨h5, -⟩, hcount⟩ := h
  rw [frameOffset]
  omega

section
variable {version : UInt8} {d d' : Datagram}

theorem SameFrames.length_le (hw : d.wellFormed version = true) (h : SameFrames d d') :
    frameOffset d.count ≤ d'.bytes.length := by
  have hle := (frameOffset_count_le version d hw).2
  have hlen := congrArg List.length h
  rw [List.length_take, List.length_take] at hlen
  omega

/-- Up to the end of the frames the two are one. -/
theorem SameFrames.getD_eq (h : SameFrames d d') (o : Nat) (ho : o < frameOffset d.count) :
    d'.bytes.getD o 0 = d.bytes.getD o 0 := by
  have hget := congrArg (fun bs : List UInt8 => bs[o]?) h
  simp only [List.getElem?_take, if_pos ho] at hget
  rw [List.getD_eq_getElem?_getD, List.getD_eq_getElem?_getD, hget]

theorem SameFrames.count_eq (hw : d.wellFormed version = true) (h : SameFrames d d') :
    d'.count = d.count := by
  have h5 : 5 ≤ frameOffset d.count := (frameOffset_count_le version d hw).1
  rw [Datagram.count, h.getD_eq 3 (by omega), h.getD_eq 4 (by omega)]
  rfl

theorem SameFrames.wellFormed (hw : d.wellFormed version = true) (h : SameFrames d d') :
    d'.wellFormed version = true := by
  obtain ⟨h5, -⟩ := frameOffset_count_le version d hw
  have hle := h.length_le hw
  have hcount := h.count_eq hw
  have hversion := h.getD_eq 0 (Nat.lt_of_lt_of_le (by decide) h5)
  simp only [Datagram.wellFormed, Bool.and_eq_true, decide_eq_true_eq] at hw ⊢
  rw [hversion, hcount]
  rw [frameOffset] at hle
  exact ⟨⟨by omega, hw.1.2⟩, by omega⟩

theorem SameFrames.recv_eq (hw : d.wellFormed version = true) (h : SameFrames d d') (mem : Mem)
    (o : Nat) (ho : o < frameOffset d.count) : recv mem d o = recv mem d' o := by
  have hle := (frameOffset_count_le version d hw).2
  have hle' := h.length_le hw
  have hget := h.getD_eq o ho
  rw [List.getD_eq_getElem _ 0 (by omega), List.getD_eq_getElem _ 0 (by omega)] at hget
  rw [recv_eq_getElem mem d o (by omega), recv_eq_getElem mem d' o (by omega), hget]

end

/-- No copy runs past the frames. -/
def CopiesWithin (d : Datagram) : Prop :=
  ∀ i < d.count, dataOffset i + (d.lengthByte i).toNat ≤ frameOffset d.count

/-- A length byte within its frame, in the memory of the datagram. -/
theorem frameLength_eq (version : UInt8) (mem : Mem) (d : Datagram)
    (h : d.wellFormed version = true) (i : Nat) (hi : i < d.count) :
    frameLength (recv mem d) i = d.lengthByte i := by
  have hle := frame_le_length version d h i hi
  have h13 : sizeofCanFrame = 13 := rfl
  exact frameLength_recv mem d i (by omega)

/-- Where no copy runs past the frames, what follows them is not read. -/
theorem messages_sameFrames (version : UInt8) (mem : Mem) (d d' : Datagram)
    (hw : d.wellFormed version = true) (hcopies : CopiesWithin d) (h : SameFrames d d') :
    d'.messages mem = d.messages mem := by
  rw [d'.messages_eq, d.messages_eq, h.count_eq hw]
  apply List.map_congr_left
  intro i hi
  have hlt := List.mem_range.1 hi
  refine (frameMsg_congr (fun o ho => h.recv_eq hw mem o ho) ?_).symm
  rw [frameLength_eq version mem d hw i hlt]
  exact hcopies i hlt

/-- Where the frames fill the buffer, nothing follows them. -/
theorem eq_of_sameFrames (version : UInt8) (d d' : Datagram) (hw : d.wellFormed version = true)
    (hfull : frameOffset d.count = maxPacketSize) (h : SameFrames d d') : d' = d := by
  have hle := (frameOffset_count_le version d hw).2
  have hle' := h.length_le hw
  have hd := d.le
  have hd' := d'.le
  obtain ⟨bytes, hpos, hmax⟩ := d
  obtain ⟨bytes', hpos', hmax'⟩ := d'
  have hfront : bytes'.take _ = bytes.take _ := h
  rw [List.take_of_length_le (by omega), List.take_of_length_le (by omega)] at hfront
  subst hfront
  rfl

/-- `d` cut behind its frames, with one byte there. -/
def Datagram.withTrailing (d : Datagram) (b : UInt8) (h : frameOffset d.count < maxPacketSize) :
    Datagram where
  bytes := d.bytes.take (frameOffset d.count) ++ [b]
  pos := by simp
  le := by
    rw [List.length_append, List.length_take, List.length_singleton]
    omega

/-- The byte of `Data` that a copy past the frames fills from the byte behind them. -/
theorem frameMsg_data (mem : Mem) (i n : Nat) (hlow : dataOffset i ≤ n)
    (hn : n < dataOffset i + (frameLength mem i).toNat) (hj : 4 + (n - dataOffset i) < 4128) :
    (frameMsg mem i).data ⟨4 + (n - dataOffset i), hj⟩ = mem n := by
  have hid : (leBytes 4 (frameId mem i).toNat).length = 4 := length_leBytes _ _
  show (leBytes 4 (frameId mem i).toNat ++ (payloadSources mem i).map mem).getD
    (4 + (n - dataOffset i)) 0 = _
  rw [List.getD_append_right _ _ _ _ (by omega), hid, Nat.add_sub_cancel_left,
    List.getD_eq_getElem _ 0 (by simp only [payloadSources, List.length_map, List.length_range]; omega)]
  simp only [payloadSources, List.getElem_map, List.getElem_range]
  congr 1
  omega

/-- What lies behind the frames is the byte put there. -/
theorem recv_withTrailing (mem : Mem) (d : Datagram) (b : UInt8)
    (h : frameOffset d.count < maxPacketSize) (hle : frameOffset d.count ≤ d.bytes.length) :
    recv mem (d.withTrailing b h) (frameOffset d.count) = b := by
  have hlen : (d.bytes.take (frameOffset d.count)).length = frameOffset d.count := by
    rw [List.length_take]
    omega
  have hbytes : (d.withTrailing b h).bytes = d.bytes.take (frameOffset d.count) ++ [b] := rfl
  rw [recv, hbytes, List.getD_append_right _ _ _ _ (Nat.le_of_eq hlen), hlen, Nat.sub_self]
  rfl

/-- A copy past the frames shows the byte behind them. -/
theorem trailing_shows (version : UInt8) (mem : Mem) (d : Datagram)
    (hw : d.wellFormed version = true) (hroom : frameOffset d.count < maxPacketSize) (i : Nat)
    (hi : i < d.count) (hover : frameOffset d.count < dataOffset i + (d.lengthByte i).toNat) :
    ∃ d', SameFrames d d' ∧ d'.messages mem ≠ d.messages mem := by
  have hle := (frameOffset_count_le version d hw).2
  have hlow : dataOffset i ≤ frameOffset d.count := by
    have hnext := frameOffset_mono hi
    have h13 : sizeofCanFrame = 13 := rfl
    rw [dataOffset]
    omega
  have hbyte := (d.lengthByte i).toNat_lt
  obtain ⟨d', hd'⟩ : ∃ d', d' = d.withTrailing (recv mem d (frameOffset d.count) + 1) hroom :=
    ⟨_, rfl⟩
  have hsame : SameFrames d d' := by
    rw [hd', SameFrames, Datagram.withTrailing, List.take_left' (by rw [List.length_take]; omega)]
  refine ⟨d', hsame, fun heq => ?_⟩
  rw [d'.messages_eq, d.messages_eq, hsame.count_eq hw] at heq
  have hmsg := List.map_inj_left.1 heq i (List.mem_range.2 hi)
  have hlen := frameLength_eq version mem d hw i hi
  have hlen' := frameLength_eq version mem d' (hsame.wellFormed hw) i (by rwa [hsame.count_eq hw])
  have hsameByte : d'.lengthByte i = d.lengthByte i :=
    hsame.getD_eq _ (by rw [dataOffset] at hlow; omega)
  have hdata := congrArg (fun msg : PassthruMsg => msg.data
    ⟨4 + (frameOffset d.count - dataOffset i), by omega⟩) hmsg
  rw [frameMsg_data _ _ _ hlow (by rw [hlen', hsameByte]; exact hover),
    frameMsg_data _ _ _ hlow (by rw [hlen]; exact hover), hd',
    recv_withTrailing mem d _ hroom hle] at hdata
  exact absurd hdata (by simp)

/-! ## The parser and the format -/

/-- **When the parser does what the format says.**  The checks never wrap; fields, order and
rejection are always right; what follows the frames stays unread exactly when no copy runs
past them, or the frames fill the buffer. -/
theorem parsesExactly_iff (version : UInt8) (mem : Mem) (queue : List PassthruMsg) (d : Datagram) :
    (ChecksExact d ∧ ParsesExactly version mem queue d) ↔
      (d.wellFormed version = true → frameOffset d.count = maxPacketSize ∨ CopiesWithin d) := by
  rw [and_iff_right (checksExact d), ParsesExactly, queueAfter_eq]
  by_cases hw : d.wellFormed version = true
  · rw [if_pos hw, if_pos hw, forall_prop_of_true hw]
    have hfields : ∃ msgs, queue ++ d.messages mem = queue ++ msgs ∧ msgs.length = d.count ∧
        ∀ i (hi : i < msgs.length), ParsedFrame d i msgs[i] := by
      refine ⟨d.messages mem, rfl, d.length_messages mem, ?_⟩
      rw [d.messages_eq]
      intro i hi
      rw [List.getElem_map, List.getElem_range]
      rw [List.length_map, List.length_range] at hi
      exact parsedFrame mem d i (frame_le_length version d hw i hi)
    have hqueue : ∀ d', SameFrames d d' →
        (queueAfter version mem queue d' = queue ++ d.messages mem ↔
          d'.messages mem = d.messages mem) := by
      intro d' hsame
      rw [queueAfter_eq, if_pos (hsame.wellFormed hw), List.append_cancel_left_eq]
    rw [and_iff_right hfields]
    constructor
    · intro hall
      by_contra hnot
      obtain ⟨hfull, hcopies⟩ := not_or.1 hnot
      obtain ⟨i, hi, hover⟩ : ∃ i, i < d.count ∧
          frameOffset d.count < dataOffset i + (d.lengthByte i).toNat := by
        simpa [CopiesWithin] using hcopies
      have hle := (frameOffset_count_le version d hw).2
      have hmax := d.le
      obtain ⟨d', hsame, hne⟩ := trailing_shows version mem d hw (by omega) i hi hover
      exact hne ((hqueue d' hsame).1 (hall d' hsame))
    · rintro (hfull | hcopies) d' hsame
      · rw [eq_of_sameFrames version d d' hw hfull hsame, queueAfter_eq, if_pos hw]
      · exact (hqueue d' hsame).2 (messages_sameFrames version mem d d' hw hcopies hsame)
  · rw [if_neg hw, if_neg hw]
    exact iff_of_true rfl fun h => absurd h hw

/-- A length byte of 9: the byte behind the only frame is the ninth of its message. -/
theorem parsesExactly_nine :
    let d : Datagram :=
      ⟨[1, 0, 0, 1, 0, 0x80, 0x07, 0xE0, 0x00, 9, 1, 2, 3, 4, 5, 6, 7, 8], by decide, by decide⟩
    ¬ParsesExactly 1 (fun _ => 0) [] d := by
  intro d h
  let d' : Datagram :=
    ⟨[1, 0, 0, 1, 0, 0x80, 0x07, 0xE0, 0x00, 9, 1, 2, 3, 4, 5, 6, 7, 8, 0xFF], by decide, by decide⟩
  have hw : d.wellFormed 1 = true := by decide
  rw [ParsesExactly, if_pos hw] at h
  have hqueue := h.2 d' rfl
  have hdata := congrArg (fun q => q.map fun msg : PassthruMsg => msg.data 12) hqueue
  exact absurd hdata (by decide)

end J2534Oip
