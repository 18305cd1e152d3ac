import J2534Oip.Cannelloni.Packet
import Mathlib.Data.List.GetD

/-!
# The receive loop

`startReceiveThread` reads datagrams into one buffer and appends the messages of each to
the channel's queue.  Two of its properties fail, each on a kind of input:

* a malformed datagram ends the loop, so the queue grows as it should exactly when no
  well-formed datagram with frames follows a malformed one (`receiveLoop_eq_iff`);
* the payload copy trusts the length byte, so a message is filled from its own frame
  exactly when that byte is at most 8 (`framesLocal_iff`).
-/

namespace J2534Oip

open Bytes

/-! ## One datagram -/

/-- The source offsets of `std::copy_n(f.data, f.length, msg.Data + 4)` for `f = frames[i]`. -/
def payloadSources (mem : Mem) (i : Nat) : List Nat :=
  (List.range (frameLength mem i).toNat).map (dataOffset i + ·)

/-- `4 + f.length` -/
def frameDataSize (mem : Mem) (i : Nat) : Nat := 4 + (frameLength mem i).toNat

/-- The message of `frames[i]`; `none` is the `continue` of a frame that does not fit `Data`. -/
def parseFrame (mem : Mem) (i : Nat) : Option PassthruMsg :=
  if frameDataSize mem i > 4128 then none
  else some { PassthruMsg.zero with
    protocolID := can
    dataSize := UInt32.ofNat (frameDataSize mem i)
    data := dataOf (leBytes 4 (frameId mem i).toNat ++ (payloadSources mem i).map mem) }

/-- What the loop does with a datagram of `bytesReceived` bytes: the messages it pushes, or
`none` where it leaves the loop (`break`). -/
def parseDatagram (version : UInt8) (bytesReceived : Nat) (mem : Mem) : Option (List PassthruMsg) :=
  if bytesReceived < sizeofDataPacket then none
  else
    let pkt := CannelloniDataPacket.read mem
    if pkt.version ≠ version then none
    else if bytesReceived - sizeofDataPacket < pkt.count.toNat * sizeofCanFrame then none
    else some ((List.range pkt.count.toNat).filterMap (parseFrame mem))

/-! ## The loop -/

/-- One pass of the loop: `select` or `recv` has nothing, or there is a datagram. -/
inductive Poll
  | quiet
  | datagram (d : Datagram)

/-- The thread's buffer, whether it is still in its loop, and the queue it fills. -/
structure Receiver where
  buffer : Mem
  running : Bool
  msgQueue : List PassthruMsg

/-- A pass of the loop of a channel that is not asked to stop. -/
def Receiver.poll (version : UInt8) (r : Receiver) : Poll → Receiver
  | .quiet => r
  | .datagram d =>
    if r.running then
      let mem := recv r.buffer d
      match parseDatagram version d.bytes.length mem with
      | none => { r with buffer := mem, running := false }
      | some msgs => { r with buffer := mem, msgQueue := r.msgQueue ++ msgs }
    else r

def receiveLoop (version : UInt8) (r : Receiver) (polls : List Poll) : Receiver :=
  polls.foldl (Receiver.poll version) r

/-- The datagrams among the passes. -/
def datagrams : List Poll → List Datagram
  | [] => []
  | .quiet :: polls => datagrams polls
  | .datagram d :: polls => d :: datagrams polls

/-! ## Well-formed datagrams -/

/-- The `count` field of a datagram. -/
def Datagram.count (d : Datagram) : Nat := ofLE [d.bytes.getD 3 0, d.bytes.getD 4 0]

/-- At least a header, the right version, and as many frames as it says. -/
def Datagram.wellFormed (version : UInt8) (d : Datagram) : Bool :=
  decide (sizeofDataPacket ≤ d.bytes.length) && decide (d.bytes.getD 0 0 = version) &&
    decide (d.count * sizeofCanFrame ≤ d.bytes.length - sizeofDataPacket)

/-- The messages of a datagram, received into `mem`. -/
def Datagram.messages (mem : Mem) (d : Datagram) : List PassthruMsg :=
  (List.range d.count).filterMap (parseFrame (recv mem d))

/-- What the datagrams should bring: every well-formed one its messages. -/
def expectedMessages (version : UInt8) : Mem → List Datagram → List PassthruMsg
  | _, [] => []
  | mem, d :: ds =>
    (if d.wellFormed version then d.messages mem else []) ++ expectedMessages version (recv mem d) ds

/-- No frame is too long for `Data`: its length is a byte. -/
theorem frameDataSize_le (mem : Mem) (i : Nat) : frameDataSize mem i ≤ 259 := by
  have hlt := (frameLength mem i).toNat_lt
  rw [frameDataSize]
  omega

theorem parseFrame_isSome (mem : Mem) (i : Nat) : (parseFrame mem i).isSome = true := by
  have hle := frameDataSize_le mem i
  rw [parseFrame, if_neg (by omega)]
  rfl

theorem Datagram.length_messages (mem : Mem) (d : Datagram) : (d.messages mem).length = d.count := by
  have hmem : ∀ n, ((List.range n).filterMap (parseFrame (recv mem d))).length = n := by
    intro n
    induction n with
    | zero => rfl
    | succ n ih =>
      obtain ⟨msg, hmsg⟩ := Option.isSome_iff_exists.1 (parseFrame_isSome (recv mem d) n)
      rw [List.range_succ, List.filterMap_append, List.length_append, ih]
      simp only [List.filterMap_cons, hmsg, List.filterMap_nil, List.length_singleton]
  exact hmem d.count

/-- The header as the loop reads it is the header of the datagram. -/
theorem read_recv (mem : Mem) (d : Datagram) (h : sizeofDataPacket ≤ d.bytes.length) :
    (CannelloniDataPacket.read (recv mem d)).version = d.bytes.getD 0 0 ∧
      (CannelloniDataPacket.read (recv mem d)).count.toNat = d.count := by
  have h5 : 5 ≤ d.bytes.length := h
  have hget : ∀ i, i < 5 → recv mem d i = d.bytes.getD i 0 := by
    intro i hi
    rw [recv_eq_getElem mem d i (by omega), List.getD_eq_getElem _ 0 (by omega)]
  refine ⟨hget 0 (by omega), ?_⟩
  have hlt := ofLE_lt_of_length (k := 2) [d.bytes.getD 3 0, d.bytes.getD 4 0] rfl
  show (UInt16.ofNat (ofLE [recv mem d 3, recv mem d 4])).toNat = _
  rw [hget 3 (by omega), hget 4 (by omega), UInt16.toNat_ofNat']
  exact Nat.mod_eq_of_lt (by omega)

/-- **The parser's three checks are the format.** -/
theorem parseDatagram_eq (version : UInt8) (mem : Mem) (d : Datagram) :
    parseDatagram version d.bytes.length (recv mem d) =
      if d.wellFormed version then some (d.messages mem) else none := by
  by_cases h5 : sizeofDataPacket ≤ d.bytes.length
  · obtain ⟨hversion, hcount⟩ := read_recv mem d h5
    simp only [parseDatagram, Datagram.wellFormed, if_neg (Nat.not_lt.2 h5), hversion, hcount, h5,
      decide_true, Bool.true_and, Bool.and_eq_true, decide_eq_true_eq]
    by_cases hv : d.bytes.getD 0 0 = version
    · rw [if_neg (fun hne => hne hv)]
      by_cases hc : d.count * sizeofCanFrame ≤ d.bytes.length - sizeofDataPacket
      · rw [if_neg (Nat.not_lt.2 hc), if_pos ⟨hv, hc⟩]
        rfl
      · rw [if_pos (Nat.lt_of_not_le hc), if_neg fun h => hc h.2]
    · rw [if_pos hv, if_neg fun h => hv h.1]
  · rw [parseDatagram, if_pos (Nat.lt_of_not_le h5), Datagram.wellFormed, decide_eq_false h5]
    rfl

/-! ## The whole loop -/

/-- Nothing is pushed once the loop has been left. -/
theorem receiveLoop_stopped (version : UInt8) (r : Receiver) (polls : List Poll)
    (h : r.running = false) : receiveLoop version r polls = r := by
  induction polls with
  | nil => rfl
  | cons p polls ih =>
    have hp : r.poll version p = r := by
      cases p with
      | quiet => rfl
      | datagram d => simp [Receiver.poll, h]
    show receiveLoop version (r.poll version p) polls = r
    rw [hp, ih]

/-- A pass with a datagram, in the terms of the format. -/
theorem poll_datagram (version : UInt8) (r : Receiver) (d : Datagram) (h : r.running = true) :
    r.poll version (.datagram d) =
      if d.wellFormed version then
        { r with buffer := recv r.buffer d, msgQueue := r.msgQueue ++ d.messages r.buffer }
      else { r with buffer := recv r.buffer d, running := false } := by
  simp only [Receiver.poll, h, if_true, parseDatagram_eq]
  cases d.wellFormed version <;> rfl

theorem expectedMessages_eq_nil (version : UInt8) (mem : Mem) (ds : List Datagram) :
    expectedMessages version mem ds = [] ↔ ∀ d ∈ ds, d.wellFormed version = true → d.count = 0 := by
  induction ds generalizing mem with
  | nil => simp [expectedMessages]
  | cons d ds ih =>
    have hd : (if d.wellFormed version then d.messages mem else []) = [] ↔
        (d.wellFormed version = true → d.count = 0) := by
      split
      · next hw => rw [← List.length_eq_zero_iff, d.length_messages]; simp [hw]
      · next hw => simp [hw]
    rw [expectedMessages, List.append_eq_nil_iff, hd, ih, List.forall_mem_cons]

/-- No well-formed datagram with frames comes after a malformed one. -/
def NothingAfterMalformed (version : UInt8) (ds : List Datagram) : Prop :=
  ds.Pairwise fun d e => d.wellFormed version = false → e.wellFormed version = true → e.count = 0

/-- **What a bad datagram costs.**  The queue grows by the messages of all well-formed
datagrams exactly when none of those that bring messages comes after a malformed one: the
malformed one ends the loop. -/
theorem receiveLoop_eq_iff (version : UInt8) (mem : Mem) (queue : List PassthruMsg)
    (polls : List Poll) :
    (receiveLoop version ⟨mem, true, queue⟩ polls).msgQueue =
        queue ++ expectedMessages version mem (datagrams polls) ↔
      NothingAfterMalformed version (datagrams polls) := by
  induction polls generalizing mem queue with
  | nil => simp [receiveLoop, datagrams, expectedMessages, NothingAfterMalformed]
  | cons p polls ih =>
    cases p with
    | quiet => exact ih mem queue
    | datagram d =>
      show (receiveLoop version (Receiver.poll version ⟨mem, true, queue⟩ (.datagram d)) polls).msgQueue
        = queue ++ expectedMessages version mem (d :: datagrams polls) ↔ _
      rw [poll_datagram version _ d rfl]
      simp only [datagrams, NothingAfterMalformed, List.pairwise_cons, expectedMessages]
      cases hw : d.wellFormed version with
      | true =>
        simp only [if_true, ← List.append_assoc]
        rw [ih (recv mem d) (queue ++ d.messages mem)]
        simp [NothingAfterMalformed]
      | false =>
        rw [if_neg Bool.false_ne_true, if_neg Bool.false_ne_true, receiveLoop_stopped _ _ _ rfl,
          List.nil_append, List.self_eq_append_right, expectedMessages_eq_nil]
        constructor
        · intro hnil
          exact ⟨fun e he _ hwe => hnil e he hwe,
            List.pairwise_of_forall_mem_list fun _ _ e he _ hwe => hnil e he hwe⟩
        · rintro ⟨hall, -⟩ e he hwe
          exact hall e he rfl hwe

/-- One byte, then a whole packet: the packet is never read. -/
theorem receiveLoop_short_first :
    let short : Datagram := ⟨[1], by decide, by decide⟩
    let whole : Datagram :=
      ⟨[1, 0, 0, 1, 0, 0x80, 0x07, 0xE0, 0x00, 8, 1, 2, 3, 4, 5, 6, 7, 8], by decide, by decide⟩
    let polls := [Poll.datagram short, Poll.datagram whole]
    (receiveLoop 1 ⟨fun _ => 0, true, []⟩ polls).msgQueue ≠
      [] ++ expectedMessages 1 (fun _ => 0) (datagrams polls) := by
  intro short whole polls h
  have hlen := congrArg List.length h
  exact absurd hlen (by decide)

/-! ## Where a message's bytes come from -/

/-- The payload of message `i` is read from the data field of frame `i`, inside what was
received. -/
structure FrameLocal (mem : Mem) (d : Datagram) (i : Nat) : Prop where
  dataSize : frameDataSize (recv mem d) i ≤ 4 + maxCanFrameDataLen
  field : ∀ o ∈ payloadSources (recv mem d) i,
    dataOffset i ≤ o ∧ o < dataOffset i + maxCanFrameDataLen
  received : ∀ o ∈ payloadSources (recv mem d) i, o < d.bytes.length

/-- Frame `i` of a well-formed datagram lies within it. -/
theorem frame_le_length (version : UInt8) (d : Datagram) (h : d.wellFormed version = true)
    (i : Nat) (hi : i < d.count) : frameOffset i + sizeofCanFrame ≤ d.bytes.length := by
  simp only [Datagram.wellFormed, Bool.and_eq_true, decide_eq_true_eq] at h
  obtain ⟨⟨h5, -⟩, hcount⟩ := h
  have hframe : (i + 1) * sizeofCanFrame ≤ d.count * sizeofCanFrame := Nat.mul_le_mul_right _ hi
  rw [Nat.add_mul, Nat.one_mul] at hframe
  rw [frameOffset]
  omega

/-- **What the length byte decides.**  Every message of a datagram that passes the header
checks is filled from its own frame exactly when every length byte is at most 8. -/
theorem framesLocal_iff (version : UInt8) (mem : Mem) (d : Datagram)
    (h : d.wellFormed version = true) :
    (∀ i < d.count, FrameLocal mem d i) ↔
      ∀ i < d.count, (d.bytes.getD (frameOffset i + 4) 0).toNat ≤ maxCanFrameDataLen := by
  refine forall₂_congr fun i hi => ?_
  have hle := frame_le_length version d h i hi
  have h13 : sizeofCanFrame = 13 := rfl
  have hbyte : frameLength (recv mem d) i = d.bytes.getD (frameOffset i + 4) 0 := by
    rw [frameLength, recv_eq_getElem mem d _ (by omega), List.getD_eq_getElem _ 0 (by omega)]
  rw [← hbyte]
  constructor
  · intro hlocal
    have hsize := hlocal.dataSize
    rw [frameDataSize] at hsize
    omega
  · intro h8
    have hsource : ∀ o ∈ payloadSources (recv mem d) i,
        dataOffset i ≤ o ∧ o < dataOffset i + maxCanFrameDataLen := by
      intro o ho
      obtain ⟨k, hk, rfl⟩ := List.mem_map.1 ho
      have hlt := List.mem_range.1 hk
      omega
    refine ⟨by rw [frameDataSize]; omega, hsource, fun o ho => ?_⟩
    have hfield := (hsource o ho).2
    have h8' : maxCanFrameDataLen = 8 := rfl
    rw [dataOffset] at hfield
    omega

theorem framesLocal_whole :
    let d : Datagram :=
      ⟨[1, 0, 0, 1, 0, 0x80, 0x07, 0xE0, 0x00, 8, 1, 2, 3, 4, 5, 6, 7, 8], by decide, by decide⟩
    d.wellFormed 1 = true ∧ ((∀ i < d.count, FrameLocal (fun _ => 0) d i) ↔
      ∀ i < d.count, (d.bytes.getD (frameOffset i + 4) 0).toNat ≤ maxCanFrameDataLen) := by
  intro d
  have h : d.wellFormed 1 = true := by decide
  exact ⟨h, framesLocal_iff 1 (fun _ => 0) d h⟩

/-- A length byte of 9 makes the copy read the byte behind the datagram. -/
theorem framesLocal_nine :
    let d : Datagram :=
      ⟨[1, 0, 0, 1, 0, 0x80, 0x07, 0xE0, 0x00, 9, 1, 2, 3, 4, 5, 6, 7, 8], by decide, by decide⟩
    d.wellFormed 1 = true ∧ ¬∀ i < d.count, FrameLocal (fun _ => 0) d i := by
  intro d
  refine ⟨by decide, fun h => ?_⟩
  have hlt := (h 0 (by decide)).received 18 (by decide)
  exact absurd hlt (by decide)

end J2534Oip
