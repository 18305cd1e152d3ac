import J2534Oip.Cannelloni.Client
import J2534Oip.Cannelloni.Receive

/-!
# `PassThruWriteMsgs`

One datagram a message, in order, until a message is invalid or a send fails.
`writeLoop_spec` says where the loop stops and what was sent by then; the results about the
return value and the count follow from it:

* the status is right exactly when no invalid message is reached (`passThruWriteMsgs_status_iff`);
* the count is right exactly when no failing send is reached (`passThruWriteMsgs_count_iff`);
* the receive loop takes a datagram back to its message exactly when the message has 8 data
  bytes (`receiveLoop_buildPacket_iff`).
-/

namespace J2534Oip

open Bytes

/-! ## The datagram of a message -/

/-- The check at the head of the loop body. -/
def validMsg (msg : PassthruMsg) : Bool :=
  !((msg.protocolID != can && msg.protocolID != canPs) || decide (msg.dataSize < 4) ||
    decide (4 + maxCanFrameDataLen < msg.dataSize.toNat))

/-- The ID as the machine reads `Data[0..3]`, with the extended frame flag. -/
def buildCanId (msg : PassthruMsg) : UInt32 :=
  let canId := UInt32.ofNat (ofLE (msg.bytes 0 4))
  if msg.txFlags &&& can29BitId != 0 then canId ||| canEffFlag else canId

/-- `frame.length` -/
def buildLength (msg : PassthruMsg) : UInt8 := UInt8.ofNat (msg.dataSize.toNat - 4)

def buildFrame (msg : PassthruMsg) : CannelloniCanFrame :=
  { canId := buildCanId msg
    length := buildLength msg
    data := fun k => if k < (buildLength msg).toNat then (msg.bytes 4 maxCanFrameDataLen).getD k 0 else 0 }

/-- The `buffer` given to `sendto`. -/
def buildPacket (version seqNo : UInt8) (msg : PassthruMsg) : List UInt8 :=
  let pkt : CannelloniDataPacket :=
    { version := version, opCode := OpCodes.data.code, seqNo := seqNo, count := 1 }
  pkt.toBytes ++ (buildFrame msg).toBytes

/-! ## The loop -/

structure WriteState where
  seqNo : UInt8
  sentMsgs : Nat
  /-- what was given to `sendto`, with what it returned -/
  sends : List (List UInt8 × Int)

def WriteState.start (seqNo : UInt8) : WriteState := { seqNo := seqNo, sentMsgs := 0, sends := [] }

/-- How the loop is left. -/
inductive WriteExit
  | allSent | invalidMsg | sendFailed
deriving DecidableEq

/-- The `for` loop over what is left of the batch; `sendto k` is what the `k`-th call of
`sendto` returns, which is the one for message `k`. -/
def writeLoop (version : UInt8) :
    (sendto : Nat → Int) → List PassthruMsg → WriteState → WriteState × WriteExit
  | _, [], s => (s, .allSent)
  | sendto, msg :: msgs, s =>
    if validMsg msg then
      let buffer := buildPacket version s.seqNo msg
      let s' := { s with seqNo := s.seqNo + 1, sends := s.sends ++ [(buffer, sendto 0)] }
      if sendto 0 = buffer.length then
        writeLoop version (fun k => sendto (k + 1)) msgs { s' with sentMsgs := s.sentMsgs + 1 }
      else (s', .sendFailed)
    else (s, .invalidMsg)

/-- What a call gives back: its status, `*pNumMsgs`, and what it sent. -/
structure WriteResult where
  retval : J2534Err
  numMsgs : Nat
  sends : List (List UInt8 × Int)

/-- How many datagrams were sent completely. -/
def sentCompletely (sends : List (List UInt8 × Int)) : Nat :=
  sends.countP fun s => decide (s.2 = s.1.length)

namespace J2534CannelloniClient

/-- `PassThruWriteMsgs` for the batch `pMsg[0 .. *pNumMsgs)`. -/
def passThruWriteMsgs (client : J2534CannelloniClient) (channelID : UInt32)
    (pMsg : List PassthruMsg) (sendto : Nat → Int) (wsaGetLastError : Int) :
    J2534CannelloniClient × WriteResult :=
  match client.channelMap.lookup channelID with
  | none =>
    (client.fail (utf8 "Invalid ChannelID") .errInvalidChannelId,
      { retval := .errInvalidChannelId, numMsgs := pMsg.length, sends := [] })
  | some ctx =>
    let r := writeLoop client.cannelloniVersion sendto pMsg (.start ctx.seqNo)
    let client := client.setChannel channelID { ctx with seqNo := r.1.seqNo }
    match r.2 with
    | .sendFailed =>
      (client.fail (utf8 s!"Send failed: {wsaGetLastError}") .errFailed,
        { retval := .errFailed, numMsgs := pMsg.length, sends := r.1.sends })
    | exit =>
      let client := if exit = .invalidMsg then
        client.fail (utf8 "Invalid CAN msg format") .errBufferOverflow else client
      -- `*pNumMsgs` is overwritten before it is compared
      let numMsgs := r.1.sentMsgs
      let lastErrorLong : J2534Err := if r.1.sentMsgs = numMsgs then .statusNoError else .errFailed
      ({ client with lastErrorLong := lastErrorLong },
        { retval := lastErrorLong, numMsgs := numMsgs, sends := r.1.sends })

end J2534CannelloniClient

/-! ## Where the loop stops -/

/-- Size of the datagram of a message. -/
def packetSize (msg : PassthruMsg) : Nat := 10 + min (buildLength msg).toNat maxCanFrameDataLen

theorem length_buildPacket (version seqNo : UInt8) (msg : PassthruMsg) :
    (buildPacket version seqNo msg).length = packetSize msg := by
  have h5 : sizeofDataPacket = 5 := rfl
  have h8 : maxCanFrameDataLen = 8 := rfl
  have hlen : (buildFrame msg).length = buildLength msg := rfl
  rw [buildPacket, List.length_append, CannelloniDataPacket.length_toBytes,
    CannelloniCanFrame.length_toBytes, hlen, packetSize]
  omega

/-- Message `msg` is valid and its send, with this outcome, does not go through. -/
def SendFails (outcome : Int) (msg : PassthruMsg) : Prop :=
  validMsg msg = true ∧ outcome ≠ packetSize msg

/-- Every message with `A` comes after one with `B`. -/
def Preceded (A B : Nat → PassthruMsg → Prop) (msgs : List PassthruMsg) : Prop :=
  ∀ k (hk : k < msgs.length), A k msgs[k] → ∃ j, ∃ hj : j < k, B j msgs[j]

theorem preceded_nil (A B : Nat → PassthruMsg → Prop) : Preceded A B [] := by
  intro k hk
  exact absurd hk (Nat.not_lt_zero k)

theorem preceded_cons (A B : Nat → PassthruMsg → Prop) (msg : PassthruMsg)
    (msgs : List PassthruMsg) :
    Preceded A B (msg :: msgs) ↔
      ¬A 0 msg ∧ (B 0 msg ∨ Preceded (fun k => A (k + 1)) (fun k => B (k + 1)) msgs) := by
  constructor
  · intro h
    refine ⟨fun hA => ?_, ?_⟩
    · obtain ⟨j, hj, -⟩ := h 0 (Nat.succ_pos _) hA
      exact Nat.not_lt_zero j hj
    · by_cases hB : B 0 msg
      · exact Or.inl hB
      · refine Or.inr fun k hk hA => ?_
        obtain ⟨j, hj, hBj⟩ := h (k + 1) (Nat.succ_lt_succ hk) hA
        cases j with
        | zero => exact absurd hBj hB
        | succ j => exact ⟨j, Nat.lt_of_succ_lt_succ hj, hBj⟩
  · rintro ⟨hA0, hB⟩ k hk hA
    cases k with
    | zero => exact absurd hA hA0
    | succ k =>
      rcases hB with hB | hB
      · exact ⟨0, Nat.succ_pos k, hB⟩
      · obtain ⟨j, hj, hBj⟩ := hB k (Nat.lt_of_succ_lt_succ hk) hA
        exact ⟨j + 1, Nat.succ_lt_succ hj, hBj⟩

/-- Every invalid message comes after one whose send fails. -/
def InvalidAfterFailure (sendto : Nat → Int) : List PassthruMsg → Prop :=
  Preceded (fun _ msg => validMsg msg = false) fun k msg => SendFails (sendto k) msg

/-- Every message whose send fails comes after an invalid one. -/
def FailureAfterInvalid (sendto : Nat → Int) : List PassthruMsg → Prop :=
  Preceded (fun k msg => SendFails (sendto k) msg) fun _ msg => validMsg msg = false

/-- The loop on a message, by what is wrong with it. -/
theorem writeLoop_cons (version : UInt8) (sendto : Nat → Int) (msg : PassthruMsg)
    (msgs : List PassthruMsg) (s : WriteState) :
    writeLoop version sendto (msg :: msgs) s =
      if validMsg msg then
        let s' := { s with
          seqNo := s.seqNo + 1
          sends := s.sends ++ [(buildPacket version s.seqNo msg, sendto 0)] }
        if sendto 0 = packetSize msg then
          writeLoop version (fun k => sendto (k + 1)) msgs { s' with sentMsgs := s.sentMsgs + 1 }
        else (s', .sendFailed)
      else (s, .invalidMsg) := by
  simp only [writeLoop, length_buildPacket]

/-- The count and the sends agree, and fall short of the batch unless all was sent. -/
theorem writeLoop_spec (version : UInt8) (sendto : Nat → Int) (msgs : List PassthruMsg)
    (s : WriteState) :
    ∃ m ≤ msgs.length, (writeLoop version sendto msgs s).1.sentMsgs = s.sentMsgs + m ∧
      sentCompletely (writeLoop version sendto msgs s).1.sends = sentCompletely s.sends + m ∧
      ((writeLoop version sendto msgs s).2 = .allSent ↔ m = msgs.length) := by
  induction msgs generalizing sendto s with
  | nil => exact ⟨0, Nat.le_refl _, rfl, rfl, by simp [writeLoop]⟩
  | cons msg msgs ih =>
    rw [writeLoop_cons]
    by_cases hv : validMsg msg = true
    · have hcount : ∀ outcome : Int,
          sentCompletely (s.sends ++ [(buildPacket version s.seqNo msg, outcome)]) =
            sentCompletely s.sends + if outcome = packetSize msg then 1 else 0 := by
        intro outcome
        simp [sentCompletely, List.countP_cons, length_buildPacket]
      rw [if_pos hv]
      by_cases hs : sendto 0 = packetSize msg
      · obtain ⟨m, hm, hsent, hsends, hexit⟩ := ih (fun k => sendto (k + 1))
          { seqNo := s.seqNo + 1, sentMsgs := s.sentMsgs + 1,
            sends := s.sends ++ [(buildPacket version s.seqNo msg, sendto 0)] }
        simp only [if_pos hs]
        refine ⟨m + 1, Nat.succ_le_succ hm, ?_, ?_, ?_⟩
        · rw [hsent]
          show s.sentMsgs + 1 + m = s.sentMsgs + (m + 1)
          omega
        · rw [hsends]
          show sentCompletely (s.sends ++ [(buildPacket version s.seqNo msg, sendto 0)]) + m = _
          rw [hcount, if_pos hs]
          omega
        · rw [hexit, List.length_cons]
          omega
      · simp only [if_neg hs]
        exact ⟨0, Nat.zero_le _, rfl, by rw [hcount, if_neg hs], by simp⟩
    · rw [if_neg hv]
      exact ⟨0, Nat.zero_le _, rfl, rfl, by simp⟩

/-- From the start of a call: what was counted is what was sent. -/
theorem writeLoop_start (version seqNo : UInt8) (sendto : Nat → Int) (msgs : List PassthruMsg) :
    ∃ r m, writeLoop version sendto msgs (.start seqNo) = r ∧
      r.1.sentMsgs = m ∧ sentCompletely r.1.sends = m ∧ (r.2 = .allSent ↔ m = msgs.length) := by
  obtain ⟨m, -, hsent, hsends, hall⟩ := writeLoop_spec version sendto msgs (.start seqNo)
  refine ⟨_, m, rfl, ?_, ?_, hall⟩
  · rw [hsent]
    exact Nat.zero_add m
  · rw [hsends]
    exact Nat.zero_add m

/-- Message `k` is one at which the loop is left by this exit. -/
def Stops (sendto : Nat → Int) (k : Nat) (msg : PassthruMsg) : WriteExit → Prop
  | .allSent => False
  | .invalidMsg => validMsg msg = false
  | .sendFailed => SendFails (sendto k) msg

/-- An exit is not taken when each of its messages comes after one of the other exit's. -/
theorem writeLoop_ne (version : UInt8) (sendto : Nat → Int) (msgs : List PassthruMsg)
    (s : WriteState) (e e' : WriteExit)
    (he : e = .invalidMsg ∧ e' = .sendFailed ∨ e = .sendFailed ∧ e' = .invalidMsg) :
    (writeLoop version sendto msgs s).2 ≠ e ↔
      Preceded (fun k msg => Stops sendto k msg e) (fun k msg => Stops sendto k msg e') msgs := by
  induction msgs generalizing sendto s with
  | nil =>
    have hne : (WriteExit.allSent : WriteExit) ≠ e := by
      rcases he with ⟨rfl, -⟩ | ⟨rfl, -⟩ <;> decide
    simp [writeLoop, preceded_nil, hne]
  | cons msg msgs ih =>
    rw [writeLoop_cons, preceded_cons]
    by_cases hv : validMsg msg = true
    · by_cases hs : sendto 0 = packetSize msg
      · -- sent: neither exit here
        have hnone : ∀ e, ¬Stops sendto 0 msg e := by
          rintro (_ | _ | _) <;> simp [Stops, SendFails, hv, hs]
        simp only [hv, if_true, hs]
        rw [ih]
        simp only [hnone, not_false_eq_true, true_and, false_or]
        rfl
      · rcases he with ⟨rfl, rfl⟩ | ⟨rfl, rfl⟩ <;> simp [hv, hs, Stops, SendFails]
    · rcases he with ⟨rfl, rfl⟩ | ⟨rfl, rfl⟩ <;> simp [hv, Stops, SendFails]

theorem writeLoop_ne_invalidMsg (version : UInt8) (sendto : Nat → Int) (msgs : List PassthruMsg)
    (s : WriteState) :
    (writeLoop version sendto msgs s).2 ≠ .invalidMsg ↔ InvalidAfterFailure sendto msgs :=
  writeLoop_ne version sendto msgs s .invalidMsg .sendFailed (Or.inl ⟨rfl, rfl⟩)

theorem writeLoop_ne_sendFailed (version : UInt8) (sendto : Nat → Int) (msgs : List PassthruMsg)
    (s : WriteState) :
    (writeLoop version sendto msgs s).2 ≠ .sendFailed ↔ FailureAfterInvalid sendto msgs :=
  writeLoop_ne version sendto msgs s .sendFailed .invalidMsg (Or.inr ⟨rfl, rfl⟩)

/-! ## Status and count -/

/-- The status says whether the whole batch was sent. -/
def StatusTrue (r : WriteResult) (requested : Nat) : Prop :=
  (r.retval = .statusNoError ↔ sentCompletely r.sends = requested) ∧
    (sentCompletely r.sends ≠ requested → r.retval.code ≠ 0)

namespace J2534CannelloniClient

variable (client : J2534CannelloniClient) (channelID : UInt32) (ctx : ChannelContext)
  (pMsg : List PassthruMsg) (sendto : Nat → Int) (wsa : Int)

/-- What a write on an open channel returns, by the way its loop is left. -/
theorem passThruWriteMsgs_open (h : client.channelMap.lookup channelID = some ctx)
    (r : WriteState × WriteExit)
    (hr : writeLoop client.cannelloniVersion sendto pMsg (.start ctx.seqNo) = r) :
    (client.passThruWriteMsgs channelID pMsg sendto wsa).2 =
      if r.2 = .sendFailed then
        { retval := .errFailed, numMsgs := pMsg.length, sends := r.1.sends }
      else { retval := .statusNoError, numMsgs := r.1.sentMsgs, sends := r.1.sends } := by
  obtain ⟨s, exit⟩ := r
  simp only [passThruWriteMsgs, h, hr]
  cases exit <;> simp

/-- **When the status is right.**  The comparison is of the sent count with itself, so an
invalid message that is reached is reported as success; a failing send is not. -/
theorem passThruWriteMsgs_status_iff (h : client.channelMap.lookup channelID = some ctx) :
    StatusTrue (client.passThruWriteMsgs channelID pMsg sendto wsa).2 pMsg.length ↔
      InvalidAfterFailure sendto pMsg := by
  obtain ⟨⟨s, exit⟩, m, hr, -, hsends, hall⟩ :=
    writeLoop_start client.cannelloniVersion ctx.seqNo sendto pMsg
  rw [passThruWriteMsgs_open client channelID ctx pMsg sendto wsa h _ hr,
    ← writeLoop_ne_invalidMsg client.cannelloniVersion sendto pMsg (.start ctx.seqNo), hr]
  simp only at hsends hall
  cases exit with
  | allSent =>
    have hm := hall.1 rfl
    simp [StatusTrue, hsends, hm]
  | invalidMsg =>
    have hm : m ≠ pMsg.length := fun e => by simp [e] at hall
    simp [StatusTrue, hsends, hm]
  | sendFailed =>
    have hm : m ≠ pMsg.length := fun e => by simp [e] at hall
    simp [StatusTrue, hsends, hm, J2534Err.code_eq_zero]

theorem passThruWriteMsgs_status_oneOpen :
    let pMsg := [PassthruMsg.ofBytes [0, 0, 7, 0xE0, 1], PassthruMsg.ofBytes [0, 0, 7, 0xE0]]
    StatusTrue (oneOpen.passThruWriteMsgs 20000 pMsg (fun _ => 10) 0).2 pMsg.length ↔
      InvalidAfterFailure (fun _ => 10) pMsg :=
  passThruWriteMsgs_status_iff oneOpen 20000 _ _ _ 0 rfl

/-- Message 1 has three ID bytes and is never sent, but the write reports success. -/
theorem passThruWriteMsgs_status_invalid :
    let pMsg := [PassthruMsg.ofBytes [0, 0, 7, 0xE0], PassthruMsg.ofBytes [0, 0, 7]]
    ¬StatusTrue (oneOpen.passThruWriteMsgs 20000 pMsg (fun _ => 10) 0).2 pMsg.length := by
  intro pMsg h
  have hsent : sentCompletely (oneOpen.passThruWriteMsgs 20000 pMsg (fun _ => 10) 0).2.sends = 2 :=
    h.1.1 (by decide)
  exact absurd hsent (by decide)

/-- **When the count is right.**  The early return on a failing send leaves `*pNumMsgs` at
the request. -/
theorem passThruWriteMsgs_count_iff (h : client.channelMap.lookup channelID = some ctx) :
    (client.passThruWriteMsgs channelID pMsg sendto wsa).2.numMsgs =
        sentCompletely (client.passThruWriteMsgs channelID pMsg sendto wsa).2.sends ↔
      FailureAfterInvalid sendto pMsg := by
  obtain ⟨⟨s, exit⟩, m, hr, hsent, hsends, hall⟩ :=
    writeLoop_start client.cannelloniVersion ctx.seqNo sendto pMsg
  rw [passThruWriteMsgs_open client channelID ctx pMsg sendto wsa h _ hr,
    ← writeLoop_ne_sendFailed client.cannelloniVersion sendto pMsg (.start ctx.seqNo), hr]
  simp only at hsent hsends hall
  by_cases hexit : exit = .sendFailed
  · have hm : m ≠ pMsg.length := fun e => by simp [e, hexit] at hall
    simp [hexit, hsends, hm.symm]
  · simp [hexit, hsent, hsends]

theorem passThruWriteMsgs_count_oneOpen :
    let pMsg := [PassthruMsg.ofBytes [0, 0, 7], PassthruMsg.ofBytes [0, 0, 7, 0xE0]]
    (oneOpen.passThruWriteMsgs 20000 pMsg (fun _ => -1) 0).2.numMsgs =
        sentCompletely (oneOpen.passThruWriteMsgs 20000 pMsg (fun _ => -1) 0).2.sends ↔
      FailureAfterInvalid (fun _ => -1) pMsg :=
  passThruWriteMsgs_count_iff oneOpen 20000 _ _ _ 0 rfl

/-- The send of message 1 fails; one message was sent, and the count still says two. -/
theorem passThruWriteMsgs_count_failed :
    let pMsg := [PassthruMsg.ofBytes [0, 0, 7, 0xE0], PassthruMsg.ofBytes [0, 0, 7, 0xE0, 1]]
    (oneOpen.passThruWriteMsgs 20000 pMsg (fun _ => 10) 10054).2.numMsgs ≠
      sentCompletely (oneOpen.passThruWriteMsgs 20000 pMsg (fun _ => 10) 10054).2.sends := by
  decide

end J2534CannelloniClient

/-! ## Reading back what was written -/

/-- The checks on an accepted message. -/
theorem validMsg_iff (msg : PassthruMsg) :
    validMsg msg = true ↔ (msg.protocolID = can ∨ msg.protocolID = canPs) ∧
      4 ≤ msg.dataSize.toNat ∧ msg.dataSize.toNat ≤ 12 := by
  have h4 : msg.dataSize < 4 ↔ msg.dataSize.toNat < 4 := UInt32.lt_iff_toNat_lt
  have h8 : maxCanFrameDataLen = 8 := rfl
  simp only [validMsg, Bool.not_eq_true', Bool.or_eq_false_iff, decide_eq_false_iff_not, h4,
    Bool.and_eq_false_iff, bne_eq_false_iff_eq]
  constructor
  · rintro ⟨⟨hprotocol, hlow⟩, hhigh⟩
    exact ⟨hprotocol, by omega, by omega⟩
  · rintro ⟨hprotocol, hlow, hhigh⟩
    exact ⟨⟨hprotocol, by omega⟩, by omega⟩

theorem toNat_buildLength (msg : PassthruMsg) (h : validMsg msg = true) :
    (buildLength msg).toNat = msg.dataSize.toNat - 4 := by
  obtain ⟨-, -, h12⟩ := (validMsg_iff msg).1 h
  rw [buildLength, UInt8.toNat_ofNat']
  omega

/-- The datagram of a message: header, ID bytes, length, payload. -/
theorem buildPacket_layout (version seqNo : UInt8) (msg : PassthruMsg) (h : validMsg msg = true) :
    buildPacket version seqNo msg =
      [version, 0, seqNo, 1, 0] ++ (leBytes 4 (buildCanId msg).toNat ++
        buildLength msg :: msg.bytes 4 (msg.dataSize.toNat - 4)) := by
  obtain ⟨-, -, h12⟩ := (validMsg_iff msg).1 h
  have hlen := toNat_buildLength msg h
  have hdata : (List.ofFn (buildFrame msg).data).take (buildLength msg).toNat =
      msg.bytes 4 (msg.dataSize.toNat - 4) := by
    have h8 : (List.ofFn (buildFrame msg).data).length = 8 := List.length_ofFn
    apply List.ext_getElem
    · rw [List.length_take, h8, msg.length_bytes]
      omega
    · intro k hk hk'
      have hkl : k < (buildLength msg).toNat := by
        rw [msg.length_bytes] at hk'
        omega
      rw [msg.getElem_bytes 4 _ k hk' (by omega), List.getElem_take, List.getElem_ofFn]
      show (if k < (buildLength msg).toNat then (msg.bytes 4 8).getD k 0 else 0) = _
      rw [if_pos hkl, List.getD_eq_getElem _ 0 (by rw [msg.length_bytes]; omega),
        msg.getElem_bytes 4 8 k _ (by omega)]
  have hcount : leBytes 2 (UInt16.toNat 1) = [1, 0] := by decide
  have hframe : (buildFrame msg).toBytes = leBytes 4 (buildCanId msg).toNat ++
      buildLength msg :: msg.bytes 4 (msg.dataSize.toNat - 4) := by
    rw [← hdata]
    rfl
  simp only [buildPacket, CannelloniDataPacket.toBytes, hcount, OpCodes.code, hframe]

/-- The ID of a standard frame goes out as it stands in `Data`. -/
theorem leBytes_buildCanId (msg : PassthruMsg) (hstd : msg.txFlags &&& can29BitId = 0) :
    leBytes 4 (buildCanId msg).toNat = msg.bytes 0 4 := by
  have hlt := ofLE_lt_of_length (k := 4) (msg.bytes 0 4) (msg.length_bytes 0 4)
  have hcan : buildCanId msg = UInt32.ofNat (ofLE (msg.bytes 0 4)) := by
    simp [buildCanId, hstd]
  rw [hcan, UInt32.toNat_ofNat', Nat.mod_eq_of_lt (by omega)]
  exact leBytes_ofLE_of_length _ (msg.length_bytes 0 4)

/-- The datagram of a standard frame. -/
theorem buildPacket_eq (version seqNo : UInt8) (msg : PassthruMsg) (h : validMsg msg = true)
    (hstd : msg.txFlags &&& can29BitId = 0) :
    buildPacket version seqNo msg =
      [version, 0, seqNo, 1, 0] ++
        (msg.bytes 0 4 ++ buildLength msg :: msg.bytes 4 (msg.dataSize.toNat - 4)) := by
  rw [buildPacket_layout version seqNo msg h, leBytes_buildCanId msg hstd]

/-- What `sendto` is given is a datagram that `recv` delivers whole. -/
def buildDatagram (version seqNo : UInt8) (msg : PassthruMsg) : Datagram where
  bytes := buildPacket version seqNo msg
  pos := by
    rw [length_buildPacket, packetSize]
    omega
  le := by
    have h8 : maxCanFrameDataLen = 8 := rfl
    rw [length_buildPacket, packetSize, maxPacketSize]
    omega

/-- The datagram of a message gives one message, of the same size and with the same bytes. -/
def ReadsBack (version seqNo : UInt8) (mem : Mem) (queue : List PassthruMsg) (msg : PassthruMsg) :
    Prop :=
  ∃ msg', (receiveLoop version ⟨mem, true, queue⟩
      [.datagram (buildDatagram version seqNo msg)]).msgQueue = queue ++ [msg'] ∧
    msg'.dataSize = msg.dataSize ∧
    msg'.bytes 0 msg.dataSize.toNat = msg.bytes 0 msg.dataSize.toNat

theorem count_buildDatagram (version seqNo : UInt8) (msg : PassthruMsg) (h : validMsg msg = true)
    (hstd : msg.txFlags &&& can29BitId = 0) : (buildDatagram version seqNo msg).count = 1 := by
  have hbytes : (buildDatagram version seqNo msg).bytes = _ := buildPacket_eq version seqNo msg h hstd
  rw [Datagram.count, hbytes]
  rfl

/-- The frame sent is as long as the frame expected only with all 8 data bytes. -/
theorem wellFormed_buildDatagram (version seqNo : UInt8) (msg : PassthruMsg)
    (h : validMsg msg = true) (hstd : msg.txFlags &&& can29BitId = 0) :
    (buildDatagram version seqNo msg).wellFormed version = true ↔ msg.dataSize.toNat = 12 := by
  obtain ⟨-, h4, h12⟩ := (validMsg_iff msg).1 h
  have hbytes : (buildDatagram version seqNo msg).bytes = _ := buildPacket_eq version seqNo msg h hstd
  have hlen : (buildDatagram version seqNo msg).bytes.length = 10 + (msg.dataSize.toNat - 4) := by
    rw [hbytes]
    simp only [List.length_append, List.length_cons, List.length_nil, PassthruMsg.length_bytes]
    omega
  have hcount := count_buildDatagram version seqNo msg h hstd
  have hversion : (buildDatagram version seqNo msg).bytes.getD 0 0 = version := by
    rw [hbytes]
    rfl
  simp only [Datagram.wellFormed, hlen, hcount, hversion, sizeofDataPacket, sizeofCanFrame,
    Bool.and_eq_true, decide_eq_true_eq, and_true]
  omega

/-- The frame of a full message, parsed where it was received. -/
theorem parseFrame_buildDatagram (version seqNo : UInt8) (mem : Mem) (msg : PassthruMsg)
    (h : validMsg msg = true) (hstd : msg.txFlags &&& can29BitId = 0)
    (hsize : msg.dataSize.toNat = 12) :
    parseFrame (recv mem (buildDatagram version seqNo msg)) 0 =
      some { PassthruMsg.zero with
        protocolID := can
        dataSize := 12
        data := dataOf (msg.bytes 0 12) } := by
  have hbytes : (buildDatagram version seqNo msg).bytes = _ := buildPacket_eq version seqNo msg h hstd
  have hlen : (buildLength msg).toNat = 8 := by rw [toNat_buildLength msg h, hsize]
  rw [hsize] at hbytes
  have hsize18 : (buildDatagram version seqNo msg).bytes.length = 18 := by
    rw [hbytes]
    simp
  have hframeLength : frameLength (recv mem (buildDatagram version seqNo msg)) 0 = buildLength msg := by
    rw [frameLength, recv_eq_getElem _ _ _ (by rw [hsize18]; decide)]
    simp only [hbytes]
    rfl
  have hids : leBytes 4 (frameId (recv mem (buildDatagram version seqNo msg)) 0).toNat =
      msg.bytes 0 4 := by
    rw [leBytes_frameId]
    have hrange := recv_range mem (buildDatagram version seqNo msg) 5 4 (by omega)
    rw [hbytes] at hrange
    exact hrange
  have hpayload : (payloadSources (recv mem (buildDatagram version seqNo msg)) 0).map
      (recv mem (buildDatagram version seqNo msg)) = msg.bytes 4 8 := by
    have hrange := recv_range mem (buildDatagram version seqNo msg) 10 8 (by omega)
    rw [hbytes] at hrange
    rw [payloadSources, hframeLength, hlen, List.map_map]
    exact hrange
  have hds : frameDataSize (recv mem (buildDatagram version seqNo msg)) 0 = 12 := by
    rw [frameDataSize, hframeLength, hlen]
  rw [parseFrame, hds, hids, hpayload, msg.bytes_add 0 4 8]
  rfl

/-- A full frame read back is the message. -/
theorem messages_buildDatagram (version seqNo : UInt8) (mem : Mem) (msg : PassthruMsg)
    (h : validMsg msg = true) (hstd : msg.txFlags &&& can29BitId = 0)
    (hsize : msg.dataSize.toNat = 12) :
    ∃ msg', (buildDatagram version seqNo msg).messages mem = [msg'] ∧
      msg'.dataSize = msg.dataSize ∧ msg'.data = dataOf (msg.bytes 0 12) := by
  have hframe := parseFrame_buildDatagram version seqNo mem msg h hstd hsize
  have hrange : List.range 1 = [0] := rfl
  refine ⟨{ PassthruMsg.zero with
    protocolID := can
    dataSize := 12
    data := dataOf (msg.bytes 0 12) }, ?_, ?_, rfl⟩
  · rw [Datagram.messages, count_buildDatagram version seqNo msg h hstd, hrange,
      List.filterMap_cons_some hframe, List.filterMap_nil]
  · exact (UInt32.toNat_inj.1 hsize).symm

/-- **Encoder and decoder agree on full frames only.**  The writer sends as many data bytes
as there are, the reader requires 8. -/
theorem receiveLoop_buildPacket_iff (version seqNo : UInt8) (mem : Mem) (queue : List PassthruMsg)
    (msg : PassthruMsg) (h : validMsg msg = true) (hstd : msg.txFlags &&& can29BitId = 0) :
    ReadsBack version seqNo mem queue msg ↔ msg.dataSize.toNat = 12 := by
  rw [← wellFormed_buildDatagram version seqNo msg h hstd, ReadsBack]
  show (∃ msg', (Receiver.poll version ⟨mem, true, queue⟩
    (.datagram (buildDatagram version seqNo msg))).msgQueue = queue ++ [msg'] ∧ _) ↔ _
  rw [poll_datagram version _ _ rfl]
  constructor
  · rintro ⟨msg', hqueue, -⟩
    by_contra hw
    rw [if_neg hw] at hqueue
    simp at hqueue
  · intro hw
    have hsize := (wellFormed_buildDatagram version seqNo msg h hstd).1 hw
    obtain ⟨msg', hmsgs, hdataSize, hdata⟩ := messages_buildDatagram version seqNo mem msg h hstd hsize
    refine ⟨msg', ?_, hdataSize, ?_⟩
    · rw [if_pos hw, hmsgs]
    · have hfront := msg'.bytes_dataOf (msg.bytes 0 12) (by simp) hdata
      rw [msg.length_bytes] at hfront
      rw [hsize, hfront]

theorem receiveLoop_buildPacket_full :
    let msg := PassthruMsg.ofBytes [0, 0, 7, 0xE0, 2, 1, 0, 0, 0, 0, 0, 0]
    ReadsBack 1 0 (fun _ => 0) [] msg ↔ msg.dataSize.toNat = 12 :=
  receiveLoop_buildPacket_iff 1 0 (fun _ => 0) [] _ (by decide) (by decide)

/-- One data byte: the datagram is dropped as too small. -/
theorem receiveLoop_buildPacket_short :
    ¬ReadsBack 1 0 (fun _ => 0) [] (PassthruMsg.ofBytes [0, 0, 7, 0xE0, 1]) := by
  rintro ⟨msg', hqueue, -⟩
  have hempty : (receiveLoop 1 ⟨fun _ => 0, true, []⟩
      [.datagram (buildDatagram 1 0 (PassthruMsg.ofBytes [0, 0, 7, 0xE0, 1]))]).msgQueue.length = 0 := by
    decide
  rw [hqueue] at hempty
  exact absurd hempty (by simp)

end J2534Oip
