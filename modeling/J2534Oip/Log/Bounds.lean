import J2534Oip.Cannelloni.Wire
import J2534Oip.Wrapper.EntryPoints

/-!
# What logging a batch reads

`PassThruWriteMsgs` of each of the three backends prints or logs the caller's messages, and
both take `DataSize` bytes from `Data`.  Only the Cannelloni client ever checks `DataSize`,
and it prints first.  So

    call.InBounds ↔ each message of the batch that the call gets to has DataSize ≤ 4128
                                                                          (inBounds_iff)
-/

namespace J2534Oip

open CborUtils

/-! ## Reads -/

/-- The byte a read finds; behind `Data` there is none. -/
def DataRead.byte (msg : PassthruMsg) (r : DataRead) : UInt8 :=
  if h : r.offset < 4128 then msg.data ⟨r.offset, h⟩ else 0

/-- The record of a message has the bytes that are read. -/
theorem msgMap_dataReads (i : Nat) (msg : PassthruMsg) :
    (.int (ExPipeClient.key .param7), .bytes ((dataReads i msg).map (DataRead.byte msg))) ∈
      msgMap msg := by
  have hbytes : (dataReads i msg).map (DataRead.byte msg) = msg.bytes 0 msg.dataSize.toNat := by
    simp only [dataReads, PassthruMsg.bytes, List.map_map, Nat.zero_add]
    rfl
  rw [hbytes]
  exact List.mem_append_right _ (List.mem_singleton_self _)

/-! ## The three backends -/

/-- `J2534Emulator::PassThruWriteMsgs`: its code and its record. -/
def J2534Emulator.passThruWriteMsgs (channelID : UInt32) (pMsg : List PassthruMsg)
    (timeout : UInt32) : J2534Err × List (Cbor × Cbor) :=
  let numMsgs := UInt32.ofNat pMsg.length
  let map := mapPutInt [] (ExPipeClient.key .funcName)
    (UInt32.ofNat (ExPipeClient.func .passThruWriteMsgs))
  let map := mapPutInt map (ExPipeClient.key .param1) channelID
  let map := mapPutPassthruMsg map (ExPipeClient.key .param2) numMsgs pMsg
  let map := mapPutInt map (ExPipeClient.key .param3) numMsgs
  (.statusNoError, mapPutInt map (ExPipeClient.key .param4) timeout)

/-- It prints the whole batch, then logs it. -/
def J2534Emulator.writeReads (pMsg : List PassthruMsg) : List DataRead :=
  batchReads pMsg ++ batchReads pMsg

/-- `J2534DllWrapper::PassThruWriteMsgs`, before and after the DLL's function. -/
def J2534DllWrapper.writeReads (args : List UInt32) (mem mem' : Memory) (retval : UInt32) :
    List DataRead :=
  (J2534DllWrapper.passThruWriteMsgs.before.flatMap fun put =>
      put.2.dataReads ⟨args, mem, errNotSupported⟩) ++
    J2534DllWrapper.passThruWriteMsgs.after.flatMap fun put => put.2.dataReads ⟨args, mem', retval⟩

/-- The head of the loop of `J2534CannelloniClient::PassThruWriteMsgs` prints a message before
it is checked. -/
def printLoop : (sendto : Nat → Int) → Nat → List PassthruMsg → List DataRead
  | _, _, [] => []
  | sendto, i, msg :: msgs =>
    dataReads i msg ++
      if validMsg msg = true ∧ sendto 0 = packetSize msg then
        printLoop (fun k => sendto (k + 1)) (i + 1) msgs
      else []

/-- The printing loop, then the record of what was sent. -/
def J2534CannelloniClient.writeReads (client : J2534CannelloniClient) (channelID : UInt32)
    (pMsg : List PassthruMsg) (sendto : Nat → Int) : List DataRead :=
  match client.channelMap.lookup channelID with
  | none => []
  | some ctx =>
    let r := writeLoop client.cannelloniVersion sendto pMsg (.start ctx.seqNo)
    printLoop sendto 0 pMsg ++
      match r.2 with
      | .sendFailed => []
      | _ => batchReads (pMsg.take r.1.sentMsgs)

/-! ## Calls -/

/-- A write through one of the backends. -/
inductive WriteCall
  | dllWrapper (args : List UInt32) (mem mem' : Memory) (retval : UInt32)
  | emulator (pMsg : List PassthruMsg)
  | cannelloni (client : J2534CannelloniClient) (channelID : UInt32) (pMsg : List PassthruMsg)
      (sendto : Nat → Int)

namespace WriteCall

/-- `pMsg[0 .. *pNumMsgs)` -/
def batch : WriteCall → List PassthruMsg
  | .dllWrapper args mem _ _ => mem.msgs (args.getD 1 0) (mem.long (args.getD 2 0)).toNat
  | .emulator pMsg => pMsg
  | .cannelloni _ _ pMsg _ => pMsg

/-- What printing and logging read. -/
def reads : WriteCall → List DataRead
  | .dllWrapper args mem mem' retval => J2534DllWrapper.writeReads args mem mem' retval
  | .emulator pMsg => J2534Emulator.writeReads pMsg
  | .cannelloni client channelID pMsg sendto => client.writeReads channelID pMsg sendto

/-- Only `Data[0 .. 4128)` of each message is read. -/
def InBounds (call : WriteCall) : Prop := ∀ r ∈ call.reads, r.offset < 4128

/-- The call gets to message `k`: the wrapper has both pointers; the client has the channel,
and the messages before are accepted and sent. -/
def GetsTo : WriteCall → Nat → Prop
  | .dllWrapper args _ _ _, _ => args.getD 1 0 ≠ 0 ∧ args.getD 2 0 ≠ 0
  | .emulator _, _ => True
  | .cannelloni client channelID pMsg sendto, k => channelID ∈ client.channelMap ∧
    ∀ j < k, ∃ msg, pMsg[j]? = some msg ∧ Accepted msg ∧ sendto j = wireSize msg

end WriteCall

/-! ## Bounds of the reads -/

theorem forall_getElem?_iff (msgs : List PassthruMsg) (P : PassthruMsg → Prop) :
    (∀ msg ∈ msgs, P msg) ↔ ∀ (k : Nat) (msg : PassthruMsg), msgs[k]? = some msg → P msg := by
  constructor
  · intro h k msg hmsg
    exact h msg (List.mem_of_getElem? hmsg)
  · intro h msg hmsg
    obtain ⟨k, hk⟩ := List.getElem?_of_mem hmsg
    exact h k msg hk

/-- Every message that is got to: the first, and behind it, when its own send goes through, what
is got to of the rest. -/
theorem forall_getsTo_cons (P : PassthruMsg → Prop) (sendto : Nat → Int) (msg : PassthruMsg)
    (pMsg : List PassthruMsg) :
    (∀ (k : Nat) (m : PassthruMsg), (msg :: pMsg)[k]? = some m →
        (∀ j < k, ∃ m, (msg :: pMsg)[j]? = some m ∧ Accepted m ∧ sendto j = wireSize m) → P m) ↔
      P msg ∧ (Accepted msg ∧ sendto 0 = wireSize msg →
        ∀ (k : Nat) (m : PassthruMsg), pMsg[k]? = some m →
          (∀ j < k, ∃ m, pMsg[j]? = some m ∧ Accepted m ∧ sendto (j + 1) = wireSize m) → P m) := by
  constructor
  · intro hall
    refine ⟨hall 0 msg rfl fun j hj => absurd hj (Nat.not_lt_zero j), fun hsent k m hm hbefore => ?_⟩
    refine hall (k + 1) m hm fun j hj => ?_
    cases j with
    | zero => exact ⟨msg, rfl, hsent⟩
    | succ j => exact hbefore j (Nat.lt_of_succ_lt_succ hj)
  · rintro ⟨hfirst, hrest⟩ k m hm hbefore
    cases k with
    | zero =>
      obtain rfl : msg = m := Option.some.inj hm
      exact hfirst
    | succ k =>
      obtain ⟨m', hm', hsent⟩ := hbefore 0 (Nat.succ_pos k)
      obtain rfl : msg = m' := Option.some.inj hm'
      exact hrest hsent k m hm fun j hj => hbefore (j + 1) (Nat.succ_lt_succ hj)

/-- The loop's own test. -/
theorem validMsg_sent_iff (msg : PassthruMsg) (sent : Int) :
    validMsg msg = true ∧ sent = packetSize msg ↔ Accepted msg ∧ sent = wireSize msg := by
  rw [← accepted_iff]
  refine and_congr_right fun h => ?_
  rw [packetSize_eq msg h]

/-- What the printing loop gets to. -/
theorem printLoop_lt_iff (sendto : Nat → Int) (i : Nat) (pMsg : List PassthruMsg) :
    (∀ r ∈ printLoop sendto i pMsg, r.offset < 4128) ↔
      ∀ (k : Nat) (msg : PassthruMsg), pMsg[k]? = some msg →
        (∀ j < k, ∃ msg, pMsg[j]? = some msg ∧ Accepted msg ∧ sendto j = wireSize msg) →
        msg.dataSize.toNat ≤ 4128 := by
  induction pMsg generalizing sendto i with
  | nil => simp [printLoop]
  | cons msg pMsg ih =>
    rw [printLoop, List.forall_mem_append, dataReads_lt_iff,
      forall_getsTo_cons (fun m => m.dataSize.toNat ≤ 4128)]
    refine and_congr_right fun _ => ?_
    by_cases hnext : validMsg msg = true ∧ sendto 0 = packetSize msg
    · rw [if_pos hnext, ih]
      exact (imp_iff_right ((validMsg_sent_iff msg _).1 hnext)).symm
    · rw [if_neg hnext]
      refine iff_of_true (fun r hr => absurd hr List.not_mem_nil) fun hsent => ?_
      exact absurd ((validMsg_sent_iff msg _).2 hsent) hnext

/-! ## When a call stays in bounds -/

/-- What the client logs is what it sent, so it has at most 12 bytes each. -/
theorem dataSize_sent (version seqNo : UInt8) (sendto : Nat → Int) (pMsg : List PassthruMsg) :
    ∀ msg ∈ pMsg.take (writeLoop version sendto pMsg (.start seqNo)).1.sentMsgs,
      msg.dataSize.toNat ≤ 12 := by
  obtain ⟨r, m, hr, hsent, hcompletely, -⟩ := writeLoop_start version seqNo sendto pMsg
  obtain ⟨k, sends, hlead, -, hsends, hlen, -⟩ :=
    writeLoop_sends version sendto pMsg (.start seqNo)
  rw [hr] at hsends
  have hle : m ≤ k := by
    rw [← hcompletely, hsends, ← hlen]
    exact List.countP_le_length
  intro msg hmsg
  rw [hr, hsent] at hmsg
  exact (hlead.accepted msg (List.take_subset_take_left pMsg hle hmsg)).high

theorem emulator_inBounds_iff (pMsg : List PassthruMsg) :
    (∀ r ∈ J2534Emulator.writeReads pMsg, r.offset < 4128) ↔
      ∀ (k : Nat) (msg : PassthruMsg), pMsg[k]? = some msg → msg.dataSize.toNat ≤ 4128 := by
  rw [J2534Emulator.writeReads, List.forall_mem_append, batchReads_lt_iff, and_self,
    forall_getElem?_iff]

/-- A put of messages reads them when it has both pointers. -/
theorem Val.msgs_dataReads (c : Frame) (count i : Nat) :
    (Val.msgs (.deref count) i).dataReads c =
      if c.arg i ≠ 0 ∧ c.arg count ≠ 0 then
        batchReads (c.mem.msgs (c.arg i) (c.mem.long (c.arg count)).toNat)
      else [] := by
  unfold Val.dataReads IntVal.eval
  by_cases hcount : c.arg count = 0
  · simp [hcount]
  · by_cases hbatch : c.arg i = 0
    · by_cases hnone : c.mem.long (c.arg count) = 0
      · -- an empty batch is not looked at
        simp [hbatch, hcount, hnone, batchReads, Memory.msgs]
      · simp [hbatch, hcount, hnone]
    · simp [hbatch, hcount]

/-- The one put of messages, before the call. -/
theorem dllWrapper_writeReads (args : List UInt32) (mem mem' : Memory) (retval : UInt32) :
    J2534DllWrapper.writeReads args mem mem' retval =
      (Val.msgs (.deref 2) 1).dataReads ⟨args, mem, errNotSupported⟩ := by
  simp only [J2534DllWrapper.writeReads, J2534DllWrapper.passThruWriteMsgs,
    J2534DllWrapper.putRetval, List.flatMap_cons, List.flatMap_nil, Val.dataReads,
    List.nil_append, List.append_nil]

theorem dllWrapper_inBounds_iff (args : List UInt32) (mem mem' : Memory) (retval : UInt32) :
    (∀ r ∈ J2534DllWrapper.writeReads args mem mem' retval, r.offset < 4128) ↔
      ∀ (k : Nat) (msg : PassthruMsg),
        (mem.msgs (args.getD 1 0) (mem.long (args.getD 2 0)).toNat)[k]? = some msg →
          args.getD 1 0 ≠ 0 ∧ args.getD 2 0 ≠ 0 → msg.dataSize.toNat ≤ 4128 := by
  rw [dllWrapper_writeReads, Val.msgs_dataReads]
  split
  next hboth =>
    rw [batchReads_lt_iff, forall_getElem?_iff]
    constructor
    · intro h k msg hmsg _
      exact h k msg hmsg
    · intro h k msg hmsg
      exact h k msg hmsg hboth
  next hnull =>
    constructor
    · intro _ k msg _ hboth
      exact absurd hboth hnull
    · exact fun _ r hr => absurd hr List.not_mem_nil

theorem cannelloni_inBounds_iff (client : J2534CannelloniClient) (channelID : UInt32)
    (pMsg : List PassthruMsg) (sendto : Nat → Int) :
    (∀ r ∈ client.writeReads channelID pMsg sendto, r.offset < 4128) ↔
      ∀ (k : Nat) (msg : PassthruMsg), pMsg[k]? = some msg → (channelID ∈ client.channelMap ∧
        ∀ j < k, ∃ msg, pMsg[j]? = some msg ∧ Accepted msg ∧ sendto j = wireSize msg) →
          msg.dataSize.toNat ≤ 4128 := by
  cases hctx : client.channelMap.lookup channelID with
  | none =>
    have hunknown : channelID ∉ client.channelMap := AList.lookup_eq_none.1 hctx
    simp [J2534CannelloniClient.writeReads, hctx, hunknown]
  | some ctx =>
    have hknown : channelID ∈ client.channelMap := AList.lookup_isSome.1 (by rw [hctx]; rfl)
    have hlogged : ∀ r ∈ batchReads (pMsg.take
        (writeLoop client.cannelloniVersion sendto pMsg (.start ctx.seqNo)).1.sentMsgs),
        r.offset < 4128 := by
      rw [batchReads_lt_iff]
      intro msg hmsg
      have hsize := dataSize_sent client.cannelloniVersion ctx.seqNo sendto pMsg msg hmsg
      omega
    have hreads : (∀ r ∈ client.writeReads channelID pMsg sendto, r.offset < 4128) ↔
        ∀ r ∈ printLoop sendto 0 pMsg, r.offset < 4128 := by
      simp only [J2534CannelloniClient.writeReads, hctx, List.forall_mem_append]
      refine and_iff_left ?_
      split
      · exact fun r hr => absurd hr List.not_mem_nil
      · exact hlogged
    rw [hreads, printLoop_lt_iff]
    simp only [hknown, true_and]

/-- **When logging a batch stays inside it**: when no message that the call gets to has a
larger `DataSize` than `Data` has bytes. -/
theorem inBounds_iff (call : WriteCall) :
    call.InBounds ↔ ∀ (k : Nat) (msg : PassthruMsg), call.batch[k]? = some msg → call.GetsTo k →
      msg.dataSize.toNat ≤ 4128 := by
  cases call with
  | dllWrapper args mem mem' retval => exact dllWrapper_inBounds_iff args mem mem' retval
  | emulator pMsg =>
    have hiff := emulator_inBounds_iff pMsg
    constructor
    · intro h k msg hmsg _
      exact hiff.1 h k msg hmsg
    · intro h
      exact hiff.2 fun k msg hmsg => h k msg hmsg trivial
  | cannelloni client channelID pMsg sendto =>
    exact cannelloni_inBounds_iff client channelID pMsg sendto

/-- A `DataSize` of 4129: each of the three reads a byte behind `Data`. -/
theorem inBounds_larger :
    let msg : PassthruMsg := { PassthruMsg.zero with protocolID := can, dataSize := 4129 }
    -- one message at 1000, the count at 100
    let mem : Memory := fun a =>
      if a = 100 then 1 else if a = 1016 then 0x21 else if a = 1017 then 0x10 else 0
    ¬(WriteCall.dllWrapper [20000, 1000, 100, 0] mem mem 0).InBounds ∧
      ¬(WriteCall.emulator [msg]).InBounds ∧
      ¬(WriteCall.cannelloni .oneOpen 20000 [msg] fun _ => 10).InBounds := by
  intro msg mem
  have hread : ({ msg := 0, offset := 4128 } : DataRead) ∈ dataReads 0 msg :=
    List.mem_map.2 ⟨4128, List.mem_range.2 (by decide), rfl⟩
  refine ⟨?_, ?_, ?_⟩
  · intro h
    have hle := (dllWrapper_inBounds_iff [20000, 1000, 100, 0] mem mem 0).1 h 0 (mem.msg 1000) rfl
      (by decide)
    exact absurd hle (by decide)
  · intro h
    have hlt := h _ (List.mem_append_left _ (List.mem_flatMap.2
      ⟨(msg, 0), List.mem_singleton_self _, hread⟩))
    exact absurd hlt (by decide)
  · intro h
    have hlt := h _ (List.mem_append_left _ (List.mem_append_left _ hread))
    exact absurd hlt (by decide)

end J2534Oip
