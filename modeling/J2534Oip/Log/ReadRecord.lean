import J2534Oip.Cannelloni.Session
import J2534Oip.CborUtils

/-!
# The log record of a read

`PassThruReadMsgs` on an open channel sends a record with its arguments and, under
`KEY_Param2`, the messages it delivered.  Every read of a run is such a call
(`ReadCall.ofRun`), its messages no longer than `Data`, and every record is a tree that
both CBOR libraries hold without loss (`ReadCall.wellFormed_record`).
-/

namespace J2534Oip

open CborUtils ExPipeClient

/-! ## The record -/

/-- A read that returned on an open channel, with a `pMsg` that is not null.  The number
delivered is counted by an `int`, and no message has more bytes than `Data`. -/
structure ReadCall where
  channelID : UInt32
  /-- `*pNumMsgs` before the call -/
  requested : UInt32
  timeout : UInt32
  delivered : List PassthruMsg
  counted : delivered.length < 2 ^ 31
  sized : ∀ msg ∈ delivered, msg.dataSize.toNat ≤ 4128

namespace ReadCall

/-- `cb_map_root` when the call sends it; `retval` is still `STATUS_NOERROR`. -/
def recordMap (call : ReadCall) : List (Cbor × Cbor) :=
  let root := mapPutInt [] (key .funcName) (UInt32.ofNat (func .passThruReadMsgs))
  let root := mapPutInt root (key .param1) call.channelID
  let root := mapPutInt root (key .param3) call.requested
  let root := mapPutInt root (key .param4) call.timeout
  let root := mapPutPassthruMsg root (key .param2) (UInt32.ofNat call.delivered.length) call.delivered
  let root := mapPutInt root (key .rxTx) 1
  mapPutInt root (key .retvalLong) (UInt32.ofNat J2534Err.statusNoError.code)

/-- The message sent: type 4 is the Cannelloni client, data type 2 a function's record. -/
def logMessage (L : CborLink) (id : UInt32) (timestamp : Int64) (path : List UInt8)
    (call : ReadCall) : Message :=
  { id := id, type := 4, dataType := 2, timestamp := timestamp, path := path,
    message := utf8 "PassThruReadMsgs", data := cborToData L (.map call.recordMap) }

/-! ## It survives the encoding -/

theorem recordMap_eq (call : ReadCall) :
    call.recordMap = [(.int 0, .int 27), (.int 1, .int call.channelID.toNat),
      (.int 3, .int call.requested.toNat), (.int 4, .int call.timeout.toNat),
      (.int 2, .map [(.int 0, .int call.delivered.length),
        (.int 1, .array (call.delivered.map fun msg => .map (msgMap msg)))]),
      (.int 8, .int 1), (.int 9, .int 0)] := by
  have hcounted := call.counted
  simp only [recordMap, mapPutPassthruMsg_eq _ _ call.delivered (by omega)]
  rfl

theorem all_msgMap (msg : PassthruMsg) (h : msg.dataSize.toNat ≤ 4128) :
    Cbor.All WellFormedHere (.map (msgMap msg)) := by
  have hkey : ∀ k : Key, WellFormedHere (.int (key k)) := by
    intro k
    cases k <;> simp [WellFormedHere, key]
  have hdata : WellFormedHere (.bytes (msg.bytes 0 msg.dataSize.toNat)) := by
    simp only [WellFormedHere, PassthruMsg.length_bytes]
    omega
  simp only [msgMap, mapPutInt, mapPutData, List.nil_append, List.cons_append, Cbor.All,
    Cbor.AllPairs]
  exact ⟨by simp [WellFormedHere], hkey _, wellFormedHere_uint32 _, hkey _, wellFormedHere_uint32 _,
    hkey _, wellFormedHere_uint32 _, hkey _, wellFormedHere_uint32 _, hkey _,
    wellFormedHere_uint32 _, hkey _, wellFormedHere_uint32 _, hkey _, hdata, trivial⟩

theorem depth_msgMap (msg : PassthruMsg) : Cbor.depth (.map (msgMap msg)) = 1 := rfl

/-- The record of a call is restored by any link. -/
theorem wellFormed_record (call : ReadCall) : WellFormed (.map call.recordMap) := by
  have hcounted := call.counted
  have hmsgs : Cbor.AllList WellFormedHere (call.delivered.map fun msg => .map (msgMap msg)) := by
    rw [Cbor.allList_iff]
    intro x hx
    obtain ⟨msg, hmsg, rfl⟩ := List.mem_map.1 hx
    exact all_msgMap msg (call.sized msg hmsg)
  have hdepth : Cbor.depthList (call.delivered.map fun msg => .map (msgMap msg)) ≤ 1 := by
    apply Cbor.depthList_le
    intro x hx
    obtain ⟨msg, hmsg, rfl⟩ := List.mem_map.1 hx
    exact (depth_msgMap msg).le
  have hint : ∀ n : Nat, n < 2 ^ 63 → WellFormedHere (.int n) := by
    intro n hn
    simp only [WellFormedHere]
    omega
  have hlen : (call.delivered.map fun msg => Cbor.map (msgMap msg)).length < 2 ^ 32 := by
    rw [List.length_map]
    omega
  rw [recordMap_eq]
  constructor
  · simp only [Cbor.All, Cbor.AllPairs]
    exact ⟨by simp [WellFormedHere], hint 0 (by omega), hint 27 (by omega), hint 1 (by omega),
      wellFormedHere_uint32 _, hint 3 (by omega), wellFormedHere_uint32 _, hint 4 (by omega),
      wellFormedHere_uint32 _, hint 2 (by omega),
      ⟨by simp [WellFormedHere], hint 0 (by omega), hint _ (by omega), hint 1 (by omega),
        ⟨hlen, hmsgs⟩, trivial⟩,
      hint 8 (by omega), hint 1 (by omega), hint 9 (by omega), hint 0 (by omega), trivial⟩
  · simp only [Cbor.depth, Cbor.depthPairs]
    omega

end ReadCall

/-! ## Every read of a run is such a call -/

/-- The parser checks what it puts in `DataSize`. -/
theorem parseFrame_sized (mem : Mem) (i : Nat) (msg : PassthruMsg) (h : parseFrame mem i = some msg) :
    msg.dataSize.toNat ≤ 4128 := by
  simp only [parseFrame] at h
  split at h
  · cases h
  · obtain rfl := Option.some.inj h
    have hmod := Nat.mod_le (frameDataSize mem i) (2 ^ 32)
    simp only [UInt32.toNat_ofNat']
    omega

theorem parseDatagram_sized (version : UInt8) (bytesReceived : Nat) (mem : Mem)
    (msgs : List PassthruMsg) (h : parseDatagram version bytesReceived mem = some msgs) :
    ∀ msg ∈ msgs, msg.dataSize.toNat ≤ 4128 := by
  intro msg hmsg
  simp only [parseDatagram] at h
  split at h
  · cases h
  · split at h
    · cases h
    · split at h
      · cases h
      · obtain rfl := Option.some.inj h
        obtain ⟨i, -, hi⟩ := List.mem_filterMap.1 hmsg
        exact parseFrame_sized mem i msg hi

/-- Only the parser enqueues. -/
theorem enqueued_sized_step {s s' : System} {port : UInt32} {msgs : List PassthruMsg}
    (hstep : SessionStep s (.enqueued port msgs) s') : ∀ msg ∈ msgs, msg.dataSize.toNat ≤ 4128 := by
  generalize hact : SessionAct.enqueued port msgs = act at hstep
  cases hstep with
  | passThruOpen hfree pName pDeviceID env stack =>
    simp only [System.passThruOpen] at hact
    split at hact <;> cases hact
  | receive t ht hrun ctx hctx d =>
    simp only [System.receive] at hact
    split at hact
    · cases hact
    · next msgs' hparse =>
      cases hact
      exact parseDatagram_sized _ _ _ _ hparse
  | threadStops t ht ctx hctx hstop => cases hact
  | closeUnknown hfree deviceID hctx => cases hact
  | closeBegin hfree deviceID ctx hctx => cases hact
  | closeEnd deviceID hcall hjoin ctx hctx => cases hact
  | readUnknown hfree channelID hctx requested => cases hact
  | readBegin hfree channelID ctx hctx requested timeout => cases hact
  | readPop channelID requested timeout got hcall ctx hctx elapsed msg queue hpass => cases hact
  | readEnd channelID requested timeout got hcall ctx hctx elapsed hpass => cases hact

section
variable {client : J2534CannelloniClient} {buffers : UInt32 → Mem} {acts : List SessionAct}
  {s : System} {channelID : UInt32} {requested : Nat} {delivered : List PassthruMsg}
  {numMsgs : Nat} {retval : J2534Err}

/-- **No read delivers a message longer than `Data`.** -/
theorem read_sized (h : Run SessionStep (System.start client buffers) acts s)
    (hread : .read channelID requested delivered numMsgs retval ∈ acts) :
    ∀ msg ∈ delivered, msg.dataSize.toNat ≤ 4128 := by
  have hgave : .gave delivered ∈ acts.map (·.at channelID) :=
    List.mem_map.2 ⟨_, hread, if_pos rfl⟩
  refine (Mailbox.only_run (mailbox_run client buffers h channelID) ?_).2 delivered hgave
  -- what is put into the mailbox was enqueued
  intro msgs hput
  obtain ⟨act, hact, hat⟩ := List.mem_map.1 hput
  obtain ⟨before, after, hsplit⟩ := List.append_of_mem hact
  have hsized := h.acts (P := fun _ act => ∀ port msgs, act = .enqueued port msgs →
      ∀ msg ∈ msgs, msg.dataSize.toNat ≤ 4128)
    (by rintro _ _ _ _ _ hstep _ _ rfl; exact enqueued_sized_step hstep) before act after hsplit
  cases act with
  | enqueued port enqueued =>
    simp only [SessionAct.at] at hat
    split at hat
    · cases hat
      exact hsized port msgs rfl
    · cases hat
  | quiet => cases hat
  | opened port =>
    simp only [SessionAct.at] at hat
    split at hat <;> cases hat
  | closed port dropped =>
    simp only [SessionAct.at] at hat
    split at hat <;> cases hat
  | read c r d n e =>
    simp only [SessionAct.at] at hat
    split at hat <;> cases hat

/-- A read of a run, as it is logged. -/
def ReadCall.ofRun (h : Run SessionStep (System.start client buffers) acts s)
    (hread : .read channelID requested delivered numMsgs retval ∈ acts)
    (hcounted : delivered.length < 2 ^ 31) (timeout : UInt32) : ReadCall :=
  { channelID := channelID, requested := UInt32.ofNat requested, timeout := timeout,
    delivered := delivered, counted := hcounted, sized := read_sized h hread }

end

end J2534Oip
