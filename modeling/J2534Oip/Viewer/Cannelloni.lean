import J2534Oip.Log.ReadRecord
import J2534Oip.Pipe.Protocol

/-!
# The viewer of the Cannelloni client

`ExJ2534Cannelloni::processPipeMessage` sorts the messages of a client: read records go to
the list of read messages, write records to the list of write records, the rest to a table
whose insertions wait for the event loop.

    ∃ rows, log.foldl (record …) v = { v with readMsgs := v.readMsgs ++ rows } ∧
      List.Forall₂ LoggedAs (delivered messages of the log) rows           (readMsgs_logged)

The encoder (`Log/ReadRecord.lean`) and the decoder here share a layout and two copies of
the key enumeration, nothing else.
-/

namespace J2534Oip

open QCborValue QCborMap

/-! ## Lists -/

structure TimestampedObject where
  timestamp : Int64
  msg : PipeMessage
  data : String := ""
  hasError : Bool := false

/-- `if(msg.timestamp == 0)msg.timestamp = now` -/
def PipeMessage.stamp (now : Int64) (msg : PipeMessage) : PipeMessage :=
  if msg.timestamp = 0 then { msg with timestamp := now } else msg

@[simp] theorem PipeMessage.dataType_stamp (now : Int64) (msg : PipeMessage) :
    (msg.stamp now).dataType = msg.dataType := by
  unfold stamp
  split <;> rfl

@[simp] theorem PipeMessage.data_stamp (now : Int64) (msg : PipeMessage) :
    (msg.stamp now).data = msg.data := by
  unfold stamp
  split <;> rfl

namespace ExJ2534ReadMsgsList

/-- `msgs[i]` as a `PASSTHRU_MSG`: each field from its key, `Data` zeroed and filled.  What is
copied behind `Data` is left out here (see `Viewer/Bounds.lean`). -/
def messageOf (msg : Cbor) : PassthruMsg :=
  let field (k : Key) : UInt32 :=
    UInt32.ofInt (toInteger 0 (value (intKey (PipeMessage.key k)) (toMap msg)))
  { protocolID := field .param1
    rxStatus := field .param2
    txFlags := field .param3
    timestamp := field .param4
    dataSize := field .param5
    extraDataIndex := field .param6
    data := dataOf (toByteArray (value (intKey (PipeMessage.key .param7)) (toMap msg))) }

def addElement (objs : List PassthruMsg) (obj : PassthruMsg) : List PassthruMsg := objs ++ [obj]

/-- The batch under `KEY_Param2`; an integer there stands for a null `pMsg`. -/
def processPipeMessage (L : CborLink) (objs : List PassthruMsg) (msg : PipeMessage) :
    List PassthruMsg :=
  let cborData := toMap (L.fromCbor msg.data)
  let param2 := value (intKey (PipeMessage.key .param2)) cborData
  if isInteger param2 then objs
  else
    let cborMsgs := toMap param2
    let msgsCount := toInteger 0 (value (intKey 0) cborMsgs)
    let msgs := toArray (value (intKey 1) cborMsgs)
    (List.range msgsCount.toNat).foldl
      (fun objs i => addElement objs (messageOf (msgs.getD i undefined))) objs

end ExJ2534ReadMsgsList

/-- `ExJ2534WriteMsgsList::processPipeMessage`; `now` in milliseconds. -/
def ExJ2534WriteMsgsList.processPipeMessage (now : Int64) (objs : List TimestampedObject)
    (msg : PipeMessage) : List TimestampedObject :=
  objs ++ [{ timestamp := 0, msg := msg.stamp (now / 1000) }]

/-! ## The viewer -/

structure ExJ2534Cannelloni where
  objs : List TimestampedObject
  /-- insertions that wait in `QTimer::singleShot` -/
  queued : List TimestampedObject
  readMsgs : List PassthruMsg
  writeMsgs : List TimestampedObject

namespace ExJ2534Cannelloni

def addElement (v : ExJ2534Cannelloni) (obj : TimestampedObject) : ExJ2534Cannelloni :=
  { v with objs := obj :: v.objs }

/-- The event loop runs the insertions that wait. -/
def runQueued (v : ExJ2534Cannelloni) : ExJ2534Cannelloni :=
  v.queued.foldl addElement { v with queued := [] }

/-- The waiting insertions, each at the top of the table. -/
theorem runQueued_eq (v : ExJ2534Cannelloni) :
    v.runQueued = { v with objs := v.queued.reverse ++ v.objs, queued := [] } := by
  have hfold : ∀ (waiting : List TimestampedObject) (v : ExJ2534Cannelloni),
      waiting.foldl addElement v = { v with objs := waiting.reverse ++ v.objs } := by
    intro waiting
    induction waiting with
    | nil => intro v; rfl
    | cons obj waiting ih =>
      intro v
      rw [List.foldl_cons, ih, List.reverse_cons, List.append_assoc]
      rfl
  rw [runQueued, hfold]

/-- The text shown for a `PassThruOpen` record. -/
def openText (cbor : List (Cbor × Cbor)) : String :=
  let pName := QCborValue.toString (value (intKey (PipeMessage.key .param1)) cbor)
  let pDeviceID := Int32.ofInt (toInteger 0 (value (intKey (PipeMessage.key .param2)) cbor))
  "pName = " ++ pName ++ " pDeviceID = " ++ pDeviceID.toInt.repr

def processPipeMessage (L : CborLink) (now : Int64) (v : ExJ2534Cannelloni) (msg : PipeMessage) :
    ExJ2534Cannelloni :=
  let msg := msg.stamp now
  let obj : TimestampedObject := { timestamp := msg.timestamp, msg := msg }
  let notProceeded := { v with queued := v.queued ++ [obj] }
  if msg.dataType = 2 then
    let cbor := toMap (L.fromCbor msg.data)
    let funcName := toInteger (-1) (value (intKey (PipeMessage.key .funcName)) cbor)
    if funcName = PipeMessage.func .passThruOpen then
      { v with queued := v.queued ++ [{ obj with data := openText cbor }] }
    else if funcName = PipeMessage.func .passThruReadMsgs then
      { v with readMsgs := ExJ2534ReadMsgsList.processPipeMessage L v.readMsgs msg }
    else if funcName = PipeMessage.func .passThruWriteMsgs then
      { v with writeMsgs := ExJ2534WriteMsgsList.processPipeMessage now v.writeMsgs msg }
    else notProceeded
  else notProceeded

end ExJ2534Cannelloni

/-! ## One message -/

/-- A row shows a message: the six fields, the bytes `DataSize` counts, and zeros after them. -/
structure LoggedAs (msg row : PassthruMsg) : Prop where
  protocolID : row.protocolID = msg.protocolID
  rxStatus : row.rxStatus = msg.rxStatus
  txFlags : row.txFlags = msg.txFlags
  timestamp : row.timestamp = msg.timestamp
  dataSize : row.dataSize = msg.dataSize
  extraDataIndex : row.extraDataIndex = msg.extraDataIndex
  data : ∀ j, row.data j = if j.val < msg.dataSize.toNat then msg.data j else 0

namespace ExJ2534ReadMsgsList

open CborUtils

/-- Each key of the map `map_put_PASSTHRU_MSG` builds is found, with the value put there. -/
theorem messageOf_msgMap (msg : PassthruMsg) :
    messageOf (.map (msgMap msg)) = { msg with data := dataOf (msg.bytes 0 msg.dataSize.toNat) } := by
  have hfields : messageOf (.map (msgMap msg)) =
      { protocolID := UInt32.ofInt msg.protocolID.toNat, rxStatus := UInt32.ofInt msg.rxStatus.toNat,
        txFlags := UInt32.ofInt msg.txFlags.toNat, timestamp := UInt32.ofInt msg.timestamp.toNat,
        dataSize := UInt32.ofInt msg.dataSize.toNat,
        extraDataIndex := UInt32.ofInt msg.extraDataIndex.toNat,
        data := dataOf (msg.bytes 0 msg.dataSize.toNat) } := by
    simp only [messageOf, pipeMessage_key]
    rfl
  simp only [hfields, uint32_ofInt_toNat]

theorem loggedAs_messageOf (msg : PassthruMsg) : LoggedAs msg (messageOf (.map (msgMap msg))) := by
  rw [messageOf_msgMap]
  refine ⟨rfl, rfl, rfl, rfl, rfl, rfl, ?_⟩
  intro j
  show (msg.bytes 0 msg.dataSize.toNat).getD j 0 = _
  split
  · next h =>
    rw [List.getD_eq_getElem _ 0 (by rw [PassthruMsg.length_bytes]; exact h),
      msg.getElem_bytes 0 _ _ _ (by omega)]
    simp only [Nat.zero_add]
  · next h =>
    exact List.getD_eq_default _ 0 (by rw [PassthruMsg.length_bytes]; omega)

/-- Reading an array by index is mapping over it. -/
theorem map_range_getD (f : Cbor → PassthruMsg) (xs : List Cbor) :
    ((List.range xs.length).map fun i => f (xs.getD i undefined)) = xs.map f := by
  apply List.ext_getElem
  · simp
  · intro i hi _
    simp at hi
    simp [hi]

/-- The rows a call adds. -/
def rows (call : ReadCall) : List PassthruMsg :=
  call.delivered.map fun msg => messageOf (.map (msgMap msg))

theorem loggedAs_rows (call : ReadCall) : List.Forall₂ LoggedAs call.delivered (rows call) := by
  rw [rows, List.forall₂_map_right_iff, List.forall₂_same]
  exact fun msg _ => loggedAs_messageOf msg

/-- A record's batch is appended to the list. -/
theorem processPipeMessage_record (L : CborLink) (objs : List PassthruMsg) (msg : PipeMessage)
    (call : ReadCall) (h : L.fromCbor msg.data = .map call.recordMap) :
    processPipeMessage L objs msg = objs ++ rows call := by
  have hbatch : processPipeMessage L objs msg =
      (List.range call.delivered.length).foldl (fun objs i => addElement objs (messageOf
        ((call.delivered.map fun msg => Cbor.map (msgMap msg)).getD i undefined))) objs := by
    rw [processPipeMessage, h, ReadCall.recordMap_eq]
    rfl
  have hmap := map_range_getD messageOf (call.delivered.map fun msg => .map (msgMap msg))
  rw [List.length_map, List.map_map] at hmap
  rw [hbatch]
  simp only [addElement]
  rw [List.foldl_append_eq_append, ← List.flatMap_def, ← List.map_eq_flatMap, hmap]
  rfl

end ExJ2534ReadMsgsList

/-! ## The log -/

/-- A read call as it reaches the viewer: the client's process, when it was sent, and the
viewer's clock. -/
structure LogEntry where
  id : UInt32
  timestamp : Int64
  path : List UInt8
  now : Int64
  call : ReadCall

namespace ExJ2534Cannelloni

/-- The viewer gets the record of a call. -/
def logged (L : CborLink) (v : ExJ2534Cannelloni) (e : LogEntry) : ExJ2534Cannelloni :=
  processPipeMessage L e.now v
    (ExPipeServer.received (e.call.logMessage L e.id e.timestamp e.path))

/-- What a call logs is decoded to its record. -/
theorem fromCbor_logMessage (L : CborLink) (e : LogEntry) :
    L.fromCbor (e.call.logMessage L e.id e.timestamp e.path).data = .map e.call.recordMap := by
  obtain ⟨bs, hw, hr⟩ := L.restores _ e.call.wellFormed_record
  show L.fromCbor (CborUtils.cborToData L (.map e.call.recordMap)) = _
  rw [CborUtils.cborToData, hw]
  exact hr

/-- A read record goes to the read list, and to nothing else. -/
theorem processPipeMessage_record (L : CborLink) (now : Int64) (v : ExJ2534Cannelloni)
    (msg : PipeMessage) (call : ReadCall) (htype : msg.dataType = 2)
    (hdata : L.fromCbor msg.data = .map call.recordMap) : processPipeMessage L now v msg =
      { v with readMsgs := v.readMsgs ++ ExJ2534ReadMsgsList.rows call } := by
  have hfunc : toInteger (-1) (value (intKey (PipeMessage.key .funcName)) call.recordMap) =
      PipeMessage.func .passThruReadMsgs := by
    rw [ReadCall.recordMap_eq, pipeMessage_key, pipeMessage_func]
    rfl
  have hread := ExJ2534ReadMsgsList.processPipeMessage_record L v.readMsgs (msg.stamp now) call
    (by rw [PipeMessage.data_stamp, hdata])
  have hopen : ¬((PipeMessage.func .passThruReadMsgs : Int) = PipeMessage.func .passThruOpen) := by
    decide
  simp only [processPipeMessage, PipeMessage.dataType_stamp, PipeMessage.data_stamp, htype, hdata,
    toMap, hfunc, hread, if_neg hopen, if_true]

theorem logged_eq (L : CborLink) (v : ExJ2534Cannelloni) (e : LogEntry) :
    logged L v e = { v with readMsgs := v.readMsgs ++ ExJ2534ReadMsgsList.rows e.call } :=
  processPipeMessage_record L e.now v _ e.call rfl (fromCbor_logMessage L e)

/-- **The log is faithful.**  The records of any sequence of reads append to the read list
exactly what the reads delivered, in order, and change nothing else. -/
theorem readMsgs_logged (L : CborLink) (v : ExJ2534Cannelloni) (log : List LogEntry) :
    ∃ rows, log.foldl (logged L) v = { v with readMsgs := v.readMsgs ++ rows } ∧
      List.Forall₂ LoggedAs (log.flatMap (·.call.delivered)) rows := by
  induction log generalizing v with
  | nil => exact ⟨[], by rw [List.append_nil]; rfl, List.Forall₂.nil⟩
  | cons e log ih =>
    obtain ⟨rows, hfold, hrows⟩ := ih (logged L v e)
    refine ⟨ExJ2534ReadMsgsList.rows e.call ++ rows, ?_, ?_⟩
    · rw [List.foldl_cons, hfold, logged_eq, ← List.append_assoc]
    · rw [List.flatMap_cons]
      exact List.rel_append (ExJ2534ReadMsgsList.loggedAs_rows e.call) hrows

-- a read that delivers nothing, then one that delivers two messages, over RFC 8949
example :
    let msg : PassthruMsg := { PassthruMsg.ofBytes [0, 0, 7, 0xE8, 1, 2] with rxStatus := 0xFFFFFFFF }
    let log : List LogEntry := [⟨1, 0, [], 9, ⟨20000, 8, 0, [], by decide, by decide⟩⟩,
      ⟨1, 5, [], 9, ⟨20000, 8, 100, [msg, msg], by decide, by decide⟩⟩]
    let row := (can, (0xFFFFFFFF : UInt32), (6 : UInt32), [0, 0, 7, 0xE8, 1, 2, 0, 0])
    ((log.foldl (logged .rfc8949) ⟨[], [], [], []⟩).readMsgs.map fun row =>
      (row.protocolID, row.rxStatus, row.dataSize, row.bytes 0 8)) = [row, row] := by
  decide

end ExJ2534Cannelloni

end J2534Oip
