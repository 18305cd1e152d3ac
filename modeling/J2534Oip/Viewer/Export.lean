import J2534Oip.Viewer.Json
import J2534Oip.Viewer.Wrapper

/-!
# Exporting a log and loading it

`exportToJSON` writes the table from its top, the newest message, down; `loadFromJSON`
hands what it reads to `processPipeMessage` in that order.  Every insertion goes to the
top, so the table comes back upside down (`export_load_iff`).  The data of a record comes
back as a map with text for keys, in which the function switch finds nothing
(`replay_iff`).
-/

namespace J2534Oip

open QCborValue QCborMap

variable {L : CborLink}

/-! ## The two functions -/

/-- The object `exportToJSON` appends for a message. -/
def exportMessage (J : JsonLink L) (msg : PipeMessage) : Json :=
  .object [("id", .int msg.id.toNat), ("data_type", .int msg.dataType.toNat),
    ("type", .int msg.type.toNat), ("timestamp", .int msg.timestamp.toInt),
    ("path", .string msg.path), ("message", .string msg.message),
    ("data", J.toJsonValue (L.fromCbor msg.data))]

/-- The message `loadFromJSON` makes of an element of the array. -/
def loadMessage (J : JsonLink L) (it : Json) : PipeMessage :=
  let obj := it.toObject
  { id := UInt32.ofInt (Json.value "id" obj).toInteger
    dataType := UInt32.ofInt (Json.value "data_type" obj).toInteger
    type := UInt32.ofInt (Json.value "type" obj).toInteger
    timestamp := Int64.ofInt (Json.value "timestamp" obj).toInteger
    path := (Json.value "path" obj).toString
    message := (Json.value "message" obj).toString
    data := J.toCbor (J.fromJsonValue (Json.value "data" obj)) }

/-- `exportToJSON`, the same in both viewers. -/
def exportObjs (J : JsonLink L) (objs : List TimestampedObject) : Json :=
  .array (objs.map fun it => exportMessage J it.msg)

/-- `loadFromJSON`, the same in both viewers but for their `processPipeMessage`; `now i` is
the time at the `i`-th message. -/
def loadArray {σ : Type*} (processPipeMessage : Int64 → σ → PipeMessage → σ) (J : JsonLink L) :
    (Nat → Int64) → σ → List Json → σ
  | _, v, [] => v
  | now, v, it :: arr =>
    loadArray processPipeMessage J (fun i => now (i + 1))
      (processPipeMessage (now 0) v (loadMessage J it)) arr

def ExJ2534Wrapper.exportToJSON (J : JsonLink L) (v : ExJ2534Wrapper) : Json := exportObjs J v.objs

def ExJ2534Wrapper.loadFromJSON (J : JsonLink L) (now : Nat → Int64) (v : ExJ2534Wrapper)
    (doc : Json) : ExJ2534Wrapper :=
  loadArray (ExJ2534Wrapper.processPipeMessage L) J now v doc.toArray

def ExJ2534Cannelloni.exportToJSON (J : JsonLink L) (v : ExJ2534Cannelloni) : Json :=
  exportObjs J v.objs

def ExJ2534Cannelloni.loadFromJSON (J : JsonLink L) (now : Nat → Int64) (v : ExJ2534Cannelloni)
    (doc : Json) : ExJ2534Cannelloni :=
  loadArray (ExJ2534Cannelloni.processPipeMessage L) J now v doc.toArray

/-! ## One message -/

/-- What the table shows of a message. -/
structure Row where
  id : UInt32
  type : UInt32
  dataType : UInt32
  timestamp : Int64
  path : String
  message : String
deriving DecidableEq

def PipeMessage.row (msg : PipeMessage) : Row :=
  { id := msg.id, type := msg.type, dataType := msg.dataType, timestamp := msg.timestamp,
    path := msg.path, message := msg.message }

def rows (objs : List TimestampedObject) : List Row := objs.map fun obj => obj.msg.row

/-- A time that is set and that JSON keeps. -/
def Timed (msg : PipeMessage) : Prop :=
  msg.timestamp ≠ 0 ∧ -2 ^ 53 < msg.timestamp.toInt ∧ msg.timestamp.toInt < 2 ^ 53

instance (msg : PipeMessage) : Decidable (Timed msg) := inferInstanceAs (Decidable (_ ∧ _ ∧ _))

/-- A message after the way through the file. -/
def reloaded (J : JsonLink L) (msg : PipeMessage) : PipeMessage :=
  loadMessage J (J.stored (exportMessage J msg))

theorem stored_uint32 (J : JsonLink L) (x : UInt32) :
    UInt32.ofInt (J.stored (.int x.toNat)).toInteger = x := by
  have hx := x.toNat_lt
  rw [J.stored_int _ (by omega) (by omega)]
  exact uint32_ofInt_toNat x

/-- The fields but for the data come back. -/
theorem row_reloaded (J : JsonLink L) (msg : PipeMessage) (h : Timed msg) :
    (reloaded J msg).row = msg.row := by
  have htime : Int64.ofInt (J.stored (.int msg.timestamp.toInt)).toInteger = msg.timestamp := by
    rw [J.stored_int _ h.2.1 h.2.2]
    exact Int64.ofInt_toInt msg.timestamp
  have hstring : ∀ s, (J.stored (.string s)).toString = s := by
    intro s
    rw [J.stored_string]
    rfl
  simp only [reloaded, exportMessage, loadMessage, PipeMessage.row]
  rw [J.stored_value _ "id" (by simp), J.stored_value _ "data_type" (by simp),
    J.stored_value _ "type" (by simp), J.stored_value _ "timestamp" (by simp),
    J.stored_value _ "path" (by simp), J.stored_value _ "message" (by simp)]
  simp only [Json.value, String.reduceEq, if_true, if_false, stored_uint32, htime, hstring]

theorem dataType_reloaded (J : JsonLink L) (msg : PipeMessage) :
    (reloaded J msg).dataType = msg.dataType := by
  simp only [reloaded, exportMessage, loadMessage]
  rw [J.stored_value _ "data_type" (by simp)]
  simp only [Json.value, String.reduceEq, if_true, if_false, stored_uint32]

/-- A loaded record has no function. -/
theorem funcName_loadMessage (J : JsonLink L) (it : Json) :
    ExJ2534Wrapper.funcName L (loadMessage J it).data = -1 := by
  unfold ExJ2534Wrapper.funcName loadMessage
  rw [J.value_intKey]
  rfl

theorem stamp_of_ne (now : Int64) (msg : PipeMessage) (h : msg.timestamp ≠ 0) :
    msg.stamp now = msg := if_neg h

/-! ## The whole table -/

/-- What the two viewers share: a loaded message is one insertion more. -/
theorem loadArray_rows {σ : Type*} (process : Int64 → σ → PipeMessage → σ)
    (queued objs : σ → List TimestampedObject) (J : JsonLink L)
    (hprocess : ∀ now v it, rows (queued (process now v (loadMessage J it))) =
        rows (queued v) ++ [((loadMessage J it).stamp now).row] ∧
      objs (process now v (loadMessage J it)) = objs v)
    (msgs : List PipeMessage) (hmsgs : ∀ msg ∈ msgs, Timed msg) (now : Nat → Int64) (v : σ) :
    let v' := loadArray process J now v (msgs.map fun msg => J.stored (exportMessage J msg))
    rows (queued v') = rows (queued v) ++ msgs.map PipeMessage.row ∧ objs v' = objs v := by
  induction msgs generalizing now v with
  | nil => exact ⟨by simp [loadArray], rfl⟩
  | cons msg msgs ih =>
    have hmsg := hmsgs msg List.mem_cons_self
    obtain ⟨hq, ho⟩ := hprocess (now 0) v (J.stored (exportMessage J msg))
    obtain ⟨ihq, iho⟩ := ih (fun m hm => hmsgs m (List.mem_cons_of_mem msg hm))
      (fun i => now (i + 1)) (process (now 0) v (loadMessage J (J.stored (exportMessage J msg))))
    have hrow := row_reloaded J msg hmsg
    have htime : (reloaded J msg).timestamp ≠ 0 := by
      rw [show (reloaded J msg).timestamp = msg.timestamp from congrArg Row.timestamp hrow]
      exact hmsg.1
    have hstamp : (loadMessage J (J.stored (exportMessage J msg))).stamp (now 0) = reloaded J msg :=
      stamp_of_ne _ _ htime
    rw [hstamp, hrow] at hq
    simp only [List.map_cons, loadArray]
    exact ⟨by rw [ihq, hq, List.append_assoc]; rfl, iho.trans ho⟩

theorem toArray_stored (J : JsonLink L) (objs : List TimestampedObject) :
    (J.stored (exportObjs J objs)).toArray =
      (objs.map TimestampedObject.msg).map fun msg => J.stored (exportMessage J msg) := by
  rw [exportObjs, J.stored_array, List.map_map, List.map_map]
  rfl

theorem rows_eq (objs : List TimestampedObject) :
    rows objs = (objs.map TimestampedObject.msg).map PipeMessage.row := by
  rw [List.map_map]
  rfl

theorem ExJ2534Wrapper.rows_loaded (J : JsonLink L) (now : Nat → Int64)
    (objs : List TimestampedObject) (h : ∀ obj ∈ objs, Timed obj.msg) :
    rows ((init.loadFromJSON J now (J.stored (exportObjs J objs))).runQueued.objs) =
      (rows objs).reverse := by
  obtain ⟨hq, ho⟩ := loadArray_rows (processPipeMessage L) queued ExJ2534Wrapper.objs J (by
    intro now v it
    obtain ⟨obj, hobj, hqueued, hobjs⟩ := processPipeMessage_queued L now v (loadMessage J it)
    refine ⟨?_, hobjs⟩
    rw [hqueued]
    simp only [rows, List.map_append, List.map_cons, List.map_nil, hobj])
    (objs.map TimestampedObject.msg) (by simpa using h) now init
  rw [runQueued_objs, loadFromJSON, toArray_stored, ho, rows_eq objs]
  show rows (_ ++ []) = _
  rw [List.append_nil, rows, List.map_reverse]
  exact congrArg List.reverse hq

theorem ExJ2534Cannelloni.rows_loaded (J : JsonLink L) (now : Nat → Int64)
    (objs : List TimestampedObject) (h : ∀ obj ∈ objs, Timed obj.msg) :
    rows ((loadFromJSON J now ⟨[], [], [], []⟩ (J.stored (exportObjs J objs))).runQueued.objs) =
      (rows objs).reverse := by
  obtain ⟨hq, ho⟩ := loadArray_rows (processPipeMessage L) queued ExJ2534Cannelloni.objs J (by
    intro now v it
    have hnone := funcName_loadMessage J it
    unfold ExJ2534Wrapper.funcName at hnone
    unfold processPipeMessage
    simp only [PipeMessage.data_stamp, hnone]
    by_cases h2 : (loadMessage J it).dataType = 2
    · simp [h2, PipeMessage.func, rows]
    · simp [h2, rows])
    (objs.map TimestampedObject.msg) (by simpa using h) now ⟨[], [], [], []⟩
  rw [runQueued_eq, loadFromJSON, toArray_stored, ho, rows_eq objs]
  show rows (_ ++ []) = _
  rw [List.append_nil, rows, List.map_reverse]
  exact congrArg List.reverse hq

/-- **Loading an export turns the table over.**  Both viewers: the table is restored exactly
when its rows read the same from the top and from the bottom. -/
theorem export_load_iff (J : JsonLink L) (now : Nat → Int64) (v : ExJ2534Wrapper)
    (w : ExJ2534Cannelloni) (hv : ∀ obj ∈ v.objs, Timed obj.msg)
    (hw : ∀ obj ∈ w.objs, Timed obj.msg) :
    (rows (ExJ2534Wrapper.init.loadFromJSON J now (J.stored (v.exportToJSON J))).runQueued.objs =
        rows v.objs ↔ (rows v.objs).reverse = rows v.objs) ∧
      (rows (ExJ2534Cannelloni.loadFromJSON J now ⟨[], [], [], []⟩
          (J.stored (w.exportToJSON J))).runQueued.objs = rows w.objs ↔
        (rows w.objs).reverse = rows w.objs) := by
  constructor
  · rw [ExJ2534Wrapper.exportToJSON, ExJ2534Wrapper.rows_loaded J now v.objs hv]
  · rw [ExJ2534Cannelloni.exportToJSON, ExJ2534Cannelloni.rows_loaded J now w.objs hw]

/-- A text message with the given id and time. -/
def textMessage (id : UInt32) (timestamp : Int64) : PipeMessage :=
  { id := id, type := 0, dataType := 0, timestamp := timestamp, path := "/DLL", message := "text",
    data := [] }

/-- Three rows that read the same from both ends, in each table: both are restored. -/
theorem export_load_palindrome :
    let row : UInt32 → Int64 → TimestampedObject := fun id timestamp =>
      { timestamp := timestamp, msg := textMessage id timestamp }
    let objs := [row 1 5, row 2 6, row 1 5]
    let v : ExJ2534Wrapper := ⟨objs, [], none, [], []⟩
    let w : ExJ2534Cannelloni := ⟨objs, [], [], []⟩
    rows (ExJ2534Wrapper.init.loadFromJSON .documented (fun _ => 9)
        (JsonLink.documented.stored (v.exportToJSON .documented))).runQueued.objs = rows objs ∧
      rows (ExJ2534Cannelloni.loadFromJSON .documented (fun _ => 9) ⟨[], [], [], []⟩
        (JsonLink.documented.stored (w.exportToJSON .documented))).runQueued.objs = rows objs := by
  intro row objs v w
  have hobjs : ∀ obj ∈ objs, Timed obj.msg := by decide
  obtain ⟨hwrapper, hcannelloni⟩ := export_load_iff .documented (fun _ => 9) v w hobjs hobjs
  exact ⟨hwrapper.2 rfl, hcannelloni.2 rfl⟩

/-- Two messages logged one after the other are loaded in the other order. -/
theorem export_load_two :
    ¬ ∀ log : List PipeMessage, (∀ msg ∈ log, Timed msg) →
      let v := (log.foldl (ExJ2534Wrapper.processPipeMessage .rfc8949 9) .init).runQueued
      rows (ExJ2534Wrapper.init.loadFromJSON .documented (fun _ => 9)
        (JsonLink.documented.stored (v.exportToJSON .documented))).runQueued.objs = rows v.objs := by
  intro h
  have h := h [textMessage 1 5, textMessage 2 6] (by decide)
  revert h
  decide

/-! ## Replaying a record -/

namespace ExJ2534Wrapper

/-- The branch of the function switch a message takes; only records have one. -/
def branch (L : CborLink) (msg : PipeMessage) : Option Branch :=
  if msg.dataType = 2 then some (switch (funcName L msg.data)) else none

/-- The same branch, and for a read record the same messages appended. -/
def ReplaysAs (L : CborLink) (msg msg' : PipeMessage) : Prop :=
  branch L msg' = branch L msg ∧
    (funcName L msg.data = PipeMessage.func .passThruReadMsgs → ∀ (now : Int64) (v : ExJ2534Wrapper),
      (processPipeMessage L now v msg').readMsgs = (processPipeMessage L now v msg).readMsgs)

/-- **A loaded record replays like the recorded one iff the switch has no case for it.** -/
theorem replay_iff (J : JsonLink L) (msg : PipeMessage) (h : msg.dataType = 2) :
    ReplaysAs L msg (reloaded J msg) ↔ funcName L msg.data ∉ [0, 1, 27, 36, 54] := by
  have hloaded : branch L (reloaded J msg) = some .other := by
    rw [branch, dataType_reloaded, if_pos h, reloaded, funcName_loadMessage]
    rfl
  have hbranch : branch L msg = some (switch (funcName L msg.data)) := if_pos h
  have hother : branch L (reloaded J msg) = branch L msg ↔
      funcName L msg.data ∉ [0, 1, 27, 36, 54] := by
    rw [hloaded, hbranch, eq_comm, Option.some.injEq, switch_eq_other]
    simp
  constructor
  · exact fun hsame => hother.1 hsame.1
  · intro hnone
    refine ⟨hother.2 hnone, ?_⟩
    intro hread
    exact absurd hread (fun heq => hnone (by rw [heq]; decide))

open CborUtils ExPipeClient in
/-- The record the wrapper sends for a read on channel 1 that delivered `msgs`. -/
def readRecord (msgs : List PassthruMsg) : PipeMessage :=
  let numMsgs := UInt32.ofNat msgs.length
  let root := mapPutInt [] (key .funcName) (UInt32.ofNat (func .passThruReadMsgs))
  let root := mapPutInt root (key .param1) 1
  let root := mapPutInt root (key .param3) numMsgs
  let root := mapPutInt root (key .param4) 100
  let root := mapPutInt root (key .rxTx) 0
  let root := mapPutPassthruMsg root (key .param2) numMsgs msgs
  let root := mapPutInt root (key .param3) numMsgs
  let root := mapPutInt root (key .param4) 100
  let root := mapPutInt root (key .rxTx) 1
  let root := mapPutInt root (key .retvalLong) 0
  { textMessage 1 5 with dataType := 2, data := cborToData .rfc8949 (.map root) }

/-- The record of a read that delivered three messages. -/
theorem replay_three :
    let msgs := [PassthruMsg.ofBytes [0, 0, 7, 0xE8, 2, 1], PassthruMsg.ofBytes [0, 0, 7, 0xE9],
      PassthruMsg.ofBytes [0, 0, 7, 0xE8, 0x30, 0, 0]]
    funcName .rfc8949 (readRecord msgs).data = PipeMessage.func .passThruReadMsgs ∧
      ¬ReplaysAs .rfc8949 (readRecord msgs) (reloaded .documented (readRecord msgs)) := by
  intro msgs
  have hfunc : funcName .rfc8949 (readRecord msgs).data = PipeMessage.func .passThruReadMsgs := by
    decide
  refine ⟨hfunc, fun hsame => ?_⟩
  have hnone := (replay_iff .documented (readRecord msgs) rfl).1 hsame
  rw [hfunc] at hnone
  exact hnone (by decide)

/-- A read record with one message takes another branch, and the message is lost. -/
theorem replay_read :
    ¬ ∀ msg : PipeMessage, msg.dataType = 2 →
      ReplaysAs .rfc8949 msg (reloaded .documented msg) := by
  intro h
  have hsame := (h (readRecord [PassthruMsg.ofBytes [0, 0, 7, 0xE8, 1]]) rfl).1
  revert hsame
  decide

end ExJ2534Wrapper

end J2534Oip
