import J2534Oip.Viewer.Cannelloni

/-!
# The viewer of the DLL wrapper

`ExJ2534Wrapper::processPipeMessage` puts every message into its table, by an insertion
that waits for the event loop, and looks at the function of a log record: a `loadDll` is
remembered, read and write records also go to their lists.
-/

namespace J2534Oip

open QCborValue QCborMap

structure ExJ2534Wrapper where
  objs : List TimestampedObject
  /-- insertions that wait in `QTimer::singleShot` -/
  queued : List TimestampedObject
  /-- `p_loaded_funcs` -/
  loadedFuncs : Option TimestampedObject
  readMsgs : List PassthruMsg
  writeMsgs : List TimestampedObject

namespace ExJ2534Wrapper

def init : ExJ2534Wrapper :=
  { objs := [], queued := [], loadedFuncs := none, readMsgs := [], writeMsgs := [] }

/-! ## The function switch -/

/-- The branches of the `switch`; `other` is none of its cases. -/
inductive Branch
  | construction | loadDll | readMsgs | writeMsgs | queueMsgs | other
deriving DecidableEq

/-- `switch(cbor.value(KEY_FuncName).toInteger(-1))` -/
def switch (funcName : Int) : Branch :=
  if funcName = 0 then .construction
  else if funcName = 1 then .loadDll
  else if funcName = PipeMessage.func .passThruReadMsgs then .readMsgs
  else if funcName = PipeMessage.func .passThruWriteMsgs then .writeMsgs
  else if funcName = PipeMessage.func .passThruQueueMsgs then .queueMsgs
  else .other

theorem switch_eq_other (funcName : Int) : switch funcName = .other ↔
    funcName ≠ 0 ∧ funcName ≠ 1 ∧ funcName ≠ 27 ∧ funcName ≠ 36 ∧ funcName ≠ 54 := by
  unfold switch
  show (if _ then _ else if _ then _ else if funcName = (27 : Nat) then _
    else if funcName = (36 : Nat) then _ else if funcName = (54 : Nat) then _ else _) = _ ↔ _
  split_ifs <;> simp <;> omega

/-- The function of a record, -1 when it has none. -/
def funcName (L : CborLink) (data : List UInt8) : Int :=
  toInteger (-1) (value (intKey (PipeMessage.key .funcName)) (toMap (L.fromCbor data)))

/-! ## Processing a message -/

def addElement (v : ExJ2534Wrapper) (obj : TimestampedObject) : ExJ2534Wrapper :=
  { v with objs := obj :: v.objs }

/-- The event loop runs the insertions that wait. -/
def runQueued (v : ExJ2534Wrapper) : ExJ2534Wrapper :=
  v.queued.foldl addElement { v with queued := [] }

/-- The object's insertion waits. -/
def enqueue (v : ExJ2534Wrapper) (obj : TimestampedObject) : ExJ2534Wrapper :=
  { v with queued := v.queued ++ [obj] }

def processPipeMessage (L : CborLink) (now : Int64) (v : ExJ2534Wrapper) (msg : PipeMessage) :
    ExJ2534Wrapper :=
  let msg := msg.stamp now
  let obj : TimestampedObject := { timestamp := msg.timestamp, msg := msg }
  if msg.dataType = 2 then
    let cbor := toMap (L.fromCbor msg.data)
    match switch (funcName L msg.data) with
    | .construction => v.enqueue obj
    | .loadDll =>
      -- the table and `p_loaded_funcs` share the object
      let obj := { obj with hasError := contains (intKey (PipeMessage.key .error)) cbor }
      { v.enqueue obj with loadedFuncs := some obj }
    | .readMsgs =>
      { v.enqueue obj with
        readMsgs := ExJ2534ReadMsgsList.processPipeMessage L v.readMsgs msg }
    | .writeMsgs =>
      { v.enqueue obj with
        writeMsgs := ExJ2534WriteMsgsList.processPipeMessage now v.writeMsgs msg }
    | .queueMsgs => v.enqueue obj
    | .other => v.enqueue obj
  else v.enqueue obj

/-- Whatever the message, one insertion more waits, of an object that holds it. -/
theorem processPipeMessage_queued (L : CborLink) (now : Int64) (v : ExJ2534Wrapper)
    (msg : PipeMessage) : ∃ obj, obj.msg = msg.stamp now ∧
      (processPipeMessage L now v msg).queued = v.queued ++ [obj] ∧
      (processPipeMessage L now v msg).objs = v.objs := by
  unfold processPipeMessage
  by_cases h : msg.dataType = 2
  · simp only [PipeMessage.dataType_stamp, PipeMessage.data_stamp, h, if_true]
    cases switch (funcName L msg.data) with
    | loadDll =>
      exact ⟨⟨_, msg.stamp now, "", contains (intKey (PipeMessage.key .error))
        (toMap (L.fromCbor msg.data))⟩, rfl, rfl, rfl⟩
    | _ => exact ⟨⟨_, msg.stamp now, "", false⟩, rfl, rfl, rfl⟩
  · simp only [PipeMessage.dataType_stamp, h, if_false]
    exact ⟨⟨_, msg.stamp now, "", false⟩, rfl, rfl, rfl⟩

/-- The waiting insertions, each at the top of the table. -/
theorem runQueued_objs (v : ExJ2534Wrapper) : v.runQueued.objs = v.queued.reverse ++ v.objs := by
  have hfold : ∀ (waiting : List TimestampedObject) (v : ExJ2534Wrapper),
      (waiting.foldl addElement v).objs = waiting.reverse ++ v.objs := by
    intro waiting
    induction waiting with
    | nil => intro v; rfl
    | cons obj waiting ih =>
      intro v
      rw [List.foldl_cons, ih, List.reverse_cons, List.append_assoc]
      rfl
  exact hfold v.queued { v with queued := [] }

end ExJ2534Wrapper

end J2534Oip
