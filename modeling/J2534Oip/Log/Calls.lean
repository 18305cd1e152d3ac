import J2534Oip.Cannelloni.Api
import J2534Oip.Log.Encoded

/-!
# `J2534CannelloniClient`: its log records

An entry point puts the function and the arguments into a record, then the return code, or an
error text where it fails, and sends it.  Two records go by the name of another function
(`PassThruExEraseFlash`, `PassThruReadDetails`), `PassThruGetLastError` puts its error text
whatever it returns, a write that succeeds puts neither code nor text, and enumeration that
is at its end and a select that times out put their code without a text.  The error texts are
those of temporaries, dead when the record is encoded.  Still every record tells how its call
ended:

    s.Logs call retval s' log → TellsCall call retval s'.client (log.sent call dead)   (tells_sent)

A write that reaches an invalid message sends a record, frees the tree, goes on with it and sends
another from it; what that does is undefined, and the model has no step for it.
-/

namespace J2534Oip

open CborUtils ExPipeClient QCborMap
open J2534DllWrapper (record_split)

/-! ## The records -/

/-- The text of the message a call sends and its record as it is put, and what a write gave to
`sendto`. -/
structure CallLog where
  text : String
  record : List (Cbor × Cbor)
  sends : List (List UInt8 × Int)

namespace J2534CannelloniClient

/-- `cb_map_root` with its first entry. -/
def root (f : FuncName) : List (Cbor × Cbor) :=
  mapPutInt [] (key .funcName) (UInt32.ofNat (func f))

/-- `"Function " __FUNCTION__ " -> " lastError`, up to a NUL, in a temporary. -/
def putLastError (client : J2534CannelloniClient) (f : FuncName) (root : List (Cbor × Cbor)) :
    List (Cbor × Cbor) :=
  mapPutString root (key .error)
    (cString (utf8 ("Function " ++ f.name ++ " -> ") ++ client.lastError))

def putRetval (retval : J2534Err) (root : List (Cbor × Cbor)) : List (Cbor × Cbor) :=
  mapPutInt root (key .retvalLong) (UInt32.ofNat retval.code)

/-- The record of `PassThruConnect`. -/
def connectRecord (client : J2534CannelloniClient) (deviceID protocolID flags baudrate : UInt32) :
    List (Cbor × Cbor) :=
  let root := root .passThruConnect
  let root := mapPutInt root (key .param1) deviceID
  let root := mapPutInt root (key .param2) protocolID
  let root := mapPutInt root (key .param3) flags
  let root := mapPutInt root (key .param4) baudrate
  match client.channelMap.lookup deviceID with
  | none =>
    let root := mapPutInt root (key .param5) deviceID
    putLastError (client.passThruConnect deviceID).1 .passThruConnect root
  | some _ =>
    -- `*pChannelID`
    let root := mapPutInt root (key .param5) deviceID
    putRetval .statusNoError root

/-- The record of `PassThruReadMsgs`; on an open channel `retval` is still `STATUS_NOERROR`. -/
def readRecord (client : J2534CannelloniClient) (channelID requested timeout : UInt32)
    (delivered : List PassthruMsg) : List (Cbor × Cbor) :=
  let root := root .passThruReadMsgs
  let root := mapPutInt root (key .param1) channelID
  let root := mapPutInt root (key .param3) requested
  let root := mapPutInt root (key .param4) timeout
  match client.channelMap.lookup channelID with
  | none =>
    let root := mapPutInt root (key .param2) 0
    let root := mapPutInt root (key .rxTx) 0
    let client' := client.fail (utf8 "Invalid ChannelID") .errInvalidChannelId
    putLastError client' .passThruReadMsgs root
  | some _ =>
    let root := mapPutPassthruMsg root (key .param2) (UInt32.ofNat delivered.length) delivered
    let root := mapPutInt root (key .rxTx) 1
    putRetval .statusNoError root

/-- The record of `PassThruWriteMsgs`; `none` when the call reaches an invalid message and goes on
with a tree it has freed. -/
def writeRecord (client : J2534CannelloniClient) (channelID : UInt32) (pMsg : List PassthruMsg)
    (timeout : UInt32) (sendto : Nat → Int) (wsaGetLastError : Int) : Option (List (Cbor × Cbor)) :=
  let client' := (client.passThruWriteMsgs channelID pMsg sendto wsaGetLastError).1
  let root := root .passThruWriteMsgs
  let root := mapPutInt root (key .param1) channelID
  let root := mapPutInt root (key .param3) (UInt32.ofNat pMsg.length)
  let root := mapPutInt root (key .param4) timeout
  let root := mapPutInt root (key .rxTx) 0
  match client.channelMap.lookup channelID with
  | none =>
    let root := mapPutInt root (key .param2) 0
    some (putLastError client' .passThruWriteMsgs root)
  | some ctx =>
    let r := writeLoop client.cannelloniVersion sendto pMsg (.start ctx.seqNo)
    match r.2 with
    | .sendFailed => some (putLastError client' .passThruWriteMsgs root)
    | .invalidMsg => none
    | .allSent =>
      let root := mapPutPassthruMsg root (key .param2) (UInt32.ofNat r.1.sentMsgs) pMsg
      let root := mapPutInt root (key .param3) (UInt32.ofNat r.1.sentMsgs)
      some (mapPutInt root (key .param4) timeout)

/-- The record of `PassThruGetLastError`. -/
def getLastErrorRecord (client : J2534CannelloniClient) (pErrorDescription : Bool) :
    List (Cbor × Cbor) :=
  let r := client.passThruGetLastError pErrorDescription
  let root := root .passThruGetLastError
  let root := mapPutString root (key .param1) (cString client.lastError)
  if pErrorDescription then
    mapPutString (putRetval r.2.1 root) (key .error) (cString client.lastError)
  else putLastError r.1 .passThruGetLastError root

/-- The number a `long` return value is put as. -/
def Retval.num : Retval → UInt32
  | .code e => UInt32.ofNat e.code
  | .ready n => UInt32.ofNat n

/-- The record of `PassThruSelect`; `channelSetPtr` is the pointer's value. -/
def selectRecord (client : J2534CannelloniClient) (channelSetPtr : UInt32) (set : Option ChannelSet)
    (selectType timeout : UInt32) (passes : List SelectPass) (retval : Retval) :
    List (Cbor × Cbor) :=
  let client' := (client.passThruSelect set timeout passes).1
  let root := root .passThruSelect
  let root := mapPutInt root (key .param1) channelSetPtr
  let root := mapPutInt root (key .param2) selectType
  let root := mapPutInt root (key .param3) timeout
  match set with
  | none => putLastError client' .passThruSelect root
  | some set =>
    match set.channelList with
    | none | some [] => putLastError client' .passThruSelect root
    | some (_ :: _) => mapPutInt root (key .retvalLong) retval.num

end J2534CannelloniClient

open J2534CannelloniClient (root putLastError putRetval Retval ChannelSet SelectPass)

namespace World

/-- The record of `PassThruOpen`; a later put of a key stands behind the first. -/
def openRecord (w : World) (pName : Option (List UInt8)) (pDeviceID : Option UInt32)
    (env : OpenEnv w.os) : List (Cbor × Cbor) :=
  let client' := (w.passThruOpen pName pDeviceID env).1.client
  let root := root .passThruOpen
  if pDeviceID.isNone then
    let root := mapPutString root (key .param1) []
    let root := mapPutInt root (key .param2) 0
    putLastError client' .passThruOpen root
  else
    let port := selectPort w.client pName
    let host := selectHost w.client env.inetPton pName
    let root := mapPutString root (key .param1) host
    if numPorts ≤ w.client.channelMap.entries.length then
      let root := mapPutString root (key .param1) []
      let root := mapPutInt root (key .param2) 0
      putLastError client' .passThruOpen root
    else
      let named := mapPutInt (mapPutString root (key .param1) host) (key .param2) port
      if port ∈ w.client.channelMap then putLastError client' .passThruOpen named
      else if env.socket.isNone then putLastError client' .passThruOpen named
      else if (env.inetPton host true).1 ≠ 1 then putLastError client' .passThruOpen named
      else if env.connect = false then putLastError client' .passThruOpen root
      else putRetval .statusNoError named

/-- The record of `PassThruClose`. -/
def closeRecord (w : World) (deviceID : UInt32) : List (Cbor × Cbor) :=
  let root := mapPutInt (root .passThruClose) (key .param1) deviceID
  match w.client.channelMap.lookup deviceID with
  | none => putLastError (w.passThruClose deviceID).1.client .passThruClose root
  | some _ => putRetval .statusNoError root

end World

namespace CallState

/-- The record of `PassThruScanForDevices`; `pDeviceCount` is the number pointed to. -/
def scanRecord (s : CallState) (pDeviceCount : Option UInt32) : List (Cbor × Cbor) :=
  let root := mapPutInt (root .passThruScanForDevices) (key .param1) (pDeviceCount.getD 0)
  match pDeviceCount with
  | none =>
    let client' := (s.passThruScanForDevices false).1.world.client
    putLastError client' .passThruScanForDevices root
  | some _ => putRetval .statusNoError root

/-- The record of `PassThruGetNextDevice`. -/
def nextRecord (s : CallState) (psDevice : Bool) : List (Cbor × Cbor) :=
  let root := root .passThruGetNextDevice
  if psDevice = false then
    putLastError (s.passThruGetNextDevice psDevice).1.world.client .passThruGetNextDevice root
  else if virtualDeviceCount ≤ s.scanIndex then putRetval .errNoMoreDevices root
  else putRetval .statusNoError root

/-- The record of `PassThruGetNextCarDAQ`; `version` is the number pointed to. -/
def carDaqRecord (s : CallState) (version : Option UInt32) (pointers allocName allocAddr : Bool) :
    List (Cbor × Cbor) :=
  let client' := (s.passThruGetNextCarDAQ pointers allocName allocAddr).1.world.client
  let root := root .passThruGetNextCarDAQ
  let root := mapPutString root (key .param1) (utf8 "N/A")
  let root := mapPutInt root (key .param2) (version.getD 0)
  let root := mapPutString root (key .param3) (utf8 "N/A")
  if pointers = false then putLastError client' .passThruGetNextCarDAQ root
  else if virtualDeviceCount ≤ s.scanIndex then putRetval .errNoMoreDevices root
  else if allocName = false then putLastError client' .passThruGetNextCarDAQ root
  else if allocAddr = false then putLastError client' .passThruGetNextCarDAQ root
  else putRetval .statusNoError root

end CallState

/-! ## Entry points that leave the client alone -/

/-- The function an entry point puts, its puts, and the text of its message. -/
structure FixedLog where
  funcName : FuncName
  puts : List (Key × Val)
  text : String

/-- `PassThruDisconnect`, `PassThruReadVersion`, `PassThruIoctl` and what is not implemented. -/
def fixedLog : FuncName → FixedLog
  | .passThruDisconnect => ⟨.passThruDisconnect, [(.param1, .int (.arg 0))], "PassThruConnect"⟩
  | .passThruQueueMsgs =>
    ⟨.passThruQueueMsgs, [(.param1, .int (.arg 0)), (.param2, .msgs (.deref 2) 1),
      (.param3, .int (.deref 2))], "PassThruQueueMsgs"⟩
  | .passThruStartPeriodicMsg =>
    ⟨.passThruStartPeriodicMsg, [(.param1, .int (.arg 0)), (.param2, .msgs (.const 1) 1),
      (.param3, .int (.deref 2)), (.param4, .int (.arg 3))], "PassThruStartPeriodicMsg"⟩
  | .passThruStopPeriodicMsg =>
    ⟨.passThruStopPeriodicMsg, [(.param1, .int (.arg 0)), (.param2, .int (.arg 1))],
      "PassThruStopPeriodicMsg"⟩
  | .passThruStartMsgFilter =>
    ⟨.passThruStartMsgFilter, [(.param1, .int (.arg 0)), (.param2, .int (.arg 1)),
      (.param3, .msgs (.const 1) 2), (.param4, .msgs (.const 1) 3), (.param5, .msgs (.const 1) 4),
      (.param6, .int (.deref 5))], "PassThruStartMsgFilter"⟩
  | .passThruStopMsgFilter =>
    ⟨.passThruStopMsgFilter, [(.param1, .int (.arg 0)), (.param2, .int (.arg 1))],
      "PassThruStopMsgFilter"⟩
  | .passThruSetProgrammingVoltage =>
    ⟨.passThruSetProgrammingVoltage, [(.param1, .int (.arg 0)), (.param2, .int (.arg 1)),
      (.param2, .int (.arg 2))], "PassThruSetProgrammingVoltage"⟩
  | .passThruReadVersion =>
    ⟨.passThruReadVersion, [(.param1, .int (.arg 0)), (.param2, .str (.arg 1)),
      (.param3, .str (.arg 2)), (.param4, .str (.arg 3)), (.rxTx, .int (.const 0))],
      "PassThruReadVersion"⟩
  | .passThruIoctl =>
    ⟨.passThruIoctl, [(.param1, .int (.arg 0)), (.param2, .int (.arg 1)),
      (.param3, .int (.const 0)), (.param4, .int (.const 0))], "PassThruIoctl"⟩
  | .passThruExEraseFlash =>
    ⟨.passThruExDownloadCypheredFlashData, [], "PassThruExDownloadCypheredFlashData"⟩
  | .passThruReadIPSetup =>
    ⟨.passThruReadIPSetup, [(.param1, .int (.arg 0)), (.param2, .str (.arg 1)),
      (.param3, .str (.arg 2)), (.param4, .str (.arg 3)), (.param5, .str (.arg 4)),
      (.param6, .str (.arg 5)), (.rxTx, .int (.const 0))], "PassThruReadIPSetup"⟩
  | .passThruWriteIPSetup =>
    ⟨.passThruWriteIPSetup, [(.param1, .int (.arg 0)), (.param2, .str (.arg 1)),
      (.param3, .str (.arg 2)), (.param4, .str (.arg 3)), (.param5, .str (.arg 4)),
      (.param6, .str (.arg 5))], "PassThruWriteIPSetup"⟩
  | .passThruReadPCSetup =>
    ⟨.passThruReadPCSetup, [(.param1, .str (.arg 0)), (.param2, .str (.arg 1)),
      (.rxTx, .int (.const 0))], "PassThruReadPCSetup"⟩
  | .passThruGetPointer => ⟨.passThruGetPointer, [(.param1, .int (.arg 0))], "PassThruGetPointer"⟩
  | .passThruReadDetails => ⟨.passThruSelect, [(.param1, .int (.deref 0))], "PassThruSelect"⟩
  -- the functions of `void`
  | f => ⟨f, [], f.name⟩

/-- The record; `none` when a NULL pointer is dereferenced for it, or a byte behind a `Data`. -/
def fixedRecord (f : FuncName) (retval : J2534Err) (args : List UInt32) (mem : Memory) :
    Option (List (Cbor × Cbor)) :=
  if ∀ r ∈ putReads ⟨args, mem, 0⟩ (fixedLog f).puts, r.offset < 4128 then
    (J2534Oip.putAll ⟨args, mem, 0⟩ (fixedLog f).puts (root (fixedLog f).funcName)).map fun root =>
      if retval = .statusNoError then putRetval retval root
      else mapPutString root (key .error) (utf8 ("Function " ++ f.name ++ " not implemented"))
  else none

/-! ## Which record a call sends -/

/-- `call` can come back from `s` with `retval`, leave `s'` and send `log`. -/
inductive CallState.Logs (s : CallState) : ApiCall → Retval → CallState → CallLog → Prop
  | passThruOpen (pName : Option (List UInt8)) (pDeviceID : Option UInt32)
      (env : OpenEnv s.world.os) :
      Logs s (.passThruOpen pName pDeviceID)
        (.code (s.world.passThruOpen pName pDeviceID env).2.retval)
        { s with world := (s.world.passThruOpen pName pDeviceID env).1 }
        ⟨"PassThruOpen", s.world.openRecord pName pDeviceID env, []⟩
  | passThruClose (deviceID : UInt32) :
      Logs s (.passThruClose deviceID) (.code (s.world.passThruClose deviceID).2)
        { s with world := (s.world.passThruClose deviceID).1 }
        ⟨"PassThruClose", s.world.closeRecord deviceID, []⟩
  | passThruConnect (deviceID protocolID flags baudrate : UInt32) :
      Logs s (.passThruConnect deviceID)
        (.code (s.world.client.passThruConnect deviceID).2.1)
        (s.setClient (s.world.client.passThruConnect deviceID).1)
        ⟨"PassThruConnect", s.world.client.connectRecord deviceID protocolID flags baudrate, []⟩
  /-- `pMsg` is not NULL where messages are delivered -/
  | passThruReadMsgs (channelID requested timeout : UInt32) (elapsed : Nat → Nat)
      (arrivals : Nat → List PassthruMsg) :
      Logs s (.passThruReadMsgs channelID requested.toNat timeout)
        (.code (s.world.client.passThruReadMsgs channelID requested.toNat timeout elapsed
          arrivals).2.retval)
        (s.setClient (s.world.client.passThruReadMsgs channelID requested.toNat timeout elapsed
          arrivals).1)
        ⟨"PassThruReadMsgs", s.world.client.readRecord channelID requested timeout
          (s.world.client.passThruReadMsgs channelID requested.toNat timeout elapsed
            arrivals).2.delivered, []⟩
  /-- the batch is counted by `*pNumMsgs` -/
  | passThruWriteMsgs (channelID timeout : UInt32) (pMsg : List PassthruMsg) (sendto : Nat → Int)
      (wsaGetLastError : Int) (hcount : pMsg.length < 2 ^ 32) (record : List (Cbor × Cbor))
      (hrecord : s.world.client.writeRecord channelID pMsg timeout sendto wsaGetLastError =
        some record) :
      Logs s (.passThruWriteMsgs channelID pMsg)
        (.code (s.world.client.passThruWriteMsgs channelID pMsg sendto wsaGetLastError).2.retval)
        (s.setClient (s.world.client.passThruWriteMsgs channelID pMsg sendto wsaGetLastError).1)
        ⟨"PassThruWriteMsgs", record,
          (s.world.client.passThruWriteMsgs channelID pMsg sendto wsaGetLastError).2.sends⟩
  | passThruGetLastError (pErrorDescription : Bool) :
      Logs s (.passThruGetLastError pErrorDescription)
        (.code (s.world.client.passThruGetLastError pErrorDescription).2.1)
        (s.setClient (s.world.client.passThruGetLastError pErrorDescription).1)
        ⟨"PassThruGetLastError", s.world.client.getLastErrorRecord pErrorDescription, []⟩
  | passThruSelect (channelSetPtr : UInt32) (set : Option ChannelSet) (selectType timeout : UInt32)
      (passes : List SelectPass) (retval : Retval)
      (hret : (s.world.client.passThruSelect set timeout passes).2 = some retval) :
      Logs s (.passThruSelect set timeout passes) retval
        (s.setClient (s.world.client.passThruSelect set timeout passes).1)
        ⟨"PassThruSelect",
          s.world.client.selectRecord channelSetPtr set selectType timeout passes retval, []⟩
  | passThruScanForDevices (pDeviceCount : Option UInt32) :
      Logs s (.passThruScanForDevices pDeviceCount.isSome)
        (.code (s.passThruScanForDevices pDeviceCount.isSome).2.1)
        (s.passThruScanForDevices pDeviceCount.isSome).1
        ⟨"PassThruScanForDevices", s.scanRecord pDeviceCount, []⟩
  | passThruGetNextDevice (psDevice : Bool) :
      Logs s (.passThruGetNextDevice psDevice) (.code (s.passThruGetNextDevice psDevice).2.1)
        (s.passThruGetNextDevice psDevice).1 ⟨"PassThruGetNextDevice", s.nextRecord psDevice, []⟩
  | passThruGetNextCarDAQ (version : Option UInt32) (pointers allocName allocAddr : Bool) :
      Logs s (.passThruGetNextCarDAQ pointers allocName allocAddr)
        (.code (s.passThruGetNextCarDAQ pointers allocName allocAddr).2.1)
        (s.passThruGetNextCarDAQ pointers allocName allocAddr).1
        ⟨"PassThruGetNextCarDAQ", s.carDaqRecord version pointers allocName allocAddr, []⟩
  | fixed (f : FuncName) (retval : J2534Err) (hf : fixedRetval f = some retval)
      (args : List UInt32) (mem : Memory) (record : List (Cbor × Cbor))
      (hrecord : fixedRecord f retval args mem = some record) :
      Logs s (.fixed f) (.code retval) s ⟨(fixedLog f).text, record, []⟩

/-- A call that is logged is a call that comes back. -/
theorem CallState.Logs.returns {s : CallState} {call : ApiCall} {retval : Retval} {s' : CallState}
    {log : CallLog} (h : s.Logs call retval s' log) : s.Returns call retval s' := by
  cases h with
  | passThruOpen pName pDeviceID env => exact .passThruOpen pName pDeviceID env
  | passThruClose deviceID => exact .passThruClose deviceID
  | passThruConnect deviceID => exact .passThruConnect deviceID
  | passThruReadMsgs channelID requested timeout elapsed arrivals =>
    exact .passThruReadMsgs channelID requested.toNat timeout elapsed arrivals
  | passThruWriteMsgs channelID timeout pMsg sendto wsa =>
    exact .passThruWriteMsgs channelID pMsg sendto wsa
  | passThruGetLastError pErrorDescription => exact .passThruGetLastError pErrorDescription
  | passThruSelect channelSetPtr set selectType timeout passes _ hret =>
    exact .passThruSelect set timeout passes retval hret
  | passThruScanForDevices pDeviceCount => exact .passThruScanForDevices pDeviceCount.isSome
  | passThruGetNextDevice psDevice => exact .passThruGetNextDevice psDevice
  | passThruGetNextCarDAQ version pointers allocName allocAddr =>
    exact .passThruGetNextCarDAQ pointers allocName allocAddr
  | fixed f retval hf => exact .fixed f retval hf

/-! ## What a record tells -/

/-- The function a call's record names. -/
def ApiCall.logName : ApiCall → FuncName
  | .passThruOpen _ _ => .passThruOpen
  | .passThruClose _ => .passThruClose
  | .passThruConnect _ => .passThruConnect
  | .passThruReadMsgs _ _ _ => .passThruReadMsgs
  | .passThruWriteMsgs _ _ => .passThruWriteMsgs
  | .passThruGetLastError _ => .passThruGetLastError
  | .passThruSelect _ _ _ => .passThruSelect
  | .passThruScanForDevices _ => .passThruScanForDevices
  | .passThruGetNextDevice _ => .passThruGetNextDevice
  | .passThruGetNextCarDAQ _ _ _ => .passThruGetNextCarDAQ
  | .fixed f => (fixedLog f).funcName

/-- The keys of the texts whose memory is gone by the time the record is encoded, those of
temporaries; `PassThruGetLastError` puts `lastError` itself, and without a buffer to fill sets it
anew behind its first put. -/
def ApiCall.temporary : ApiCall → List Key
  | .passThruGetLastError true => []
  | .passThruGetLastError false => [.param1, .error]
  | .fixed .passThruReadVersion => [.param2, .param3, .param4]
  | _ => [.error]

/-- The record as it is encoded. -/
def CallLog.sent (log : CallLog) (call : ApiCall) (dead : Nat → Nat → UInt8) : List (Cbor × Cbor) :=
  encoded call.temporary dead log.record

/-- The record names the function, and tells the return code or that the call failed; an error
text that is no temporary is the `lastError` that the call leaves. -/
structure TellsCall (call : ApiCall) (retval : Retval) (client' : J2534CannelloniClient)
    (tree : List (Cbor × Cbor)) : Prop where
  func : value (intKey 0) tree = .int (func call.logName)
  code : contains (intKey 9) tree = true → value (intKey 9) tree = .int retval.num.toNat
  failed : contains (intKey 9) tree = false →
    (contains (intKey 10) tree = true ↔ retval ≠ .code .statusNoError)
  error : call = .passThruGetLastError true →
    value (intKey 10) tree = .text (cString client'.lastError)

/-- A record before its code or error text. -/
structure Headed (f : FuncName) (map : List (Cbor × Cbor)) : Prop where
  has : contains (intKey 0) map = true
  func : value (intKey 0) map = .int (ExPipeClient.func f)
  code : contains (intKey 9) map = false
  error : contains (intKey 10) map = false

theorem contains_append (key : Cbor → Bool) (a b : List (Cbor × Cbor)) :
    contains key (a ++ b) = (contains key a || contains key b) := by
  simp [contains]

theorem value_append (key : Cbor → Bool) (a b : List (Cbor × Cbor)) :
    value key (a ++ b) = if contains key a then value key a else value key b := by
  induction a with
  | nil => rfl
  | cons entry a ih =>
    obtain ⟨k, v⟩ := entry
    have hcons : contains key ((k, v) :: a) = (key k || contains key a) := rfl
    rw [List.cons_append, value, value, ih, hcons]
    cases key k <;> rfl

theorem value_append_of_not {key : Cbor → Bool} {a b : List (Cbor × Cbor)}
    (h : contains key a = false) : value key (a ++ b) = value key b := by
  rw [value_append, h, if_neg Bool.false_ne_true]

theorem value_append_of {key : Cbor → Bool} {a b : List (Cbor × Cbor)}
    (h : contains key a = true) : value key (a ++ b) = value key a := by
  rw [value_append, if_pos h]

section
variable (call : ApiCall) {retval : Retval} {client' : J2534CannelloniClient}
  {map : List (Cbor × Cbor)}

/-- A record that ends in an error text. -/
theorem tells_putError (h : Headed call.logName map) (hfail : retval ≠ .code .statusNoError)
    (hcall : call ≠ .passThruGetLastError true) :
    TellsCall call retval client' (putLastError client' call.logName map) where
  func := (value_append_of h.has).trans h.func
  code := by
    intro hcode
    rw [putLastError, mapPutString, contains_append, h.code] at hcode
    cases hcode
  failed := by
    intro _
    refine iff_of_true ?_ hfail
    rw [putLastError, mapPutString, contains_append, h.error]
    rfl
  error h := absurd h hcall

/-- A record that ends in the return code. -/
theorem tells_retval (h : Headed call.logName map) (hcall : call ≠ .passThruGetLastError true) :
    TellsCall call retval client' (mapPutInt map (key .retvalLong) retval.num) where
  func := (value_append_of h.has).trans h.func
  code _ := value_append_of_not h.code
  failed := by
    intro hcode
    rw [mapPutInt, contains_append, h.code] at hcode
    cases hcode
  error h := absurd h hcall

/-- A record of a call that succeeds, without its code. -/
theorem tells_headed (h : Headed call.logName map) (hcall : call ≠ .passThruGetLastError true) :
    TellsCall call (.code .statusNoError) client' map where
  func := h.func
  code := by
    intro hcode
    rw [h.code] at hcode
    cases hcode
  failed := by
    intro _
    rw [h.error]
    exact iff_of_false Bool.false_ne_true fun hne => hne rfl
  error h := absurd h hcall

end

/-! ## Every record tells -/

section
variable (s : CallState)

theorem tells_open (pName : Option (List UInt8)) (pDeviceID : Option UInt32)
    (env : OpenEnv s.world.os) :
    TellsCall (.passThruOpen pName pDeviceID)
      (.code (s.world.passThruOpen pName pDeviceID env).2.retval)
      (s.world.passThruOpen pName pDeviceID env).1.client
      (s.world.openRecord pName pDeviceID env) := by
  have hfail : ∀ map, Headed .passThruOpen map →
      (s.world.passThruOpen pName pDeviceID env).2.retval ≠ .statusNoError →
      TellsCall (.passThruOpen pName pDeviceID)
        (.code (s.world.passThruOpen pName pDeviceID env).2.retval)
        (s.world.passThruOpen pName pDeviceID env).1.client
        (putLastError (s.world.passThruOpen pName pDeviceID env).1.client .passThruOpen map) :=
    fun map hmap hne => tells_putError (.passThruOpen pName pDeviceID) hmap
      (fun h => hne (Retval.code.inj h)) (by simp)
  have hsome : ¬env.socket.isNone = true → ∃ sock, env.socket = some sock :=
    fun h => Option.ne_none_iff_exists'.1 fun hnone => h (by rw [hnone]; rfl)
  unfold World.openRecord
  simp only
  split_ifs with hnull hfull hport hsocket haddr hconnect
  · exact hfail _ ⟨rfl, rfl, rfl, rfl⟩ (by simp [World.passThruOpen, hnull, World.openFail])
  · exact hfail _ ⟨rfl, rfl, rfl, rfl⟩ (by simp [World.passThruOpen, hnull, hfull, World.openFail])
  · exact hfail _ ⟨rfl, rfl, rfl, rfl⟩
      (by simp [World.passThruOpen, hnull, hfull, hport, World.openFail])
  · have hnone : env.socket = none := Option.isNone_iff_eq_none.1 hsocket
    exact hfail _ ⟨rfl, rfl, rfl, rfl⟩
      (by simp [World.passThruOpen, hnull, hfull, hport, hnone, World.openFail])
  · obtain ⟨sock, hsock⟩ := hsome hsocket
    exact hfail _ ⟨rfl, rfl, rfl, rfl⟩
      (by simp [World.passThruOpen, hnull, hfull, hport, hsock, haddr, World.openFail])
  · obtain ⟨sock, hsock⟩ := hsome hsocket
    exact hfail _ ⟨rfl, rfl, rfl, rfl⟩
      (by simp [World.passThruOpen, hnull, hfull, hport, hsock, haddr, hconnect, World.openFail])
  · obtain ⟨sock, hsock⟩ := hsome hsocket
    have hretval : (s.world.passThruOpen pName pDeviceID env).2.retval = .statusNoError := by
      simp [World.passThruOpen, hnull, hfull, hport, hsock, haddr, hconnect]
    rw [hretval]
    exact tells_retval (.passThruOpen pName pDeviceID) ⟨rfl, rfl, rfl, rfl⟩ (by simp)

theorem tells_close (deviceID : UInt32) :
    TellsCall (.passThruClose deviceID) (.code (s.world.passThruClose deviceID).2)
      (s.world.passThruClose deviceID).1.client (s.world.closeRecord deviceID) := by
  unfold World.closeRecord
  cases hctx : s.world.client.channelMap.lookup deviceID with
  | none =>
    have hretval : (s.world.passThruClose deviceID).2 = .errInvalidDeviceId := by
      simp [World.passThruClose, hctx]
    rw [hretval]
    exact tells_putError (.passThruClose deviceID) ⟨rfl, rfl, rfl, rfl⟩ (by decide) (by simp)
  | some ctx =>
    have hretval : (s.world.passThruClose deviceID).2 = .statusNoError := by
      simp [World.passThruClose, hctx]
    rw [hretval]
    exact tells_retval (.passThruClose deviceID) ⟨rfl, rfl, rfl, rfl⟩ (by simp)

theorem tells_connect (deviceID protocolID flags baudrate : UInt32) :
    TellsCall (.passThruConnect deviceID) (.code (s.world.client.passThruConnect deviceID).2.1)
      (s.world.client.passThruConnect deviceID).1
      (s.world.client.connectRecord deviceID protocolID flags baudrate) := by
  unfold J2534CannelloniClient.connectRecord
  cases hctx : s.world.client.channelMap.lookup deviceID with
  | none =>
    have hretval : (s.world.client.passThruConnect deviceID).2.1 = .errInvalidDeviceId := by
      simp [J2534CannelloniClient.passThruConnect, hctx]
    rw [hretval]
    exact tells_putError (.passThruConnect deviceID) ⟨rfl, rfl, rfl, rfl⟩ (by decide) (by simp)
  | some ctx =>
    have hretval : (s.world.client.passThruConnect deviceID).2.1 = .statusNoError := by
      simp [J2534CannelloniClient.passThruConnect, hctx]
    rw [hretval]
    exact tells_retval (.passThruConnect deviceID) ⟨rfl, rfl, rfl, rfl⟩ (by simp)

/-- A read on an open channel returns what it puts. -/
theorem tells_read (channelID requested timeout : UInt32) (elapsed : Nat → Nat)
    (arrivals : Nat → List PassthruMsg) :
    let r := s.world.client.passThruReadMsgs channelID requested.toNat timeout elapsed arrivals
    TellsCall (.passThruReadMsgs channelID requested.toNat timeout) (.code r.2.retval) r.1
      (s.world.client.readRecord channelID requested timeout r.2.delivered) := by
  intro r
  unfold J2534CannelloniClient.readRecord
  cases hctx : s.world.client.channelMap.lookup channelID with
  | none =>
    have hr : r = (s.world.client.fail (utf8 "Invalid ChannelID") .errInvalidChannelId,
        { retval := .errInvalidChannelId, delivered := [], numMsgs := requested.toNat }) := by
      simp only [r, J2534CannelloniClient.passThruReadMsgs, hctx]
    rw [hr]
    show TellsCall _ (.code .errInvalidChannelId) _ _
    exact tells_putError (.passThruReadMsgs channelID requested.toNat timeout)
      ⟨rfl, rfl, rfl, rfl⟩ (by decide) (by simp)
  | some ctx =>
    have hretval : r.2.retval = .statusNoError := by
      simp only [r, J2534CannelloniClient.passThruReadMsgs, hctx, readStatus]
      split <;> simp_all
    rw [hretval]
    exact tells_retval (.passThruReadMsgs channelID requested.toNat timeout)
      ⟨rfl, rfl, rfl, rfl⟩ (by simp)

/-- A write that is logged has sent its whole batch, or failed. -/
theorem tells_write (channelID timeout : UInt32) (pMsg : List PassthruMsg) (sendto : Nat → Int)
    (wsaGetLastError : Int) (record : List (Cbor × Cbor))
    (h : s.world.client.writeRecord channelID pMsg timeout sendto wsaGetLastError = some record) :
    let r := s.world.client.passThruWriteMsgs channelID pMsg sendto wsaGetLastError
    TellsCall (.passThruWriteMsgs channelID pMsg) (.code r.2.retval) r.1 record := by
  intro r
  unfold J2534CannelloniClient.writeRecord at h
  cases hctx : s.world.client.channelMap.lookup channelID with
  | none =>
    have hretval : r.2.retval = .errInvalidChannelId := by
      simp only [r, J2534CannelloniClient.passThruWriteMsgs, hctx]
    simp only [hctx] at h
    obtain rfl := Option.some.inj h
    rw [hretval]
    exact tells_putError (.passThruWriteMsgs channelID pMsg) ⟨rfl, rfl, rfl, rfl⟩
      (by decide) (by simp)
  | some ctx =>
    simp only [hctx] at h
    cases hexit : (writeLoop s.world.client.cannelloniVersion sendto pMsg (.start ctx.seqNo)).2 with
    | sendFailed =>
      have hretval : r.2.retval = .errFailed := by
        simp only [r, J2534CannelloniClient.passThruWriteMsgs, hctx, hexit]
      simp only [hexit] at h
      obtain rfl := Option.some.inj h
      rw [hretval]
      exact tells_putError (.passThruWriteMsgs channelID pMsg) ⟨rfl, rfl, rfl, rfl⟩
        (by decide) (by simp)
    | invalidMsg => simp [hexit] at h
    | allSent =>
      have hretval : r.2.retval = .statusNoError := by
        simp [r, J2534CannelloniClient.passThruWriteMsgs, hctx, hexit]
      simp only [hexit] at h
      obtain rfl := Option.some.inj h
      rw [hretval]
      exact tells_headed (.passThruWriteMsgs channelID pMsg) ⟨rfl, rfl, rfl, rfl⟩ (by simp)

theorem tells_getLastError (pErrorDescription : Bool) :
    let r := s.world.client.passThruGetLastError pErrorDescription
    TellsCall (.passThruGetLastError pErrorDescription) (.code r.2.1) r.1
      (s.world.client.getLastErrorRecord pErrorDescription) := by
  intro r
  cases pErrorDescription with
  | false =>
    show TellsCall _ (.code .errNullParameter) _ _
    exact tells_putError (.passThruGetLastError false) ⟨rfl, rfl, rfl, rfl⟩ (by decide) (by simp)
  | true =>
    have hkeep : r.1 = s.world.client := rfl
    rw [hkeep]
    exact ⟨rfl, fun _ => rfl, nofun, fun _ => rfl⟩

theorem tells_select (channelSetPtr : UInt32) (set : Option ChannelSet)
    (selectType timeout : UInt32) (passes : List SelectPass) (retval : Retval)
    (hret : (s.world.client.passThruSelect set timeout passes).2 = some retval) :
    TellsCall (.passThruSelect set timeout passes) retval
      (s.world.client.passThruSelect set timeout passes).1
      (s.world.client.selectRecord channelSetPtr set selectType timeout passes retval) := by
  unfold J2534CannelloniClient.selectRecord
  cases set with
  | none =>
    obtain rfl := Option.some.inj hret
    exact tells_putError (.passThruSelect none timeout passes) ⟨rfl, rfl, rfl, rfl⟩
      (by decide) (by simp)
  | some set =>
    obtain ⟨threshold, list⟩ := set
    rcases list with _ | _ | ⟨id, ids⟩
    · obtain rfl := Option.some.inj hret
      exact tells_putError (.passThruSelect (some ⟨threshold, none⟩) timeout passes)
        ⟨rfl, rfl, rfl, rfl⟩ (by decide) (by simp)
    · obtain rfl := Option.some.inj hret
      exact tells_putError (.passThruSelect (some ⟨threshold, some []⟩) timeout passes)
        ⟨rfl, rfl, rfl, rfl⟩ (by decide) (by simp)
    · exact tells_retval (.passThruSelect _ timeout passes) ⟨rfl, rfl, rfl, rfl⟩ (by simp)

theorem tells_scan (pDeviceCount : Option UInt32) :
    let r := s.passThruScanForDevices pDeviceCount.isSome
    TellsCall (.passThruScanForDevices pDeviceCount.isSome) (.code r.2.1) r.1.world.client
      (s.scanRecord pDeviceCount) := by
  cases pDeviceCount with
  | none =>
    show TellsCall _ (.code .errNullParameter) _ _
    exact tells_putError (.passThruScanForDevices false) ⟨rfl, rfl, rfl, rfl⟩
      (by decide) (by simp)
  | some count =>
    exact tells_retval (.passThruScanForDevices true) ⟨rfl, rfl, rfl, rfl⟩ (by simp)

theorem tells_next (psDevice : Bool) :
    let r := s.passThruGetNextDevice psDevice
    TellsCall (.passThruGetNextDevice psDevice) (.code r.2.1) r.1.world.client
      (s.nextRecord psDevice) := by
  intro r
  unfold CallState.nextRecord
  simp only
  split_ifs with hnull hend
  · have hretval : r.2.1 = .errNullParameter := by
      simp [r, CallState.passThruGetNextDevice, hnull]
    rw [hretval]
    exact tells_putError (.passThruGetNextDevice psDevice) ⟨rfl, rfl, rfl, rfl⟩
      (by decide) (by simp)
  · have hretval : r.2.1 = .errNoMoreDevices := by
      simp [r, CallState.passThruGetNextDevice, hnull, hend]
    rw [hretval]
    exact tells_retval (.passThruGetNextDevice psDevice) ⟨rfl, rfl, rfl, rfl⟩ (by simp)
  · have hretval : r.2.1 = .statusNoError := by
      simp [r, CallState.passThruGetNextDevice, hnull, hend]
    rw [hretval]
    exact tells_retval (.passThruGetNextDevice psDevice) ⟨rfl, rfl, rfl, rfl⟩ (by simp)

theorem tells_carDaq (version : Option UInt32) (pointers allocName allocAddr : Bool) :
    let r := s.passThruGetNextCarDAQ pointers allocName allocAddr
    TellsCall (.passThruGetNextCarDAQ pointers allocName allocAddr) (.code r.2.1) r.1.world.client
      (s.carDaqRecord version pointers allocName allocAddr) := by
  intro r
  have hfail : ∀ map, Headed .passThruGetNextCarDAQ map → r.2.1 = .errNullParameter →
      TellsCall (.passThruGetNextCarDAQ pointers allocName allocAddr) (.code r.2.1)
        r.1.world.client (putLastError r.1.world.client .passThruGetNextCarDAQ map) := by
    intro map hmap hretval
    rw [hretval]
    exact tells_putError (.passThruGetNextCarDAQ pointers allocName allocAddr) hmap
      (by decide) (by simp)
  have hcode : ∀ map c, Headed .passThruGetNextCarDAQ map → r.2.1 = c →
      TellsCall (.passThruGetNextCarDAQ pointers allocName allocAddr) (.code r.2.1)
        r.1.world.client (putRetval c map) := by
    rintro map _ hmap rfl
    exact tells_retval (.passThruGetNextCarDAQ pointers allocName allocAddr) hmap (by simp)
  unfold CallState.carDaqRecord
  simp only
  split_ifs with hnull hend hname haddr
  · exact hfail _ ⟨rfl, rfl, rfl, rfl⟩ (by simp [r, CallState.passThruGetNextCarDAQ, hnull])
  · exact hcode _ _ ⟨rfl, rfl, rfl, rfl⟩ (by simp [r, CallState.passThruGetNextCarDAQ, hnull, hend])
  · exact hfail _ ⟨rfl, rfl, rfl, rfl⟩
      (by simp [r, CallState.passThruGetNextCarDAQ, hnull, hend, hname])
  · exact hfail _ ⟨rfl, rfl, rfl, rfl⟩
      (by simp [r, CallState.passThruGetNextCarDAQ, hnull, hend, hname, haddr])
  · exact hcode _ _ ⟨rfl, rfl, rfl, rfl⟩
      (by simp [r, CallState.passThruGetNextCarDAQ, hnull, hend, hname, haddr])

theorem fixedLog_keys (f : FuncName) : ∀ k ∈ (fixedLog f).puts.map Prod.fst,
    k ≠ .funcName ∧ k ≠ .retvalLong ∧ k ≠ .error := by
  cases f <;> decide

/-- What an entry point put before its code or error. -/
theorem headed_fixed (f : FuncName) (args : List UInt32) (mem : Memory)
    (map : List (Cbor × Cbor))
    (h : J2534Oip.putAll ⟨args, mem, 0⟩ (fixedLog f).puts (root (fixedLog f).funcName) = some map) :
    Headed (fixedLog f).funcName map := by
  obtain ⟨entries, rfl, hkeys, -⟩ := record_split _ _ _ _ h
  have hclear : ∀ k : Key, k = .retvalLong ∨ k = .error →
      contains (intKey (key k)) entries = false := by
    intro k hk
    refine List.any_eq_false.2 fun e he hkey => ?_
    have hmem : e.1 ∈ entries.map Prod.fst := List.mem_map_of_mem he
    rw [hkeys] at hmem
    obtain ⟨put, hput, hput'⟩ := List.mem_map.1 hmem
    rw [← hput'] at hkey
    have hkey : key put.1 = key k := Int.ofNat.inj (by simpa [intKey] using hkey)
    have hne := fixedLog_keys f put.1 (List.mem_map_of_mem hput)
    rw [J2534DllWrapper.key_injective hkey] at hne
    rcases hk with rfl | rfl
    · exact hne.2.1 rfl
    · exact hne.2.2 rfl
  have hfunc : (UInt32.ofNat (func (fixedLog f).funcName)).toNat = func (fixedLog f).funcName :=
    UInt32.toNat_ofNat_of_lt (J2534DllWrapper.func_lt _)
  refine ⟨rfl, ?_, ?_, ?_⟩
  · show Cbor.int (UInt32.ofNat (func (fixedLog f).funcName)).toNat = _
    rw [hfunc]
  · exact hclear .retvalLong (Or.inl rfl)
  · exact hclear .error (Or.inr rfl)

theorem tells_fixed (f : FuncName) (retval : J2534Err) (args : List UInt32)
    (mem : Memory) (record : List (Cbor × Cbor)) (h : fixedRecord f retval args mem = some record) :
    TellsCall (.fixed f) (.code retval) s.world.client record := by
  rw [fixedRecord, Option.ite_none_right_eq_some] at h
  obtain ⟨map, hmap, rfl⟩ := Option.map_eq_some_iff.1 h.2
  have hheaded := headed_fixed f args mem map hmap
  by_cases hretval : retval = .statusNoError
  · rw [if_pos hretval]
    exact tells_retval (.fixed f) hheaded (by simp)
  · rw [if_neg hretval]
    refine ⟨(value_append_of hheaded.has).trans hheaded.func, ?_, ?_, fun h => by cases h⟩
    · intro hcode
      rw [mapPutString, contains_append, hheaded.code] at hcode
      cases hcode
    · intro _
      refine iff_of_true ?_ fun h => hretval (Retval.code.inj h)
      rw [mapPutString, contains_append, hheaded.error]
      rfl

/-- Every record tells its call. -/
theorem tells_logs {call : ApiCall} {retval : Retval} {s' : CallState} {log : CallLog}
    (h : s.Logs call retval s' log) : TellsCall call retval s'.world.client log.record := by
  cases h with
  | passThruOpen pName pDeviceID env => exact tells_open s pName pDeviceID env
  | passThruClose deviceID => exact tells_close s deviceID
  | passThruConnect deviceID protocolID flags baudrate =>
    exact tells_connect s deviceID protocolID flags baudrate
  | passThruReadMsgs channelID requested timeout elapsed arrivals =>
    exact tells_read s channelID requested timeout elapsed arrivals
  | passThruWriteMsgs channelID timeout pMsg sendto wsa _ record hrecord =>
    exact tells_write s channelID timeout pMsg sendto wsa record hrecord
  | passThruGetLastError pErrorDescription => exact tells_getLastError s pErrorDescription
  | passThruSelect channelSetPtr set selectType timeout passes _ hret =>
    exact tells_select s channelSetPtr set selectType timeout passes retval hret
  | passThruScanForDevices pDeviceCount => exact tells_scan s pDeviceCount
  | passThruGetNextDevice psDevice => exact tells_next s psDevice
  | passThruGetNextCarDAQ version pointers allocName allocAddr =>
    exact tells_carDaq s version pointers allocName allocAddr
  | fixed f retval _ args mem record hrecord =>
    exact tells_fixed s f retval args mem record hrecord

theorem not_mem_temporary (call : ApiCall) :
    .funcName ∉ call.temporary ∧ .retvalLong ∉ call.temporary := by
  unfold ApiCall.temporary
  split <;> decide

/-- **And so does what is encoded of it**, whatever has become of its temporaries. -/
theorem tells_sent {call : ApiCall} {retval : Retval} {s' : CallState} {log : CallLog}
    (h : s.Logs call retval s' log) (dead : Nat → Nat → UInt8) :
    TellsCall call retval s'.world.client (log.sent call dead) := by
  have htells := tells_logs s h
  obtain ⟨hfunc, hretval⟩ := not_mem_temporary call
  have hcode := value_encoded call.temporary dead .retvalLong hretval log.record
  constructor
  · exact (value_encoded call.temporary dead .funcName hfunc log.record).trans htells.func
  · intro hc
    rw [CallLog.sent, contains_encoded] at hc
    exact hcode.trans (htells.code hc)
  · intro hc
    rw [CallLog.sent, contains_encoded] at hc ⊢
    exact htells.failed hc
  · rintro rfl
    exact (value_encoded [] dead .error List.not_mem_nil log.record).trans (htells.error rfl)

end

end J2534Oip
