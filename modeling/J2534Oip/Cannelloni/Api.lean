import J2534Oip.Cannelloni.Session
import J2534Oip.Cannelloni.Write
import J2534Oip.Pipe.Types

/-!
# The calls of a client

`PassThruOpen`, `PassThruClose` and `PassThruWriteMsgs` are in modules of their own; here
are the other entry points as whole calls, and runs of calls of all of them, one after the
other, with receive threads at work in between.  A call that dereferences a NULL pointer
does not come back and is no step.
-/

namespace J2534Oip

namespace J2534CannelloniClient

/-! ## Arrivals -/

/-- A receive thread appends to a channel that is open. -/
def enqueue (client : J2534CannelloniClient) (port : UInt32) (msgs : List PassthruMsg) :
    J2534CannelloniClient :=
  match client.channelMap.lookup port with
  | none => client
  | some ctx => client.setChannel port { ctx with msgQueue := ctx.msgQueue ++ msgs }

def enqueueAll (client : J2534CannelloniClient) (arrivals : List (UInt32 × List PassthruMsg)) :
    J2534CannelloniClient :=
  arrivals.foldl (fun client a => client.enqueue a.1 a.2) client

/-! ## The constructor -/

/-- `J2534CannelloniClient()`, with the defaults as `getDefaults` left them and what
`WSAStartup` returns. -/
def construct (defaultHost : List UInt8) (defaultPort : UInt32) (cannelloniVersion : UInt8)
    (wsaStartup : Int) : J2534CannelloniClient :=
  let client : J2534CannelloniClient :=
    { defaultHost := defaultHost, defaultPort := defaultPort,
      cannelloniVersion := cannelloniVersion, channelMap := ∅, lastError := utf8 "No error",
      lastErrorLong := .statusNoError }
  if wsaStartup ≠ 0 then client.fail (utf8 "WSAStartup failed") .errDeviceNotConnected else client

/-! ## Connecting and reading -/

/-- `PassThruConnect`: the code, and `*pChannelID` where it is written. -/
def passThruConnect (client : J2534CannelloniClient) (deviceID : UInt32) :
    J2534CannelloniClient × J2534Err × Option UInt32 :=
  match client.channelMap.lookup deviceID with
  | none =>
    (client.fail (utf8 "Invalid DeviceID") .errInvalidDeviceId, .errInvalidDeviceId, none)
  | some _ => ({ client with lastErrorLong := .statusNoError }, .statusNoError, some deviceID)

/-- The loop of `PassThruReadMsgs`, at most `n` more passes: pass `k` finds the clock at
`elapsed k` and, at the end of the queue, what arrived by then. -/
def readLoop (requested : Nat) (timeout : UInt32) (elapsed : Nat → Nat)
    (arrivals : Nat → List PassthruMsg) :
    Nat → List PassthruMsg → List PassthruMsg → List PassthruMsg × List PassthruMsg
  | 0, got, queue => (got, queue)
  | n + 1, got, queue =>
    let queue := queue ++ arrivals got.length
    match readPass requested timeout (elapsed got.length) got.length queue with
    | none => (got, queue)
    | some (msg, queue) => readLoop requested timeout elapsed arrivals n (got ++ [msg]) queue

/-- What a read gives back: its status, what it copied to `pMsg`, and `*pNumMsgs`. -/
structure ReadResult where
  retval : J2534Err
  delivered : List PassthruMsg
  numMsgs : Nat

/-- `PassThruReadMsgs`; no pass comes after the one that fills the request. -/
def passThruReadMsgs (client : J2534CannelloniClient) (channelID : UInt32) (requested : Nat)
    (timeout : UInt32) (elapsed : Nat → Nat) (arrivals : Nat → List PassthruMsg) :
    J2534CannelloniClient × ReadResult :=
  match client.channelMap.lookup channelID with
  | none =>
    (client.fail (utf8 "Invalid ChannelID") .errInvalidChannelId,
      { retval := .errInvalidChannelId, delivered := [], numMsgs := requested })
  | some ctx =>
    let r := readLoop requested timeout elapsed arrivals requested [] ctx.msgQueue
    let client := client.setChannel channelID { ctx with msgQueue := r.2 }
    ({ client with lastErrorLong := readStatus r.1.length },
      { retval := readStatus r.1.length, delivered := r.1, numMsgs := r.1.length })

/-! ## The last error -/

/-- `PassThruGetLastError`: the code, and the text copied to `pErrorDescription` unless that
is NULL. -/
def passThruGetLastError (client : J2534CannelloniClient) (pErrorDescription : Bool) :
    J2534CannelloniClient × J2534Err × Option (List UInt8) :=
  if pErrorDescription then
    let retval := if client.lastErrorLong = .statusNoError then .statusNoError
      else client.lastErrorLong
    (client, retval, some ((cString client.lastError).take 79))
  else
    ({ client with lastError := utf8 "pErrorDescription is null" }, .errNullParameter, none)

/-! ## Selecting channels -/

/-- `SCHANNELSET`; `none` for a NULL `ChannelList`. -/
structure ChannelSet where
  channelThreshold : UInt32
  channelList : Option (List UInt32)

/-- Channel `id` is open with a message. -/
def ready (client : J2534CannelloniClient) (id : UInt32) : Bool :=
  match client.channelMap.lookup id with
  | none => false
  | some ctx => !ctx.msgQueue.isEmpty

/-- What a pass of the polling loop finds: the clock, and what arrived since the last. -/
structure SelectPass where
  elapsed : Nat
  arrivals : List (UInt32 × List PassthruMsg)

/-- The polling loop and its `readyCount`; `none` while it has not ended. -/
def selectLoop (ids : List UInt32) (threshold timeout : UInt32) :
    J2534CannelloniClient → List SelectPass → J2534CannelloniClient × Option Nat
  | client, [] => (client, none)
  | client, pass :: passes =>
    let client := client.enqueueAll pass.arrivals
    -- `readyCount` was set to 0 at the head of the pass
    if timeout.toNat ≤ pass.elapsed then (client, some 0)
    else
      let readyCount := ids.countP client.ready
      if threshold.toNat ≤ readyCount then (client, some readyCount)
      else selectLoop ids threshold timeout client passes

/-- What a call returns: a code, or how many channels are ready. -/
inductive Retval
  | code (e : J2534Err)
  | ready (n : Nat)
deriving DecidableEq

/-- `PassThruSelect`, once its loop ends. -/
def passThruSelect (client : J2534CannelloniClient) (set : Option ChannelSet) (timeout : UInt32)
    (passes : List SelectPass) : J2534CannelloniClient × Option Retval :=
  match set with
  | none =>
    ({ client with lastError := utf8 "ChannelSetPtr is null" }, some (.code .errNullParameter))
  | some set =>
    match set.channelList with
    | none | some [] =>
      ({ client with lastError := utf8 "Invalid ChannelSet (empty list)" },
        some (.code .errInvalidChannelId))
    | some (id :: ids) =>
      let r := selectLoop (id :: ids) set.channelThreshold timeout client passes
      (r.1, r.2.map fun readyCount =>
        if 0 < readyCount then .ready readyCount else .code .errTimeout)

end J2534CannelloniClient

/-! ## Enumeration -/

/-- `SDEVICE` -/
structure SDevice where
  deviceName : List UInt8
  deviceAvailable : UInt32
  deviceDLLFWStatus : UInt32
  deviceConnectMedia : UInt32
  deviceConnectSpeed : UInt32
  deviceSignalQuality : UInt32
  deviceSignalStrength : UInt32

/-- A client, and the static `scanIndex`. -/
structure CallState where
  world : World
  scanIndex : Nat

namespace CallState

def setLastError (s : CallState) (text : String) : CallState :=
  { s with world := { s.world with client := { s.world.client with lastError := utf8 text } } }

/-- `VIRTUAL_DEVICE_COUNT` -/
def virtualDeviceCount : Nat := 3

def getPortFromIndex (index : Nat) : UInt32 := 20000 + UInt32.ofNat index

/-- `"Cannelloni UDP Port %lu (CAN)"` -/
def deviceName (port : UInt32) : List UInt8 := utf8 s!"Cannelloni UDP Port {port.toNat} (CAN)"

/-- `PassThruScanForDevices`: the code, and `*pDeviceCount` unless the pointer is NULL. -/
def passThruScanForDevices (s : CallState) (pDeviceCount : Bool) :
    CallState × J2534Err × Option Nat :=
  if pDeviceCount then ({ s with scanIndex := 0 }, .statusNoError, some virtualDeviceCount)
  else (s.setLastError "pDeviceCount is null", .errNullParameter, none)

/-- `PassThruGetNextDevice`: the code, and `*psDevice` where it is written. -/
def passThruGetNextDevice (s : CallState) (psDevice : Bool) : CallState × J2534Err × Option SDevice :=
  if psDevice = false then (s.setLastError "psDevice is null", .errNullParameter, none)
  else if virtualDeviceCount ≤ s.scanIndex then (s, .errNoMoreDevices, none)
  else
    let port := getPortFromIndex s.scanIndex
    let isOpen := decide (port ∈ s.world.client.channelMap)
    ({ s with scanIndex := s.scanIndex + 1 }, .statusNoError,
      some { deviceName := deviceName port, deviceAvailable := if isOpen then 0 else 1,
             deviceDLLFWStatus := 0, deviceConnectMedia := 3, deviceConnectSpeed := 1000000000,
             deviceSignalQuality := 100, deviceSignalStrength := 100 })

/-- `PassThruGetNextCarDAQ`: the code, and `*name`, `*version` and `*addr` on success;
`pointers` tells that none of the three is NULL, the others what `LocalAlloc` gave. -/
def passThruGetNextCarDAQ (s : CallState) (pointers allocName allocAddr : Bool) :
    CallState × J2534Err × Option (List UInt8 × UInt32 × List UInt8) :=
  if pointers = false then (s.setLastError "Null parameter(s)", .errNullParameter, none)
  else if virtualDeviceCount ≤ s.scanIndex then (s, .errNoMoreDevices, none)
  else if allocName = false then
    (s.setLastError "LocalAlloc failed for name", .errNullParameter, none)
  else if allocAddr = false then
    (s.setLastError "LocalAlloc failed for addr", .errNullParameter, none)
  else
    ({ s with scanIndex := s.scanIndex + 1 }, .statusNoError,
      some (deviceName (getPortFromIndex s.scanIndex), 100, utf8 "127.0.0.1"))

end CallState

/-! ## Runs of calls -/

/-- The code of an entry point that leaves the client alone. -/
def fixedRetval : FuncName → Option J2534Err
  | .passThruDisconnect | .passThruReadVersion | .passThruIoctl => some .statusNoError
  | .passThruQueueMsgs | .passThruStartPeriodicMsg | .passThruStopPeriodicMsg
  | .passThruStartMsgFilter | .passThruStopMsgFilter | .passThruSetProgrammingVoltage
  | .passThruExConfigureWiFi | .passThruExDeviceWatchdog | .passThruExDownloadCypheredFlashData
  | .passThruExEraseFlash | .passThruExInitiateCypheredFlashDownload | .passThruExReadFlash
  | .passThruExResetFlash | .passThruExRunSelfTest | .passThruExWriteFlash
  | .passThruLoadFirmware | .passThruRecoverFirmware | .passThruReadIPSetup
  | .passThruWriteIPSetup | .passThruReadPCSetup | .passThruGetPointer | .passThruReadDetails =>
    some .errNotSupported
  | .passThruOpen | .passThruClose | .passThruConnect | .passThruReadMsgs | .passThruWriteMsgs
  | .passThruGetLastError | .passThruSelect | .passThruScanForDevices | .passThruGetNextDevice
  | .passThruGetNextCarDAQ => none

/-- A call with what decides where it ends. -/
inductive ApiCall
  | passThruOpen (pName : Option (List UInt8)) (pDeviceID : Option UInt32)
  | passThruClose (deviceID : UInt32)
  | passThruConnect (deviceID : UInt32)
  | passThruReadMsgs (channelID : UInt32) (requested : Nat) (timeout : UInt32)
  | passThruWriteMsgs (channelID : UInt32) (pMsg : List PassthruMsg)
  | passThruGetLastError (pErrorDescription : Bool)
  | passThruSelect (set : Option J2534CannelloniClient.ChannelSet) (timeout : UInt32)
      (passes : List J2534CannelloniClient.SelectPass)
  | passThruScanForDevices (pDeviceCount : Bool)
  | passThruGetNextDevice (psDevice : Bool)
  | passThruGetNextCarDAQ (pointers allocName allocAddr : Bool)
  | fixed (f : FuncName)

/-- A call that came back, with the state before it and after it. -/
structure CallAct where
  before : CallState
  call : ApiCall
  retval : J2534CannelloniClient.Retval
  after : CallState

namespace CallState

def setClient (s : CallState) (client : J2534CannelloniClient) : CallState :=
  { s with world := { s.world with client := client } }

open J2534CannelloniClient (Retval) in
/-- `call` can come back from `s` with `retval` and leave `s'`. -/
inductive Returns (s : CallState) : ApiCall → Retval → CallState → Prop
  | passThruOpen (pName : Option (List UInt8)) (pDeviceID : Option UInt32)
      (env : OpenEnv s.world.os) :
      Returns s (.passThruOpen pName pDeviceID)
        (.code (s.world.passThruOpen pName pDeviceID env).2.retval)
        { s with world := (s.world.passThruOpen pName pDeviceID env).1 }
  | passThruClose (deviceID : UInt32) :
      Returns s (.passThruClose deviceID) (.code (s.world.passThruClose deviceID).2)
        { s with world := (s.world.passThruClose deviceID).1 }
  | passThruConnect (deviceID : UInt32) :
      Returns s (.passThruConnect deviceID)
        (.code (s.world.client.passThruConnect deviceID).2.1)
        (s.setClient (s.world.client.passThruConnect deviceID).1)
  | passThruReadMsgs (channelID : UInt32) (requested : Nat) (timeout : UInt32)
      (elapsed : Nat → Nat) (arrivals : Nat → List PassthruMsg) :
      Returns s (.passThruReadMsgs channelID requested timeout)
        (.code (s.world.client.passThruReadMsgs channelID requested timeout elapsed
          arrivals).2.retval)
        (s.setClient (s.world.client.passThruReadMsgs channelID requested timeout elapsed
          arrivals).1)
  | passThruWriteMsgs (channelID : UInt32) (pMsg : List PassthruMsg) (sendto : Nat → Int)
      (wsaGetLastError : Int) :
      Returns s (.passThruWriteMsgs channelID pMsg)
        (.code (s.world.client.passThruWriteMsgs channelID pMsg sendto wsaGetLastError).2.retval)
        (s.setClient (s.world.client.passThruWriteMsgs channelID pMsg sendto wsaGetLastError).1)
  | passThruGetLastError (pErrorDescription : Bool) :
      Returns s (.passThruGetLastError pErrorDescription)
        (.code (s.world.client.passThruGetLastError pErrorDescription).2.1)
        (s.setClient (s.world.client.passThruGetLastError pErrorDescription).1)
  | passThruSelect (set : Option J2534CannelloniClient.ChannelSet) (timeout : UInt32)
      (passes : List J2534CannelloniClient.SelectPass) (retval : Retval)
      (hret : (s.world.client.passThruSelect set timeout passes).2 = some retval) :
      Returns s (.passThruSelect set timeout passes) retval
        (s.setClient (s.world.client.passThruSelect set timeout passes).1)
  | passThruScanForDevices (pDeviceCount : Bool) :
      Returns s (.passThruScanForDevices pDeviceCount)
        (.code (s.passThruScanForDevices pDeviceCount).2.1)
        (s.passThruScanForDevices pDeviceCount).1
  | passThruGetNextDevice (psDevice : Bool) :
      Returns s (.passThruGetNextDevice psDevice) (.code (s.passThruGetNextDevice psDevice).2.1)
        (s.passThruGetNextDevice psDevice).1
  | passThruGetNextCarDAQ (pointers allocName allocAddr : Bool) :
      Returns s (.passThruGetNextCarDAQ pointers allocName allocAddr)
        (.code (s.passThruGetNextCarDAQ pointers allocName allocAddr).2.1)
        (s.passThruGetNextCarDAQ pointers allocName allocAddr).1
  | fixed (f : FuncName) (retval : J2534Err) (hf : fixedRetval f = some retval) :
      Returns s (.fixed f) (.code retval) s

end CallState

/-- The steps of a run; what a receive thread does shows no act. -/
inductive CallStep : CallState → Option CallAct → CallState → Prop
  | call (s s' : CallState) (call : ApiCall) (retval : J2534CannelloniClient.Retval)
      (h : s.Returns call retval s') :
      CallStep s (some { before := s, call := call, retval := retval, after := s' }) s'
  | received (s : CallState) (port : UInt32) (msgs : List PassthruMsg) :
      CallStep s none (s.setClient (s.world.client.enqueue port msgs))
  | threadEnded (s : CallState) (id : Nat) :
      CallStep s none { s with world := { s.world with os := s.world.os.endThread id } }

/-- A client as constructed; `scanIndex` is wherever other clients left it. -/
def CallState.start (defaultHost : List UInt8) (defaultPort : UInt32) (cannelloniVersion : UInt8)
    (wsaStartup : Int) (scanIndex : Nat) : CallState :=
  { world := World.start (.construct defaultHost defaultPort cannelloniVersion wsaStartup),
    scanIndex := scanIndex }

end J2534Oip
