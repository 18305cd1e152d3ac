import J2534Oip.CborLink

/-!
# What travels on the pipe

`ExPipeClient.Message` (DLL side) and `PipeMessage` (viewer side), with the two copies of
the key enumerations, one in `expipeclient.h` and one in `types.h`.
-/

namespace J2534Oip

/-! ## Messages -/

/-- A message a client sends; `path` and `message` are the bytes of a `std::string`. -/
structure ExPipeClient.Message where
  id : UInt32
  type : UInt32
  /-- 0 = string, 1 = cbor, 2 = cbor j2534 functions struct -/
  dataType : UInt32
  timestamp : Int64
  path : List UInt8
  message : List UInt8
  data : List UInt8
deriving DecidableEq

/-- A message as the viewer holds it. -/
structure PipeMessage where
  id : UInt32
  type : UInt32
  dataType : UInt32
  timestamp : Int64
  path : String
  message : String
  data : List UInt8
deriving DecidableEq

/-! ## Keys of a log record -/

inductive Key
  | funcName | param1 | param2 | param3 | param4 | param5 | param6 | param7
  | rxTx | retvalLong | error
deriving DecidableEq

inductive FuncName
  | passThruOpen | passThruClose | passThruSelect | passThruConnect | passThruDisconnect
  | passThruGetLastError | passThruIoctl | passThruReadMsgs | passThruReadVersion
  | passThruSetProgrammingVoltage | passThruStartMsgFilter | passThruStartPeriodicMsg
  | passThruStopMsgFilter | passThruStopPeriodicMsg | passThruScanForDevices
  | passThruGetNextDevice | passThruWriteMsgs | passThruExConfigureWiFi
  | passThruExDeviceWatchdog | passThruExDownloadCypheredFlashData | passThruExEraseFlash
  | passThruExInitiateCypheredFlashDownload | passThruExReadFlash | passThruExResetFlash
  | passThruExRunSelfTest | passThruExWriteFlash | passThruLoadFirmware
  | passThruRecoverFirmware | passThruReadIPSetup | passThruWriteIPSetup
  | passThruReadPCSetup | passThruGetPointer | passThruGetNextCarDAQ | passThruReadDetails
  | passThruQueueMsgs
deriving DecidableEq

/-- `enum {KEY_FuncName = 0, …}` of `expipeclient.h`. -/
def ExPipeClient.key : Key → Nat
  | .funcName => 0 | .param1 => 1 | .param2 => 2 | .param3 => 3 | .param4 => 4 | .param5 => 5
  | .param6 => 6 | .param7 => 7 | .rxTx => 8 | .retvalLong => 9 | .error => 10

/-- `enum {KEY_FuncName = 0, …}` of `types.h`. -/
def PipeMessage.key : Key → Nat
  | .funcName => 0 | .param1 => 1 | .param2 => 2 | .param3 => 3 | .param4 => 4 | .param5 => 5
  | .param6 => 6 | .param7 => 7 | .rxTx => 8 | .retvalLong => 9 | .error => 10

/-- `enum {KEY_PassThruOpen = 20, …}` of `expipeclient.h`. -/
def ExPipeClient.func : FuncName → Nat
  | .passThruOpen => 20 | .passThruClose => 21 | .passThruSelect => 22
  | .passThruConnect => 23 | .passThruDisconnect => 24 | .passThruGetLastError => 25
  | .passThruIoctl => 26 | .passThruReadMsgs => 27 | .passThruReadVersion => 28
  | .passThruSetProgrammingVoltage => 29 | .passThruStartMsgFilter => 30
  | .passThruStartPeriodicMsg => 31 | .passThruStopMsgFilter => 32
  | .passThruStopPeriodicMsg => 33 | .passThruScanForDevices => 34
  | .passThruGetNextDevice => 35 | .passThruWriteMsgs => 36 | .passThruExConfigureWiFi => 37
  | .passThruExDeviceWatchdog => 38 | .passThruExDownloadCypheredFlashData => 39
  | .passThruExEraseFlash => 40 | .passThruExInitiateCypheredFlashDownload => 41
  | .passThruExReadFlash => 42 | .passThruExResetFlash => 43 | .passThruExRunSelfTest => 44
  | .passThruExWriteFlash => 45 | .passThruLoadFirmware => 46 | .passThruRecoverFirmware => 47
  | .passThruReadIPSetup => 48 | .passThruWriteIPSetup => 49 | .passThruReadPCSetup => 50
  | .passThruGetPointer => 51 | .passThruGetNextCarDAQ => 52 | .passThruReadDetails => 53
  | .passThruQueueMsgs => 54

/-- `enum {KEY_PassThruOpen = 20, …}` of `types.h`. -/
def PipeMessage.func : FuncName → Nat
  | .passThruOpen => 20 | .passThruClose => 21 | .passThruSelect => 22
  | .passThruConnect => 23 | .passThruDisconnect => 24 | .passThruGetLastError => 25
  | .passThruIoctl => 26 | .passThruReadMsgs => 27 | .passThruReadVersion => 28
  | .passThruSetProgrammingVoltage => 29 | .passThruStartMsgFilter => 30
  | .passThruStartPeriodicMsg => 31 | .passThruStopMsgFilter => 32
  | .passThruStopPeriodicMsg => 33 | .passThruScanForDevices => 34
  | .passThruGetNextDevice => 35 | .passThruWriteMsgs => 36 | .passThruExConfigureWiFi => 37
  | .passThruExDeviceWatchdog => 38 | .passThruExDownloadCypheredFlashData => 39
  | .passThruExEraseFlash => 40 | .passThruExInitiateCypheredFlashDownload => 41
  | .passThruExReadFlash => 42 | .passThruExResetFlash => 43 | .passThruExRunSelfTest => 44
  | .passThruExWriteFlash => 45 | .passThruLoadFirmware => 46 | .passThruRecoverFirmware => 47
  | .passThruReadIPSetup => 48 | .passThruWriteIPSetup => 49 | .passThruReadPCSetup => 50
  | .passThruGetPointer => 51 | .passThruGetNextCarDAQ => 52 | .passThruReadDetails => 53
  | .passThruQueueMsgs => 54

/-! ## The two copies agree -/

theorem pipeMessage_key (k : Key) : PipeMessage.key k = ExPipeClient.key k := by
  cases k <;> rfl

theorem pipeMessage_func (f : FuncName) : PipeMessage.func f = ExPipeClient.func f := by
  cases f <;> rfl

end J2534Oip
