import J2534Oip.Wrapper.Forward

/-!
# `J2534DllWrapper`: its entry points

Arguments are numbered from 0.  Two entry points put another function's id:
`PassThruExEraseFlash` that of `PassThruExDownloadCypheredFlashData`, `PassThruReadDetails`
that of `PassThruSelect`.
-/

namespace J2534Oip.J2534DllWrapper

/-- The return code, all that most entry points put after a call. -/
def putRetval : List (Key × Val) := [(.retvalLong, .int .retval)]

/-! ## J2534 v04.04 -/

/-- `PassThruOpen(pName, pDeviceID)` -/
def passThruOpen : Forwarder where
  func := .passThruOpen
  funcName := .passThruOpen
  scalars := []
  before := [(.param1, .str (.argOrEmpty 0)), (.param2, .int (.deref 1))]
  after := putRetval
  missing := []
  message := "PassThruOpen"

/-- `PassThruClose(DeviceID)` -/
def passThruClose : Forwarder where
  func := .passThruClose
  funcName := .passThruClose
  scalars := [0]
  before := [(.param1, .int (.arg 0))]
  after := putRetval
  missing := []
  message := "PassThruOpen"

/-- `PassThruConnect(DeviceID, ProtocolID, Flags, Baudrate, pChannelID)` -/
def passThruConnect : Forwarder where
  func := .passThruConnect
  funcName := .passThruConnect
  scalars := [0, 1, 2, 3]
  before := [(.param1, .int (.arg 0)), (.param2, .int (.arg 1)), (.param3, .int (.arg 2)),
    (.param4, .int (.arg 3)), (.param5, .int (.deref 4))]
  after := putRetval
  missing := []
  message := "PassThruConnect"

/-- `PassThruDisconnect(ChannelID)` -/
def passThruDisconnect : Forwarder where
  func := .passThruDisconnect
  funcName := .passThruDisconnect
  scalars := [0]
  before := [(.param1, .int (.arg 0))]
  after := putRetval
  missing := []
  message := "PassThruConnect"

/-- `PassThruReadMsgs(ChannelID, pMsg, pNumMsgs, Timeout)` -/
def passThruReadMsgs : Forwarder where
  func := .passThruReadMsgs
  funcName := .passThruReadMsgs
  scalars := [0, 3]
  before := [(.param1, .int (.arg 0)), (.param3, .int (.deref 2)), (.param4, .int (.arg 3)),
    (.rxTx, .int (.const 0))]
  after := [(.param2, .msgs (.deref 2) 1), (.param3, .int (.deref 2)), (.param4, .int (.arg 3)),
    (.rxTx, .int (.const 1)), (.retvalLong, .int .retval)]
  missing := [(.param2, .int (.const 0))]
  message := "PassThruReadMsgs"

/-- `PassThruQueueMsgs(ChannelID, pMsg, pNumMsgs)` -/
def passThruQueueMsgs : Forwarder where
  func := .passThruQueueMsgs
  funcName := .passThruQueueMsgs
  scalars := [0]
  before := [(.param1, .int (.arg 0)), (.param2, .msgs (.deref 2) 1), (.param3, .int (.deref 2))]
  after := putRetval
  missing := []
  message := "PassThruQueueMsgs"

/-- `PassThruWriteMsgs(ChannelID, pMsg, pNumMsgs, Timeout)` -/
def passThruWriteMsgs : Forwarder where
  func := .passThruWriteMsgs
  funcName := .passThruWriteMsgs
  scalars := [0, 3]
  before := [(.param1, .int (.arg 0)), (.param2, .msgs (.deref 2) 1), (.param3, .int (.deref 2)),
    (.param4, .int (.arg 3))]
  after := putRetval
  missing := []
  message := "PassThruWriteMsgs"

/-- `PassThruStartPeriodicMsg(ChannelID, pMsg, pMsgID, TimeInterval)` -/
def passThruStartPeriodicMsg : Forwarder where
  func := .passThruStartPeriodicMsg
  funcName := .passThruStartPeriodicMsg
  scalars := [0, 3]
  before := [(.param1, .int (.arg 0)), (.param2, .msgs (.const 1) 1), (.param3, .int (.deref 2)),
    (.param4, .int (.arg 3))]
  after := putRetval
  missing := []
  message := "PassThruStartPeriodicMsg"

/-- `PassThruStopPeriodicMsg(ChannelID, MsgID)` -/
def passThruStopPeriodicMsg : Forwarder where
  func := .passThruStopPeriodicMsg
  funcName := .passThruStopPeriodicMsg
  scalars := [0, 1]
  before := [(.param1, .int (.arg 0)), (.param2, .int (.arg 1))]
  after := putRetval
  missing := []
  message := "PassThruStopPeriodicMsg"

/-- `PassThruStartMsgFilter(ChannelID, FilterType, pMaskMsg, pPatternMsg, pFlowControlMsg, pMsgID)` -/
def passThruStartMsgFilter : Forwarder where
  func := .passThruStartMsgFilter
  funcName := .passThruStartMsgFilter
  scalars := [0, 1]
  before := [(.param1, .int (.arg 0)), (.param2, .int (.arg 1)), (.param3, .msgs (.const 1) 2),
    (.param4, .msgs (.const 1) 3), (.param5, .msgs (.const 1) 4), (.param6, .int (.deref 5))]
  after := putRetval
  missing := []
  message := "PassThruStartMsgFilter"

/-- `PassThruStopMsgFilter(ChannelID, MsgID)` -/
def passThruStopMsgFilter : Forwarder where
  func := .passThruStopMsgFilter
  funcName := .passThruStopMsgFilter
  scalars := [0, 1]
  before := [(.param1, .int (.arg 0)), (.param2, .int (.arg 1))]
  after := putRetval
  missing := []
  message := "PassThruStopMsgFilter"

/-- `PassThruSetProgrammingVoltage(DeviceID, Pin, Voltage)` -/
def passThruSetProgrammingVoltage : Forwarder where
  func := .passThruSetProgrammingVoltage
  funcName := .passThruSetProgrammingVoltage
  scalars := [0, 1, 2]
  before := [(.param1, .int (.arg 0)), (.param2, .int (.arg 1)), (.param2, .int (.arg 2))]
  after := putRetval
  missing := []
  message := "PassThruSetProgrammingVoltage"

/-- `PassThruReadVersion(DeviceID, pFirmwareVersion, pDllVersion, pApiVersion)` -/
def passThruReadVersion : Forwarder where
  func := .passThruReadVersion
  funcName := .passThruReadVersion
  scalars := [0]
  before := [(.param1, .int (.arg 0)), (.param2, .str (.arg 1)), (.param3, .str (.arg 2)),
    (.param4, .str (.arg 3)), (.rxTx, .int (.const 0))]
  after := [(.param2, .str (.arg 1)), (.param3, .str (.arg 2)), (.param4, .str (.arg 3)),
    (.retvalLong, .int .retval), (.rxTx, .int (.const 1))]
  missing := []
  message := "PassThruReadVersion"

/-- `PassThruGetLastError(pErrorDescription)` -/
def passThruGetLastError : Forwarder where
  func := .passThruGetLastError
  funcName := .passThruGetLastError
  scalars := []
  before := [(.param1, .str (.arg 0)), (.rxTx, .int (.const 0))]
  after := [(.param1, .str (.arg 0)), (.retvalLong, .int .retval), (.rxTx, .int (.const 1))]
  missing := []
  message := "PassThruGetLastError"

/-- `PassThruIoctl(ChannelID, IoctlID, pInput, pOutput)` -/
def passThruIoctl : Forwarder where
  func := .passThruIoctl
  funcName := .passThruIoctl
  scalars := [0, 1]
  before := [(.param1, .int (.arg 0)), (.param2, .int (.arg 1)), (.param3, .int (.const 0)),
    (.param4, .int (.const 0))]
  after := putRetval
  missing := []
  message := "PassThruIoctl"

/-! ## Drew Tech -/

/-- An entry point without arguments. -/
def noArguments (func funcName : FuncName) (message : String) : Forwarder where
  func := func
  funcName := funcName
  scalars := []
  before := []
  after := putRetval
  missing := []
  message := message

def passThruExConfigureWiFi : Forwarder :=
  noArguments .passThruExConfigureWiFi .passThruExConfigureWiFi "PassThruExConfigureWiFi"

def passThruExDeviceWatchdog : Forwarder :=
  noArguments .passThruExDeviceWatchdog .passThruExDeviceWatchdog "PassThruExDeviceWatchdog"

def passThruExDownloadCypheredFlashData : Forwarder :=
  noArguments .passThruExDownloadCypheredFlashData .passThruExDownloadCypheredFlashData
    "PassThruExDownloadCypheredFlashData"

def passThruExEraseFlash : Forwarder :=
  noArguments .passThruExEraseFlash .passThruExDownloadCypheredFlashData
    "PassThruExDownloadCypheredFlashData"

def passThruExInitiateCypheredFlashDownload : Forwarder :=
  noArguments .passThruExInitiateCypheredFlashDownload .passThruExInitiateCypheredFlashDownload
    "PassThruExInitiateCypheredFlashDownload"

def passThruExReadFlash : Forwarder :=
  noArguments .passThruExReadFlash .passThruExReadFlash "PassThruExReadFlash"

def passThruExResetFlash : Forwarder :=
  noArguments .passThruExResetFlash .passThruExResetFlash "PassThruExResetFlash"

def passThruExRunSelfTest : Forwarder :=
  noArguments .passThruExRunSelfTest .passThruExRunSelfTest "PassThruExRunSelfTest"

def passThruExWriteFlash : Forwarder :=
  noArguments .passThruExWriteFlash .passThruExWriteFlash "PassThruExWriteFlash"

def passThruLoadFirmware : Forwarder :=
  noArguments .passThruLoadFirmware .passThruLoadFirmware "PassThruLoadFirmware"

def passThruRecoverFirmware : Forwarder :=
  noArguments .passThruRecoverFirmware .passThruRecoverFirmware "PassThruRecoverFirmware"

/-- `PassThruReadIPSetup(DeviceID, host_name, ip_addr, subnet_mask, gateway, dhcp_addr)` -/
def passThruReadIPSetup : Forwarder where
  func := .passThruReadIPSetup
  funcName := .passThruReadIPSetup
  scalars := [0]
  before := [(.param1, .int (.arg 0)), (.param2, .str (.arg 1)), (.param3, .str (.arg 2)),
    (.param4, .str (.arg 3)), (.param5, .str (.arg 4)), (.param6, .str (.arg 5)),
    (.rxTx, .int (.const 0))]
  after := [(.param2, .str (.arg 1)), (.param3, .str (.arg 2)), (.param4, .str (.arg 3)),
    (.param5, .str (.arg 4)), (.param6, .str (.arg 5)), (.rxTx, .int (.const 1)),
    (.retvalLong, .int .retval)]
  missing := []
  message := "PassThruReadIPSetup"

/-- `PassThruWriteIPSetup(DeviceID, host_name, ip_addr, subnet_mask, gateway, dhcp_addr)` -/
def passThruWriteIPSetup : Forwarder where
  func := .passThruWriteIPSetup
  funcName := .passThruWriteIPSetup
  scalars := [0]
  before := [(.param1, .int (.arg 0)), (.param2, .str (.arg 1)), (.param3, .str (.arg 2)),
    (.param4, .str (.arg 3)), (.param5, .str (.arg 4)), (.param6, .str (.arg 5))]
  after := putRetval
  missing := []
  message := "PassThruWriteIPSetup"

/-- `PassThruReadPCSetup(host_name, ip_addr)` -/
def passThruReadPCSetup : Forwarder where
  func := .passThruReadPCSetup
  funcName := .passThruReadPCSetup
  scalars := []
  before := [(.param1, .str (.arg 0)), (.param2, .str (.arg 1)), (.rxTx, .int (.const 0))]
  after := [(.param1, .str (.arg 0)), (.param2, .str (.arg 1)), (.rxTx, .int (.const 1)),
    (.retvalLong, .int .retval)]
  missing := []
  message := "PassThruReadPCSetup"

/-- `PassThruGetPointer(vb_pointer)` -/
def passThruGetPointer : Forwarder where
  func := .passThruGetPointer
  funcName := .passThruGetPointer
  scalars := [0]
  before := [(.param1, .int (.arg 0))]
  after := [(.param1, .int (.arg 0)), (.rxTx, .int (.const 1)), (.retvalLong, .int .retval)]
  missing := []
  message := "PassThruGetPointer"

/-- `PassThruGetNextCarDAQ(name, version, addr)` -/
def passThruGetNextCarDAQ : Forwarder where
  func := .passThruGetNextCarDAQ
  funcName := .passThruGetNextCarDAQ
  scalars := []
  before := [(.param1, .str .empty), (.param2, .int (.deref 1)), (.param3, .str .empty),
    (.rxTx, .int (.const 0))]
  after := [(.param1, .str (.derefUnlessNull 0 0)), (.param2, .int (.deref 1)),
    (.param3, .str (.derefUnlessNull 0 2)), (.rxTx, .int (.const 1)),
    (.retvalLong, .int .retval)]
  missing := []
  message := "PassThruGetNextCarDAQ"

/-! ## J2534 v05.00 -/

/-- `PassThruScanForDevices(pDeviceCount)` -/
def passThruScanForDevices : Forwarder where
  func := .passThruScanForDevices
  funcName := .passThruScanForDevices
  scalars := []
  before := [(.param1, .int (.deref 0)), (.rxTx, .int (.const 0))]
  after := [(.param1, .int (.deref 0)), (.rxTx, .int (.const 1)), (.retvalLong, .int .retval)]
  missing := []
  message := "PassThruScanForDevices"

/-- `PassThruGetNextDevice(psDevice)` -/
def passThruGetNextDevice : Forwarder where
  func := .passThruGetNextDevice
  funcName := .passThruGetNextDevice
  scalars := []
  before := [(.param1, .tmpSDevice), (.rxTx, .int (.const 0))]
  after := [(.param1, .sDevice 0), (.rxTx, .int (.const 1)), (.retvalLong, .int .retval)]
  missing := []
  message := "PassThruGetNextDevice"

/-- `PassThruSelect(ChannelSetPtr, SelectType, Timeout)` -/
def passThruSelect : Forwarder where
  func := .passThruSelect
  funcName := .passThruSelect
  scalars := [1, 2]
  before := [(.param1, .int (.const 0)), (.param2, .int (.arg 1)), (.param3, .int (.arg 2))]
  after := putRetval
  missing := []
  message := "PassThruSelect"

/-- `PassThruReadDetails(pName)` -/
def passThruReadDetails : Forwarder where
  func := .passThruReadDetails
  funcName := .passThruSelect
  scalars := []
  before := [(.param1, .int (.deref 0))]
  after := [(.param1, .int (.deref 0)), (.rxTx, .int (.const 1)), (.retvalLong, .int .retval)]
  missing := []
  message := "PassThruSelect"

/-! ## All of them -/

/-- The entry point of a function. -/
def entryPoint : FuncName → Forwarder
  | .passThruOpen => passThruOpen
  | .passThruClose => passThruClose
  | .passThruSelect => passThruSelect
  | .passThruConnect => passThruConnect
  | .passThruDisconnect => passThruDisconnect
  | .passThruGetLastError => passThruGetLastError
  | .passThruIoctl => passThruIoctl
  | .passThruReadMsgs => passThruReadMsgs
  | .passThruReadVersion => passThruReadVersion
  | .passThruSetProgrammingVoltage => passThruSetProgrammingVoltage
  | .passThruStartMsgFilter => passThruStartMsgFilter
  | .passThruStartPeriodicMsg => passThruStartPeriodicMsg
  | .passThruStopMsgFilter => passThruStopMsgFilter
  | .passThruStopPeriodicMsg => passThruStopPeriodicMsg
  | .passThruScanForDevices => passThruScanForDevices
  | .passThruGetNextDevice => passThruGetNextDevice
  | .passThruWriteMsgs => passThruWriteMsgs
  | .passThruExConfigureWiFi => passThruExConfigureWiFi
  | .passThruExDeviceWatchdog => passThruExDeviceWatchdog
  | .passThruExDownloadCypheredFlashData => passThruExDownloadCypheredFlashData
  | .passThruExEraseFlash => passThruExEraseFlash
  | .passThruExInitiateCypheredFlashDownload => passThruExInitiateCypheredFlashDownload
  | .passThruExReadFlash => passThruExReadFlash
  | .passThruExResetFlash => passThruExResetFlash
  | .passThruExRunSelfTest => passThruExRunSelfTest
  | .passThruExWriteFlash => passThruExWriteFlash
  | .passThruLoadFirmware => passThruLoadFirmware
  | .passThruRecoverFirmware => passThruRecoverFirmware
  | .passThruReadIPSetup => passThruReadIPSetup
  | .passThruWriteIPSetup => passThruWriteIPSetup
  | .passThruReadPCSetup => passThruReadPCSetup
  | .passThruGetPointer => passThruGetPointer
  | .passThruGetNextCarDAQ => passThruGetNextCarDAQ
  | .passThruReadDetails => passThruReadDetails
  | .passThruQueueMsgs => passThruQueueMsgs

/-- Each entry point calls the function of its own name. -/
theorem func_entryPoint (f : FuncName) : (entryPoint f).func = f := by
  cases f <;> rfl

/-- What is put before an error dereferences nothing. -/
theorem safe_missing (f : FuncName) (c : Frame) : ∀ put ∈ (entryPoint f).missing, put.2.Safe c := by
  intro put hput
  cases f with
  | passThruReadMsgs =>
    obtain rfl := List.mem_singleton.1 hput
    trivial
  | _ => cases hput

end J2534Oip.J2534DllWrapper
