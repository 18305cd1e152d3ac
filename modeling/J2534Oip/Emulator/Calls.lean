import Mathlib.Data.List.Nodup
import J2534Oip.ProgramMemory
import J2534Oip.Wrapper.Load

/-!
# `J2534Emulator`: its calls

The emulator answers for a device that is not there: a call writes some of the program's
memory, sends a message or two, and returns `STATUS_NOERROR`.  Seven calls send a record,
built from the memory after the writes; the others send a text.  What all 35 have in common
is said once:

    c.answer f = some a → Answered f c a                                      (answered)
-/

namespace J2534Oip.J2534Emulator

open Bytes CborUtils Stores

/-! ## Calls and answers -/

/-- A call as it finds the process. -/
structure Call where
  args : List UInt32
  mem : Memory
  /-- what `malloc` and `new` return, in order -/
  malloc : Nat → UInt32
  /-- `_dev_counter` -/
  devCounter : Nat

def Call.arg (c : Call) (i : Nat) : UInt32 := c.args.getD i 0

/-- The memory after some writes. -/
def Call.after (c : Call) (writes : List MemWrite) : Memory := storeAll nextAddr c.mem writes

structure Answer where
  /-- to the program's memory, and to what was allocated -/
  writes : List MemWrite
  /-- the messages: a text, mostly with a record -/
  sent : List (String × Option (List (Cbor × Cbor)))
  devCounter : Nat
  retval : J2534Err

/-- The record of a call, from the memory after its writes; `none` when a NULL pointer is
dereferenced for it. -/
def Call.record (c : Call) (f : FuncName) (writes : List MemWrite) (puts : List (Key × Val)) :
    Option (List (Cbor × Cbor)) :=
  putAll ⟨c.args, c.after writes, 0⟩ puts
    (mapPutInt [] (ExPipeClient.key .funcName) (UInt32.ofNat (ExPipeClient.func f)))

/-- A call that sends its record. -/
def Call.recorded (c : Call) (f : FuncName) (writes : List MemWrite) (puts : List (Key × Val)) :
    Option Answer :=
  (c.record f writes puts).map fun record =>
    ⟨writes, [(f.name, some record)], c.devCounter, .statusNoError⟩

/-- `"J2534Emulator … called!"` -/
def calledText (f : FuncName) : String := "J2534Emulator " ++ f.name ++ " called!"

/-- A call that sends a text. -/
def Call.called (c : Call) (f : FuncName) (writes : List MemWrite) : Answer :=
  ⟨writes, [(calledText f, none)], c.devCounter, .statusNoError⟩

/-! ## J2534 v04.04 -/

namespace Entry

def passThruOpenPuts : List (Key × Val) :=
  [(.param1, .str (.argOrEmpty 0)), (.param2, .int (.deref 1))]

/-- `PassThruOpen(pName, pDeviceID)` -/
def passThruOpen (c : Call) : Option Answer :=
  if c.arg 1 = 0 then none
  else c.recorded .passThruOpen [writeLong (c.arg 1) 777] passThruOpenPuts

def passThruClosePuts : List (Key × Val) := [(.param1, .int (.arg 0))]

/-- `PassThruClose(DeviceID)` -/
def passThruClose (c : Call) : Option Answer := c.recorded .passThruClose [] passThruClosePuts

/-- The `switch` on `ProtocolID`: the channel of `ISO9141`, `CAN` and `ISO15765`. -/
def channelOf (protocolID : UInt32) : Option UInt32 :=
  if protocolID = 3 then some 1
  else if protocolID = 5 then some 2
  else if protocolID = 6 then some 3
  else none

def passThruConnectPuts : List (Key × Val) :=
  [(.param1, .int (.arg 0)), (.param2, .int (.arg 1)), (.param3, .int (.arg 2)),
    (.param4, .int (.arg 3)), (.param5, .int (.deref 4))]

/-- `PassThruConnect(DeviceID, ProtocolID, Flags, Baudrate, pChannelID)` -/
def passThruConnect (c : Call) : Option Answer :=
  match channelOf (c.arg 1) with
  | some channel =>
    if c.arg 4 = 0 then none
    else c.recorded .passThruConnect [writeLong (c.arg 4) channel] passThruConnectPuts
  | none => c.recorded .passThruConnect [] passThruConnectPuts

def passThruDisconnectPuts : List (Key × Val) := [(.param1, .int (.arg 0))]

/-- `PassThruDisconnect(ChannelID)` -/
def passThruDisconnect (c : Call) : Option Answer :=
  c.recorded .passThruDisconnect [] passThruDisconnectPuts

/-- "Enable flow control": `ISO15765` and `ISO15765_FRAME_PAD`, bytes `30 00 01`. -/
def fcMsg : PassthruMsg :=
  { PassthruMsg.zero with
    protocolID := 6, txFlags := 0x40, dataSize := 3, data := dataOf [0x30, 0x00, 0x01] }

/-- A 0 in place of the messages. -/
def passThruReadMsgsPuts : List (Key × Val) :=
  [(.param1, .int (.arg 0)), (.param2, .int (.const 0)), (.param3, .int (.deref 2)),
    (.param4, .int (.arg 3))]

/-- `PassThruReadMsgs(ChannelID, pMsg, pNumMsgs, Timeout)`: one message, however many were
asked for. -/
def passThruReadMsgs (c : Call) : Option Answer :=
  if c.arg 2 = 0 ∨ c.arg 1 = 0 then none
  else c.recorded .passThruReadMsgs [writeLong (c.arg 2) 1, ⟨c.arg 1, msgBytes fcMsg⟩]
    passThruReadMsgsPuts

def passThruQueueMsgsPuts : List (Key × Val) :=
  [(.param1, .int (.arg 0)), (.param2, .msgs (.deref 2) 1), (.param3, .int (.deref 2))]

/-- `PassThruQueueMsgs(ChannelID, pMsg, pNumMsgs)` -/
def passThruQueueMsgs (c : Call) : Option Answer :=
  c.recorded .passThruQueueMsgs [] passThruQueueMsgsPuts

def passThruWriteMsgsPuts : List (Key × Val) :=
  [(.param1, .int (.arg 0)), (.param2, .msgs (.deref 2) 1), (.param3, .int (.deref 2)),
    (.param4, .int (.arg 3))]

/-- `PassThruWriteMsgs(ChannelID, pMsg, pNumMsgs, Timeout)` -/
def passThruWriteMsgs (c : Call) : Option Answer :=
  c.recorded .passThruWriteMsgs [] passThruWriteMsgsPuts

def passThruStartPeriodicMsg (c : Call) : Option Answer :=
  some (c.called .passThruStartPeriodicMsg [])

def passThruStopPeriodicMsg (c : Call) : Option Answer :=
  some (c.called .passThruStopPeriodicMsg [])

def passThruStartMsgFilter (c : Call) : Option Answer :=
  some (c.called .passThruStartMsgFilter [])

def passThruStopMsgFilter (c : Call) : Option Answer := some (c.called .passThruStopMsgFilter [])

def passThruSetProgrammingVoltage (c : Call) : Option Answer :=
  some (c.called .passThruSetProgrammingVoltage [])

/-- `PassThruReadVersion(DeviceID, pFirmwareVersion, pDllVersion, pApiVersion)` -/
def passThruReadVersion (c : Call) : Option Answer :=
  if c.arg 3 = 0 ∨ c.arg 2 = 0 ∨ c.arg 1 = 0 then none
  else some (c.called .passThruReadVersion
    [writeVersion (c.arg 3) "04.04", writeVersion (c.arg 2) "1.0.001 Feb 28 2023 12:46:00",
      writeVersion (c.arg 1) "9"])

/-- `PassThruGetLastError(pErrorDescription)`; NULL is replaced by a buffer that the caller
does not get. -/
def passThruGetLastError (c : Call) : Option Answer :=
  let pErrorDescription := if c.arg 0 = 0 then c.malloc 0 else c.arg 0
  if pErrorDescription = 0 then none
  else some ⟨[writeString pErrorDescription "NOT SUPPORTED"],
    [(FuncName.name .passThruGetLastError, none)], c.devCounter, .statusNoError⟩

/-- `PassThruIoctl` with `GET_DEVICE_INFO`: the `switch` on the first entry of the list. -/
def deviceInfo (c : Call) : Option (List MemWrite) :=
  if c.arg 3 = 0 then none
  else
    let sParamPtr := c.mem.long (c.arg 3 + 4)
    if sParamPtr = 0 then none
    -- `SERIAL_NUMBER`: `Supported`, then `Value`, with the pointer read again
    else if c.mem.long sParamPtr = 1 then
      let supported := writeLong (sParamPtr + 8) 1
      let sParamPtr := (c.after [supported]).long (c.arg 3 + 4)
      if sParamPtr = 0 then none else some [supported, writeLong (sParamPtr + 4) 987654321]
    else some []

/-- `PassThruIoctl(ChannelID, IoctlID, pInput, pOutput)` -/
def passThruIoctl (c : Call) : Option Answer :=
  let writes : Option (List MemWrite) :=
    -- `READ_VBATT`
    if c.arg 1 = 0x03 then
      if c.arg 3 = 0 then none else some [writeLong (c.arg 3) 14400]
    -- `SET_CONFIG` prints the list
    else if c.arg 1 = 0x02 then
      if c.arg 2 ≠ 0 ∧ c.mem.long (c.arg 2) ≠ 0 ∧ c.mem.long (c.arg 2 + 4) = 0 then none
      else some []
    else if c.arg 1 = 0x800C then deviceInfo c
    else some []
  writes.map (c.called .passThruIoctl)

/-! ## Drew Tech functions -/

def passThruExConfigureWiFi (c : Call) : Option Answer :=
  some (c.called .passThruExConfigureWiFi [])

def passThruExDeviceWatchdog (c : Call) : Option Answer :=
  some (c.called .passThruExDeviceWatchdog [])

def passThruExDownloadCypheredFlashData (c : Call) : Option Answer :=
  some (c.called .passThruExDownloadCypheredFlashData [])

def passThruExEraseFlash (c : Call) : Option Answer := some (c.called .passThruExEraseFlash [])

def passThruExInitiateCypheredFlashDownload (c : Call) : Option Answer :=
  some (c.called .passThruExInitiateCypheredFlashDownload [])

def passThruExReadFlash (c : Call) : Option Answer := some (c.called .passThruExReadFlash [])

def passThruExResetFlash (c : Call) : Option Answer := some (c.called .passThruExResetFlash [])

def passThruExRunSelfTest (c : Call) : Option Answer := some (c.called .passThruExRunSelfTest [])

def passThruExWriteFlash (c : Call) : Option Answer := some (c.called .passThruExWriteFlash [])

def passThruLoadFirmware (c : Call) : Option Answer := some (c.called .passThruLoadFirmware [])

def passThruRecoverFirmware (c : Call) : Option Answer :=
  some (c.called .passThruRecoverFirmware [])

def passThruReadIPSetup (c : Call) : Option Answer := some (c.called .passThruReadIPSetup [])

def passThruWriteIPSetup (c : Call) : Option Answer := some (c.called .passThruWriteIPSetup [])

def passThruReadPCSetup (c : Call) : Option Answer := some (c.called .passThruReadPCSetup [])

def passThruGetPointer (c : Call) : Option Answer := some (c.called .passThruGetPointer [])

/-- `PassThruGetNextCarDAQ(name, version, addr)`: the first call of the process gets a device,
without its version (`version = pVersion` sets the parameter only). -/
def passThruGetNextCarDAQ (c : Call) : Option Answer :=
  if c.arg 0 = 0 ∨ c.arg 1 = 0 ∨ c.arg 2 = 0 then
    some ⟨[], [(calledText .passThruGetNextCarDAQ, none), ("PassThruGetNextCarDAQ NULLPARAM", none)],
      c.devCounter, .statusNoError⟩
  else if c.devCounter = 0 then
    let pName := c.malloc 0
    let pAddr := c.malloc 1
    let pVersion := c.malloc 2
    if pName = 0 ∨ pAddr = 0 ∨ pVersion = 0 then none
    else some ⟨[writeZeros pName 16, writeString pName "XDev1", writeZeros pAddr 128,
        writeString pAddr "192.168.155.100", writeLong pVersion 0xFFFFFF,
        writeLong (c.arg 0) pName, writeLong (c.arg 2) pAddr],
      [(calledText .passThruGetNextCarDAQ, none), ("PassThruGetNextCarDAQ", none)],
      c.devCounter + 1, .statusNoError⟩
  else some ⟨[writeLong (c.arg 0) 0],
    [(calledText .passThruGetNextCarDAQ, none), ("PassThruGetNextCarDAQ", none)],
    c.devCounter, .statusNoError⟩

/-! ## J2534 v05.00 -/

def passThruScanForDevices (c : Call) : Option Answer :=
  some (c.called .passThruScanForDevices [])

def passThruGetNextDevice (c : Call) : Option Answer := some (c.called .passThruGetNextDevice [])

def passThruSelect (c : Call) : Option Answer := some (c.called .passThruSelect [])

def passThruReadDetails (c : Call) : Option Answer := some (c.called .passThruReadDetails [])

end Entry

/-- What a function answers; `none` when a NULL pointer is dereferenced on the way. -/
def Call.answer (c : Call) : FuncName → Option Answer
  | .passThruOpen => Entry.passThruOpen c
  | .passThruClose => Entry.passThruClose c
  | .passThruSelect => Entry.passThruSelect c
  | .passThruConnect => Entry.passThruConnect c
  | .passThruDisconnect => Entry.passThruDisconnect c
  | .passThruGetLastError => Entry.passThruGetLastError c
  | .passThruIoctl => Entry.passThruIoctl c
  | .passThruReadMsgs => Entry.passThruReadMsgs c
  | .passThruReadVersion => Entry.passThruReadVersion c
  | .passThruSetProgrammingVoltage => Entry.passThruSetProgrammingVoltage c
  | .passThruStartMsgFilter => Entry.passThruStartMsgFilter c
  | .passThruStartPeriodicMsg => Entry.passThruStartPeriodicMsg c
  | .passThruStopMsgFilter => Entry.passThruStopMsgFilter c
  | .passThruStopPeriodicMsg => Entry.passThruStopPeriodicMsg c
  | .passThruScanForDevices => Entry.passThruScanForDevices c
  | .passThruGetNextDevice => Entry.passThruGetNextDevice c
  | .passThruWriteMsgs => Entry.passThruWriteMsgs c
  | .passThruExConfigureWiFi => Entry.passThruExConfigureWiFi c
  | .passThruExDeviceWatchdog => Entry.passThruExDeviceWatchdog c
  | .passThruExDownloadCypheredFlashData => Entry.passThruExDownloadCypheredFlashData c
  | .passThruExEraseFlash => Entry.passThruExEraseFlash c
  | .passThruExInitiateCypheredFlashDownload => Entry.passThruExInitiateCypheredFlashDownload c
  | .passThruExReadFlash => Entry.passThruExReadFlash c
  | .passThruExResetFlash => Entry.passThruExResetFlash c
  | .passThruExRunSelfTest => Entry.passThruExRunSelfTest c
  | .passThruExWriteFlash => Entry.passThruExWriteFlash c
  | .passThruLoadFirmware => Entry.passThruLoadFirmware c
  | .passThruRecoverFirmware => Entry.passThruRecoverFirmware c
  | .passThruReadIPSetup => Entry.passThruReadIPSetup c
  | .passThruWriteIPSetup => Entry.passThruWriteIPSetup c
  | .passThruReadPCSetup => Entry.passThruReadPCSetup c
  | .passThruGetPointer => Entry.passThruGetPointer c
  | .passThruGetNextCarDAQ => Entry.passThruGetNextCarDAQ c
  | .passThruReadDetails => Entry.passThruReadDetails c
  | .passThruQueueMsgs => Entry.passThruQueueMsgs c

/-! ## What all calls have in common -/

/-- The puts of the functions that send a record. -/
def putsOf : FuncName → Option (List (Key × Val))
  | .passThruOpen => some Entry.passThruOpenPuts
  | .passThruClose => some Entry.passThruClosePuts
  | .passThruConnect => some Entry.passThruConnectPuts
  | .passThruDisconnect => some Entry.passThruDisconnectPuts
  | .passThruReadMsgs => some Entry.passThruReadMsgsPuts
  | .passThruQueueMsgs => some Entry.passThruQueueMsgsPuts
  | .passThruWriteMsgs => some Entry.passThruWriteMsgsPuts
  | _ => none

/-- The text of a call's first message. -/
def announce (f : FuncName) : String :=
  if (putsOf f).isSome ∨ f = .passThruGetLastError then f.name else calledText f

/-- The functions of the interface. -/
def functions : List FuncName := J2534DllWrapper.lookedUp ++ [.passThruReadDetails]

theorem mem_functions (f : FuncName) : f ∈ functions := by
  rw [functions, List.mem_append, J2534DllWrapper.mem_lookedUp, List.mem_singleton]
  exact (em (f = .passThruReadDetails)).symm

theorem announce_injective : Function.Injective announce := by
  have hnodup : (functions.map announce).Nodup := by decide +kernel
  intro f f' heq
  exact List.inj_on_of_nodup_map hnodup (mem_functions f) (mem_functions f') heq

/-- The function that a text announces. -/
def announced (text : String) : Option FuncName := functions.find? fun f => announce f = text

theorem announced_announce (f : FuncName) : announced (announce f) = some f := by
  cases h : announced (announce f) with
  | none =>
    have hnot := List.find?_eq_none.1 h f (mem_functions f)
    simp at hnot
  | some f' =>
    have heq := List.find?_some h
    rw [decide_eq_true_iff] at heq
    rw [announce_injective heq]

/-- What a call answered: it announced its function, with the record of the memory after it,
and any message after that announces nothing. -/
structure Answered (f : FuncName) (c : Call) (a : Answer) : Prop where
  retval : a.retval = .statusNoError
  recorded : ∀ puts, putsOf f = some puts →
    ∃ record, c.record f a.writes puts = some record ∧ a.sent = [(announce f, some record)]
  called : putsOf f = none → ∃ later : List String,
    a.sent = (announce f, none) :: later.map (·, none) ∧ ∀ text ∈ later, announced text = none
  counter : f ≠ .passThruGetNextCarDAQ → a.devCounter = c.devCounter

theorem answered_recorded {f : FuncName} {c : Call} {a : Answer} {writes : List MemWrite}
    {puts : List (Key × Val)} (hf : putsOf f = some puts) (h : c.recorded f writes puts = some a) :
    Answered f c a := by
  obtain ⟨record, hrecord, rfl⟩ := Option.map_eq_some_iff.1 h
  refine ⟨rfl, fun puts' hputs => ?_, fun hnone => ?_, fun _ => rfl⟩
  · obtain rfl : puts = puts' := Option.some.inj (hf.symm.trans hputs)
    have hname : announce f = f.name := by
      rw [announce, if_pos (Or.inl (by rw [hf]; rfl))]
    exact ⟨record, hrecord, by rw [hname]⟩
  · rw [hf] at hnone
    cases hnone

theorem answered_called {f : FuncName} {c : Call} {a : Answer} {writes : List MemWrite}
    (hf : announce f = calledText f) (hputs : putsOf f = none) (h : c.called f writes = a) :
    Answered f c a := by
  subst h
  refine ⟨rfl, fun puts hsome => ?_, fun _ => ⟨[], by rw [hf]; rfl, by simp⟩, fun _ => rfl⟩
  rw [hputs] at hsome
  cases hsome

/-- The first text of a call with two. -/
theorem answered_carDAQ {c : Call} {a : Answer} {writes : List MemWrite} {text : String}
    {devCounter : Nat} (htext : announced text = none)
    (h : ⟨writes, [(calledText .passThruGetNextCarDAQ, none), (text, none)], devCounter,
      .statusNoError⟩ = a) : Answered .passThruGetNextCarDAQ c a := by
  subst h
  refine ⟨rfl, fun puts hsome => (by cases hsome), fun _ => ⟨[text], rfl, ?_⟩,
    fun hne => absurd rfl hne⟩
  simpa using htext

/-- **Every call announces its function** and succeeds. -/
theorem answered {f : FuncName} {c : Call} {a : Answer} (h : c.answer f = some a) :
    Answered f c a := by
  cases f with
  | passThruOpen =>
    simp only [Call.answer, Entry.passThruOpen] at h
    split at h
    · cases h
    · exact answered_recorded rfl h
  | passThruConnect =>
    simp only [Call.answer, Entry.passThruConnect] at h
    split at h
    · split at h
      · cases h
      · exact answered_recorded rfl h
    · exact answered_recorded rfl h
  | passThruReadMsgs =>
    simp only [Call.answer, Entry.passThruReadMsgs] at h
    split at h
    · cases h
    · exact answered_recorded rfl h
  | passThruClose => exact answered_recorded rfl h
  | passThruDisconnect => exact answered_recorded rfl h
  | passThruQueueMsgs => exact answered_recorded rfl h
  | passThruWriteMsgs => exact answered_recorded rfl h
  | passThruReadVersion =>
    simp only [Call.answer, Entry.passThruReadVersion] at h
    split at h
    · cases h
    · exact answered_called rfl rfl (Option.some.inj h)
  | passThruGetLastError =>
    simp only [Call.answer, Entry.passThruGetLastError] at h
    generalize (if c.arg 0 = 0 then c.malloc 0 else c.arg 0) = pErrorDescription at h
    split at h
    · cases h
    · obtain rfl := Option.some.inj h
      exact ⟨rfl, fun puts hsome => (by cases hsome), fun _ => ⟨[], rfl, by simp⟩, fun _ => rfl⟩
  | passThruIoctl =>
    obtain ⟨writes, -, rfl⟩ := Option.map_eq_some_iff.1 h
    exact answered_called rfl rfl rfl
  | passThruGetNextCarDAQ =>
    have hnull : announced "PassThruGetNextCarDAQ NULLPARAM" = none := by decide +kernel
    have hdone : announced "PassThruGetNextCarDAQ" = none := by decide +kernel
    simp only [Call.answer, Entry.passThruGetNextCarDAQ] at h
    split at h
    · exact answered_carDAQ hnull (Option.some.inj h)
    · split at h
      · split at h
        · cases h
        · exact answered_carDAQ hdone (Option.some.inj h)
      · exact answered_carDAQ hdone (Option.some.inj h)
  | _ => exact answered_called rfl rfl (Option.some.inj h)

end J2534Oip.J2534Emulator
