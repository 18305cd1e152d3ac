import J2534Oip.Cannelloni.Ioctl
import J2534Oip.Log.Calls

/-!
# What a call hands to its program

A call reads its arguments from the program's memory and hands out what the client answers:
a number, messages, a text, a device.  It writes that to the buffers it was given, and to no
more than was given, and the program reads it back:

    s.Performs c f call retval s' handed → handed.writes c = some ws →
      (∀ w ∈ ws, w.Within nextAddr (c.Given f)) ∧ handed.Found c (c.after ws)    (within, found)

as long as the buffers do not overlap.
-/

namespace J2534Oip

open Bytes CborUtils Stores
open J2534CannelloniClient (ChannelSet ListApart Retval SelectPass)

/-! ## What a call is given -/

namespace Invocation

/-- A string argument; `none` for NULL. -/
def string (c : Invocation) (i : Nat) : Option (List UInt8) :=
  if c.arg i = 0 then none else some (c.mem.cString (c.arg i))

/-- The number an argument points to; `none` for NULL. -/
def number (c : Invocation) (i : Nat) : Option UInt32 :=
  if c.arg i = 0 then none else some (c.mem.long (c.arg i))

/-- `*pNumMsgs` -/
def numMsgs (c : Invocation) : Nat := (c.mem.long (c.arg 2)).toNat

/-- `SCHANNELSET`: a count, a threshold and a pointer. -/
def channelSet (c : Invocation) : Option ChannelSet :=
  if c.arg 0 = 0 then none
  else
    let ptr := c.mem.long (c.arg 0 + 8)
    some
      { channelThreshold := c.mem.long (c.arg 0 + 4)
        channelList :=
          if ptr = 0 then none
          else some ((List.range (c.mem.long (c.arg 0)).toNat).map fun i =>
            c.mem.long (ptr + UInt32.ofNat (4 * i))) }

/-- The buffers of a call, by what the caller promises of them, and what it allocates. -/
def Given (c : Invocation) : FuncName → UInt32 → Prop
  | .passThruOpen, x => Region nextAddr (c.arg 1) 4 x
  | .passThruConnect, x => Region nextAddr (c.arg 4) 4 x
  -- as many messages as `*pNumMsgs` says
  | .passThruReadMsgs, x => Region nextAddr (c.arg 2) 4 x ∨
      Region nextAddr (c.arg 1) (4152 * c.numMsgs) x
  | .passThruWriteMsgs, x => Region nextAddr (c.arg 2) 4 x
  | .passThruReadVersion, x => ∃ i ∈ [1, 2, 3], Region nextAddr (c.arg i) 80 x
  | .passThruGetLastError, x => Region nextAddr (c.arg 0) 80 x
  | .passThruIoctl, x =>
    if c.arg 1 ∈ [IoctlID.readVbatt, IoctlID.readProgVoltage, IoctlID.readPinVoltage] then
      Region nextAddr (c.arg 3) 4 x
    -- as many entries as the list says
    else if c.arg 1 = IoctlID.getDeviceInfo then
      Region nextAddr (c.mem.long (c.arg 3 + 4)) (12 * (c.mem.long (c.arg 3)).toNat) x
    else if c.arg 1 = IoctlID.getConfig then
      Region nextAddr (c.mem.long (c.arg 2 + 4)) (8 * (c.mem.long (c.arg 2)).toNat) x
    else False
  | .passThruScanForDevices, x => Region nextAddr (c.arg 0) 4 x
  | .passThruGetNextDevice, x => Region nextAddr (c.arg 0) sizeofSDevice x
  | .passThruGetNextCarDAQ, x => (∃ i ∈ [0, 1, 2], Region nextAddr (c.arg i) 4 x) ∨
      Region nextAddr (c.localAlloc 0) 32 x ∨ Region nextAddr (c.localAlloc 1) 10 x
  | _, _ => False

end Invocation

/-! ## What a call hands out -/

/-- What a call hands to the program. -/
inductive Handed
  | nothing
  /-- to what argument `i` points to -/
  | number (i : Nat) (n : UInt32)
  /-- to `pMsg`, and their number to `*pNumMsgs` -/
  | messages (msgs : List PassthruMsg)
  /-- to `pErrorDescription` -/
  | text (description : List UInt8)
  | versions
  | device (device : SDevice)
  /-- `LocalAlloc` had no room for the name -/
  | noName
  /-- nor, after the name, for the address -/
  | noAddr (name : List UInt8)
  | carDAQ (name : List UInt8) (version : UInt32) (addr : List UInt8)
  | ioctl

/-- The 104 bytes of an `SDEVICE`. -/
def deviceBytes (d : SDevice) : List UInt8 :=
  (writeText 0 d.deviceName).data ++ leBytes 4 d.deviceAvailable.toNat ++
    leBytes 4 d.deviceDLLFWStatus.toNat ++ leBytes 4 d.deviceConnectMedia.toNat ++
    leBytes 4 d.deviceConnectSpeed.toNat ++ leBytes 4 d.deviceSignalQuality.toNat ++
    leBytes 4 d.deviceSignalStrength.toNat

/-- The `SDEVICE` at an address. -/
def sDeviceAt (m : Memory) (a : UInt32) : SDevice :=
  { deviceName := m.cString a, deviceAvailable := m.long (a + 80),
    deviceDLLFWStatus := m.long (a + 84), deviceConnectMedia := m.long (a + 88),
    deviceConnectSpeed := m.long (a + 92), deviceSignalQuality := m.long (a + 96),
    deviceSignalStrength := m.long (a + 100) }

def apiVersion : List UInt8 := utf8 "04.04"

def dllVersion : List UInt8 := utf8 "1.0.001 Feb 28 2023 12:46:00"

def firmwareVersion : List UInt8 := utf8 "04.04"

namespace Handed

/-- A number where there is one. -/
def ofNumber (i : Nat) (n : Option UInt32) : Handed := (n.map (number i)).getD nothing

/-- The writes, in the order of the source; `none` when a NULL pointer is dereferenced. -/
def writes (c : Invocation) : Handed → Option (List MemWrite)
  | nothing => some []
  | number i n => if c.arg i = 0 then none else some [writeLong (c.arg i) n]
  | messages msgs =>
    if c.arg 2 = 0 ∨ msgs ≠ [] ∧ c.arg 1 = 0 then none
    else some [⟨c.arg 1, msgs.flatMap msgBytes⟩, writeLong (c.arg 2) (UInt32.ofNat msgs.length)]
  | text description => some [writeText (c.arg 0) description]
  | versions => some [writeText (c.arg 3) apiVersion, writeText (c.arg 2) dllVersion,
      writeText (c.arg 1) firmwareVersion]
  | device d => some [⟨c.arg 0, deviceBytes d⟩]
  | noName => some [writeLong (c.arg 0) 0]
  | noAddr name => some [writeLong (c.arg 0) (c.localAlloc 0), ⟨c.localAlloc 0, name ++ [0]⟩,
      writeLong (c.arg 1) 100, writeLong (c.arg 2) 0, writeLong (c.arg 0) 0]
  | carDAQ name version addr =>
    some [writeLong (c.arg 0) (c.localAlloc 0), ⟨c.localAlloc 0, name ++ [0]⟩,
      writeLong (c.arg 1) version, writeLong (c.arg 2) (c.localAlloc 1),
      ⟨c.localAlloc 1, addr ++ [0]⟩]
  | ioctl => J2534CannelloniClient.passThruIoctl c

/-- The buffers of a call do not overlap, and its list is not among its own entries. -/
def Apart (c : Invocation) : Handed → Prop
  | ioctl =>
    (c.arg 1 = IoctlID.getDeviceInfo → c.arg 3 ≠ 0 → ListApart 12 (c.arg 3) c.mem) ∧
      (c.arg 1 = IoctlID.getConfig → c.arg 2 ≠ 0 → ListApart 8 (c.arg 2) c.mem)
  -- `*name` is written twice
  | noAddr _ => True
  | handed => ∀ ws, handed.writes c = some ws → ws.Pairwise (Write.Apart nextAddr)

end Handed

/-- What a program finds after a `PassThruIoctl`. -/
structure IoctlFound (c : Invocation) (mem' : Memory) : Prop where
  vbatt : c.arg 1 = IoctlID.readVbatt → mem'.long (c.arg 3) = 12800
  progVoltage : c.arg 1 = IoctlID.readProgVoltage → mem'.long (c.arg 3) = 5200
  pinVoltage : c.arg 1 = IoctlID.readPinVoltage →
    mem'.long (c.arg 3) = J2534CannelloniClient.pinVoltage c
  deviceInfo : c.arg 1 = IoctlID.getDeviceInfo →
    ∀ p ∈ J2534CannelloniClient.entriesAt 12 (c.arg 3) c.mem,
      sParamAt mem' p = J2534CannelloniClient.fillParam (sParamAt c.mem p)
  config : c.arg 1 = IoctlID.getConfig → c.arg 2 ≠ 0 →
    ∀ p ∈ J2534CannelloniClient.entriesAt 8 (c.arg 2) c.mem,
      sConfigAt mem' p = J2534CannelloniClient.fillConfig (c.arg 0) (sConfigAt c.mem p)

/-- The program finds in its memory what it was handed. -/
def Handed.Found (c : Invocation) (mem' : Memory) : Handed → Prop
  | nothing => mem' = c.mem
  | number i n => mem'.long (c.arg i) = n
  | messages msgs => mem'.msgs (c.arg 1) msgs.length = msgs ∧
      mem'.long (c.arg 2) = UInt32.ofNat msgs.length
  | text description => mem'.cString (c.arg 0) = description
  | versions => mem'.cString (c.arg 3) = apiVersion ∧ mem'.cString (c.arg 2) = dllVersion ∧
      mem'.cString (c.arg 1) = firmwareVersion
  | device d => sDeviceAt mem' (c.arg 0) = d
  | noName | noAddr _ => mem'.long (c.arg 0) = 0
  | carDAQ name version addr => mem'.cString (mem'.long (c.arg 0)) = name ∧
      mem'.long (c.arg 1) = version ∧ mem'.cString (mem'.long (c.arg 2)) = addr
  | ioctl => IoctlFound c mem'

/-! ## The calls -/

/-- What an entry point that leaves the client alone hands out. -/
def fixedHanded : FuncName → Handed
  | .passThruReadVersion => .versions
  | .passThruIoctl => .ioctl
  | _ => .nothing

/-- What `PassThruGetNextCarDAQ` hands out; it allocates before it fails. -/
def CallState.carDaqHanded (s : CallState) (c : Invocation) (pointers : Bool) :
    Option (List UInt8 × UInt32 × List UInt8) → Handed
  | some (name, version, addr) => .carDAQ name version addr
  | none =>
    if pointers = false ∨ virtualDeviceCount ≤ s.scanIndex then .nothing
    else if c.localAlloc 0 = 0 then .noName
    else .noAddr (deviceName (getPortFromIndex s.scanIndex))

open Handed in
/-- A call of `f`, its arguments read from memory, can come back from `s` as `call` with
`retval`, leave `s'` and hand out the last. -/
inductive CallState.Performs (s : CallState) (c : Invocation) :
    FuncName → ApiCall → Retval → CallState → Handed → Prop
  | passThruOpen (env : OpenEnv s.world.os) (w : World) (r : OpenResult)
      (h : s.world.passThruOpen (c.string 0) (c.number 1) env = (w, r)) :
      Performs s c .passThruOpen (.passThruOpen (c.string 0) (c.number 1)) (.code r.retval)
        { s with world := w }
        (if r.retval = .statusNoError then ofNumber 1 r.deviceID else nothing)
  | passThruClose (w : World) (retval : J2534Err)
      (h : s.world.passThruClose (c.arg 0) = (w, retval)) :
      Performs s c .passThruClose (.passThruClose (c.arg 0)) (.code retval)
        { s with world := w } nothing
  | passThruConnect (client : J2534CannelloniClient) (retval : J2534Err)
      (channelID : Option UInt32)
      (h : s.world.client.passThruConnect (c.arg 0) = (client, retval, channelID)) :
      Performs s c .passThruConnect (.passThruConnect (c.arg 0)) (.code retval)
        (s.setClient client) (ofNumber 4 channelID)
  | passThruReadMsgs (hnum : c.arg 2 ≠ 0) (elapsed : Nat → Nat)
      (arrivals : Nat → List PassthruMsg) (client : J2534CannelloniClient)
      (r : J2534CannelloniClient.ReadResult)
      (h : s.world.client.passThruReadMsgs (c.arg 0) c.numMsgs (c.arg 3) elapsed arrivals =
        (client, r)) :
      Performs s c .passThruReadMsgs (.passThruReadMsgs (c.arg 0) c.numMsgs (c.arg 3))
        (.code r.retval) (s.setClient client)
        -- on a channel that is not open nothing is written
        (if c.arg 0 ∈ s.world.client.channelMap then messages r.delivered else nothing)
  | passThruWriteMsgs (hnum : c.arg 2 ≠ 0)
      (hmsg : c.arg 0 ∈ s.world.client.channelMap → c.numMsgs ≠ 0 → c.arg 1 ≠ 0)
      (sendto : Nat → Int) (wsaGetLastError : Int) (client : J2534CannelloniClient) (r : WriteResult)
      (h : s.world.client.passThruWriteMsgs (c.arg 0) (c.mem.msgs (c.arg 1) c.numMsgs) sendto
        wsaGetLastError = (client, r)) :
      Performs s c .passThruWriteMsgs
        (.passThruWriteMsgs (c.arg 0) (c.mem.msgs (c.arg 1) c.numMsgs)) (.code r.retval)
        (s.setClient client)
        (if r.retval = .statusNoError then number 2 (UInt32.ofNat r.numMsgs) else nothing)
  | passThruGetLastError (client : J2534CannelloniClient) (retval : J2534Err)
      (description : Option (List UInt8))
      (h : s.world.client.passThruGetLastError (decide (c.arg 0 ≠ 0)) =
        (client, retval, description)) :
      Performs s c .passThruGetLastError (.passThruGetLastError (decide (c.arg 0 ≠ 0)))
        (.code retval) (s.setClient client) ((description.map text).getD nothing)
  | passThruSelect (passes : List SelectPass) (client : J2534CannelloniClient) (retval : Retval)
      (h : s.world.client.passThruSelect c.channelSet (c.arg 2) passes = (client, some retval)) :
      Performs s c .passThruSelect (.passThruSelect c.channelSet (c.arg 2) passes) retval
        (s.setClient client) nothing
  | passThruScanForDevices (s' : CallState) (retval : J2534Err) (count : Option Nat)
      (h : s.passThruScanForDevices (decide (c.arg 0 ≠ 0)) = (s', retval, count)) :
      Performs s c .passThruScanForDevices (.passThruScanForDevices (decide (c.arg 0 ≠ 0)))
        (.code retval) s' (ofNumber 0 (count.map UInt32.ofNat))
  | passThruGetNextDevice (s' : CallState) (retval : J2534Err) (d : Option SDevice)
      (h : s.passThruGetNextDevice (decide (c.arg 0 ≠ 0)) = (s', retval, d)) :
      Performs s c .passThruGetNextDevice (.passThruGetNextDevice (decide (c.arg 0 ≠ 0)))
        (.code retval) s' ((d.map device).getD nothing)
  | passThruGetNextCarDAQ (pointers : Bool)
      (hpointers : pointers = decide (c.arg 0 ≠ 0 ∧ c.arg 1 ≠ 0 ∧ c.arg 2 ≠ 0)) (s' : CallState)
      (retval : J2534Err) (found : Option (List UInt8 × UInt32 × List UInt8))
      (h : s.passThruGetNextCarDAQ pointers (decide (c.localAlloc 0 ≠ 0))
        (decide (c.localAlloc 1 ≠ 0)) = (s', retval, found)) :
      Performs s c .passThruGetNextCarDAQ
        (.passThruGetNextCarDAQ pointers (decide (c.localAlloc 0 ≠ 0))
          (decide (c.localAlloc 1 ≠ 0))) (.code retval) s'
        (s.carDaqHanded c pointers found)
  | fixed (f : FuncName) (retval : J2534Err) (hf : fixedRetval f = some retval)
      (hrecord : (fixedRecord f retval c.args c.mem).isSome) :
      Performs s c f (.fixed f) (.code retval) s (fixedHanded f)

/-- A call from a program is one of the client's. -/
theorem CallState.Performs.returns {s : CallState} {c : Invocation} {f : FuncName}
    {call : ApiCall} {retval : Retval} {s' : CallState} {handed : Handed}
    (h : s.Performs c f call retval s' handed) : s.Returns call retval s' := by
  cases h with
  | passThruOpen env w r h =>
    have hreturns := CallState.Returns.passThruOpen (s := s) (c.string 0) (c.number 1) env
    rwa [h] at hreturns
  | passThruClose w retval h =>
    have hreturns := CallState.Returns.passThruClose (s := s) (c.arg 0)
    rwa [h] at hreturns
  | passThruConnect client retval channelID h =>
    have hreturns := CallState.Returns.passThruConnect (s := s) (c.arg 0)
    rwa [h] at hreturns
  | passThruReadMsgs hnum elapsed arrivals client r h =>
    have hreturns := CallState.Returns.passThruReadMsgs (s := s) (c.arg 0) c.numMsgs (c.arg 3)
      elapsed arrivals
    rwa [h] at hreturns
  | passThruWriteMsgs hnum hmsg sendto wsa client r h =>
    have hreturns := CallState.Returns.passThruWriteMsgs (s := s) (c.arg 0)
      (c.mem.msgs (c.arg 1) c.numMsgs) sendto wsa
    rwa [h] at hreturns
  | passThruGetLastError client retval description h =>
    have hreturns := CallState.Returns.passThruGetLastError (s := s) (decide (c.arg 0 ≠ 0))
    rwa [h] at hreturns
  | passThruSelect passes client retval h =>
    have hreturns := CallState.Returns.passThruSelect (s := s) c.channelSet (c.arg 2) passes retval
      (by rw [h])
    rwa [h] at hreturns
  | passThruScanForDevices s' retval count h =>
    have hreturns := CallState.Returns.passThruScanForDevices (s := s) (decide (c.arg 0 ≠ 0))
    rwa [h] at hreturns
  | passThruGetNextDevice s' retval d h =>
    have hreturns := CallState.Returns.passThruGetNextDevice (s := s) (decide (c.arg 0 ≠ 0))
    rwa [h] at hreturns
  | passThruGetNextCarDAQ pointers hpointers s' retval found h =>
    have hreturns := CallState.Returns.passThruGetNextCarDAQ (s := s) pointers
      (decide (c.localAlloc 0 ≠ 0)) (decide (c.localAlloc 1 ≠ 0))
    rwa [h] at hreturns
  | fixed f retval hf hrecord => exact .fixed f retval hf

/-! ## What a call may hand out -/

/-- Texts end before their buffers do, and no more messages come than were asked for. -/
def Handed.Valid (c : Invocation) : Handed → Prop
  | messages msgs => msgs.length ≤ c.numMsgs
  | text description => 0 ∉ description ∧ description.length < 80
  | device d => 0 ∉ d.deviceName ∧ d.deviceName.length < 80
  | noAddr name => name.length = 31
  | carDAQ name _ addr => (0 ∉ name ∧ name.length = 31) ∧ 0 ∉ addr ∧ addr.length = 9
  | _ => True

/-- A read delivers no more than was asked for. -/
theorem length_readLoop (requested : Nat) (timeout : UInt32) (elapsed : Nat → Nat)
    (arrivals : Nat → List PassthruMsg) (n : Nat) (got queue : List PassthruMsg) :
    (J2534CannelloniClient.readLoop requested timeout elapsed arrivals n got queue).1.length ≤
      got.length + n := by
  induction n generalizing got queue with
  | zero => exact Nat.le_refl _
  | succ n ih =>
    simp only [J2534CannelloniClient.readLoop]
    split
    · exact Nat.le_add_right _ _
    · next msg queue' _ =>
      have hrest := ih (got ++ [msg]) queue'
      rw [List.length_append, List.length_singleton] at hrest
      omega

theorem length_delivered (client : J2534CannelloniClient) (channelID : UInt32) (requested : Nat)
    (timeout : UInt32) (elapsed : Nat → Nat) (arrivals : Nat → List PassthruMsg) :
    (client.passThruReadMsgs channelID requested timeout elapsed arrivals).2.delivered.length ≤
      requested := by
  unfold J2534CannelloniClient.passThruReadMsgs
  split
  · exact Nat.zero_le _
  · next ctx _ =>
    have hloop := length_readLoop requested timeout elapsed arrivals requested [] ctx.msgQueue
    rw [List.length_nil, Nat.zero_add] at hloop
    exact hloop

theorem deviceName_text (index : Nat) (h : ¬CallState.virtualDeviceCount ≤ index) :
    0 ∉ CallState.deviceName (CallState.getPortFromIndex index) ∧
      (CallState.deviceName (CallState.getPortFromIndex index)).length = 31 := by
  have hlt : index < 3 := Nat.lt_of_not_le h
  obtain rfl | rfl | rfl : index = 0 ∨ index = 1 ∨ index = 2 := by omega
  all_goals decide +kernel

theorem lastError_text (lastError : List UInt8) :
    0 ∉ (cString lastError).take 79 ∧ ((cString lastError).take 79).length < 80 := by
  refine ⟨fun hzero => ?_, ?_⟩
  · have hmem := List.mem_of_mem_take hzero
    have hne := List.all_eq_true.1 List.all_takeWhile 0 hmem
    simp at hne
  · rw [List.length_take]
    omega

theorem CallState.Performs.valid {s : CallState} {c : Invocation} {f : FuncName} {call : ApiCall}
    {retval : Retval} {s' : CallState} {handed : Handed}
    (h : s.Performs c f call retval s' handed) : handed.Valid c := by
  cases h with
  | passThruOpen env w r h =>
    split
    · cases r.deviceID <;> trivial
    · trivial
  | passThruClose w retval h => trivial
  | passThruConnect client retval channelID h => cases channelID <;> trivial
  | passThruReadMsgs hnum elapsed arrivals client r h =>
    split
    · have hlen := length_delivered s.world.client (c.arg 0) c.numMsgs (c.arg 3) elapsed arrivals
      rwa [h] at hlen
    · trivial
  | passThruWriteMsgs hnum hmsg sendto wsa client r h => split <;> trivial
  | passThruGetLastError client retval description h =>
    unfold J2534CannelloniClient.passThruGetLastError at h
    split at h
    · obtain ⟨-, -, rfl⟩ := h
      exact lastError_text _
    · obtain ⟨-, -, rfl⟩ := h
      trivial
  | passThruSelect passes client retval h => trivial
  | passThruScanForDevices s' retval count h => cases count <;> trivial
  | passThruGetNextDevice s' retval d h =>
    unfold CallState.passThruGetNextDevice at h
    split_ifs at h with hnull hdone
    · obtain ⟨-, -, rfl⟩ := h
      trivial
    · obtain ⟨-, -, rfl⟩ := h
      trivial
    · obtain ⟨-, -, rfl⟩ := h
      obtain ⟨hzero, hlen⟩ := deviceName_text s.scanIndex hdone
      exact ⟨hzero, by rw [hlen]; omega⟩
  | passThruGetNextCarDAQ pointers hpointers s' retval found h =>
    cases found with
    | none =>
      unfold CallState.carDaqHanded
      split_ifs with hend hname
      · trivial
      · trivial
      · exact (deviceName_text s.scanIndex (not_or.1 hend).2).2
    | some found =>
      unfold CallState.passThruGetNextCarDAQ at h
      split_ifs at h with hnull hdone hname haddr
      all_goals injection h with hs h
      all_goals injection h with hretval h
      · cases h
      · cases h
      · cases h
      · cases h
      · obtain rfl := Option.some.inj h
        exact ⟨deviceName_text s.scanIndex hdone, by decide +kernel⟩
  | fixed f retval hf hrecord => cases f <;> trivial

/-! ## Within what was given -/

theorem writes_number {c : Invocation} {i : Nat} {n : UInt32} {ws : List MemWrite}
    (h : (Handed.number i n).writes c = some ws) : ws = [writeLong (c.arg i) n] := by
  simp only [Handed.writes] at h
  split at h
  · cases h
  · exact (Option.some.inj h).symm

theorem writes_ofNumber {c : Invocation} {i : Nat} {n : Option UInt32} {ws : List MemWrite}
    (h : (Handed.ofNumber i n).writes c = some ws) :
    ∀ w ∈ ws, ∃ v, w = writeLong (c.arg i) v := by
  cases n with
  | none =>
    obtain rfl := Option.some.inj h
    simp
  | some v =>
    rw [writes_number h]
    exact fun w hw => ⟨v, List.mem_singleton.1 hw⟩

theorem longs_within {a : UInt32} {given : UInt32 → Prop} {ws : List MemWrite}
    (hws : ∀ w ∈ ws, ∃ v, w = writeLong a v) (hgiven : ∀ x, Region nextAddr a 4 x → given x) :
    ∀ w ∈ ws, w.Within nextAddr given := by
  intro w hw x hx
  obtain ⟨v, rfl⟩ := hws w hw
  exact hgiven x (covers_region 4 hx (by simp))

theorem nothing_within {c : Invocation} {given : UInt32 → Prop} {ws : List MemWrite}
    (h : Handed.nothing.writes c = some ws) : ∀ w ∈ ws, w.Within nextAddr given := by
  obtain rfl := Option.some.inj h
  simp

theorem length_deviceBytes (d : SDevice) (h : d.deviceName.length < 80) :
    (deviceBytes d).length = sizeofSDevice := by
  simp only [deviceBytes, writeText, List.length_append, List.length_replicate, length_leBytes,
    sizeofSDevice]
  omega

/-- Printing a list writes nothing. -/
theorem writes_print {list : UInt32} {fuel i : Nat} {m : Memory} {ws : List MemWrite}
    (h : J2534CannelloniClient.listLoop 8 (J2534CannelloniClient.atEntry fun _ _ => []) list fuel i
      m = some ws) : ws = [] := by
  induction fuel generalizing i ws with
  | zero => cases h
  | succ fuel ih =>
    simp only [J2534CannelloniClient.listLoop] at h
    split_ifs at h
    · obtain ⟨writes, hwrites, hloop⟩ := Option.bind_eq_some_iff.1 h
      obtain ⟨p, hp, rfl⟩ := Option.map_eq_some_iff.1 hwrites
      obtain ⟨ws', hrest, rfl⟩ := Option.map_eq_some_iff.1 hloop
      exact ih hrest
    · exact (Option.some.inj h).symm

theorem ioctl_within {c : Invocation} (hapart : Handed.ioctl.Apart c) {ws : List MemWrite}
    (h : J2534CannelloniClient.passThruIoctl c = some ws) :
    ∀ w ∈ ws, w.Within nextAddr (c.Given .passThruIoctl) := by
  have hvoltage : c.arg 1 ∈ [IoctlID.readVbatt, IoctlID.readProgVoltage, IoctlID.readPinVoltage] →
      ∀ x, Region nextAddr (c.arg 3) 4 x → c.Given .passThruIoctl x := by
    intro hid x hx
    rw [Invocation.Given, if_pos hid]
    exact hx
  have hlong : ∀ v, (∀ w ∈ [writeLong (c.arg 3) v], ∃ v, w = writeLong (c.arg 3) v) :=
    fun v w hw => ⟨v, List.mem_singleton.1 hw⟩
  unfold J2534CannelloniClient.passThruIoctl at h
  dsimp only at h
  split_ifs at h with hvbatt hnull hprog hnull hpin hnull hset hlist hinfo hlist hconfig hlist
  · obtain rfl := Option.some.inj h
    exact longs_within (hlong _) (hvoltage (by simp [hvbatt]))
  · obtain rfl := Option.some.inj h
    exact longs_within (hlong _) (hvoltage (by simp [hprog]))
  · obtain rfl := Option.some.inj h
    exact longs_within (hlong _) (hvoltage (by simp [hpin]))
  · exact nothing_within (c := c) h
  · rw [writes_print h]
    simp
  · have hwithin := J2534CannelloniClient.listLoop_frame J2534CannelloniClient.listPass_sParam
      (hapart.1 hinfo hlist) h
    intro w hw x hx
    rw [Invocation.Given, hinfo, if_neg (by decide), if_pos rfl]
    exact hwithin w hw x hx
  · exact nothing_within (c := c) h
  · have hwithin := J2534CannelloniClient.listLoop_frame
      (J2534CannelloniClient.listPass_sConfig (c.arg 0)) (hapart.2 hconfig hlist) h
    intro w hw x hx
    rw [Invocation.Given, hconfig, if_neg (by decide), if_neg (by decide), if_pos rfl]
    exact hwithin w hw x hx
  · exact nothing_within (c := c) h

/-- What a failed or successful `PassThruGetNextCarDAQ` writes. -/
theorem carDAQ_within {c : Invocation} {name addr : List UInt8} (version : UInt32)
    (hname : name.length = 31) (haddr : addr.length = 9) :
    ∀ w ∈ [writeLong (c.arg 0) (c.localAlloc 0), ⟨c.localAlloc 0, name ++ [0]⟩,
        writeLong (c.arg 1) version, writeLong (c.arg 2) (c.localAlloc 1),
        ⟨c.localAlloc 1, addr ++ [0]⟩, writeLong (c.arg 2) 0, writeLong (c.arg 0) 0],
      w.Within nextAddr (c.Given .passThruGetNextCarDAQ) := by
  have hlong : ∀ i ∈ [0, 1, 2], ∀ v,
      (writeLong (c.arg i) v).Within nextAddr (c.Given .passThruGetNextCarDAQ) :=
    fun i hi v x hx => Or.inl ⟨i, hi, covers_region 4 hx (by simp)⟩
  intro w hw
  simp only [List.mem_cons, List.not_mem_nil, or_false] at hw
  rcases hw with rfl | rfl | rfl | rfl | rfl | rfl | rfl
  · exact hlong 0 (by decide) _
  · exact fun x hx => Or.inr (Or.inl (covers_region 32 hx (by simp [hname])))
  · exact hlong 1 (by decide) _
  · exact hlong 2 (by decide) _
  · exact fun x hx => Or.inr (Or.inr (covers_region 10 hx (by simp [haddr])))
  · exact hlong 2 (by decide) _
  · exact hlong 0 (by decide) _

/-- **A call stays within what it was given.** -/
theorem CallState.Performs.within {s : CallState} {c : Invocation} {f : FuncName} {call : ApiCall}
    {retval : Retval} {s' : CallState} {handed : Handed}
    (h : s.Performs c f call retval s' handed) (hapart : handed.Apart c) {ws : List MemWrite}
    (hwrites : handed.writes c = some ws) : ∀ w ∈ ws, w.Within nextAddr (c.Given f) := by
  have hvalid := h.valid
  cases h with
  | passThruOpen env w r h =>
    split at hwrites
    · exact longs_within (writes_ofNumber hwrites) fun _ hx => hx
    · exact nothing_within hwrites
  | passThruClose w retval h => exact nothing_within hwrites
  | passThruConnect client retval channelID h =>
    exact longs_within (writes_ofNumber hwrites) fun _ hx => hx
  | passThruReadMsgs hnum elapsed arrivals client r h =>
    split at hwrites
    · next hopen =>
      rw [if_pos hopen] at hvalid
      simp only [Handed.writes] at hwrites
      split at hwrites
      · cases hwrites
      · obtain rfl := Option.some.inj hwrites
        intro w hw x hx
        rcases List.mem_pair.1 hw with rfl | rfl
        · refine Or.inr (covers_region _ hx ?_)
          rw [length_msgs]
          exact Nat.mul_le_mul_left 4152 hvalid
        · exact Or.inl (covers_region 4 hx (by simp))
    · exact nothing_within hwrites
  | passThruWriteMsgs hnum hmsg sendto wsa client r h =>
    split at hwrites
    · rw [writes_number hwrites]
      exact longs_within (fun w hw => ⟨_, List.mem_singleton.1 hw⟩) fun _ hx => hx
    · exact nothing_within hwrites
  | passThruGetLastError client retval description h =>
    cases description with
    | none => exact nothing_within hwrites
    | some description =>
      obtain rfl := Option.some.inj hwrites
      intro w hw x hx
      obtain rfl := List.mem_singleton.1 hw
      exact writeText_within (Nat.le_of_lt hvalid.2) hx
  | passThruSelect passes client retval h => exact nothing_within hwrites
  | passThruScanForDevices s' retval count h =>
    exact longs_within (writes_ofNumber hwrites) fun _ hx => hx
  | passThruGetNextDevice s' retval d h =>
    cases d with
    | none => exact nothing_within hwrites
    | some d =>
      obtain rfl := Option.some.inj hwrites
      intro w hw x hx
      obtain rfl := List.mem_singleton.1 hw
      exact covers_region _ hx (Nat.le_of_eq (length_deviceBytes d hvalid.2))
  | passThruGetNextCarDAQ pointers hpointers s' retval found h =>
    cases found with
    | none =>
      unfold CallState.carDaqHanded at hwrites hvalid
      split_ifs at hwrites hvalid with hend hname
      · exact nothing_within hwrites
      · obtain rfl := Option.some.inj hwrites
        exact longs_within (fun w hw => ⟨0, List.mem_singleton.1 hw⟩)
          fun _ hx => Or.inl ⟨0, by decide, hx⟩
      · obtain rfl := Option.some.inj hwrites
        intro w hw
        refine carDAQ_within 100 hvalid
          (show (List.replicate 9 0).length = 9 from rfl) w ?_
        simp only [List.mem_cons, List.not_mem_nil, or_false] at hw ⊢
        tauto
    | some found =>
      obtain ⟨name, version, addr⟩ := found
      obtain rfl := Option.some.inj hwrites
      intro w hw
      refine carDAQ_within version hvalid.1.2 hvalid.2.2 w ?_
      simp only [List.mem_cons, List.not_mem_nil, or_false] at hw ⊢
      tauto
  | fixed f retval hf hrecord =>
    cases f with
    | passThruReadVersion =>
      obtain rfl := Option.some.inj hwrites
      intro w hw x hx
      simp only [List.mem_cons, List.not_mem_nil, or_false] at hw
      rcases hw with rfl | rfl | rfl
      · exact ⟨3, by decide, writeText_within (by decide) hx⟩
      · exact ⟨2, by decide, writeText_within (by decide) hx⟩
      · exact ⟨1, by decide, writeText_within (by decide) hx⟩
    | passThruIoctl => exact ioctl_within hapart hwrites
    | _ => exact nothing_within hwrites

/-! ## Found by the program -/

section
variable {c : Invocation} {ws : List MemWrite}

theorem holds_after (hpair : ws.Pairwise (Write.Apart nextAddr)) {w : MemWrite} (hw : w ∈ ws)
    (hlen : w.data.length ≤ 2 ^ 32) : Holds nextAddr (c.after ws) w.addr w.data :=
  holds_storeAll c.mem ws hpair w hw (distinct_nextAddr _ _ hlen)

theorem long_after (hpair : ws.Pairwise (Write.Apart nextAddr)) {a n : UInt32}
    (hw : writeLong a n ∈ ws) : (c.after ws).long a = n :=
  long_of_holds (holds_after hpair hw (by simp))

theorem text_after (hpair : ws.Pairwise (Write.Apart nextAddr)) {a : UInt32} {text : List UInt8}
    (hw : writeText a text ∈ ws) (h0 : 0 ∉ text) (hlen : text.length < 80) :
    (c.after ws).cString a = text := by
  refine cString_of_holds_text (holds_after hpair hw ?_) h0 hlen
  simp only [writeText, List.length_append, List.length_replicate]
  omega

theorem string_after (hpair : ws.Pairwise (Write.Apart nextAddr)) {a : UInt32} {text : List UInt8}
    (hw : ⟨a, text ++ [0]⟩ ∈ ws) (h0 : 0 ∉ text) (hlen : text.length < 80) :
    (c.after ws).cString a = text := by
  have hlen' : (text ++ [0]).length ≤ 2 ^ 32 := by
    rw [List.length_append, List.length_singleton]
    omega
  have hholds := holds_after (c := c) hpair hw hlen'
  exact cString_of_holds hholds h0 (by omega)

end

theorem sDevice_of_holds {m : Memory} {a : UInt32} {d : SDevice}
    (h : Holds nextAddr m a (deviceBytes d)) (h0 : 0 ∉ d.deviceName)
    (hlen : d.deviceName.length < 80) : sDeviceAt m a = d := by
  have htext : (writeText 0 d.deviceName).data.length = 80 := by
    simp only [writeText, List.length_append, List.length_replicate]
    omega
  simp only [deviceBytes, holds_append_nextAddr, List.length_append, length_leBytes, htext] at h
  obtain ⟨⟨⟨⟨⟨⟨hname, havailable⟩, hstatus⟩, hmedia⟩, hspeed⟩, hquality⟩, hstrength⟩ := h
  have hname : m.cString a = d.deviceName := cString_of_holds_text hname h0 hlen
  have havailable : m.long (a + 80) = d.deviceAvailable := long_of_holds havailable
  have hstatus : m.long (a + 84) = d.deviceDLLFWStatus := long_of_holds hstatus
  have hmedia : m.long (a + 88) = d.deviceConnectMedia := long_of_holds hmedia
  have hspeed : m.long (a + 92) = d.deviceConnectSpeed := long_of_holds hspeed
  have hquality : m.long (a + 96) = d.deviceSignalQuality := long_of_holds hquality
  have hstrength : m.long (a + 100) = d.deviceSignalStrength := long_of_holds hstrength
  unfold sDeviceAt
  rw [hname, havailable, hstatus, hmedia, hspeed, hquality, hstrength]

/-- A single write keeps apart from itself alone. -/
theorem pairwise_single (w : MemWrite) : [w].Pairwise (Write.Apart nextAddr) :=
  List.pairwise_singleton _ _

theorem ioctl_found {c : Invocation} (hapart : Handed.ioctl.Apart c) {ws : List MemWrite}
    (h : J2534CannelloniClient.passThruIoctl c = some ws) : IoctlFound c (c.after ws) := by
  have hvoltage : ∀ v, ws = [writeLong (c.arg 3) v] → (c.after ws).long (c.arg 3) = v := by
    rintro v rfl
    exact long_after (pairwise_single _) List.mem_cons_self
  have hvalue : ∀ v, (if c.arg 3 = 0 then none else some [writeLong (c.arg 3) v]) = some ws →
      (c.after ws).long (c.arg 3) = v := by
    intro v hv
    split at hv
    · cases hv
    · exact hvoltage v (Option.some.inj hv).symm
  unfold J2534CannelloniClient.passThruIoctl at h
  dsimp only at h
  constructor
  · intro hid
    rw [if_pos hid] at h
    exact hvalue _ h
  · intro hid
    rw [hid, if_neg (by decide), if_pos rfl] at h
    exact hvalue _ h
  · intro hid
    rw [hid, if_neg (by decide), if_neg (by decide), if_pos rfl] at h
    exact hvalue _ h
  · intro hid p hp
    rw [hid, if_neg (by decide), if_neg (by decide), if_neg (by decide), if_neg (by decide),
      if_pos rfl] at h
    split at h
    · cases h
    · next hlist =>
      obtain ⟨i, hi, rfl⟩ := J2534CannelloniClient.mem_entriesAt.1 hp
      exact J2534CannelloniClient.sParam_listLoop (hapart.1 hid hlist) h i hi
  · intro hid hlist p hp
    rw [hid, if_neg (by decide), if_neg (by decide), if_neg (by decide), if_neg (by decide),
      if_neg (by decide), if_pos rfl, if_neg hlist] at h
    obtain ⟨i, hi, rfl⟩ := J2534CannelloniClient.mem_entriesAt.1 hp
    exact J2534CannelloniClient.sConfig_listLoop (hapart.2 hid hlist) h i hi

/-- **What is handed out is found.** -/
theorem Handed.found {c : Invocation} {handed : Handed} (hvalid : handed.Valid c)
    (hapart : handed.Apart c) {ws : List MemWrite} (h : handed.writes c = some ws) :
    handed.Found c (c.after ws) := by
  cases handed with
  | nothing =>
    obtain rfl := Option.some.inj h
    rfl
  | number i n =>
    obtain rfl := writes_number h
    exact long_after (pairwise_single _) List.mem_cons_self
  | messages msgs =>
    have hpair := hapart ws h
    simp only [Handed.writes] at h
    split at h
    · cases h
    · obtain rfl := Option.some.inj h
      -- the messages do not reach round to `*pNumMsgs`
      have hlt : (msgs.flatMap msgBytes).length < 2 ^ 32 := by
        refine lt_of_not_region (a := c.arg 1) (x := c.arg 2) fun hx => ?_
        exact (List.pairwise_cons.1 hpair).1 _ List.mem_cons_self (c.arg 2) hx
          ⟨0, by simp, rfl⟩
      have hmsgs := holds_after (c := c) hpair List.mem_cons_self (Nat.le_of_lt hlt)
      exact ⟨msgs_of_holds hmsgs, long_after hpair (List.mem_cons_of_mem _ List.mem_cons_self)⟩
  | text description =>
    obtain rfl := Option.some.inj h
    exact text_after (pairwise_single _) List.mem_cons_self hvalid.1 hvalid.2
  | versions =>
    have hpair := hapart ws h
    obtain rfl := Option.some.inj h
    exact ⟨text_after hpair (by simp) (by decide) (by decide),
      text_after hpair (by simp) (by decide) (by decide),
      text_after hpair (by simp) (by decide) (by decide)⟩
  | device d =>
    obtain rfl := Option.some.inj h
    have hholds := holds_after (c := c) (pairwise_single ⟨c.arg 0, deviceBytes d⟩)
      List.mem_cons_self (by rw [length_deviceBytes d hvalid.2]; decide)
    exact sDevice_of_holds hholds hvalid.1 hvalid.2
  | noName =>
    obtain rfl := Option.some.inj h
    exact long_after (pairwise_single _) List.mem_cons_self
  | noAddr name =>
    obtain rfl := Option.some.inj h
    show (storeLong _ (c.arg 0) 0).long (c.arg 0) = 0
    exact long_storeLong _ _ _
  | carDAQ name version addr =>
    have hpair := hapart ws h
    obtain rfl := Option.some.inj h
    obtain ⟨⟨hname, hnameLen⟩, haddr, haddrLen⟩ := hvalid
    have haddrPtr := long_after (c := c) (a := c.arg 2) (n := c.localAlloc 1) hpair (by simp)
    show _ ∧ _ ∧ _
    rw [long_after hpair List.mem_cons_self, haddrPtr]
    exact ⟨string_after hpair (by simp) hname (by omega), long_after hpair (by simp),
      string_after hpair (by simp) haddr (by omega)⟩
  | ioctl => exact ioctl_found hapart h

end J2534Oip
