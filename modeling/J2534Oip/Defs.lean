import Mathlib.Data.List.Basic

/-!
# J2534 constants and messages

What `j2534_defs.h` and `PassThruStruct.h` define and the Cannelloni client uses: return
codes, protocol ids, flags, and `PASSTHRU_MSG` with its 4128 data bytes.
-/

namespace J2534Oip

/-! ## Return codes -/

/-- `enum J2534Err`, the codes the client returns. -/
inductive J2534Err
  | statusNoError | errNotSupported | errInvalidChannelId | errInvalidProtocolId
  | errNullParameter | errFailed | errDeviceNotConnected | errTimeout | errDeviceInUse
  | errBufferEmpty | errBufferOverflow | errNoMoreDevices | errInvalidDeviceId
deriving DecidableEq

def J2534Err.code : J2534Err → Nat
  | .statusNoError => 0x00
  | .errNotSupported => 0x01
  | .errInvalidChannelId => 0x02
  | .errInvalidProtocolId => 0x03
  | .errNullParameter => 0x04
  | .errFailed => 0x07
  | .errDeviceNotConnected => 0x08
  | .errTimeout => 0x09
  | .errDeviceInUse => 0x0E
  | .errBufferEmpty => 0x10
  | .errBufferOverflow => 0x12
  | .errNoMoreDevices => 0x15
  | .errInvalidDeviceId => 0x1A

theorem J2534Err.code_eq_zero (e : J2534Err) : e.code = 0 ↔ e = .statusNoError := by
  cases e <;> decide

/-! ## Protocols and flags -/

/-- `CAN` -/
def can : UInt32 := 5

/-- `CAN_PS` -/
def canPs : UInt32 := 0x8004

/-- `CAN_29BIT_ID` -/
def can29BitId : UInt32 := 0x100

/-- `CAN_EFF_FLAG` -/
def canEffFlag : UInt32 := 0x80000000

/-! ## Messages -/

/-- `PASSTHRU_MSG`; `unsigned long` has 32 bits. -/
structure PassthruMsg where
  protocolID : UInt32
  rxStatus : UInt32
  txFlags : UInt32
  timestamp : UInt32
  dataSize : UInt32
  extraDataIndex : UInt32
  data : Fin 4128 → UInt8

/-- `PASSTHRU_MSG msg{0}` -/
def PassthruMsg.zero : PassthruMsg :=
  { protocolID := 0, rxStatus := 0, txFlags := 0, timestamp := 0, dataSize := 0,
    extraDataIndex := 0, data := fun _ => 0 }

/-- A zeroed `Data` filled from the front. -/
def dataOf (bs : List UInt8) : Fin 4128 → UInt8 := fun j => bs.getD j 0

/-- A CAN message with the given ID and payload bytes. -/
def PassthruMsg.ofBytes (bs : List UInt8) : PassthruMsg :=
  { PassthruMsg.zero with protocolID := can, dataSize := UInt32.ofNat bs.length, data := dataOf bs }

/-- `Data[offset .. offset + n)`; what lies past the array is not data. -/
def PassthruMsg.bytes (msg : PassthruMsg) (offset n : Nat) : List UInt8 :=
  (List.range n).map fun k => if h : offset + k < 4128 then msg.data ⟨offset + k, h⟩ else 0

@[simp] theorem PassthruMsg.length_bytes (msg : PassthruMsg) (offset n : Nat) :
    (msg.bytes offset n).length = n := by
  simp [PassthruMsg.bytes]

theorem PassthruMsg.getElem_bytes (msg : PassthruMsg) (offset n k : Nat)
    (hk : k < (msg.bytes offset n).length) (h : offset + k < 4128) :
    (msg.bytes offset n)[k] = msg.data ⟨offset + k, h⟩ := by
  simp [PassthruMsg.bytes, h]

theorem PassthruMsg.bytes_add (msg : PassthruMsg) (offset m n : Nat) :
    msg.bytes offset (m + n) = msg.bytes offset m ++ msg.bytes (offset + m) n := by
  simp only [PassthruMsg.bytes, List.range_add, List.map_append, List.map_map]
  congr 1
  apply List.map_congr_left
  intro k _
  simp only [Function.comp, Nat.add_assoc]

/-- The front of a filled `Data` is what it was filled with. -/
theorem PassthruMsg.bytes_dataOf (msg : PassthruMsg) (bs : List UInt8) (h : bs.length ≤ 4128)
    (hdata : msg.data = dataOf bs) : msg.bytes 0 bs.length = bs := by
  apply List.ext_getElem (msg.length_bytes 0 bs.length)
  intro k hk hk'
  rw [msg.getElem_bytes 0 bs.length k hk (by omega), hdata]
  simp [dataOf, hk']

end J2534Oip
