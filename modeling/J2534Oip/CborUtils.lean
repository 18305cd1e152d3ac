import J2534Oip.Defs
import J2534Oip.Pipe.Types

/-!
# `cbor_utils`: building a log record

The `map_put_*` functions append an entry to a map; `map_put_PASSTHRU_MSG` appends one
that holds a batch of messages, as a count and an array of maps.  `cbor_to_data` is the
encoding, empty when there is none.
-/

namespace J2534Oip.CborUtils

open ExPipeClient

def mapPutInt (map : List (Cbor × Cbor)) (key : Nat) (value : UInt32) : List (Cbor × Cbor) :=
  map ++ [(.int key, .int value.toNat)]

/-- `value` are the characters up to the NUL. -/
def mapPutString (map : List (Cbor × Cbor)) (key : Nat) (value : List UInt8) : List (Cbor × Cbor) :=
  map ++ [(.int key, .text value)]

def mapPutData (map : List (Cbor × Cbor)) (key : Nat) (data : List UInt8) : List (Cbor × Cbor) :=
  map ++ [(.int key, .bytes data)]

def mapPutArray (map : List (Cbor × Cbor)) (key : Nat) (value : List Cbor) : List (Cbor × Cbor) :=
  map ++ [(.int key, .array value)]

/-- A text for key. -/
def mapPutBool (map : List (Cbor × Cbor)) (key : String) (value : Bool) : List (Cbor × Cbor) :=
  map ++ [(.text (utf8 key), .simple (if value then 21 else 20))]

def mapPutMap (map : List (Cbor × Cbor)) (key : Nat) (value : List (Cbor × Cbor)) :
    List (Cbor × Cbor) :=
  map ++ [(.int key, .map value)]

/-- `cb_map_elem`: the six fields and the bytes of `Data` that `DataSize` counts. -/
def msgMap (msg : PassthruMsg) : List (Cbor × Cbor) :=
  let elem := mapPutInt [] (key .param1) msg.protocolID
  let elem := mapPutInt elem (key .param2) msg.rxStatus
  let elem := mapPutInt elem (key .param3) msg.txFlags
  let elem := mapPutInt elem (key .param4) msg.timestamp
  let elem := mapPutInt elem (key .param5) msg.dataSize
  let elem := mapPutInt elem (key .param6) msg.extraDataIndex
  mapPutData elem (key .param7) (msg.bytes 0 msg.dataSize.toNat)

/-- `map_put_PASSTHRU_MSG`; `msgs` is the caller's array, of which `msgsCount` are put. -/
def mapPutPassthruMsg (map : List (Cbor × Cbor)) (key : Nat) (msgsCount : UInt32)
    (msgs : List PassthruMsg) : List (Cbor × Cbor) :=
  let root := mapPutInt [] 0 msgsCount
  let array := (msgs.take msgsCount.toNat).foldl (fun array msg => array ++ [.map (msgMap msg)]) []
  map ++ [(.int key, .map (mapPutArray root 1 array))]

def cborToData (L : CborLink) (cb : Cbor) : List UInt8 := (L.encoderWrite cb).getD []

/-- One entry is appended, whatever the batch. -/
theorem mapPutPassthruMsg_append (msgsCount : UInt32) (msgs : List PassthruMsg) :
    ∃ x, ∀ map key, mapPutPassthruMsg map key msgsCount msgs = map ++ [(.int key, x)] :=
  ⟨_, fun _ _ => rfl⟩

/-- A batch whose count is its length is put whole. -/
theorem mapPutPassthruMsg_eq (map : List (Cbor × Cbor)) (key : Nat) (msgs : List PassthruMsg)
    (h : msgs.length < 2 ^ 32) :
    mapPutPassthruMsg map key (UInt32.ofNat msgs.length) msgs =
      map ++ [(.int key, .map [(.int 0, .int msgs.length),
        (.int 1, .array (msgs.map fun msg => .map (msgMap msg)))])] := by
  have hcount : (UInt32.ofNat msgs.length).toNat = msgs.length := by
    rw [UInt32.toNat_ofNat', Nat.mod_eq_of_lt h]
  have harray : msgs.foldl (fun array msg => array ++ [.map (msgMap msg)]) [] =
      msgs.map fun msg => Cbor.map (msgMap msg) := by
    rw [List.foldl_append_eq_append, ← List.flatMap_def, ← List.map_eq_flatMap, List.nil_append]
  simp only [mapPutPassthruMsg, mapPutInt, mapPutArray, hcount, List.take_length, harray,
    List.nil_append]
  rfl

end J2534Oip.CborUtils
