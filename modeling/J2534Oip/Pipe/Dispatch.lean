import J2534Oip.Pipe.Server

/-!
# What a dispatched message depends on

`PipeMessage` gives its numbers no initial value, and `processData` sets a field only when
its key is there with the right type; else it logs an error and dispatches the message all
the same, with whatever the memory held.  Texts and data start out empty.  So

    isMap (L.fromCbor data) = true →
      (DecidedByBytes L data ↔ HasNumbers (toMap (L.fromCbor data)))       (decidedByBytes_iff)
-/

namespace J2534Oip

open QCborValue QCborMap

/-! ## The preprocessor -/

namespace ExMessagePreProcessor

inductive Viewer
  | wrapper | emulator | cannelloni
deriving DecidableEq

/-- `incommingMessageFromClient`: the viewer whose `processPipeMessage` gets the message. -/
def incommingMessageFromClient (msg : PipeMessage) : Option Viewer :=
  if msg.type = 2 then some .wrapper
  else if msg.type = 3 then some .emulator
  else if msg.type = 4 then some .cannelloni
  else none

end ExMessagePreProcessor

namespace ExPipeServer

open ExMessagePreProcessor

/-! ## The fields -/

/-- A key is there with an integer. -/
def hasInteger (map : List (Cbor × Cbor)) (name : String) : Bool :=
  contains (textKey name) map && isInteger (value (textKey name) map)

/-- All four numbers are there. -/
structure HasNumbers (map : List (Cbor × Cbor)) : Prop where
  id : hasInteger map "id" = true
  type : hasInteger map "type" = true
  dataType : hasInteger map "data_type" = true
  timestamp : hasInteger map "timestamp" = true

section
variable (prior : Uninit) (map : List (Cbor × Cbor))

theorem id_messageOfMap : (messageOfMap prior map).id =
    if hasInteger map "id" then UInt32.ofInt (toInteger 0 (value (textKey "id") map))
    else prior.id := by
  simp only [messageOfMap, readData, readMessage, readPath, readTimestamp, readDataType, readType,
    readId, readField, apply_ite PipeMessage.id, ite_self]
  rfl

theorem type_messageOfMap : (messageOfMap prior map).type =
    if hasInteger map "type" then UInt32.ofInt (toInteger 0 (value (textKey "type") map))
    else prior.type := by
  simp only [messageOfMap, readData, readMessage, readPath, readTimestamp, readDataType, readType,
    readId, readField, apply_ite PipeMessage.type, ite_self]
  rfl

theorem dataType_messageOfMap : (messageOfMap prior map).dataType =
    if hasInteger map "data_type" then UInt32.ofInt (toInteger 0 (value (textKey "data_type") map))
    else prior.dataType := by
  simp only [messageOfMap, readData, readMessage, readPath, readTimestamp, readDataType, readType,
    readId, readField, apply_ite PipeMessage.dataType, ite_self]
  rfl

theorem timestamp_messageOfMap : (messageOfMap prior map).timestamp =
    if hasInteger map "timestamp" then Int64.ofInt (toInteger 0 (value (textKey "timestamp") map))
    else prior.timestamp := by
  simp only [messageOfMap, readData, readMessage, readPath, readTimestamp, readDataType, readType,
    readId, readField, apply_ite PipeMessage.timestamp, ite_self]
  rfl

end

/-- Texts and data have an initial value. -/
theorem rest_messageOfMap (prior prior' : Uninit) (map : List (Cbor × Cbor)) :
    (messageOfMap prior map).path = (messageOfMap prior' map).path ∧
      (messageOfMap prior map).message = (messageOfMap prior' map).message ∧
      (messageOfMap prior map).data = (messageOfMap prior' map).data := by
  simp only [messageOfMap, readData, readMessage, readPath, readTimestamp, readDataType, readType,
    readId, readField, apply_ite PipeMessage.path, apply_ite PipeMessage.message,
    apply_ite PipeMessage.data, ite_self, PipeMessage.uninit, and_self]

/-! ## Two runs -/

attribute [ext] PipeMessage

/-- A map with all numbers makes one message, whatever the memory held. -/
theorem messageOfMap_congr {map : List (Cbor × Cbor)} (h : HasNumbers map) (prior prior' : Uninit) :
    messageOfMap prior map = messageOfMap prior' map := by
  obtain ⟨hpath, hmessage, hdata⟩ := rest_messageOfMap prior prior' map
  have hid : (messageOfMap prior map).id = (messageOfMap prior' map).id := by
    rw [id_messageOfMap, id_messageOfMap, if_pos h.id, if_pos h.id]
  have htype : (messageOfMap prior map).type = (messageOfMap prior' map).type := by
    rw [type_messageOfMap, type_messageOfMap, if_pos h.type, if_pos h.type]
  have hdataType : (messageOfMap prior map).dataType = (messageOfMap prior' map).dataType := by
    rw [dataType_messageOfMap, dataType_messageOfMap, if_pos h.dataType, if_pos h.dataType]
  have htimestamp : (messageOfMap prior map).timestamp = (messageOfMap prior' map).timestamp := by
    rw [timestamp_messageOfMap, timestamp_messageOfMap, if_pos h.timestamp, if_pos h.timestamp]
  exact PipeMessage.ext hid htype hdataType htimestamp hpath hmessage hdata

/-- The memory full of zeros, and of ones. -/
def zeros : Uninit := { id := 0, type := 0, dataType := 0, timestamp := 0 }

def ones : Uninit := { id := 1, type := 1, dataType := 1, timestamp := 1 }

/-- A number that is not there is what the memory held. -/
theorem hasNumbers_of_congr {map : List (Cbor × Cbor)}
    (h : messageOfMap zeros map = messageOfMap ones map) : HasNumbers map := by
  refine ⟨?_, ?_, ?_, ?_⟩
  · by_contra hnot
    have hid := congrArg PipeMessage.id h
    rw [id_messageOfMap, id_messageOfMap, if_neg hnot, if_neg hnot] at hid
    exact absurd hid (by decide)
  · by_contra hnot
    have htype := congrArg PipeMessage.type h
    rw [type_messageOfMap, type_messageOfMap, if_neg hnot, if_neg hnot] at htype
    exact absurd htype (by decide)
  · by_contra hnot
    have hdataType := congrArg PipeMessage.dataType h
    rw [dataType_messageOfMap, dataType_messageOfMap, if_neg hnot, if_neg hnot] at hdataType
    exact absurd hdataType (by decide)
  · by_contra hnot
    have htimestamp := congrArg PipeMessage.timestamp h
    rw [timestamp_messageOfMap, timestamp_messageOfMap, if_neg hnot, if_neg hnot] at htimestamp
    exact absurd htimestamp (by decide)

/-- The message of a frame, the viewer that gets it and the decoder that reads it do not depend
on the memory it is built in. -/
structure DecidedByBytes (L : CborLink) (data : List UInt8) : Prop where
  message : ∀ prior prior', messageOfFrame L prior data = messageOfFrame L prior' data
  viewer : ∀ prior prior', (messageOfFrame L prior data).bind incommingMessageFromClient =
    (messageOfFrame L prior' data).bind incommingMessageFromClient
  decoder : ∀ prior prior', (messageOfFrame L prior data).map PipeMessage.dataType =
    (messageOfFrame L prior' data).map PipeMessage.dataType

/-- **When the bytes decide**: when the map has all four numbers. -/
theorem decidedByBytes_iff (L : CborLink) (data : List UInt8) (h : isMap (L.fromCbor data) = true) :
    DecidedByBytes L data ↔ HasNumbers (toMap (L.fromCbor data)) := by
  have hframe : ∀ prior, messageOfFrame L prior data =
      some (messageOfMap prior (toMap (L.fromCbor data))) := fun prior => if_pos h
  constructor
  · intro hdecided
    have hmessage := hdecided.message zeros ones
    rw [hframe, hframe] at hmessage
    exact hasNumbers_of_congr (Option.some.inj hmessage)
  · intro hnumbers
    have hsame : ∀ prior prior', messageOfFrame L prior data = messageOfFrame L prior' data := by
      intro prior prior'
      rw [hframe, hframe, messageOfMap_congr hnumbers prior prior']
    refine ⟨hsame, fun prior prior' => ?_, fun prior prior' => ?_⟩
    · rw [hsame prior prior']
    · rw [hsame prior prior']

/-- A map of a path and an id, and no type. -/
def untyped : List UInt8 :=
  Cbor.encode (.map [(.text (utf8 "path"), .text (utf8 "a")), (.text (utf8 "id"), .int 1)])

theorem decidedByBytes_iff_untyped : DecidedByBytes .rfc8949 untyped ↔
    HasNumbers (toMap (CborLink.rfc8949.fromCbor untyped)) :=
  decidedByBytes_iff .rfc8949 untyped (by decide)

/-- Where the memory held a 2 the message goes to the wrapper's viewer, where it held a 4 to the
client's. -/
theorem decidedByBytes_untyped : ¬DecidedByBytes .rfc8949 untyped := by
  intro h
  have hviewer := h.viewer { zeros with type := 2 } { zeros with type := 4 }
  exact absurd hviewer (by decide)

/-! ## Whole reads -/

/-- With all numbers in each of its frames, what a read dispatches depends on the stream only. -/
theorem processData_congr {κ : Type*} [DecidableEq κ] (L : CborLink) (s : ExPipeServer κ) (c : κ)
    (reads : List (List UInt8)) (h : ∀ frame ∈ (readLoop (s.client c) reads).2,
      isMap (L.fromCbor frame) = true → HasNumbers (toMap (L.fromCbor frame)))
    (prior prior' : Nat → Uninit) :
    processData L s c reads prior = processData L s c reads prior' := by
  refine congrArg (Prod.mk _) (List.filterMap_congr fun frame hframe => ?_)
  have hmem : frame.1 ∈ (readLoop (s.client c) reads).2 := by
    obtain ⟨body, i⟩ := frame
    exact (List.mem_zipIdx' hframe).2 ▸ List.getElem_mem _
  unfold messageOfFrame
  split
  · next hmap => rw [messageOfMap_congr (h _ hmem hmap)]
  · rfl

end ExPipeServer

end J2534Oip
