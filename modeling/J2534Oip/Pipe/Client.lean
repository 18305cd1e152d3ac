import J2534Oip.Pipe.Types

/-!
# `ExPipeClient`: sending a message

`send` encodes the seven fields as a CBOR map with text keys and gives two buffers to
`WriteFile`: the length as a 4-byte integer, then the encoding.  `frame` is the two
together, what one send puts on the pipe when both writes succeed.
-/

namespace J2534Oip.ExPipeClient

open Bytes

/-! ## The map -/

/-- The tree `send` builds from a message. -/
def messageMap (msg : Message) : Cbor :=
  .map [(.text (utf8 "id"), .int msg.id.toNat),
    (.text (utf8 "type"), .int msg.type.toNat),
    (.text (utf8 "data_type"), .int msg.dataType.toNat),
    (.text (utf8 "timestamp"), .int msg.timestamp.toInt),
    (.text (utf8 "path"), .text (cString msg.path)),
    (.text (utf8 "message"), .text (cString msg.message)),
    (.text (utf8 "data"), .bytes msg.data)]

/-- Length and body, as `send` writes them. -/
def frame (body : List UInt8) : List UInt8 := leBytes 4 body.length ++ body

/-- What `send` appends to the pipe; `sizeOk` and `bodyOk` are the outcomes of the two
`WriteFile` calls, and a failed one appends nothing. -/
def send (L : CborLink) (sizeOk bodyOk : Bool) (msg : Message) : List UInt8 :=
  match L.encoderWrite (messageMap msg) with
  | none => []
  | some cbor =>
    if sizeOk then leBytes 4 cbor.length ++ (if bodyOk then cbor else []) else []

theorem send_ok (L : CborLink) (msg : Message) (cbor : List UInt8)
    (h : L.encoderWrite (messageMap msg) = some cbor) : send L true true msg = frame cbor := by
  simp [send, h, frame]

/-! ## Messages the pipe carries -/

/-- What a client passes to `send`: a time that is not negative, NUL-free UTF-8 in the two
strings, any data, an encoding whose length is a positive `int`. -/
structure Sendable (L : CborLink) (msg : Message) : Prop where
  timestamp : 0 ≤ msg.timestamp.toInt
  path : ValidUtf8 msg.path ∧ 0 ∉ msg.path
  message : ValidUtf8 msg.message ∧ 0 ∉ msg.message
  size : ∃ cbor, L.encoderWrite (messageMap msg) = some cbor ∧ 1 ≤ cbor.length ∧ cbor.length < 2 ^ 31

/-- No string of a written map is longer than the encoding, so all of them are as short
as cn-cbor and Qt need. -/
theorem messageMap_wellFormed (L : CborLink) (msg : Message) (h : Sendable L msg) :
    WellFormed (messageMap msg) := by
  obtain ⟨cbor, hw, -, hlt⟩ := h.size
  have hlen := L.verbatim _ _ hw
  have hkey : ∀ s : String, (utf8 s).length < 2 ^ 31 → WellFormedHere (.text (utf8 s)) :=
    fun s hs => ⟨hs, validUtf8_utf8 s⟩
  have hpath := cString_eq msg.path h.path.2
  have hmessage := cString_eq msg.message h.message.2
  have hts : WellFormedHere (.int msg.timestamp.toInt) := by
    have hlt := msg.timestamp.toInt_lt
    have hnonneg := h.timestamp
    simp only [WellFormedHere]
    omega
  simp only [messageMap, Cbor.All, Cbor.AllPairs, stringLength, hpath, hmessage] at hlen
  have hdata : WellFormedHere (.bytes msg.data) := by
    simp only [WellFormedHere]
    omega
  refine ⟨?_, by simp [messageMap, Cbor.depth, Cbor.depthPairs]⟩
  simp only [messageMap, Cbor.All, Cbor.AllPairs, hpath, hmessage]
  exact ⟨by simp [WellFormedHere], hkey _ (by decide), wellFormedHere_uint32 _, hkey _ (by decide),
    wellFormedHere_uint32 _, hkey _ (by decide), wellFormedHere_uint32 _, hkey _ (by decide), hts,
    hkey _ (by decide), ⟨by omega, h.path.1⟩, hkey _ (by decide), ⟨by omega, h.message.1⟩,
    hkey _ (by decide), hdata, trivial⟩

end J2534Oip.ExPipeClient
