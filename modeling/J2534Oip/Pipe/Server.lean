import J2534Oip.Lib.Reader
import J2534Oip.Pipe.Client
import Mathlib.Logic.Function.Basic

/-!
# `ExPipeServer`: reassembling messages

`processData` appends what a socket has to that client's buffer and runs the framing loop
on it: a length, then as many bytes, then the message those bytes decode to.  Buffer and
size are kept per client.

The loop body does up to two things in one pass.  `frameReader` does one of them a turn,
and `frameLoop_eq_drain` shows that the loop is the draining of that reader, so the
rules of `Lib/Reader.lean` apply to it.
-/

namespace J2534Oip

open Bytes

/-! ## Decoding one frame -/

/-- What `PipeMessage msg;` leaves in the scalar fields: whatever the memory held. -/
structure Uninit where
  id : UInt32
  type : UInt32
  dataType : UInt32
  timestamp : Int64

def PipeMessage.uninit (prior : Uninit) : PipeMessage :=
  { id := prior.id, type := prior.type, dataType := prior.dataType, timestamp := prior.timestamp,
    path := "", message := "", data := [] }

namespace ExPipeServer

open QCborValue QCborMap

/-- One field: set when the key is there and its value has the type, else only logged. -/
def readField (map : List (Cbor × Cbor)) (name : String) (ok : Cbor → Bool)
    (set : Cbor → PipeMessage → PipeMessage) (msg : PipeMessage) : PipeMessage :=
  if contains (textKey name) map && ok (value (textKey name) map) then
    set (value (textKey name) map) msg
  else msg

def readId (map : List (Cbor × Cbor)) : PipeMessage → PipeMessage :=
  readField map "id" isInteger fun v msg => { msg with id := UInt32.ofInt (toInteger 0 v) }

def readType (map : List (Cbor × Cbor)) : PipeMessage → PipeMessage :=
  readField map "type" isInteger fun v msg => { msg with type := UInt32.ofInt (toInteger 0 v) }

def readDataType (map : List (Cbor × Cbor)) : PipeMessage → PipeMessage :=
  readField map "data_type" isInteger fun v msg =>
    { msg with dataType := UInt32.ofInt (toInteger 0 v) }

def readTimestamp (map : List (Cbor × Cbor)) : PipeMessage → PipeMessage :=
  readField map "timestamp" isInteger fun v msg =>
    { msg with timestamp := Int64.ofInt (toInteger 0 v) }

def readPath (map : List (Cbor × Cbor)) : PipeMessage → PipeMessage :=
  readField map "path" isString fun v msg => { msg with path := toString v }

def readMessage (map : List (Cbor × Cbor)) : PipeMessage → PipeMessage :=
  readField map "message" isString fun v msg => { msg with message := toString v }

def readData (map : List (Cbor × Cbor)) : PipeMessage → PipeMessage :=
  readField map "data" isByteArray fun v msg => { msg with data := toByteArray v }

/-- The message built from a decoded map. -/
def messageOfMap (prior : Uninit) (map : List (Cbor × Cbor)) : PipeMessage :=
  readData map (readMessage map (readPath map (readTimestamp map (readDataType map
    (readType map (readId map (.uninit prior)))))))

/-- The message of a frame; a frame that is not a CBOR map is skipped (`continue`). -/
def messageOfFrame (L : CborLink) (prior : Uninit) (data : List UInt8) : Option PipeMessage :=
  if isMap (L.fromCbor data) then some (messageOfMap prior (toMap (L.fromCbor data))) else none

/-! ## The framing loop -/

/-- `(size == 0 && buffer.size() >= 4) || (size > 0 && buffer.size() >= size)` -/
def loopGuard (size : Int) (buffer : List UInt8) : Bool :=
  (decide (size = 0) && decide (4 ≤ buffer.length)) ||
    (decide (0 < size) && decide (size ≤ buffer.length))

/-- First `if` of the body: take a length. -/
def takeSize (size : Int) (buffer : List UInt8) : Int × List UInt8 :=
  if size = 0 ∧ 4 ≤ buffer.length then (signed 32 (ofLE (buffer.take 4)), buffer.drop 4)
  else (size, buffer)

/-- Second `if` of the body: take a frame. -/
def takeData (size : Int) (buffer : List UInt8) : (Int × List UInt8) × List (List UInt8) :=
  if 0 < size ∧ size ≤ buffer.length then
    ((0, buffer.drop size.toNat), [buffer.take size.toNat])
  else ((size, buffer), [])

/-- The inner `while`, at most `fuel` passes: size, buffer and the frames taken. -/
def frameLoop : Nat → Int → List UInt8 → (Int × List UInt8) × List (List UInt8)
  | 0, size, buffer => ((size, buffer), [])
  | fuel + 1, size, buffer =>
    if loopGuard size buffer then
      let s := takeSize size buffer
      let d := takeData s.1 s.2
      let r := frameLoop fuel d.1.1 d.1.2
      (r.1, d.2 ++ r.2)
    else ((size, buffer), [])

/-- The outer `while`: every `readAll` is appended and the inner loop run.  A pass of the
inner loop removes at least a byte, so the buffer's length bounds the passes. -/
def readLoop : Int × List UInt8 → List (List UInt8) → (Int × List UInt8) × List (List UInt8)
  | st, [] => (st, [])
  | (size, buffer), bytes :: reads =>
    let r := frameLoop (buffer ++ bytes).length size (buffer ++ bytes)
    let t := readLoop r.1 reads
    (t.1, r.2 ++ t.2)

end ExPipeServer

/-! ## The server -/

/-- `m_buffers` and `m_sizes`; a client without an entry gets an empty buffer and size 0. -/
structure ExPipeServer (κ : Type*) where
  buffers : κ → List UInt8
  sizes : κ → Int

namespace ExPipeServer

variable {κ : Type*} [DecidableEq κ]

def init : ExPipeServer κ := { buffers := fun _ => [], sizes := fun _ => 0 }

/-- What the server keeps of a client. -/
def client (s : ExPipeServer κ) (c : κ) : Int × List UInt8 := (s.sizes c, s.buffers c)

/-- `processData` for client `c` whose socket yields `reads`; `prior i` is the memory the
`i`-th message is built in. -/
def processData (L : CborLink) (s : ExPipeServer κ) (c : κ) (reads : List (List UInt8))
    (prior : Nat → Uninit) : ExPipeServer κ × List PipeMessage :=
  let r := readLoop (s.client c) reads
  ({ buffers := Function.update s.buffers c r.1.2, sizes := Function.update s.sizes c r.1.1 },
    r.2.zipIdx.filterMap fun frame => messageOfFrame L (prior frame.2) frame.1)

/-- `handleSocketDisconnected` -/
def handleSocketDisconnected (s : ExPipeServer κ) (c : κ) : ExPipeServer κ :=
  { buffers := Function.update s.buffers c [], sizes := Function.update s.sizes c 0 }

inductive Event (κ : Type*)
  | readyRead (c : κ) (reads : List (List UInt8)) (prior : Nat → Uninit)
  | disconnected (c : κ)

/-- One event: the server afterwards and the messages handed to the preprocessor. -/
def step (L : CborLink) (s : ExPipeServer κ) : Event κ → ExPipeServer κ × List (κ × PipeMessage)
  | .readyRead c reads prior =>
    let r := processData L s c reads prior
    (r.1, r.2.map fun msg => (c, msg))
  | .disconnected c => (handleSocketDisconnected s c, [])

def run (L : CborLink) : ExPipeServer κ → List (Event κ) → ExPipeServer κ × List (κ × PipeMessage)
  | s, [] => (s, [])
  | s, ev :: evs =>
    let r := step L s ev
    let t := run L r.1 evs
    (t.1, r.2 ++ t.2)

/-! ## The loop drains a reader -/

/-- One `if` of the loop body a turn. -/
def frameTurn (size : Int) (buffer : List UInt8) : Option (Int × List UInt8 × List (List UInt8)) :=
  if size = 0 ∧ 4 ≤ buffer.length then
    some (signed 32 (ofLE (buffer.take 4)), buffer.drop 4, [])
  else if 0 < size ∧ size ≤ buffer.length then
    some (0, buffer.drop size.toNat, [buffer.take size.toNat])
  else none

def frameReader : Reader Int UInt8 (List UInt8) where
  turn := frameTurn
  shrinks := by
    intro size buffer size' buffer' out h
    unfold frameTurn at h
    split at h
    · next h4 =>
      obtain ⟨rfl, rfl, rfl⟩ := by simpa using h
      simp only [List.length_drop]
      omega
    · split at h
      · next hs =>
        obtain ⟨rfl, rfl, rfl⟩ := by simpa using h
        simp only [List.length_drop]
        omega
      · cases h
  stable := by
    intro size buffer size' buffer' out more h
    unfold frameTurn at h ⊢
    split at h
    · next h4 =>
      have h4' : size = 0 ∧ 4 ≤ (buffer ++ more).length := by
        rw [List.length_append]
        omega
      rw [if_pos h4', List.take_append_of_le_length h4.2, List.drop_append_of_le_length h4.2]
      obtain ⟨rfl, rfl, rfl⟩ := by simpa using h
      rfl
    · split at h
      · next hn hs =>
        have hn' : ¬(size = 0 ∧ 4 ≤ (buffer ++ more).length) := by omega
        have hs' : 0 < size ∧ size ≤ (buffer ++ more).length := by
          rw [List.length_append]
          omega
        have hle : size.toNat ≤ buffer.length := by omega
        rw [if_neg hn', if_pos hs', List.take_append_of_le_length hle,
          List.drop_append_of_le_length hle]
        obtain ⟨rfl, rfl, rfl⟩ := by simpa using h
        rfl
      · cases h

/-- A turn is left exactly when the loop goes on. -/
theorem frameTurn_eq_none (size : Int) (buffer : List UInt8) :
    frameTurn size buffer = none ↔ loopGuard size buffer = false := by
  unfold frameTurn loopGuard
  split
  · next h => simp [h]
  · next h =>
    split
    · next h' => simp [h']
    · next h' => simp only [not_and_or] at h h'; simp; omega

/-- The second `if` is a turn when the size is known, and does nothing otherwise. -/
theorem drain_takeData (size : Int) (buffer : List UInt8) :
    frameReader.drain size buffer =
      ((frameReader.drain (takeData size buffer).1.1 (takeData size buffer).1.2).1,
        (takeData size buffer).2 ++
          (frameReader.drain (takeData size buffer).1.1 (takeData size buffer).1.2).2) := by
  unfold takeData
  split
  · next hs =>
    have h : ¬(size = 0 ∧ 4 ≤ buffer.length) := by omega
    exact frameReader.drain_turn (by simp only [frameReader, frameTurn, if_neg h, if_pos hs])
  · rfl

/-- The first `if` is a turn when the size is not known, and does nothing otherwise. -/
theorem drain_takeSize (size : Int) (buffer : List UInt8) :
    frameReader.drain size buffer =
      frameReader.drain (takeSize size buffer).1 (takeSize size buffer).2 := by
  unfold takeSize
  split
  · next h =>
    rw [frameReader.drain_turn (by simp only [frameReader, frameTurn, if_pos h]; rfl)]
    rfl
  · rfl

/-- A pass of the loop shortens the buffer. -/
theorem length_pass_lt (size : Int) (buffer : List UInt8) (h : loopGuard size buffer = true) :
    (takeData (takeSize size buffer).1 (takeSize size buffer).2).1.2.length < buffer.length := by
  have htake : ∀ (size : Int) (buffer : List UInt8),
      (takeData size buffer).1.2.length ≤ buffer.length := by
    intro size buffer
    unfold takeData
    split <;> simp
  by_cases h4 : size = 0 ∧ 4 ≤ buffer.length
  · have := htake (takeSize size buffer).1 (takeSize size buffer).2
    have hlen : (takeSize size buffer).2.length = buffer.length - 4 := by
      simp only [takeSize, if_pos h4, List.length_drop]
    omega
  · have hs : 0 < size ∧ size ≤ buffer.length := by
      simp only [loopGuard, Bool.or_eq_true, Bool.and_eq_true, decide_eq_true_eq] at h
      omega
    simp only [takeSize, if_neg h4, takeData, if_pos hs, List.length_drop]
    omega

/-- **The loop is the draining of the reader**, given as many passes as bytes. -/
theorem frameLoop_eq_drain (fuel : Nat) (size : Int) (buffer : List UInt8)
    (h : buffer.length ≤ fuel) : frameLoop fuel size buffer = frameReader.drain size buffer := by
  induction fuel generalizing size buffer with
  | zero =>
    have hb : buffer = [] := by simpa using h
    subst hb
    rw [frameReader.drain_idle size [] ((frameTurn_eq_none size []).2 (by simp [loopGuard]))]
    rfl
  | succ fuel ih =>
    unfold frameLoop
    cases hg : loopGuard size buffer with
    | false => rw [frameReader.drain_idle size buffer ((frameTurn_eq_none size buffer).2 hg)]; rfl
    | true =>
      have hlt := length_pass_lt size buffer hg
      rw [drain_takeSize size buffer, drain_takeData]
      simp only [if_true]
      rw [ih _ _ (by omega)]

theorem readLoop_eq_feed (st : Int × List UInt8) (reads : List (List UInt8)) :
    readLoop st reads = frameReader.feed st reads := by
  induction reads generalizing st with
  | nil => rfl
  | cons bytes reads ih =>
    simp only [readLoop, Reader.feed]
    rw [frameLoop_eq_drain _ _ _ (Nat.le_refl _), ih]

end ExPipeServer

end J2534Oip
