import J2534Oip.Pipe.Client

/-!
# `ExPipeClient`: decoding a body

`receive` looks five of the seven fields up in the decoded map and copies them.  cn-cbor points
into the buffer and ends no text with a NUL, so a `std::string` assigned from one runs on to the
next NUL; a key that is missing is a NULL that is dereferenced; `data_type` and `timestamp` are
not looked up at all.  So what a body says is read when

    (∃ msg, messageOfBody C memory body = some msg ∧ MessageOf C body msg) ↔
      ReadRight C memory body                                             (readRight_iff)

and it is never read of a body that `send` wrote, where a key follows the text of `path`:

    MessageOf .rfc8949 (bodyOf msg) msg ∧ ¬ReadRight .rfc8949 memory (bodyOf msg)
                                             (messageOf_bodyOf, not_readRight_bodyOf)
-/

namespace J2534Oip.ExPipeClient

open Bytes QCborMap

/-! ## cn-cbor, reading -/

/-- A node of a decoded tree; `v` is a union. -/
inductive Node
  | int (n : Int)
  /-- text or bytes: `length` bytes in the buffer, and what follows them there -/
  | string (s after : List UInt8)
  /-- no number and no pointer into the buffer; an array or a map has children -/
  | other (length : Nat)
deriving DecidableEq

/-- What `receive` uses of cn-cbor; `none` is NULL. -/
structure CnCborReader (ν : Type) where
  /-- `cn_cbor_decode` -/
  decode : List UInt8 → Option ν
  /-- `cn_cbor_mapget_string` -/
  mapgetString : ν → String → Option Node

/-- Memory that a call reads and nothing has set. -/
structure Memory where
  dataType : UInt32
  timestamp : Int64
  /-- what follows the buffer, up to a NUL -/
  behind : List UInt8
  /-- `v.sint` of the node under a key, where the union holds no number -/
  union : String → UInt32

namespace Node

/-- `v.sint` as a `uint32_t` -/
def sint (union : UInt32) : Node → UInt32
  | .int n => UInt32.ofInt n
  | _ => union

/-- A `std::string` of `v.str`; what is no string has no pointer there. -/
def str (behind : List UInt8) : Node → Option (List UInt8)
  | .string s after => some (cString (s ++ (after ++ behind)))
  | _ => none

/-- `v.str` to `v.str + length`; the length of a number is 0. -/
def bytes : Node → Option (List UInt8)
  | .int _ => some []
  | .string s _ => some s
  | .other length => if length = 0 then some [] else none

/-- The number a node stands for. -/
def number : Node → Option Int
  | .int n => some n
  | _ => none

/-- The text or the bytes a node stands for. -/
def text : Node → Option (List UInt8)
  | .string s _ => some s
  | _ => none

theorem number_eq_some {node : Node} {n : Int} (h : node.number = some n) : node = .int n := by
  cases node with
  | int m => rw [Option.some.inj h]
  | _ => cases h

theorem text_eq_some {node : Node} {s : List UInt8} (h : node.text = some s) :
    ∃ after, node = .string s after := by
  cases node with
  | string s' after => exact ⟨after, by rw [Option.some.inj h]⟩
  | _ => cases h

end Node

/-! ## What a body says, and what is read of it -/

section
variable {ν : Type} (C : CnCborReader ν)

/-- The node under a key of a body. -/
def CnCborReader.field (body : List UInt8) (key : String) : Option Node :=
  (C.decode body).bind fun cb => C.mapgetString cb key

/-- `msg` is what a body says: each of its fields is under its key. -/
structure MessageOf (body : List UInt8) (msg : Message) : Prop where
  id : (C.field body "id").bind Node.number = some msg.id.toNat
  type : (C.field body "type").bind Node.number = some msg.type.toNat
  dataType : (C.field body "data_type").bind Node.number = some msg.dataType.toNat
  timestamp : (C.field body "timestamp").bind Node.number = some msg.timestamp.toInt
  path : (C.field body "path").bind Node.text = some msg.path
  message : (C.field body "message").bind Node.text = some msg.message
  data : (C.field body "data").bind Node.text = some msg.data

/-- The assignments of `receive`, in order; two fields are not assigned.  `none`: a NULL, or what
is no string, is dereferenced. -/
def messageOfBody (memory : Memory) (buffer : List UInt8) : Option Message := do
  let cb ← C.decode buffer
  let path ← (← C.mapgetString cb "path").str memory.behind
  let id := (← C.mapgetString cb "id").sint (memory.union "id")
  let type := (← C.mapgetString cb "type").sint (memory.union "type")
  let message ← (← C.mapgetString cb "message").str memory.behind
  let data ← (← C.mapgetString cb "data").bytes
  return { path, id, type, message, data, dataType := memory.dataType,
           timestamp := memory.timestamp }

/-- There is a text under the key, without a NUL, and a NUL follows it. -/
def Terminated (memory : Memory) (body : List UInt8) (key : String) : Prop :=
  ∃ s after, C.field body key = some (.string s after) ∧ 0 ∉ s ∧
    (after ++ memory.behind).headD 0 = 0

/-- The five keys have values of their types, the texts are terminated, and what nothing has set
is what the body says. -/
structure ReadRight (memory : Memory) (body : List UInt8) : Prop where
  id : ∃ x : UInt32, C.field body "id" = some (.int x.toNat)
  type : ∃ x : UInt32, C.field body "type" = some (.int x.toNat)
  dataType : C.field body "data_type" = some (.int memory.dataType.toNat)
  timestamp : C.field body "timestamp" = some (.int memory.timestamp.toInt)
  path : Terminated C memory body "path"
  message : Terminated C memory body "message"
  data : ∃ s after, C.field body "data" = some (.string s after)

/-- `messageOfBody`, each field looked up by itself. -/
theorem messageOfBody_eq_some_iff (memory : Memory) (body : List UInt8) (msg : Message) :
    messageOfBody C memory body = some msg ↔
      (C.field body "path").bind (Node.str memory.behind) = some msg.path ∧
      (C.field body "id").map (Node.sint (memory.union "id")) = some msg.id ∧
      (C.field body "type").map (Node.sint (memory.union "type")) = some msg.type ∧
      (C.field body "message").bind (Node.str memory.behind) = some msg.message ∧
      (C.field body "data").bind Node.bytes = some msg.data ∧
      memory.dataType = msg.dataType ∧ memory.timestamp = msg.timestamp := by
  unfold messageOfBody CnCborReader.field
  cases C.decode body with
  | none => simp
  | some cb =>
    obtain ⟨id, type, dataType, timestamp, path, message, data⟩ := msg
    simp only [Option.bind_eq_bind, Option.bind_some, Option.bind_eq_some_iff, Option.map_eq_some_iff,
      Option.pure_def, Option.some.injEq, Message.mk.injEq]
    constructor
    · rintro ⟨p, hp, p', hp', i, hi, t, ht, m, hm, m', hm', d, hd, d', hd', rfl, rfl, rfl, rfl, rfl,
        rfl, rfl⟩
      exact ⟨⟨p, hp, hp'⟩, ⟨i, hi, rfl⟩, ⟨t, ht, rfl⟩, ⟨m, hm, hm'⟩, ⟨d, hd, hd'⟩, rfl, rfl⟩
    · rintro ⟨⟨p, hp, hp'⟩, ⟨i, hi, rfl⟩, ⟨t, ht, rfl⟩, ⟨m, hm, hm'⟩, ⟨d, hd, hd'⟩, rfl, rfl⟩
      exact ⟨p, hp, _, hp', i, hi, t, ht, m, hm, _, hm', d, hd, _, hd', rfl, rfl, rfl, rfl, rfl,
        rfl, rfl⟩

/-- A C string in front of more is all of it exactly when a NUL follows. -/
theorem cString_append_eq_self_iff (s rest : List UInt8) :
    cString (s ++ rest) = s ↔ 0 ∉ s ∧ rest.headD 0 = 0 := by
  induction s with
  | nil =>
    cases rest with
    | nil => simp [cString]
    | cons x rest =>
      by_cases hx : x = 0
      · simp [cString, hx]
      · simp [cString, hx]
  | cons x s ih =>
    by_cases hx : x = 0
    · simp [cString, hx]
    · have htail : cString (x :: s ++ rest) = x :: cString (s ++ rest) := by
        simp [cString, hx]
      rw [htail, List.cons.injEq, and_iff_right rfl, ih, List.mem_cons, not_or]
      simp [Ne.symm hx]

/-- One text, as it is and as it is read. -/
theorem terminated_iff (memory : Memory) (body : List UInt8) (key : String) :
    Terminated C memory body key ↔ ∃ s, (C.field body key).bind Node.text = some s ∧
      (C.field body key).bind (Node.str memory.behind) = some s := by
  constructor
  · rintro ⟨s, after, hfield, hnul, hend⟩
    rw [hfield]
    exact ⟨s, rfl, congrArg some ((cString_append_eq_self_iff s _).2 ⟨hnul, hend⟩)⟩
  · rintro ⟨s, htext, hstr⟩
    obtain ⟨node, hnode, hs⟩ := Option.bind_eq_some_iff.1 htext
    obtain ⟨after, rfl⟩ := Node.text_eq_some hs
    rw [hnode] at hstr
    obtain ⟨hnul, hend⟩ := (cString_append_eq_self_iff s _).1 (Option.some.inj hstr)
    exact ⟨s, after, hnode, hnul, hend⟩

/-- A 32-bit number is read as it is. -/
theorem map_sint_of_number (field : Option Node) (union x : UInt32)
    (h : field.bind Node.number = some (x.toNat : Int)) :
    field = some (.int x.toNat) ∧ field.map (Node.sint union) = some x := by
  obtain ⟨node, rfl, hnumber⟩ := Option.bind_eq_some_iff.1 h
  rw [Node.number_eq_some hnumber]
  exact ⟨rfl, congrArg some (QCborValue.uint32_ofInt_toNat x)⟩

/-- **When a body is read as what it says.** -/
theorem readRight_iff (memory : Memory) (body : List UInt8) :
    (∃ msg, messageOfBody C memory body = some msg ∧ MessageOf C body msg) ↔
      ReadRight C memory body := by
  simp only [messageOfBody_eq_some_iff]
  constructor
  · rintro ⟨msg, ⟨hpath, -, -, hmessage, -, hdataType, htimestamp⟩, hof⟩
    obtain ⟨dataType, hdataType', hnumber⟩ := Option.bind_eq_some_iff.1 hof.dataType
    obtain ⟨timestamp, htimestamp', hnumber'⟩ := Option.bind_eq_some_iff.1 hof.timestamp
    obtain ⟨data, hdata, htext⟩ := Option.bind_eq_some_iff.1 hof.data
    obtain ⟨after, rfl⟩ := Node.text_eq_some htext
    refine ⟨⟨msg.id, (map_sint_of_number _ 0 _ hof.id).1⟩,
      ⟨msg.type, (map_sint_of_number _ 0 _ hof.type).1⟩, ?_, ?_,
      (terminated_iff C memory body "path").2 ⟨msg.path, hof.path, hpath⟩,
      (terminated_iff C memory body "message").2 ⟨msg.message, hof.message, hmessage⟩,
      ⟨msg.data, after, hdata⟩⟩
    · rw [hdataType', Node.number_eq_some hnumber, hdataType]
    · rw [htimestamp', Node.number_eq_some hnumber', htimestamp]
  · intro h
    obtain ⟨id, hid⟩ := h.id
    obtain ⟨type, htype⟩ := h.type
    obtain ⟨path, hpath, hpath'⟩ := (terminated_iff C memory body "path").1 h.path
    obtain ⟨message, hmessage, hmessage'⟩ := (terminated_iff C memory body "message").1 h.message
    obtain ⟨data, after, hdata⟩ := h.data
    refine ⟨⟨id, type, memory.dataType, memory.timestamp, path, message, data⟩,
      ⟨hpath', ?_, ?_, hmessage', ?_, rfl, rfl⟩, ⟨?_, ?_, ?_, ?_, hpath, hmessage, ?_⟩⟩
    · rw [hid]
      exact congrArg some (QCborValue.uint32_ofInt_toNat id)
    · rw [htype]
      exact congrArg some (QCborValue.uint32_ofInt_toNat type)
    · rw [hdata]
      rfl
    · rw [hid]
      rfl
    · rw [htype]
      rfl
    · rw [h.dataType]
      rfl
    · rw [h.timestamp]
      rfl
    · rw [hdata]
      rfl

end

/-! ## The definite-length encoding -/

/-- The node of a value with what follows it in the buffer. -/
def Node.ofCbor (after : List UInt8) : Cbor → Node
  | .int n => .int n
  | .bytes s => .string s after
  | .text s => .string s after
  | .array xs => .other xs.length
  | .map kvs => .other (2 * kvs.length)
  | .tag _ _ => .other 1
  | _ => .other 0

/-- The first value under a text key, among the pairs at the front. -/
def valueAt (fuel : Nat) (key : String) : Nat → List UInt8 → Option Node
  | 0, _ => none
  | n + 1, bs =>
    match Cbor.decode fuel bs with
    | none => none
    | some (k, rest) =>
      match Cbor.decode fuel rest with
      | none => none
      | some (v, after) =>
        if textKey key k then some (Node.ofCbor after v) else valueAt fuel key n after

/-- A body that is one definite-length map, as its number of pairs and their bytes. -/
def pairsOf (body : List UInt8) : Option (Nat × List UInt8) :=
  match Cbor.ofBytes body, Cbor.decodeHead body with
  | .map _, some (_, _, n, rest) => some (n, rest)
  | _, _ => none

def CnCborReader.rfc8949 : CnCborReader (Nat × List UInt8) where
  decode := pairsOf
  mapgetString cb key := valueAt (2 * cb.2.length) key cb.1 cb.2

/-- The entry that is found, and what is behind its value. -/
theorem valueAt_encodePairs (fuel : Nat) (key : String) (kvs : List (Cbor × Cbor))
    (rest : List UInt8) (hfits : Cbor.AllPairs Cbor.FitsHere kvs) (hcost : Cbor.costPairs kvs ≤ fuel) :
    valueAt fuel key kvs.length (Cbor.encodePairs kvs ++ rest) =
      (kvs.dropWhile fun kv => !textKey key kv.1).head?.map fun kv =>
        Node.ofCbor (Cbor.encodePairs (kvs.dropWhile fun kv => !textKey key kv.1).tail ++ rest) kv.2 := by
  induction kvs with
  | nil => rfl
  | cons kv kvs ih =>
    obtain ⟨k, v⟩ := kv
    obtain ⟨hk, hv, hkvs⟩ := hfits
    simp only [Cbor.costPairs] at hcost
    have hkey := Cbor.decode_encode k fuel (Cbor.encode v ++ (Cbor.encodePairs kvs ++ rest)) hk
      (by omega)
    have hvalue := Cbor.decode_encode v fuel (Cbor.encodePairs kvs ++ rest) hv (by omega)
    have hbytes : Cbor.encodePairs ((k, v) :: kvs) ++ rest =
        Cbor.encode k ++ (Cbor.encode v ++ (Cbor.encodePairs kvs ++ rest)) := by
      simp only [Cbor.encodePairs, List.append_assoc]
    rw [List.length_cons, hbytes, valueAt, hkey]
    simp only [hvalue]
    cases hmatch : textKey key k with
    | true => simp [hmatch]
    | false =>
      rw [List.dropWhile_cons_of_pos (by simp [hmatch])]
      exact ih hkvs (by omega)

/-- What `send` writes behind the length. -/
def bodyOf (msg : Message) : List UInt8 := Cbor.encode (messageMap msg)

/-- The seven entries `send` puts. -/
def entriesOf (msg : Message) : List (Cbor × Cbor) := QCborValue.toMap (messageMap msg)

theorem field_bodyOf (msg : Message) (h : Sendable .rfc8949 msg) (key : String) :
    CnCborReader.rfc8949.field (bodyOf msg) key =
      ((entriesOf msg).dropWhile fun kv => !textKey key kv.1).head?.map fun kv =>
        Node.ofCbor (Cbor.encodePairs
          ((entriesOf msg).dropWhile fun kv => !textKey key kv.1).tail) kv.2 := by
  have hfits := wellFormed_fits _ (messageMap_wellFormed .rfc8949 msg h)
  have hbody : bodyOf msg = Cbor.head 5 (entriesOf msg).length ++ Cbor.encodePairs (entriesOf msg) :=
    rfl
  have hpairs : pairsOf (bodyOf msg) =
      some ((entriesOf msg).length, Cbor.encodePairs (entriesOf msg)) := by
    obtain ⟨ai, hhead⟩ := Cbor.decodeHead_head 5 (entriesOf msg).length
      (Cbor.encodePairs (entriesOf msg)) (by omega) hfits.1
    rw [pairsOf, bodyOf, Cbor.ofBytes_encode _ hfits]
    rw [← hbody, bodyOf] at hhead
    rw [hhead]
    rfl
  have hcost := Cbor.costPairs_le (entriesOf msg) hfits.2
  have hvalue := valueAt_encodePairs (2 * (Cbor.encodePairs (entriesOf msg)).length) key
    (entriesOf msg) [] hfits.2 hcost
  simp only [List.append_nil] at hvalue
  rw [← hvalue]
  show (pairsOf (bodyOf msg)).bind _ = _
  rw [hpairs]
  rfl

/-- **What `send` framed is what its body says.** -/
theorem messageOf_bodyOf (msg : Message) (h : Sendable .rfc8949 msg) :
    MessageOf .rfc8949 (bodyOf msg) msg := by
  have hpath := cString_eq msg.path h.path.2
  have hmessage := cString_eq msg.message h.message.2
  constructor
  · rw [field_bodyOf msg h]
    rfl
  · rw [field_bodyOf msg h]
    rfl
  · rw [field_bodyOf msg h]
    rfl
  · rw [field_bodyOf msg h]
    rfl
  · rw [field_bodyOf msg h]
    exact congrArg some hpath
  · rw [field_bodyOf msg h]
    exact congrArg some hmessage
  · rw [field_bodyOf msg h]
    rfl

/-- **`receive` reads no body of `send` right**: the key `message` follows the text of `path`. -/
theorem not_readRight_bodyOf (memory : Memory) (msg : Message) (h : Sendable .rfc8949 msg) :
    ¬ReadRight .rfc8949 memory (bodyOf msg) := by
  intro hright
  obtain ⟨s, after, hfield, -, hend⟩ := hright.path
  rw [field_bodyOf msg h] at hfield
  have hafter : ∃ more, after = 0x67 :: more := by
    obtain ⟨-, rfl⟩ := Node.string.inj (Option.some.inj hfield)
    exact ⟨_, rfl⟩
  obtain ⟨more, rfl⟩ := hafter
  have hzero : (0x67 : UInt8) = 0 := hend
  exact absurd hzero (by decide)

end J2534Oip.ExPipeClient
