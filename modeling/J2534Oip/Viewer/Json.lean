import J2534Oip.CborLink

/-!
# JSON, between CBOR and a file

The viewer keeps a log as a JSON file, and Qt converts: `toJsonValue` and `fromJsonValue`
between CBOR and JSON, `QJsonDocument` between JSON and the file, `toCbor` back to bytes.
`JsonLink` is what the viewer relies on: a document keeps its order, its strings and its
integers below 2^53, and a value that comes from JSON has text for keys.  Such a value
has nothing under an integer key (`JsonLink.value_intKey`).

`JsonLink.documented` is a link over RFC 8949.
-/

namespace J2534Oip

open QCborValue QCborMap

/-! ## Values -/

/-- `QJsonValue`; `double` holds the IEEE bits, an object has each key once. -/
inductive Json where
  | undefined
  | null
  | bool (b : Bool)
  | int (n : Int)
  | double (bits : Nat)
  | string (s : String)
  | array (xs : List Json)
  | object (kvs : List (String × Json))

namespace Json

def toInteger : Json → Int
  | .int n => n
  | .double bits => truncate bits
  | _ => 0

def toString : Json → String
  | .string s => s
  | _ => ""

def toArray : Json → List Json
  | .array xs => xs
  | _ => []

def toObject : Json → List (String × Json)
  | .object kvs => kvs
  | _ => []

def value (key : String) : List (String × Json) → Json
  | [] => .undefined
  | (k, v) :: kvs => if k = key then v else value key kvs

end Json

/-! ## The link -/

/-- What the viewer relies on of Qt's JSON, on top of its CBOR. -/
structure JsonLink (L : CborLink) where
  /-- `QCborValue::toJsonValue` -/
  toJsonValue : Cbor → Json
  /-- `QJsonDocument::toJson` into the file and `QJsonDocument::fromJson` of what it holds -/
  stored : Json → Json
  /-- `QCborValue::fromJsonValue` -/
  fromJsonValue : Json → Cbor
  /-- `QCborValue::toCbor` -/
  toCbor : Cbor → List UInt8
  stored_array : ∀ xs, stored (.array xs) = .array (xs.map stored)
  stored_value : ∀ kvs key, key ∈ kvs.map Prod.fst →
    Json.value key (Json.toObject (stored (.object kvs))) = stored (Json.value key kvs)
  stored_int : ∀ n : Int, -2 ^ 53 < n → n < 2 ^ 53 → stored (.int n) = .int n
  stored_string : ∀ s, stored (.string s) = .string s
  /-- the keys of an object are strings, and stay strings -/
  textKeys : ∀ j, ∀ kv ∈ toMap (fromJsonValue j), isString kv.1 = true
  /-- Qt reads back what it wrote of a value that came from JSON -/
  restores : ∀ j, L.fromCbor (toCbor (fromJsonValue j)) = fromJsonValue j

namespace JsonLink

theorem value_eq_undefined (key : Cbor → Bool) (kvs : List (Cbor × Cbor))
    (h : ∀ kv ∈ kvs, key kv.1 = false) : QCborMap.value key kvs = undefined := by
  induction kvs with
  | nil => rfl
  | cons kv kvs ih =>
    have hkv := h kv List.mem_cons_self
    have hrest := ih fun kv' hkv' => h kv' (List.mem_cons_of_mem kv hkv')
    simp only [QCborMap.value, hkv, hrest, Bool.false_eq_true, if_false]

/-- A map that was JSON has nothing under an integer key. -/
theorem value_intKey {L : CborLink} (J : JsonLink L) (j : Json) (n : Int) :
    QCborMap.value (intKey n) (toMap (L.fromCbor (J.toCbor (J.fromJsonValue j)))) = undefined := by
  rw [J.restores]
  apply value_eq_undefined
  rintro ⟨k, v⟩ hkv
  have htext := J.textKeys j _ hkv
  cases k <;> simp_all [isString, intKey]

/-! ## The conversions Qt documents -/

/-- The alphabet of base64url. -/
def base64urlChar (n : Nat) : Char :=
  if n < 26 then Char.ofNat (65 + n)
  else if n < 52 then Char.ofNat (97 + (n - 26))
  else if n < 62 then Char.ofNat (48 + (n - 52))
  else if n = 62 then '-'
  else '_'

/-- `QByteArray::toBase64(Base64UrlEncoding | OmitTrailingEquals)` -/
def base64url : List UInt8 → List Char
  | [] => []
  | [a] => [base64urlChar (a.toNat / 4), base64urlChar (a.toNat % 4 * 16)]
  | [a, b] =>
    [base64urlChar (a.toNat / 4), base64urlChar (a.toNat % 4 * 16 + b.toNat / 16),
      base64urlChar (b.toNat % 16 * 4)]
  | a :: b :: c :: bs =>
    base64urlChar (a.toNat / 4) :: base64urlChar (a.toNat % 4 * 16 + b.toNat / 16) ::
      base64urlChar (b.toNat % 16 * 4 + c.toNat / 64) :: base64urlChar (c.toNat % 64) ::
      base64url bs

example : base64url [0xFB, 0xFF, 0x00, 0x01] = "-_8AAQ".toList := by decide

/-- A key as a string: a number in decimal, bytes in base64url. -/
def keyText : Cbor → String
  | .int n => n.repr
  | .text s => ofUtf8 s
  | .bytes b => String.ofList (base64url b)
  | _ => ""

mutual

/-- Containers and strings as what they are, bytes as base64url, tags dropped. -/
def ofCbor : Cbor → Json
  | .int n => .int n
  | .bytes b => .string (String.ofList (base64url b))
  | .text s => .string (ofUtf8 s)
  | .array xs => .array (ofCborList xs)
  | .map kvs => .object (ofCborPairs kvs)
  | .tag _ v => ofCbor v
  | .simple 20 => .bool false
  | .simple 21 => .bool true
  | .simple _ => .null
  | .double bits => if bits / 2 ^ 52 % 2 ^ 11 = 2047 then .null else .double bits
  | .invalid => .undefined

def ofCborList : List Cbor → List Json
  | [] => []
  | x :: xs => ofCbor x :: ofCborList xs

def ofCborPairs : List (Cbor × Cbor) → List (String × Json)
  | [] => []
  | (k, v) :: kvs => (keyText k, ofCbor v) :: ofCborPairs kvs

end

mutual

def toTree : Json → Cbor
  | .undefined => .simple 23
  | .null => .simple 22
  | .bool b => .simple (if b then 21 else 20)
  | .int n => .int n
  | .double bits => .double bits
  | .string s => .text (utf8 s)
  | .array xs => .array (toTreeList xs)
  | .object kvs => .map (toTreePairs kvs)

def toTreeList : List Json → List Cbor
  | [] => []
  | x :: xs => toTree x :: toTreeList xs

def toTreePairs : List (String × Json) → List (Cbor × Cbor)
  | [] => []
  | (k, v) :: kvs => (.text (utf8 k), toTree v) :: toTreePairs kvs

end

theorem isString_of_mem_toTreePairs (kvs : List (String × Json)) :
    ∀ kv ∈ toTreePairs kvs, isString kv.1 = true := by
  induction kvs with
  | nil => intro kv h; cases h
  | cons kv kvs ih =>
    intro kv' h
    rcases List.mem_cons.1 h with rfl | h
    · rfl
    · exact ih kv' h

theorem isString_of_mem_toTree (j : Json) : ∀ kv ∈ toMap (toTree j), isString kv.1 = true := by
  cases j with
  | object kvs => exact isString_of_mem_toTreePairs kvs
  | _ => intro kv h; cases h

/-- Qt's conversions over the encoding of RFC 8949; what no 64-bit size counts is not read. -/
def documented : JsonLink .rfc8949 where
  toJsonValue := ofCbor
  stored j := j
  fromJsonValue j := if Cbor.Fits (toTree j) then toTree j else undefined
  toCbor := Cbor.encode
  stored_array xs := by simp
  stored_value _ _ _ := rfl
  stored_int _ _ _ := rfl
  stored_string _ := rfl
  textKeys j := by
    split
    · exact isString_of_mem_toTree j
    · intro kv h
      cases h
  restores j := by
    show Cbor.ofBytes (Cbor.encode _) = _
    split
    · next h => exact Cbor.ofBytes_encode _ h
    · rfl

end JsonLink

end J2534Oip
