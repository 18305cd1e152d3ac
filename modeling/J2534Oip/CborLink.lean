import J2534Oip.Lib.Cbor

/-!
# The two CBOR libraries: cn-cbor on the DLL side, Qt on the viewer side

Neither library is part of the repository.  `CborLink` is what the programs rely on:
`encoderWrite` (`cn_cbor_encoder_write`), `fromCbor` (`QCborValue::fromCbor`), and that a
well-formed tree written by the one is restored by the other.  `CborLink.rfc8949` is a
link, by the round trip of `Lib/Cbor.lean`.

`QCborValue.*` and `QCborMap.*` are the accessors the viewer uses; a missing entry reads
as `undefined`.
-/

namespace J2534Oip

/-! ## Text -/

/-- The bytes of a `std::string` or `QString` in UTF-8. -/
def utf8 (s : String) : List UInt8 := s.toByteArray.data.toList

def ValidUtf8 (b : List UInt8) : Prop := ByteArray.IsValidUTF8 ⟨b.toArray⟩

/-- `QString` of UTF-8 bytes. -/
def ofUtf8 (b : List UInt8) : String := (String.fromUTF8? ⟨b.toArray⟩).getD ""

theorem utf8_ofUtf8 (b : List UInt8) (h : ValidUtf8 b) : utf8 (ofUtf8 b) = b := by
  have hv : ByteArray.IsValidUTF8 ⟨b.toArray⟩ := h
  unfold ofUtf8 String.fromUTF8?
  rw [dif_pos hv]
  rfl

theorem validUtf8_utf8 (s : String) : ValidUtf8 (utf8 s) := s.isValidUTF8

/-- The characters a `const char*` stands for: up to the first NUL. -/
def cString (b : List UInt8) : List UInt8 := b.takeWhile (· != 0)

theorem cString_eq (b : List UInt8) (h : 0 ∉ b) : cString b = b := by
  have hne : ∀ x ∈ b, (x != 0) = true := by
    intro x hx
    rw [bne_iff_ne]
    rintro rfl
    exact h hx
  have happend := @List.takeWhile_append_of_pos _ (· != 0) b [] hne
  simpa [cString] using happend

theorem cString_append (text : String) (b : List UInt8) (h : 0 ∉ utf8 text) :
    cString (utf8 text ++ b) = utf8 text ++ cString b := by
  unfold cString
  rw [List.takeWhile_append_of_pos]
  intro x hx
  rw [bne_iff_ne]
  rintro rfl
  exact h hx

/-! ## Reading a tree as Qt does -/

namespace QCborValue

def undefined : Cbor := .simple 23

def isMap : Cbor → Bool
  | .map _ => true
  | _ => false

def toMap : Cbor → List (Cbor × Cbor)
  | .map kvs => kvs
  | _ => []

def isInteger : Cbor → Bool
  | .int _ => true
  | _ => false

/-- `qint64(double)` of the IEEE bits: towards zero. -/
def truncate (bits : Nat) : Int :=
  let exponent := bits / 2 ^ 52 % 2 ^ 11
  let mantissa := 2 ^ 52 + bits % 2 ^ 52
  let magnitude : Nat := if exponent < 1023 then 0 else mantissa * 2 ^ (exponent - 1023) / 2 ^ 52
  if bits / 2 ^ 63 % 2 = 0 then magnitude else -magnitude

-- 3.7 and -3.7
example : truncate 0x400D99999999999A = 3 ∧ truncate 0xC00D99999999999A = -3 := by decide

def toInteger (dflt : Int) : Cbor → Int
  | .int n => n
  | .double bits => truncate bits
  | _ => dflt

/-- A 32-bit field survives the 64-bit integer it travels as. -/
theorem uint32_ofInt_toNat (x : UInt32) : UInt32.ofInt (x.toNat : Int) = x := by
  have hx := x.toNat_lt
  apply UInt32.toNat_inj.1
  simp only [UInt32.ofInt, UInt32.toNat_ofNat']
  omega

def isString : Cbor → Bool
  | .text _ => true
  | _ => false

def toString : Cbor → String
  | .text s => ofUtf8 s
  | _ => ""

def isByteArray : Cbor → Bool
  | .bytes _ => true
  | _ => false

def toByteArray : Cbor → List UInt8
  | .bytes b => b
  | _ => []

def toArray : Cbor → List Cbor
  | .array xs => xs
  | _ => []

end QCborValue

namespace QCborMap

def intKey (n : Int) : Cbor → Bool
  | .int m => m == n
  | _ => false

def textKey (s : String) : Cbor → Bool
  | .text b => b == utf8 s
  | _ => false

def contains (key : Cbor → Bool) (kvs : List (Cbor × Cbor)) : Bool := kvs.any fun kv => key kv.1

def value (key : Cbor → Bool) : List (Cbor × Cbor) → Cbor
  | [] => QCborValue.undefined
  | (k, v) :: kvs => if key k then v else value key kvs

end QCborMap

/-! ## The link -/

/-- A node both libraries hold without loss: 64-bit signed integers, UTF-8 text, strings
whose length is an `int`, no more entries than a 32-bit address space has room for. -/
def WellFormedHere : Cbor → Prop
  | .int n => -2 ^ 63 ≤ n ∧ n < 2 ^ 63
  | .bytes b => b.length < 2 ^ 31
  | .text s => s.length < 2 ^ 31 ∧ ValidUtf8 s
  | .array xs => xs.length < 2 ^ 32
  | .map kvs => kvs.length < 2 ^ 32
  | _ => False

/-- Both libraries follow some levels of nesting, Qt no more than 1024. -/
def WellFormed (t : Cbor) : Prop := Cbor.All WellFormedHere t ∧ Cbor.depth t ≤ 1024

/-- A 32-bit field is held by both. -/
theorem wellFormedHere_uint32 (x : UInt32) : WellFormedHere (.int x.toNat) := by
  have hx := x.toNat_lt
  simp only [WellFormedHere]
  omega

/-- Length of the string a node holds. -/
def stringLength : Cbor → Nat
  | .bytes b => b.length
  | .text s => s.length
  | _ => 0

/-- What the DLL and the viewer rely on of cn-cbor and Qt together. -/
structure CborLink where
  /-- `cn_cbor_encoder_write` into a buffer of the size it asked for; `none` is its `-1` -/
  encoderWrite : Cbor → Option (List UInt8)
  /-- `QCborValue::fromCbor` -/
  fromCbor : List UInt8 → Cbor
  /-- a well-formed tree is written, and restored from what was written -/
  restores : ∀ t, WellFormed t → ∃ bs, encoderWrite t = some bs ∧ fromCbor bs = t
  /-- strings are written verbatim, so none is longer than the encoding -/
  verbatim : ∀ t bs, encoderWrite t = some bs → Cbor.All (fun u => stringLength u ≤ bs.length) t

/-- What was written of a well-formed tree restores it. -/
theorem CborLink.fromCbor_of_write (L : CborLink) (t : Cbor) (bs : List UInt8) (h : WellFormed t)
    (hw : L.encoderWrite t = some bs) : L.fromCbor bs = t := by
  obtain ⟨bs', hw', hr⟩ := L.restores t h
  rw [hw] at hw'
  rw [Option.some.inj hw', hr]

/-! ## RFC 8949 is a link -/

theorem wellFormed_fits (t : Cbor) (h : WellFormed t) : Cbor.Fits t := by
  refine Cbor.All.imp (fun u hu => ?_) t h.1
  cases u <;> simp only [WellFormedHere, Cbor.FitsHere] at hu ⊢ <;> omega

mutual

theorem all_stringLength_le : ∀ (t : Cbor) (n : Nat), (Cbor.encode t).length ≤ n →
    Cbor.All (fun u => stringLength u ≤ n) t
  | .int _, _, _ => Nat.zero_le _
  | .bytes b, n, h => by
    simp only [Cbor.encode, List.length_append] at h
    simp only [Cbor.All, stringLength]
    omega
  | .text s, n, h => by
    simp only [Cbor.encode, List.length_append] at h
    simp only [Cbor.All, stringLength]
    omega
  | .array xs, n, h => by
    simp only [Cbor.encode, List.length_append] at h
    exact ⟨Nat.zero_le _, allList_stringLength_le xs n (by omega)⟩
  | .map kvs, n, h => by
    simp only [Cbor.encode, List.length_append] at h
    exact ⟨Nat.zero_le _, allPairs_stringLength_le kvs n (by omega)⟩
  | .tag m v, n, h => by
    simp only [Cbor.encode, List.length_append] at h
    exact ⟨Nat.zero_le _, all_stringLength_le v n (by omega)⟩
  | .simple _, _, _ => Nat.zero_le _
  | .double _, _, _ => Nat.zero_le _
  | .invalid, _, _ => Nat.zero_le _

theorem allList_stringLength_le : ∀ (xs : List Cbor) (n : Nat), (Cbor.encodeList xs).length ≤ n →
    Cbor.AllList (fun u => stringLength u ≤ n) xs
  | [], _, _ => trivial
  | x :: xs, n, h => by
    simp only [Cbor.encodeList, List.length_append] at h
    exact ⟨all_stringLength_le x n (by omega), allList_stringLength_le xs n (by omega)⟩

theorem allPairs_stringLength_le : ∀ (kvs : List (Cbor × Cbor)) (n : Nat),
    (Cbor.encodePairs kvs).length ≤ n → Cbor.AllPairs (fun u => stringLength u ≤ n) kvs
  | [], _, _ => trivial
  | (k, v) :: kvs, n, h => by
    simp only [Cbor.encodePairs, List.length_append] at h
    exact ⟨all_stringLength_le k n (by omega), all_stringLength_le v n (by omega),
      allPairs_stringLength_le kvs n (by omega)⟩

end

/-- The definite-length encoding of RFC 8949 on both sides. -/
def CborLink.rfc8949 : CborLink where
  encoderWrite t := some (Cbor.encode t)
  fromCbor := Cbor.ofBytes
  restores t h := ⟨_, rfl, Cbor.ofBytes_encode t (wellFormed_fits t h)⟩
  verbatim t bs h := by
    obtain rfl := Option.some.inj h
    exact all_stringLength_le t _ (Nat.le_refl _)

end J2534Oip
