import J2534Oip.Wrapper.Record

/-!
# What is encoded of a record

`cn_cbor_string_create` counts a text and keeps the pointer; the bytes are copied when the record
is encoded.  Where the text was the `c_str()` of a temporary `std::string`, that is after its
memory was freed, and what is copied is what the memory holds by then.  Keys, numbers and the
texts under other keys are encoded as they were put:

    contains key (encoded temporary dead record) = contains key record    (contains_encoded)
    k ∉ temporary → value k (encoded temporary dead record) = value k record (value_encoded)
-/

namespace J2534Oip

open ExPipeClient QCborMap

/-- One of the keys. -/
def isKeyIn (keys : List Key) (k : Cbor) : Bool := keys.any fun k' => intKey (key k') k

/-- The record as it is encoded: the texts under `temporary` have their lengths, and the bytes
`dead` for each entry. -/
def encoded (temporary : List Key) : (Nat → Nat → UInt8) → List (Cbor × Cbor) → List (Cbor × Cbor)
  | _, [] => []
  | dead, (k, .text s) :: record =>
    (k, .text (if isKeyIn temporary k then (List.range s.length).map (dead 0) else s)) ::
      encoded temporary (fun i => dead (i + 1)) record
  | dead, kv :: record => kv :: encoded temporary (fun i => dead (i + 1)) record

section
variable (temporary : List Key) (dead : Nat → Nat → UInt8)

/-- One entry: its key is as it was, and so is its value under another key. -/
theorem encoded_cons (k v : Cbor) (record : List (Cbor × Cbor)) :
    ∃ v', encoded temporary dead ((k, v) :: record) =
        (k, v') :: encoded temporary (fun i => dead (i + 1)) record ∧
      (isKeyIn temporary k = false → v' = v) := by
  cases v with
  | text s =>
    refine ⟨_, rfl, fun hk => ?_⟩
    rw [hk, if_neg Bool.false_ne_true]
  | _ => exact ⟨_, rfl, fun _ => rfl⟩

/-- No key comes or goes. -/
@[simp] theorem contains_encoded (key : Cbor → Bool) (record : List (Cbor × Cbor)) :
    contains key (encoded temporary dead record) = contains key record := by
  induction record generalizing dead with
  | nil => rfl
  | cons kv record ih =>
    obtain ⟨k, v⟩ := kv
    obtain ⟨v', hcons, -⟩ := encoded_cons temporary dead k v record
    have hrest := ih fun i => dead (i + 1)
    rw [contains] at hrest ⊢
    rw [hcons, List.any_cons, hrest]
    rfl

theorem isKeyIn_int (k : Key) (h : k ∉ temporary) : isKeyIn temporary (.int (key k)) = false := by
  refine List.any_eq_false.2 fun k' hk' heq => h ?_
  have hkey : key k = key k' := Int.ofNat.inj (by simpa [intKey] using heq)
  rwa [J2534DllWrapper.key_injective hkey]

/-- What is under another key is what was put. -/
theorem value_encoded (k : Key) (h : k ∉ temporary) (record : List (Cbor × Cbor)) :
    value (intKey (key k)) (encoded temporary dead record) = value (intKey (key k)) record := by
  induction record generalizing dead with
  | nil => rfl
  | cons kv record ih =>
    obtain ⟨k', v⟩ := kv
    obtain ⟨v', hcons, hsame⟩ := encoded_cons temporary dead k' v record
    rw [hcons, value, value, ih fun i => dead (i + 1)]
    by_cases hkey : intKey (key k) k' = true
    · have hk' : k' = .int (key k) := by
        cases k' with
        | int n => simpa [intKey] using hkey
        | _ => cases hkey
      rw [hsame (by rw [hk']; exact isKeyIn_int temporary k h)]
    · rw [if_neg hkey, if_neg hkey]

end

end J2534Oip
