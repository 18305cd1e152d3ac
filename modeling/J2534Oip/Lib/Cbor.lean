import J2534Oip.Lib.Bytes

/-!
# CBOR: data items, their definite-length encoding, and the way back

`Cbor` is the tree of a data item.  `encode` writes the shortest definite-length form;
`decode` reads one item from the front of a byte string (its `Nat` bounds the recursion).
For a tree whose numbers fit their heads (`Fits`):

    cost t ≤ fuel → decode fuel (encode t ++ rest) = some (t, rest)     (decode_encode)
    ofBytes (encode t) = t                                               (ofBytes_encode)

Indefinite lengths and half or single floats are not read (`invalid`).
-/

/-- A CBOR data item.  `text` holds the UTF-8 bytes, `double` the IEEE bits; `invalid`
is what a failed decode gives. -/
inductive Cbor where
  | int (n : Int)
  | bytes (b : List UInt8)
  | text (s : List UInt8)
  | array (xs : List Cbor)
  | map (kvs : List (Cbor × Cbor))
  | tag (n : Nat) (v : Cbor)
  | simple (n : Nat)
  | double (bits : Nat)
  | invalid
deriving Inhabited

namespace Cbor

open Bytes

/-! ## Encoding -/

/-- Initial byte and argument of major type `mt`. -/
def head (mt n : Nat) : List UInt8 :=
  if n < 24 then [UInt8.ofNat (mt * 32 + n)]
  else if n < 2 ^ 8 then UInt8.ofNat (mt * 32 + 24) :: beBytes 1 n
  else if n < 2 ^ 16 then UInt8.ofNat (mt * 32 + 25) :: beBytes 2 n
  else if n < 2 ^ 32 then UInt8.ofNat (mt * 32 + 26) :: beBytes 4 n
  else UInt8.ofNat (mt * 32 + 27) :: beBytes 8 n

mutual

def encode : Cbor → List UInt8
  | .int n => if 0 ≤ n then head 0 n.toNat else head 1 (-1 - n).toNat
  | .bytes b => head 2 b.length ++ b
  | .text s => head 3 s.length ++ s
  | .array xs => head 4 xs.length ++ encodeList xs
  | .map kvs => head 5 kvs.length ++ encodePairs kvs
  | .tag n v => head 6 n ++ encode v
  | .simple n => [UInt8.ofNat (7 * 32 + n)]
  | .double bits => UInt8.ofNat (7 * 32 + 27) :: beBytes 8 bits
  | .invalid => []

def encodeList : List Cbor → List UInt8
  | [] => []
  | x :: xs => encode x ++ encodeList xs

def encodePairs : List (Cbor × Cbor) → List UInt8
  | [] => []
  | (k, v) :: kvs => encode k ++ encode v ++ encodePairs kvs

end

/-! ## Decoding -/

/-- Major type, additional information and argument at the front. -/
def decodeHead : List UInt8 → Option (Nat × Nat × Nat × List UInt8)
  | [] => none
  | b :: bs =>
    let mt := b.toNat / 32
    let ai := b.toNat % 32
    let arg := fun k => if k ≤ bs.length then some (mt, ai, ofBE (bs.take k), bs.drop k) else none
    if ai < 24 then some (mt, ai, ai, bs)
    else if ai = 24 then arg 1
    else if ai = 25 then arg 2
    else if ai = 26 then arg 4
    else if ai = 27 then arg 8
    else none

mutual

def decode : Nat → List UInt8 → Option (Cbor × List UInt8)
  | 0, _ => none
  | fuel + 1, bs =>
    match decodeHead bs with
    | none => none
    | some (mt, ai, n, rest) =>
      if mt = 0 then some (.int n, rest)
      else if mt = 1 then some (.int (-1 - n), rest)
      else if mt = 2 then if n ≤ rest.length then some (.bytes (rest.take n), rest.drop n) else none
      else if mt = 3 then if n ≤ rest.length then some (.text (rest.take n), rest.drop n) else none
      else if mt = 4 then
        match decodeList fuel n rest with
        | some (xs, rest) => some (.array xs, rest)
        | none => none
      else if mt = 5 then
        match decodePairs fuel n rest with
        | some (kvs, rest) => some (.map kvs, rest)
        | none => none
      else if mt = 6 then
        match decode fuel rest with
        | some (v, rest) => some (.tag n v, rest)
        | none => none
      else if ai < 24 then some (.simple n, rest)
      else if ai = 27 then some (.double n, rest)
      else none

def decodeList : Nat → Nat → List UInt8 → Option (List Cbor × List UInt8)
  | _, 0, bs => some ([], bs)
  | 0, _ + 1, _ => none
  | fuel + 1, n + 1, bs =>
    match decode fuel bs with
    | none => none
    | some (x, rest) =>
      match decodeList fuel n rest with
      | some (xs, rest) => some (x :: xs, rest)
      | none => none

def decodePairs : Nat → Nat → List UInt8 → Option (List (Cbor × Cbor) × List UInt8)
  | _, 0, bs => some ([], bs)
  | 0, _ + 1, _ => none
  | fuel + 1, n + 1, bs =>
    match decode fuel bs with
    | none => none
    | some (k, rest) =>
      match decode fuel rest with
      | none => none
      | some (v, rest) =>
        match decodePairs fuel n rest with
        | some (kvs, rest) => some ((k, v) :: kvs, rest)
        | none => none

end

/-- The single item that is all of `bs`. -/
def ofBytes (bs : List UInt8) : Cbor :=
  match decode (2 * bs.length + 1) bs with
  | some (t, []) => t
  | _ => .invalid

/-! ## Conditions on every node of a tree -/

mutual

/-- `p` holds of the tree and of every tree inside it. -/
def All (p : Cbor → Prop) : Cbor → Prop
  | .array xs => p (.array xs) ∧ AllList p xs
  | .map kvs => p (.map kvs) ∧ AllPairs p kvs
  | .tag n v => p (.tag n v) ∧ All p v
  | .int n => p (.int n)
  | .bytes b => p (.bytes b)
  | .text s => p (.text s)
  | .simple n => p (.simple n)
  | .double bits => p (.double bits)
  | .invalid => p .invalid

def AllList (p : Cbor → Prop) : List Cbor → Prop
  | [] => True
  | x :: xs => All p x ∧ AllList p xs

def AllPairs (p : Cbor → Prop) : List (Cbor × Cbor) → Prop
  | [] => True
  | (k, v) :: kvs => All p k ∧ All p v ∧ AllPairs p kvs

end

theorem allList_iff (p : Cbor → Prop) (xs : List Cbor) : AllList p xs ↔ ∀ x ∈ xs, All p x := by
  induction xs with
  | nil => simp [AllList]
  | cons x xs ih => simp [AllList, ih]

mutual

theorem All.imp {p q : Cbor → Prop} (h : ∀ t, p t → q t) : ∀ t, All p t → All q t
  | .array xs, hp => ⟨h _ hp.1, AllList.imp h xs hp.2⟩
  | .map kvs, hp => ⟨h _ hp.1, AllPairs.imp h kvs hp.2⟩
  | .tag _ v, hp => ⟨h _ hp.1, All.imp h v hp.2⟩
  | .int _, hp => h _ hp
  | .bytes _, hp => h _ hp
  | .text _, hp => h _ hp
  | .simple _, hp => h _ hp
  | .double _, hp => h _ hp
  | .invalid, hp => h _ hp

theorem AllList.imp {p q : Cbor → Prop} (h : ∀ t, p t → q t) : ∀ xs, AllList p xs → AllList q xs
  | [], _ => trivial
  | x :: xs, hp => ⟨All.imp h x hp.1, AllList.imp h xs hp.2⟩

theorem AllPairs.imp {p q : Cbor → Prop} (h : ∀ t, p t → q t) :
    ∀ kvs, AllPairs p kvs → AllPairs q kvs
  | [], _ => trivial
  | (k, v) :: kvs, hp => ⟨All.imp h k hp.1, All.imp h v hp.2.1, AllPairs.imp h kvs hp.2.2⟩

end

mutual

/-- Levels of nesting. -/
def depth : Cbor → Nat
  | .array xs => depthList xs + 1
  | .map kvs => depthPairs kvs + 1
  | .tag _ v => depth v + 1
  | .int _ => 0
  | .bytes _ => 0
  | .text _ => 0
  | .simple _ => 0
  | .double _ => 0
  | .invalid => 0

def depthList : List Cbor → Nat
  | [] => 0
  | x :: xs => max (depth x) (depthList xs)

def depthPairs : List (Cbor × Cbor) → Nat
  | [] => 0
  | (k, v) :: kvs => max (max (depth k) (depth v)) (depthPairs kvs)

end

theorem depthList_le (xs : List Cbor) (n : Nat) (h : ∀ x ∈ xs, depth x ≤ n) : depthList xs ≤ n := by
  induction xs with
  | nil => exact Nat.zero_le n
  | cons x xs ih =>
    have hx := h x List.mem_cons_self
    have hxs := ih fun y hy => h y (List.mem_cons_of_mem x hy)
    simp only [depthList]
    omega

/-- The number a node writes in its head fits there. -/
def FitsHere : Cbor → Prop
  | .int n => -2 ^ 64 ≤ n ∧ n < 2 ^ 64
  | .bytes b => b.length < 2 ^ 64
  | .text s => s.length < 2 ^ 64
  | .array xs => xs.length < 2 ^ 64
  | .map kvs => kvs.length < 2 ^ 64
  | .tag n _ => n < 2 ^ 64
  | .simple n => n < 24
  | .double bits => bits < 2 ^ 64
  | .invalid => False

def Fits (t : Cbor) : Prop := All FitsHere t

/-! Both can be computed. -/

mutual

/-- A condition that is decidable on each node is decidable on the tree. -/
def decidableAll (p : Cbor → Prop) [DecidablePred p] : ∀ t, Decidable (All p t)
  | .array xs => @instDecidableAnd _ _ _ (decidableAllList p xs)
  | .map kvs => @instDecidableAnd _ _ _ (decidableAllPairs p kvs)
  | .tag _ v => @instDecidableAnd _ _ _ (decidableAll p v)
  | .int n => inferInstanceAs (Decidable (p (.int n)))
  | .bytes b => inferInstanceAs (Decidable (p (.bytes b)))
  | .text s => inferInstanceAs (Decidable (p (.text s)))
  | .simple n => inferInstanceAs (Decidable (p (.simple n)))
  | .double bits => inferInstanceAs (Decidable (p (.double bits)))
  | .invalid => inferInstanceAs (Decidable (p .invalid))

def decidableAllList (p : Cbor → Prop) [DecidablePred p] : ∀ xs, Decidable (AllList p xs)
  | [] => instDecidableTrue
  | x :: xs => @instDecidableAnd _ _ (decidableAll p x) (decidableAllList p xs)

def decidableAllPairs (p : Cbor → Prop) [DecidablePred p] : ∀ kvs, Decidable (AllPairs p kvs)
  | [] => instDecidableTrue
  | (k, v) :: kvs =>
    @instDecidableAnd _ _ (decidableAll p k)
      (@instDecidableAnd _ _ (decidableAll p v) (decidableAllPairs p kvs))

end

instance (t : Cbor) : Decidable (FitsHere t) :=
  match t with
  | .int n => inferInstanceAs (Decidable (-2 ^ 64 ≤ n ∧ n < 2 ^ 64))
  | .bytes b => inferInstanceAs (Decidable (b.length < 2 ^ 64))
  | .text s => inferInstanceAs (Decidable (s.length < 2 ^ 64))
  | .array xs => inferInstanceAs (Decidable (xs.length < 2 ^ 64))
  | .map kvs => inferInstanceAs (Decidable (kvs.length < 2 ^ 64))
  | .tag n _ => inferInstanceAs (Decidable (n < 2 ^ 64))
  | .simple n => inferInstanceAs (Decidable (n < 24))
  | .double bits => inferInstanceAs (Decidable (bits < 2 ^ 64))
  | .invalid => instDecidableFalse

instance (t : Cbor) : Decidable (Fits t) := decidableAll FitsHere t

/-! ## Round trip -/

mutual

/-- Recursion depth `decode` needs for the encoding of the tree. -/
def cost : Cbor → Nat
  | .array xs => costList xs + 1
  | .map kvs => costPairs kvs + 1
  | .tag _ v => cost v + 1
  | .int _ => 1
  | .bytes _ => 1
  | .text _ => 1
  | .simple _ => 1
  | .double _ => 1
  | .invalid => 1

def costList : List Cbor → Nat
  | [] => 0
  | x :: xs => max (cost x) (costList xs) + 1

def costPairs : List (Cbor × Cbor) → Nat
  | [] => 0
  | (k, v) :: kvs => max (max (cost k) (cost v)) (costPairs kvs) + 1

end

/-- The initial byte splits into major type and additional information. -/
theorem initialByte (mt ai : Nat) (hmt : mt < 8) (hai : ai < 32) :
    (UInt8.ofNat (mt * 32 + ai)).toNat / 32 = mt ∧ (UInt8.ofNat (mt * 32 + ai)).toNat % 32 = ai := by
  rw [UInt8.toNat_ofNat']
  omega

/-- An argument of `k` bytes behind an initial byte of additional information `ai`. -/
theorem decodeHead_arg (mt ai k n : Nat) (rest : List UInt8) (hmt : mt < 8)
    (hk : ai = 24 ∧ k = 1 ∨ ai = 25 ∧ k = 2 ∨ ai = 26 ∧ k = 4 ∨ ai = 27 ∧ k = 8) (hn : n < 256 ^ k) :
    decodeHead (UInt8.ofNat (mt * 32 + ai) :: beBytes k n ++ rest) = some (mt, ai, n, rest) := by
  obtain ⟨hdiv, hmod⟩ := initialByte mt ai hmt (by omega)
  have hlen : k ≤ (beBytes k n ++ rest).length := by simp
  have htake : (beBytes k n ++ rest).take k = beBytes k n :=
    List.take_left' (length_beBytes k n)
  have hdrop : (beBytes k n ++ rest).drop k = rest := List.drop_left' (length_beBytes k n)
  have hval : ofBE (beBytes k n) = n := by rw [ofBE_beBytes, Nat.mod_eq_of_lt hn]
  simp only [List.cons_append, decodeHead, hdiv, hmod]
  rcases hk with ⟨rfl, rfl⟩ | ⟨rfl, rfl⟩ | ⟨rfl, rfl⟩ | ⟨rfl, rfl⟩ <;>
    simp only [htake, hdrop, hval, if_pos hlen] <;> rfl

theorem decodeHead_head (mt n : Nat) (rest : List UInt8) (hmt : mt < 8) (hn : n < 2 ^ 64) :
    ∃ ai, decodeHead (head mt n ++ rest) = some (mt, ai, n, rest) := by
  unfold head
  split
  · next h =>
    obtain ⟨hdiv, hmod⟩ := initialByte mt n hmt (by omega)
    exact ⟨n, by simp only [List.singleton_append, decodeHead, hdiv, hmod, if_pos h]⟩
  · split
    · exact ⟨24, decodeHead_arg mt 24 1 n rest hmt (by omega) (by omega)⟩
    · split
      · exact ⟨25, decodeHead_arg mt 25 2 n rest hmt (by omega) (by omega)⟩
      · split
        · exact ⟨26, decodeHead_arg mt 26 4 n rest hmt (by omega) (by omega)⟩
        · exact ⟨27, decodeHead_arg mt 27 8 n rest hmt (by omega) (by omega)⟩

theorem length_head_pos (mt n : Nat) : 0 < (head mt n).length := by
  unfold head
  split
  · simp
  · split
    · simp
    · split
      · simp
      · split <;> simp

mutual

/-- **Round trip.**  Reading an encoding gives the tree back and leaves what follows. -/
theorem decode_encode : ∀ (t : Cbor) (fuel : Nat) (rest : List UInt8), Fits t → cost t ≤ fuel →
    decode fuel (encode t ++ rest) = some (t, rest)
  | .int n, fuel + 1, rest, h, _ => by
    obtain ⟨hlo, hhi⟩ : -2 ^ 64 ≤ n ∧ n < 2 ^ 64 := h
    unfold encode
    split
    · next h0 =>
      obtain ⟨ai, hd⟩ := decodeHead_head 0 n.toNat rest (by omega) (by omega)
      simp only [decode, hd, if_true, Int.toNat_of_nonneg h0]
    · next h0 =>
      obtain ⟨ai, hd⟩ := decodeHead_head 1 (-1 - n).toNat rest (by omega) (by omega)
      have hback : -1 - ((-1 - n).toNat : Int) = n := by omega
      simp only [decode, hd, hback, Nat.one_ne_zero, if_false, if_true]
  | .bytes b, fuel + 1, rest, h, _ => by
    obtain ⟨ai, hd⟩ := decodeHead_head 2 b.length (b ++ rest) (by omega) h
    simp [encode, decode, hd]
  | .text s, fuel + 1, rest, h, _ => by
    obtain ⟨ai, hd⟩ := decodeHead_head 3 s.length (s ++ rest) (by omega) h
    simp [encode, decode, hd]
  | .array xs, fuel + 1, rest, h, hc => by
    obtain ⟨ai, hd⟩ := decodeHead_head 4 xs.length (encodeList xs ++ rest) (by omega) h.1
    have hxs := decodeList_encodeList xs fuel rest h.2 (by simp only [cost] at hc; omega)
    simp [encode, decode, hd, hxs]
  | .map kvs, fuel + 1, rest, h, hc => by
    obtain ⟨ai, hd⟩ := decodeHead_head 5 kvs.length (encodePairs kvs ++ rest) (by omega) h.1
    have hkvs := decodePairs_encodePairs kvs fuel rest h.2 (by simp only [cost] at hc; omega)
    simp [encode, decode, hd, hkvs]
  | .tag n v, fuel + 1, rest, h, hc => by
    obtain ⟨ai, hd⟩ := decodeHead_head 6 n (encode v ++ rest) (by omega) h.1
    have hv := decode_encode v fuel rest h.2 (by simp only [cost] at hc; omega)
    simp [encode, decode, hd, hv]
  | .simple n, fuel + 1, rest, h, _ => by
    have hn : n < 24 := h
    obtain ⟨hdiv, hmod⟩ := initialByte 7 n (by omega) (by omega)
    have hd : decodeHead (encode (.simple n) ++ rest) = some (7, n, n, rest) := by
      simp only [encode, List.singleton_append, decodeHead, hdiv, hmod, if_pos hn]
    simp [decode, hd, hn]
  | .double bits, fuel + 1, rest, h, _ => by
    have hbits : bits < 2 ^ 64 := h
    have hd : decodeHead (encode (.double bits) ++ rest) = some (7, 27, bits, rest) :=
      decodeHead_arg 7 27 8 bits rest (by omega) (by omega) (by omega)
    simp [decode, hd]
  | .invalid, _, _, h, _ => absurd h (by simp [Fits, All, FitsHere])
  | .int _, 0, _, _, hc => by simp [cost] at hc
  | .bytes _, 0, _, _, hc => by simp [cost] at hc
  | .text _, 0, _, _, hc => by simp [cost] at hc
  | .array _, 0, _, _, hc => by simp [cost] at hc
  | .map _, 0, _, _, hc => by simp [cost] at hc
  | .tag _ _, 0, _, _, hc => by simp [cost] at hc
  | .simple _, 0, _, _, hc => by simp [cost] at hc
  | .double _, 0, _, _, hc => by simp [cost] at hc

theorem decodeList_encodeList : ∀ (xs : List Cbor) (fuel : Nat) (rest : List UInt8),
    AllList FitsHere xs → costList xs ≤ fuel →
    decodeList fuel xs.length (encodeList xs ++ rest) = some (xs, rest)
  | [], fuel, rest, _, _ => by cases fuel <;> simp [decodeList, encodeList]
  | x :: xs, 0, _, _, hc => by simp [costList] at hc
  | x :: xs, fuel + 1, rest, h, hc => by
    simp only [costList] at hc
    have hx := decode_encode x fuel (encodeList xs ++ rest) h.1 (by omega)
    have hxs := decodeList_encodeList xs fuel rest h.2 (by omega)
    simp [encodeList, decodeList, hx, hxs]

theorem decodePairs_encodePairs : ∀ (kvs : List (Cbor × Cbor)) (fuel : Nat) (rest : List UInt8),
    AllPairs FitsHere kvs → costPairs kvs ≤ fuel →
    decodePairs fuel kvs.length (encodePairs kvs ++ rest) = some (kvs, rest)
  | [], fuel, rest, _, _ => by cases fuel <;> simp [decodePairs, encodePairs]
  | (k, v) :: kvs, 0, _, _, hc => by simp [costPairs] at hc
  | (k, v) :: kvs, fuel + 1, rest, h, hc => by
    simp only [costPairs] at hc
    have hk := decode_encode k fuel (encode v ++ (encodePairs kvs ++ rest)) h.1 (by omega)
    have hv := decode_encode v fuel (encodePairs kvs ++ rest) h.2.1 (by omega)
    have hkvs := decodePairs_encodePairs kvs fuel rest h.2.2 (by omega)
    simp [encodePairs, decodePairs, hk, hv, hkvs]

end

mutual

/-- Every node writes at least its initial byte, so the length bounds the recursion. -/
theorem cost_le : ∀ t : Cbor, Fits t → cost t + 1 ≤ 2 * (encode t).length
  | .int n, _ => by
    have h0 := length_head_pos 0 n.toNat
    have h1 := length_head_pos 1 (-1 - n).toNat
    unfold encode cost
    split <;> omega
  | .bytes b, _ => by
    have := length_head_pos 2 b.length
    simp only [encode, cost, List.length_append]
    omega
  | .text s, _ => by
    have := length_head_pos 3 s.length
    simp only [encode, cost, List.length_append]
    omega
  | .array xs, h => by
    have := length_head_pos 4 xs.length
    have := costList_le xs h.2
    simp only [encode, cost, List.length_append]
    omega
  | .map kvs, h => by
    have := length_head_pos 5 kvs.length
    have := costPairs_le kvs h.2
    simp only [encode, cost, List.length_append]
    omega
  | .tag n v, h => by
    have := length_head_pos 6 n
    have := cost_le v h.2
    simp only [encode, cost, List.length_append]
    omega
  | .simple n, _ => by simp [encode, cost]
  | .double bits, _ => by simp [encode, cost]
  | .invalid, h => absurd h (by simp [Fits, All, FitsHere])

theorem costList_le : ∀ xs : List Cbor, AllList FitsHere xs →
    costList xs ≤ 2 * (encodeList xs).length
  | [], _ => by simp [costList, encodeList]
  | x :: xs, h => by
    have := cost_le x h.1
    have := costList_le xs h.2
    simp only [costList, encodeList, List.length_append]
    omega

theorem costPairs_le : ∀ kvs : List (Cbor × Cbor), AllPairs FitsHere kvs →
    costPairs kvs ≤ 2 * (encodePairs kvs).length
  | [], _ => by simp [costPairs, encodePairs]
  | (k, v) :: kvs, h => by
    have := cost_le k h.1
    have := cost_le v h.2.1
    have := costPairs_le kvs h.2.2
    simp only [costPairs, encodePairs, List.length_append]
    omega

end

/-- The encoding of a tree, read as the whole input, is the tree. -/
theorem ofBytes_encode (t : Cbor) (h : Fits t) : ofBytes (encode t) = t := by
  have hcost := cost_le t h
  have hd := decode_encode t (2 * (encode t).length + 1) [] h (by omega)
  rw [List.append_nil] at hd
  simp only [ofBytes, hd]

example : ofBytes [0xA1, 0x01, 0x83, 0x18, 0x64, 0x20, 0x41, 0xFF] =
    .map [(.int 1, .array [.int 100, .int (-1), .bytes [255]])] := by rfl

end Cbor
