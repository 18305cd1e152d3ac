import J2534Oip.Cannelloni.DeviceInfo
import J2534Oip.Lib.Stores
import J2534Oip.Wrapper.Forward

/-!
# The memory of a program

A program gives a backend buffers of its own memory: numbers, texts, messages, lists of
parameters.  What is stored there as bytes is read back as what it was:

    Holds nextAddr m a (msgs.flatMap msgBytes) → m.msgs a msgs.length = msgs      (msgs_of_holds)
-/

namespace J2534Oip

open Bytes Stores

/-! ## What is written -/

def nextAddr (a : UInt32) : UInt32 := a + 1

abbrev MemWrite := Write UInt32 UInt8

/-- An `unsigned long`. -/
def writeLong (a n : UInt32) : MemWrite := ⟨a, leBytes 4 n.toNat⟩

/-- `sprintf` of a text. -/
def writeString (a : UInt32) (s : String) : MemWrite := ⟨a, utf8 s ++ [0]⟩

/-- `memset` to zero. -/
def writeZeros (a : UInt32) (n : Nat) : MemWrite := ⟨a, List.replicate n 0⟩

/-- A text in an array of 80 characters, filled up with zeros. -/
def writeText (a : UInt32) (text : List UInt8) : MemWrite :=
  ⟨a, text ++ List.replicate (80 - text.length) 0⟩

def writeVersion (a : UInt32) (s : String) : MemWrite := writeText a (utf8 s)

/-- The 4152 bytes of a `PASSTHRU_MSG`. -/
def msgBytes (msg : PassthruMsg) : List UInt8 :=
  leBytes 4 msg.protocolID.toNat ++ leBytes 4 msg.rxStatus.toNat ++ leBytes 4 msg.txFlags.toNat ++
    leBytes 4 msg.timestamp.toNat ++ leBytes 4 msg.dataSize.toNat ++
    leBytes 4 msg.extraDataIndex.toNat ++ msg.bytes 0 4128

/-! ## Addresses -/

theorem iterate_nextAddr (a : UInt32) (k : Nat) : nextAddr^[k] a = a + UInt32.ofNat k := by
  induction k with
  | zero => simp
  | succ k ih =>
    rw [Function.iterate_succ_apply', ih, nextAddr, UInt32.ofNat_add, UInt32.add_assoc]
    rfl

theorem region_iff (a : UInt32) (n : Nat) (x : UInt32) :
    Region nextAddr a n x ↔ ∃ k < n, x = a + UInt32.ofNat k := by
  unfold Region
  simp only [iterate_nextAddr]

/-- Addresses do not come round before the memory ends. -/
theorem distinct_nextAddr (a : UInt32) (n : Nat) (hn : n ≤ 2 ^ 32) : Distinct nextAddr a n := by
  intro j hj k hk heq
  rw [iterate_nextAddr, iterate_nextAddr, UInt32.add_right_inj, ← UInt32.toNat_inj,
    UInt32.toNat_ofNat', UInt32.toNat_ofNat'] at heq
  omega

theorem length_msgBytes (msg : PassthruMsg) : (msgBytes msg).length = 4152 := by
  simp [msgBytes]

@[simp] theorem length_writeLong (a n : UInt32) : (writeLong a n).data.length = 4 := by
  simp [writeLong]

/-- A write of at most `n` bytes from `a` on. -/
theorem covers_region {w : MemWrite} {x : UInt32} (n : Nat) (h : w.Covers nextAddr x)
    (hlen : w.data.length ≤ n) : Region nextAddr w.addr n x := h.mono hlen

theorem writeText_within {a x : UInt32} {text : List UInt8} (htext : text.length ≤ 80)
    (h : (writeText a text).Covers nextAddr x) : Region nextAddr a 80 x := by
  refine covers_region 80 h ?_
  simp only [writeText, List.length_append, List.length_replicate]
  omega

theorem writeString_within {a x : UInt32} {s : String} (n : Nat) (hs : (utf8 s).length < n)
    (h : (writeString a s).Covers nextAddr x) : Region nextAddr a n x := by
  refine covers_region n h ?_
  simp only [writeString, List.length_append, List.length_singleton]
  omega

/-! ## Numbers in memory -/

theorem long_eq_load (m : Memory) (a : UInt32) :
    m.long a = UInt32.ofNat (ofLE (load nextAddr m a 4)) := by
  have htwo : nextAddr (nextAddr a) = a + 2 := by
    unfold nextAddr
    rw [UInt32.add_assoc]
    rfl
  have hthree : nextAddr (nextAddr (nextAddr a)) = a + 3 := by
    rw [htwo, nextAddr, UInt32.add_assoc]
    rfl
  show _ = UInt32.ofNat (ofLE [m a, m (nextAddr a), m (nextAddr (nextAddr a)),
    m (nextAddr (nextAddr (nextAddr a)))])
  rw [hthree, htwo]
  rfl

theorem holds_append_nextAddr {m : Memory} {a : UInt32} {xs ys : List UInt8} :
    Holds nextAddr m a (xs ++ ys) ↔
      Holds nextAddr m a xs ∧ Holds nextAddr m (a + UInt32.ofNat xs.length) ys := by
  rw [holds_append, iterate_nextAddr]

theorem long_of_holds {m : Memory} {a n : UInt32} (h : Holds nextAddr m a (leBytes 4 n.toNat)) :
    m.long a = n := by
  have hlt : n.toNat < 256 ^ 4 := n.toNat_lt
  unfold Holds at h
  rw [length_leBytes] at h
  rw [long_eq_load, h, ofLE_leBytes, Nat.mod_eq_of_lt hlt, UInt32.ofNat_toNat]

def storeLong (m : Memory) (a n : UInt32) : Memory := put nextAddr m a (leBytes 4 n.toNat)

/-- A number that was written is read back. -/
theorem long_storeLong (m : Memory) (a n : UInt32) : (storeLong m a n).long a = n :=
  long_of_holds (load_put m a (leBytes 4 n.toNat)
    (distinct_nextAddr a _ (by rw [length_leBytes]; decide)))

theorem long_congr (m m' : Memory) (a : UInt32) (h : ∀ x, Region nextAddr a 4 x → m' x = m x) :
    m'.long a = m.long a := by
  rw [long_eq_load, long_eq_load, load_congr m m' a 4 h]

/-- A number apart from another that was written. -/
theorem long_storeLong_of_apart (m : Memory) (a b n : UInt32)
    (h : ∀ x, Region nextAddr a 4 x → ¬Region nextAddr b 4 x) :
    (storeLong m b n).long a = m.long a := by
  refine long_congr _ _ _ fun x hx => put_frame _ _ _ _ ?_
  rw [length_leBytes]
  exact h x hx

/-- Numbers four addresses apart do not meet. -/
theorem apart_four (a : UInt32) (j k : Nat) (hj : j + 4 ≤ k) (hk : k < 2 ^ 31) (x : UInt32)
    (h : Region nextAddr (a + UInt32.ofNat j) 4 x) :
    ¬Region nextAddr (a + UInt32.ofNat k) 4 x := by
  rintro h'
  obtain ⟨i, hi, rfl⟩ := (region_iff _ 4 x).1 h
  obtain ⟨i', hi', heq⟩ := (region_iff _ 4 _).1 h'
  rw [UInt32.add_assoc, UInt32.add_assoc, UInt32.add_right_inj, ← UInt32.ofNat_add,
    ← UInt32.ofNat_add, ← UInt32.toNat_inj, UInt32.toNat_ofNat', UInt32.toNat_ofNat'] at heq
  omega

/-- A part of a region, `j` addresses on. -/
theorem region_offset {a x : UInt32} {n k j : Nat} (h : Region nextAddr (a + UInt32.ofNat j) k x)
    (hn : j + k ≤ n) : Region nextAddr a n x := by
  rw [← iterate_nextAddr] at h
  exact h.offset hn

/-! ## Entries of lists -/

/-- A number in an entry of `n` bytes. -/
theorem writeLong_within {a v : UInt32} {n j : Nat} (hj : j + 4 ≤ n) :
    (writeLong (a + UInt32.ofNat j) v).Within nextAddr (Region nextAddr a n) :=
  fun _ hx => region_offset (covers_region 4 hx (by simp)) hj

theorem supported_within (p : UInt32) :
    (writeLong (p + 8) 1).Within nextAddr (Region nextAddr p 12) :=
  writeLong_within (j := 8) (by omega)

/-- An `SPARAM` in memory. -/
def sParamAt (m : Memory) (a : UInt32) : SParam :=
  { parameter := m.long a, value := m.long (a + 4), supported := m.long (a + 8) }

/-- An `SPARAM_LIST` in memory: a number and a pointer. -/
def sParamListAt (m : Memory) (a : UInt32) : SParamList where
  numOfParameters := (m.long a).toNat
  sParamPtr := fun i => sParamAt m (m.long (a + 4) + UInt32.ofNat (12 * i))

theorem sParamAt_congr (m m' : Memory) (a : UInt32)
    (h : ∀ x, Region nextAddr a 12 x → m' x = m x) : sParamAt m' a = sParamAt m a := by
  have hvalue : m'.long (a + 4) = m.long (a + 4) :=
    long_congr m m' _ fun x hx => h x (region_offset (j := 4) hx (by omega))
  have hsupported : m'.long (a + 8) = m.long (a + 8) :=
    long_congr m m' _ fun x hx => h x (region_offset (j := 8) hx (by omega))
  unfold sParamAt
  rw [long_congr m m' a fun x hx => h x (hx.mono (by omega)), hvalue, hsupported]

theorem sParamAt_supported (m : Memory) (a n : UInt32) :
    sParamAt (storeLong m (a + 8) n) a = { sParamAt m a with supported := n } := by
  have hparameter : (storeLong m (a + 8) n).long a = m.long a :=
    long_storeLong_of_apart _ _ _ _ fun x hx =>
      apart_four a 0 8 (by omega) (by omega) x (by simpa using hx)
  have hvalue : (storeLong m (a + 8) n).long (a + 4) = m.long (a + 4) :=
    long_storeLong_of_apart _ _ _ _ fun x hx => apart_four a 4 8 (by omega) (by omega) x hx
  unfold sParamAt
  rw [hparameter, hvalue, long_storeLong]

theorem sParamAt_value (m : Memory) (a n : UInt32) :
    sParamAt (storeLong m (a + 4) n) a = { sParamAt m a with value := n } := by
  have hparameter : (storeLong m (a + 4) n).long a = m.long a :=
    long_storeLong_of_apart _ _ _ _ fun x hx =>
      apart_four a 0 4 (by omega) (by omega) x (by simpa using hx)
  have hsupported : (storeLong m (a + 4) n).long (a + 8) = m.long (a + 8) :=
    long_storeLong_of_apart _ _ _ _ fun x hx hx' =>
      apart_four a 4 8 (by omega) (by omega) x hx' hx
  unfold sParamAt
  rw [hparameter, hsupported, long_storeLong]

/-! ## What is read back -/

/-- Six numbers and `Data`. -/
theorem msg_of_holds {m : Memory} {a : UInt32} {msg : PassthruMsg}
    (h : Holds nextAddr m a (msgBytes msg)) : m.msg a = msg := by
  simp only [msgBytes, holds_append_nextAddr, List.length_append, length_leBytes] at h
  obtain ⟨⟨⟨⟨⟨⟨hprotocol, hrx⟩, htx⟩, htime⟩, hsize⟩, hextra⟩, hdata⟩ := h
  have hbyte : ∀ j : Fin 4128, m (a + 24 + UInt32.ofNat j) = msg.data j := by
    intro j
    have hlen : (msg.bytes 0 4128).length = 4128 := by simp
    have hcell := hdata.cell j (by rw [hlen]; exact j.isLt)
    rw [iterate_nextAddr] at hcell
    show m (a + UInt32.ofNat 24 + UInt32.ofNat j) = _
    rw [hcell]
    simp [PassthruMsg.bytes]
  have hrx : m.long (a + 4) = msg.rxStatus := long_of_holds hrx
  have htx : m.long (a + 8) = msg.txFlags := long_of_holds htx
  have htime : m.long (a + 12) = msg.timestamp := long_of_holds htime
  have hsize : m.long (a + 16) = msg.dataSize := long_of_holds hsize
  have hextra : m.long (a + 20) = msg.extraDataIndex := long_of_holds hextra
  unfold Memory.msg
  rw [long_of_holds hprotocol, hrx, htx, htime, hsize, hextra, funext hbyte]

theorem length_msgs (msgs : List PassthruMsg) :
    (msgs.flatMap msgBytes).length = 4152 * msgs.length := by
  induction msgs with
  | nil => rfl
  | cons msg msgs ih =>
    rw [List.flatMap_cons, List.length_append, length_msgBytes, ih, List.length_cons]
    omega

/-- **Messages are read back.** -/
theorem msgs_of_holds {m : Memory} {a : UInt32} {msgs : List PassthruMsg}
    (h : Holds nextAddr m a (msgs.flatMap msgBytes)) : m.msgs a msgs.length = msgs := by
  induction msgs generalizing a with
  | nil => rfl
  | cons msg msgs ih =>
    rw [List.flatMap_cons, holds_append_nextAddr, length_msgBytes] at h
    obtain ⟨hmsg, hmsgs⟩ := h
    have hrest : m.msgs (a + UInt32.ofNat 4152) msgs.length = msgs := ih hmsgs
    have hfirst : a + UInt32.ofNat (4152 * 0) = a := UInt32.add_zero a
    have hnext : ∀ i, a + UInt32.ofNat (4152 * (i + 1)) =
        a + UInt32.ofNat 4152 + UInt32.ofNat (4152 * i) := by
      intro i
      rw [UInt32.add_assoc, ← UInt32.ofNat_add, Nat.mul_succ, Nat.add_comm]
    unfold Memory.msgs at hrest ⊢
    rw [List.length_cons, List.range_succ_eq_map, List.map_cons, List.map_map, hfirst,
      msg_of_holds hmsg]
    refine congrArg _ (Eq.trans (List.map_congr_left fun i _ => ?_) hrest)
    rw [Function.comp_apply, hnext]

theorem chars_of_holds {m : Memory} {a : UInt32} {text rest : List UInt8}
    (h : Holds nextAddr m a (text ++ 0 :: rest)) (h0 : 0 ∉ text) (n : Nat)
    (hn : text.length < n) : m.chars n a = text := by
  induction text generalizing a n with
  | nil =>
    obtain ⟨n, rfl⟩ : ∃ k, n = k + 1 := ⟨n - 1, by simp at hn; omega⟩
    have hzero : m a = 0 := h.cell 0 (by simp)
    rw [Memory.chars, if_pos hzero]
  | cons b text ih =>
    obtain ⟨n, rfl⟩ : ∃ k, n = k + 1 := ⟨n - 1, by simp at hn; omega⟩
    obtain ⟨hb, htext⟩ := not_or.1 (mt List.mem_cons.2 h0)
    have hcell : m a = b := h.cell 0 (by simp)
    have hrest : Holds nextAddr m (a + 1) (text ++ 0 :: rest) := by
      rw [List.cons_append, ← List.singleton_append, holds_append_nextAddr] at h
      exact h.2
    rw [Memory.chars, if_neg (by rw [hcell]; exact fun hz => hb hz.symm), hcell,
      ih hrest htext n (by simpa using hn)]

/-- A text is read back to its NUL. -/
theorem cString_of_holds {m : Memory} {a : UInt32} {text rest : List UInt8}
    (h : Holds nextAddr m a (text ++ 0 :: rest)) (h0 : 0 ∉ text) (hlen : text.length < 2 ^ 32) :
    m.cString a = text := chars_of_holds h h0 _ hlen

/-- A text of less than 80 characters. -/
theorem cString_of_holds_text {m : Memory} {a : UInt32} {text : List UInt8}
    (h : Holds nextAddr m a (writeText a text).data) (h0 : 0 ∉ text) (hlen : text.length < 80) :
    m.cString a = text := by
  obtain ⟨k, hk⟩ : ∃ k, 80 - text.length = k + 1 := ⟨79 - text.length, by omega⟩
  rw [writeText, hk, List.replicate_succ] at h
  exact cString_of_holds h h0 (by omega)

/-- What does not meet an address is shorter than the memory. -/
theorem lt_of_not_region {a x : UInt32} {n : Nat} (h : ¬Region nextAddr a n x) : n < 2 ^ 32 := by
  rw [region_iff] at h
  by_contra hn
  refine h ⟨(x - a).toNat, ?_, ?_⟩
  · have := (x - a).toNat_lt
    omega
  · rw [UInt32.ofNat_toNat, UInt32.add_comm, UInt32.sub_add_cancel]

end J2534Oip
