import J2534Oip.Lib.Crc
import Mathlib.Algebra.Group.Int.Defs
import Mathlib.Algebra.Group.Nat.Defs
import Mathlib.Data.List.GetD

/-!
# The id of a client

`ExDbg::crc32` computes the id from the client's path, by a table, in `int64_t` and with
characters that may be signed.  What it computes is the reflected CRC-32 of the bytes, and no
value of `crc` on the way leaves the 32 bits that the id has:

    (crc32 isSigned data).toInt = (reflectedCrc32 data).toNat ∧ …           (crc32_reflected)
-/

namespace J2534Oip.ExDbg

open Crc

/-! ## `crc32` -/

/-- The loop body over `j`. -/
def tableTurn (crc : Int64) : Int64 :=
  if crc &&& 1 ≠ 0 then (0xEDB88320 : Int64) ^^^ (crc >>> 1) else crc >>> 1

/-- `crc` after some passes of the loop over `j`. -/
def tableTurns : Nat → Int64 → Int64
  | 0, crc => crc
  | j + 1, crc => tableTurns j (tableTurn crc)

/-- `crc_table` -/
def crcTable : List Int64 := (List.range 256).map fun i => tableTurns 8 (Int64.ofNat i)

/-- A `char` as it is promoted. -/
def charValue (isSigned : Bool) (c : UInt8) : Int64 :=
  if isSigned then c.toInt8.toInt64 else c.toUInt64.toInt64

/-- `(crc ^ c) & 0xFF` -/
def crcIndex (crc c : Int64) : Int64 := (crc ^^^ c) &&& 0xFF

/-- The loop body over the characters. -/
def crcTurn (isSigned : Bool) (crc : Int64) (c : UInt8) : Int64 :=
  crcTable.getD (crcIndex crc (charValue isSigned c)).toInt.toNat 0 ^^^ (crc >>> 8)

def crcLoop (isSigned : Bool) (data : List UInt8) : Int64 :=
  data.foldl (crcTurn isSigned) 0xFFFFFFFF

def crc32 (isSigned : Bool) (data : List UInt8) : Int64 := crcLoop isSigned data ^^^ 0xFFFFFFFF

/-- The reflected CRC-32, from the bits of the bytes, low bit first. -/
def reflectedCrc32 (data : List UInt8) : BitVec 32 :=
  ofBits 0xEDB88320#32 0xFFFFFFFF#32 0xFFFFFFFF#32 (data.flatMap fun c => lowBits 8 c.toBitVec)

/-! ## Registers in an `int64_t` -/

/-- A value that 32 bits hold. -/
def InRange (v : Int64) : Prop := 0 ≤ v.toInt ∧ v.toInt < 2 ^ 32

/-- A register in an `int64_t`. -/
def extend (crc : BitVec 32) : Int64 := Int64.ofBitVec (crc.setWidth 64)

theorem toInt_extend (crc : BitVec 32) : (extend crc).toInt = crc.toNat := by
  have hlt := crc.isLt
  show (crc.setWidth 64).toInt = _
  rw [BitVec.toInt_eq_toNat_of_lt]
  · simp
    omega
  · simp
    omega

theorem inRange_extend (crc : BitVec 32) : InRange (extend crc) := by
  have hlt := crc.isLt
  rw [InRange, toInt_extend]
  omega

theorem extend_xor (x y : BitVec 32) : extend (x ^^^ y) = extend x ^^^ extend y := by
  apply Int64.toBitVec_inj.1
  show (x ^^^ y).setWidth 64 = x.setWidth 64 ^^^ y.setWidth 64
  rw [BitVec.setWidth_xor]

/-- The sign bit is 0, so the signed shift moves zeros in. -/
theorem extend_shiftRight (crc : BitVec 32) (n : Int64) (k : Nat)
    (hk : (n.toBitVec.smod 64).toNat = k) : extend crc >>> n = extend (crc >>> k) := by
  apply Int64.toBitVec_inj.1
  have hmsb : (crc.setWidth 64).msb = false := by
    rw [BitVec.msb_setWidth, BitVec.getLsbD_of_ge crc 63 (by decide), Bool.and_false]
  rw [Int64.toBitVec_shiftRight]
  show (crc.setWidth 64).sshiftRight' _ = (crc >>> k).setWidth 64
  rw [BitVec.sshiftRight', hk, BitVec.sshiftRight_eq_of_msb_false hmsb, BitVec.setWidth_ushiftRight]
  decide

/-- A mask of low bits. -/
theorem extend_and (x mask : BitVec 32) : extend x &&& extend mask = extend (x &&& mask) := by
  apply Int64.toBitVec_inj.1
  show x.setWidth 64 &&& mask.setWidth 64 = (x &&& mask).setWidth 64
  rw [BitVec.setWidth_and]

theorem extend_eq_zero (x : BitVec 32) : extend x = 0 ↔ x = 0#32 := by
  constructor
  · intro h
    have hint := toInt_extend x
    rw [h] at hint
    apply BitVec.eq_of_toNat_eq
    exact (Int.ofNat.inj hint).symm
  · rintro rfl
    rfl

/-! ## The table -/

theorem tableTurn_extend (crc : BitVec 32) :
    tableTurn (extend crc) = extend (bitStep 0xEDB88320#32 crc) := by
  have hbit : extend crc &&& 1 = 0 ↔ crc.getLsbD 0 = false := by
    have hone : (1 : Int64) = extend 1#32 := rfl
    rw [hone, extend_and, extend_eq_zero, BitVec.and_one_eq_setWidth_ofBool_getLsbD]
    cases crc.getLsbD 0 <;> decide
  have hshift : extend crc >>> 1 = extend (crc >>> 1) := extend_shiftRight crc 1 1 (by decide)
  unfold tableTurn bitStep
  rw [hshift]
  cases hlow : crc.getLsbD 0 with
  | false => rw [if_neg (not_not.2 (hbit.2 hlow)), if_neg Bool.false_ne_true]
  | true =>
    have hne : extend crc &&& 1 ≠ 0 := fun h => by rw [hbit.1 h] at hlow; cases hlow
    rw [if_pos hne, if_pos rfl, extend_xor]
    rfl

theorem tableTurns_extend (j : Nat) (crc : BitVec 32) :
    tableTurns j (extend crc) = extend (bitSteps 0xEDB88320#32 j crc) := by
  induction j generalizing crc with
  | zero => rfl
  | succ j ih => rw [tableTurns, tableTurn_extend, ih, bitSteps]

theorem ofNat_extend (i : Nat) (hi : i < 2 ^ 32) : Int64.ofNat i = extend (BitVec.ofNat 32 i) := by
  apply Int64.toBitVec_inj.1
  show BitVec.ofNat 64 i = (BitVec.ofNat 32 i).setWidth 64
  apply BitVec.eq_of_toNat_eq
  rw [BitVec.toNat_ofNat, BitVec.toNat_setWidth, BitVec.toNat_ofNat]
  omega

/-- An entry is what eight moves make of its index. -/
theorem crcTable_getD (i : Nat) (hi : i < 256) :
    crcTable.getD i 0 = extend (bitSteps 0xEDB88320#32 8 (BitVec.ofNat 32 i)) := by
  have hlen : i < crcTable.length := by
    rw [crcTable, List.length_map, List.length_range]
    exact hi
  rw [List.getD_eq_getElem _ _ hlen]
  simp only [crcTable, List.getElem_map, List.getElem_range]
  rw [ofNat_extend i (by omega), tableTurns_extend]

/-! ## The loop -/

/-- The low byte of a promoted `char` is its byte, whatever its sign. -/
theorem getLsbD_charValue (isSigned : Bool) (c : UInt8) (i : Nat) (hi : i < 8) :
    (charValue isSigned c).toBitVec.getLsbD i = c.toBitVec.getLsbD i := by
  unfold charValue
  split
  · show (c.toBitVec.signExtend 64).getLsbD i = _
    rw [BitVec.getLsbD_signExtend]
    have h64 : i < 64 := by omega
    simp [hi, h64]
  · show (c.toBitVec.setWidth 64).getLsbD i = _
    rw [BitVec.getLsbD_setWidth]
    have h64 : i < 64 := by omega
    simp [h64]

/-- A byte at the low end of a register. -/
def byteAt (c : UInt8) : BitVec 32 := c.toBitVec.setWidth 32

theorem getLsbD_byteAt (c : UInt8) (i : Nat) : (byteAt c).getLsbD i = c.toBitVec.getLsbD i := by
  rw [byteAt, BitVec.getLsbD_setWidth]
  by_cases hi : i < 32
  · simp [hi]
  · rw [BitVec.getLsbD_of_ge c.toBitVec i (by omega), Bool.and_false]

theorem byteAt_ushiftRight (c : UInt8) : byteAt c >>> 8 = 0#32 := by
  apply BitVec.eq_of_getLsbD_eq
  intro i _
  rw [BitVec.getLsbD_ushiftRight, getLsbD_byteAt, BitVec.getLsbD_of_ge _ _ (by omega),
    BitVec.getLsbD_zero]

/-- The mask takes the sign of the character away. -/
theorem crcIndex_extend (isSigned : Bool) (crc : BitVec 32) (c : UInt8) :
    crcIndex (extend crc) (charValue isSigned c) = extend (low 8 (crc ^^^ byteAt c)) := by
  apply Int64.toBitVec_inj.1
  show (crc.setWidth 64 ^^^ (charValue isSigned c).toBitVec) &&& 255#64 =
    (low 8 (crc ^^^ byteAt c)).setWidth 64
  apply BitVec.eq_of_getLsbD_eq
  intro i hi
  have hmask : (255#64).getLsbD i = decide (i < 8) := by
    rw [BitVec.getLsbD_ofNat, decide_eq_true hi, Bool.true_and]
    exact Nat.testBit_two_pow_sub_one 8 i
  rw [BitVec.getLsbD_and, BitVec.getLsbD_xor, hmask, BitVec.getLsbD_setWidth,
    BitVec.getLsbD_setWidth, getLsbD_low, BitVec.getLsbD_xor, getLsbD_byteAt, decide_eq_true hi]
  by_cases h8 : i < 8
  · rw [getLsbD_charValue isSigned c i h8]
    simp [h8]
  · simp [h8]

theorem crcTurn_extend (isSigned : Bool) (crc : BitVec 32) (c : UInt8) :
    crcTurn isSigned (extend crc) c =
      extend ((lowBits 8 c.toBitVec).foldl (feedBit 0xEDB88320#32) crc) := by
  have hlt : (low 8 (crc ^^^ byteAt c)).toNat < 256 := by
    rw [low, BitVec.toNat_setWidth, BitVec.toNat_setWidth]
    omega
  have hbits : lowBits 8 (byteAt c) = lowBits 8 c.toBitVec :=
    lowBits_congr fun i _ => getLsbD_byteAt c i
  rw [crcTurn, crcIndex_extend, toInt_extend, Int.toNat_natCast, crcTable_getD _ hlt,
    BitVec.ofNat_toNat, BitVec.setWidth_eq, extend_shiftRight crc 8 8 (by decide), ← extend_xor,
    ← hbits]
  exact congrArg extend (tableStep_eq _ (bitSteps 0xEDB88320#32 8) 8 crc (byteAt c)
    (fun _ => rfl) (byteAt_ushiftRight c))

/-- The loop, from any register. -/
theorem foldl_crcTurn (isSigned : Bool) (data : List UInt8) (crc : BitVec 32) :
    data.foldl (crcTurn isSigned) (extend crc) =
      extend ((data.flatMap fun c => lowBits 8 c.toBitVec).foldl (feedBit 0xEDB88320#32) crc) := by
  induction data generalizing crc with
  | nil => rfl
  | cons c data ih =>
    rw [List.foldl_cons, crcTurn_extend, ih, List.flatMap_cons, List.foldl_append]

theorem crcLoop_extend (isSigned : Bool) (data : List UInt8) :
    crcLoop isSigned data = extend ((data.flatMap fun c => lowBits 8 c.toBitVec).foldl
      (feedBit 0xEDB88320#32) 0xFFFFFFFF#32) :=
  foldl_crcTurn isSigned data 0xFFFFFFFF#32

theorem crc32_extend (isSigned : Bool) (data : List UInt8) :
    crc32 isSigned data = extend (reflectedCrc32 data) := by
  rw [crc32, crcLoop_extend, reflectedCrc32, ofBits, extend_xor]
  rfl

/-- What the mask leaves is an index of the table. -/
theorem crcIndex_range (isSigned : Bool) (crc : BitVec 32) (c : UInt8) :
    0 ≤ (crcIndex (extend crc) (charValue isSigned c)).toInt ∧
      (crcIndex (extend crc) (charValue isSigned c)).toInt < 256 := by
  rw [crcIndex_extend, toInt_extend, low, BitVec.toNat_setWidth, BitVec.toNat_setWidth]
  omega

/-- **The id is the CRC-32 of the path**, with `char` signed or not; `crc` stays in 32 bits in
both loops and every index in the table, so the id loses nothing of it.  Before the mask
`crc ^ c` can be negative, where `char` is signed. -/
theorem crc32_reflected (isSigned : Bool) (data : List UInt8) :
    (crc32 isSigned data).toInt = (reflectedCrc32 data).toNat ∧
      (∀ i < 256, ∀ j, InRange (tableTurns j (Int64.ofNat i))) ∧
      (∀ k, InRange (crcLoop isSigned (data.take k))) ∧
      (∀ k c, 0 ≤ (crcIndex (crcLoop isSigned (data.take k)) (charValue isSigned c)).toInt ∧
        (crcIndex (crcLoop isSigned (data.take k)) (charValue isSigned c)).toInt < 256) ∧
      InRange (crc32 isSigned data) ∧
      (UInt32.ofInt (crc32 isSigned data).toInt).toNat = (crc32 isSigned data).toInt := by
  have hvalue : (crc32 isSigned data).toInt = (reflectedCrc32 data).toNat := by
    rw [crc32_extend, toInt_extend]
  refine ⟨hvalue, ?_, ?_, ?_, ?_, ?_⟩
  · intro i hi j
    rw [ofNat_extend i (by omega), tableTurns_extend]
    exact inRange_extend _
  · intro k
    rw [crcLoop_extend]
    exact inRange_extend _
  · intro k c
    rw [crcLoop_extend]
    exact crcIndex_range isSigned _ c
  · rw [crc32_extend]
    exact inRange_extend _
  · have hlt := (reflectedCrc32 data).isLt
    rw [hvalue, UInt32.ofInt, UInt32.toNat_ofNat']
    omega

example : ((0xFFFFFFFF : Int64) ^^^ charValue true 0x80).toInt < 0 := by decide

-- "123456789"
example : reflectedCrc32 [0x31, 0x32, 0x33, 0x34, 0x35, 0x36, 0x37, 0x38, 0x39] = 0xCBF43926#32 := by
  decide +kernel

end J2534Oip.ExDbg
