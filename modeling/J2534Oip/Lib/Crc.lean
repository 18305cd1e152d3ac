import Mathlib.Data.List.Basic

/-!
# Reflected CRCs, bit by bit and by table

A register of `w` bits takes a message bit by bit, low bit first: it moves down by one, and
takes the polynomial when what falls out differs from the message bit.  A table step takes
`n` bits at once, by the entry of the register's low end.  The register and the message may
be added before or as it moves (`bitSteps_xor`), so the two agree:

    tableStep table n crc x = (lowBits n x).foldl (feedBit poly) crc         (tableStep_eq)
-/

namespace Crc

variable {w : Nat} (poly : BitVec w)

/-! ## Bit by bit -/

/-- One bit of the message. -/
def feedBit (crc : BitVec w) (b : Bool) : BitVec w :=
  if crc.getLsbD 0 ^^ b then poly ^^^ (crc >>> 1) else crc >>> 1

/-- The low `n` bits, from the lowest. -/
def lowBits (n : Nat) (x : BitVec w) : List Bool := (List.range n).map x.getLsbD

/-- The CRC of a message of bits. -/
def ofBits (init final : BitVec w) (bits : List Bool) : BitVec w :=
  bits.foldl (feedBit poly) init ^^^ final

theorem lowBits_succ (n : Nat) (x : BitVec w) :
    lowBits (n + 1) x = x.getLsbD 0 :: lowBits n (x >>> 1) := by
  rw [lowBits, List.range_succ_eq_map, List.map_cons, List.map_map]
  refine congrArg _ (List.map_congr_left fun i _ => ?_)
  show x.getLsbD (i + 1) = (x >>> 1).getLsbD i
  rw [BitVec.getLsbD_ushiftRight, Nat.add_comm]

theorem lowBits_congr {v : Nat} {n : Nat} {x : BitVec w} {y : BitVec v}
    (h : ∀ i < n, x.getLsbD i = y.getLsbD i) : lowBits n x = lowBits n y :=
  List.map_congr_left fun i hi => h i (List.mem_range.1 hi)

/-! ## The register alone -/

/-- One move without a message. -/
def bitStep (crc : BitVec w) : BitVec w :=
  if crc.getLsbD 0 then poly ^^^ (crc >>> 1) else crc >>> 1

def bitSteps : Nat → BitVec w → BitVec w
  | 0, crc => crc
  | n + 1, crc => bitSteps n (bitStep poly crc)

/-- Whatever is added to the register before a move: its low bit counts as a message bit, the
rest moves. -/
theorem bitStep_xor (crc x : BitVec w) :
    bitStep poly (crc ^^^ x) = feedBit poly crc (x.getLsbD 0) ^^^ (x >>> 1) := by
  unfold bitStep feedBit
  rw [BitVec.getLsbD_xor, BitVec.ushiftRight_xor_distrib]
  split
  · rw [BitVec.xor_assoc]
  · rfl

/-- The same for `n` moves. -/
theorem bitSteps_xor (n : Nat) (crc x : BitVec w) :
    bitSteps poly n (crc ^^^ x) = (lowBits n x).foldl (feedBit poly) crc ^^^ (x >>> n) := by
  induction n generalizing crc x with
  | zero =>
    show crc ^^^ x = crc ^^^ (x >>> 0)
    rw [BitVec.ushiftRight_zero]
  | succ n ih =>
    rw [bitSteps, bitStep_xor, ih, lowBits_succ, List.foldl_cons, ← BitVec.shiftRight_add,
      Nat.add_comm 1 n]

/-! ## By table -/

/-- The low `n` bits, the others 0. -/
def low (n : Nat) (x : BitVec w) : BitVec w := (x.setWidth n).setWidth w

theorem getLsbD_low (n : Nat) (x : BitVec w) (i : Nat) :
    (low n x).getLsbD i = (decide (i < n) && x.getLsbD i) := by
  rw [low, BitVec.getLsbD_setWidth, BitVec.getLsbD_setWidth]
  by_cases hi : i < w
  · simp [hi]
  · rw [BitVec.getLsbD_of_ge x i (Nat.le_of_not_lt hi), Bool.and_false, Bool.and_false]

theorem low_ushiftRight (n : Nat) (x : BitVec w) : low n x >>> n = 0#w := by
  apply BitVec.eq_of_getLsbD_eq
  intro i _
  have hge : ¬n + i < n := by omega
  rw [BitVec.getLsbD_ushiftRight, getLsbD_low, decide_eq_false hge, BitVec.getLsbD_zero,
    Bool.false_and]

/-- Moves of the register: those of its low end, and the rest moved down. -/
theorem bitSteps_low (n : Nat) (x : BitVec w) :
    bitSteps poly n x = bitSteps poly n (low n x) ^^^ (x >>> n) := by
  have hsame : lowBits n (low n x) = lowBits n x :=
    lowBits_congr fun i hi => by rw [getLsbD_low, decide_eq_true hi, Bool.true_and]
  have hx := bitSteps_xor poly n 0#w x
  have hlow := bitSteps_xor poly n 0#w (low n x)
  rw [BitVec.zero_xor] at hx hlow
  rw [hx, hlow, hsame, low_ushiftRight, BitVec.xor_zero]

/-- `n` bits of the message at once. -/
def tableStep (table : BitVec w → BitVec w) (n : Nat) (crc x : BitVec w) : BitVec w :=
  table (low n (crc ^^^ x)) ^^^ (crc >>> n)

/-- **A table step is `n` bit steps**, when the table holds what `n` moves make of its index. -/
theorem tableStep_eq (table : BitVec w → BitVec w) (n : Nat) (crc x : BitVec w)
    (htable : ∀ i, table (low n i) = bitSteps poly n (low n i)) (hx : x >>> n = 0#w) :
    tableStep table n crc x = (lowBits n x).foldl (feedBit poly) crc := by
  have hmoves := bitSteps_low poly n (crc ^^^ x)
  rw [bitSteps_xor, BitVec.ushiftRight_xor_distrib, hx, BitVec.xor_zero, BitVec.xor_zero] at hmoves
  rw [tableStep, htable, hmoves]

end Crc
