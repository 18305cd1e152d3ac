import Mathlib.Algebra.Group.Int.Defs
import Mathlib.Algebra.Group.Nat.Defs
import Mathlib.Data.List.Basic

/-!
# Bytes: numbers of a fixed width as byte strings

`leBytes k n` writes the low `k` bytes of `n`, least significant first; `ofLE` reads
them back.  `beBytes`/`ofBE` are the same the other way round.

    ofLE (leBytes k n) = n % 256 ^ k                                    (ofLE_leBytes)
    ofBE (beBytes k n) = n % 256 ^ k                                    (ofBE_beBytes)
    ofBE (bytes of xs OR bytes of ys) = ofBE xs OR ofBE ys              (ofBE_or)

`signed w n` reads a `w`-bit number as two's complement.
-/

namespace Bytes

/-! ## Little endian -/

def leBytes : Nat → Nat → List UInt8
  | 0, _ => []
  | k + 1, n => UInt8.ofNat n :: leBytes k (n / 256)

def ofLE : List UInt8 → Nat
  | [] => 0
  | b :: bs => b.toNat + 256 * ofLE bs

@[simp] theorem length_leBytes (k n : Nat) : (leBytes k n).length = k := by
  induction k generalizing n with
  | zero => rfl
  | succ k ih => simp [leBytes, ih]

theorem ofLE_leBytes (k n : Nat) : ofLE (leBytes k n) = n % 256 ^ k := by
  induction k generalizing n with
  | zero => simp [leBytes, ofLE, Nat.mod_one]
  | succ k ih =>
    have hb : (UInt8.ofNat n).toNat = n % 256 := UInt8.toNat_ofNat'
    simp only [leBytes, ofLE, ih, hb]
    rw [Nat.pow_succ, Nat.mul_comm (256 ^ k) 256, Nat.mod_mul]

theorem ofLE_lt (bs : List UInt8) : ofLE bs < 256 ^ bs.length := by
  induction bs with
  | nil => simp [ofLE]
  | cons b bs ih =>
    have hb := b.toNat_lt
    simp only [ofLE, List.length_cons, Nat.pow_succ]
    omega

/-- High bytes that are zero do not count. -/
theorem ofLE_append_zeros (bs : List UInt8) (k : Nat) :
    ofLE (bs ++ List.replicate k 0) = ofLE bs := by
  induction bs with
  | nil =>
    induction k with
    | zero => rfl
    | succ k ih =>
      rw [List.nil_append] at ih ⊢
      simp [List.replicate_succ, ofLE, ih]
  | cons b bs ih => simp only [List.cons_append, ofLE, ih]

/-- The bytes of a number are recovered from it. -/
theorem leBytes_ofLE (bs : List UInt8) : leBytes bs.length (ofLE bs) = bs := by
  induction bs with
  | nil => rfl
  | cons b bs ih =>
    have hb := b.toNat_lt
    have hlow : UInt8.ofNat (b.toNat + 256 * ofLE bs) = b := by
      apply UInt8.toNat_inj.mp
      rw [UInt8.toNat_ofNat']
      omega
    have hhigh : (b.toNat + 256 * ofLE bs) / 256 = ofLE bs := by omega
    simp only [List.length_cons, leBytes, ofLE, hlow, hhigh, ih]

theorem leBytes_ofLE_of_length {k : Nat} (bs : List UInt8) (h : bs.length = k) :
    leBytes k (ofLE bs) = bs := by
  subst h
  exact leBytes_ofLE bs

theorem ofLE_lt_of_length {k : Nat} (bs : List UInt8) (h : bs.length = k) : ofLE bs < 256 ^ k := by
  subst h
  exact ofLE_lt bs

/-! ## Big endian -/

def beBytes (k n : Nat) : List UInt8 := (leBytes k n).reverse

def ofBE (bs : List UInt8) : Nat := ofLE bs.reverse

@[simp] theorem length_beBytes (k n : Nat) : (beBytes k n).length = k := by
  simp [beBytes]

theorem ofBE_beBytes (k n : Nat) : ofBE (beBytes k n) = n % 256 ^ k := by
  simp only [ofBE, beBytes, List.reverse_reverse, ofLE_leBytes]

/-- Byte strings of one length are told apart by their numbers. -/
theorem ofBE_inj {xs ys : List UInt8} (h : xs.length = ys.length) (hn : ofBE xs = ofBE ys) :
    xs = ys := by
  apply List.reverse_injective
  rw [← leBytes_ofLE xs.reverse, ← leBytes_ofLE ys.reverse, List.length_reverse,
    List.length_reverse, h]
  exact congrArg (leBytes ys.length) hn

/-! ## Bitwise or -/

theorem leBytes_or (k m n : Nat) :
    leBytes k (m ||| n) = List.zipWith (· ||| ·) (leBytes k m) (leBytes k n) := by
  induction k generalizing m n with
  | zero => rfl
  | succ k ih =>
    have hhigh : (m ||| n) / 256 = m / 256 ||| n / 256 := Nat.or_div_two_pow (n := 8)
    rw [leBytes, leBytes, leBytes, List.zipWith_cons_cons, hhigh, ih, UInt8.ofNat_or]

/-- Bytes combined one by one combine the numbers. -/
theorem ofLE_or (xs ys : List UInt8) (h : xs.length = ys.length) :
    ofLE (List.zipWith (· ||| ·) xs ys) = ofLE xs ||| ofLE ys := by
  have hpow : 256 ^ xs.length = 2 ^ (8 * xs.length) := by rw [Nat.pow_mul]
  have hx : ofLE xs < 2 ^ (8 * xs.length) := hpow ▸ ofLE_lt xs
  have hy : ofLE ys < 2 ^ (8 * xs.length) := hpow ▸ ofLE_lt_of_length ys h.symm
  have hbytes : List.zipWith (· ||| ·) xs ys = leBytes xs.length (ofLE xs ||| ofLE ys) := by
    rw [leBytes_or, leBytes_ofLE, leBytes_ofLE_of_length ys h.symm]
  rw [hbytes, ofLE_leBytes, hpow]
  exact Nat.mod_eq_of_lt (Nat.or_lt_two_pow hx hy)

theorem ofBE_or (xs ys : List UInt8) (h : xs.length = ys.length) :
    ofBE (List.zipWith (· ||| ·) xs ys) = ofBE xs ||| ofBE ys := by
  rw [ofBE, List.reverse_zipWith h, ofLE_or _ _ (by rw [List.length_reverse, List.length_reverse, h])]
  rfl

/-! ## Two's complement -/

/-- The `w`-bit number `n` read as a signed one. -/
def signed (w n : Nat) : Int := if n < 2 ^ (w - 1) then n else n - 2 ^ w

theorem signed_of_lt (w n : Nat) (h : n < 2 ^ (w - 1)) : signed w n = n := by
  simp [signed, h]

end Bytes
