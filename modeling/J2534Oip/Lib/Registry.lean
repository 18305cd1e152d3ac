import Mathlib.Data.List.Basic

/-!
# A registry, read through buffers

Keys hold named values, byte strings of any length.  A query states how large the caller's
buffer is: a value that fits is copied, of one that does not only the size comes back.  The
stated size need not be the buffer's.  A value that is no longer than the buffer stays in it:

    data.length ≤ buffer.length →
      fill buffer data = data ++ buffer.drop data.length                   (fill_of_le)
-/

/-- Keys that can be opened, with their values. -/
structure Registry (κ ν : Type*) where
  key : κ → Option (ν → Option (List UInt8))
  /-- what a query for a value that is not there leaves of the stated size -/
  missing : Nat → Nat

namespace Registry

variable {κ ν : Type*}

/-- The first of some keys that can be opened. -/
def openFirst (registry : Registry κ ν) (keys : List κ) : Option (ν → Option (List UInt8)) :=
  keys.findSome? registry.key

inductive Answer
  | success (data : List UInt8)
  | moreData (needed : Nat)
  | notFound
deriving DecidableEq

/-- A query that states a buffer of `size` bytes. -/
def query (values : ν → Option (List UInt8)) (name : ν) (size : Nat) : Answer :=
  match values name with
  | none => .notFound
  | some data => if data.length ≤ size then .success data else .moreData data.length

namespace Answer

def data : Answer → Option (List UInt8)
  | .success data => some data
  | .moreData _ => none
  | .notFound => none

/-- The caller's size variable after the query. -/
def size (missing : Nat → Nat) (stated : Nat) : Answer → Nat
  | .success data => data.length
  | .moreData needed => needed
  | .notFound => missing stated

end Answer

/-- A buffer after data was copied to its front; what goes past its end is not in it. -/
def fill (buffer data : List UInt8) : List UInt8 :=
  (data ++ buffer.drop data.length).take buffer.length

theorem data_query (values : ν → Option (List UInt8)) (name : ν) (size : Nat) :
    (query values name size).data = (values name).filter fun data => decide (data.length ≤ size) := by
  unfold query
  cases values name with
  | none => rfl
  | some data =>
    by_cases hfits : data.length ≤ size
    · simp [hfits, Answer.data, Option.filter]
    · simp [hfits, Answer.data, Option.filter]

theorem data_query_eq_some {values : ν → Option (List UInt8)} {name : ν} {size : Nat}
    {data : List UInt8} :
    (query values name size).data = some data ↔ values name = some data ∧ data.length ≤ size := by
  rw [data_query, Option.filter_eq_some_iff, decide_eq_true_eq]

theorem length_fill (buffer data : List UInt8) : (fill buffer data).length = buffer.length := by
  unfold fill
  rw [List.length_take, List.length_append, List.length_drop]
  omega

/-- Data that the buffer holds, and behind it what was there. -/
theorem fill_of_le (buffer data : List UInt8) (h : data.length ≤ buffer.length) :
    fill buffer data = data ++ buffer.drop data.length := by
  unfold fill
  rw [List.take_of_length_le]
  rw [List.length_append, List.length_drop]
  omega

end Registry
