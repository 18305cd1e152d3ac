import Mathlib.Data.List.Infix

/-!
# Rows announced to a view

A list is changed by operations, and each operation announces to a view which row comes or
goes.  A view that follows the announcements has the rows of the list after each operation
just when every operation announces what it does:

    Mirrored apply rows ops ↔ Each apply (Announced apply) rows ops            (mirrored_iff)
-/

namespace Rows

variable {α ι : Type*}

/-- A row that comes, with its element, or one that goes. -/
inductive Change (α : Type*)
  | inserted (row : Int) (a : α)
  | removed (row : Int)

/-- The view's rows after an announcement; `none` for a row it cannot have. -/
def follow (rows : List α) : Change α → Option (List α)
  | .inserted row a =>
    if 0 ≤ row ∧ row ≤ rows.length then some (rows.insertIdx row.toNat a) else none
  | .removed row => if 0 ≤ row ∧ row < rows.length then some (rows.eraseIdx row.toNat) else none

def replay (rows : List α) (changes : List (Change α)) : Option (List α) := changes.foldlM follow rows

section
variable (apply : List α → ι → List α × Change α)

/-- The list after some operations. -/
def after (rows : List α) (ops : List ι) : List α := ops.foldl (fun rows op => (apply rows op).1) rows

/-- What they announce. -/
def changes : List α → List ι → List (Change α)
  | _, [] => []
  | rows, op :: ops => (apply rows op).2 :: changes (apply rows op).1 ops

/-- The view has the rows of the list, after each operation. -/
def Mirrored (rows : List α) (ops : List ι) : Prop :=
  ∀ pre, pre <+: ops → replay rows (changes apply rows pre) = some (after apply rows pre)

/-- Each operation has the property, on the list it finds. -/
def Each (P : List α → ι → Prop) : List α → List ι → Prop
  | _, [] => True
  | rows, op :: ops => P rows op ∧ Each P (apply rows op).1 ops

/-- The operation announces what it does. -/
def Announced (rows : List α) (op : ι) : Prop := follow rows (apply rows op).2 = some (apply rows op).1

end

variable {apply : List α → ι → List α × Change α}

theorem follow_inserted (rows : List α) (row : Nat) (a : α) (h : row ≤ rows.length) :
    follow rows (.inserted row a) = some (rows.insertIdx row a) := by
  rw [follow, if_pos (by omega), Int.toNat_natCast]

theorem follow_removed (rows : List α) (row : Nat) (h : row < rows.length) :
    follow rows (.removed row) = some (rows.eraseIdx row) := by
  rw [follow, if_pos (by omega), Int.toNat_natCast]

theorem follow_removed_neg (rows : List α) (row : Int) (h : row < 0) :
    follow rows (.removed row) = none := by
  rw [follow, if_neg (by omega)]

theorem replay_changes_cons (rows : List α) (op : ι) (ops : List ι) (h : Announced apply rows op) :
    replay rows (changes apply rows (op :: ops)) =
      replay (apply rows op).1 (changes apply (apply rows op).1 ops) := by
  unfold replay
  rw [changes, List.foldlM_cons, h]
  rfl

theorem mirrored_iff (rows : List α) (ops : List ι) :
    Mirrored apply rows ops ↔ Each apply (Announced apply) rows ops := by
  induction ops generalizing rows with
  | nil =>
    refine iff_of_true (fun pre hpre => ?_) trivial
    obtain rfl := List.prefix_nil.1 hpre
    rfl
  | cons op ops ih =>
    constructor
    · intro h
      have hop : Announced apply rows op := by
        have hone := h [op] (List.cons_prefix_cons.2 ⟨rfl, List.nil_prefix⟩)
        unfold Announced
        simpa [replay, changes, after] using hone
      refine ⟨hop, (ih _).1 fun pre hpre => ?_⟩
      rw [← replay_changes_cons rows op pre hop]
      exact h (op :: pre) (List.cons_prefix_cons.2 ⟨rfl, hpre⟩)
    · rintro ⟨hop, hrest⟩ pre hpre
      cases pre with
      | nil => rfl
      | cons op' pre =>
        obtain ⟨rfl, htail⟩ := List.cons_prefix_cons.1 hpre
        rw [replay_changes_cons rows op' pre hop]
        exact (ih _).2 hrest pre htail

/-- A property that agrees with another one where a third holds. -/
theorem each_congr {V P Q : List α → ι → Prop} (h : ∀ rows op, V rows op → (P rows op ↔ Q rows op))
    (rows : List α) (ops : List ι) (hV : Each apply V rows ops) :
    Each apply P rows ops ↔ Each apply Q rows ops := by
  induction ops generalizing rows with
  | nil => exact Iff.rfl
  | cons op ops ih => exact and_congr (h rows op hV.1) (ih _ hV.2)

/-! ## Removing one row or another -/

theorem idxOf_getElem_le [DecidableEq α] (l : List α) (i : Nat) (h : i < l.length) :
    l.idxOf l[i] ≤ i := by
  by_contra hlt
  have hne := List.not_of_lt_findIdx (p := fun x => x == l[i]) (Nat.lt_of_not_le hlt)
  simp at hne

/-- Two rows can go for one another just when everything between is the same. -/
theorem eraseIdx_eq_eraseIdx_iff (l : List α) (i k : Nat) (hik : i ≤ k) :
    l.eraseIdx i = l.eraseIdx k ↔ ∀ j, i ≤ j → j ≤ k → l[j]? = l[k]? := by
  constructor
  · intro h
    have hstep : ∀ j, i ≤ j → j < k → l[j]? = l[j + 1]? := by
      intro j hij hjk
      have hj := congrArg (fun l => l[j]?) h
      simp only [List.getElem?_eraseIdx] at hj
      rw [if_neg (Nat.not_lt.2 hij), if_pos hjk] at hj
      exact hj.symm
    have hdown : ∀ n j, j + n = k → i ≤ j → l[j]? = l[k]? := by
      intro n
      induction n with
      | zero =>
        rintro j rfl _
        rfl
      | succ n ih =>
        intro j hj hij
        rw [hstep j hij (by omega)]
        exact ih (j + 1) (by omega) (by omega)
    intro j hij hjk
    exact hdown (k - j) j (by omega) hij
  · intro h
    apply List.ext_getElem?
    intro j
    simp only [List.getElem?_eraseIdx]
    by_cases hji : j < i
    · rw [if_pos hji, if_pos (Nat.lt_of_lt_of_le hji hik)]
    · rw [if_neg hji]
      by_cases hjk : j < k
      · rw [if_pos hjk, h j (Nat.le_of_not_lt hji) (Nat.le_of_lt hjk)]
        exact h (j + 1) (by omega) hjk
      · rw [if_neg hjk]

end Rows
