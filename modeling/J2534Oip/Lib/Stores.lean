import Mathlib.Data.List.Basic
import Mathlib.Logic.Function.Iterate

/-!
# Stores to a memory

A memory gives every address a cell; `next` is the address after another.  A write fills
consecutive addresses.  What it does not fill it leaves alone, and where its addresses are
distinct it is read back:

    (∀ w ∈ ws, ¬w.Covers next x) → storeAll next m ws x = m x             (storeAll_frame)
    Distinct next a bs.length → load next (put next m a bs) a bs.length = bs    (load_put)

So writes that keep apart are all read back (`holds_storeAll`), and a loop whose passes fill
an entry each does to every entry what its pass alone does (`passes_entry`).
-/

namespace Stores

variable {A β : Type*}

/-! ## Regions -/

section
variable (next : A → A)

/-- `x` is one of the `n` addresses from `a` on. -/
def Region (a : A) (n : Nat) (x : A) : Prop := ∃ k < n, x = next^[k] a

/-- The `n` addresses from `a` on do not come round. -/
def Distinct (a : A) (n : Nat) : Prop :=
  ∀ j < n, ∀ k < n, next^[j] a = next^[k] a → j = k

def load (m : A → β) (a : A) (n : Nat) : List β := (List.range n).map fun k => m (next^[k] a)

/-- Cells for consecutive addresses. -/
structure Write (A β : Type*) where
  addr : A
  data : List β

def Write.Covers (w : Write A β) (x : A) : Prop := Region next w.addr w.data.length x

/-- The write fills nothing but what was given. -/
def Write.Within (w : Write A β) (given : A → Prop) : Prop := ∀ x, w.Covers next x → given x

end

variable {next : A → A}

theorem region_succ {a : A} {n : Nat} {x : A} :
    Region next a (n + 1) x ↔ x = a ∨ Region next (next a) n x := by
  constructor
  · rintro ⟨k, hk, rfl⟩
    cases k with
    | zero => exact Or.inl rfl
    | succ k => exact Or.inr ⟨k, by omega, Function.iterate_succ_apply next k a⟩
  · rintro (rfl | ⟨k, hk, rfl⟩)
    · exact ⟨0, by omega, rfl⟩
    · exact ⟨k + 1, by omega, (Function.iterate_succ_apply next k a).symm⟩

theorem Region.mono {a : A} {n m : Nat} {x : A} (h : Region next a n x) (hnm : n ≤ m) :
    Region next a m x := by
  obtain ⟨k, hk, rfl⟩ := h
  exact ⟨k, by omega, rfl⟩

/-- A part of a region. -/
theorem Region.offset {a : A} {n m j : Nat} {x : A} (h : Region next (next^[j] a) n x)
    (hm : j + n ≤ m) : Region next a m x := by
  obtain ⟨k, hk, rfl⟩ := h
  refine ⟨k + j, by omega, ?_⟩
  rw [Function.iterate_add_apply]

theorem Distinct.tail {a : A} {n : Nat} (h : Distinct next a (n + 1)) :
    Distinct next (next a) n := by
  intro j hj k hk heq
  have hsucc := h (j + 1) (by omega) (k + 1) (by omega)
    (by rw [Function.iterate_succ_apply, Function.iterate_succ_apply, heq])
  omega

theorem Distinct.head {a : A} {n : Nat} (h : Distinct next a (n + 1)) :
    ¬Region next (next a) n a := by
  rintro ⟨k, hk, heq⟩
  have hsucc := h 0 (by omega) (k + 1) (by omega)
    (by rw [Function.iterate_succ_apply, ← heq]; rfl)
  omega

/-- A load of cells that are the same. -/
theorem load_congr (m m' : A → β) (a : A) (n : Nat) (h : ∀ x, Region next a n x → m' x = m x) :
    load next m' a n = load next m a n := by
  refine List.map_congr_left fun k hk => ?_
  exact h _ ⟨k, List.mem_range.1 hk, rfl⟩

/-! ## What a memory holds -/

/-- The cells from `a` on are these. -/
def Holds (next : A → A) (m : A → β) (a : A) (bs : List β) : Prop :=
  load next m a bs.length = bs

theorem length_load (m : A → β) (a : A) (n : Nat) : (load next m a n).length = n := by
  simp [load]

theorem load_add (m : A → β) (a : A) (j k : Nat) :
    load next m a (j + k) = load next m a j ++ load next m (next^[j] a) k := by
  unfold load
  rw [List.range_add, List.map_append, List.map_map]
  refine congrArg _ (List.map_congr_left fun i _ => ?_)
  rw [← Function.iterate_add_apply, Nat.add_comm i j]
  rfl

theorem holds_append {m : A → β} {a : A} {xs ys : List β} :
    Holds next m a (xs ++ ys) ↔ Holds next m a xs ∧ Holds next m (next^[xs.length] a) ys := by
  unfold Holds
  rw [List.length_append, load_add]
  constructor
  · intro h
    exact List.append_inj h (length_load m a xs.length)
  · rintro ⟨hxs, hys⟩
    rw [hxs, hys]

theorem Holds.cell {m : A → β} {a : A} {bs : List β} (h : Holds next m a bs) (k : Nat)
    (hk : k < bs.length) : m (next^[k] a) = bs[k] := by
  have hcell : (load next m a bs.length)[k]? = some (m (next^[k] a)) := by
    simp [load, hk]
  rw [show load next m a bs.length = bs from h] at hcell
  exact (List.getElem?_eq_some_iff.1 hcell).2.symm

/-- No address is filled by both. -/
def Write.Apart (next : A → A) (w w' : Write A β) : Prop :=
  ∀ x, w.Covers next x → ¬w'.Covers next x

/-! ## Frame and read back -/

variable [DecidableEq A]

def put (next : A → A) (m : A → β) : A → List β → A → β
  | _, [] => m
  | a, b :: bs => put next (Function.update m a b) (next a) bs

def storeAll (next : A → A) (m : A → β) (ws : List (Write A β)) : A → β :=
  ws.foldl (fun m w => put next m w.addr w.data) m

/-- What a write does not fill it leaves alone. -/
theorem put_frame (m : A → β) (a : A) (bs : List β) (x : A) (h : ¬Region next a bs.length x) :
    put next m a bs x = m x := by
  induction bs generalizing m a with
  | nil => rfl
  | cons b bs ih =>
    rw [List.length_cons, region_succ, not_or] at h
    rw [put, ih _ _ h.2, Function.update_of_ne h.1]

theorem storeAll_frame (m : A → β) (ws : List (Write A β)) (x : A)
    (h : ∀ w ∈ ws, ¬w.Covers next x) : storeAll next m ws x = m x := by
  induction ws generalizing m with
  | nil => rfl
  | cons w ws ih =>
    obtain ⟨hw, hws⟩ := List.forall_mem_cons.1 h
    show storeAll next (put next m w.addr w.data) ws x = m x
    rw [ih _ hws, put_frame m w.addr w.data x hw]

/-- What a write fills is read back. -/
theorem load_put (m : A → β) (a : A) (bs : List β) (h : Distinct next a bs.length) :
    load next (put next m a bs) a bs.length = bs := by
  induction bs generalizing m a with
  | nil => rfl
  | cons b bs ih =>
    rw [List.length_cons] at h
    have hhead : put next m a (b :: bs) a = b := by
      rw [put, put_frame _ _ _ _ h.head, Function.update_self]
    have htail := ih (Function.update m a b) (next a) h.tail
    rw [load, List.length_cons, List.range_succ_eq_map, List.map_cons, List.map_map]
    show put next m a (b :: bs) a :: _ = _
    rw [hhead]
    exact congrArg _ htail

theorem storeAll_append (m : A → β) (ws ws' : List (Write A β)) :
    storeAll next m (ws ++ ws') = storeAll next (storeAll next m ws) ws' :=
  List.foldl_append

/-- What a write leaves in a cell depends on that cell only. -/
theorem put_congr (m m' : A → β) (a : A) (bs : List β) (x : A) (h : m x = m' x) :
    put next m a bs x = put next m' a bs x := by
  induction bs generalizing m m' a with
  | nil => exact h
  | cons b bs ih =>
    refine ih _ _ _ ?_
    by_cases hx : x = a
    · subst hx
      rw [Function.update_self, Function.update_self]
    · rw [Function.update_of_ne hx, Function.update_of_ne hx, h]

theorem storeAll_congr (m m' : A → β) (ws : List (Write A β)) (x : A) (h : m x = m' x) :
    storeAll next m ws x = storeAll next m' ws x := by
  induction ws generalizing m m' with
  | nil => exact h
  | cons w ws ih => exact ih _ _ (put_congr m m' w.addr w.data x h)

/-- Writes that keep apart are all read back. -/
theorem holds_storeAll (m : A → β) (ws : List (Write A β))
    (hapart : ws.Pairwise (Write.Apart next)) (w : Write A β) (hw : w ∈ ws)
    (hdistinct : Distinct next w.addr w.data.length) :
    Holds next (storeAll next m ws) w.addr w.data := by
  induction ws generalizing m with
  | nil => cases hw
  | cons w' ws ih =>
    obtain ⟨hhead, htail⟩ := List.pairwise_cons.1 hapart
    show Holds next (storeAll next (put next m w'.addr w'.data) ws) w.addr w.data
    rcases List.mem_cons.1 hw with rfl | hmem
    · unfold Holds
      rw [load_congr _ _ _ _ fun x hx => storeAll_frame _ ws x fun w'' hw'' => hhead w'' hw'' x hx]
      exact load_put m w.addr w.data hdistinct
    · exact ih _ htail hmem

/-! ## Entries -/

/-- A pass over an entry of `n` cells: it fills cells of the entry only, by what is in it. -/
structure EntryPass (next : A → A) (n : Nat) (pass : (A → β) → A → List (Write A β)) : Prop where
  within : ∀ m p, ∀ w ∈ pass m p, w.Within next (Region next p n)
  congr : ∀ m m' p, (∀ x, Region next p n x → m' x = m x) → pass m' p = pass m p

/-- The writes of a loop over entries; each pass finds what the ones before it left. -/
def passes (next : A → A) (pass : (A → β) → A → List (Write A β)) :
    (A → β) → List A → List (Write A β)
  | _, [] => []
  | m, p :: ps => pass m p ++ passes next pass (storeAll next m (pass m p)) ps

variable {n : Nat} {pass : (A → β) → A → List (Write A β)}

theorem passes_within (h : EntryPass next n pass) (m : A → β) (ps : List A) :
    ∀ w ∈ passes next pass m ps, ∃ p ∈ ps, w.Within next (Region next p n) := by
  induction ps generalizing m with
  | nil => simp [passes]
  | cons p ps ih =>
    intro w hw
    rcases List.mem_append.1 hw with hp | hps
    · exact ⟨p, List.mem_cons_self, h.within m p w hp⟩
    · obtain ⟨p', hp', hwithin⟩ := ih _ w hps
      exact ⟨p', List.mem_cons_of_mem p hp', hwithin⟩

theorem passes_frame (h : EntryPass next n pass) (m : A → β) (ps : List A) (x : A)
    (hx : ∀ p ∈ ps, ¬Region next p n x) : storeAll next m (passes next pass m ps) x = m x := by
  refine storeAll_frame m _ x fun w hw hcovers => ?_
  obtain ⟨p, hp, hwithin⟩ := passes_within h m ps w hw
  exact hx p hp (hwithin x hcovers)

/-- **Each entry is what its pass alone makes of it**, where entries do not overlap. -/
theorem passes_entry (h : EntryPass next n pass) (m : A → β) (ps : List A)
    (hps : ps.Pairwise fun p p' => ∀ x, Region next p n x → ¬Region next p' n x) (p : A)
    (hp : p ∈ ps) (x : A) (hx : Region next p n x) :
    storeAll next m (passes next pass m ps) x = storeAll next m (pass m p) x := by
  induction ps generalizing m with
  | nil => cases hp
  | cons p' ps ih =>
    obtain ⟨hhead, htail⟩ := List.pairwise_cons.1 hps
    rw [passes, storeAll_append]
    rcases List.mem_cons.1 hp with rfl | hmem
    · exact passes_frame h _ ps x fun p' hp' => hhead p' hp' x hx
    · -- the first pass left the entry alone
      have hsame : ∀ y, Region next p n y → storeAll next m (pass m p') y = m y := by
        intro y hy
        exact storeAll_frame m _ y fun w hw hcovers =>
          hhead p hmem y (h.within m p' w hw y hcovers) hy
      rw [ih _ htail hmem, h.congr m _ p hsame]
      exact storeAll_congr _ _ _ x (hsame x hx)

end Stores
