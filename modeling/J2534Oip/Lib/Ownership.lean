import Mathlib.Data.List.Basic
import Mathlib.Logic.Function.Basic

/-!
# Trees that own their children and borrow characters

A tree is created as a root; putting it into another makes it part of that one, and from
then on only the root may be freed, which frees all of it.  A leaf may borrow characters
from a buffer, which must live as long as the tree is encoded.  `Ledger.step` is `none`
where an operation breaks a rule, and `Respects` says that none does and that nothing is
left behind.
-/

/-- One operation on trees with names in `τ`, which borrow from buffers with names in `β`. -/
inductive TreeOp (τ β : Type*)
  | create (t : τ)
  /-- a new leaf goes into `t` -/
  | put (t : τ)
  /-- a new leaf, whose characters stay in `b` -/
  | lend (t : τ) (b : β)
  /-- the tree `child` goes into `t` -/
  | give (t child : τ)
  | encode (t : τ)
  | free (t : τ)
  /-- the buffer's life ends -/
  | dies (b : β)

/-- What is there: the root of each tree not freed, what was lent, and the dead buffers. -/
structure Ledger (τ β : Type*) where
  root : τ → Option τ
  lent : List (τ × β)
  dead : List β
  /-- a root is its own root -/
  root_root : ∀ t r, root t = some r → root r = some r

/-- The operation neither frees `t` nor gives it away. -/
def TreeOp.Keeps {τ β : Type*} (t : τ) (op : TreeOp τ β) : Prop :=
  op ≠ .free t ∧ ∀ p, op ≠ .give p t

namespace TreeOp

variable {τ β : Type*} {t c : τ}

@[simp] theorem keeps_create : (create c : TreeOp τ β).Keeps t := ⟨nofun, nofun⟩

@[simp] theorem keeps_put : (put c : TreeOp τ β).Keeps t := ⟨nofun, nofun⟩

@[simp] theorem keeps_lend (b : β) : (lend c b).Keeps t := ⟨nofun, nofun⟩

@[simp] theorem keeps_encode : (encode c : TreeOp τ β).Keeps t := ⟨nofun, nofun⟩

@[simp] theorem keeps_dies (b : β) : (dies b).Keeps t := ⟨nofun, nofun⟩

@[simp] theorem keeps_free : (free c : TreeOp τ β).Keeps t ↔ c ≠ t := by
  simp [Keeps]

@[simp] theorem keeps_give (p : τ) : (give p c : TreeOp τ β).Keeps t ↔ c ≠ t := by
  simp [Keeps]

/-- None of the operations frees `t` or gives it away. -/
def KeepsAll (t : τ) (ops : List (TreeOp τ β)) : Prop := ∀ op ∈ ops, op.Keeps t

@[simp] theorem keepsAll_nil : KeepsAll t ([] : List (TreeOp τ β)) := nofun

@[simp] theorem keepsAll_cons (op : TreeOp τ β) (ops : List (TreeOp τ β)) :
    KeepsAll t (op :: ops) ↔ op.Keeps t ∧ KeepsAll t ops := List.forall_mem_cons

@[simp] theorem keepsAll_append (ops ops' : List (TreeOp τ β)) :
    KeepsAll t (ops ++ ops') ↔ KeepsAll t ops ∧ KeepsAll t ops' := List.forall_mem_append

@[simp] theorem keepsAll_replicate_put (n : Nat) :
    KeepsAll t (List.replicate n (put c : TreeOp τ β)) := by
  intro op hop
  rw [List.eq_of_mem_replicate hop]
  exact keeps_put

theorem keepsAll_flatMap {α : Type*} (xs : List α) (f : α → List (TreeOp τ β))
    (h : ∀ x ∈ xs, KeepsAll t (f x)) : KeepsAll t (xs.flatMap f) := by
  intro op hop
  obtain ⟨x, hx, hop⟩ := List.mem_flatMap.1 hop
  exact h x hx op hop

/-- A tree created, filled with leaves and given away. -/
def childOps (t c : τ) (n : Nat) : List (TreeOp τ β) :=
  create c :: (List.replicate n (put c) ++ [give t c])

@[simp] theorem keepsAll_childOps {u : τ} (n : Nat) :
    KeepsAll u (childOps t c n : List (TreeOp τ β)) ↔ c ≠ u := by
  simp [childOps]

end TreeOp

namespace Ledger

open TreeOp

variable {τ β : Type*}

def empty : Ledger τ β where
  root _ := none
  lent := []
  dead := []
  root_root := nofun

/-- Every tree that is there has its root among these. -/
def Within (l : Ledger τ β) (roots : List τ) : Prop := ∀ u r, l.root u = some r → r ∈ roots

theorem within_empty : Within (empty : Ledger τ β) [] := nofun

/-- Without roots nothing is left. -/
theorem Within.root_eq_none {l : Ledger τ β} (h : l.Within []) (u : τ) : l.root u = none := by
  cases hu : l.root u with
  | none => rfl
  | some r => exact absurd (h u r hu) (by simp)

/-! ## Operations -/

section
variable [DecidableEq τ]

/-- A new root. -/
def create (l : Ledger τ β) (t : τ) : Ledger τ β where
  root := Function.update l.root t (some t)
  lent := l.lent
  dead := l.dead
  root_root := by
    intro u r h
    by_cases hr : r = t
    · rw [hr, Function.update_self]
    · rw [Function.update_of_ne hr]
      by_cases hu : u = t
      · rw [hu, Function.update_self] at h
        exact absurd (Option.some.inj h).symm hr
      · rw [Function.update_of_ne hu] at h
        exact l.root_root u r h

/-- The tree with root `c` becomes part of the one with root `r`. -/
def give (l : Ledger τ β) (r c : τ) (hr : l.root r = some r) (hne : r ≠ c) : Ledger τ β where
  root u := if l.root u = some c then some r else l.root u
  lent := l.lent
  dead := l.dead
  root_root := by
    have hkeep : ∀ x, x ≠ c → l.root x = some x →
        (if l.root x = some c then some r else l.root x) = some x := by
      intro x hx h
      rw [if_neg (fun hc => hx (Option.some.inj (h.symm.trans hc))), h]
    intro u x h
    by_cases hu : l.root u = some c
    · rw [if_pos hu] at h
      obtain rfl := Option.some.inj h
      exact hkeep _ hne hr
    · rw [if_neg hu] at h
      have hx : x ≠ c := by
        rintro rfl
        exact hu h
      exact hkeep x hx (l.root_root u x h)

/-- The whole tree with root `t` goes, and what was lent to it. -/
def free (l : Ledger τ β) (t : τ) : Ledger τ β where
  root u := if l.root u = some t then none else l.root u
  lent := l.lent.filter fun e => l.root e.1 ≠ some t
  dead := l.dead
  root_root := by
    intro u x h
    by_cases hu : l.root u = some t
    · rw [if_pos hu] at h
      cases h
    · rw [if_neg hu] at h
      have hx := l.root_root u x h
      rw [if_neg, hx]
      intro ht
      obtain rfl : x = t := Option.some.inj (hx.symm.trans ht)
      exact hu h

/-- `c` is part of the tree with root `r`. -/
def adopt (l : Ledger τ β) (r c : τ) (hr : l.root r = some r) (hc : l.root c = none) :
    Ledger τ β where
  root := Function.update l.root c (some r)
  lent := l.lent
  dead := l.dead
  root_root := by
    have hrc : ∀ x, l.root x = some x → x ≠ c := by
      rintro x hx rfl
      cases hx.symm.trans hc
    intro u x h
    by_cases hu : u = c
    · rw [hu, Function.update_self] at h
      obtain rfl := Option.some.inj h
      rw [Function.update_of_ne (hrc r hr), hr]
    · rw [Function.update_of_ne hu] at h
      have hx := l.root_root u x h
      rw [Function.update_of_ne (hrc x hx), hx]

variable {l : Ledger τ β} {t c r u : τ} {roots : List τ}

@[simp] theorem root_create_self : (l.create t).root t = some t := Function.update_self ..

theorem root_create_of_ne (h : u ≠ t) : (l.create t).root u = l.root u :=
  Function.update_of_ne h ..

@[simp] theorem root_adopt_self (hr : l.root r = some r) (hc : l.root c = none) :
    (l.adopt r c hr hc).root c = some r := Function.update_self ..

theorem root_adopt_of_ne (hr : l.root r = some r) (hc : l.root c = none) (h : u ≠ c) :
    (l.adopt r c hr hc).root u = l.root u := Function.update_of_ne h ..

theorem root_give (hr : l.root r = some r) (hne : r ≠ c) : (l.give r c hr hne).root u =
    if l.root u = some c then some r else l.root u := rfl

theorem root_free : (l.free t).root u = if l.root u = some t then none else l.root u := rfl

theorem Within.create (h : l.Within roots) : (l.create t).Within (t :: roots) := by
  intro u r hu
  by_cases hut : u = t
  · rw [hut, root_create_self] at hu
    obtain rfl := Option.some.inj hu
    exact List.mem_cons_self
  · rw [root_create_of_ne hut] at hu
    exact List.mem_cons_of_mem _ (h u r hu)

theorem Within.adopt (h : l.Within roots) (hr : l.root r = some r) (hc : l.root c = none) :
    (l.adopt r c hr hc).Within roots := by
  intro u x hu
  by_cases huc : u = c
  · rw [huc, root_adopt_self] at hu
    obtain rfl := Option.some.inj hu
    exact h r r hr
  · rw [root_adopt_of_ne hr hc huc] at hu
    exact h u x hu

/-- What was given away is no root any more. -/
theorem Within.give (h : l.Within (c :: roots)) (hr : l.root r = some r) (hne : r ≠ c) :
    (l.give r c hr hne).Within roots := by
  intro u x hu
  rw [root_give] at hu
  by_cases huc : l.root u = some c
  · rw [if_pos huc] at hu
    obtain rfl := Option.some.inj hu
    exact (List.mem_cons.1 (h r r hr)).resolve_left hne
  · rw [if_neg huc] at hu
    refine (List.mem_cons.1 (h u x hu)).resolve_left ?_
    rintro rfl
    exact huc hu

theorem Within.free (h : l.Within (t :: roots)) : (l.free t).Within roots := by
  intro u x hu
  rw [root_free] at hu
  by_cases hut : l.root u = some t
  · rw [if_pos hut] at hu
    cases hu
  · rw [if_neg hut] at hu
    refine (List.mem_cons.1 (h u x hu)).resolve_left ?_
    rintro rfl
    exact hut hu

end

/-! ## The rules -/

section
variable [DecidableEq τ] [DecidableEq β]

/-- Nothing borrowed by the tree with root `r` is dead. -/
def Alive (l : Ledger τ β) (r : τ) : Prop := ∀ e ∈ l.lent, l.root e.1 = some r → e.2 ∉ l.dead

instance (l : Ledger τ β) (r : τ) : Decidable (l.Alive r) :=
  inferInstanceAs (Decidable (∀ e ∈ l.lent, _))

/-- One operation; `none` where it breaks a rule. -/
def step (l : Ledger τ β) : TreeOp τ β → Option (Ledger τ β)
  | .create t => if l.root t = none then some (l.create t) else none
  | .put t => if l.root t = none then none else some l
  | .lend t b =>
    if l.root t = none ∨ b ∈ l.dead then none else some { l with lent := (t, b) :: l.lent }
  | .give t c =>
    match h : l.root t with
    | none => none
    | some r =>
      if hc : l.root c = some c ∧ r ≠ c then some (l.give r c (l.root_root t r h) hc.2) else none
  | .encode t =>
    match l.root t with
    | none => none
    | some r => if l.Alive r then some l else none
  | .free t => if l.root t = some t then some (l.free t) else none
  | .dies b => some { l with dead := b :: l.dead }

def run (l : Ledger τ β) : List (TreeOp τ β) → Option (Ledger τ β)
  | [] => some l
  | op :: ops => (l.step op).bind fun l => run l ops

/-- Every operation keeps the rules, and in the end every tree was freed. -/
def Respects (ops : List (TreeOp τ β)) : Prop :=
  ∃ l, run empty ops = some l ∧ ∀ t, l.root t = none

/-! ## Running the operations one by one -/

variable (l : Ledger τ β) {t c r : τ} {ops : List (TreeOp τ β)}

theorem run_append (ops ops' : List (TreeOp τ β)) :
    run l (ops ++ ops') = (run l ops).bind fun l => run l ops' := by
  induction ops generalizing l with
  | nil => rfl
  | cons op ops ih =>
    show (l.step op).bind _ = ((l.step op).bind _).bind _
    cases l.step op with
    | none => rfl
    | some l' => exact ih l'

theorem run_cons_of_some {l' : Ledger τ β} {op : TreeOp τ β} (h : l.step op = some l') :
    run l (op :: ops) = run l' ops := by
  show (l.step op).bind _ = _
  rw [h]
  rfl

theorem run_create (h : l.root t = none) : run l (.create t :: ops) = run (l.create t) ops :=
  l.run_cons_of_some (if_pos h)

theorem run_put (h : l.root t = some r) : run l (.put t :: ops) = run l ops := by
  refine l.run_cons_of_some (if_neg ?_)
  rw [h]
  exact Option.some_ne_none r

theorem run_puts (h : l.root t = some r) (n : Nat) :
    run l (List.replicate n (.put t) ++ ops) = run l ops := by
  induction n with
  | zero => rfl
  | succ n ih =>
    rw [List.replicate_succ, List.cons_append, l.run_put h]
    exact ih

theorem run_give (ht : l.root t = some r) (hc : l.root c = some c) (hne : r ≠ c) :
    run l (.give t c :: ops) = run (l.give r c (l.root_root t r ht) hne) ops := by
  refine l.run_cons_of_some ?_
  simp only [step]
  split
  · next h => cases h.symm.trans ht
  · next r' h =>
    obtain rfl : r = r' := Option.some.inj (ht.symm.trans h)
    exact dif_pos ⟨hc, hne⟩

theorem run_encode (ht : l.root t = some r) (halive : l.Alive r) :
    run l (.encode t :: ops) = run l ops := by
  refine l.run_cons_of_some ?_
  simp only [step, ht, if_pos halive]

theorem run_free (h : l.root t = some t) : run l (.free t :: ops) = run (l.free t) ops :=
  l.run_cons_of_some (if_pos h)

/-! ## A child made in place -/

theorem run_childOps (ht : l.root t = some r) (hc : l.root c = none) (n : Nat) :
    run l (childOps t c n ++ ops) =
      run (l.adopt r c (l.root_root t r ht) hc) ops := by
  have hr := l.root_root t r ht
  have hne : ∀ u, l.root u ≠ none → u ≠ c := by
    rintro u hu rfl
    exact hu hc
  have htc : t ≠ c := hne t (by rw [ht]; exact Option.some_ne_none r)
  have hrc : r ≠ c := hne r (by rw [hr]; exact Option.some_ne_none r)
  have hself : (l.create c).root c = some c := root_create_self
  have htr : (l.create c).root t = some r := (root_create_of_ne htc).trans ht
  rw [childOps, List.cons_append, l.run_create hc, List.append_assoc,
    (l.create c).run_puts hself, List.singleton_append, (l.create c).run_give htr hself hrc]
  congr 1
  -- no other tree had `c` as its root
  have hroot : ((l.create c).give r c ((l.create c).root_root t r htr) hrc).root =
      (l.adopt r c hr hc).root := by
    funext u
    show (if Function.update l.root c (some c) u = some c then some r
      else Function.update l.root c (some c) u) = Function.update l.root c (some r) u
    by_cases hu : u = c
    · rw [hu, Function.update_self, Function.update_self, if_pos rfl]
    · rw [Function.update_of_ne hu, Function.update_of_ne hu, if_neg]
      intro huc
      exact absurd (l.root_root u c huc) (by rw [hc]; exact (Option.some_ne_none c).symm)
  simp only [give, create, adopt] at hroot ⊢
  simp only [hroot]

variable {l}

/-- Children with names of their own go into one tree, one after the other. -/
theorem run_children (roots : List τ) (ops : List (TreeOp τ β)) (cs : List τ) (ht : l.root t = some r) (hfresh : ∀ c ∈ cs, l.root c = none)
    (hnodup : cs.Nodup) (n : Nat) :
    ∃ l', run l (cs.flatMap (childOps t · n) ++ ops) = run l' ops ∧ l'.lent = l.lent ∧
      (∀ u, u ∉ cs → l'.root u = l.root u) ∧ (l.Within roots → l'.Within roots) := by
  induction cs generalizing l with
  | nil => exact ⟨l, rfl, rfl, fun u _ => rfl, id⟩
  | cons c cs ih =>
    obtain ⟨hnot, hnodup⟩ := List.nodup_cons.1 hnodup
    have hc := hfresh c List.mem_cons_self
    have hr := l.root_root t r ht
    have htc : t ≠ c := by
      rintro rfl
      cases hc.symm.trans ht
    obtain ⟨l', hrun, hlent, hroot, hwithin⟩ := ih (l := l.adopt r c hr hc)
      ((root_adopt_of_ne hr hc htc).trans ht)
      (fun c' hc' => (root_adopt_of_ne hr hc (by rintro rfl; exact hnot hc')).trans
        (hfresh c' (List.mem_cons_of_mem _ hc'))) hnodup
    refine ⟨l', ?_, hlent, ?_, fun h => hwithin (h.adopt hr hc)⟩
    · rw [List.flatMap_cons, List.append_assoc, l.run_childOps ht hc, hrun]
    · intro u hu
      obtain ⟨huc, hu⟩ := not_or.1 (mt List.mem_cons.2 hu)
      exact (hroot u hu).trans (root_adopt_of_ne hr hc huc)

/-! ## What breaks the rules -/

/-- What an operation does to the roots. -/
theorem step_root {l' : Ledger τ β} {op : TreeOp τ β} (h : l.step op = some l') :
    (∃ t, op = .create t ∧ l.root t = none ∧ l'.root = Function.update l.root t (some t)) ∨
    (∃ p c r, op = .give p c ∧ l.root r = some r ∧
      ∀ u, l'.root u = if l.root u = some c then some r else l.root u) ∨
    (∃ t, op = .free t ∧ ∀ u, l'.root u = if l.root u = some t then none else l.root u) ∨
    l'.root = l.root := by
  cases op with
  | create t =>
    simp only [step, Option.ite_none_right_eq_some, Option.some.injEq] at h
    obtain ⟨ht, rfl⟩ := h
    exact Or.inl ⟨t, rfl, ht, rfl⟩
  | give p c =>
    simp only [step] at h
    split at h
    · cases h
    · next r hr =>
      split at h
      · obtain rfl := Option.some.inj h
        exact Or.inr (Or.inl ⟨p, c, r, rfl, l.root_root p r hr, fun _ => rfl⟩)
      · cases h
  | free t =>
    simp only [step, Option.ite_none_right_eq_some, Option.some.injEq] at h
    obtain ⟨-, rfl⟩ := h
    exact Or.inr (Or.inr (Or.inl ⟨t, rfl, fun _ => rfl⟩))
  | put t =>
    simp only [step, Option.ite_none_left_eq_some, Option.some.injEq] at h
    obtain ⟨-, rfl⟩ := h
    exact Or.inr (Or.inr (Or.inr rfl))
  | lend t b =>
    simp only [step, Option.ite_none_left_eq_some, Option.some.injEq] at h
    obtain ⟨-, rfl⟩ := h
    exact Or.inr (Or.inr (Or.inr rfl))
  | encode t =>
    simp only [step] at h
    split at h
    · cases h
    · simp only [Option.ite_none_right_eq_some, Option.some.injEq] at h
      obtain ⟨-, rfl⟩ := h
      exact Or.inr (Or.inr (Or.inr rfl))
  | dies b =>
    obtain rfl := Option.some.inj h
    exact Or.inr (Or.inr (Or.inr rfl))

/-- A root stays one while it is neither given away nor freed. -/
theorem root_of_run {l' : Ledger τ β} (hrun : run l ops = some l') (ht : l.root t = some t)
    (hops : KeepsAll t ops) : l'.root t = some t := by
  induction ops generalizing l with
  | nil =>
    obtain rfl : l = l' := Option.some.inj hrun
    exact ht
  | cons op ops ih =>
    obtain ⟨l₁, hstep, hrest⟩ := Option.bind_eq_some_iff.1 hrun
    obtain ⟨hfree, hgive⟩ := hops op List.mem_cons_self
    refine ih hrest ?_ fun op hop => hops op (List.mem_cons_of_mem _ hop)
    rcases step_root hstep with ⟨c, -, hc, hroot⟩ | ⟨p, c, r, rfl, -, hroot⟩ | ⟨c, rfl, hroot⟩ | hroot
    · have htc : t ≠ c := by
        rintro rfl
        cases hc.symm.trans ht
      rw [hroot, Function.update_of_ne htc, ht]
    · have htc : l.root t ≠ some c := by
        rw [ht]
        rintro ⟨⟩
        exact hgive p rfl
      rw [hroot, if_neg htc, ht]
    · have htc : l.root t ≠ some c := by
        rw [ht]
        rintro ⟨⟩
        exact hfree rfl
      rw [hroot, if_neg htc, ht]
    · rw [hroot, ht]

/-- What is no root becomes one only when it is created. -/
theorem not_root_of_run {l' : Ledger τ β} (hrun : run l ops = some l') (hc : l.root c ≠ some c)
    (hops : .create c ∉ ops) : l'.root c ≠ some c := by
  induction ops generalizing l with
  | nil =>
    obtain rfl : l = l' := Option.some.inj hrun
    exact hc
  | cons op ops ih =>
    obtain ⟨l₁, hstep, hrest⟩ := Option.bind_eq_some_iff.1 hrun
    obtain ⟨hop, hops⟩ := not_or.1 (mt List.mem_cons.2 hops)
    refine ih hrest ?_ hops
    rcases step_root hstep with ⟨t, rfl, -, hroot⟩ | ⟨p, d, r, rfl, hr, hroot⟩ | ⟨t, rfl, hroot⟩ |
      hroot
    · rw [hroot, Function.update_of_ne (fun h => hop (by rw [h]))]
      exact hc
    · rw [hroot]
      split
      · intro h
        obtain rfl := Option.some.inj h
        exact hc hr
      · exact hc
    · rw [hroot]
      split
      · exact (Option.some_ne_none c).symm
      · exact hc
    · rw [hroot]
      exact hc

/-- **A leak**: a tree created, and never given away or freed. -/
theorem not_respects_of_leak (t : τ) (hcreate : .create t ∈ ops)
    (hops : KeepsAll t ops) : ¬Respects ops := by
  rintro ⟨l, hrun, hnone⟩
  obtain ⟨pre, post, rfl⟩ := List.append_of_mem hcreate
  rw [run_append] at hrun
  obtain ⟨l₁, -, hrun⟩ := Option.bind_eq_some_iff.1 hrun
  obtain ⟨l₂, hstep, hrun⟩ := Option.bind_eq_some_iff.1 hrun
  simp only [step, Option.ite_none_right_eq_some, Option.some.injEq] at hstep
  obtain ⟨-, rfl⟩ := hstep
  have hroot := root_of_run hrun root_create_self fun op hop =>
    hops op (List.mem_append_right _ (List.mem_cons_of_mem _ hop))
  cases hroot.symm.trans (hnone t)

/-- **A freed child**: a tree given away and then freed itself. -/
theorem not_respects_of_freed_child (pre mid post : List (TreeOp τ β)) (t c : τ)
    (hmid : .create c ∉ mid) : ¬Respects (pre ++ .give t c :: (mid ++ .free c :: post)) := by
  rintro ⟨l, hrun, -⟩
  rw [run_append] at hrun
  obtain ⟨l₁, -, hrun⟩ := Option.bind_eq_some_iff.1 hrun
  obtain ⟨l₂, hgive, hrun⟩ := Option.bind_eq_some_iff.1 hrun
  rw [run_append] at hrun
  obtain ⟨l₃, hmidrun, hrun⟩ := Option.bind_eq_some_iff.1 hrun
  obtain ⟨l₄, hfree, -⟩ := Option.bind_eq_some_iff.1 hrun
  have hgiven : l₂.root c ≠ some c := by
    simp only [step] at hgive
    split at hgive
    · cases hgive
    · split at hgive
      · next hc =>
        obtain rfl := Option.some.inj hgive
        rw [root_give, if_pos hc.1]
        exact fun h => hc.2 (Option.some.inj h)
      · cases hgive
  simp only [step, Option.ite_none_right_eq_some] at hfree
  exact not_root_of_run hmidrun hgiven hmid hfree.1

/-- **A dead text**: a buffer lent and dead before the tree is encoded. -/
theorem not_respects_of_dead_text (pre post : List (TreeOp τ β)) (t : τ) (b : β) :
    ¬Respects (pre ++ .lend t b :: .dies b :: .encode t :: post) := by
  rintro ⟨l, hrun, -⟩
  rw [run_append] at hrun
  obtain ⟨l₁, -, hrun⟩ := Option.bind_eq_some_iff.1 hrun
  obtain ⟨l₂, hlend, hrun⟩ := Option.bind_eq_some_iff.1 hrun
  obtain ⟨l₃, hdies, hrun⟩ := Option.bind_eq_some_iff.1 hrun
  obtain ⟨l₄, hencode, -⟩ := Option.bind_eq_some_iff.1 hrun
  simp only [step, Option.ite_none_left_eq_some, Option.some.injEq] at hlend
  obtain ⟨-, rfl⟩ := hlend
  obtain rfl := Option.some.inj hdies
  simp only [step] at hencode
  split at hencode
  · cases hencode
  · next r hr =>
    simp only [Option.ite_none_right_eq_some, Option.some.injEq] at hencode
    exact hencode.1 (t, b) List.mem_cons_self hr List.mem_cons_self

end

end Ledger
