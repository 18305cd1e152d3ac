import J2534Oip.Lib.Run
import Mathlib.Logic.Function.Basic

/-!
# Peers on a network that loses, repeats and reorders

Each peer is a transition system of its own; an act emits items and may take one.  What was
emitted stays on the wire, and a peer may take whatever is on it, any number of times and in
any order, or never.  A run of the network is a run of each peer (`peer_run`), and nothing is
taken that was not emitted before:

    acts = before ++ (k, e) :: after → takes e = some b →
      ∃ k' e', (k', e') ∈ before ∧ b ∈ emits e'                           (taken_run)
-/

structure Network (κ σ β : Type*) where
  peer : κ → σ
  wire : List β

namespace Network

variable {κ σ ε β : Type*} [DecidableEq κ]

/-- A peer makes a step of its own. -/
inductive NetStep (Step : σ → ε → σ → Prop) (emits : ε → List β) (takes : ε → Option β) :
    Network κ σ β → κ × ε → Network κ σ β → Prop
  | step (n : Network κ σ β) (k : κ) (e : ε) (s' : σ) (h : Step (n.peer k) e s')
      (htakes : ∀ b, takes e = some b → b ∈ n.wire) :
      NetStep Step emits takes n (k, e)
        { peer := Function.update n.peer k s', wire := n.wire ++ emits e }

def start (init : κ → σ) : Network κ σ β := { peer := init, wire := [] }

/-- What one peer did. -/
def actsOf (k : κ) (acts : List (κ × ε)) : List ε :=
  acts.filterMap fun a => if a.1 = k then some a.2 else none

theorem mem_actsOf {k : κ} {e : ε} {acts : List (κ × ε)} : e ∈ actsOf k acts ↔ (k, e) ∈ acts := by
  unfold actsOf
  rw [List.mem_filterMap]
  constructor
  · rintro ⟨⟨k', e'⟩, hmem, heq⟩
    by_cases hk : k' = k
    · rw [if_pos hk] at heq
      obtain rfl := Option.some.inj heq
      exact hk ▸ hmem
    · rw [if_neg hk] at heq
      cases heq
  · exact fun hmem => ⟨(k, e), hmem, if_pos rfl⟩

section
variable {Step : σ → ε → σ → Prop} {emits : ε → List β} {takes : ε → Option β} {init : κ → σ}
  {acts : List (κ × ε)} {n : Network κ σ β}

/-- A run of the network is one of each peer. -/
theorem peer_run (h : Run (NetStep Step emits takes) (start init) acts n) (k : κ) :
    Run Step (init k) (actsOf k acts) (n.peer k) := by
  induction h with
  | start => exact Run.start
  | @next es m _ _ hrun hstep ih =>
    cases hstep with
    | step k' e s' h htakes =>
      show Run Step (init k) (actsOf k (es ++ [(k', e)])) (Function.update m.peer k' s' k)
      by_cases hk : k' = k
      · subst hk
        have hacts : actsOf k' (es ++ [(k', e)]) = actsOf k' es ++ [e] := by
          simp [actsOf]
        rw [hacts, Function.update_self]
        exact ih.next h
      · have hacts : actsOf k (es ++ [(k', e)]) = actsOf k es := by
          simp [actsOf, hk]
        rw [hacts, Function.update_of_ne (Ne.symm hk)]
        exact ih

/-- The wire has what was emitted. -/
theorem wire_run (h : Run (NetStep Step emits takes) (start init) acts n) :
    n.wire = acts.flatMap fun a => emits a.2 := by
  induction h with
  | start => rfl
  | next hrun hstep ih =>
    cases hstep with
    | step k e s' h htakes =>
      rw [List.flatMap_append, ← ih, List.flatMap_singleton]

/-- **Nothing is taken that was not emitted before.** -/
theorem taken_run (h : Run (NetStep Step emits takes) (start init) acts n)
    (before after : List (κ × ε)) (k : κ) (e : ε) (hacts : acts = before ++ (k, e) :: after)
    (b : β) (hb : takes e = some b) : ∃ k' e', (k', e') ∈ before ∧ b ∈ emits e' := by
  refine h.acts (P := fun before act => ∀ b, takes act.2 = some b →
    ∃ k' e', (k', e') ∈ before ∧ b ∈ emits e') ?_ before (k, e) after hacts b hb
  intro es s act s' hrun hstep b hb
  cases hstep with
  | step k e s' h htakes =>
    have hmem := htakes b hb
    rw [wire_run hrun, List.mem_flatMap] at hmem
    obtain ⟨⟨k', e'⟩, hact, hemits⟩ := hmem
    exact ⟨k', e', hact, hemits⟩

end

end Network
