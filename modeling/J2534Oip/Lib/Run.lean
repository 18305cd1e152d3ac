import Mathlib.Data.List.Basic
import Mathlib.Logic.Relation

/-!
# Runs of a labelled transition system

A step takes a state to a state and shows an act; a run shows the acts of its steps in
order.  Two rules: what holds at the start and is kept by a step holds at the end of a run
(`Run.invariant`), and what each step gives its act in view of the acts before holds of
every act of a run (`Run.acts`).  A simulation of steps is one of runs (`Run.map`), also where
some steps show nothing (`Run.project`).

Where whatever cannot go on waits for something of a smaller rank, each chain of waiting
ends at something that can (`exists_ready`).
-/

/-- A run from `init` that showed `es` and ended in a state. -/
inductive Run {σ ε : Type*} (Step : σ → ε → σ → Prop) (init : σ) : List ε → σ → Prop
  | start : Run Step init [] init
  | next {es : List ε} {s s' : σ} {e : ε} :
      Run Step init es s → Step s e s' → Run Step init (es ++ [e]) s'

namespace Run

variable {σ ε : Type*} {Step : σ → ε → σ → Prop} {init s : σ} {es : List ε}

/-- An invariant of the acts shown so far and the state. -/
theorem invariant {I : List ε → σ → Prop} (h : Run Step init es s) (h0 : I [] init)
    (hstep : ∀ es s e s', Run Step init es s → I es s → Step s e s' → I (es ++ [e]) s') :
    I es s := by
  induction h with
  | start => exact h0
  | next hrun hs ih => exact hstep _ _ _ _ hrun ih hs

/-- A property of each act, in view of the acts before it. -/
theorem acts {P : List ε → ε → Prop} (h : Run Step init es s)
    (hstep : ∀ es s e s', Run Step init es s → Step s e s' → P es e) (pre : List ε) (e : ε)
    (post : List ε) (hes : es = pre ++ e :: post) : P pre e := by
  induction h generalizing post with
  | start => simp at hes
  | @next es s s' e' hrun hs ih =>
    rcases post.eq_nil_or_concat with rfl | ⟨post', e'', rfl⟩
    · obtain ⟨rfl, he⟩ := List.append_inj' hes rfl
      obtain rfl : e' = e := by simpa using he
      exact hstep _ _ _ _ hrun hs
    · rw [List.concat_eq_append, ← List.cons_append, ← List.append_assoc] at hes
      exact ih post' (List.append_inj_left' hes rfl)

/-- Where every step of one system is a step of another, every run is. -/
theorem map {σ' ε' : Type*} {Step' : σ' → ε' → σ' → Prop} (f : σ → σ') (g : ε → ε')
    (h : Run Step init es s)
    (hsim : ∀ es s e s', Run Step init es s → Step s e s' → Step' (f s) (g e) (f s')) :
    Run Step' (f init) (es.map g) (f s) := by
  induction h with
  | start => exact Run.start
  | next hrun hs ih =>
    rw [List.map_append]
    exact ih.next (hsim _ _ _ _ hrun hs)

/-- Where a step is one of another system, or shows nothing of it and leaves it alone. -/
theorem project {σ' ε' : Type*} {Step' : σ' → ε' → σ' → Prop} (f : σ → σ') (g : ε → Option ε')
    (h : Run Step init es s)
    (hsim : ∀ s e s' e', Step s e s' → g e = some e' → Step' (f s) e' (f s'))
    (hsilent : ∀ s e s', Step s e s' → g e = none → f s' = f s) :
    Run Step' (f init) (es.filterMap g) (f s) := by
  induction h with
  | start => exact Run.start
  | @next es s s' e hrun hs ih =>
    rw [List.filterMap_append]
    cases hg : g e with
    | none =>
      rw [List.filterMap_cons_none hg, List.filterMap_nil, List.append_nil, hsilent s e s' hs hg]
      exact ih
    | some e' =>
      rw [List.filterMap_cons_some hg, List.filterMap_nil]
      exact ih.next (hsim s e s' e' hs hg)

end Run

/-! ## Waiting -/

/-- **No cyclic wait**: from each `a`, along `waits`, something `ready` is found. -/
theorem exists_ready {α : Type*} {waits : α → α → Prop} {busy ready : α → Prop} (rank : α → Nat)
    (h : ∀ a, busy a → ready a ∨ ∃ b, busy b ∧ waits a b ∧ rank b < rank a) (a : α) (ha : busy a) :
    ∃ b, Relation.ReflTransGen waits a b ∧ ready b := by
  induction hn : rank a using Nat.strongRecOn generalizing a with
  | ind n ih =>
    subst hn
    rcases h a ha with hready | ⟨b, hb, hwait, hlt⟩
    · exact ⟨a, Relation.ReflTransGen.refl, hready⟩
    · obtain ⟨c, hchain, hready⟩ := ih (rank b) hlt b hb rfl
      exact ⟨c, Relation.ReflTransGen.head hwait hchain, hready⟩
