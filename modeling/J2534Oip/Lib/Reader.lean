import Mathlib.Data.List.Basic

/-!
# Readers: reassembling items from a stream that arrives in pieces

A `Reader` takes turns on a buffer: a turn, when there is one, removes some of the buffer
and gives items.  What makes it independent of how the stream is cut is `stable`: a turn
that is possible stays possible, with the same effect, when more follows.  Then, for a
buffer on which no turn is left (`Idle`),

    feed st cs = drain st.1 (st.2 ++ cs.flatten)                         (feed_eq_drain)

so two cuttings of one stream give the same items and the same end state.
-/

/-- One turn on a state and a buffer: the next state, the rest of the buffer, the items. -/
structure Reader (σ α ω : Type*) where
  turn : σ → List α → Option (σ × List α × List ω)
  /-- a turn consumes -/
  shrinks : ∀ {s buf s' buf' out}, turn s buf = some (s', buf', out) → buf'.length < buf.length
  /-- a turn is not affected by what follows the buffer -/
  stable : ∀ {s buf s' buf' out} (more : List α), turn s buf = some (s', buf', out) →
    turn s (buf ++ more) = some (s', buf' ++ more, out)

namespace Reader

variable {σ α ω : Type*} (R : Reader σ α ω)

/-- At most `n` turns. -/
def drainN : Nat → σ → List α → (σ × List α) × List ω
  | 0, s, buf => ((s, buf), [])
  | n + 1, s, buf =>
    match R.turn s buf with
    | none => ((s, buf), [])
    | some (s', buf', out) =>
      let r := drainN n s' buf'
      (r.1, out ++ r.2)

/-- Turns until none is left; every turn shortens the buffer. -/
def drain (s : σ) (buf : List α) : (σ × List α) × List ω := R.drainN buf.length s buf

/-- No turn is left. -/
def Idle (st : σ × List α) : Prop := R.turn st.1 st.2 = none

/-- The stream arrives in pieces, and is drained after each. -/
def feed : σ × List α → List (List α) → (σ × List α) × List ω
  | st, [] => (st, [])
  | st, c :: cs =>
    let r := R.drain st.1 (st.2 ++ c)
    let t := feed r.1 cs
    (t.1, r.2 ++ t.2)

/-! ## Draining -/

theorem drainN_idle (n : Nat) (s : σ) (buf : List α) (h : R.turn s buf = none) :
    R.drainN n s buf = ((s, buf), []) := by
  cases n with
  | zero => rfl
  | succ n => simp only [drainN, h]

/-- Enough turns are as good as any other number that is enough. -/
theorem drainN_eq_drain (n : Nat) (s : σ) (buf : List α) (h : buf.length ≤ n) :
    R.drainN n s buf = R.drain s buf := by
  have key : ∀ (l n m : Nat) (s : σ) (buf : List α), buf.length = l → l ≤ n → l ≤ m →
      R.drainN n s buf = R.drainN m s buf := by
    intro l
    induction l using Nat.strongRecOn with
    | ind l ih =>
      intro n m s buf hl hn hm
      cases ht : R.turn s buf with
      | none => rw [R.drainN_idle n s buf ht, R.drainN_idle m s buf ht]
      | some r =>
        obtain ⟨s', buf', out⟩ := r
        have hlt := R.shrinks ht
        obtain ⟨n, rfl⟩ : ∃ k, n = k + 1 := ⟨n - 1, by omega⟩
        obtain ⟨m, rfl⟩ : ∃ k, m = k + 1 := ⟨m - 1, by omega⟩
        simp only [drainN, ht]
        rw [ih buf'.length (by omega) n m s' buf' rfl (by omega) (by omega)]
  exact key buf.length n buf.length s buf rfl h (Nat.le_refl _)

theorem drain_idle (s : σ) (buf : List α) (h : R.turn s buf = none) :
    R.drain s buf = ((s, buf), []) :=
  R.drainN_idle _ s buf h

theorem drain_turn {s : σ} {buf : List α} {s' : σ} {buf' : List α} {out : List ω}
    (h : R.turn s buf = some (s', buf', out)) :
    R.drain s buf = ((R.drain s' buf').1, out ++ (R.drain s' buf').2) := by
  have hlt := R.shrinks h
  obtain ⟨n, hn⟩ : ∃ n, buf.length = n + 1 := ⟨buf.length - 1, by omega⟩
  rw [drain, hn]
  simp only [drainN, h]
  rw [R.drainN_eq_drain n s' buf' (by omega)]

/-- Induction along the turns of a drain. -/
theorem drain_induction {motive : σ → List α → Prop}
    (idle : ∀ s buf, R.turn s buf = none → motive s buf)
    (turn : ∀ s buf s' buf' out, R.turn s buf = some (s', buf', out) → motive s' buf' → motive s buf)
    (s : σ) (buf : List α) : motive s buf := by
  have key : ∀ (l : Nat) (s : σ) (buf : List α), buf.length = l → motive s buf := by
    intro l
    induction l using Nat.strongRecOn with
    | ind l ih =>
      intro s buf hl
      cases ht : R.turn s buf with
      | none => exact idle s buf ht
      | some r =>
        obtain ⟨s', buf', out⟩ := r
        have hlt := R.shrinks ht
        exact turn s buf s' buf' out ht (ih buf'.length (by omega) s' buf' rfl)
  exact key buf.length s buf rfl

theorem idle_drain (s : σ) (buf : List α) : R.Idle (R.drain s buf).1 := by
  induction s, buf using R.drain_induction with
  | idle s buf h => rw [R.drain_idle s buf h]; exact h
  | turn s buf s' buf' out h ih => rw [R.drain_turn h]; exact ih

/-- **Draining may pause.**  What follows can be appended to what a drain left over. -/
theorem drain_append (s : σ) (buf more : List α) :
    R.drain s (buf ++ more) =
      ((R.drain (R.drain s buf).1.1 ((R.drain s buf).1.2 ++ more)).1,
        (R.drain s buf).2 ++ (R.drain (R.drain s buf).1.1 ((R.drain s buf).1.2 ++ more)).2) := by
  induction s, buf using R.drain_induction with
  | idle s buf h => rw [R.drain_idle s buf h]; rfl
  | turn s buf s' buf' out h ih =>
    rw [R.drain_turn (R.stable more h), R.drain_turn h, ih]
    simp only [List.append_assoc]

/-! ## Feeding -/

/-- **Cutting does not matter.**  From an idle state, pieces are as good as the whole. -/
theorem feed_eq_drain (st : σ × List α) (cs : List (List α)) (h : R.Idle st) :
    R.feed st cs = R.drain st.1 (st.2 ++ cs.flatten) := by
  induction cs generalizing st with
  | nil => simp only [feed, List.flatten_nil, List.append_nil, R.drain_idle st.1 st.2 h]
  | cons c cs ih =>
    simp only [feed, List.flatten_cons]
    rw [ih _ (R.idle_drain _ _), ← List.append_assoc, R.drain_append st.1 (st.2 ++ c)]

/-- Two cuttings of one stream. -/
theorem feed_congr (st : σ × List α) (cs cs' : List (List α)) (h : R.Idle st)
    (hcs : cs.flatten = cs'.flatten) : R.feed st cs = R.feed st cs' := by
  rw [R.feed_eq_drain st cs h, R.feed_eq_drain st cs' h, hcs]

theorem feed_append (st : σ × List α) (cs cs' : List (List α)) :
    R.feed st (cs ++ cs') =
      ((R.feed (R.feed st cs).1 cs').1, (R.feed st cs).2 ++ (R.feed (R.feed st cs).1 cs').2) := by
  induction cs generalizing st with
  | nil => rfl
  | cons c cs ih => simp only [List.cons_append, feed, ih, List.append_assoc]

end Reader
