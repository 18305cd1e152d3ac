import J2534Oip.CborLink
import J2534Oip.Lib.Run
import Mathlib.Logic.Function.Basic

/-!
# Log statements

`EXDBG_LOG << p₁ << … << EXDBG_END` appends each piece to the one `buffer_` of the process,
under `mutex_`; the end marker sends what the buffer holds and clears it, without the mutex.
A message is its own statement as long as no thread touches the buffer between the first
piece of another thread's statement and the clearing that ends it:

    Run ApartStep start acts s → Unmixed acts s                            (unmixed_run)

Two threads can break it (`mixed_run`).
-/

namespace J2534Oip

namespace ExDbg

/-! ## Threads -/

/-- Where a thread is in a statement: `done` is appended, `rest` not yet. -/
inductive Progress
  | idle
  | within (done rest : List (List UInt8))
  /-- the message is sent, the buffer not yet cleared -/
  | clearing

structure LogState (τ : Type*) where
  progress : τ → Progress
  buffer : List UInt8

inductive LogAct (τ : Type*)
  | begun (t : τ) (pieces : List (List UInt8))
  | appended (t : τ)
  | sent (t : τ) (message : List UInt8)
  | cleared (t : τ)

variable {τ : Type*} [DecidableEq τ]

namespace LogState

def start : LogState τ := { progress := fun _ => .idle, buffer := [] }

def set (s : LogState τ) (t : τ) (p : Progress) (buffer : List UInt8) : LogState τ :=
  { progress := Function.update s.progress t p, buffer := buffer }

@[simp] theorem progress_set_self (s : LogState τ) (t : τ) (p : Progress) (buffer : List UInt8) :
    (s.set t p buffer).progress t = p := Function.update_self ..

theorem progress_set_other (s : LogState τ) {t u : τ} (h : u ≠ t) (p : Progress)
    (buffer : List UInt8) : (s.set t p buffer).progress u = s.progress u :=
  Function.update_of_ne h ..

@[simp] theorem buffer_set (s : LogState τ) (t : τ) (p : Progress) (buffer : List UInt8) :
    (s.set t p buffer).buffer = buffer := rfl

end LogState

/-- One atomic step of one thread; a thread executes any statements. -/
inductive LogStep : LogState τ → LogAct τ → LogState τ → Prop
  | begin (s : LogState τ) (t : τ) (pieces : List (List UInt8)) (h : s.progress t = .idle) :
      LogStep s (.begun t pieces) (s.set t (.within [] pieces) s.buffer)
  | append (s : LogState τ) (t : τ) (done : List (List UInt8)) (piece : List UInt8)
      (rest : List (List UInt8)) (h : s.progress t = .within done (piece :: rest)) :
      LogStep s (.appended t) (s.set t (.within (done ++ [piece]) rest) (s.buffer ++ piece))
  | send (s : LogState τ) (t : τ) (done : List (List UInt8)) (h : s.progress t = .within done []) :
      LogStep s (.sent t s.buffer) (s.set t .clearing s.buffer)
  | clear (s : LogState τ) (t : τ) (h : s.progress t = .clearing) :
      LogStep s (.cleared t) (s.set t .idle [])

/-! ## The property -/

/-- The statements thread `t` began. -/
def begunBy (t : τ) (acts : List (LogAct τ)) : List (List (List UInt8)) :=
  acts.filterMap fun
    | .begun u pieces => if u = t then some pieces else none
    | _ => none

/-- The messages thread `t` sent. -/
def messagesBy (t : τ) (acts : List (LogAct τ)) : List (List UInt8) :=
  acts.filterMap fun
    | .sent u message => if u = t then some message else none
    | _ => none

/-- The text of a statement whose message is not sent yet. -/
def unsent : Progress → List (List UInt8)
  | .within done rest => [(done ++ rest).flatten]
  | .idle | .clearing => []

/-- Each thread's messages are the texts of its statements, each once. -/
def Unmixed (acts : List (LogAct τ)) (s : LogState τ) : Prop :=
  ∀ t, (begunBy t acts).map List.flatten = messagesBy t acts ++ unsent (s.progress t)

/-! ## Statements apart -/

/-- Between the first piece of a statement and the clearing of the buffer. -/
def Active : Progress → Prop
  | .idle => False
  | .within done _ => done ≠ []
  | .clearing => True

/-- A piece or an end marker comes when no other thread is between. -/
def StatementsApart (s : LogState τ) : LogAct τ → Prop
  | .appended t | .sent t _ => ∀ u, u ≠ t → ¬Active (s.progress u)
  | .begun _ _ | .cleared _ => True

def ApartStep (s : LogState τ) (act : LogAct τ) (s' : LogState τ) : Prop :=
  LogStep s act s' ∧ StatementsApart s act

/-- At most one thread is between, and the buffer holds what it appended. -/
structure Tidy (s : LogState τ) : Prop where
  alone : ∀ t u, Active (s.progress t) → Active (s.progress u) → t = u
  own : ∀ t done rest, s.progress t = .within done rest → done ≠ [] → s.buffer = done.flatten
  empty : (∀ t, ¬Active (s.progress t)) → s.buffer = []

omit [DecidableEq τ] in
theorem tidy_start : Tidy (LogState.start : LogState τ) where
  alone := fun _ _ ht => absurd ht id
  own := nofun
  empty := fun _ => rfl

omit [DecidableEq τ] in
/-- The buffer of a thread that no other is in the way of. -/
theorem Tidy.buffer_eq {s : LogState τ} (h : Tidy s) {t : τ} {done rest : List (List UInt8)}
    (ht : s.progress t = .within done rest) (hother : ∀ u, u ≠ t → ¬Active (s.progress u)) :
    s.buffer = done.flatten := by
  by_cases hdone : done = []
  · subst hdone
    apply h.empty
    intro u hu
    by_cases hut : u = t
    · rw [hut, ht] at hu
      exact hu rfl
    · exact hother u hut hu
  · exact h.own t done rest ht hdone

omit [DecidableEq τ] in
theorem tidy_of_only {s : LogState τ} (t : τ) (hother : ∀ u, u ≠ t → ¬Active (s.progress u))
    (ht : Active (s.progress t))
    (hown : ∀ done rest, s.progress t = .within done rest → s.buffer = done.flatten) : Tidy s where
  alone := by
    intro u v hu hv
    have hut : u = t := by_contra fun hne => hother u hne hu
    have hvt : v = t := by_contra fun hne => hother v hne hv
    rw [hut, hvt]
  own := by
    intro u done rest hu hdone
    by_cases hut : u = t
    · subst hut
      exact hown done rest hu
    · refine absurd ?_ (hother u hut)
      rw [hu]
      exact hdone
  empty := fun hnone => absurd ht (hnone t)

/-- A thread that begins is not between, and no other thread moves. -/
theorem active_begin {s : LogState τ} {t : τ} (h : s.progress t = .idle)
    (pieces : List (List UInt8)) (u : τ) :
    Active ((s.set t (.within [] pieces) s.buffer).progress u) ↔ Active (s.progress u) := by
  by_cases hut : u = t
  · rw [hut, LogState.progress_set_self, h]
    exact iff_of_false (fun hne => hne rfl) id
  · rw [s.progress_set_other hut]

theorem tidy_begin {s : LogState τ} (h : Tidy s) {t : τ} (ht : s.progress t = .idle)
    (pieces : List (List UInt8)) : Tidy (s.set t (.within [] pieces) s.buffer) where
  alone := by
    intro u v hu hv
    rw [active_begin ht] at hu hv
    exact h.alone u v hu hv
  own := by
    intro u done rest hu hdone
    by_cases hut : u = t
    · rw [hut, LogState.progress_set_self] at hu
      obtain ⟨rfl, -⟩ := Progress.within.inj hu
      exact absurd rfl hdone
    · rw [s.progress_set_other hut] at hu
      exact h.own u done rest hu hdone
  empty := fun hnone => h.empty fun u hu => hnone u ((active_begin ht pieces u).2 hu)

/-- After the clearing no thread is between. -/
theorem tidy_clear {s : LogState τ} (h : Tidy s) {t : τ} (ht : s.progress t = .clearing) :
    Tidy (s.set t .idle []) := by
  have hactive : Active (s.progress t) := by
    rw [ht]
    exact trivial
  have hnone : ∀ u, ¬Active ((s.set t .idle []).progress u) := by
    intro u hu
    by_cases hut : u = t
    · rw [hut, LogState.progress_set_self] at hu
      exact hu
    · rw [s.progress_set_other hut] at hu
      exact hut (h.alone u t hu hactive)
  refine ⟨fun u v hu => absurd hu (hnone u), fun u done rest hu hdone => ?_, fun _ => rfl⟩
  refine absurd ?_ (hnone u)
  rw [hu]
  exact hdone

theorem tidy_step {s s' : LogState τ} {act : LogAct τ} (h : Tidy s) (hstep : LogStep s act s')
    (hapart : StatementsApart s act) : Tidy s' := by
  cases hstep with
  | begin t pieces ht => exact tidy_begin h ht pieces
  | append t done piece rest ht =>
    refine tidy_of_only t ?_ ?_ ?_
    · intro u hut
      rw [s.progress_set_other hut]
      exact hapart u hut
    · rw [LogState.progress_set_self]
      exact List.append_ne_nil_of_right_ne_nil _ (List.cons_ne_nil _ _)
    · intro done' rest' ht'
      rw [LogState.progress_set_self] at ht'
      obtain ⟨rfl, -⟩ := Progress.within.inj ht'
      rw [LogState.buffer_set, h.buffer_eq ht hapart, List.flatten_append, List.flatten_singleton]
  | send t done ht =>
    refine tidy_of_only t ?_ ?_ ?_
    · intro u hut
      rw [s.progress_set_other hut]
      exact hapart u hut
    · rw [LogState.progress_set_self]
      exact trivial
    · intro done' rest' ht'
      rw [LogState.progress_set_self] at ht'
      cases ht'
  | clear t ht => exact tidy_clear h ht

/-! ## Messages -/

theorem begunBy_append (t : τ) (acts acts' : List (LogAct τ)) :
    begunBy t (acts ++ acts') = begunBy t acts ++ begunBy t acts' := List.filterMap_append

theorem messagesBy_append (t : τ) (acts acts' : List (LogAct τ)) :
    messagesBy t (acts ++ acts') = messagesBy t acts ++ messagesBy t acts' := List.filterMap_append

/-- A step of thread `t` that keeps its account. -/
theorem unmixed_set {s : LogState τ} {acts : List (LogAct τ)} {act : LogAct τ} {t : τ}
    {p : Progress} {buffer : List UInt8} (h : Unmixed acts s)
    (hother : ∀ u, u ≠ t → begunBy u [act] = [] ∧ messagesBy u [act] = [])
    (hown : unsent (s.progress t) ++ (begunBy t [act]).map List.flatten =
      messagesBy t [act] ++ unsent p) :
    Unmixed (acts ++ [act]) (s.set t p buffer) := by
  intro u
  rw [begunBy_append, messagesBy_append, List.map_append, h u]
  by_cases hut : u = t
  · subst hut
    rw [LogState.progress_set_self, List.append_assoc, hown, List.append_assoc]
  · obtain ⟨hbegun, hmessages⟩ := hother u hut
    rw [hbegun, hmessages, s.progress_set_other hut, List.append_nil]
    exact List.append_nil _

theorem unmixed_step {s s' : LogState τ} {acts : List (LogAct τ)} {act : LogAct τ} (h : Unmixed acts s)
    (htidy : Tidy s) (hstep : LogStep s act s') (hapart : StatementsApart s act) :
    Unmixed (acts ++ [act]) s' := by
  cases hstep with
  | begin t pieces ht =>
    refine unmixed_set h (fun u hut => ?_) ?_
    · simp [begunBy, messagesBy, Ne.symm hut]
    · simp [begunBy, messagesBy, ht, unsent]
  | append t done piece rest ht =>
    refine unmixed_set h (fun u _ => ⟨rfl, rfl⟩) ?_
    rw [ht]
    simp [begunBy, messagesBy, unsent]
  | send t done ht =>
    have hbuffer := htidy.buffer_eq ht hapart
    refine unmixed_set h (fun u hut => ?_) ?_
    · simp [begunBy, messagesBy, Ne.symm hut]
    · simp [begunBy, messagesBy, ht, unsent, hbuffer]
  | clear t ht =>
    refine unmixed_set h (fun u _ => ⟨rfl, rfl⟩) ?_
    rw [ht]
    rfl

/-! ## Main result -/

/-- **Log statements are not mixed** in a run whose statements are apart. -/
theorem unmixed_run (acts : List (LogAct τ)) (s : LogState τ)
    (h : Run ApartStep LogState.start acts s) : Unmixed acts s := by
  have hinv : Tidy s ∧ Unmixed acts s := by
    refine h.invariant (I := fun acts s => Tidy s ∧ Unmixed acts s) ⟨tidy_start, fun _ => rfl⟩ ?_
    rintro acts s act s' _ ⟨htidy, hunmixed⟩ ⟨hstep, hapart⟩
    exact ⟨tidy_step htidy hstep hapart, unmixed_step hunmixed htidy hstep hapart⟩
  exact hinv.2

/-- Two threads in statements of two pieces at once: the one appends and sends, then the other. -/
theorem unmixed_run_turns :
    ∃ (acts : List (LogAct Bool)) (s : LogState Bool), Run ApartStep LogState.start acts s ∧
      begunBy false acts = [[utf8 "a", utf8 "b"]] ∧ begunBy true acts = [[utf8 "c", utf8 "d"]] ∧
      messagesBy false acts = [utf8 "ab"] ∧ messagesBy true acts = [utf8 "cd"] ∧
      Unmixed acts s := by
  -- the other thread has appended nothing yet, or is done
  have hother : ∀ (t : Bool) (s : LogState Bool), ¬Active (s.progress (!t)) →
      ∀ u, u ≠ t → ¬Active (s.progress u) := by
    intro t s hs u hu
    rw [Bool.eq_not_of_ne hu]
    exact hs
  have hbegin := Run.start.next (show ApartStep (LogState.start : LogState Bool) _ _ from
    ⟨LogStep.begin _ false [utf8 "a", utf8 "b"] rfl, trivial⟩)
  have hbegin' := hbegin.next (show ApartStep _ _ _ from
    ⟨LogStep.begin _ true [utf8 "c", utf8 "d"] rfl, trivial⟩)
  have ha := hbegin'.next (show ApartStep _ _ _ from
    ⟨LogStep.append _ false [] (utf8 "a") [utf8 "b"] rfl, hother false _ fun h => h rfl⟩)
  have hb := ha.next (show ApartStep _ _ _ from
    ⟨LogStep.append _ false [utf8 "a"] (utf8 "b") [] rfl, hother false _ fun h => h rfl⟩)
  have hsend := hb.next (show ApartStep _ _ _ from
    ⟨LogStep.send _ false [utf8 "a", utf8 "b"] rfl, hother false _ fun h => h rfl⟩)
  have hclear := hsend.next (show ApartStep _ _ _ from ⟨LogStep.clear _ false rfl, trivial⟩)
  have hc := hclear.next (show ApartStep _ _ _ from
    ⟨LogStep.append _ true [] (utf8 "c") [utf8 "d"] rfl, hother true _ id⟩)
  have hd := hc.next (show ApartStep _ _ _ from
    ⟨LogStep.append _ true [utf8 "c"] (utf8 "d") [] rfl, hother true _ id⟩)
  have hsend' := hd.next (show ApartStep _ _ _ from
    ⟨LogStep.send _ true [utf8 "c", utf8 "d"] rfl, hother true _ id⟩)
  exact ⟨_, _, hsend', rfl, rfl, rfl, rfl, unmixed_run _ _ hsend'⟩

/-- The statements `a`, `b` and `c` of two threads give the messages `acb` and nothing. -/
theorem mixed_run :
    ∃ (acts : List (LogAct Bool)) (s : LogState Bool), Run LogStep LogState.start acts s ∧
      (∀ t, s.progress t = .idle) ∧
      begunBy false acts = [[utf8 "a", utf8 "b"]] ∧ begunBy true acts = [[utf8 "c"]] ∧
      messagesBy false acts = [utf8 "acb"] ∧ messagesBy true acts = [[]] ∧ ¬Unmixed acts s := by
  have hbegin := Run.start.next (LogStep.begin (LogState.start : LogState Bool) false
    [utf8 "a", utf8 "b"] rfl)
  have hbegin' := hbegin.next (LogStep.begin _ true [utf8 "c"] rfl)
  have ha := hbegin'.next (LogStep.append _ false [] (utf8 "a") [utf8 "b"] rfl)
  have hc := ha.next (LogStep.append _ true [] (utf8 "c") [] rfl)
  have hb := hc.next (LogStep.append _ false [utf8 "a"] (utf8 "b") [] rfl)
  have hsend := hb.next (LogStep.send _ false [utf8 "a", utf8 "b"] rfl)
  have hclear := hsend.next (LogStep.clear _ false rfl)
  have hsend' := hclear.next (LogStep.send _ true [utf8 "c"] rfl)
  have hclear' := hsend'.next (LogStep.clear _ true rfl)
  refine ⟨_, _, hclear', fun t => by cases t <;> rfl, rfl, rfl, rfl, rfl, fun h => ?_⟩
  exact absurd (h true) (by decide)

end ExDbg

end J2534Oip
