import J2534Oip.Lib.Run

/-!
# Mailboxes: a queue that is opened and closed

A mailbox is closed, or open with a queue.  While it is open a producer puts batches at the
back, and a consumer takes items from the front into its hand, one at a time, and gives the
hand away.  Closing drops what is still queued.  Each opening starts a session.

    Run Step closed acts b → Tracks b (sessions acts)                    (tracks_run)

says that nothing is lost, repeated, reordered or carried from one session to another:
in the open session, what was given, then the hand, then the queue, is what was put; in
each earlier one, what was given and then what was dropped is.  A property of every item
put is one of every item given (`only_run`).
-/

/-- `queue` is `none` while the mailbox is closed; `inHand` was taken and not given yet. -/
structure Mailbox (α : Type*) where
  queue : Option (List α)
  inHand : List α

namespace Mailbox

variable {α : Type*}

def closed : Mailbox α := { queue := none, inHand := [] }

inductive Act (α : Type*)
  | quiet
  | opened
  | put (xs : List α)
  | gave (xs : List α)
  | closed (dropped : List α)

inductive Step : Mailbox α → Act α → Mailbox α → Prop
  | quiet (b : Mailbox α) : Step b .quiet b
  | opened : Step ⟨none, []⟩ .opened ⟨some [], []⟩
  | put (q h xs : List α) : Step ⟨some q, h⟩ (.put xs) ⟨some (q ++ xs), h⟩
  | take (x : α) (q h : List α) : Step ⟨some (x :: q), h⟩ .quiet ⟨some q, h ++ [x]⟩
  | gave (q h : List α) : Step ⟨some q, h⟩ (.gave h) ⟨some q, []⟩
  /-- a closed mailbox has nothing to give -/
  | refused : Step ⟨none, []⟩ (.gave []) ⟨none, []⟩
  | closed (q : List α) : Step ⟨some q, []⟩ (.closed q) ⟨none, []⟩

/-! ## Sessions -/

/-- What happened between an opening and its closing; `dropped` is `none` before that. -/
structure Session (α : Type*) where
  put : List α
  gave : List α
  dropped : Option (List α)

/-- The sessions after one more act, the newest first. -/
def record : List (Session α) → Act α → List (Session α)
  | ss, .opened => { put := [], gave := [], dropped := none } :: ss
  | s :: ss, .put xs => { s with put := s.put ++ xs } :: ss
  | s :: ss, .gave xs => { s with gave := s.gave ++ xs } :: ss
  | s :: ss, .closed xs => { s with dropped := some xs } :: ss
  | ss, _ => ss

def sessions (acts : List (Act α)) : List (Session α) := acts.foldl record []

/-- A session that is over, with everything put accounted for. -/
def Session.Over (s : Session α) : Prop := ∃ xs, s.dropped = some xs ∧ s.gave ++ xs = s.put

/-- The state of a mailbox accounts for its sessions. -/
def Tracks (b : Mailbox α) (ss : List (Session α)) : Prop :=
  match b.queue with
  | none => ∀ s ∈ ss, s.Over
  | some q => ∃ s past, ss = s :: past ∧ s.dropped = none ∧ s.gave ++ b.inHand ++ q = s.put ∧
      ∀ s' ∈ past, s'.Over

theorem tracks_closed : Tracks (closed : Mailbox α) [] := by
  intro s hs
  cases hs

theorem tracks_step {b b' : Mailbox α} {act : Act α} {ss : List (Session α)} (h : Tracks b ss)
    (hstep : Step b act b') : Tracks b' (record ss act) := by
  cases hstep with
  | quiet =>
    cases ss with
    | nil => exact h
    | cons s past => exact h
  | opened => exact ⟨_, ss, rfl, rfl, rfl, h⟩
  | put q hand xs =>
    obtain ⟨s, past, rfl, hopen, heq, hpast⟩ := h
    refine ⟨{ s with put := s.put ++ xs }, past, rfl, hopen, ?_, hpast⟩
    show s.gave ++ hand ++ (q ++ xs) = s.put ++ xs
    rw [← heq, List.append_assoc, List.append_assoc, List.append_assoc]
  | take x q hand =>
    obtain ⟨s, past, rfl, hopen, heq, hpast⟩ := h
    refine ⟨s, past, rfl, hopen, ?_, hpast⟩
    rw [← heq]
    simp
  | gave q hand =>
    obtain ⟨s, past, rfl, hopen, heq, hpast⟩ := h
    refine ⟨{ s with gave := s.gave ++ hand }, past, rfl, hopen, ?_, hpast⟩
    show s.gave ++ hand ++ [] ++ q = s.put
    rw [List.append_nil, ← heq]
  | refused =>
    cases ss with
    | nil => exact h
    | cons s past =>
      intro s' hs'
      rcases List.mem_cons.1 hs' with rfl | hpast
      · obtain ⟨xs, hdropped, heq⟩ := h s List.mem_cons_self
        exact ⟨xs, hdropped, by rw [← heq]; simp⟩
      · exact h s' (List.mem_cons_of_mem s hpast)
  | closed q =>
    obtain ⟨s, past, rfl, hopen, heq, hpast⟩ := h
    intro s' hs'
    rcases List.mem_cons.1 hs' with rfl | hmem
    · exact ⟨q, rfl, by rw [← heq]; simp⟩
    · exact hpast s' hmem

/-- **Nothing is lost, repeated, reordered or mixed up** over any run. -/
theorem tracks_run {acts : List (Act α)} {b : Mailbox α} (h : Run Step closed acts b) :
    Tracks b (sessions acts) := by
  refine h.invariant (I := fun acts b => Tracks b (sessions acts)) tracks_closed ?_
  intro acts b act b' _ htracks hstep
  have hnext : sessions (acts ++ [act]) = record (sessions acts) act := by
    simp [sessions]
  rw [hnext]
  exact tracks_step htracks hstep

/-- Every item held, and every item given by `acts`, has `P`. -/
def Only (P : α → Prop) (acts : List (Act α)) (b : Mailbox α) : Prop :=
  (∀ x ∈ b.queue.getD [] ++ b.inHand, P x) ∧ ∀ xs, .gave xs ∈ acts → ∀ x ∈ xs, P x

theorem only_step {P : α → Prop} {acts : List (Act α)} {b b' : Mailbox α} {act : Act α}
    (h : Only P acts b) (hstep : Step b act b') (hput : ∀ xs, act = .put xs → ∀ x ∈ xs, P x) :
    Only P (acts ++ [act]) b' := by
  obtain ⟨hheld, hgave⟩ := h
  cases hstep with
  | quiet => exact ⟨hheld, by simpa using hgave⟩
  | opened => exact ⟨hheld, by simpa using hgave⟩
  | put q hand xs =>
    refine ⟨?_, by simpa using hgave⟩
    simp only [Option.getD_some, List.mem_append] at hheld ⊢
    rintro x ((hx | hx) | hx)
    · exact hheld x (Or.inl hx)
    · exact hput xs rfl x hx
    · exact hheld x (Or.inr hx)
  | take x q hand =>
    refine ⟨?_, by simpa using hgave⟩
    simp only [Option.getD_some, List.mem_append, List.mem_cons] at hheld ⊢
    rintro y (hy | hy | rfl | hy)
    · exact hheld y (Or.inl (Or.inr hy))
    · exact hheld y (Or.inr hy)
    · exact hheld y (Or.inl (Or.inl rfl))
    · cases hy
  | gave q hand =>
    simp only [Option.getD_some, List.mem_append] at hheld
    refine ⟨fun x hx => hheld x (Or.inl (by simpa using hx)), ?_⟩
    intro xs hxs
    rcases List.mem_append.1 hxs with hxs | hxs
    · exact hgave xs hxs
    · obtain rfl : xs = hand := by simpa using hxs
      exact fun x hx => hheld x (Or.inr hx)
  | refused =>
    refine ⟨hheld, ?_⟩
    intro xs hxs
    rcases List.mem_append.1 hxs with hxs | hxs
    · exact hgave xs hxs
    · obtain rfl : xs = [] := by simpa using hxs
      simp
  | closed q => exact ⟨by simp, by simpa using hgave⟩

/-- **What every item put has, every item given has.** -/
theorem only_run {P : α → Prop} {acts : List (Act α)} {b : Mailbox α}
    (h : Run Step closed acts b) (hput : ∀ xs, .put xs ∈ acts → ∀ x ∈ xs, P x) :
    Only P acts b := by
  revert hput
  refine h.invariant (I := fun acts b => (∀ xs, .put xs ∈ acts → ∀ x ∈ xs, P x) → Only P acts b)
    ?_ ?_
  · intro _
    constructor <;> simp [closed]
  · intro acts b act b' _ ih hstep hput
    refine only_step (ih fun xs hxs => hput xs (List.mem_append_left _ hxs)) hstep ?_
    rintro xs rfl
    exact hput xs (by simp)

/-- What an act gave. -/
def Act.given : Act α → List α
  | .gave xs => xs
  | _ => []

/-- **All that was given was given in some session**: the sessions' shares, the oldest first,
are the gifts in order. -/
theorem gave_run {acts : List (Act α)} {b : Mailbox α} (h : Run Step closed acts b) :
    (sessions acts).reverse.flatMap Session.gave = acts.flatMap Act.given := by
  refine h.invariant (I := fun acts _ =>
    (sessions acts).reverse.flatMap Session.gave = acts.flatMap Act.given) rfl ?_
  intro acts b act b' hrun ih hstep
  have hnext : sessions (acts ++ [act]) = record (sessions acts) act := by
    simp [sessions]
  have htracks := tracks_run hrun
  rw [hnext, List.flatMap_append, ← ih]
  cases hstep with
  | gave q hand =>
    obtain ⟨s, past, hss, -⟩ := htracks
    rw [hss]
    simp [record, Act.given]
  | _ =>
    cases sessions acts <;> simp [record, Act.given]

/-- What a session gave begins what was put. -/
theorem gave_prefix {b : Mailbox α} {ss : List (Session α)} (h : Tracks b ss) :
    ∀ s ∈ ss, s.gave <+: s.put := by
  have hover : ∀ s : Session α, s.Over → s.gave <+: s.put := by
    rintro s ⟨xs, -, heq⟩
    exact ⟨xs, heq⟩
  unfold Tracks at h
  cases hq : b.queue with
  | none =>
    rw [hq] at h
    exact fun s hs => hover s (h s hs)
  | some q =>
    rw [hq] at h
    obtain ⟨s, past, rfl, -, heq, hpast⟩ := h
    intro s' hs'
    rcases List.mem_cons.1 hs' with rfl | hmem
    · exact ⟨b.inHand ++ q, by rw [← List.append_assoc, heq]⟩
    · exact hover s' (hpast s' hmem)

/-- The mailbox is open: its newest session is not over. -/
def isOpen : List (Session α) → Bool
  | [] => false
  | s :: _ => s.dropped.isNone

theorem isOpen_of_tracks {b : Mailbox α} {ss : List (Session α)} (h : Tracks b ss) :
    isOpen ss = b.queue.isSome := by
  unfold Tracks at h
  cases hq : b.queue with
  | none =>
    rw [hq] at h
    cases ss with
    | nil => rfl
    | cons s past =>
      obtain ⟨xs, hdropped, -⟩ := h s List.mem_cons_self
      simp [isOpen, hdropped]
  | some q =>
    rw [hq] at h
    obtain ⟨s, past, rfl, hopen, -⟩ := h
    simp [isOpen, hopen]

end Mailbox
