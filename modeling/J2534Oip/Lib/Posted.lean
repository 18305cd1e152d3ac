import Mathlib.Data.List.Basic

/-!
# Posted work

A component handles what comes at once and posts some of the work for later; what is posted
is done in its order, and more may come in between.  Where doing a piece and handling what
comes do not disturb each other (`commutes`), posting is not seen: with what waits done, the
state is that of a component that posts nothing:

    finish (arrive st a) = direct (finish st) a                        (finish_arrive)

At rest, with nothing waiting, `finish` is the state itself.
-/

/-- A component with state `σ`; `α` is what comes, `β` a piece of posted work. -/
structure Poster (σ α β : Type*) where
  handle : σ → α → σ × List β
  run : σ → β → σ
  commutes : ∀ s a b, handle (run s b) a = (run (handle s a).1 b, (handle s a).2)

namespace Poster

variable {σ α β : Type*} (P : Poster σ α β)

/-- All that waits is done. -/
def finish (st : σ × List β) : σ := st.2.foldl P.run st.1

/-- Something comes. -/
def arrive (st : σ × List β) (a : α) : σ × List β :=
  ((P.handle st.1 a).1, st.2 ++ (P.handle st.1 a).2)

/-- Nothing is posted: all is done when it comes. -/
def direct (s : σ) (a : α) : σ := P.finish (P.handle s a)

theorem finish_append (s : σ) (bs bs' : List β) :
    P.finish (s, bs ++ bs') = P.finish (P.finish (s, bs), bs') := by
  unfold finish
  exact List.foldl_append

/-- What waits can be done before what comes is handled. -/
theorem handle_finish (s : σ) (bs : List β) (a : α) :
    P.handle (P.finish (s, bs)) a = (P.finish ((P.handle s a).1, bs), (P.handle s a).2) := by
  induction bs generalizing s with
  | nil => rfl
  | cons b bs ih =>
    have hcommutes := P.commutes s a b
    show P.handle (P.finish (P.run s b, bs)) a = (P.finish (P.run (P.handle s a).1 b, bs), _)
    rw [ih, hcommutes]

/-- **What comes is as good as done.** -/
theorem finish_arrive (st : σ × List β) (a : α) :
    P.finish (P.arrive st a) = P.direct (P.finish st) a := by
  obtain ⟨s, bs⟩ := st
  unfold arrive direct
  rw [P.handle_finish, P.finish_append]

end Poster
