import Mathlib.Data.List.AList

/-!
# Tables: what an entry of an association list adds to it

A table with an entry is, up to order, that entry and the table without it; so a property
of all entries splits into one of the entry and one of the rest, and replacing an entry
changes nothing that does not depend on what was replaced.
-/

namespace AList

variable {α : Type*} {β : α → Type*} [DecidableEq α]

theorem perm_entries_erase {s : AList β} {a : α} {b : β a} (h : s.lookup a = some b) :
    s.entries.Perm (⟨a, b⟩ :: (s.erase a).entries) := by
  have hmem : a ∈ s.entries.keys := AList.lookup_isSome.1 (by rw [h]; rfl)
  obtain ⟨b', l₁, l₂, hnot, hl, hk⟩ := List.exists_of_kerase hmem
  have hb : b' = b := by
    have hlookup : s.entries.dlookup a = some b := h
    rw [hl, List.dlookup_append, List.dlookup_eq_none.2 hnot, List.dlookup_cons_eq] at hlookup
    exact Option.some.inj hlookup
  subst hb
  show s.entries.Perm (⟨a, b'⟩ :: s.entries.kerase a)
  rw [hk, hl]
  exact List.perm_middle

/-- A view of the entries that does not see the replacement. -/
theorem perm_map_entries_insert {γ : Type*} {s : AList β} {a : α} {b b' : β a}
    (h : s.lookup a = some b) (f : Sigma β → γ) (hf : f ⟨a, b'⟩ = f ⟨a, b⟩) :
    ((s.insert a b').entries.map f).Perm (s.entries.map f) := by
  have hentry := (perm_entries_erase h).map f
  rw [List.map_cons, ← hf] at hentry
  rw [AList.entries_insert]
  exact hentry.symm

end AList
