import Mathlib.Data.List.Nodup
import Mathlib.Data.List.TakeDrop
import Mathlib.Logic.Function.Basic

/-! # Writing a table into a memory

`overwritten l m` is the memory `m` after the pairs of an address and a value in `l` have been
written, one after the other.  An address that `l` does not name is left alone
(`overwritten_of_notMem`); one that it names once holds its value (`overwritten_of_mem`).  Of a
table of distinct addresses of which only the first `n` rows are written, the memory stores every row
exactly when it stored the others before (`stores_take_iff`). -/

namespace TableWrites

variable {α β : Type*} [DecidableEq α]

/-- The pairs of `l` are written, the first one first. -/
def overwritten (l : List (α × β)) (m : α → β) : α → β :=
  l.foldl (fun m p => Function.update m p.1 p.2) m

@[simp] theorem overwritten_nil (m : α → β) : overwritten [] m = m := rfl

theorem overwritten_cons (p : α × β) (l : List (α × β)) (m : α → β) :
    overwritten (p :: l) m = overwritten l (Function.update m p.1 p.2) := rfl

theorem overwritten_of_notMem {l : List (α × β)} {a : α} (h : a ∉ l.map Prod.fst) (m : α → β) :
    overwritten l m a = m a := by
  induction l generalizing m with
  | nil => rfl
  | cons p l ih =>
      rw [List.map_cons, List.mem_cons, not_or] at h
      rw [overwritten_cons, ih h.2]
      exact Function.update_of_ne h.1 _ _

theorem overwritten_of_mem {l : List (α × β)} (hl : (l.map Prod.fst).Nodup) {p : α × β} (hp : p ∈ l)
    (m : α → β) : overwritten l m p.1 = p.2 := by
  induction l generalizing m with
  | nil => cases hp
  | cons q l ih =>
      rw [List.map_cons, List.nodup_cons] at hl
      rw [overwritten_cons]
      rcases List.mem_cons.mp hp with rfl | hp
      · rw [overwritten_of_notMem hl.1]
        exact Function.update_self _ _ _
      · exact ih hl.2 hp _

/-- The memory holds the rows of a table. -/
def Stores (l : List (α × β)) (m : α → β) : Prop := ∀ p ∈ l, m p.1 = p.2

/-- A table written as a whole is held. -/
theorem stores_overwritten {l : List (α × β)} (hl : (l.map Prod.fst).Nodup) (m : α → β) :
    Stores l (overwritten l m) := fun _ hp => overwritten_of_mem hl hp m

/-- A table does not say what is behind another address. -/
theorem stores_update_iff {l : List (α × β)} {a : α} (h : a ∉ l.map Prod.fst) (m : α → β) (b : β) :
    Stores l (Function.update m a b) ↔ Stores l m := by
  apply forall₂_congr
  intro p hp
  have hne : p.1 ≠ a := by
    rintro rfl
    exact h (List.mem_map_of_mem hp)
  rw [Function.update_of_ne hne]

/-- **A table written in part** is held exactly when the rest of it was held before. -/
theorem stores_take_iff {l : List (α × β)} (hl : (l.map Prod.fst).Nodup) (n : ℕ) (m : α → β) :
    Stores l (overwritten (l.take n) m) ↔ Stores (l.drop n) m := by
  have hsplit : (l.map Prod.fst) = (l.take n).map Prod.fst ++ (l.drop n).map Prod.fst := by
    rw [← List.map_append, List.take_append_drop]
  rw [hsplit, List.nodup_append'] at hl
  have hrest : ∀ p ∈ l.drop n, overwritten (l.take n) m p.1 = m p.1 := by
    intro p hp
    apply overwritten_of_notMem
    exact fun h => hl.2.2 h (List.mem_map_of_mem hp)
  constructor
  · intro h p hp
    rw [← hrest p hp]
    exact h p (List.mem_of_mem_drop hp)
  · intro h p hp
    rw [← List.take_append_drop n l] at hp
    rcases List.mem_append.mp hp with hp | hp
    · exact overwritten_of_mem hl.1 hp m
    · rw [hrest p hp]
      exact h p hp

end TableWrites
