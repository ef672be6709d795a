import Mathlib.Data.List.Pairwise
import Mathlib.Order.Basic

/-! # Runs of equal values

A list of keys with values.  `runs` keeps the last entry of every run of equal values, and grows with
the list as a table does whose last row is replaced while the value stays (`runs_concat`).  `Best` is
the largest of the keys with the smallest value; where the keys ascend, the runs tell it
(`Best.of_runs`), and so does the last of their smallest values (`best_of_last`). -/

namespace Runs

variable {α β : Type*}

section runs
variable [DecidableEq β]

/-- The last entry of every run of equal values. -/
def runs : List (α × β) → List (α × β)
  | [] => []
  | [p] => [p]
  | p :: q :: l => if p.2 = q.2 then runs (q :: l) else p :: runs (q :: l)

theorem runs_ne_nil {l : List (α × β)} (hl : l ≠ []) : runs l ≠ [] := by
  induction l using runs.induct with
  | case1 => exact hl
  | case2 p => exact hl
  | case3 p q l h ih =>
      rw [runs, if_pos h]
      exact ih (List.cons_ne_nil q l)
  | case4 p q l h ih =>
      rw [runs, if_neg h]
      exact List.cons_ne_nil _ _

theorem getLast?_runs (l : List (α × β)) : (runs l).getLast? = l.getLast? := by
  induction l using runs.induct with
  | case1 => rfl
  | case2 p => rfl
  | case3 p q l h ih =>
      rw [runs, List.getLast?_cons_cons, if_pos h]
      exact ih
  | case4 p q l h ih =>
      rw [runs, List.getLast?_cons_cons, if_neg h, ← ih]
      rcases hr : runs (q :: l) with _ | ⟨q', l'⟩
      · exact absurd hr (runs_ne_nil (List.cons_ne_nil q l))
      · exact List.getLast?_cons_cons

theorem runs_sublist (l : List (α × β)) : (runs l).Sublist l := by
  induction l using runs.induct with
  | case1 => exact List.Sublist.slnil
  | case2 p => exact List.Sublist.refl [p]
  | case3 p q l h ih =>
      rw [runs, if_pos h]
      exact ih.cons p
  | case4 p q l h ih =>
      rw [runs, if_neg h]
      exact ih.cons_cons p

/-- A new entry replaces the last row of the table, or is put behind it. -/
theorem runs_concat (l : List (α × β)) (p : α × β) : runs (l ++ [p]) =
    if l.getLast?.map Prod.snd = some p.2 then (runs l).dropLast ++ [p] else runs l ++ [p] := by
  induction l using runs.induct with
  | case1 => rfl
  | case2 q =>
      by_cases h : q.2 = p.2
      · simp [runs, h]
      · simp [runs, h]
  | case3 q q' l h ih =>
      rw [List.cons_append] at ih
      rw [List.cons_append, List.cons_append, runs, ih, List.getLast?_cons_cons, runs, if_pos h,
        if_pos h]
  | case4 q q' l h ih =>
      rw [List.cons_append] at ih
      rw [List.cons_append, List.cons_append, runs, ih, List.getLast?_cons_cons, runs, if_neg h,
        if_neg h]
      have hne := runs_ne_nil (List.cons_ne_nil q' l)
      split_ifs
      · rw [List.dropLast_cons_of_ne_nil hne, List.cons_append]
      · rw [List.cons_append]

theorem length_runs_concat (l : List (α × β)) (p : α × β) : (runs (l ++ [p])).length =
    if l.getLast?.map Prod.snd = some p.2 then (runs l).length else (runs l).length + 1 := by
  rw [runs_concat]
  split_ifs with h
  · have hne : l ≠ [] := by
      rintro rfl
      cases h
    have hpos := List.length_pos_iff.mpr (runs_ne_nil hne)
    rw [List.length_append, List.length_dropLast, List.length_singleton]
    omega
  · rw [List.length_append, List.length_singleton]

/-- Every entry is represented by the last one of its run. -/
theorem exists_mem_runs [Preorder α] : ∀ {l : List (α × β)}, l.Pairwise (fun p q => p.1 ≤ q.1) →
    ∀ p ∈ l, ∃ q ∈ runs l, q.2 = p.2 ∧ p.1 ≤ q.1
  | [], _, p, hp => by cases hp
  | [p'], _, p, hp => ⟨p, hp, rfl, le_rfl⟩
  | p' :: q' :: l, h, p, hp => by
      rw [List.pairwise_cons] at h
      have ih := exists_mem_runs h.2
      rw [runs]
      rcases List.mem_cons.mp hp with rfl | hp
      · by_cases heq : p.2 = q'.2
        · rw [if_pos heq]
          obtain ⟨q, hq, hv, hk⟩ := ih q' (List.mem_cons_self ..)
          exact ⟨q, hq, hv.trans heq.symm, (h.1 q' (List.mem_cons_self ..)).trans hk⟩
        · rw [if_neg heq]
          exact ⟨p, List.mem_cons_self .., rfl, le_rfl⟩
      · obtain ⟨q, hq, hv, hk⟩ := ih p hp
        refine ⟨q, ?_, hv, hk⟩
        split_ifs
        · exact hq
        · exact List.mem_cons_of_mem _ hq

end runs

/-- `v` is the largest of the keys with the smallest value. -/
def Best [LE α] [LE β] (l : List (α × β)) (v : α) : Prop :=
  ∃ g, (v, g) ∈ l ∧ ∀ p ∈ l, g ≤ p.2 ∧ (p.2 = g → p.1 ≤ v)

/-- The last of the smallest values of ascending keys. -/
theorem best_of_last [Preorder α] [LE β] {l : List (α × β)} (hl : l.Pairwise (fun p q => p.1 ≤ q.1))
    {n : ℕ} (hn : n < l.length)
    (h : ∀ j (hj : j < l.length), l[n].2 ≤ l[j].2 ∧ (l[j].2 = l[n].2 → j ≤ n)) :
    Best l l[n].1 := by
  refine ⟨l[n].2, List.getElem_mem hn, fun p hp => ?_⟩
  obtain ⟨j, hj, rfl⟩ := List.mem_iff_getElem.mp hp
  refine ⟨(h j hj).1, fun heq => ?_⟩
  rcases Nat.lt_or_eq_of_le ((h j hj).2 heq) with hlt | rfl
  · exact List.pairwise_iff_getElem.mp hl j n hj hn hlt
  · exact le_rfl

/-- The runs tell the best key. -/
theorem Best.of_runs [Preorder α] [Preorder β] [DecidableEq β] {l : List (α × β)} {v : α}
    (hl : l.Pairwise (fun p q => p.1 ≤ q.1)) (h : Best (runs l) v) : Best l v := by
  obtain ⟨g, hg, hbest⟩ := h
  refine ⟨g, (runs_sublist l).subset hg, fun p hp => ?_⟩
  obtain ⟨q, hq, hv, hk⟩ := exists_mem_runs hl p hp
  obtain ⟨hle, hmax⟩ := hbest q hq
  exact ⟨hv ▸ hle, fun heq => hk.trans (hmax (hv.trans heq))⟩

end Runs
