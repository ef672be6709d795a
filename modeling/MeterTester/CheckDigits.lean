import Mathlib.Algebra.BigOperators.Group.Finset.Basic

/-! # Check digits

A word is valid if its check positions hold the digits of a sum over its other positions.  Where the
weight of a letter determines it, and the digits determine the sum, no two valid words differ in
exactly one position (`Code.Valid.not_existsUnique_ne`): a single letter that is changed is noticed,
be it one that is summed or a digit. -/

namespace CheckDigits

open Finset

/-- The positions that are summed, the positions that check them, the weight of a letter, and the
digit of a sum at a position. -/
structure Code (ι α M : Type*) [DecidableEq ι] [AddCancelCommMonoid M] where
  summed : Finset ι
  check : Finset ι
  weight : α → M
  digit : ι → M → α
  disjoint : Disjoint summed check
  weight_injective : Function.Injective weight
  digit_injective : ∀ a b, (∀ k ∈ check, digit k a = digit k b) → a = b

namespace Code
variable {ι α M : Type*} [DecidableEq ι] [AddCancelCommMonoid M] (C : Code ι α M)

def total (x : ι → α) : M := ∑ i ∈ C.summed, C.weight (x i)

def Valid (x : ι → α) : Prop := ∀ k ∈ C.check, x k = C.digit k (C.total x)

variable {C} {x y : ι → α}

theorem total_congr (h : ∀ i ∈ C.summed, x i = y i) : C.total x = C.total y := by
  apply Finset.sum_congr rfl
  intro i hi
  rw [h i hi]

/-- Equal sums that differ in one summand at most. -/
theorem eq_of_total_eq {i : ι} (hi : i ∈ C.summed) (hrest : ∀ j ∈ C.summed, j ≠ i → x j = y j)
    (h : C.total x = C.total y) : x i = y i := by
  have hother : ∑ j ∈ C.summed.erase i, C.weight (x j) = ∑ j ∈ C.summed.erase i, C.weight (y j) := by
    apply Finset.sum_congr rfl
    intro j hj
    obtain ⟨hne, hj⟩ := mem_erase.mp hj
    rw [hrest j hj hne]
  unfold total at h
  rw [← add_sum_erase _ _ hi, ← add_sum_erase _ _ hi, hother] at h
  exact C.weight_injective (add_right_cancel h)

/-- Valid words that agree everywhere else agree at `i` too. -/
theorem Valid.eq_at (hx : C.Valid x) (hy : C.Valid y) {i : ι} (hi : i ∈ C.summed ∪ C.check)
    (hrest : ∀ j ∈ C.summed ∪ C.check, j ≠ i → x j = y j) : x i = y i := by
  rcases mem_union.mp hi with hs | hc
  · apply eq_of_total_eq hs
    · exact fun j hj hne => hrest j (mem_union_left _ hj) hne
    · apply C.digit_injective
      intro k hk
      have hne : k ≠ i := fun h => disjoint_left.mp C.disjoint hs (h ▸ hk)
      rw [← hx k hk, ← hy k hk]
      exact hrest k (mem_union_right _ hk) hne
  · have htotal : C.total x = C.total y := by
      apply total_congr
      intro j hj
      have hne : j ≠ i := fun h => disjoint_left.mp C.disjoint hj (h ▸ hc)
      exact hrest j (mem_union_left _ hj) hne
    rw [hx i hc, hy i hc, htotal]

/-- **No two valid words differ in exactly one position.** -/
theorem Valid.not_existsUnique_ne (hx : C.Valid x) (hy : C.Valid y) :
    ¬ ∃! i, i ∈ C.summed ∪ C.check ∧ x i ≠ y i := by
  rintro ⟨i, ⟨hi, hne⟩, honly⟩
  apply hne
  apply hx.eq_at hy hi
  intro j hj hji
  by_contra hxy
  exact hji (honly j ⟨hj, hxy⟩)

end Code

end CheckDigits
