import Mathlib.Data.Fintype.Prod
import Mathlib.InformationTheory.Hamming
import Mathlib.Tactic
import MeterTester.BitMatrix

/-! # Distances of product codes

A set of cells of a matrix that meets every row and every column an even number of times is empty or
has at least four members (`four_le_card`): two different matrices with even rows and columns
differ in at least four cells (`four_le_hammingDist`).  Sending every letter several times over
multiplies the distance (`card_mul_hammingDist_le`). -/

namespace ProductCode

open Finset BitMatrix

/-- An even set with a member has another one. -/
theorem exists_ne_of_even {α : Type} [DecidableEq α] {s : Finset α} (h : Even #s) {a : α}
    (ha : a ∈ s) : ∃ b ∈ s, b ≠ a := by
  by_contra hall
  push Not at hall
  have hs : s = {a} := by
    apply Finset.eq_singleton_iff_unique_mem.mpr
    exact ⟨ha, hall⟩
  rw [hs, card_singleton] at h
  exact absurd h (by decide)

section even
variable {ι κ : Type} [Fintype κ] [DecidableEq ι] [DecidableEq κ]

/-- The cells of `D` in one row, counted by their columns. -/
theorem card_row (D : Finset (ι × κ)) (r : ι) :
    #(D.filter fun p => p.1 = r) = #{k : κ | (r, k) ∈ D} := by
  symm
  apply card_bij fun k _ => (r, k)
  · intro k hk
    simpa using hk
  · intro k _ k' _ h
    exact congrArg Prod.snd h
  · rintro ⟨i, k⟩ hp
    obtain ⟨hD, rfl⟩ := mem_filter.mp hp
    exact ⟨k, by simpa using hD, rfl⟩

/-- **A nonempty set of cells with even rows and columns has four members**: the column through
one cell leads to another row, and either row holds two. -/
theorem four_le_card [Fintype ι] {D : Finset (ι × κ)} (hrow : ∀ i, Even #{j | (i, j) ∈ D})
    (hcol : ∀ j, Even #{i | (i, j) ∈ D}) (hD : D.Nonempty) : 4 ≤ #D := by
  have htwo {i : ι} {j : κ} (h : (i, j) ∈ D) : 2 ≤ #(D.filter fun p => p.1 = i) := by
    obtain ⟨j', hj', hne⟩ := exists_ne_of_even (hrow i) (a := j) (by simpa using h)
    rw [card_row]
    exact one_lt_card.mpr ⟨j', hj', j, by simpa using h, hne⟩
  obtain ⟨⟨i, j⟩, hij⟩ := hD
  obtain ⟨i', hi', hne⟩ := exists_ne_of_even (hcol j) (a := i) (by simpa using hij)
  have hdisj : Disjoint (D.filter fun p => p.1 = i) (D.filter fun p => p.1 = i') := by
    apply disjoint_filter.mpr
    intro p _ hi hi'
    exact hne (hi'.symm.trans hi)
  calc 4 ≤ #(D.filter fun p => p.1 = i) + #(D.filter fun p => p.1 = i') := by
        have := htwo hij
        have := htwo (i := i') (by simpa using hi')
        omega
    _ = #((D.filter fun p => p.1 = i) ∪ D.filter fun p => p.1 = i') :=
        (card_union_of_disjoint hdisj).symm
    _ ≤ #D := card_le_card (union_subset (filter_subset _ D) (filter_subset _ D))

end even

/-! ### Matrices of even parity -/

/-- Every row and every column of the `n × k` matrix is even. -/
def EvenMatrix (n k : ℕ) (M : ℕ → ℕ → Bool) : Prop :=
  (∀ i, i < n → parity (M i) k = false) ∧ ∀ j, j < k → parity (fun i => M i j) n = false

theorem sum_mod_two (f : ℕ → Bool) (n : ℕ) :
    (∑ i ∈ range n, if f i = true then 1 else 0) % 2 = (parity f n).toNat := by
  induction n with
  | zero => rfl
  | succ n ih =>
      rw [sum_range_succ, parity, Nat.add_mod, ih]
      cases parity f n <;> cases f n <;> rfl

theorem even_card_iff (f : ℕ → Bool) (n : ℕ) :
    Even #{i : Fin n | f i = true} ↔ parity f n = false := by
  rw [card_filter, Fin.sum_univ_eq_sum_range (fun i => if f i = true then 1 else 0) n,
    Nat.even_iff, sum_mod_two]
  cases parity f n <;> simp

/-- The cells of a matrix. -/
def entries (n k : ℕ) (M : ℕ → ℕ → Bool) : Fin n × Fin k → Bool := fun p => M p.1 p.2

/-- **Different even matrices differ in four cells.** -/
theorem four_le_hammingDist {n k : ℕ} {M N : ℕ → ℕ → Bool} (hM : EvenMatrix n k M)
    (hN : EvenMatrix n k N) (hne : entries n k M ≠ entries n k N) :
    4 ≤ hammingDist (entries n k M) (entries n k N) := by
  have hxor (a b : Bool) : (a ≠ b) = ((a ^^ b) = true) := by cases a <;> cases b <;> simp
  rw [hammingDist]
  apply four_le_card
  · intro i
    simp only [mem_filter, mem_univ, true_and, entries, hxor]
    rw [even_card_iff (fun j => M i j ^^ N i j), parity_xor, hM.1 i i.2, hN.1 i i.2]
    rfl
  · intro j
    simp only [mem_filter, mem_univ, true_and, entries, hxor]
    rw [even_card_iff (fun i => M i j ^^ N i j), parity_xor (fun i => M i j) (fun i => N i j),
      hM.2 j j.2, hN.2 j j.2]
    rfl
  · obtain ⟨p, hp⟩ := Function.ne_iff.mp hne
    exact ⟨p, by simpa using hp⟩

/-! ### Repeated letters -/

/-- If every letter of `x` is sent at the places `g (b, i)`, differences multiply. -/
theorem card_mul_hammingDist_le {β ι κ α γ : Type} [Fintype β] [Fintype ι] [Fintype κ]
    [DecidableEq α] [DecidableEq γ] {x y : ι → α} {X Y : κ → γ} {g : β × ι → κ}
    (hg : Function.Injective g) (h : ∀ b i, x i ≠ y i → X (g (b, i)) ≠ Y (g (b, i))) :
    Fintype.card β * hammingDist x y ≤ hammingDist X Y := by
  rw [hammingDist, hammingDist, ← card_univ, ← card_product]
  apply card_le_card_of_injOn g
  · intro p hp
    simp only [coe_product, coe_univ, coe_filter, mem_univ, true_and, Set.mem_prod, Set.mem_univ,
      Set.mem_ofPred_eq] at hp ⊢
    exact h p.1 p.2 hp
  · exact hg.injOn

end ProductCode
