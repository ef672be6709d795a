import Mathlib.Order.Basic
import Mathlib.Tactic

/-! # Since

`Since P Q n`: before the moment `n` there was one with `P`, and none with `Q` after it.  A variable
that some moments read in and others change holds, as long as nothing else touches it, what has been
read in last or what has been made of it since; `Since` says which. -/

namespace Moments

/-- Before `n` there was a moment with `P`, and none with `Q` since. -/
def Since (P Q : ℕ → Prop) (n : ℕ) : Prop := ∃ k < n, P k ∧ ∀ j, k < j → j < n → ¬ Q j

section since
variable {P P' Q : ℕ → Prop} {n : ℕ}

/-- One moment later. -/
theorem since_succ : Since P Q (n + 1) ↔ P n ∨ (Since P Q n ∧ ¬ Q n) := by
  constructor
  · rintro ⟨k, hk, hP, hQ⟩
    rcases Nat.lt_succ_iff_lt_or_eq.mp hk with hk | rfl
    · exact .inr ⟨⟨k, hk, hP, fun j hj hn => hQ j hj (by omega)⟩, hQ n hk (Nat.lt_succ_self n)⟩
    · exact .inl hP
  · rintro (hP | ⟨⟨k, hk, hP, hQ⟩, hn⟩)
    · exact ⟨n, Nat.lt_succ_self n, hP, fun j hj hn => absurd hn (by omega)⟩
    · refine ⟨k, by omega, hP, fun j hj hlt => ?_⟩
      rcases Nat.lt_succ_iff_lt_or_eq.mp hlt with hlt | rfl
      · exact hQ j hj hlt
      · exact hn

theorem Since.now (h : P n) : Since P Q (n + 1) := since_succ.mpr (.inl h)

theorem Since.keep (h : Since P Q n) (hn : ¬ Q n) : Since P Q (n + 1) := since_succ.mpr (.inr ⟨h, hn⟩)

theorem Since.mono (h : Since P Q n) (hP : ∀ k, P k → P' k) : Since P' Q n := by
  obtain ⟨k, hk, hPk, hQ⟩ := h
  exact ⟨k, hk, hP k hPk, hQ⟩

/-- Of two kinds of moments that never fall together one alone can be the last. -/
theorem Since.not_since (h : Since P Q n) (hne : ∀ k, P k → ¬ Q k) : ¬ Since Q P n := by
  obtain ⟨k, hk, hP, hQ⟩ := h
  rintro ⟨k', hk', hQ', hP'⟩
  rcases Nat.lt_trichotomy k k' with hlt | rfl | hlt
  · exact hQ k' hlt hk' hQ'
  · exact hne k hP hQ'
  · exact hP' k hlt hk hP

end since

end Moments
