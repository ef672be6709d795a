import MeterTester.Interleave

/-! # Programs that return

`p.Returns s Q`: run alone from `s`, the program `p` ends, and in a state with `Q`.  There is one
equation for each statement (`returns_act`, `returns_check`, `returns_seq`, …), so that `simp`
computes what a program without loops needs; a loop is unrolled by one turn (`returns_loop`), and the
number of turns is an induction of its own. -/

namespace Interleave

variable {σ : Type}

namespace Prog

/-- Run alone from `s`, the program ends with `Q`. -/
def Returns (p : Prog σ) (s : σ) (Q : σ → Prop) : Prop := ∃ n s', p.exec n s = some s' ∧ Q s'

section equations
variable {s : σ} {Q : σ → Prop}

@[simp] theorem returns_skip : (skip : Prog σ).Returns s Q ↔ Q s := by
  constructor
  · rintro ⟨n, s', h, hQ⟩
    cases h
    exact hQ
  · exact fun hQ => ⟨0, s, rfl, hQ⟩

@[simp] theorem returns_act {f : σ → σ} : (act f).Returns s Q ↔ Q (f s) := by
  constructor
  · rintro ⟨n, s', h, hQ⟩
    cases h
    exact hQ
  · exact fun hQ => ⟨0, f s, rfl, hQ⟩

@[simp] theorem returns_check {c : σ → Bool} : (check c).Returns s Q ↔ c s = true ∧ Q s := by
  constructor
  · rintro ⟨n, s', h, hQ⟩
    rw [exec_check] at h
    split_ifs at h with hc
    cases h
    exact ⟨hc, hQ⟩
  · exact fun ⟨hc, hQ⟩ => ⟨0, s, by rw [exec_check, if_pos hc], hQ⟩

@[simp] theorem returns_seq {p q : Prog σ} :
    (seq p q).Returns s Q ↔ p.Returns s fun s' => q.Returns s' Q := by
  constructor
  · rintro ⟨n, s', h, hQ⟩
    obtain ⟨s₁, h₁, h₂⟩ := Option.bind_eq_some_iff.mp h
    exact ⟨n, s₁, h₁, n, s', h₂, hQ⟩
  · rintro ⟨n, s₁, h₁, m, s', h₂, hQ⟩
    refine ⟨max n m, s', ?_, hQ⟩
    rw [exec_seq, exec_mono (Nat.le_max_left n m) h₁, Option.bind_some]
    exact exec_mono (Nat.le_max_right n m) h₂

@[simp] theorem returns_ite {c : σ → Bool} {p q : Prog σ} :
    (ite c p q).Returns s Q ↔ if c s = true then p.Returns s Q else q.Returns s Q := by
  by_cases hc : c s = true
  · simp only [Returns, exec_ite, hc, if_true]
  · simp only [Returns, exec_ite, hc, if_false, Bool.false_eq_true]

@[simp] theorem returns_cond {c : σ → Bool} {p : Prog σ} :
    (cond c p).Returns s Q ↔ if c s = true then p.Returns s Q else Q s := by
  rw [cond, returns_ite, returns_skip]

@[simp] theorem returns_block_nil : (block ([] : List (Prog σ))).Returns s Q ↔ Q s := returns_skip

@[simp] theorem returns_block_cons {p : Prog σ} {ps : List (Prog σ)} :
    (block (p :: ps)).Returns s Q ↔ p.Returns s fun s' => (block ps).Returns s' Q := returns_seq

/-- A turn of a loop. -/
theorem returns_loop {c : σ → Bool} {p : Prog σ} : (loop c p).Returns s Q ↔
    if c s = true then p.Returns s fun s' => (loop c p).Returns s' Q else Q s := by
  by_cases hc : c s = true
  · rw [if_pos hc]
    constructor
    · rintro ⟨n, s', h, hQ⟩
      cases n with
      | zero => cases h
      | succ n =>
          rw [exec, turns, if_pos hc] at h
          obtain ⟨s₁, h₁, h₂⟩ := Option.bind_eq_some_iff.mp h
          exact ⟨n + 1, s₁, h₁, n + 1, s', turns_mono (fun h => h) (Nat.le_succ n) h₂, hQ⟩
    · rintro ⟨n, s₁, h₁, m, s', h₂, hQ⟩
      refine ⟨max n m + 1, s', ?_, hQ⟩
      rw [exec, turns, if_pos hc, exec_mono (by omega) h₁, Option.bind_some]
      exact turns_mono (exec_mono (by omega)) (Nat.le_max_right n m) h₂
  · rw [if_neg hc]
    constructor
    · rintro ⟨n, s', h, hQ⟩
      cases n with
      | zero => cases h
      | succ n =>
          rw [exec, turns, if_neg hc] at h
          cases h
          exact hQ
    · intro hQ
      exact ⟨1, s, by rw [exec, turns, if_neg hc], hQ⟩

theorem returns_do_while {c : σ → Bool} {p : Prog σ} :
    (do_while p c).Returns s Q ↔ p.Returns s fun s' => (loop c p).Returns s' Q := returns_seq

theorem returns_switch_default (c : σ → ℕ) (d : Prog σ) : ∀ ps : List (ℕ × Prog σ),
    (switch_default c d ps).Returns s Q ↔ ((ps.lookup (c s)).getD d).Returns s Q
  | [] => Iff.rfl
  | (k, p) :: ps => by
      rw [switch_default, returns_ite, List.lookup_cons]
      by_cases h : c s = k
      · simp [h]
      · have hne : (c s == k) = false := by simpa using h
        rw [hne, if_neg (by simpa using h)]
        exact returns_switch_default c d ps

end equations

section rules
variable {p : Prog σ} {s : σ} {Q Q' R : σ → Prop}

theorem Returns.mono (h : p.Returns s Q) (hQ : ∀ s', Q s' → Q' s') : p.Returns s Q' := by
  obtain ⟨n, s', h, hs'⟩ := h
  exact ⟨n, s', h, hQ s' hs'⟩

/-- Two descriptions of one run. -/
theorem Returns.and (h : p.Returns s Q) (h' : p.Returns s Q') :
    p.Returns s fun s' => Q s' ∧ Q' s' := by
  obtain ⟨n, s₁, h₁, hQ⟩ := h
  obtain ⟨m, s₂, h₂, hQ'⟩ := h'
  rw [← exec_unique h₁ h₂] at hQ'
  exact ⟨n, s₁, h₁, hQ, hQ'⟩

/-- The end of a run is known. -/
theorem returns_of_exec {s' : σ} (n : ℕ) (h : p.exec n s = some s') : p.Returns s Q ↔ Q s' := by
  constructor
  · rintro ⟨m, s₁, h₁, hQ⟩
    rwa [exec_unique h₁ h] at hQ
  · exact fun hQ => ⟨n, s', h, hQ⟩

/-- A program that returns with `R` returns with `Q` if `R` decides it. -/
theorem Returns.iff {A : Prop} (h : p.Returns s R) (hQ : ∀ s', R s' → (Q s' ↔ A)) :
    p.Returns s Q ↔ A := by
  constructor
  · intro h'
    obtain ⟨n, s', -, hR, hs'⟩ := h.and h'
    exact (hQ s' hR).mp hs'
  · exact fun hA => h.mono fun s' hR => (hQ s' hR).mpr hA

end rules

end Prog

end Interleave
