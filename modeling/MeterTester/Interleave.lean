import Mathlib.Tactic

/-! # A thread in an interfering environment

`Prog σ` is a program whose atomic statements transform a state of type `σ`.  Between any two
steps of the thread an environment relation `env` may change the state: an interrupt handler, a
task of higher priority.  A `check` is a statement that can only be passed when its condition
holds; a thread that waits, or that would leave the bounds of an array, stands before one.

`Triple env I P p Q`: started in a state with `P`, the thread keeps `I` at every moment, and `Q`
holds whenever it has ended.  There is one rule for each statement (`Triple.act`, `Triple.ite`,
`Triple.loop`, …); assertions between statements must be stable under `env` (`Holds`).
`Sessions` adds a reset that may strike at every moment and starts the program over.

`exec` runs a program alone; such a run is one of the interleaved ones (`exec_reach`). -/

namespace Interleave

variable {σ : Type}

/-- Programs over states of type `σ`. -/
inductive Prog (σ : Type) where
  | skip
  | act (f : σ → σ)
  | check (c : σ → Bool)
  | seq (p q : Prog σ)
  | ite (c : σ → Bool) (p q : Prog σ)
  | loop (c : σ → Bool) (p : Prog σ)

namespace Prog

/-- Statements one after the other. -/
def block : List (Prog σ) → Prog σ
  | [] => skip
  | p :: ps => seq p (block ps)

/-- A conditional without alternative. -/
def cond (c : σ → Bool) (p : Prog σ) : Prog σ := ite c p skip

/-- `switch(c) { case k: p; break; … }`. -/
def switch (c : σ → ℕ) : List (ℕ × Prog σ) → Prog σ
  | [] => skip
  | (k, p) :: rest => ite (fun s => c s = k) p (switch c rest)

/-- `switch(c) { case k: p; break; … default: d; }`. -/
def switch_default (c : σ → ℕ) (d : Prog σ) : List (ℕ × Prog σ) → Prog σ
  | [] => d
  | (k, p) :: rest => ite (fun s => c s = k) p (switch_default c d rest)

/-- `do p while (c)`. -/
def do_while (p : Prog σ) (c : σ → Bool) : Prog σ := seq p (loop c p)

/-- The endless loop. -/
def forever (p : Prog σ) : Prog σ := loop (fun _ => true) p

/-- Every atomic statement of the program keeps `P`. -/
def Keeps (P : σ → Prop) : Prog σ → Prop
  | skip => True
  | act f => ∀ s, P s → P (f s)
  | check _ => True
  | seq p q => p.Keeps P ∧ q.Keeps P
  | ite _ p q => p.Keeps P ∧ q.Keeps P
  | loop _ p => p.Keeps P

/-- Every atomic statement of the program changes the state as `R` allows. -/
def All (R : σ → σ → Prop) : Prog σ → Prop
  | skip => True
  | act f => ∀ s, R s (f s)
  | check _ => True
  | seq p q => p.All R ∧ q.All R
  | ite _ p q => p.All R ∧ q.All R
  | loop _ p => p.All R

theorem All.mono {R R' : σ → σ → Prop} (hR : ∀ s s', R s s' → R' s s') :
    ∀ {p : Prog σ}, p.All R → p.All R'
  | skip, _ => trivial
  | act f, h => fun s => hR s (f s) (h s)
  | check _, _ => trivial
  | .seq _ _, h => ⟨All.mono hR h.1, All.mono hR h.2⟩
  | .ite _ _ _, h => ⟨All.mono hR h.1, All.mono hR h.2⟩
  | loop _ p, h => All.mono (p := p) hR h

theorem All.keeps {R : σ → σ → Prop} {P : σ → Prop} (hR : ∀ s s', R s s' → P s → P s') :
    ∀ {p : Prog σ}, p.All R → p.Keeps P
  | skip, _ => trivial
  | act f, h => fun s => hR s (f s) (h s)
  | check _, _ => trivial
  | .seq _ _, h => ⟨All.keeps hR h.1, All.keeps hR h.2⟩
  | .ite _ _ _, h => ⟨All.keeps hR h.1, All.keeps hR h.2⟩
  | loop _ p, h => All.keeps (p := p) hR h

/-- The program with its checks passed unseen. -/
def unchecked : Prog σ → Prog σ
  | skip => skip
  | act f => act f
  | check _ => skip
  | seq p q => seq p.unchecked q.unchecked
  | ite c p q => ite c p.unchecked q.unchecked
  | loop c p => loop c p.unchecked

theorem Keeps.unchecked {P : σ → Prop} : ∀ {p : Prog σ}, p.Keeps P → p.unchecked.Keeps P
  | skip, _ => trivial
  | act _, h => h
  | check _, _ => trivial
  | .seq _ _, h => ⟨Keeps.unchecked h.1, Keeps.unchecked h.2⟩
  | .ite _ _ _, h => ⟨Keeps.unchecked h.1, Keeps.unchecked h.2⟩
  | loop _ p, h => Keeps.unchecked (p := p) h

theorem unchecked_switch (c : σ → ℕ) : ∀ ps : List (ℕ × Prog σ),
    (switch c ps).unchecked = switch c (ps.map fun kp => (kp.1, kp.2.unchecked))
  | [] => rfl
  | (k, p) :: ps => by
      rw [switch, unchecked, unchecked_switch c ps]
      rfl

theorem unchecked_switch_default (c : σ → ℕ) (d : Prog σ) : ∀ ps : List (ℕ × Prog σ),
    (switch_default c d ps).unchecked =
      switch_default c d.unchecked (ps.map fun kp => (kp.1, kp.2.unchecked))
  | [] => rfl
  | (k, p) :: ps => by
      rw [switch_default, unchecked, unchecked_switch_default c d ps]
      rfl

theorem unchecked_block : ∀ ps : List (Prog σ), (block ps).unchecked = block (ps.map unchecked)
  | [] => rfl
  | p :: ps => by rw [block, unchecked, unchecked_block ps, List.map_cons, block]

/-- Neither checks nor loops: the program always ends. -/
def Straight : Prog σ → Prop
  | skip => True
  | act _ => True
  | check _ => False
  | seq p q => p.Straight ∧ q.Straight
  | ite _ p q => p.Straight ∧ q.Straight
  | loop _ _ => False

/-! ### Running alone -/

/-- Turns of a loop, at most `n` tests of its condition. -/
def turns (c : σ → Bool) (body : σ → Option σ) : ℕ → σ → Option σ
  | 0, _ => none
  | n + 1, s => if c s then (body s).bind (turns c body n) else some s

/-- The state in which a program ends that runs alone: `none` when it stands before a `check` it
cannot pass, or tests the condition of a loop more than `n` times. -/
def exec (n : ℕ) : Prog σ → σ → Option σ
  | skip, s => some s
  | act f, s => some (f s)
  | check c, s => if c s then some s else none
  | seq p q, s => (p.exec n s).bind (q.exec n)
  | ite c p q, s => if c s then p.exec n s else q.exec n s
  | loop c p, s => turns c (p.exec n) n s

section exec
variable (n : ℕ) (s : σ)

@[simp] theorem exec_skip : (skip : Prog σ).exec n s = some s := rfl
@[simp] theorem exec_act (f : σ → σ) : (act f).exec n s = some (f s) := rfl

@[simp] theorem exec_check (c : σ → Bool) :
    (check c).exec n s = if c s then some s else none := rfl

@[simp] theorem exec_seq (p q : Prog σ) :
    (seq p q).exec n s = (p.exec n s).bind (q.exec n) := rfl

@[simp] theorem exec_ite (c : σ → Bool) (p q : Prog σ) :
    (ite c p q).exec n s = if c s then p.exec n s else q.exec n s := rfl

@[simp] theorem exec_cond (c : σ → Bool) (p : Prog σ) :
    (cond c p).exec n s = if c s then p.exec n s else some s := rfl

@[simp] theorem exec_block_nil : (block []).exec n s = some s := rfl

@[simp] theorem exec_block_cons (p : Prog σ) (ps : List (Prog σ)) :
    (block (p :: ps)).exec n s = (p.exec n s).bind ((block ps).exec n) := rfl

/-- A block of one statement for each element of a list. -/
theorem exec_block_acts {α : Type} (f : α → σ → σ) : ∀ (l : List α) (s : σ),
    (block (l.map fun a => act (f a))).exec n s = some (l.foldl (fun s a => f a s) s)
  | [], _ => rfl
  | a :: l, s => exec_block_acts f l (f a s)

/-- Nothing is left to do behind the last statement of a block. -/
theorem bind_exec_nil (o : Option σ) : o.bind ((block []).exec n) = o := by cases o <;> rfl

theorem exec_switch (c : σ → ℕ) : ∀ ps : List (ℕ × Prog σ),
    (switch c ps).exec n s = ((ps.lookup (c s)).getD skip).exec n s
  | [] => rfl
  | (k, p) :: ps => by
      by_cases h : c s = k
      · simp [switch, h]
      · have hne : (c s == k) = false := by simpa using h
        rw [switch, exec_ite, List.lookup_cons, hne, if_neg (by simpa using h)]
        exact exec_switch c ps

end exec

theorem turns_true {c : σ → Bool} {body : σ → Option σ} {n : ℕ} {s s' : σ} (hc : c s = true)
    (hbody : body s = some s') : turns c body (n + 1) s = turns c body n s' := by
  rw [turns, if_pos hc, hbody, Option.bind_some]

theorem turns_false {c : σ → Bool} {body : σ → Option σ} {n : ℕ} {s : σ} (hc : c s = false) :
    turns c body (n + 1) s = some s := by
  rw [turns, if_neg (by rw [hc]; decide)]

theorem turns_mono {c : σ → Bool} {body body' : σ → Option σ}
    (hbody : ∀ {s s'}, body s = some s' → body' s = some s') : ∀ {n m : ℕ} {s s' : σ}, n ≤ m →
    turns c body n s = some s' → turns c body' m s = some s'
  | 0, _, _, _, _, h => by cases h
  | n + 1, 0, _, _, hm, _ => by cases hm
  | n + 1, m + 1, s, s', hm, h => by
      rw [turns] at h ⊢
      by_cases hc : c s = true
      · rw [if_pos hc] at h ⊢
        obtain ⟨s₁, h₁, h₂⟩ := Option.bind_eq_some_iff.mp h
        rw [hbody h₁, Option.bind_some]
        exact turns_mono hbody (Nat.le_of_succ_le_succ hm) h₂
      · rw [if_neg hc] at h ⊢
        exact h

/-- A run that ends is not changed by more fuel. -/
theorem exec_mono {n m : ℕ} (hm : n ≤ m) : ∀ {p : Prog σ} {s s' : σ}, p.exec n s = some s' →
    p.exec m s = some s'
  | skip, _, _, h => h
  | act _, _, _, h => h
  | check _, _, _, h => h
  | .seq p q, s, s', h => by
      obtain ⟨s₁, h₁, h₂⟩ := Option.bind_eq_some_iff.mp h
      rw [exec_seq, exec_mono hm h₁, Option.bind_some]
      exact exec_mono hm h₂
  | .ite c p q, s, s', h => by
      rw [exec_ite] at h ⊢
      by_cases hc : c s = true
      · rw [if_pos hc] at h ⊢
        exact exec_mono hm h
      · rw [if_neg hc] at h ⊢
        exact exec_mono hm h
  | loop c p, _, _, h => turns_mono (exec_mono hm) hm h

/-- Two runs of one program from one state end in the same state. -/
theorem exec_unique {n m : ℕ} {p : Prog σ} {s s₁ s₂ : σ} (h₁ : p.exec n s = some s₁)
    (h₂ : p.exec m s = some s₂) : s₁ = s₂ := by
  have h := exec_mono (Nat.le_max_left n m) h₁
  rw [exec_mono (Nat.le_max_right n m) h₂] at h
  exact (Option.some.inj h).symm

theorem turns_keeps {P : σ → Prop} {c : σ → Bool} {body : σ → Option σ}
    (hbody : ∀ {s s'}, P s → body s = some s' → P s') : ∀ (n : ℕ) {s s' : σ}, P s →
    turns c body n s = some s' → P s'
  | 0, _, _, _, h => by cases h
  | n + 1, s, s', hs, h => by
      rw [turns] at h
      split at h
      · obtain ⟨s₁, h₁, h₂⟩ := Option.bind_eq_some_iff.mp h
        exact turns_keeps hbody n (hbody hs h₁) h₂
      · cases h
        exact hs

theorem Keeps.exec {P : σ → Prop} {n : ℕ} : ∀ {p : Prog σ} {s s' : σ}, p.Keeps P → P s →
    p.exec n s = some s' → P s'
  | skip, _, _, _, hs, h => by
      cases h
      exact hs
  | act f, s, _, hp, hs, h => by
      cases h
      exact hp s hs
  | check c, s, _, _, hs, h => by
      rw [exec_check] at h
      split at h
      · cases h
        exact hs
      · cases h
  | .seq p q, s, s', hp, hs, h => by
      obtain ⟨s₁, h₁, h₂⟩ := Option.bind_eq_some_iff.mp h
      exact hp.2.exec (hp.1.exec hs h₁) h₂
  | .ite c p q, s, s', hp, hs, h => by
      rw [exec_ite] at h
      split at h
      · exact hp.1.exec hs h
      · exact hp.2.exec hs h
  | loop c p, _, _, hp, hs, h => turns_keeps (Keeps.exec (p := p) hp) n hs h

theorem All.and {R R' : σ → σ → Prop} : ∀ {p : Prog σ}, p.All R → p.All R' →
    p.All fun s s' => R s s' ∧ R' s s'
  | skip, _, _ => trivial
  | act _, h, h' => fun s => ⟨h s, h' s⟩
  | check _, _, _ => trivial
  | .seq _ _, h, h' => ⟨All.and h.1 h'.1, All.and h.2 h'.2⟩
  | .ite _ _ _, h, h' => ⟨All.and h.1 h'.1, All.and h.2 h'.2⟩
  | loop _ p, h, h' => All.and (p := p) h h'

/-- Run alone from a state with `P`, a program that ends leaves one with `Q`. -/
def Ends (n : ℕ) (P : σ → Prop) (p : Prog σ) (Q : σ → Prop) : Prop :=
  ∀ s s', P s → p.exec n s = some s' → Q s'

namespace Ends
variable {n : ℕ} {P P' Q R : σ → Prop} {p q : Prog σ}

theorem pre (h : Ends n P p Q) (hP : ∀ s, P' s → P s) : Ends n P' p Q :=
  fun s s' hs he => h s s' (hP s hs) he

theorem post (h : Ends n P p R) (hQ : ∀ s, R s → Q s) : Ends n P p Q :=
  fun s s' hs he => hQ s' (h s s' hs he)

theorem of_keeps (h : p.Keeps P) : Ends n P p P := fun _ _ hs he => h.exec hs he

theorem act {f : σ → σ} (h : ∀ s, P s → Q (f s)) : Ends n P (Prog.act f) Q := by
  intro s s' hs he
  cases he
  exact h s hs

theorem seq (hp : Ends n P p R) (hq : Ends n R q Q) : Ends n P (Prog.seq p q) Q := by
  intro s s' hs he
  obtain ⟨s₁, h₁, h₂⟩ := Option.bind_eq_some_iff.mp he
  exact hq s₁ s' (hp s s₁ hs h₁) h₂

theorem skip : Ends n P Prog.skip P := fun s s' hs he => by
  cases he
  exact hs

theorem ite {c : σ → Bool} (hp : Ends n (fun s => P s ∧ c s = true) p Q)
    (hq : Ends n (fun s => P s ∧ c s = false) q Q) : Ends n P (Prog.ite c p q) Q := by
  intro s s' hs he
  rw [exec_ite] at he
  by_cases hc : c s = true
  · rw [if_pos hc] at he
    exact hp s s' ⟨hs, hc⟩ he
  · rw [if_neg hc] at he
    exact hq s s' ⟨hs, by simpa using hc⟩ he

theorem cond {c : σ → Bool} (hp : Ends n (fun s => P s ∧ c s = true) p Q)
    (hc : ∀ s, P s → c s = false → Q s) : Ends n P (Prog.cond c p) Q :=
  ite hp (skip.post fun s h => hc s h.1 h.2)

/-- A conditional that keeps an assertion. -/
theorem cond_keeps {c : σ → Bool} (hp : Ends n P p P) : Ends n P (Prog.cond c p) P :=
  cond (hp.pre fun _ h => h.1) fun _ h _ => h

theorem block_cons {ps : List (Prog σ)} (hp : Ends n P p R) (hps : Ends n R (block ps) Q) :
    Ends n P (block (p :: ps)) Q := seq hp hps

theorem block_last (hp : Ends n P p Q) : Ends n P (block [p]) Q := seq hp skip

/-- A block is cut behind its first `k` statements. -/
theorem block_drop : ∀ (k : ℕ) {ps : List (Prog σ)} {P : σ → Prop}, Ends n P (block (ps.take k)) R →
    Ends n R (block (ps.drop k)) Q → Ends n P (block ps) Q
  | 0, _, _, hp, hq => hq.pre fun s hs => hp s s hs rfl
  | _ + 1, [], _, hp, hq => hq.pre fun s hs => hp s s hs rfl
  | k + 1, p :: ps, P, hp, hq => by
      intro s s' hs he
      obtain ⟨s₁, h₁, h₂⟩ := Option.bind_eq_some_iff.mp he
      refine block_drop k (P := fun s₁ => ∃ s, P s ∧ p.exec n s = some s₁) ?_ hq s₁ s' ⟨s, hs, h₁⟩ h₂
      rintro s₂ s₃ ⟨s, hs, h₁⟩ h₂
      exact hp s s₃ hs (by rw [List.take_succ_cons, exec_block_cons, h₁, Option.bind_some, h₂])

theorem switch_default {c : σ → ℕ} {d : Prog σ} : ∀ {ps : List (ℕ × Prog σ)} {P : σ → Prop},
    (∀ kp ∈ ps, Ends n (fun s => P s ∧ c s = kp.1) kp.2 Q) →
    Ends n (fun s => P s ∧ ∀ kp ∈ ps, c s ≠ kp.1) d Q → Ends n P (Prog.switch_default c d ps) Q
  | [], _, _, hd => hd.pre fun _ hs => ⟨hs, fun _ h => by cases h⟩
  | (k, p) :: ps, P, hps, hd => by
      refine ite ((hps (k, p) (by simp)).pre fun s hs => ⟨hs.1, by simpa using hs.2⟩) ?_
      refine switch_default (P := fun s => P s ∧ decide (c s = k) = false) (fun kp hkp => ?_) ?_
      · exact (hps kp (List.mem_cons_of_mem _ hkp)).pre fun s hs => ⟨hs.1.1, hs.2⟩
      · refine hd.pre fun s hs => ⟨hs.1.1, fun kp hkp => ?_⟩
        rcases List.mem_cons.mp hkp with rfl | hkp
        · simpa using hs.1.2
        · exact hs.2 kp hkp

end Ends

theorem exec_unchecked_switch (c : σ → ℕ) (ps : List (ℕ × Prog σ)) (n : ℕ) (s : σ) :
    (switch c ps).unchecked.exec n s = ((ps.lookup (c s)).getD skip).unchecked.exec n s := by
  induction ps with
  | nil => rfl
  | cons kp ps ih =>
      obtain ⟨k, p⟩ := kp
      by_cases h : c s = k
      · simp [switch, unchecked, h]
      · have hne : (c s == k) = false := by simpa using h
        rw [List.lookup_cons, hne]
        simpa [switch, unchecked, h] using ih

theorem exec_unchecked_switch_default (c : σ → ℕ) (d : Prog σ) (ps : List (ℕ × Prog σ)) (n : ℕ)
    (s : σ) : (switch_default c d ps).unchecked.exec n s =
      ((ps.lookup (c s)).getD d).unchecked.exec n s := by
  induction ps with
  | nil => rfl
  | cons kp ps ih =>
      obtain ⟨k, p⟩ := kp
      by_cases h : c s = k
      · simp [switch_default, unchecked, h]
      · have hne : (c s == k) = false := by simpa using h
        rw [List.lookup_cons, hne]
        simpa [switch_default, unchecked, h] using ih

/-- A straight program whose statements obey a preorder takes every state to a later one. -/
theorem Straight.exec {R : σ → σ → Prop} (hrefl : ∀ s, R s s)
    (htrans : ∀ {s s' s''}, R s s' → R s' s'' → R s s'') (n : ℕ) : ∀ {p : Prog σ}, p.Straight →
    p.All R → ∀ s, ∃ s', p.exec n s = some s' ∧ R s s'
  | skip, _, _, s => ⟨s, rfl, hrefl s⟩
  | act f, _, h, s => ⟨f s, rfl, h s⟩
  | .seq p q, hs, h, s => by
      obtain ⟨s₁, he₁, h₁⟩ := Straight.exec hrefl htrans n hs.1 h.1 s
      obtain ⟨s₂, he₂, h₂⟩ := Straight.exec hrefl htrans n hs.2 h.2 s₁
      exact ⟨s₂, by rw [exec_seq, he₁, Option.bind_some, he₂], htrans h₁ h₂⟩
  | .ite c p q, hs, h, s => by
      rw [exec_ite]
      split
      · exact Straight.exec hrefl htrans n hs.1 h.1 s
      · exact Straight.exec hrefl htrans n hs.2 h.2 s

theorem Straight.ends (n : ℕ) : ∀ {p : Prog σ}, p.Straight → ∀ s, ∃ s', p.exec n s = some s'
  | skip, _, s => ⟨s, rfl⟩
  | act f, _, s => ⟨f s, rfl⟩
  | .seq p q, hs, s => by
      obtain ⟨s₁, h₁⟩ := Straight.ends n hs.1 s
      obtain ⟨s₂, h₂⟩ := Straight.ends n hs.2 s₁
      exact ⟨s₂, by rw [exec_seq, h₁, Option.bind_some, h₂]⟩
  | .ite c p q, hs, s => by
      rw [exec_ite]
      split
      · exact Straight.ends n hs.1 s
      · exact Straight.ends n hs.2 s

end Prog

open Prog

/-! ### Interleaved runs -/

/-- One step of the thread. -/
inductive Step : Prog σ → σ → Prog σ → σ → Prop
  | act (f : σ → σ) (s : σ) : Step (act f) s skip (f s)
  | check {c : σ → Bool} {s : σ} : c s = true → Step (check c) s skip s
  | seq_skip (q : Prog σ) (s : σ) : Step (seq skip q) s q s
  | seq {p p' : Prog σ} {s s' : σ} (q : Prog σ) : Step p s p' s' → Step (seq p q) s (seq p' q) s'
  | ite_true {c : σ → Bool} {s : σ} (p q : Prog σ) : c s = true → Step (ite c p q) s p s
  | ite_false {c : σ → Bool} {s : σ} (p q : Prog σ) : c s = false → Step (ite c p q) s q s
  | loop_true {c : σ → Bool} {s : σ} (p : Prog σ) :
      c s = true → Step (loop c p) s (seq p (loop c p)) s
  | loop_false {c : σ → Bool} {s : σ} (p : Prog σ) : c s = false → Step (loop c p) s skip s

/-- `Reach env p s p' s'`: the thread `p`, started in `s`, may come to the point where `p'` is
left to do and the state is `s'`. -/
inductive Reach (env : σ → σ → Prop) (p : Prog σ) (s : σ) : Prog σ → σ → Prop
  | refl : Reach env p s p s
  | step {p' p'' : Prog σ} {s' s'' : σ} :
      Reach env p s p' s' → Step p' s' p'' s'' → Reach env p s p'' s''
  | env {p' : Prog σ} {s' s'' : σ} : Reach env p s p' s' → env s' s'' → Reach env p s p' s''

section reach
variable {env : σ → σ → Prop}

theorem Reach.trans {p p' p'' : Prog σ} {s s' s'' : σ} (h : Reach env p s p' s')
    (h' : Reach env p' s' p'' s'') : Reach env p s p'' s'' := by
  induction h' with
  | refl => exact h
  | step _ hs ih => exact ih.step hs
  | env _ he ih => exact ih.env he

theorem Reach.seq {p p' : Prog σ} {s s' : σ} (h : Reach env p s p' s') (q : Prog σ) :
    Reach env (seq p q) s (seq p' q) s' := by
  induction h with
  | refl => exact .refl
  | step _ hs ih => exact ih.step (hs.seq q)
  | env _ he ih => exact ih.env he

/-- First the one program, then the other. -/
theorem Reach.seq_skip {p q r : Prog σ} {s s' s'' : σ} (h : Reach env p s skip s')
    (h' : Reach env q s' r s'') : Reach env (Prog.seq p q) s r s'' :=
  ((h.seq q).step (.seq_skip q s')).trans h'

/-- A turn of the endless loop. -/
theorem Reach.forever_turn {p : Prog σ} {s s' : σ} (h : Reach env p s skip s') :
    Reach env (forever p) s (forever p) s' :=
  ((Reach.refl.step (.loop_true p rfl)).trans (h.seq _)).step (.seq_skip _ _)

/-- A step of a program all of whose statements keep `P`. -/
theorem Step.keeps {P : σ → Prop} {p p' : Prog σ} {s s' : σ} (h : Step p s p' s') (hp : p.Keeps P) :
    p'.Keeps P ∧ (P s → P s') := by
  induction h with
  | act f s => exact ⟨trivial, hp s⟩
  | check _ => exact ⟨trivial, id⟩
  | seq_skip q s => exact ⟨hp.2, id⟩
  | seq q _ ih => exact ⟨⟨(ih hp.1).1, hp.2⟩, (ih hp.1).2⟩
  | ite_true p q _ => exact ⟨hp.1, id⟩
  | ite_false p q _ => exact ⟨hp.2, id⟩
  | loop_true p _ => exact ⟨⟨hp, hp⟩, id⟩
  | loop_false p _ => exact ⟨trivial, id⟩

theorem Step.all {R : σ → σ → Prop} {p p' : Prog σ} {s s' : σ} (h : Step p s p' s') (hp : p.All R) :
    p'.All R ∧ (s' = s ∨ R s s') := by
  induction h with
  | act f s => exact ⟨trivial, .inr (hp s)⟩
  | check _ => exact ⟨trivial, .inl rfl⟩
  | seq_skip q s => exact ⟨hp.2, .inl rfl⟩
  | seq q _ ih => exact ⟨⟨(ih hp.1).1, hp.2⟩, (ih hp.1).2⟩
  | ite_true p q _ => exact ⟨hp.1, .inl rfl⟩
  | ite_false p q _ => exact ⟨hp.2, .inl rfl⟩
  | loop_true p _ => exact ⟨⟨hp, hp⟩, .inl rfl⟩
  | loop_false p _ => exact ⟨trivial, .inl rfl⟩

theorem turns_reach {c : σ → Bool} {p : Prog σ} {body : σ → Option σ}
    (hbody : ∀ {s s'}, body s = some s' → Reach env p s skip s') : ∀ (n : ℕ) {s s' : σ},
    turns c body n s = some s' → Reach env (loop c p) s skip s'
  | 0, _, _, h => by cases h
  | n + 1, s, s', h => by
      rw [turns] at h
      split at h
      · rename_i hc
        obtain ⟨s₁, h₁, h₂⟩ := Option.bind_eq_some_iff.mp h
        exact (Reach.refl.step (.loop_true p hc)).trans
          ((hbody h₁).seq_skip (turns_reach hbody n h₂))
      · rename_i hc
        cases h
        exact Reach.refl.step (.loop_false p (by simpa using hc))

/-- **A run alone is one of the interleaved runs.** -/
theorem exec_reach {n : ℕ} : ∀ {p : Prog σ} {s s' : σ}, p.exec n s = some s' →
    Reach env p s skip s'
  | skip, _, _, h => by
      cases h
      exact .refl
  | act f, s, _, h => by
      cases h
      exact Reach.refl.step (.act f s)
  | check c, s, _, h => by
      rw [exec_check] at h
      split at h
      · rename_i hc
        cases h
        exact Reach.refl.step (.check hc)
      · cases h
  | .seq p q, s, s', h => by
      obtain ⟨s₁, h₁, h₂⟩ := Option.bind_eq_some_iff.mp h
      exact (exec_reach h₁).seq_skip (exec_reach h₂)
  | .ite c p q, s, s', h => by
      rw [exec_ite] at h
      split at h
      · rename_i hc
        exact (Reach.refl.step (.ite_true p q hc)).trans (exec_reach h)
      · rename_i hc
        exact (Reach.refl.step (.ite_false p q (by simpa using hc))).trans (exec_reach h)
  | loop c p, _, _, h => turns_reach exec_reach n h

end reach

/-! ### Waiting for the environment -/

/-- A loop without a body waits: only the environment can end it. -/
def Prog.waits : Prog σ → Bool
  | skip => true
  | _ => false

/-- A program runs alone, and `f` strikes after every test of a loop in which it waits. -/
def Prog.exec_waiting (f : σ → Option σ) (n : ℕ) : Prog σ → σ → Option σ
  | skip, s => some s
  | act g, s => some (g s)
  | check c, s => if c s then some s else none
  | seq p q, s => (p.exec_waiting f n s).bind (q.exec_waiting f n)
  | ite c p q, s => if c s then p.exec_waiting f n s else q.exec_waiting f n s
  | loop c p, s => turns c (if p.waits then f else p.exec_waiting f n) n s

theorem exec_waiting_reach {env : σ → σ → Prop} {f : σ → Option σ}
    (hf : ∀ {s s'}, f s = some s' → env s s') {n : ℕ} : ∀ {p : Prog σ} {s s' : σ},
    p.exec_waiting f n s = some s' → Reach env p s skip s'
  | skip, _, _, h => by
      cases h
      exact .refl
  | act g, s, _, h => by
      cases h
      exact Reach.refl.step (.act g s)
  | check c, s, _, h => by
      rw [Prog.exec_waiting] at h
      split at h
      · rename_i hc
        cases h
        exact Reach.refl.step (.check hc)
      · cases h
  | .seq p q, s, s', h => by
      obtain ⟨s₁, h₁, h₂⟩ := Option.bind_eq_some_iff.mp h
      exact (exec_waiting_reach hf h₁).seq_skip (exec_waiting_reach hf h₂)
  | .ite c p q, s, s', h => by
      rw [Prog.exec_waiting] at h
      split at h
      · rename_i hc
        exact (Reach.refl.step (.ite_true p q hc)).trans (exec_waiting_reach hf h)
      · rename_i hc
        exact (Reach.refl.step (.ite_false p q (by simpa using hc))).trans (exec_waiting_reach hf h)
  | loop c p, _, _, h => by
      refine turns_reach (fun {s s'} hbody => ?_) n h
      by_cases hp : p.waits = true
      · rw [if_pos hp] at hbody
        cases p with
        | skip => exact Reach.refl.env (hf hbody)
        | _ => cases hp
      · rw [if_neg hp] at hbody
        exact exec_waiting_reach hf hbody

/-! ### Triples -/

/-- An assertion that the environment cannot break and that implies `I`. -/
structure Holds (env : σ → σ → Prop) (I P : σ → Prop) : Prop where
  stable : ∀ s s', P s → env s s' → P s'
  keeps : ∀ s, P s → I s

/-- Started with `P`, the thread keeps `I` at every moment and ends with `Q`. -/
def Triple (env : σ → σ → Prop) (I P : σ → Prop) (p : Prog σ) (Q : σ → Prop) : Prop :=
  ∀ s, P s → ∀ p' s', Reach env p s p' s' → I s' ∧ (p' = skip → Q s')

namespace Triple
variable {env : σ → σ → Prop} {I P P' Q Q' R : σ → Prop}

/-- The proof of every rule: a predicate on the points of a run that each step keeps. -/
theorem of_inv {p : Prog σ} (J : Prog σ → σ → Prop) (hstart : ∀ s, P s → J p s)
    (hstep : ∀ p' s' p'' s'', J p' s' → Step p' s' p'' s'' → J p'' s'')
    (henv : ∀ p' s' s'', J p' s' → env s' s'' → J p' s'')
    (hend : ∀ p' s', J p' s' → I s' ∧ (p' = skip → Q s')) : Triple env I P p Q := by
  intro s hs p' s' h
  apply hend p' s'
  induction h with
  | refl => exact hstart s hs
  | step _ h ih => exact hstep _ _ _ _ ih h
  | env _ h ih => exact henv _ _ _ ih h

theorem conseq {p : Prog σ} (h : Triple env I P p Q) (hP : ∀ s, P' s → P s)
    (hQ : ∀ s, Q s → Q' s) : Triple env I P' p Q' := fun s hs p' s' hr =>
  ⟨(h s (hP s hs) p' s' hr).1, fun he => hQ s' ((h s (hP s hs) p' s' hr).2 he)⟩

theorem pre {p : Prog σ} (h : Triple env I P p Q) (hP : ∀ s, P' s → P s) :
    Triple env I P' p Q := h.conseq hP fun _ => id

theorem skip (hP : Holds env I P) : Triple env I P Prog.skip P := by
  refine of_inv (fun p' s' => p' = Prog.skip ∧ P s') (fun s hs => ⟨rfl, hs⟩) ?_ ?_ ?_
  · rintro _ s' p'' s'' ⟨rfl, -⟩ h
    cases h
  · rintro _ s' s'' ⟨rfl, h⟩ he
    exact ⟨rfl, hP.stable _ _ h he⟩
  · rintro _ s' ⟨rfl, h⟩
    exact ⟨hP.keeps _ h, fun _ => h⟩

theorem act {f : σ → σ} (hP : Holds env I P) (hQ : Holds env I Q) (h : ∀ s, P s → Q (f s)) :
    Triple env I P (Prog.act f) Q := by
  refine of_inv (fun p' s' => (p' = Prog.act f ∧ P s') ∨ (p' = Prog.skip ∧ Q s'))
    (fun s hs => .inl ⟨rfl, hs⟩) ?_ ?_ ?_
  · rintro _ s' p'' s'' (⟨rfl, h'⟩ | ⟨rfl, -⟩) hs
    · cases hs
      exact .inr ⟨rfl, h s' h'⟩
    · cases hs
  · rintro _ s' s'' (⟨rfl, h'⟩ | ⟨rfl, h'⟩) he
    · exact .inl ⟨rfl, hP.stable _ _ h' he⟩
    · exact .inr ⟨rfl, hQ.stable _ _ h' he⟩
  · rintro _ s' (⟨rfl, h'⟩ | ⟨rfl, h'⟩)
    · exact ⟨hP.keeps _ h', fun he => by cases he⟩
    · exact ⟨hQ.keeps _ h', fun _ => h'⟩

theorem check {c : σ → Bool} (hP : Holds env I P) (hQ : Holds env I Q)
    (h : ∀ s, P s → c s = true → Q s) : Triple env I P (Prog.check c) Q := by
  refine of_inv (fun p' s' => (p' = Prog.check c ∧ P s') ∨ (p' = Prog.skip ∧ Q s'))
    (fun s hs => .inl ⟨rfl, hs⟩) ?_ ?_ ?_
  · rintro _ s' p'' s'' (⟨rfl, h'⟩ | ⟨rfl, -⟩) hs
    · cases hs with
      | check hc => exact .inr ⟨rfl, h s' h' hc⟩
    · cases hs
  · rintro _ s' s'' (⟨rfl, h'⟩ | ⟨rfl, h'⟩) he
    · exact .inl ⟨rfl, hP.stable _ _ h' he⟩
    · exact .inr ⟨rfl, hQ.stable _ _ h' he⟩
  · rintro _ s' (⟨rfl, h'⟩ | ⟨rfl, h'⟩)
    · exact ⟨hP.keeps _ h', fun he => by cases he⟩
    · exact ⟨hQ.keeps _ h', fun _ => h'⟩

theorem seq {p q : Prog σ} (hp : Triple env I P p R) (hq : Triple env I R q Q) :
    Triple env I P (Prog.seq p q) Q := by
  refine of_inv (fun r s' =>
    (∃ p' s₀, r = Prog.seq p' q ∧ P s₀ ∧ Reach env p s₀ p' s') ∨
      (∃ s₀, R s₀ ∧ Reach env q s₀ r s')) (fun s hs => .inl ⟨p, s, rfl, hs, .refl⟩) ?_ ?_ ?_
  · rintro _ s' p'' s'' (⟨p', s₀, rfl, h₀, hr⟩ | ⟨s₀, h₀, hr⟩) hs
    · cases hs with
      | seq_skip => exact .inr ⟨s', (hp s₀ h₀ _ _ hr).2 rfl, .refl⟩
      | seq _ hs => exact .inl ⟨_, s₀, rfl, h₀, hr.step hs⟩
    · exact .inr ⟨s₀, h₀, hr.step hs⟩
  · rintro _ s' s'' (⟨p', s₀, rfl, h₀, hr⟩ | ⟨s₀, h₀, hr⟩) he
    · exact .inl ⟨p', s₀, rfl, h₀, hr.env he⟩
    · exact .inr ⟨s₀, h₀, hr.env he⟩
  · rintro r s' (⟨p', s₀, rfl, h₀, hr⟩ | ⟨s₀, h₀, hr⟩)
    · exact ⟨(hp s₀ h₀ _ _ hr).1, fun he => by cases he⟩
    · exact hq s₀ h₀ _ _ hr

theorem ite {c : σ → Bool} {p q : Prog σ} (hP : Holds env I P)
    (hp : Triple env I (fun s => P s ∧ c s = true) p Q)
    (hq : Triple env I (fun s => P s ∧ c s = false) q Q) :
    Triple env I P (Prog.ite c p q) Q := by
  refine of_inv (fun r s' =>
    (r = Prog.ite c p q ∧ P s') ∨
      (∃ s₀, (P s₀ ∧ c s₀ = true) ∧ Reach env p s₀ r s') ∨
      (∃ s₀, (P s₀ ∧ c s₀ = false) ∧ Reach env q s₀ r s')) (fun s hs => .inl ⟨rfl, hs⟩) ?_ ?_ ?_
  · rintro _ s' p'' s'' (⟨rfl, h⟩ | ⟨s₀, h₀, hr⟩ | ⟨s₀, h₀, hr⟩) hs
    · cases hs with
      | ite_true _ _ hc => exact .inr (.inl ⟨s', ⟨h, hc⟩, .refl⟩)
      | ite_false _ _ hc => exact .inr (.inr ⟨s', ⟨h, hc⟩, .refl⟩)
    · exact .inr (.inl ⟨s₀, h₀, hr.step hs⟩)
    · exact .inr (.inr ⟨s₀, h₀, hr.step hs⟩)
  · rintro _ s' s'' (⟨rfl, h⟩ | ⟨s₀, h₀, hr⟩ | ⟨s₀, h₀, hr⟩) he
    · exact .inl ⟨rfl, hP.stable _ _ h he⟩
    · exact .inr (.inl ⟨s₀, h₀, hr.env he⟩)
    · exact .inr (.inr ⟨s₀, h₀, hr.env he⟩)
  · rintro r s' (⟨rfl, h⟩ | ⟨s₀, h₀, hr⟩ | ⟨s₀, h₀, hr⟩)
    · exact ⟨hP.keeps _ h, fun he => by cases he⟩
    · exact hp s₀ h₀ _ _ hr
    · exact hq s₀ h₀ _ _ hr

/-- Where a loop may be: before a test of its condition, in its body, or behind it. -/
theorem loop_points {c : σ → Bool} {p : Prog σ} (hP : ∀ s s', P s → env s s' → P s')
    (hQ : ∀ s s', Q s → env s s' → Q s') (hp : Triple env I (fun s => P s ∧ c s = true) p P)
    (hc : ∀ s, P s → c s = false → Q s) {s s' : σ} {r : Prog σ} (hs : P s)
    (h : Reach env (Prog.loop c p) s r s') :
    (r = Prog.loop c p ∧ P s') ∨
      (∃ p' s₀, r = Prog.seq p' (Prog.loop c p) ∧ (P s₀ ∧ c s₀ = true) ∧ Reach env p s₀ p' s') ∨
      (r = Prog.skip ∧ Q s') := by
  induction h with
  | refl => exact .inl ⟨rfl, hs⟩
  | step _ hstep ih =>
      rcases ih with ⟨rfl, h⟩ | ⟨p', s₀, rfl, h₀, hr⟩ | ⟨rfl, -⟩
      · cases hstep with
        | loop_true _ ht => exact .inr (.inl ⟨p, _, rfl, ⟨h, ht⟩, .refl⟩)
        | loop_false _ hf => exact .inr (.inr ⟨rfl, hc _ h hf⟩)
      · cases hstep with
        | seq_skip => exact .inl ⟨rfl, (hp s₀ h₀ _ _ hr).2 rfl⟩
        | seq _ hs => exact .inr (.inl ⟨_, s₀, rfl, h₀, hr.step hs⟩)
      · cases hstep
  | env _ he ih =>
      rcases ih with ⟨rfl, h⟩ | ⟨p', s₀, rfl, h₀, hr⟩ | ⟨rfl, h⟩
      · exact .inl ⟨rfl, hP _ _ h he⟩
      · exact .inr (.inl ⟨p', s₀, rfl, h₀, hr.env he⟩)
      · exact .inr (.inr ⟨rfl, hQ _ _ h he⟩)

theorem loop {c : σ → Bool} {p : Prog σ} (hP : Holds env I P) (hQ : Holds env I Q)
    (hp : Triple env I (fun s => P s ∧ c s = true) p P) (hc : ∀ s, P s → c s = false → Q s) :
    Triple env I P (Prog.loop c p) Q := by
  intro s hs r s' hr
  rcases loop_points hP.stable hQ.stable hp hc hs hr with
    ⟨rfl, h⟩ | ⟨p', s₀, rfl, h₀, hr⟩ | ⟨rfl, h⟩
  · exact ⟨hP.keeps _ h, fun he => by cases he⟩
  · exact ⟨(hp s₀ h₀ _ _ hr).1, fun he => by cases he⟩
  · exact ⟨hQ.keeps _ h, fun _ => h⟩

theorem cond {c : σ → Bool} {p : Prog σ} (hP : Holds env I P) (hQ : Holds env I Q)
    (hp : Triple env I (fun s => P s ∧ c s = true) p Q) (hc : ∀ s, P s → c s = false → Q s) :
    Triple env I P (Prog.cond c p) Q :=
  .ite hP hp ((skip hQ).pre fun s h => hc s h.1 h.2)

/-- A `switch` over a value that the environment leaves alone. -/
theorem switch {c : σ → ℕ} (hQ : Holds env I Q) (hc : ∀ s s', env s s' → c s' = c s) :
    ∀ {ps : List (ℕ × Prog σ)} {P : σ → Prop}, Holds env I P →
      (∀ kp ∈ ps, Triple env I (fun s => P s ∧ c s = kp.1) kp.2 Q) →
      (∀ s, P s → (∀ kp ∈ ps, c s ≠ kp.1) → Q s) → Triple env I P (Prog.switch c ps) Q
  | [], _, _, _, hnone => (skip hQ).pre fun s hs => hnone s hs fun _ h => by cases h
  | (k, p) :: ps, P, hP, hps, hnone => by
      refine ite hP ((hps (k, p) (by simp)).pre fun s hs => ⟨hs.1, by simpa using hs.2⟩) ?_
      have hP' : Holds env I fun s => P s ∧ c s ≠ k :=
        ⟨fun s s' hs he => ⟨hP.stable s s' hs.1 he, by rw [hc s s' he]; exact hs.2⟩,
          fun s hs => hP.keeps s hs.1⟩
      refine (switch hQ hc (P := fun s => P s ∧ c s ≠ k) hP' (fun kp hkp => ?_) ?_).pre
        fun s hs => ⟨hs.1, by simpa using hs.2⟩
      · exact (hps kp (List.mem_cons_of_mem _ hkp)).pre fun s hs => ⟨hs.1.1, hs.2⟩
      · intro s hs hne
        apply hnone s hs.1
        intro kp hkp
        rcases List.mem_cons.mp hkp with rfl | hkp
        · exact hs.2
        · exact hne kp hkp

theorem block_nil (hP : Holds env I P) : Triple env I P (block []) P := skip hP

theorem block_cons {p : Prog σ} {ps : List (Prog σ)} (hp : Triple env I P p R)
    (hps : Triple env I R (block ps) Q) : Triple env I P (block (p :: ps)) Q := seq hp hps

/-- The last statement of a block. -/
theorem block_last {p : Prog σ} (hQ : Holds env I Q) (hp : Triple env I P p Q) :
    Triple env I P (block [p]) Q := seq hp (skip hQ)

/-- The first `k` statements of a block keep its assertion. -/
theorem block_drop : ∀ (k : ℕ) {ps : List (Prog σ)}, (∀ p ∈ ps.take k, Triple env I P p P) →
    Triple env I P (block (ps.drop k)) Q → Triple env I P (block ps) Q
  | 0, _, _, hq => hq
  | _ + 1, [], _, hq => hq
  | k + 1, p :: ps, hps, hq =>
      block_cons (hps p (by simp)) (block_drop k (fun q h => hps q (by simp [h])) hq)

/-- Statements with one assertion before each. -/
theorem block_range {A : ℕ → σ → Prop} {p : ℕ → Prog σ} {n : ℕ}
    (hn : Holds env I (A n)) (h : ∀ k < n, Triple env I (A k) (p k) (A (k + 1))) :
    Triple env I (A 0) (block ((List.range n).map p)) (A n) := by
  have hfrom : ∀ m k, k + m = n → Triple env I (A k) (block ((List.range' k m).map p)) (A n) := by
    intro m
    induction m with
    | zero =>
        rintro k rfl
        exact block_nil hn
    | succ m ih =>
        intro k hk
        rw [List.range'_succ, List.map_cons]
        exact block_cons (h k (by omega)) (ih (k + 1) (by omega))
  rw [List.range_eq_range']
  exact hfrom n 0 (Nat.zero_add n)

/-- A value of the start state that later assertions speak of. -/
theorem exists_pre {α : Sort*} {P : α → σ → Prop} {p : Prog σ}
    (h : ∀ a, Triple env I (P a) p Q) : Triple env I (fun s => ∃ a, P a s) p Q :=
  fun s ⟨a, hs⟩ => h a s hs

/-- Code that is never reached. -/
theorem unreached {p : Prog σ} (h : ∀ s, ¬ P s) : Triple env I P p Q := fun s hs => absurd hs (h s)

/-- The endless loop never ends. -/
theorem forever {p : Prog σ} (hP : Holds env I P) (hp : Triple env I P p P) :
    Triple env I P (Prog.forever p) fun _ => False :=
  loop hP ⟨fun _ _ h => h.elim, fun _ h => h.elim⟩ (hp.pre fun _ h => h.1) fun _ _ h => by cases h

/-- What a turn of the endless loop keeps, holds before every turn. -/
theorem forever_head {p : Prog σ} (hP : Holds env I P) (hp : Triple env I P p P) {s s' : σ}
    (hs : P s) (h : Reach env (Prog.forever p) s (Prog.forever p) s') : P s' := by
  rcases loop_points (Q := fun _ => False) hP.stable (fun _ _ h => h.elim)
    (hp.pre fun _ h => h.1) (fun _ _ h => by cases h) hs h with
    ⟨-, h⟩ | ⟨p', s₀, h, -⟩ | ⟨h, -⟩
  · exact h
  · cases h
  · cases h

/-- A program all of whose statements keep `P` keeps it. -/
theorem of_keeps (hP : Holds env I P) : ∀ {p : Prog σ}, p.Keeps P → Triple env I P p P
  | .skip, _ => skip hP
  | .act _, h => act hP hP h
  | .check _, _ => check hP hP fun _ h _ => h
  | .seq _ _, h => seq (of_keeps hP h.1) (of_keeps hP h.2)
  | .ite _ _ _, h =>
      ite hP ((of_keeps hP h.1).pre fun _ => And.left) ((of_keeps hP h.2).pre fun _ => And.left)
  | .loop _ p, h =>
      loop hP hP ((of_keeps (p := p) hP h).pre fun _ => And.left) fun _ h _ => h

/-- What holds unless `E` has happened, where nothing makes `E` undone. -/
theorem or_kept {E : σ → Prop} {p : Prog σ} (hE : ∀ s s', E s → env s s' → E s') (hp : p.Keeps E)
    (h : Triple env I P p Q) :
    Triple env (fun s => E s ∨ I s) (fun s => E s ∨ P s) p fun s => E s ∨ Q s := by
  rintro s (hs | hs) p' s' hr
  · have hkept := (of_keeps (I := E) ⟨hE, fun _ => id⟩ hp) s hs p' s' hr
    exact ⟨.inl hkept.1, fun he => .inl (hkept.2 he)⟩
  · exact ⟨.inr (h s hs p' s' hr).1, fun he => .inr ((h s hs p' s' hr).2 he)⟩

theorem holds_or_kept {E : σ → Prop} (hE : ∀ s s', E s → env s s' → E s')
    (hP : Holds env I P) : Holds env (fun s => E s ∨ I s) fun s => E s ∨ P s :=
  ⟨fun s s' hs he => hs.imp (fun h => hE s s' h he) fun h => hP.stable s s' h he,
    fun s hs => hs.imp_right (hP.keeps s)⟩

end Triple

/-! ### Resets -/

/-- The points a program may come to that is started over by every `reset`. -/
inductive Sessions (env reset : σ → σ → Prop) (main : Prog σ) (start : σ → Prop) :
    Prog σ → σ → Prop
  | start {s : σ} : start s → Sessions env reset main start main s
  | step {p p' : Prog σ} {s s' : σ} :
      Sessions env reset main start p s → Step p s p' s' → Sessions env reset main start p' s'
  | env {p : Prog σ} {s s' : σ} :
      Sessions env reset main start p s → env s s' → Sessions env reset main start p s'
  | reset {p : Prog σ} {s s' : σ} :
      Sessions env reset main start p s → reset s s' → Sessions env reset main start main s'

theorem Sessions.trans {env reset : σ → σ → Prop} {start : σ → Prop} {main p p' : Prog σ} {s s' : σ}
    (h : Sessions env reset main start p s) (h' : Reach env p s p' s') :
    Sessions env reset main start p' s' := by
  induction h' with
  | refl => exact h
  | step _ hs ih => exact ih.step hs
  | env _ he ih => exact ih.env he

/-- **An invariant over all sessions**: `main` keeps `I` when started with `P`, and every reset
of a state with `I` leaves one with `P`. -/
theorem Sessions.invariant {env reset : σ → σ → Prop} {I P Q start : σ → Prop} {main : Prog σ}
    (hmain : Triple env I P main Q) (hstart : ∀ s, start s → P s)
    (hreset : ∀ s s', I s → reset s s' → P s') {p : Prog σ} {s : σ}
    (h : Sessions env reset main start p s) : I s := by
  suffices hs : ∃ s₀, P s₀ ∧ Reach env main s₀ p s by
    obtain ⟨s₀, h₀, hr⟩ := hs
    exact (hmain s₀ h₀ p s hr).1
  induction h with
  | start h => exact ⟨_, hstart _ h, .refl⟩
  | step _ hs ih =>
      obtain ⟨s₀, h₀, hr⟩ := ih
      exact ⟨s₀, h₀, hr.step hs⟩
  | env _ he ih =>
      obtain ⟨s₀, h₀, hr⟩ := ih
      exact ⟨s₀, h₀, hr.env he⟩
  | reset _ hrs ih =>
      obtain ⟨s₀, h₀, hr⟩ := ih
      exact ⟨_, hreset _ _ (hmain s₀ h₀ _ _ hr).1 hrs, .refl⟩

end Interleave
