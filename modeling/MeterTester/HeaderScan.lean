import Mathlib.Tactic

/-! # Scattered headers

A receiver waits for the elements of a header one after the other, throwing away what does not
match, and keeps everything after the last of them.  `kept ps xs` is what it keeps of `xs` when
the header is given by the predicates `ps`.  The matched elements need not stand next to each
other in `xs`, and an element once matched is never given up. -/

namespace HeaderScan

variable {α β : Type}

def kept : List (α → Bool) → List α → List α
  | _, [] => []
  | [], x :: xs => x :: kept [] xs
  | p :: ps, x :: xs => if p x then x :: kept ps xs else kept (p :: ps) xs

/-- A receiver that has kept `k` elements keeps `x` too. -/
def accepts (ps : List (α → Bool)) (k : ℕ) (x : α) : Bool :=
  match ps[k]? with
  | some p => p x
  | none => true

@[simp] theorem kept_nil (ps : List (α → Bool)) : kept ps [] = [] := by
  cases ps <;> rfl

theorem kept_no_header (xs : List α) : kept [] xs = xs := by
  induction xs with
  | nil => rfl
  | cons x xs ih => rw [kept, ih]

/-- After `xs` the receiver waits for the rest of the header. -/
theorem kept_append (ps : List (α → Bool)) (xs ys : List α) :
    kept ps (xs ++ ys) = kept ps xs ++ kept (ps.drop (kept ps xs).length) ys := by
  induction xs generalizing ps with
  | nil => simp
  | cons x xs ih =>
      cases ps with
      | nil => simp [kept_no_header]
      | cons p ps =>
          rw [List.cons_append, kept, kept]
          split
          · rw [ih, List.cons_append, List.length_cons, List.drop_succ_cons]
          · exact ih (p :: ps)

/-- **One more element.** -/
theorem kept_snoc (ps : List (α → Bool)) (xs : List α) (x : α) :
    kept ps (xs ++ [x]) =
      if accepts ps (kept ps xs).length x then kept ps xs ++ [x] else kept ps xs := by
  rw [kept_append, accepts]
  cases h : ps.drop (kept ps xs).length with
  | nil =>
      rw [List.getElem?_eq_none (List.drop_eq_nil_iff.mp h)]
      rfl
  | cons p qs =>
      have hp : ps[(kept ps xs).length]? = some p := by
        rw [← List.head?_drop, h, List.head?_cons]
      rw [hp, kept]
      split <;> simp

theorem accepts_of_le {ps : List (α → Bool)} {k : ℕ} (h : ps.length ≤ k) (x : α) :
    accepts ps k x = true := by
  rw [accepts, List.getElem?_eq_none h]

theorem kept_sublist (ps : List (α → Bool)) (xs : List α) : (kept ps xs).Sublist xs := by
  induction xs generalizing ps with
  | nil => simp
  | cons x xs ih =>
      cases ps with
      | nil => rw [kept_no_header]
      | cons p ps =>
          rw [kept]
          split
          · exact (ih ps).cons_cons x
          · exact (ih (p :: ps)).cons x

/-- Once the header is complete, everything behind it is kept. -/
theorem kept_split (ps : List (α → Bool)) (xs : List α) (h : ps.length ≤ (kept ps xs).length) :
    ∃ pre post, xs = pre ++ post ∧ kept ps xs = kept ps pre ++ post ∧
      (kept ps pre).length = ps.length := by
  induction xs generalizing ps with
  | nil =>
      have hps : ps = [] := by simpa using h
      exact ⟨[], [], rfl, by simp, by rw [hps]; rfl⟩
  | cons x xs ih =>
      cases ps with
      | nil => exact ⟨[], x :: xs, rfl, by simp [kept_no_header], rfl⟩
      | cons p ps =>
          rw [kept] at h
          by_cases hp : p x = true
          · rw [if_pos hp, List.length_cons, List.length_cons] at h
            obtain ⟨pre, post, hxs, hk, hl⟩ := ih ps (by omega)
            refine ⟨x :: pre, post, by rw [hxs, List.cons_append], ?_, ?_⟩
            · rw [kept, kept, if_pos hp, if_pos hp, hk, List.cons_append]
            · rw [kept, if_pos hp, List.length_cons, List.length_cons, hl]
          · rw [if_neg hp] at h
            obtain ⟨pre, post, hxs, hk, hl⟩ := ih (p :: ps) h
            refine ⟨x :: pre, post, by rw [hxs, List.cons_append], ?_, ?_⟩
            · rw [kept, kept, if_neg hp, if_neg hp, hk]
            · rw [kept, if_neg hp, hl]

/-- The kept elements of the header satisfy its predicates. -/
theorem kept_header (ps : List (α → Bool)) (xs : List α) (i : ℕ) (p : α → Bool) (x : α)
    (hp : ps[i]? = some p) (hx : (kept ps xs)[i]? = some x) : p x = true := by
  induction xs generalizing ps i with
  | nil => simp at hx
  | cons y xs ih =>
      cases ps with
      | nil => simp at hp
      | cons q ps =>
          rw [kept] at hx
          split at hx
          · rename_i hq
            cases i with
            | zero =>
                simp only [List.getElem?_cons_zero, Option.some.injEq] at hp hx
                rw [← hp, ← hx]
                exact hq
            | succ i => exact ih ps i (by simpa using hp) (by simpa using hx)
          · exact ih (q :: ps) i hp hx

/-- Where the first element of the header does not occur nothing is kept. -/
theorem kept_eq_nil {p : α → Bool} (ps : List (α → Bool)) {xs : List α}
    (h : ∀ x ∈ xs, p x = false) : kept (p :: ps) xs = [] := by
  induction xs with
  | nil => rfl
  | cons x xs ih =>
      rw [kept, if_neg (by simp [h x])]
      exact ih fun y hy => h y (List.mem_cons_of_mem x hy)

/-- Tags that the predicates agree on. -/
theorem kept_map (f : α → β) (ps : List (β → Bool)) (xs : List α) :
    kept ps (xs.map f) = (kept (ps.map (· ∘ f)) xs).map f := by
  induction xs generalizing ps with
  | nil => simp
  | cons x xs ih =>
      cases ps with
      | nil => simp [kept_no_header]
      | cons p ps =>
          rw [List.map_cons, List.map_cons, kept, kept, Function.comp_apply]
          split
          · rw [ih, List.map_cons]
          · exact ih (p :: ps)

end HeaderScan
