import Mathlib.Data.List.Nodup
import Mathlib.Data.Nat.ModEq
import Mathlib.Tactic

/-! # Numerals of a fixed width

`digits b len n` are the `len` lowest digits of `n` in base `b`, the highest first; two numbers have
the same ones exactly when they agree modulo `b ^ len` (`digits_eq_iff`), and every list of digits
is a numeral (`digits_value`).

`CountsDown f N n l`: the list `l` shows `n`, `n - 1`, … through `f`, which only sees numbers modulo
`N`.  Such a list has no repetition as long as it is not longer than `N` (`CountsDown.nodup`). -/

namespace Numeral

variable {b : ℕ}

/-- The `len` lowest digits of `n`, the highest first. -/
def digits (b : ℕ) : ℕ → ℕ → List ℕ
  | 0, _ => []
  | len + 1, n => digits b len (n / b) ++ [n % b]

/-- The number that a list of digits shows. -/
def value (b : ℕ) (ds : List ℕ) : ℕ := ds.foldl (fun v d => v * b + d) 0

@[simp] theorem digits_length (len n : ℕ) : (digits b len n).length = len := by
  induction len generalizing n with
  | zero => rfl
  | succ len ih => simp [digits, ih]

theorem digits_lt (hb : 0 < b) (len n : ℕ) : ∀ d ∈ digits b len n, d < b := by
  induction len generalizing n with
  | zero => exact fun d hd => by cases hd
  | succ len ih =>
      intro d hd
      rcases List.mem_append.mp hd with hd | hd
      · exact ih (n / b) d hd
      · rw [List.mem_singleton.mp hd]
        exact Nat.mod_lt n hb

theorem value_concat (ds : List ℕ) (d : ℕ) : value b (ds ++ [d]) = value b ds * b + d := by
  simp [value]

theorem value_digits (len n : ℕ) : value b (digits b len n) = n % b ^ len := by
  induction len generalizing n with
  | zero => simp [digits, value, Nat.mod_one]
  | succ len ih =>
      rw [digits, value_concat, ih, pow_succ', Nat.mod_mul, Nat.mul_comm, Nat.add_comm]

/-- Every list of digits is the numeral of its value. -/
theorem digits_value (hb : 0 < b) {ds : List ℕ} (h : ∀ d ∈ ds, d < b) :
    digits b ds.length (value b ds) = ds := by
  induction ds using List.reverseRecOn with
  | nil => rfl
  | append_singleton ds d ih =>
      have hd : d < b := h d (by simp)
      have hdiv : (value b ds * b + d) / b = value b ds := by
        rw [Nat.mul_comm, Nat.mul_add_div hb, Nat.div_eq_of_lt hd, Nat.add_zero]
      have hmod : (value b ds * b + d) % b = d := by
        rw [Nat.mul_comm, Nat.mul_add_mod, Nat.mod_eq_of_lt hd]
      rw [List.length_append, List.length_singleton, digits, value_concat, hdiv, hmod,
        ih fun d hd => h d (by simp [hd])]

theorem digits_mod (len n : ℕ) : digits b len (n % b ^ len) = digits b len n := by
  induction len generalizing n with
  | zero => rfl
  | succ len ih =>
      rw [digits, digits, pow_succ', Nat.mod_mul_right_div_self, ih,
        Nat.mod_mod_of_dvd n (dvd_mul_right b (b ^ len))]

/-- A numeral is the number modulo the power of the base. -/
theorem digits_eq_iff {len n m : ℕ} : digits b len n = digits b len m ↔ n ≡ m [MOD b ^ len] := by
  constructor
  · intro h
    have hv := congrArg (value b) h
    rwa [value_digits, value_digits] at hv
  · intro h
    rw [← digits_mod len n, ← digits_mod len m, h]

theorem value_lt {ds : List ℕ} (h : ∀ d ∈ ds, d < b) : value b ds < b ^ ds.length := by
  induction ds using List.reverseRecOn with
  | nil => simp [value]
  | append_singleton ds d ih =>
      have hv : value b ds + 1 ≤ b ^ ds.length := ih fun d hd => h d (by simp [hd])
      have hd : d < b := h d (by simp)
      rw [value_concat, List.length_append, List.length_singleton, pow_succ]
      calc value b ds * b + d < (value b ds + 1) * b := by rw [Nat.succ_mul]; omega
        _ ≤ b ^ ds.length * b := Nat.mul_le_mul_right b hv

section foldl
variable {N len : ℕ} {f : ℕ → ℕ} {step : ℕ → ℕ → ℕ} (hf : ∀ i < len, f i < b)
include hf

theorem value_range_lt {k : ℕ} (hk : k ≤ len) : value b ((List.range k).map f) < b ^ k := by
  have h : value b ((List.range k).map f) < b ^ ((List.range k).map f).length := value_lt fun d hd => by
    obtain ⟨i, hi, rfl⟩ := List.mem_map.mp hd
    exact hf i (lt_of_lt_of_le (List.mem_range.mp hi) hk)
  simpa using h

variable (hN : b ^ len ≤ N) (hstep : ∀ n i, i + 1 < len → step n i = (n + f i) % N * b % N)
include hN hstep

/-- A loop that adds digits from the highest to the lowest and multiplies in between, in numbers
below `N`. -/
theorem foldl_range (k : ℕ) (hk : k < len) :
    (List.range k).foldl step 0 = value b ((List.range k).map f) * b := by
  induction k with
  | zero => simp [value]
  | succ k ih =>
      have hpos : 0 < b := Nat.zero_lt_of_lt (hf k (by omega))
      have hmul : value b ((List.range (k + 1)).map f) * b < N :=
        calc value b ((List.range (k + 1)).map f) * b < b ^ (k + 1) * b :=
              Nat.mul_lt_mul_of_pos_right (value_range_lt hf (by omega)) hpos
          _ = b ^ (k + 2) := (pow_succ b (k + 1)).symm
          _ ≤ b ^ len := Nat.pow_le_pow_right hpos (by omega)
          _ ≤ N := hN
      have hval : value b ((List.range k).map f) * b + f k =
          value b ((List.range (k + 1)).map f) := by
        rw [List.range_succ, List.map_append, List.map_singleton, value_concat]
      rw [List.range_succ, List.foldl_append, ih (by omega), List.foldl_cons,
        List.foldl_nil, hstep _ _ (by omega), hval, ← List.range_succ,
        Nat.mod_eq_of_lt (lt_of_le_of_lt (Nat.le_mul_of_pos_right _ hpos) hmul),
        Nat.mod_eq_of_lt hmul]

/-- At the last digit the loop does something else. -/
theorem foldl_value {r : ℕ} (hlen : 0 < len)
    (hlast : ∀ n, n + f (len - 1) = value b ((List.range len).map f) → step n (len - 1) = r) :
    (List.range len).foldl step 0 = r := by
  obtain ⟨k, rfl⟩ : ∃ k, len = k + 1 := ⟨len - 1, by omega⟩
  rw [List.range_succ, List.foldl_append, foldl_range hf hN hstep k (by omega), List.foldl_cons,
    List.foldl_nil]
  apply hlast
  rw [List.range_succ, List.map_append, List.map_singleton, value_concat]
  rfl

end foldl

theorem digits_getElem? {len n i : ℕ} (h : i < len) :
    (digits b len n)[i]? = some (n / b ^ (len - 1 - i) % b) := by
  induction len generalizing n with
  | zero => omega
  | succ len ih =>
      rw [digits]
      by_cases hi : i < len
      · rw [List.getElem?_append_left (by simpa using hi), ih hi, Nat.div_div_eq_div_mul,
          ← pow_succ', show len - 1 - i + 1 = len + 1 - 1 - i by omega]
      · obtain rfl : i = len := by omega
        rw [List.getElem?_append_right (by simp)]
        simp

/-! ### Counting down -/

variable {α : Type}

/-- The list shows `n`, `n - 1`, …, modulo `N`. -/
def CountsDown (f : ℕ → α) (N : ℕ) : ℕ → List α → Prop
  | _, [] => True
  | n, a :: l => a = f n ∧ CountsDown f N (n + (N - 1)) l

section countsDown
variable {f : ℕ → α} {N : ℕ} (hf : ∀ n m, f n = f m ↔ n ≡ m [MOD N])
include hf

theorem CountsDown.congr {l : List α} {n m : ℕ} (h : n ≡ m [MOD N]) (hc : CountsDown f N n l) :
    CountsDown f N m l := by
  induction l generalizing n m with
  | nil => trivial
  | cons a l ih =>
      obtain ⟨ha, hl⟩ := hc
      exact ⟨ha.trans ((hf n m).mpr h), ih (h.add_right (N - 1)) hl⟩

omit hf in
theorem CountsDown.getElem {l : List α} {n : ℕ} (h : CountsDown f N n l) (i : ℕ)
    (hi : i < l.length) : l[i] = f (n + i * (N - 1)) := by
  induction l generalizing n i with
  | nil => simp at hi
  | cons a l ih =>
      obtain ⟨ha, hl⟩ := h
      cases i with
      | zero => simpa using ha
      | succ i =>
          rw [List.getElem_cons_succ, ih hl i (by simpa using hi), Nat.succ_mul]
          congr 1
          omega

/-- The entries at `i` and `j` are the same number only if `i` and `j` agree modulo `N`. -/
theorem CountsDown.nodup {l : List α} {n : ℕ} (h : CountsDown f N n l) (hl : l.length ≤ N) :
    l.Nodup := by
  refine List.nodup_iff_injective_getElem.mpr fun ⟨i, hi⟩ ⟨j, hj⟩ heq => ?_
  dsimp only at heq
  rw [h.getElem i hi, h.getElem j hj, hf] at heq
  have hij : i * (N - 1) ≡ j * (N - 1) [MOD N] := Nat.ModEq.add_left_cancel' n heq
  have hcop : N.Coprime (N - 1) := by
    obtain ⟨k, rfl⟩ : ∃ k, N = k + 1 := ⟨N - 1, by omega⟩
    simp
  have heq : i ≡ j [MOD N] := Nat.ModEq.cancel_right_of_coprime hcop hij
  exact Fin.ext (Nat.ModEq.eq_of_lt_of_lt heq (by omega) (by omega))

end countsDown

end Numeral
