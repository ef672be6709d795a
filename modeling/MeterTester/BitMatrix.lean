import Mathlib.Data.List.Range
import Mathlib.Data.Nat.Bitwise
import Mathlib.Tactic

/-! # Bit strings and parity matrices

`ofBits f n` reads `f 0, …, f (n - 1)` as a binary number, highest bit first.  `parity f n` is the
exclusive or of the same bits.

`complete n k m` borders the `n × k` bit matrix `m` by the parities of its rows and columns; every
row and every column of the result is even (`complete_row`, `complete_col`). -/

namespace BitMatrix

/-! ### Binary numbers -/

/-- The number with binary digits `f 0 … f (n - 1)`, highest first. -/
def ofBits (f : ℕ → Bool) : ℕ → ℕ
  | 0 => 0
  | n + 1 => 2 * ofBits f n + (f n).toNat

theorem ofBits_lt (f : ℕ → Bool) (n : ℕ) : ofBits f n < 2 ^ n := by
  induction n with
  | zero => simp [ofBits]
  | succ n ih =>
      have hb := Bool.toNat_le (f n)
      rw [ofBits, Nat.pow_succ]
      omega

theorem ofBits_congr {f g : ℕ → Bool} {n : ℕ} (h : ∀ i, i < n → f i = g i) :
    ofBits f n = ofBits g n := by
  induction n with
  | zero => rfl
  | succ n ih =>
      rw [ofBits, ofBits, ih (fun i hi => h i (by omega)), h n (by omega)]

/-- Reading on behind the first `m` digits. -/
theorem ofBits_add (f : ℕ → Bool) (m n : ℕ) :
    ofBits f (m + n) = ofBits f m * 2 ^ n + ofBits (fun i => f (m + i)) n := by
  induction n with
  | zero => simp [ofBits]
  | succ n ih =>
      rw [← Nat.add_assoc, ofBits, ih, ofBits, Nat.pow_succ]
      ring

/-- The lowest `n` digits of a number. -/
theorem ofBits_testBit (x n : ℕ) : ofBits (fun i => x.testBit (n - 1 - i)) n = x % 2 ^ n := by
  induction n with
  | zero => simp [ofBits, Nat.mod_one]
  | succ n ih =>
      rw [Nat.add_comm n 1, ofBits_add _ 1 n]
      have hrest : ofBits (fun i => x.testBit (1 + n - 1 - (1 + i))) n = x % 2 ^ n := by
        rw [← ih]
        exact ofBits_congr fun i _ => by congr 1; omega
      rw [hrest, Nat.add_comm 1 n, Nat.mod_pow_succ]
      simp only [ofBits, Nat.add_sub_cancel, Nat.sub_zero, Nat.toNat_testBit]
      ring

theorem ofBits_testBit_of_lt {x n : ℕ} (h : x < 2 ^ n) :
    ofBits (fun i => x.testBit (n - 1 - i)) n = x := by
  rw [ofBits_testBit, Nat.mod_eq_of_lt h]

/-- Each digit can be read back. -/
theorem testBit_ofBits (f : ℕ → Bool) {n i : ℕ} (h : i < n) :
    (ofBits f n).testBit (n - 1 - i) = f i := by
  induction n with
  | zero => omega
  | succ n ih =>
      rw [ofBits]
      rcases Nat.lt_or_ge i n with hi | hi
      · have e : n + 1 - 1 - i = (n - 1 - i) + 1 := by omega
        rw [e, Nat.testBit_add_one, ← ih hi]
        congr 1
        have hb := Bool.toNat_le (f n)
        omega
      · have e : n + 1 - 1 - i = 0 := by omega
        have hin : i = n := by omega
        rw [e, Nat.testBit_zero, hin]
        cases f n <;> simp

theorem ofBits_eq_zero_iff (f : ℕ → Bool) (n : ℕ) : ofBits f n = 0 ↔ ∀ i, i < n → f i = false := by
  induction n with
  | zero => simp [ofBits]
  | succ n ih =>
      rw [ofBits]
      constructor
      · intro h i hi
        rcases Nat.lt_or_ge i n with hlt | hge
        · exact ih.mp (by omega) i hlt
        · have hin : i = n := by omega
          subst hin
          cases hf : f i with
          | false => rfl
          | true => rw [hf, Bool.toNat_true] at h; omega
      · intro h
        rw [ih.mpr (fun i hi => h i (by omega)), h n (by omega)]
        rfl

/-! ### Parity -/

/-- Exclusive or of `f 0 … f (n - 1)`. -/
def parity (f : ℕ → Bool) : ℕ → Bool
  | 0 => false
  | n + 1 => parity f n ^^ f n

theorem parity_congr {f g : ℕ → Bool} {n : ℕ} (h : ∀ i, i < n → f i = g i) :
    parity f n = parity g n := by
  induction n with
  | zero => rfl
  | succ n ih =>
      rw [parity, parity, ih (fun i hi => h i (by omega)), h n (by omega)]

theorem parity_false (n : ℕ) : parity (fun _ => false) n = false := by
  induction n with
  | zero => rfl
  | succ n ih => rw [parity, ih]; rfl

theorem parity_xor (f g : ℕ → Bool) (n : ℕ) :
    parity (fun i => f i ^^ g i) n = (parity f n ^^ parity g n) := by
  induction n with
  | zero => rfl
  | succ n ih =>
      simp only [parity, ih]
      cases parity f n <;> cases parity g n <;> cases f n <;> cases g n <;> rfl

/-- The parity of the row parities is the parity of the column parities. -/
theorem parity_comm (m : ℕ → ℕ → Bool) (k n : ℕ) :
    parity (fun i => parity (m i) k) n = parity (fun j => parity (fun i => m i j) n) k := by
  induction n with
  | zero => simp only [parity, parity_false]
  | succ n ih =>
      simp only [parity]
      rw [parity_xor, ih]

/-- Counting ones decides the parity. -/
theorem countP_mod_two (f : ℕ → Bool) (n : ℕ) :
    (List.range n).countP f % 2 = (parity f n).toNat := by
  induction n with
  | zero => rfl
  | succ n ih =>
      rw [List.range_succ, List.countP_append, List.countP_singleton, parity]
      cases hp : parity f n <;> cases hf : f n <;>
        simp only [hp, Bool.toNat_true, Bool.toNat_false] at ih <;>
        simp only [if_true, if_false, Bool.xor_true, Bool.xor_false, Bool.not_true, Bool.not_false,
          Bool.toNat_true, Bool.toNat_false, Bool.false_eq_true] <;> omega

/-! ### Completion -/

/-- The matrix `m` with its row parities in column `k` and its column parities in row `n`. -/
def complete (n k : ℕ) (m : ℕ → ℕ → Bool) (i j : ℕ) : Bool :=
  if i < n then
    if j < k then m i j else parity (m i) k
  else
    if j < k then parity (fun i => m i j) n else parity (fun i => parity (m i) k) n

section complete
variable {n k : ℕ} {m : ℕ → ℕ → Bool}

theorem complete_inner {i j : ℕ} (hi : i < n) (hj : j < k) : complete n k m i j = m i j := by
  rw [complete, if_pos hi, if_pos hj]

theorem complete_lower {j : ℕ} (hj : j < k) :
    complete n k m n j = parity (fun i => m i j) n := by
  rw [complete, if_neg (by omega), if_pos hj]

theorem complete_row {i : ℕ} (hi : i ≤ n) : parity (complete n k m i) (k + 1) = false := by
  rw [parity]
  rcases Nat.lt_or_ge i n with h | h
  · have hrow : parity (complete n k m i) k = parity (m i) k :=
      parity_congr fun j hj => complete_inner h hj
    rw [hrow, complete, if_pos h, if_neg (by omega)]
    exact Bool.xor_self _
  · have hin : i = n := by omega
    subst hin
    have hrow : parity (complete i k m i) k = parity (fun j => parity (fun r => m r j) i) k :=
      parity_congr fun j hj => complete_lower hj
    rw [hrow, complete, if_neg (by omega), if_neg (by omega), parity_comm]
    exact Bool.xor_self _

theorem complete_col {j : ℕ} (hj : j ≤ k) :
    parity (fun i => complete n k m i j) (n + 1) = false := by
  rw [parity]
  rcases Nat.lt_or_ge j k with h | h
  · have hcol : parity (fun i => complete n k m i j) n = parity (fun i => m i j) n :=
      parity_congr fun i hi => complete_inner hi h
    rw [hcol, complete_lower h]
    exact Bool.xor_self _
  · have hjk : j = k := by omega
    subst hjk
    have hcol : parity (fun i => complete n j m i j) n = parity (fun i => parity (m i) j) n :=
      parity_congr fun i hi => by rw [complete, if_pos hi, if_neg (by omega)]
    rw [hcol, complete, if_neg (by omega), if_neg (by omega)]
    exact Bool.xor_self _

end complete

end BitMatrix
