import MeterTester.Decoder

/-! # Radio frames and what the decoder makes of them

The sender's side of the radio format, as the decoder's checks require it: a frame has 49 free
cells `p = 7 * row + col`; the 7 × 7 matrix is completed to even parity in every row and column,
row by row into 8 bytes, and every bit is sent as a pair (`frame`).

The decoder accepts every such frame with the matrix it was made from (`accept_frame`), and
`get_field` reads off the binary number in its cells (`get_field_matrix`).  From cell `49` on it
reads the parities of the columns (`get_field_frame_parity`): a version-`0` reading takes seven
of them into the stored value, so that it comes out right only for the reading `0` with even
columns (`reading_decoded_iff`). -/

namespace MeterTester

open BitMatrix

/-- The byte with bit `7 - c` equal to `f c`. -/
def byteOf (f : ℕ → Bool) : UInt8 := UInt8.ofNat (ofBits f 8)

/-- The rows of an 8 × 8 matrix as bytes. -/
def matrix_bytes (M : ℕ → ℕ → Bool) : List UInt8 := (List.range 8).map fun i => byteOf (M i)

/-- Bit `t` of the `i`-th byte on the air: each cell is sent negated, then plain. -/
def manchester_pairs (M : ℕ → ℕ → Bool) (i t : ℕ) : Bool :=
  let b := M (i / 2) (4 * (i % 2) + t / 2)
  if t % 2 = 0 then !b else b

def manchester_code (M : ℕ → ℕ → Bool) : List UInt8 :=
  (List.range 16).map fun i => byteOf (manchester_pairs M i)

/-- The completed matrix of 49 free cells. -/
def cells_matrix (c : ℕ → Bool) : ℕ → ℕ → Bool :=
  complete 7 7 fun row col => c (7 * row + col)

/-- The packet that carries the cells `c`. -/
def frame (c : ℕ → Bool) : List UInt8 := manchester_code (cells_matrix c)

/-! ### Bytes -/

theorem byteOf_testBit (f : ℕ → Bool) {c : ℕ} (hc : c < 8) :
    (byteOf f).toNat.testBit (7 - c) = f c := by
  have hlt := ofBits_lt f 8
  rw [byteOf, UInt8.toNat_ofNat', Nat.mod_eq_of_lt hlt]
  exact testBit_ofBits f hc

theorem get_buffer_bit_byteOf (f : ℕ → Bool) {c : ℕ} (hc : c < 8) :
    get_buffer_bit (byteOf f) (7 - c) = (f c).toNat := by
  rw [get_buffer_bit_eq, byteOf_testBit f hc]

theorem matrix_bytes_getD (M : ℕ → ℕ → Bool) {i : ℕ} (hi : i < 8) :
    (matrix_bytes M).getD i 0 = byteOf (M i) := by
  rw [matrix_bytes, List.getD_eq_getElem _ _ (by simpa using hi)]
  simp

theorem manchester_code_getD (M : ℕ → ℕ → Bool) {i : ℕ} (hi : i < 16) :
    (manchester_code M).getD i 0 = byteOf (manchester_pairs M i) := by
  rw [manchester_code, List.getD_eq_getElem _ _ (by simpa using hi)]
  simp

/-! ### Pairs -/

/-- Shifting one bit into a byte. -/
theorem ofNat_shift (x : ℕ) (b : Bool) :
    (if b then (UInt8.ofNat x <<< 1 ||| 1) else UInt8.ofNat x <<< 1) =
      UInt8.ofNat (2 * x + b.toNat) := by
  have h : ∀ a : Fin 256, UInt8.ofNat a.1 <<< 1 ||| 1 = UInt8.ofNat (2 * a.1 + 1) ∧
      UInt8.ofNat a.1 <<< 1 = UInt8.ofNat (2 * a.1) := by decide +kernel
  have hmod : UInt8.ofNat x = UInt8.ofNat (x % 256) := by
    apply UInt8.toNat_inj.mp
    simp
  obtain ⟨h1, h0⟩ := h ⟨x % 256, Nat.mod_lt _ (by decide)⟩
  dsimp only at h1 h0
  rw [hmod]
  cases b
  · simp only [Bool.false_eq_true, if_false, h0]
    apply UInt8.toNat_inj.mp
    simp only [UInt8.toNat_ofNat', Bool.toNat_false]
    omega
  · simp only [if_true, h1]
    apply UInt8.toNat_inj.mp
    simp only [UInt8.toNat_ofNat', Bool.toNat_true]
    omega

/-- A well-formed pair delivers its bit. -/
theorem manchester_bit_pairs (M : ℕ → ℕ → Bool) (i : ℕ) {j : ℕ} (hj : j < 4) (x : ℕ) :
    manchester_bit (byteOf (manchester_pairs M i)) j (UInt8.ofNat x) =
      some (UInt8.ofNat (2 * x + (M (i / 2) (4 * (i % 2) + j)).toNat)) := by
  have h7 : get_buffer_bit (byteOf (manchester_pairs M i)) (7 - j * 2) =
      (!M (i / 2) (4 * (i % 2) + j)).toNat := by
    rw [get_buffer_bit_byteOf _ (by omega)]
    simp [manchester_pairs]
  have h6 : get_buffer_bit (byteOf (manchester_pairs M i)) (6 - j * 2) =
      (M (i / 2) (4 * (i % 2) + j)).toNat := by
    rw [show 6 - j * 2 = 7 - (j * 2 + 1) by omega, get_buffer_bit_byteOf _ (by omega)]
    have e : (j * 2 + 1) / 2 = j := by omega
    have e' : (j * 2 + 1) % 2 = 1 := by omega
    simp [manchester_pairs, e, e']
  rw [← ofNat_shift]
  unfold manchester_bit
  rw [h7, h6]
  cases M (i / 2) (4 * (i % 2) + j) <;> simp

theorem manchester_byte_pairs (M : ℕ → ℕ → Bool) (i x : ℕ) :
    manchester_byte (byteOf (manchester_pairs M i)) (UInt8.ofNat x) =
      some (UInt8.ofNat (x * 2 ^ 4 + ofBits (fun k => M (i / 2) (4 * (i % 2) + k)) 4)) := by
  have hrange : List.range 4 = [0, 1, 2, 3] := rfl
  simp only [manchester_byte, hrange, List.foldlM_cons, List.foldlM_nil,
    manchester_bit_pairs M i (show 0 < 4 by decide), manchester_bit_pairs M i (show 1 < 4 by decide),
    manchester_bit_pairs M i (show 2 < 4 by decide), manchester_bit_pairs M i (show 3 < 4 by decide),
    Option.bind_eq_bind, Option.bind_some, Option.pure_def, ofBits, Option.some.injEq]
  congr 1
  ring

/-- Two bytes on the air make one row of the matrix. -/
theorem manchester_row (M : ℕ → ℕ → Bool) (row : ℕ) :
    manchester_byte (byteOf (manchester_pairs M (2 * row))) 0 =
        some (UInt8.ofNat (ofBits (M row) 4)) ∧
      manchester_byte (byteOf (manchester_pairs M (2 * row + 1)))
        (UInt8.ofNat (ofBits (M row) 4)) = some (byteOf (M row)) := by
  constructor
  · have := manchester_byte_pairs M (2 * row) 0
    simpa using this
  · rw [manchester_byte_pairs, byteOf, show (8 : ℕ) = 4 + 4 by rfl, ofBits_add]
    have e : (2 * row + 1) / 2 = row := by omega
    have e' : (2 * row + 1) % 2 = 1 := by omega
    rw [e, e']

/-- The data buffer once `r` rows are decoded. -/
def decoded_rows (M : ℕ → ℕ → Bool) (r : ℕ) : List UInt8 :=
  (List.range 8).map fun i => if i < r then byteOf (M i) else 0

/-- Storing row `r` twice, half and whole, decodes one more row. -/
theorem decoded_rows_succ (M : ℕ → ℕ → Bool) {r : ℕ} (hr : r < 8) (half : UInt8) :
    (decoded_rows M r).getD r 0 = 0 ∧ ((decoded_rows M r).set r half).getD r 0 = half ∧
      ((decoded_rows M r).set r half).set r (byteOf (M r)) = decoded_rows M (r + 1) := by
  refine ⟨by simp [decoded_rows, hr], by simp [decoded_rows, hr], ?_⟩
  apply List.ext_getElem
  · simp [decoded_rows]
  · intro i h1 h2
    simp only [decoded_rows, List.set_set, List.getElem_set, List.getElem_map, List.getElem_range]
    rcases Nat.lt_trichotomy i r with h | rfl | h
    · rw [if_neg (by omega), if_pos h, if_pos (by omega)]
    · rw [if_pos rfl, if_pos (by omega)]
    · rw [if_neg (by omega), if_neg (by omega), if_neg (by omega)]

/-- The loop over the received bytes, two bytes a turn. -/
theorem manchester_rows (M : ℕ → ℕ → Bool) (r : ℕ) (h : r ≤ 8) :
    (List.range (2 * r)).foldlM (fun data_buffer i =>
        (manchester_byte ((manchester_code M).getD i 0) (data_buffer.getD (i / 2) 0)).map
          (data_buffer.set (i / 2))) (List.replicate 8 0) = some (decoded_rows M r) := by
  induction r with
  | zero => rfl
  | succ r ih =>
      obtain ⟨hlo, hhi⟩ := manchester_row M r
      obtain ⟨hzero, hhalf, hwhole⟩ :=
        decoded_rows_succ M (show r < 8 by omega) (UInt8.ofNat (ofBits (M r) 4))
      have e0 : 2 * r / 2 = r := by omega
      have e1 : (2 * r + 1) / 2 = r := by omega
      rw [show 2 * (r + 1) = 2 * r + 1 + 1 by omega, List.range_succ, List.range_succ,
        List.append_assoc, List.foldlM_append, ih (by omega)]
      simp only [List.cons_append, List.nil_append, Option.bind_eq_bind, Option.bind_some,
        List.foldlM_cons, List.foldlM_nil, Option.pure_def, Option.bind_fun_some, e0, e1]
      rw [manchester_code_getD M (by omega), hzero, hlo, Option.map_some, Option.bind_some,
        manchester_code_getD M (by omega), hhalf, hhi, Option.map_some, hwhole]

/-- **Decoding the pairs of a matrix gives its rows.** -/
theorem manchester_manchester_code (M : ℕ → ℕ → Bool) :
    manchester (manchester_code M) = some (matrix_bytes M) := by
  have hrows : decoded_rows M 8 = matrix_bytes M :=
    List.map_congr_left fun i hi => if_pos (List.mem_range.mp hi)
  rw [← hrows]
  exact manchester_rows M 8 le_rfl

/-! ### Parity -/

theorem parity_reverse_eight (f : ℕ → Bool) : parity (fun j => f (7 - j)) 8 = parity f 8 := by
  simp only [parity]
  cases f 0 <;> cases f 1 <;> cases f 2 <;> cases f 3 <;> cases f 4 <;> cases f 5 <;>
    cases f 6 <;> cases f 7 <;> rfl

theorem validity1_matrix (M : ℕ → ℕ → Bool) {i : ℕ} (hi : i < 8) :
    validity1 (matrix_bytes M) i % 2 = (parity (M i) 8).toNat := by
  rw [← parity_reverse_eight, ← countP_mod_two, validity1]
  congr 1
  apply List.countP_congr
  intro j hj
  have hj8 := List.mem_range.mp hj
  rw [matrix_bytes_getD M hi, decide_eq_true_eq, and_one_shiftLeft_ne_zero]
  have := byteOf_testBit (M i) (show 7 - j < 8 by omega)
  rw [show 7 - (7 - j) = j by omega] at this
  rw [this]

theorem validity2_matrix (M : ℕ → ℕ → Bool) {c : ℕ} (hc : c < 8) :
    validity2 (matrix_bytes M) (7 - c) % 2 = (parity (fun i => M i c) 8).toNat := by
  rw [← countP_mod_two, validity2]
  congr 1
  apply List.countP_congr
  intro j hj
  rw [matrix_bytes_getD M (List.mem_range.mp hj), decide_eq_true_eq, and_one_shiftLeft_ne_zero,
    byteOf_testBit _ hc]

/-- The parity check passes exactly the matrices with even rows and columns. -/
theorem validity_matrix_iff (M : ℕ → ℕ → Bool) :
    validity (matrix_bytes M) = true ↔
      ∀ i, i < 8 → parity (M i) 8 = false ∧ parity (fun r => M r i) 8 = false := by
  have hor : ∀ a b : Bool, (a.toNat ||| b.toNat = 0) ↔ a = false ∧ b = false := by decide
  unfold validity
  rw [List.all_eq_true]
  constructor
  · intro h i hi
    have hrow := h i (List.mem_range.mpr hi)
    have hcol := h (7 - i) (List.mem_range.mpr (by omega))
    rw [decide_eq_true_eq, validity1_matrix M hi, show i = 7 - (7 - i) by omega,
      validity2_matrix M (by omega), hor] at hrow
    rw [decide_eq_true_eq, validity1_matrix M (by omega), validity2_matrix M hi, hor] at hcol
    refine ⟨?_, hcol.2⟩
    have := hrow.1
    rwa [show 7 - (7 - i) = i by omega] at this
  · intro h i hi
    have hi8 := List.mem_range.mp hi
    rw [decide_eq_true_eq, validity1_matrix M hi8]
    have hcol := validity2_matrix M (show 7 - i < 8 by omega)
    rw [show 7 - (7 - i) = i by omega] at hcol
    rw [hcol, hor]
    exact ⟨(h i hi8).1, (h (7 - i) (by omega)).2⟩

/-- **A completed frame is accepted with its own matrix.** -/
theorem accept_frame (c : ℕ → Bool) :
    accept (frame c) 16 11 = some (matrix_bytes (cells_matrix c)) := by
  have hv : validity (matrix_bytes (cells_matrix c)) = true :=
    (validity_matrix_iff _).mpr fun i hi =>
      ⟨complete_row (by omega), complete_col (by omega)⟩
  rw [accept, if_pos ⟨rfl, rfl⟩, frame, manchester_manchester_code, Option.filter_some, if_pos hv]

/-! ### Fields -/

theorem cell_bit_matrix (M : ℕ → ℕ → Bool) {p : ℕ} (hp : p < 56) :
    cell_bit (matrix_bytes M) p = (M (p / 7) (p % 7)).toNat := by
  rw [cell_bit, matrix_bytes_getD M (by omega), get_buffer_bit_byteOf _ (by omega)]

/-- Shifting and or-ing one bit is one step of reading a binary number. -/
theorem shiftLeft_or_bit (x : ℕ) (b : Bool) : (x <<< 1) ||| b.toNat = 2 * x + b.toNat := by
  have hb : b.toNat < 2 ^ 1 := by cases b <;> decide
  rw [← Nat.shiftLeft_add_eq_or_of_lt hb, Nat.shiftLeft_eq]
  omega

theorem get_field_matrix (M : ℕ → ℕ → Bool) (k : ℕ) : ∀ n, n + k ≤ 56 →
    get_field (matrix_bytes M) n k = ofBits (fun i => M ((i + k) / 7) ((i + k) % 7)) n
  | 0, _ => rfl
  | n + 1, h => by
      have ih := get_field_matrix M k n (by omega)
      unfold get_field at ih ⊢
      rw [List.range_succ, List.foldl_append, List.foldl_cons, List.foldl_nil, ih,
        cell_bit_matrix M (by omega), shiftLeft_or_bit, ofBits]

/-- A field of free cells. -/
theorem get_field_frame (c : ℕ → Bool) {n k : ℕ} (h : n + k ≤ 49) :
    get_field (matrix_bytes (cells_matrix c)) n k = ofBits (fun i => c (i + k)) n := by
  rw [get_field_matrix _ _ _ (by omega)]
  apply ofBits_congr
  intro i hi
  rw [cells_matrix, complete_inner (by omega) (by omega)]
  congr 1
  omega

/-- The parity of column `col` over the seven rows of free cells. -/
def column_parity (c : ℕ → Bool) (col : ℕ) : Bool := parity (fun row => c (7 * row + col)) 7

/-- Reading on from the free cells takes in the column parities. -/
theorem get_field_frame_parity (c : ℕ → Bool) {n k : ℕ} (h : n + k = 49) :
    get_field (matrix_bytes (cells_matrix c)) (n + 7) k =
      ofBits (fun i => c (i + k)) n * 2 ^ 7 + ofBits (column_parity c) 7 := by
  rw [get_field_matrix _ _ _ (by omega), ofBits_add]
  congr 1
  · congr 1
    rw [← get_field_frame c (by omega), get_field_matrix _ _ _ (by omega)]
  · apply ofBits_congr
    intro i hi
    rw [show n + i + k = i + 7 * 7 by omega, Nat.add_mul_div_left _ _ (by omega),
      Nat.add_mul_mod_self_left, Nat.div_eq_of_lt hi, Nat.mod_eq_of_lt hi, Nat.zero_add,
      cells_matrix, complete_lower hi]
    rfl

end MeterTester
