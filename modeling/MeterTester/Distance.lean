import MeterTester.FrameFormat
import MeterTester.ProductCode

/-! # Bit errors on the air

The decoder accepts a frame of 16 bytes exactly when it is the Manchester code of an 8 × 8 matrix
with even rows and columns (`accept_isSome_iff`).  Two such matrices differ in at least four cells,
and every cell is sent as two bits, so that accepted frames differ in at least eight of their 128
bits: up to seven flipped bits are always noticed (`accepted_distance`). -/

namespace MeterTester

open BitMatrix ProductCode

/-- The 128 bits on the air, byte by byte, highest bit first. -/
def channel_bits (rx_buffer : List UInt8) : Fin 16 × Fin 8 → Bool :=
  fun p => (rx_buffer.getD p.1 0).toNat.testBit (7 - p.2)

/-- The frame with the bits of `e` flipped. -/
def flip_bits (rx_buffer e : List UInt8) : List UInt8 := List.zipWith (· ^^^ ·) rx_buffer e

/-- The number of flipped bits. -/
def weight (e : List UInt8) : ℕ := hammingDist (channel_bits e) fun _ => false

/-! ### What is accepted -/

/-- Every turn of a loop that ends has ended. -/
theorem foldlM_some {α σ : Type} {f : σ → α → Option σ} {l : List α} {s r : σ}
    (h : l.foldlM f s = some r) : ∀ a ∈ l, ∃ t u, f t a = some u := by
  induction l generalizing s with
  | nil => exact fun a ha => absurd ha List.not_mem_nil
  | cons b l ih =>
      intro a ha
      rw [List.foldlM_cons, Option.bind_eq_bind, Option.bind_eq_some_iff] at h
      obtain ⟨u, hu, hrest⟩ := h
      obtain rfl | hmem := List.mem_cons.mp ha
      · exact ⟨s, u, hu⟩
      · exact ih hrest a hmem

/-- A decoded pair has different bits. -/
theorem manchester_bit_some {rx data d : UInt8} {j : ℕ} (h : manchester_bit rx j data = some d) :
    rx.toNat.testBit (7 - j * 2) = !rx.toNat.testBit (6 - j * 2) := by
  unfold manchester_bit at h
  simp only [get_buffer_bit_eq] at h
  cases h7 : rx.toNat.testBit (7 - j * 2) <;> cases h6 : rx.toNat.testBit (6 - j * 2) <;>
    simp [h7, h6] at h ⊢

/-- Every pair has different bits. -/
def UnequalPairs (rx_buffer : List UInt8) : Prop :=
  ∀ i < 16, ∀ j < 4, (rx_buffer.getD i 0).toNat.testBit (7 - j * 2) =
    !(rx_buffer.getD i 0).toNat.testBit (6 - j * 2)

/-- A frame that passes the Manchester check has unequal pairs. -/
theorem manchester_unequal {rx_buffer ds : List UInt8} (h : manchester rx_buffer = some ds) :
    UnequalPairs rx_buffer := by
  intro i hi j hj
  obtain ⟨buffer, _, hbyte⟩ := foldlM_some h i (List.mem_range.mpr hi)
  rw [Option.map_eq_some_iff] at hbyte
  obtain ⟨_, hbyte, -⟩ := hbyte
  obtain ⟨data, _, hbit⟩ := foldlM_some hbyte j (List.mem_range.mpr hj)
  exact manchester_bit_some hbit

/-- The matrix that a received frame stands for: the second bit of every pair. -/
def received_matrix (rx_buffer : List UInt8) (row col : ℕ) : Bool :=
  (rx_buffer.getD (2 * row + col / 4) 0).toNat.testBit (6 - col % 4 * 2)

theorem received_pairs {rx_buffer : List UInt8} (h : UnequalPairs rx_buffer) {i t : ℕ} (hi : i < 16)
    (ht : t < 8) :
    manchester_pairs (received_matrix rx_buffer) i t =
      (rx_buffer.getD i 0).toNat.testBit (7 - t) := by
  have hbyte : 2 * (i / 2) + (4 * (i % 2) + t / 2) / 4 = i := by omega
  have hcol : (4 * (i % 2) + t / 2) % 4 = t / 2 := by omega
  have hpair := h i hi (t / 2) (by omega)
  simp only [manchester_pairs, received_matrix, hbyte, hcol]
  by_cases hpar : t % 2 = 0
  · rw [if_pos hpar, ← hpair]
    congr 1
    omega
  · rw [if_neg hpar]
    congr 1
    omega

/-- A byte is given by its eight bits. -/
theorem byte_ext {a b : UInt8} (h : ∀ t, t < 8 → a.toNat.testBit (7 - t) = b.toNat.testBit (7 - t)) :
    a = b := by
  apply UInt8.toNat_inj.mp
  apply Nat.eq_of_testBit_eq
  intro k
  rcases Nat.lt_or_ge k 8 with hk | hk
  · have := h (7 - k) (by omega)
    rwa [show 7 - (7 - k) = k by omega] at this
  · have hpow : 2 ^ 8 ≤ 2 ^ k := Nat.pow_le_pow_right (by decide) hk
    rw [Nat.testBit_lt_two_pow (lt_of_lt_of_le a.toNat_lt hpow),
      Nat.testBit_lt_two_pow (lt_of_lt_of_le b.toNat_lt hpow)]

/-- A frame is given by its bits on the air. -/
theorem frame_ext {x y : List UInt8} (hx : x.length = 16) (hy : y.length = 16)
    (h : channel_bits x = channel_bits y) : x = y := by
  apply List.ext_getElem (by omega)
  intro i hi hi'
  rw [← List.getD_eq_getElem x 0 hi, ← List.getD_eq_getElem y 0 hi']
  apply byte_ext
  intro t ht
  exact congrFun h (⟨i, by omega⟩, ⟨t, ht⟩)

theorem manchester_code_length (M : ℕ → ℕ → Bool) : (manchester_code M).length = 16 := by
  simp [manchester_code]

theorem channel_bits_code (M : ℕ → ℕ → Bool) (p : Fin 16 × Fin 8) :
    channel_bits (manchester_code M) p = manchester_pairs M p.1 p.2 := by
  rw [channel_bits, manchester_code_getD M p.1.2, byteOf_testBit _ p.2.2]

/-- A frame that passes the Manchester check is the code of its matrix. -/
theorem eq_manchester_code {rx_buffer ds : List UInt8} (hlen : rx_buffer.length = 16)
    (h : manchester rx_buffer = some ds) :
    rx_buffer = manchester_code (received_matrix rx_buffer) := by
  apply frame_ext hlen (manchester_code_length _)
  funext p
  rw [channel_bits_code, received_pairs (manchester_unequal h) p.1.2 p.2.2]
  rfl

theorem validity_iff_evenMatrix (M : ℕ → ℕ → Bool) :
    validity (matrix_bytes M) = true ↔ EvenMatrix 8 8 M := by
  rw [validity_matrix_iff, EvenMatrix, ← forall₂_and]

theorem accept_manchester_code (M : ℕ → ℕ → Bool) :
    (accept (manchester_code M) 16 11).isSome ↔ EvenMatrix 8 8 M := by
  rw [accept, if_pos ⟨rfl, rfl⟩, manchester_manchester_code, ← validity_iff_evenMatrix]
  cases h : validity (matrix_bytes M) <;> simp [h]

/-- **The accepted frames** are the Manchester codes of the even matrices. -/
theorem accept_isSome_iff {rx_buffer : List UInt8} (hlen : rx_buffer.length = 16) :
    (accept rx_buffer 16 11).isSome ↔ ∃ M, EvenMatrix 8 8 M ∧ rx_buffer = manchester_code M := by
  constructor
  · intro h
    cases hm : manchester rx_buffer with
    | none => simp [accept, hm] at h
    | some ds =>
        have hcode := eq_manchester_code hlen hm
        rw [hcode, accept_manchester_code] at h
        exact ⟨_, h, hcode⟩
  · rintro ⟨M, hM, rfl⟩
    exact (accept_manchester_code M).mpr hM

/-! ### Distances -/

/-- Where cell `(row, col)` is sent: the first or second bit of its pair. -/
def place : Fin 2 × (Fin 8 × Fin 8) → Fin 16 × Fin 8 := fun q =>
  (⟨2 * q.2.1.1 + q.2.2.1 / 4, by omega⟩, ⟨q.2.2.1 % 4 * 2 + q.1.1, by omega⟩)

theorem place_injective : Function.Injective place := by
  rintro ⟨b, r, c⟩ ⟨b', r', c'⟩ h
  simp only [place, Prod.mk.injEq, Fin.mk.injEq] at h
  obtain ⟨hbyte, hbit⟩ := h
  have hb : b = b' := Fin.ext (by omega)
  have hr : r = r' := Fin.ext (by omega)
  have hc : c = c' := Fin.ext (by omega)
  rw [hb, hr, hc]

/-- Both bits of a pair tell different cells apart. -/
theorem manchester_code_distance (M N : ℕ → ℕ → Bool) :
    2 * hammingDist (entries 8 8 M) (entries 8 8 N) ≤
      hammingDist (channel_bits (manchester_code M)) (channel_bits (manchester_code N)) := by
  have h := card_mul_hammingDist_le (x := entries 8 8 M) (y := entries 8 8 N)
    (X := channel_bits (manchester_code M)) (Y := channel_bits (manchester_code N))
    place_injective (fun b q hq => ?_)
  · simpa using h
  · have hb := b.2
    have hc := q.2.2
    have hrow : (2 * q.1.1 + q.2.1 / 4) / 2 = q.1.1 := by omega
    have hcol : 4 * ((2 * q.1.1 + q.2.1 / 4) % 2) + (q.2.1 % 4 * 2 + b.1) / 2 = q.2.1 := by omega
    rw [channel_bits_code, channel_bits_code]
    simp only [manchester_pairs, place, hrow, hcol]
    intro heq
    apply hq
    simp only [entries]
    split_ifs at heq
    · exact Bool.not_inj heq
    · exact heq

/-- Codes of equal entries are equal. -/
theorem manchester_code_congr {M N : ℕ → ℕ → Bool} (h : entries 8 8 M = entries 8 8 N) :
    manchester_code M = manchester_code N := by
  apply frame_ext (manchester_code_length M) (manchester_code_length N)
  funext p
  have hp := p.2.2
  have hp1 := p.1.2
  have hcell := congrFun h (⟨p.1.1 / 2, by omega⟩, ⟨4 * (p.1.1 % 2) + p.2.1 / 2, by omega⟩)
  simp only [entries] at hcell
  rw [channel_bits_code, channel_bits_code]
  simp only [manchester_pairs, hcell]

/-- Different accepted frames differ in eight bits. -/
theorem eight_le_distance {x y : List UInt8} (hx : x.length = 16) (hy : y.length = 16)
    (hax : (accept x 16 11).isSome) (hay : (accept y 16 11).isSome) (hne : x ≠ y) :
    8 ≤ hammingDist (channel_bits x) (channel_bits y) := by
  obtain ⟨M, hM, rfl⟩ := (accept_isSome_iff hx).mp hax
  obtain ⟨N, hN, rfl⟩ := (accept_isSome_iff hy).mp hay
  have hcells : entries 8 8 M ≠ entries 8 8 N := fun h => hne (manchester_code_congr h)
  have hfour := four_le_hammingDist hM hN hcells
  have hpairs := manchester_code_distance M N
  omega

theorem flip_bits_length {x e : List UInt8} (hx : x.length = 16) (he : e.length = 16) :
    (flip_bits x e).length = 16 := by
  rw [flip_bits, List.length_zipWith, hx, he, Nat.min_self]

theorem channel_bits_flip {x e : List UInt8} (hx : x.length = 16) (he : e.length = 16)
    (p : Fin 16 × Fin 8) :
    channel_bits (flip_bits x e) p = (channel_bits x p ^^ channel_bits e p) := by
  have hp := p.1.2
  simp only [channel_bits, flip_bits]
  rw [List.getD_eq_getElem _ _ (by rw [List.length_zipWith]; omega),
    List.getD_eq_getElem _ _ (by omega), List.getD_eq_getElem _ _ (by omega), List.getElem_zipWith,
    UInt8.toNat_xor, Nat.testBit_xor]

/-- Flipping moves a frame by the weight of the error. -/
theorem distance_flip {x e : List UInt8} (hx : x.length = 16) (he : e.length = 16) :
    hammingDist (channel_bits x) (channel_bits (flip_bits x e)) = weight e := by
  rw [weight, hammingDist, hammingDist]
  congr 1
  apply Finset.filter_congr
  intro p _
  rw [channel_bits_flip hx he]
  cases channel_bits x p <;> cases channel_bits e p <;> simp

/-- **Error detection**: two different accepted frames differ in at least eight bits, and an
accepted frame with one to seven bits flipped is not accepted. -/
theorem accepted_distance {x : List UInt8} (hx : x.length = 16) (hax : (accept x 16 11).isSome) :
    (∀ y : List UInt8, y.length = 16 → (accept y 16 11).isSome → x ≠ y →
        8 ≤ hammingDist (channel_bits x) (channel_bits y)) ∧
      ∀ e : List UInt8, e.length = 16 → 1 ≤ weight e → weight e ≤ 7 →
        accept (flip_bits x e) 16 11 = none := by
  refine ⟨fun y hy hay hne => eight_le_distance hx hy hax hay hne, fun e he hpos hle => ?_⟩
  by_contra h
  have hay : (accept (flip_bits x e) 16 11).isSome := Option.isSome_iff_ne_none.mpr h
  have hdist := distance_flip hx he
  have hne : x ≠ flip_bits x e := by
    intro heq
    rw [← heq, hammingDist_self] at hdist
    omega
  have := eight_le_distance hx (flip_bits_length hx he) hax hay hne
  omega

theorem accepted_distance_blank :
    (8 ≤ hammingDist (channel_bits (frame fun _ => false)) (channel_bits (frame fun p => p = 0))) ∧
      accept (flip_bits (frame fun _ => false) (0x80 :: List.replicate 15 0)) 16 11 = none := by
  have hlen : ∀ c, (frame c).length = 16 := fun c => manchester_code_length _
  have hacc : ∀ c, (accept (frame c) 16 11).isSome := fun c => by rw [accept_frame]; rfl
  have h := accepted_distance (hlen fun _ => false) (hacc fun _ => false)
  exact ⟨h.1 _ (hlen _) (hacc _) (by decide +kernel),
    h.2 _ rfl (by decide +kernel) (by decide +kernel)⟩

end MeterTester
