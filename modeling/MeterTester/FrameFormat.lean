import MeterTester.Frame

/-! # The version-`0` reading frame

Cells `0` and `1` carry the version, cells `2` to `28` the serial, cells `29` to `48` a six-digit
reading.  The decoder stores the serial as sent; for the reading it takes 27 cells instead of 20,
so that the stored value is the reading times `128` plus the seven column parities
(`reading_stored`). -/

namespace MeterTester

open BitMatrix

/-- The cells of a version-`0` reading frame. -/
def reading_cells (id r : ℕ) (p : ℕ) : Bool :=
  if p < 2 then false else if p < 29 then id.testBit (28 - p) else r.testBit (48 - p)

theorem frame_version_frame (c : ℕ → Bool) :
    frame_version (matrix_bytes (cells_matrix c)) = 2 * (c 0).toNat + (c 1).toNat := by
  have h0 := cell_bit_matrix (cells_matrix c) (show 0 < 56 by decide)
  have h1 := cell_bit_matrix (cells_matrix c) (show 1 < 56 by decide)
  simp only [cell_bit, cells_matrix, Nat.zero_div, Nat.zero_mod, Nat.sub_zero] at h0 h1
  rw [complete_inner (by omega) (by omega)] at h0 h1
  unfold frame_version
  rw [show (7 : ℕ) - 1 % 7 = 6 by rfl, show (1 : ℕ) / 7 = 0 by rfl] at h1
  simp only [cells_matrix]
  rw [h0, h1]
  simp only [Nat.mul_zero, Nat.zero_add]
  ring_nf

/-- The serial field of a version-`0` reading frame. -/
theorem reading_cells_id {id : ℕ} (hid : id < 2 ^ 27) (r : ℕ) :
    get_field (matrix_bytes (cells_matrix (reading_cells id r))) 27 2 = id := by
  rw [get_field_frame _ (by omega)]
  calc ofBits (fun i => reading_cells id r (i + 2)) 27
      = ofBits (fun i => id.testBit (27 - 1 - i)) 27 := ofBits_congr fun i hi => by
        rw [reading_cells, if_neg (by omega), if_pos (by omega)]
        congr 1
        omega
    _ = id := ofBits_testBit_of_lt hid

/-- The twenty cells of the reading. -/
theorem reading_cells_reading (id : ℕ) {r : ℕ} (hr : r < 2 ^ 20) :
    ofBits (fun i => reading_cells id r (i + 29)) 20 = r := by
  calc ofBits (fun i => reading_cells id r (i + 29)) 20
      = ofBits (fun i => r.testBit (20 - 1 - i)) 20 := ofBits_congr fun i hi => by
        rw [reading_cells, if_neg (by omega), if_neg (by omega)]
        congr 1
        omega
    _ = r := ofBits_testBit_of_lt hr

/-- No six-digit reading begins with the alarm marker. -/
theorem reading_cells_unmarked (id : ℕ) {r : ℕ} (hr : r ≤ 999999) :
    is_marked (matrix_bytes (cells_matrix (reading_cells id r))) = false := by
  have hsplit := ofBits_add (fun i => reading_cells id r (i + 29)) 5 15
  rw [show 5 + 15 = 20 by rfl, reading_cells_reading id (by omega)] at hsplit
  rw [is_marked, get_field_frame _ (by omega), decide_eq_false_iff_not]
  intro h
  rw [h] at hsplit
  omega

/-- What the decoder stores for a version-`0` reading frame. -/
theorem reading_stored {id r : ℕ} (hid : id < 2 ^ 27) (hr : r ≤ 999999) (rssi : ℤ) (s : Radio) :
    let s' := (rf4068_rx_callback rssi (frame (reading_cells id r)) 16 s 11).1
    s'.msid = id ∧ s'.msv = r * 2 ^ 7 + ofBits (column_parity (reading_cells id r)) 7 := by
  have hversion : frame_version (matrix_bytes (cells_matrix (reading_cells id r))) = 0 := by
    rw [frame_version_frame]
    rfl
  have hmsv := get_field_frame_parity (reading_cells id r) (show 20 + 29 = 49 by rfl)
  rw [reading_cells_reading id (by omega)] at hmsv
  simp only [rf4068_rx_callback, accept_frame, store_frame, hversion, if_true,
    reading_cells_unmarked id hr, Bool.false_eq_true, if_false, store_reading]
  exact ⟨reading_cells_id hid r, hmsv⟩

/-- **Decoding a version-`0` reading**: serial and reading come back as sent exactly when the
reading is `0` and every column of the serial's cells is even. -/
theorem reading_decoded_iff {id r : ℕ} (hid : id < 2 ^ 27) (hr : r ≤ 999999) (rssi : ℤ)
    (s : Radio) :
    let s' := (rf4068_rx_callback rssi (frame (reading_cells id r)) 16 s 11).1
    (s'.msid = id ∧ s'.msv = r) ↔
      r = 0 ∧ ∀ col, col < 7 → column_parity (reading_cells id 0) col = false := by
  intro s'
  obtain ⟨hmsid, hmsv⟩ := reading_stored hid hr rssi s
  rw [show s'.msid = id from hmsid, show s'.msv = _ from hmsv]
  have hsum : r * 2 ^ 7 + ofBits (column_parity (reading_cells id r)) 7 = r ↔
      r = 0 ∧ ofBits (column_parity (reading_cells id r)) 7 = 0 := by omega
  rw [hsum, ofBits_eq_zero_iff]
  constructor
  · rintro ⟨-, rfl, h⟩
    exact ⟨rfl, h⟩
  · rintro ⟨rfl, h⟩
    exact ⟨rfl, rfl, h⟩

theorem reading_decoded_iff_zero :
    ((rf4068_rx_callback (-60) (frame (reading_cells 129 0)) 16 Radio.start 11).1.msid = 129 ∧
        (rf4068_rx_callback (-60) (frame (reading_cells 129 0)) 16 Radio.start 11).1.msv = 0) ↔
      (0 = 0 ∧ ∀ col, col < 7 → column_parity (reading_cells 129 0) col = false) :=
  reading_decoded_iff (by decide) (by decide) (-60) Radio.start

/-- Serial `5`, reading `1`: the decoder stores `195` instead. -/
theorem reading_one_misread :
    ¬ ((rf4068_rx_callback (-60) (frame (reading_cells 5 1)) 16 Radio.start 11).1.msid = 5 ∧
      (rf4068_rx_callback (-60) (frame (reading_cells 5 1)) 16 Radio.start 11).1.msv = 1) := by
  decide +kernel

end MeterTester
