import MeterTester.FrameFormat

/-! # Packets and alarms come back as sent

The sender's side of two formats.  A `Packet` is a frame of version `1` to `3`: two flags, the
serial and the reading in one frame.  An `Alarm` is a version-`0` frame with the marker `11111` and
ten flags.  The cells behind the last field are not read and may hold anything.

The decoder stores the fields of a packet and sets `MS` to `12` (`Packet.decoded`).  Of an alarm it
stores serial and flags; the reading kept in `msv` survives, and `MS` becomes `12`, exactly when the
serial is the one already in `msid` (`Alarm.decoded`). -/

namespace MeterTester

open BitMatrix

/-! ### The sender's fields -/

/-- The fields of a frame of version `1` to `3`. -/
structure Packet where
  version : ℕ
  flag : Fin 2 → Bool
  id : ℕ
  reading : ℕ
  /-- Cells behind the reading. -/
  rest : ℕ → Bool
  one_le_version : 1 ≤ version
  version_le : version ≤ 3
  id_lt : id < 2 ^ 20
  reading_lt : reading < 2 ^ 20

/-- The fields of a version-`0` alarm frame. -/
structure Alarm where
  id : ℕ
  flag : Fin 10 → Bool
  /-- Cells behind the flags. -/
  rest : ℕ → Bool
  id_lt : id < 2 ^ 27

namespace Packet

def cells (m : Packet) (p : ℕ) : Bool :=
  if p < 2 then m.version.testBit (1 - p) else
    if p = 2 then m.flag 0 else
      if p = 3 then m.flag 1 else
        if p < 24 then m.id.testBit (23 - p) else
          if p < 44 then m.reading.testBit (43 - p) else m.rest p

/-- The matrix that the decoder makes of the packet. -/
def matrix (m : Packet) : List UInt8 := matrix_bytes (cells_matrix m.cells)

end Packet

namespace Alarm

def cells (m : Alarm) (p : ℕ) : Bool :=
  if p < 2 then false else
    if p < 29 then m.id.testBit (28 - p) else
      if p < 34 then true else
        if h : p - 34 < 10 then m.flag ⟨p - 34, h⟩ else m.rest p

/-- The matrix that the decoder makes of the alarm frame. -/
def matrix (m : Alarm) : List UInt8 := matrix_bytes (cells_matrix m.cells)

end Alarm

/-- A field that carries the binary digits of `x`. -/
theorem get_field_digits {c : ℕ → Bool} {n k x : ℕ} (h : n + k ≤ 49) (hx : x < 2 ^ n)
    (hc : ∀ i, i < n → c (i + k) = x.testBit (n - 1 - i)) :
    get_field (matrix_bytes (cells_matrix c)) n k = x := by
  rw [get_field_frame c h, ofBits_congr hc]
  exact ofBits_testBit_of_lt hx

theorem cell_bit_frame (c : ℕ → Bool) {p : ℕ} (hp : p < 49) :
    cell_bit (matrix_bytes (cells_matrix c)) p = (c p).toNat := by
  rw [cell_bit_matrix _ (by omega), cells_matrix, complete_inner (by omega) (by omega)]
  congr 2
  omega

/-- A flag cell as the byte that is stored for it. -/
def flag_byte (b : Bool) : UInt8 := UInt8.ofNat b.toNat

/-! ### Packets of version `1` to `3` -/

namespace Packet
variable (m : Packet)

theorem matrix_version : frame_version m.matrix = m.version := by
  have hv := m.version_le
  rw [matrix, frame_version_frame]
  simp only [cells, Nat.zero_lt_two, if_true, Nat.one_lt_two, Nat.sub_zero, Nat.sub_self]
  have hbits : ∀ v : Fin 4, 2 * (v.1.testBit 1).toNat + (v.1.testBit 0).toNat = v.1 := by decide
  exact hbits ⟨m.version, by omega⟩

theorem matrix_id : get_field m.matrix 20 4 = m.id := by
  apply get_field_digits (by omega) m.id_lt
  intro i hi
  rw [cells, if_neg (by omega), if_neg (by omega), if_neg (by omega), if_pos (by omega)]
  congr 1
  omega

theorem matrix_reading : get_field m.matrix 20 24 = m.reading := by
  apply get_field_digits (by omega) m.reading_lt
  intro i hi
  rw [cells, if_neg (by omega), if_neg (by omega), if_neg (by omega), if_neg (by omega),
    if_pos (by omega)]
  congr 1
  omega

theorem matrix_flags : get_buffer_bit (m.matrix.getD 0 0) 5 = (m.flag 0).toNat ∧
    get_buffer_bit (m.matrix.getD 0 0) 4 = (m.flag 1).toNat :=
  ⟨cell_bit_frame m.cells (show 2 < 49 by decide), cell_bit_frame m.cells (show 3 < 49 by decide)⟩

/-- What the decoder stores. -/
def stored (rssi : ℤ) : Radio where
  msid := m.id
  msv := m.reading
  Controllable_Ms_flag :=
    Vector.ofFn fun i =>
      if i = 0 then flag_byte (m.flag 0) else if i = 1 then flag_byte (m.flag 1) else 0
  ax_rssi := rssi
  v := UInt8.ofNat m.version

theorem first_flag_lt : 0 < 10 := by decide
theorem second_flag_lt : 1 < 10 := by decide

/-- The two flags are stored in front of eight zeros. -/
theorem store_flags (x y : UInt8) :
    ((Vector.replicate 10 (0 : UInt8)).set 0 x first_flag_lt).set 1 y second_flag_lt =
      Vector.ofFn fun i => if i = 0 then x else if i = 1 then y else 0 := by
  apply Vector.ext
  intro i hi
  rw [Vector.getElem_set, Vector.getElem_set, Vector.getElem_ofFn, Vector.getElem_replicate]
  by_cases h0 : i = 0
  · subst h0
    rfl
  · by_cases h1 : i = 1
    · subst h1
      rfl
    · simp [Fin.ext_iff, h0, h1, Ne.symm h0, Ne.symm h1]

/-- **A packet comes back as sent**, and is handed over. -/
theorem decoded (rssi : ℤ) (s : Radio) :
    rf4068_rx_callback rssi (frame m.cells) 16 s 11 = (m.stored rssi, 12) := by
  have hversion : frame_version m.matrix ≠ 0 := by
    have := m.one_le_version
    rw [matrix_version]
    omega
  obtain ⟨h0, h1⟩ := m.matrix_flags
  simp only [rf4068_rx_callback, accept_frame]
  change store_frame m.matrix _ 11 = _
  rw [store_frame, if_neg hversion, store_packet, matrix_version, matrix_id, matrix_reading, h0, h1,
    store_flags]
  simp only [stored, RSSI_JIA, RSSI_JIAN, Int.add_zero, Int.sub_zero, flag_byte]

end Packet

/-! ### Alarm frames -/

namespace Alarm
variable (m : Alarm)

theorem matrix_version : frame_version m.matrix = 0 := by
  rw [matrix, frame_version_frame]
  rfl

theorem matrix_marked : is_marked m.matrix = true := by
  have hmark : get_field m.matrix 5 29 = 0x1f := by
    apply get_field_digits (by omega) (by decide)
    intro i hi
    rw [cells, if_neg (by omega), if_neg (by omega), if_pos (by omega)]
    revert i
    decide
  rw [is_marked, hmark]
  rfl

theorem matrix_id : get_field m.matrix 27 2 = m.id := by
  apply get_field_digits (by omega) m.id_lt
  intro i hi
  rw [cells, if_neg (by omega), if_pos (by omega)]
  congr 1
  omega

theorem matrix_flag (i : Fin 10) : cell_bit m.matrix (i.1 + 34) = (m.flag i).toNat := by
  have hi := i.2
  rw [matrix, cell_bit_frame _ (by omega), cells, if_neg (by omega), if_neg (by omega),
    if_neg (by omega), dif_pos (by omega)]
  congr 2

/-- What the decoder stores: the reading survives under an unchanged serial. -/
def stored (rssi : ℤ) (s : Radio) : Radio where
  msid := m.id
  msv := if s.msid = m.id then s.msv else 0
  Controllable_Ms_flag := Vector.ofFn fun i => flag_byte (m.flag i)
  ax_rssi := rssi
  v := 0

/-- **An alarm frame comes back as sent**, and is handed over if its serial is already known. -/
theorem decoded (rssi : ℤ) (s : Radio) :
    rf4068_rx_callback rssi (frame m.cells) 16 s 11 =
      (m.stored rssi s, if s.msid = m.id then 12 else 11) := by
  simp only [rf4068_rx_callback, accept_frame]
  change store_frame m.matrix _ 11 = _
  rw [store_frame, if_pos m.matrix_version, if_pos m.matrix_marked, store_alarm, matrix_id,
    matrix_version]
  by_cases hid : s.msid = m.id
  · simp [hid, stored, matrix_flag, flag_byte, RSSI_JIA, RSSI_JIAN]
  · simp [hid, stored, matrix_flag, flag_byte, RSSI_JIA, RSSI_JIAN]

end Alarm

/-- **Decoding undoes encoding** for packets and alarm frames, whatever the statics held before. -/
theorem frames_decoded (rssi : ℤ) (s : Radio) :
    (∀ m : Packet, rf4068_rx_callback rssi (frame m.cells) 16 s 11 = (m.stored rssi, 12)) ∧
      ∀ m : Alarm, rf4068_rx_callback rssi (frame m.cells) 16 s 11 =
        (m.stored rssi s, if s.msid = m.id then 12 else 11) :=
  ⟨fun m => m.decoded rssi s, fun m => m.decoded rssi s⟩

example : (rf4068_rx_callback (-70)
    (frame (Packet.mk 2 (fun _ => true) 654321 123456 (fun _ => true) (by decide) (by decide)
      (by decide) (by decide)).cells) 16 Radio.start 11).1.msv = 123456 := by decide +kernel

end MeterTester
