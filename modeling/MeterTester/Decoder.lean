import MeterTester.BitMatrix

/-! # The radio decoder: `Radio_Decoder.c`

`rf4068_rx_callback` receives the bytes of a packet.  A packet of 16 bytes that arrives while `MS`
is `11` is Manchester-decoded into an 8 × 8 bit matrix, one byte a row; a pair of equal bits or a
row or column of odd parity ends the call.  The fields of an accepted matrix are stored in the
statics below.

The C function reads each field by its own loop over `(i + k) / 7` and `7 - (i + k) % 7`; all of
them are `get_field` with the field's width and first cell. -/

namespace MeterTester

/-- The statics of the decoder. -/
structure Radio where
  msid : ℕ
  msv : ℕ
  Controllable_Ms_flag : Vector UInt8 10
  ax_rssi : ℤ
  v : UInt8
deriving DecidableEq

namespace Radio

def start : Radio where
  msid := 0
  msv := 0
  Controllable_Ms_flag := Vector.replicate 10 0
  ax_rssi := 0
  v := 0

end Radio

def RSSI_JIA : ℤ := 0
def RSSI_JIAN : ℤ := 0

def get_buffer_bit (buff : UInt8) (bit : ℕ) : ℕ := if buff.toNat &&& (1 <<< bit) ≠ 0 then 1 else 0

/-! ### Manchester pairs and parity -/

/-- Pair `j` of a received byte is shifted into the data byte: `01` is a one, `10` a zero, and
equal bits are an error. -/
def manchester_bit (rx : UInt8) (j : ℕ) (data : UInt8) : Option UInt8 :=
  let data := data <<< 1
  if get_buffer_bit rx (7 - j * 2) = 0 ∧ get_buffer_bit rx (6 - j * 2) = 1 then some (data ||| 0x01)
  else if get_buffer_bit rx (7 - j * 2) = get_buffer_bit rx (6 - j * 2) then none
  else some data

def manchester_byte (rx data : UInt8) : Option UInt8 :=
  (List.range 4).foldlM (fun data j => manchester_bit rx j data) data

/-- The loop over the 16 received bytes, two for each byte of `data_buffer`. -/
def manchester (rx_buffer : List UInt8) : Option (List UInt8) :=
  (List.range 16).foldlM (fun data_buffer i =>
    (manchester_byte (rx_buffer.getD i 0) (data_buffer.getD (i / 2) 0)).map
      (data_buffer.set (i / 2))) (List.replicate 8 0)

/-- Ones in row `i`. -/
def validity1 (data_buffer : List UInt8) (i : ℕ) : ℕ :=
  (List.range 8).countP fun j => (data_buffer.getD i 0).toNat &&& (1 <<< j) ≠ 0

/-- Ones in column `i`. -/
def validity2 (data_buffer : List UInt8) (i : ℕ) : ℕ :=
  (List.range 8).countP fun j => (data_buffer.getD j 0).toNat &&& (1 <<< i) ≠ 0

def validity (data_buffer : List UInt8) : Bool :=
  (List.range 8).all fun i => (validity1 data_buffer i % 2 ||| validity2 data_buffer i % 2) = 0

/-- The matrix of a packet that passes all checks. -/
def accept (rx_buffer : List UInt8) (rx_len MS : ℕ) : Option (List UInt8) :=
  if rx_len = 16 ∧ MS = 11 then
    (manchester rx_buffer).filter validity
  else none

/-- Packets are accepted in state `11` only. -/
theorem accept_MS {rx_buffer ds : List UInt8} {rx_len MS : ℕ}
    (h : accept rx_buffer rx_len MS = some ds) : MS = 11 := by
  unfold accept at h
  split at h
  · rename_i hMS
    exact hMS.2
  · cases h

/-! ### Fields -/

/-- Cell `p` of the matrix, seven cells a row from bit `7` down. -/
def cell_bit (data_buffer : List UInt8) (p : ℕ) : ℕ :=
  get_buffer_bit (data_buffer.getD (p / 7) 0) (7 - p % 7)

/-- The number in the `n` cells from cell `k` on, highest bit first. -/
def get_field (data_buffer : List UInt8) (n k : ℕ) : ℕ :=
  (List.range n).foldl (fun number i => (number <<< 1) ||| cell_bit data_buffer (i + k)) 0

def frame_version (data_buffer : List UInt8) : ℕ :=
  get_buffer_bit (data_buffer.getD 0 0) 7 * 0x02 + get_buffer_bit (data_buffer.getD 0 0) 6

/-- The marker of a version-`0` alarm frame. -/
def is_marked (data_buffer : List UInt8) : Bool := get_field data_buffer 5 29 = 0x1f

/-- Version `0`, marked: serial and flags; the hand-over needs a reading of the same serial. -/
def store_alarm (data_buffer : List UInt8) (r : Radio) (MS : ℕ) : Radio × ℕ :=
  let number := get_field data_buffer 27 2
  let flag := decide (r.msid = number)
  let r := if r.msid ≠ number then { r with msid := number, msv := 0 } else r
  let r := { r with
    Controllable_Ms_flag :=
      Vector.ofFn fun i => UInt8.ofNat (cell_bit data_buffer (i.1 + 34)) }
  (r, if flag then 12 else MS)

/-- Version `0`, unmarked: serial and reading. -/
def store_reading (data_buffer : List UInt8) (r : Radio) : Radio :=
  { r with msid := get_field data_buffer 27 2, msv := get_field data_buffer 27 29 }

/-- Versions `1` to `3`: two flags, serial and reading in one packet. -/
def store_packet (data_buffer : List UInt8) (r : Radio) : Radio :=
  { r with
    Controllable_Ms_flag :=
      ((Vector.replicate 10 (0 : UInt8)).set 0
        (UInt8.ofNat (get_buffer_bit (data_buffer.getD 0 0) 5))).set 1
        (UInt8.ofNat (get_buffer_bit (data_buffer.getD 0 0) 4))
    msid := get_field data_buffer 20 4
    msv := get_field data_buffer 20 24 }

def store_frame (data_buffer : List UInt8) (r : Radio) (MS : ℕ) : Radio × ℕ :=
  let r := { r with v := UInt8.ofNat (frame_version data_buffer) }
  if frame_version data_buffer = 0 then
    if is_marked data_buffer then store_alarm data_buffer r MS
    else (store_reading data_buffer r, MS)
  else (store_packet data_buffer r, 12)

/-- The callback: the statics and `MS` after the call.  The signal strength is stored before any
check. -/
def rf4068_rx_callback (rssi : ℤ) (rx_buffer : List UInt8) (rx_len : ℕ) (r : Radio) (MS : ℕ) :
    Radio × ℕ :=
  let r := { r with ax_rssi := rssi + RSSI_JIA - RSSI_JIAN }
  match accept rx_buffer rx_len MS with
  | some data_buffer => store_frame data_buffer r MS
  | none => (r, MS)

/-! ### The hand-over -/

/-- A packet that is accepted in state `11` and completes a record: one of version `1` to `3`, or
an alarm frame of the serial in `msid`. -/
def publishes (rx_buffer : List UInt8) (rx_len : ℕ) (r : Radio) : Bool :=
  match accept rx_buffer rx_len 11 with
  | some data_buffer =>
      frame_version data_buffer ≠ 0 ||
        (is_marked data_buffer && r.msid = get_field data_buffer 27 2)
  | none => false

/-- The callback moves `MS` from `11` to `12` for the packets that publish, and otherwise leaves it
alone. -/
theorem rf4068_rx_callback_MS (rssi : ℤ) (rx_buffer : List UInt8) (rx_len : ℕ) (r : Radio)
    (MS : ℕ) :
    (rf4068_rx_callback rssi rx_buffer rx_len r MS).2 =
      if MS = 11 ∧ publishes rx_buffer rx_len r then 12 else MS := by
  unfold rf4068_rx_callback publishes
  dsimp only
  by_cases hMS : MS = 11
  · subst hMS
    cases h : accept rx_buffer rx_len 11 with
    | none => simp
    | some data_buffer =>
        by_cases hv : frame_version data_buffer = 0
        · cases hm : is_marked data_buffer <;> simp [store_frame, store_alarm, hv, hm]
        · simp [store_frame, hv]
  · have h : accept rx_buffer rx_len MS = none := by
      cases h : accept rx_buffer rx_len MS with
      | none => rfl
      | some data_buffer => exact absurd (accept_MS h) hMS
    simp [h, hMS]

/-- Away from state `11` only the signal strength is stored. -/
theorem rf4068_rx_callback_of_ne (rssi : ℤ) (rx_buffer : List UInt8) (rx_len : ℕ) (r : Radio)
    {MS : ℕ} (hMS : MS ≠ 11) :
    (rf4068_rx_callback rssi rx_buffer rx_len r MS).1 =
      { r with ax_rssi := rssi + RSSI_JIA - RSSI_JIAN } := by
  unfold rf4068_rx_callback
  cases h : accept rx_buffer rx_len MS with
  | none => rfl
  | some data_buffer => exact absurd (accept_MS h) hMS

/-! ### Bits of a byte -/

theorem get_buffer_bit_eq (buff : UInt8) (bit : ℕ) :
    get_buffer_bit buff bit = (buff.toNat.testBit bit).toNat := by
  unfold get_buffer_bit
  rw [Nat.one_shiftLeft, Nat.and_two_pow]
  cases h : buff.toNat.testBit bit <;> simp

theorem and_one_shiftLeft_ne_zero (x bit : ℕ) : (x &&& (1 <<< bit) ≠ 0) = x.testBit bit := by
  rw [Nat.one_shiftLeft, Nat.and_two_pow]
  cases h : x.testBit bit <;> simp

end MeterTester
