import MeterTester.Decoder
import MeterTester.Dfs
import MeterTester.Interleave
import MeterTester.Uart

/-! # The statics of `main.c` and what surrounds them

`World` holds the statics of `main.c`, the locals that live across several statements, the record
files, the radio decoder, and what the outside shows to the successive reads of the devices.  The
keypad, the pins, the clock and the meter on the serial line may show anything; each read takes
the next moment (`World.tick`).

`log` is the history of what the program has done, newest first, and `screen` the radio record that
has been shown last since the radio log was entered; nothing reads them back.

A call of a file function or of a device is one statement; it enters the history when its file
could be opened.  Texts on the display, the buzzer and the lamps are left out, and so are
pauses. -/

namespace MeterTester

open Interleave Dfs

def BUTTON_UP : ℕ := 10
def BUTTON_DOWN : ℕ := 11
def BUTTON_RETUEN : ℕ := 12
def BUTTON_LEFT : ℕ := 13
def BUTTON_RIGHT : ℕ := 14
def BUTTON_OK : ℕ := 15

def IR_LED : ℕ := 0x01
def BUTTON9 : ℕ := 0x25
def BUTTON10 : ℕ := 0x10

def WRITE_ERROR : UInt8 := 1
def MSID_ERROR : UInt8 := 2
def MSV_ERROR : UInt8 := 3
def MSV_INTERFERENCE : UInt8 := 4
def LOW_POWER : UInt8 := 5
def VALVE_ERROR : UInt8 := 6
def TAMPER : UInt8 := 7
def CRITICAL_LOW_BATTERY : UInt8 := 9
def VALVE_STATUS_ERROR : UInt8 := 10
def CRITICAL_ESCAPE : UInt8 := 11
def MINOR_ESCAPE_ERROR : UInt8 := 12
def VALVE_CONNECTION_ERROR : UInt8 := 13
def VALVE_ERROR_ALARM : UInt8 := 14
def VALVE_TIGHTNESS_ERROR : UInt8 := 15
def READ_ERROR : UInt8 := 16
def INSPECT_ERROR : UInt8 := 17
def WRITE_ERROR1 : UInt8 := 18
def WRITE_ERROR2 : UInt8 := 19
def VALVE_ERROR1 : UInt8 := 20

/-! The places of `my_time`, as the clock chip orders its registers. -/

theorem second_lt : 0 < 7 := by decide
theorem minute_lt : 1 < 7 := by decide
theorem hour_lt : 2 < 7 := by decide
theorem day_lt : 4 < 7 := by decide
theorem month_lt : 5 < 7 := by decide
theorem year_lt : 6 < 7 := by decide

instance neZero_seven : NeZero 7 := ⟨by decide⟩
instance neZero_nine : NeZero 9 := ⟨by decide⟩

theorem register_lt (i : Fin 7) : i.1 < 7 := i.2

/-- What the outside shows at one moment: the result of `get_button_number`, the levels of the
pins, what the clock leaves in `my_time`, and the results of `get_uart_flag` and
`get_UartData`. -/
structure Device where
  button : ℕ
  pin : ℕ → Bool
  get_time : Vector UInt8 7
  get_date : Vector UInt8 7
  uart_flag : ℕ
  uart_data : ℕ

/-- The arguments of `show_ax_data`. -/
structure Shown where
  msid : ℕ
  msv : ℕ
  v : UInt8
  data : Vector UInt8 10
  rssi : ℤ
  addr : ℕ
deriving DecidableEq

/-- What the program does. -/
inductive Event where
  /-- `MS_thread` selects a function by `MS`; the key and the two cursors it finds -/
  | switch (MS button_number choose_number time_number : ℕ)
  /-- the radio task sets `MS` to `12`; the statics of the decoder at this moment -/
  | handover (r : Radio)
  | set_ax_record (my_time : Vector UInt8 7) (record : List UInt8)
  | set_record (choose : ℕ) (record : List UInt8)
  | set_MSID (digits : List UInt8)
  | command (c : Command)
  | set_time (my_time : Vector UInt8 7)
  | set_date (time_list : List UInt8)

structure World where
  button_number : ℕ
  MS : ℕ
  thread_time : ℕ
  choose : ℕ
  choose_number : ℕ
  reverse : ℕ
  MS_error : UInt8
  zf_list6 : ℕ → Vector UInt8 10
  zf_list7 : Vector UInt8 7
  zf_list8 : Vector UInt8 10
  MSID : Vector UInt8 20
  my_time : Vector UInt8 7
  show_ax_addr : ℕ
  time_number : ℕ
  setting_time : ℕ
  dfs : Dfs
  radio : Radio
  -- locals of the functions that run
  selector : ℕ
  data : Vector UInt8 10
  number : ℕ
  addr : ℕ
  pin_level : ℕ → Bool
  uart_flag : ℕ
  uart_data : ℕ
  -- the outside
  devices : ℕ → Device
  IR_DET : ℕ
  screen : Option Shown
  log : List Event

namespace World

/-- The digit lists of a started image. -/
def zf_list6_start (row : ℕ) : Vector UInt8 10 :=
  if row = 1 then #v[8, 109, 108, 107, 106, 105, 104, 103, 102, 100]
  else #v[6, 101, 102, 103, 104, 105, 106, 100, 100, 100]

/-- The image is started over the files `fs`; `log` is what happened before. -/
def start (fs : Fs) (devices : ℕ → Device) (log : List Event) : World where
  button_number := 0
  MS := 0
  thread_time := 0
  choose := 0
  choose_number := 0
  reverse := 0
  MS_error := 0
  zf_list6 := zf_list6_start
  zf_list7 := #v[6, 100, 100, 100, 100, 100, 100]
  zf_list8 := #v[9, 100, 100, 7, 100, 100, 8, 100, 100, 9]
  MSID := Vector.replicate 20 0
  my_time := Vector.replicate 7 0
  show_ax_addr := 0
  time_number := 0
  setting_time := 0
  dfs := Dfs.start fs
  radio := Radio.start
  selector := 0
  data := Vector.replicate 10 0
  number := 0
  addr := 0
  pin_level := fun _ => false
  uart_flag := 0
  uart_data := 0
  devices := devices
  IR_DET := 0
  screen := none
  log := log

/-! ### Devices -/

def now (w : World) : Device := w.devices 0

/-- The next moment. -/
def tick (w : World) : World := { w with devices := fun n => w.devices (n + 1) }

def happen (w : World) (e : Event) : World := { w with log := e :: w.log }

def get_button_number (w : World) : World := { w with button_number := w.now.button }.tick

def rt_pin_read (w : World) (pin : ℕ) : World :=
  { w with pin_level := fun p => if p = pin then w.now.pin pin else w.pin_level p }.tick

def get_time (w : World) : World := { w with my_time := w.now.get_time }.tick

def get_date (w : World) : World := { w with my_time := w.now.get_date }.tick

def set_time (w : World) : World := w.happen (.set_time w.my_time)

def write_IR_DET (w : World) (level : ℕ) : World := { w with IR_DET := level }

/-- Issue a command to the meter. -/
def issue (w : World) (c : Command) : World := w.happen (.command c)

def get_uart_flag (w : World) : World := { w with uart_flag := w.now.uart_flag }.tick

def get_UartData (w : World) : World := { w with uart_data := w.now.uart_data }.tick

/-! ### Files -/

/-- `-get_ax_rssi()` as a `uint16_t`. -/
def rssi16 (r : Radio) : ℕ := ((-r.ax_rssi) % 0x10000).toNat

/-- A call of a file function, with the event it is if the file can be opened. -/
def call_file (w : World) (p : Path) (creat : Bool) (e : Event) (f : Dfs → Dfs) : World :=
  { w with
    dfs := f w.dfs
    log := if (w.dfs.fs.openFile p creat).1 then e :: w.log else w.log }

/-- `set_ax_record(get_ax_v(), data, get_ax_msid(), get_ax_msv(), my_time, -get_ax_rssi())`. -/
def set_ax_record (w : World) : World :=
  w.call_file .AX_record true
    (.set_ax_record w.my_time
      (ax_record w.radio.v w.data w.radio.msid w.radio.msv w.my_time (rssi16 w.radio)))
    (Dfs.set_ax_record w.radio.v w.data w.radio.msid w.radio.msv w.my_time (rssi16 w.radio))

/-- `set_record(choose, zf_list6[choose], MS_error, my_time)`. -/
def set_record (w : World) : World :=
  w.call_file .MS_record true
    (.set_record w.choose (ms_record w.choose (w.zf_list6 w.choose) w.MS_error w.my_time))
    (Dfs.set_record w.choose (w.zf_list6 w.choose) w.MS_error w.my_time)

/-- `set_Record_txt(r_len, a_len, get_version())`. -/
def set_Record_txt (w : World) (r_len a_len : ℕ) : World :=
  { w with dfs := w.dfs.set_Record_txt r_len a_len w.dfs.get_version }

/-- `set_MSID(zf_list6[0], zf_list6[1], zf_list6[2])`. -/
def set_MSID (w : World) : World :=
  w.call_file .MS_MSID false
    (.set_MSID (MSID_bytes (w.zf_list6 0) (w.zf_list6 1) (w.zf_list6 2)))
    (Dfs.set_MSID (w.zf_list6 0) (w.zf_list6 1) (w.zf_list6 2))

/-- `get_MSID(MSID)`. -/
def get_MSID (w : World) : World :=
  let got := w.dfs.get_MSID w.MSID
  { w with MSID := got.1, dfs := got.2 }

/-! ### The radio task -/

/-- `rf4068_rx_callback` in the surroundings of the main loop. -/
def rf4068_rx_callback (rssi : ℤ) (rx_buffer : List UInt8) (rx_len : ℕ) (w : World) : World :=
  let r := MeterTester.rf4068_rx_callback rssi rx_buffer rx_len w.radio w.MS
  { w with
    radio := r.1
    MS := r.2
    log := if w.MS ≠ 12 ∧ r.2 = 12 then .handover r.1 :: w.log else w.log }

end World

end MeterTester
