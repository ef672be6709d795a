import MeterTester.World

/-! # The main loop: `main.c`

`MS_thread` selects a function by the state `MS`: `0` start, `1` choice of the mode, `2` settings
and serial numbers, `3` test, `4` failure, `5` success, `10` to `12` the radio log.  Each function
is a program over the statics (`World`).

A digit key writes through the cursor `choose_number`, whose tens are the row and whose units are
the column; the writes are guarded by the bounds of the arrays. -/

namespace MeterTester

open Interleave Interleave.Prog World

/-! ### The clock -/

/-- Two digit cells of a number. -/
def digit_cells (n : UInt8) : UInt8 × UInt8 := (n / 10 + 100, n % 10 + 100)

theorem hour_cell_lt : 1 < 10 := by decide

/-- The time of `my_time` in the cells of `zf_list8`. -/
def show_time (w : World) : World :=
  let h := digit_cells (getElem w.my_time 2 hour_lt)
  let m := digit_cells (getElem w.my_time 1 minute_lt)
  let s := digit_cells (getElem w.my_time 0 second_lt)
  { w with
    zf_list8 :=
      (((((w.zf_list8.set 1 h.1 hour_cell_lt).set 2 h.2).set 4 m.1).set 5 m.2).set 7 s.1).set 8 s.2 }

def MS_thread_GetTime : Prog World := block [.act get_time, .act show_time]

/-- `if(my_time[i] > max) my_time[j] = max`. -/
def clamp (i j : Fin 7) (max : UInt8) : Prog World :=
  .cond (fun w => max < getElem w.my_time i (register_lt i)) <|
    .act fun w => { w with my_time := w.my_time.set j max (register_lt j) }

/-- The number in two cells of `zf_list8`. -/
def cells_time (w : World) (i : Fin 9) : UInt8 :=
  (w.zf_list8.get ⟨i.1, by omega⟩ - 100) * 10 + (w.zf_list8.get ⟨i.1 + 1, by omega⟩ - 100)

def MS_thread_SetTime : Prog World := block [
  .act fun w => { w with my_time := w.my_time.set 2 (cells_time w 1) hour_lt },
  .act fun w => { w with my_time := w.my_time.set 1 (cells_time w 4) minute_lt },
  .act fun w => { w with my_time := w.my_time.set 0 (cells_time w 7) second_lt },
  clamp 2 0 23,
  clamp 1 1 59,
  clamp 0 2 59,
  .act set_time]

/-! ### States `0` and `1` -/

/-- The digits of the file in the three digit lists. -/
def store_MSID (w : World) : World :=
  { w with
    zf_list6 := fun row =>
      Vector.ofFn fun i : Fin 10 =>
        if row = 0 ∧ 1 ≤ i.1 ∧ i.1 ≤ 6 then w.MSID.toList.getD (i.1 - 1) 0 + 100
        else if row = 1 ∧ 1 ≤ i.1 ∧ i.1 ≤ 8 then w.MSID.toList.getD (i.1 - 1 + 6) 0 + 100
        else if row = 2 ∧ 1 ≤ i.1 ∧ i.1 ≤ 6 then w.MSID.toList.getD (i.1 - 1 + 14) 0 + 100
        else (w.zf_list6 row)[i.1] }

def MS_thread_init : Prog World := block [
  .act fun w => { w with MS := 1 },
  .act fun w => { w with thread_time := 0, choose := 0 },
  .act get_MSID,
  .act store_MSID]

def MS_thread_SelectMode : Prog World := block [
  .cond (fun w => w.thread_time % 10 = 0) (.act fun w => { w with reverse := (w.reverse + 1) % 2 }),
  .cond (fun w => w.button_number ≠ 16) (block [
    .cond (fun w => w.button_number = BUTTON_UP) (block [
      .act fun w => { w with choose := if w.choose ≠ 0 then w.choose - 1 else 3 },
      .act fun w => { w with reverse := 0, thread_time := 9 }]),
    .cond (fun w => w.button_number = BUTTON_DOWN) (block [
      .act fun w => { w with choose := w.choose + 1 },
      .act fun w => { w with choose := w.choose % 4 },
      .act fun w => { w with reverse := 0, thread_time := 9 }]),
    .cond (fun w => w.button_number = BUTTON_OK) (block [
      .act fun w => { w with MS := 2 },
      .act fun w => { w with thread_time := 0, reverse := 0, choose_number := 0 },
      .cond (fun w => w.choose ≠ 3) MS_thread_GetTime,
      .cond (fun w => w.choose = 3) (.act fun w => { w with MS := 10 })])])]

/-! ### State `2`: the settings editor -/

/-- `zf_list6[row][i] = cell`. -/
def set_list6 (w : World) (row i : ℕ) (cell : UInt8) : World :=
  { w with
    zf_list6 := fun r => if r = row then (w.zf_list6 r).setIfInBounds i cell else w.zf_list6 r }

def key_cell (w : World) : UInt8 := UInt8.ofNat w.button_number + 100

/-- The cell under the cursor takes the digit of the key. -/
def write_digit : Prog World :=
  .ite (fun w => w.choose_number < 10) (block [
    .check fun w => w.choose < 3 ∧ w.choose_number + 1 < 10,
    .act fun w => set_list6 w w.choose (w.choose_number + 1) (key_cell w)]) <|
  .ite (fun w => w.choose_number < 20) (block [
    .check fun w => w.choose_number % 10 + 1 < 7,
    .act fun w => { w with
      zf_list7 := w.zf_list7.setIfInBounds (w.choose_number % 10 + 1) (key_cell w) }]) <|
  .cond (fun w => w.choose_number < 30) (block [
    .check fun w => w.choose_number % 10 + 1 + w.choose_number % 10 / 2 < 10,
    .act fun w => { w with
      zf_list8 := w.zf_list8.setIfInBounds
        (w.choose_number % 10 + 1 + w.choose_number % 10 / 2) (key_cell w) }])

/-- `reverse = 0; thread_time = 9;` -/
def redraw : Prog World := .act fun w => { w with reverse := 0, thread_time := 9 }

def digit_key : Prog World := block [
  write_digit,
  .act fun w => { w with choose_number := (w.choose_number + 1) % 0x100 },
  .ite (fun w => w.choose = 1)
    (.cond (fun w => 8 ≤ w.choose_number % 10 ∧ w.choose_number < 10)
      (.act fun w => { w with choose_number := 0 }))
    (.cond (fun w => 6 ≤ w.choose_number % 10)
      (.act fun w => { w with choose_number := w.choose_number / 10 * 10 })),
  redraw]

def up_key : Prog World := block [
  .cond (fun w => 5 < w.choose_number % 10)
    (.act fun w => { w with choose_number := w.choose_number / 10 * 10 + 5 }),
  .ite (fun w => 10 ≤ w.choose_number)
    (.act fun w => { w with choose_number := w.choose_number - 10 })
    (.act fun w => { w with choose_number := 20 + w.choose_number }),
  redraw]

def down_key : Prog World := block [
  .cond (fun w => 5 < w.choose_number % 10) (.act fun w => { w with choose_number := 5 }),
  .act fun w => { w with choose_number := (w.choose_number + 10) % 0x100 },
  .act fun w => { w with choose_number := w.choose_number % 30 },
  redraw]

def left_key : Prog World := block [
  .ite (fun w => 0 < w.choose_number % 10)
    (.act fun w => { w with choose_number := w.choose_number - 1 }) <|
  .ite (fun w => w.choose_number < 10 ∧ w.choose = 1)
    (.act fun w => { w with choose_number := 7 })
    (.act fun w => { w with choose_number := w.choose_number / 10 * 10 + 5 }),
  redraw]

def right_key : Prog World := block [
  .act fun w => { w with choose_number := (w.choose_number + 1) % 0x100 },
  .ite (fun w => w.choose_number < 10 ∧ w.choose = 1)
    (.act fun w => { w with
      choose_number := w.choose_number / 10 * 10 + w.choose_number % 10 % 8 })
    (.act fun w => { w with
      choose_number := w.choose_number / 10 * 10 + w.choose_number % 10 % 6 }),
  redraw]

/-- Entering the row of the time stops the clock on the display, leaving it sets the clock. -/
def time_row : Prog World :=
  .ite (fun w => 20 ≤ w.choose_number ∧ w.choose_number ≤ 25)
    (.cond (fun w => w.setting_time = 0) (.act fun w => { w with setting_time := 1 }))
    (.cond (fun w => w.setting_time = 1) (block [
      .act fun w => { w with setting_time := 0 },
      MS_thread_SetTime]))

def return_key : Prog World :=
  .ite (fun w => w.choose_number = 30) (block [
    .act fun w => { w with choose_number := 0 },
    redraw]) <|
  .ite (fun w => w.setting_time = 1) (block [
    .act fun w => { w with choose_number := 0 },
    redraw,
    .act fun w => { w with setting_time := 0 }]) <|
  block [
    .act fun w => { w with MS := 1 },
    .act fun w => { w with thread_time := 0, choose := 0 }]

def ok_key : Prog World :=
  .cond (fun w => w.choose_number < 30) (block [
    .act set_MSID,
    .cond (fun w => w.setting_time = 1) (block [
      .act fun w => { w with setting_time := 0 },
      MS_thread_SetTime]),
    .act fun w => { w with choose_number := 30 }])

def is_arrow (w : World) : Bool :=
  w.button_number = BUTTON_UP ∨ w.button_number = BUTTON_DOWN ∨
    w.button_number = BUTTON_LEFT ∨ w.button_number = BUTTON_RIGHT

/-- The blinking of the display; away from the row of the time the clock is read. -/
def blink_settings : Prog World :=
  .cond (fun w => w.thread_time % 10 = 0) (block [
    .act fun w => { w with reverse := (w.reverse + 1) % 2 },
    .cond (fun w => ¬ (20 ≤ w.choose_number ∧ w.choose_number < 30 ∧ w.reverse ≠ 0) ∧
        w.setting_time = 0) MS_thread_GetTime])

def settings_key : Prog World :=
  .cond (fun w => w.button_number ≠ 16) (block [
    .cond (fun w => w.button_number < 10 ∧ w.choose_number < 30) digit_key,
    .cond (fun w => w.button_number = BUTTON_UP) up_key,
    .cond (fun w => w.button_number = BUTTON_DOWN) down_key,
    .cond (fun w => w.button_number = BUTTON_LEFT) left_key,
    .cond (fun w => w.button_number = BUTTON_RIGHT) right_key,
    .cond is_arrow time_row,
    .cond (fun w => w.button_number = BUTTON_RETUEN) return_key,
    .cond (fun w => w.button_number = BUTTON_OK) ok_key])

/-- The start button is looked at once the settings are confirmed. -/
def start_button : Prog World :=
  .cond (fun w => w.choose_number = 30) (block [
    .act fun w => w.rt_pin_read BUTTON9,
    .cond (fun w => w.pin_level BUTTON9 = false) (.act fun w => { w with MS := 3 })])

def MS_thread_SettingMs : Prog World := block [blink_settings, settings_key, start_button]

/-! ### State `3`: the test -/

/-- `MS = 4; MS_error = error; return;` -/
def fail (error : UInt8) : Prog World := block [
  .act fun w => { w with MS := 4 },
  .act fun w => { w with MS_error := error }]

/-- Issue a command; go on with `rest` if the meter answers. -/
def exchange (c : World → Command) (error : UInt8) (rest : Prog World) : Prog World := block [
  .act fun w => w.issue (c w),
  .act World.get_uart_flag,
  .ite (fun w => w.uart_flag ≠ UART_READ_OK) (fail error) rest]

/-- Go on with `rest` unless the test fails. -/
def refuse (c : World → Bool) (error : UInt8) (rest : Prog World) : Prog World :=
  .ite c (fail error) rest

/-- The number in the first `len` digit cells, in 32 bits. -/
def list_value (zf_list : Vector UInt8 10) (len : ℕ) : ℕ :=
  (List.range len).foldl (fun n i =>
    let n := (n + cell_number zf_list.toList (i + 1)) % 0x100000000
    if i < len - 1 then n * 10 % 0x100000000 else n) 0

def write_MSID (len : ℕ) (w : World) : Command := .SetData 0 (w.zf_list6 w.choose).toList len

def write_MSV (w : World) : Command := .SetData 1 w.zf_list7.toList 6

def write_time (w : World) : Command := .SetData 2 w.zf_list8.toList 6

def read_back (flag : Fin 3) (w : World) : Command := .GetData flag w.choose

/-- `MS = 5; thread_time = 0;` -/
def pass : Prog World := block [
  .act fun w => { w with MS := 5 },
  .act fun w => { w with thread_time := 0 }]

def MS_thread_test0 : Prog World :=
  exchange (write_MSID 6) WRITE_ERROR <|
  exchange write_MSV WRITE_ERROR <|
  exchange write_time WRITE_ERROR <|
  exchange (read_back 0) READ_ERROR <| block [
  .act World.get_UartData,
  refuse (fun w => list_value (w.zf_list6 w.choose) 6 ≠ w.uart_data) MSID_ERROR <|
  exchange (read_back 1) READ_ERROR <| block [
  .act World.get_UartData,
  refuse (fun w => w.uart_data ≠ 3) MSV_ERROR <|
  exchange (read_back 2) READ_ERROR <| block [
  .act World.get_UartData,
  refuse (fun w => w.uart_data &&& 0x02 ≠ 0) MSV_INTERFERENCE <|
  refuse (fun w => w.uart_data &&& 0x01 ≠ 0) LOW_POWER <|
  exchange write_MSV WRITE_ERROR1 pass]]]

/-- Light the detector and read it. -/
def read_IR (rest : Prog World) : Prog World := block [
  .act fun w => w.write_IR_DET 1,
  .act fun w => w.rt_pin_read IR_LED,
  rest]

def IR_off : Prog World := .act fun w => w.write_IR_DET 0

def IR_dark (w : World) : Bool := w.pin_level IR_LED = false

/-- The valve must be open before the wheel turns: two attempts to open it. -/
def valve_open_first (rest : Prog World) : Prog World :=
  read_IR <| .ite IR_dark
    (block [IR_off, exchange (fun _ => .open_valve) WRITE_ERROR2 <|
      read_IR <| .ite IR_dark
        (block [IR_off, exchange (fun _ => .open_valve) WRITE_ERROR2 <|
          read_IR <| .ite IR_dark (block [IR_off, fail VALVE_ERROR]) rest])
        rest])
    rest

/-- At most `n` readings of the detector, until it is dark. -/
def wait_dark : ℕ → Prog World
  | 0 => .skip
  | n + 1 => block [.act fun w => w.rt_pin_read IR_LED, .ite IR_dark .skip (wait_dark n)]

/-- The wheel has turned and the valve must have closed. -/
def valve_closed (rest : Prog World) : Prog World := block [
  IR_off,
  .act fun w => w.write_IR_DET 1,
  wait_dark 4,
  .act fun w => w.rt_pin_read IR_LED,
  .ite (fun w => w.pin_level IR_LED = true) (block [IR_off, fail VALVE_ERROR]) <|
  block [IR_off, rest]]

/-- The valve must be open again: one attempt to open it. -/
def valve_open_last : Prog World :=
  read_IR <| .ite IR_dark
    (block [IR_off, exchange (fun _ => .open_valve) WRITE_ERROR1 <|
      read_IR <| .ite IR_dark (block [IR_off, fail VALVE_ERROR1]) pass])
    pass

/-- The status word of a controllable meter. -/
def check_status (rest : Prog World) : Prog World :=
  refuse (fun w => w.uart_data &&& 0x02 ≠ 0) TAMPER <|
  refuse (fun w => w.uart_data &&& 0x01 ≠ 0) LOW_POWER <|
  refuse (fun w => w.uart_data &&& 0x04 ≠ 0) CRITICAL_LOW_BATTERY <|
  refuse (fun w => w.uart_data &&& 0x40 = 0) VALVE_STATUS_ERROR <|
  refuse (fun w => w.uart_data &&& 0x20 = 0) CRITICAL_ESCAPE <|
  refuse (fun w => w.uart_data &&& 0x10 ≠ 0) MINOR_ESCAPE_ERROR <|
  refuse (fun w => w.uart_data &&& 0x08 ≠ 0) INSPECT_ERROR <|
  refuse (fun w => w.uart_data &&& 0x80 ≠ 0) VALVE_CONNECTION_ERROR <|
  refuse (fun w => w.uart_data &&& 0x100 ≠ 0) VALVE_ERROR_ALARM <|
  refuse (fun w => w.uart_data &&& 0x200 ≠ 0) VALVE_TIGHTNESS_ERROR rest

/-- `MS_thread_test1` for the length `len` of the mode's serial. -/
def test1 (len : ℕ) : Prog World :=
  exchange (write_MSID len) WRITE_ERROR <|
  exchange write_MSV WRITE_ERROR <|
  exchange write_time WRITE_ERROR <|
  valve_open_first <|
  valve_closed <|
  exchange (read_back 0) READ_ERROR <| block [
  .act World.get_UartData,
  refuse (fun w => list_value (w.zf_list6 w.choose) len ≠ w.uart_data) MSID_ERROR <|
  exchange (read_back 1) READ_ERROR <| block [
  .act World.get_UartData,
  refuse (fun w => w.uart_data ≠ 7) MSV_ERROR <|
  exchange (read_back 2) READ_ERROR <| block [
  .act World.get_UartData,
  check_status <|
  exchange write_MSV WRITE_ERROR1 <|
  exchange (fun _ => .open_valve) WRITE_ERROR1 valve_open_last]]]

def MS_thread_test1 : Prog World := .ite (fun w => w.choose = 1) (test1 8) (test1 6)

def MS_thread_test : Prog World := block [
  .act fun w => { w with MS_error := 0 },
  .ite (fun w => w.choose = 0) MS_thread_test0 MS_thread_test1,
  .act get_time,
  .check fun w => w.choose < 3,
  .act set_record,
  .act fun w => w.set_Record_txt ((w.dfs.get_recordled_data + 1) % 0x10000)
    w.dfs.get_ax5045len_data]

/-! ### States `4` and `5`: the outcome -/

/-- Back to the confirmed settings. -/
def show_settings : Prog World := block [
  .act fun w => { w with MS := 2 },
  .act fun w => { w with thread_time := 0, reverse := 0, choose_number := 30 },
  MS_thread_GetTime]

def MS_thread_ERROR : Prog World := block [
  .cond (fun w => w.MS_error ≠ 0) (.act fun w => { w with MS_error := 0 }),
  .act fun w => w.rt_pin_read BUTTON9,
  -- `||` reads the other pin only when this one is high
  .cond (fun w => w.pin_level BUTTON9 = true) (.act fun w => w.rt_pin_read BUTTON10),
  .cond (fun w => w.MS_error = 0 ∧ (w.pin_level BUTTON9 = false ∨ w.pin_level BUTTON10 = false ∨
      w.button_number = BUTTON_OK ∨ w.button_number = BUTTON_RETUEN)) show_settings]

/-- The number of the serial, plus one. -/
def next_number (len : ℕ) (w : World) : World :=
  { w with
    number := (List.range len).foldl (fun n i =>
      let n := (n + cell_number (w.zf_list6 w.choose).toList (i + 1)) % 0x100000000
      if i < len - 1 then n * 10 % 0x100000000 else (n + 1) % 0x100000000) 0 }

/-- The lowest digit of `number` into cell `len - i`. -/
def store_digit (len i : ℕ) (w : World) : World :=
  { set_list6 w w.choose (len - i) (UInt8.ofNat (w.number % 10) + 100) with
    number := w.number / 10 }

def increment (len : ℕ) : Prog World := block [
  .act (next_number len),
  block ((List.range len).map fun i => .act (store_digit len i))]

def MS_thread_return : Prog World := block [
  .check fun w => w.choose < 3,
  .ite (fun w => w.choose = 1) (increment 8) (increment 6),
  .act set_MSID,
  show_settings]

def MS_thread_pass : Prog World := .cond (fun w => 60 ≤ w.thread_time) MS_thread_return

/-! ### States `10` to `12`: the radio log -/

/-- `show_ax_data` with the statics of the decoder. -/
def show_ax_data (w : World) : World :=
  { w with
    screen := some
      { msid := w.radio.msid
        msv := w.radio.msv
        v := w.radio.v
        data := w.data
        rssi := -w.radio.ax_rssi
        addr := (w.addr + 0xffff) % 0x10000 } }

def MS_thread_ax_refresh : Prog World := block [
  .act fun w => { w with data := w.radio.Controllable_Ms_flag },
  .act set_ax_record,
  .act fun w => w.set_Record_txt w.dfs.get_recordled_data
    ((w.dfs.get_ax5045len_data + 1) % 0x10000),
  .act fun w => { w with addr := w.dfs.get_ax5045len_data },
  .cond (fun w => w.addr = 0) (.act fun w => { w with addr := AX5043_MAX }),
  .act show_ax_data,
  .act get_date,
  .act fun w => { w with show_ax_addr := w.dfs.get_ax5045len_data },
  .act fun w => { w with MS := 11 }]

/-- A number in `len` characters of the transfer buffer from index `k` on, in 32 bits. -/
def buffer_number (d : Dfs) (k len : ℕ) : ℕ :=
  (List.range len).foldl (fun n i =>
    let n := (n + ((d.buffer.toList.getD (k + i) 0).toNat + 0x100000000 - 48)) % 0x100000000
    if i < len - 1 then n * 10 % 0x100000000 else n) 0

/-- The record in the transfer buffer on the display, under the slot `addr`. -/
def show_buffer (w : World) (addr : ℕ) : World :=
  let char := fun i => w.dfs.buffer.toList.getD i 0 - chr '0'
  let digit := fun i => ((w.dfs.buffer.toList.getD i 0).toNat : ℤ) - 48
  { w with
    screen := some
      { msid := buffer_number w.dfs 2 8
        msv := buffer_number w.dfs 11 6
        v := char 0
        data := Vector.ofFn fun i => char (18 + i.1 * 2)
        rssi := (digit 56 * 100 + digit 57 * 10 + digit 58) % 0x10000
        addr := addr } }

/-- `show_ax_record(addr)`. -/
def show_ax_record (addr : World → ℕ) : Prog World := block [
  .act fun w => { w with dfs := (w.dfs.get_ax_Record (addr w)).2 },
  .act fun w => show_buffer w (addr w)]

def MS_thread_ax_start : Prog World := block [
  -- `Dispgraphic(0x00)`
  .act fun w => { w with screen := none },
  .act get_date,
  .act fun w => { w with show_ax_addr := w.dfs.get_ax5045len_data },
  .cond (fun w => w.show_ax_addr ≠ 0) (show_ax_record fun w => w.show_ax_addr - 1),
  .act fun w => { w with time_number := 20 },
  .act fun w => { w with MS := 11 }]

/-- `thread_time = 9; reverse = 1;` -/
def redraw_date : Prog World := .act fun w => { w with thread_time := 9, reverse := 1 }

/-- The byte of `my_time` that the cursor of the date is in. -/
def time_addr (time_number : ℕ) : ℕ :=
  if time_number < 6 then 6 - time_number / 2 else 5 - time_number / 2

/-- A digit of the date or the time. -/
def set_time_digit (w : World) : World :=
  let i := time_addr w.time_number
  let old := w.my_time.toList.getD i 0
  let digit := UInt8.ofNat w.button_number
  { w with
    my_time := w.my_time.setIfInBounds i
      (if w.time_number % 2 ≠ 0 then old / 10 * 10 + digit else old % 10 + digit * 10) }

def ax_digit_key : Prog World := block [
  .act set_time_digit,
  .act fun w => { w with time_number := (w.time_number + 1) % 12 },
  redraw_date]

/-- The number of records by the size of the file; the quotient is used as a divisor or counted
down. -/
def stat_number (w : World) : ℕ := w.dfs.stat_sample.getD 0

def ax_back_key : Prog World :=
  .ite (fun w => w.time_number = 20)
    (.cond (fun w => w.dfs.get_ax5045len_data ≠ 0) (block [
      .ite (fun w => w.show_ax_addr ≠ 0)
        (.act fun w => { w with show_ax_addr := w.show_ax_addr - 1 })
        (block [
          .check fun w => w.dfs.stat_sample.isSome,
          .act fun w => { w with show_ax_addr := (stat_number w + 0xffff) % 0x10000 }]),
      show_ax_record fun w => w.show_ax_addr]))
    (block [
      .act fun w => { w with
        time_number := if w.time_number ≠ 0 then w.time_number - 1 else 11 },
      redraw_date])

def ax_forward_key : Prog World :=
  .ite (fun w => w.time_number = 20)
    (.cond (fun w => w.dfs.get_ax5045len_data ≠ 0) (block [
      .act fun w => { w with show_ax_addr := (w.show_ax_addr + 1) % 0x10000 },
      .check fun w => stat_number w ≠ 0,
      .act fun w => { w with show_ax_addr := w.show_ax_addr % stat_number w },
      show_ax_record fun w => w.show_ax_addr]))
    (block [
      .act fun w => { w with time_number := (w.time_number + 1) % 12 },
      redraw_date])

def ax_ok_key : Prog World :=
  .ite (fun w => w.time_number = 20) (block [
    .act fun w => { w with time_number := 0 },
    redraw_date]) <|
  block [
    clamp 5 5 12,
    clamp 4 4 31,
    .act fun w => w.happen (.set_date [getElem w.my_time 4 day_lt, getElem w.my_time 5 month_lt,
      getElem w.my_time 6 year_lt]),
    clamp 2 2 23,
    clamp 1 1 59,
    clamp 0 0 59,
    .act set_time,
    .act fun w => { w with time_number := 20 },
    redraw_date]

def ax_return_key : Prog World :=
  .ite (fun w => w.time_number < 20)
    (.act fun w => { w with time_number := 20, thread_time := 9 })
    (block [
      .act fun w => { w with MS := 1 },
      .act fun w => { w with thread_time := 0, choose := 0 }])

def blink_date : Prog World :=
  .cond (fun w => w.thread_time % 10 = 0) (block [
    .act fun w => { w with reverse := (w.reverse + 1) % 2 },
    .cond (fun w => w.time_number = 20) (.act get_date)])

def MS_thread_ax : Prog World := block [
  blink_date,
  .cond (fun w => w.button_number ≠ 16) (block [
    .cond (fun w => w.button_number < 10 ∧ w.time_number < 12) ax_digit_key,
    .cond (fun w => w.button_number = BUTTON_UP ∨ w.button_number = BUTTON_LEFT) ax_back_key,
    .cond (fun w => w.button_number = BUTTON_DOWN ∨ w.button_number = BUTTON_RIGHT)
      ax_forward_key,
    .cond (fun w => w.button_number = BUTTON_OK) ax_ok_key,
    .cond (fun w => w.button_number = BUTTON_RETUEN) ax_return_key])]

/-! ### The loop -/

/-- `MS` is read once, by the `switch`. -/
def select (w : World) : World :=
  { w.happen (.switch w.MS w.button_number w.choose_number w.time_number) with selector := w.MS }

/-- The functions of the states. -/
def MS_functions : List (ℕ × Prog World) := [
  (0, MS_thread_init),
  (1, MS_thread_SelectMode),
  (2, MS_thread_SettingMs),
  (3, MS_thread_test),
  (4, MS_thread_ERROR),
  (5, MS_thread_pass),
  (10, MS_thread_ax_start),
  (11, MS_thread_ax),
  (12, MS_thread_ax_refresh)]

def MS_thread : Prog World := block [.act select, switch World.selector MS_functions]

/-- One turn of the main loop. -/
def main_turn : Prog World := block [
  .act get_button_number,
  MS_thread,
  .act fun w => { w with thread_time := w.thread_time + 1 },
  .act fun w => { w with thread_time := w.thread_time % 100 }]

/-- `main`: the counters are read, then the loop runs. -/
def main_program : Prog World := block [
  .act fun w => { w with dfs := w.dfs.my_dfs_init },
  .forever main_turn]

end MeterTester
