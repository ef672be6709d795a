import MeterTester.HeaderScan
import MeterTester.Interleave

/-! # The meter's serial line: `MS_Uart.c`

Three threads share the statics of this file.  The main thread issues a command and polls
`get_uart_flag`; the receive thread passes each byte to `data_parsing`; the timeout thread counts
`uart_timeot` down.  The issue functions are programs whose statements may be interleaved with
the other two (`Interference`).

`data_parsing` is undefined on a byte that it would store outside `data`: behind such a store
nothing is known about the statics.  `hex_number` ends without `return` on a byte that is no
hexadecimal digit; what its caller then reads is the parameter `no_digit`, and `F_addr` is the
address of the literal `"F"` as a byte. -/

namespace MeterTester

open Interleave HeaderScan

def UART_WAIT : ℕ := 0
def UART_ERROR_TIMEOUT : ℕ := 1
def UART_ERROR_DATA : ℕ := 2
def UART_READ_OK : ℕ := 3
def ONE_DATA_MAXLEN : ℕ := 100

instance neZero_three : NeZero 3 := ⟨by decide⟩

theorem command_lt (flag : Fin 3) : flag.1 < 3 := flag.2

def MS_Set_Command : Vector UInt8 3 := #v['A'.toUInt8, 'E'.toUInt8, 'G'.toUInt8]
def MS_Get_Command : Vector UInt8 3 := #v['B'.toUInt8, 'F'.toUInt8, 'I'.toUInt8]

/-- A command as the main thread issues it. -/
inductive Command where
  | SetData (flag : Fin 3) (zf_list : List UInt8) (len : ℕ)
  | GetData (flag : Fin 3) (choose : ℕ)
  | open_valve
deriving DecidableEq

/-- A result of `get_uart_flag`, with the latest command and the bytes read since then. -/
structure Returned where
  flag : ℕ
  latest : Option Command
  rx : List UInt8

/-- The statics of the file.  The fields from `latest` on are history, which nothing reads back:
the latest command, the bytes read since its function was entered, the bytes read since `data_len`
was last set to `0`, each with the value of `uart_commend` it met, what was sent, and the results
of `get_uart_flag`. -/
structure Uart where
  data_end : ℕ
  data_len : ℕ
  uart_timeot : ℕ
  uart_flag : ℕ
  uart_commend : UInt8
  data : Vector UInt8 100
  uart_get_data : ℕ
  fs_data : Vector UInt8 40
  no_digit : UInt8 → UInt8
  F_addr : UInt8
  latest : Option Command
  rx : List UInt8
  window : List (UInt8 × UInt8)
  sent : List (List UInt8)
  returned : List Returned

def number_hex (number : UInt8) : UInt8 :=
  if 10 ≤ number then number - 10 + 'A'.toUInt8 else number + '0'.toUInt8

def hex_number (no_digit : UInt8 → UInt8) (hex : UInt8) : UInt8 :=
  if 'A'.toUInt8 ≤ hex ∧ hex ≤ 'F'.toUInt8 then hex - 'A'.toUInt8 + 10
  else if 'a'.toUInt8 ≤ hex ∧ hex ≤ 'f'.toUInt8 then hex - 'a'.toUInt8 + 10
  else if '0'.toUInt8 ≤ hex ∧ hex ≤ '9'.toUInt8 then hex - '0'.toUInt8
  else no_digit hex

/-! ### Reading a frame

The functions of this section take the frame as a function of the index. -/

/-- The sum of bytes `1` to `len - 4`. -/
def hex_check (data : ℕ → UInt8) (len : ℕ) : ℕ :=
  (List.range (len - 4)).foldl (fun h i => (h + (data (i + 1)).toNat) % 0x100) 0

def check_ok (data : ℕ → UInt8) (len : ℕ) : Bool :=
  data (len - 1) = '*'.toUInt8 ∧
    data (len - 3) = number_hex (UInt8.ofNat (hex_check data len / 0x10)) ∧
    data (len - 2) = number_hex (UInt8.ofNat (hex_check data len % 0x10))

/-- The number in the payload of an answer `B` or `F`. -/
def hex_value (no_digit : UInt8 → UInt8) (data : ℕ → UInt8) (len : ℕ) : ℕ :=
  (List.range (len - 6)).foldl (fun v i =>
    let v := (v + (hex_number no_digit (data (3 + i))).toNat) % 0x100000000
    if i < len - 7 then v * 0x10 % 0x100000000 else v) 0

def bit_set (digit : UInt8) (mask value : ℕ) : ℕ := if digit.toNat &&& mask ≠ 0 then value else 0

/-- The status word of the short answer `I`, made from one digit. -/
def status8 (d4 : UInt8) : ℕ := bit_set d4 0x01 0x01 ||| bit_set d4 0x02 0x02

/-- The status word of the long answer `I`. -/
def status11 (d4 d5 d6 d7 : UInt8) : ℕ :=
  bit_set d4 0x01 0x01 ||| bit_set d4 0x02 0x02 ||| bit_set d5 0x01 0x04 |||
    bit_set d6 0x01 0x08 ||| bit_set d6 0x02 0x10 ||| bit_set d6 0x04 0x20 |||
    bit_set d6 0x08 0x40 ||| bit_set d7 0x01 0x80 ||| bit_set d7 0x02 0x100 |||
    bit_set d7 0x04 0x200

namespace Uart

def start (no_digit : UInt8 → UInt8) (F_addr : UInt8) : Uart where
  data_end := 0
  data_len := 0
  uart_timeot := 0
  uart_flag := UART_WAIT
  uart_commend := 0
  data := Vector.replicate 100 0
  uart_get_data := 0
  fs_data := Vector.ofFn fun i => ("@AB83*".toList.map Char.toUInt8).getD i.1 0
  no_digit := no_digit
  F_addr := F_addr
  latest := none
  rx := []
  window := []
  sent := []
  returned := []

/-! ### The receive thread -/

def byte (s : Uart) (i : ℕ) : UInt8 := s.data.toList.getD i 0

def digit (s : Uart) (i : ℕ) : UInt8 := hex_number s.no_digit (s.byte i)

/-- The branch for the letter `I`: the digits are converted in place. -/
def parse_status (s : Uart) : Uart :=
  if s.data_len = 8 then
    { s with
      data := s.data.set 4 (s.digit 4)
      uart_get_data := status8 (s.digit 4) }
  else if s.data_len = 11 then
    { s with
      data := (((s.data.set 4 (s.digit 4)).set 5 (s.digit 5)).set 6 (s.digit 6)).set 7 (s.digit 7)
      uart_get_data := status11 (s.digit 4) (s.digit 5) (s.digit 6) (s.digit 7) }
  else s

def parse_command (s : Uart) : Uart :=
  if s.byte 2 = 'A'.toUInt8 ∨ s.byte 2 = 'E'.toUInt8 ∨ s.byte 2 = 'G'.toUInt8 then
    { s with uart_flag := if s.byte 3 = '0'.toUInt8 then UART_READ_OK else UART_ERROR_DATA }
  else if s.byte 2 = 'B'.toUInt8 ∨ s.byte 2 = 'F'.toUInt8 then
    { s with
      uart_flag := UART_READ_OK
      uart_get_data := hex_value s.no_digit s.byte s.data_len }
  else if s.byte 2 = 'I'.toUInt8 then { s with uart_flag := UART_READ_OK }.parse_status
  else if s.byte 2 = 'R'.toUInt8 then
    { s with
      uart_flag := UART_READ_OK
      uart_get_data := (s.byte (s.data_len - 4)).toNat }
  else s

def my_data_parsing (s : Uart) : Uart :=
  { (if check_ok s.byte s.data_len then s.parse_command
    else { s with uart_flag := UART_ERROR_DATA }) with uart_timeot := 0 }

/-- The byte is stored at `data_len`: three header bytes, then everything. -/
def is_stored (s : Uart) (ch : UInt8) : Bool :=
  (s.data_len = 0 ∧ ch = '@'.toUInt8) ∨ (s.data_len = 1 ∧ ch = 'A'.toUInt8) ∨ 3 ≤ s.data_len ∨
    (s.data_len = 2 ∧ ch = s.uart_commend)

/-- `data[data_len++] = ch`. -/
def store (s : Uart) (ch : UInt8) : Option Uart :=
  if h : s.data_len < 100 then
    some { s with
      data := s.data.set s.data_len ch
      data_len := (s.data_len + 1) % 0x100
      uart_timeot := 10 }
  else none

/-- The history of a byte read. -/
def see (s : Uart) (ch : UInt8) : Uart :=
  { s with
    rx := s.rx ++ [ch]
    window := if s.data_end ≠ 0 then s.window ++ [(ch, s.uart_commend)] else s.window }

/-- One turn of the receive thread. -/
def data_parsing (ch : UInt8) (s : Uart) : Option Uart :=
  let s := s.see ch
  if s.data_end ≠ 0 then
    (if s.is_stored ch then s.store ch else some s).map fun s =>
      if s.data_len = s.data_end then s.my_data_parsing else s
  else some s

/-! ### The timeout thread -/

/-- One turn of the timeout thread. -/
def data_timeout_parsing (s : Uart) : Uart :=
  let s := if s.uart_timeot ≠ 0 then { s with uart_timeot := s.uart_timeot - 1 } else s
  if s.uart_flag = UART_WAIT ∧ s.uart_timeot = 0 then { s with uart_flag := UART_ERROR_TIMEOUT }
  else s

/-! ### Issuing a command -/

/-- Bytes stored in `fs_data` from index `k` on. -/
def put (s : Uart) (k : ℕ) (bs : List UInt8) : Uart :=
  { s with fs_data := (bs.zipIdx k).foldl (fun buf b => buf.setIfInBounds b.2 b.1) s.fs_data }

/-- The sum of `n` bytes of `fs_data` from index `2` on, as two digits. -/
def check_digits (s : Uart) (n : ℕ) : List UInt8 :=
  let number := (List.range n).foldl
    (fun h i => (h + (s.fs_data.toList.getD (2 + i) 0).toNat) % 0x100) 0
  [number_hex (UInt8.ofNat (number / 0x10)), number_hex (UInt8.ofNat (number % 0x10))]

/-- `rt_device_write(serial, 0, fs_data, k)`. -/
def device_write (s : Uart) (k : ℕ) : Uart := { s with sent := s.fs_data.toList.take k :: s.sent }

/-- The function of the command `c` is entered. -/
def enter (s : Uart) (c : Command) : Uart := { s with latest := some c, rx := [] }

def reset_len (s : Uart) : Uart := { s with data_len := 0, window := [] }

section put
variable (s : Uart) (k : ℕ) (bs : List UInt8)

@[simp] theorem put_data_end : (s.put k bs).data_end = s.data_end := rfl
@[simp] theorem put_data_len : (s.put k bs).data_len = s.data_len := rfl
@[simp] theorem put_uart_flag : (s.put k bs).uart_flag = s.uart_flag := rfl
@[simp] theorem put_uart_commend : (s.put k bs).uart_commend = s.uart_commend := rfl
@[simp] theorem put_data : (s.put k bs).data = s.data := rfl
@[simp] theorem put_uart_get_data : (s.put k bs).uart_get_data = s.uart_get_data := rfl
@[simp] theorem put_no_digit : (s.put k bs).no_digit = s.no_digit := rfl
@[simp] theorem put_latest : (s.put k bs).latest = s.latest := rfl
@[simp] theorem put_rx : (s.put k bs).rx = s.rx := rfl
@[simp] theorem put_window : (s.put k bs).window = s.window := rfl
@[simp] theorem put_returned : (s.put k bs).returned = s.returned := rfl

@[simp] theorem device_write_data_end : (s.device_write k).data_end = s.data_end := rfl
@[simp] theorem device_write_data_len : (s.device_write k).data_len = s.data_len := rfl
@[simp] theorem device_write_uart_flag : (s.device_write k).uart_flag = s.uart_flag := rfl
@[simp] theorem device_write_uart_commend : (s.device_write k).uart_commend = s.uart_commend := rfl
@[simp] theorem device_write_data : (s.device_write k).data = s.data := rfl
@[simp] theorem device_write_uart_get_data : (s.device_write k).uart_get_data = s.uart_get_data := rfl
@[simp] theorem device_write_no_digit : (s.device_write k).no_digit = s.no_digit := rfl
@[simp] theorem device_write_latest : (s.device_write k).latest = s.latest := rfl
@[simp] theorem device_write_rx : (s.device_write k).rx = s.rx := rfl
@[simp] theorem device_write_window : (s.device_write k).window = s.window := rfl
@[simp] theorem device_write_returned : (s.device_write k).returned = s.returned := rfl

end put

end Uart

open Uart

/-- `zf_list[i] - 100` in 32 bits. -/
def cell_number (zf_list : List UInt8) (i : ℕ) : ℕ :=
  ((zf_list.getD i 0).toNat + 0x100000000 - 100) % 0x100000000

/-- The number that `my_uart_SetData` sends: the decimal digits, or the time in half seconds. -/
def list_number (flag : Fin 3) (zf_list : List UInt8) (len : ℕ) : ℕ :=
  if flag ≠ 2 then
    (List.range len).foldl (fun n i =>
      let n := (n + cell_number zf_list (i + 1)) % 0x100000000
      if i ≠ len - 1 then n * 10 % 0x100000000 else n) 0
  else
    (cell_number zf_list 1 * 36000 + cell_number zf_list 2 * 3600 + cell_number zf_list 4 * 600 +
      cell_number zf_list 5 * 60 + cell_number zf_list 7 * 10 + cell_number zf_list 8) * 2
      % 0x100000000

/-- The `len` lowest hexadecimal digits of `n`, the highest first; the C loop fills them in from
the lowest. -/
def hex_digits : ℕ → ℕ → List UInt8
  | 0, _ => []
  | len + 1, n => hex_digits len (n / 0x10) ++ [number_hex (UInt8.ofNat (n % 0x10))]

def frame_header (letter : UInt8) : List UInt8 := [0xff, '@'.toUInt8, 'A'.toUInt8, letter]

def my_uart_SetData (flag : Fin 3) (zf_list : List UInt8) (len : ℕ) : Prog Uart := .block [
  .act fun s => s.enter (.SetData flag zf_list len),
  .act fun s => s.put 0 (frame_header MS_Set_Command[flag]),
  .act fun s => { s with uart_commend := MS_Set_Command[flag] },
  .act fun s => s.put 4 (hex_digits (len - 1) (list_number flag zf_list len)),
  .act fun s => s.put (len + 3) (s.check_digits (len + 1)),
  .act fun s => s.put (len + 5) ['*'.toUInt8, 0x0D],
  .act fun s => s.device_write (len + 7),
  .act reset_len,
  .act fun s => { s with data_end := 7 },
  .act fun s => { s with uart_flag := UART_WAIT },
  .act fun s => { s with uart_timeot := 40 }]

/-- The length of the answer, for the C function's own three cases of `flag`. -/
def get_data_end (flag : Fin 3) (choose : ℕ) : ℕ :=
  if flag = 0 then if choose = 0 then 12 else 14
  else if flag = 1 then 12
  else if choose = 0 then 8 else 11

def my_uart_GetData (flag : Fin 3) (choose : ℕ) : Prog Uart := .block [
  .act fun s => s.enter (.GetData flag choose),
  .act fun s => s.put 0 (frame_header MS_Get_Command[flag]),
  .act fun s => { s with uart_commend := MS_Get_Command[flag] },
  .act fun s => s.put 6 ['*'.toUInt8, 0x0D],
  .act fun s => s.put 4 (s.check_digits 2),
  .act fun s => { s with data_end := get_data_end flag choose },
  .act reset_len,
  .act fun s => { s with uart_flag := UART_WAIT },
  .act fun s => { s with uart_timeot := 80 },
  .act fun s => s.device_write 8]

def ms_open_valve : Prog Uart := .block [
  .act fun s => s.enter .open_valve,
  .act fun s => s.put 0 (frame_header 'R'.toUInt8),
  .act fun s => { s with uart_commend := 'R'.toUInt8 },
  .act fun s => s.put 4 ['0'.toUInt8],
  -- `"F"` for `'F'`: the address of the string is stored, cut to a byte.
  .act fun s => s.put 5 (List.replicate 24 s.F_addr),
  .act fun s => s.put 29 (s.check_digits 27),
  .act fun s => s.put 31 ['*'.toUInt8, 0x0D],
  .act reset_len,
  .act fun s => { s with data_end := 33 },
  .act fun s => { s with uart_flag := UART_WAIT },
  .act fun s => { s with uart_timeot := 120 },
  .act fun s => s.device_write 33]

def get_UartData (s : Uart) : ℕ := s.uart_get_data

/-- Wait until the timer has run down, then return the flag. -/
def get_uart_flag : Prog Uart := .block [
  .loop (fun s => s.uart_timeot ≠ 0) .skip,
  .act fun s => { s with returned := ⟨s.uart_flag, s.latest, s.rx⟩ :: s.returned }]

namespace Command

def issue : Command → Prog Uart
  | SetData flag zf_list len => my_uart_SetData flag zf_list len
  | GetData flag choose => my_uart_GetData flag choose
  | open_valve => ms_open_valve

/-- The letter of the command, which its answer repeats. -/
def letter : Command → UInt8
  | SetData flag _ _ => MS_Set_Command[flag]
  | GetData flag _ => MS_Get_Command[flag]
  | open_valve => 'R'.toUInt8

/-- The length of the answer. -/
def answer_len : Command → ℕ
  | SetData _ _ _ => 7
  | GetData flag choose => get_data_end flag choose
  | open_valve => 33

end Command

/-! ### The threads together -/

/-- What the main thread does with the line. -/
inductive Use where
  | issue (c : Command)
  | get_uart_flag

def Use.prog : Use → Prog Uart
  | issue c => c.issue
  | get_uart_flag => MeterTester.get_uart_flag

/-- A main thread that makes the calls `uses` one after the other. -/
def main_thread (uses : List Use) : Prog Uart := .block (uses.map Use.prog)

/-- What the other two threads may do between two statements of the main thread. -/
inductive Interference : Uart → Uart → Prop
  | data_parsing (ch : UInt8) {s s' : Uart} : s.data_parsing ch = some s' → Interference s s'
  | data_timeout_parsing (s : Uart) : Interference s s.data_timeout_parsing

/-- The bytes that the receiver waits for, each compared with the letter then in force. -/
def header : List (UInt8 × UInt8 → Bool) :=
  [fun b => b.1 = '@'.toUInt8, fun b => b.1 = 'A'.toUInt8, fun b => b.1 = b.2]

end MeterTester
