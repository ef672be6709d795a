import MeterTester.SerialFile
import MeterTester.UartFrame

/-! # The serial that is read back

The test writes the digits of a serial to the meter, reads them back and compares numbers.  On the
way the digits become a number in 32 bits, hexadecimal digits one fewer than the decimal ones, the
number of the meter, six or eight hexadecimal digits, and a number again.  `MSID_read_back`: for a
meter that answers with the number it has been given, the comparison never fails. -/

namespace MeterTester

open Interleave Uart Dfs Numeral

/-! ### The meter -/

/-- The value of a hexadecimal digit. -/
def hex_char (ch : UInt8) : ℕ := if ch ≤ '9'.toUInt8 then ch.toNat - 48 else ch.toNat - 55

/-- The number that the meter takes from a frame: the payload, between the four bytes of the header
and the four bytes of the end. -/
def meter_number (bytes : List UInt8) : ℕ :=
  value 0x10 (((bytes.drop 4).take (bytes.length - 8)).map hex_char)

/-- The answer `B` of a meter with the number `n`, zero-padded to the length that is expected. -/
def MSID_answer (choose n : ℕ) : List UInt8 :=
  body_of 'B'.toUInt8 (hex_digits (get_data_end 0 choose - 6) n)

theorem hex_char_number_hex {d : ℕ} (h : d < 0x10) : hex_char (number_hex (UInt8.ofNat d)) = d := by
  interval_cases d <;> rfl

theorem hex_number_number_hex (no_digit : UInt8 → UInt8) {d : ℕ} (h : d < 0x10) :
    (hex_number no_digit (number_hex (UInt8.ofNat d))).toNat = d := by
  interval_cases d <;> rfl

/-- The digits of a number show it, up to their length. -/
theorem value_hex_digits (g : UInt8 → ℕ) (hg : ∀ d < 0x10, g (number_hex (UInt8.ofNat d)) = d)
    (len n : ℕ) : value 0x10 ((hex_digits len n).map g) = n % 0x10 ^ len := by
  have hmap : (hex_digits len n).map g = digits 0x10 len n := by
    rw [hex_digits_eq, List.map_map]
    exact (List.map_congr_left fun d hd => hg d (digits_lt (by decide) len n d hd)).trans
      (List.map_id _)
  rw [hmap, value_digits]

theorem meter_number_frame_of (letter : UInt8) (len n : ℕ) :
    meter_number (frame_of letter (hex_digits len n)) = n % 0x10 ^ len := by
  have hpayload : ((frame_of letter (hex_digits len n)).drop 4).take
      ((frame_of letter (hex_digits len n)).length - 8) = hex_digits len n := by
    have hlen : (frame_of letter (hex_digits len n)).length - 8 = (hex_digits len n).length := by
      simp [frame_of, frame_header, sum_digits]
    rw [hlen, frame_of, List.append_assoc, List.append_assoc]
    exact List.take_left' rfl
  rw [meter_number, hpayload]
  exact value_hex_digits hex_char (fun d hd => hex_char_number_hex hd) len n

section answer
variable {choose : ℕ} (n : ℕ)

theorem MSID_answer_valid : ValidAnswer (.GetData 0 choose) (MSID_answer choose n) := by
  obtain ⟨k, hk⟩ : ∃ k, get_data_end 0 choose = k + 6 :=
    ⟨get_data_end 0 choose - 6, by have := get_data_end_ge 0 choose; omega⟩
  have hlen : (MSID_answer choose n).length = k + 6 := by simp [MSID_answer, hk]
  have hchecks := body_of_checks 'B'.toUInt8 (hex_digits (get_data_end 0 choose - 6) n)
  rw [hex_digits_length, hk, Nat.add_sub_cancel] at hchecks
  refine ⟨hlen.trans hk.symm, rfl, ?_, ?_, ?_, fun h => by cases h⟩ <;>
    rw [hlen, MSID_answer, hk, Nat.add_sub_cancel]
  · exact hchecks.2.1
  · exact hchecks.2.2
  · exact hchecks.1

/-- The receiver gets the number, if the answer is long enough for it. -/
theorem MSID_answer_value (no_digit : UInt8 → UInt8) (hn : n < 0x10 ^ (get_data_end 0 choose - 6))
    (h32 : n < 0x100000000) : answer_value no_digit 0 choose (MSID_answer choose n) = n := by
  have hpayload : ((MSID_answer choose n).drop 3).take ((MSID_answer choose n).length - 6) =
      hex_digits (get_data_end 0 choose - 6) n := by
    rw [MSID_answer, body_of_length, Nat.add_sub_cancel, body_of, List.drop_succ_cons,
      List.drop_succ_cons, List.drop_succ_cons, List.drop_zero, List.append_assoc]
    exact List.take_left' rfl
  have hvalue := value_hex_digits (fun ch => (hex_number no_digit ch).toNat)
    (fun d hd => hex_number_number_hex no_digit hd) (get_data_end 0 choose - 6) n
  rw [value, List.foldl_map, Nat.mod_eq_of_lt hn] at hvalue
  show payload_value no_digit (MSID_answer choose n) = n
  rw [payload_value, hpayload, hvalue, Nat.mod_eq_of_lt h32]

end answer

/-! ### Writing and reading back -/

section numbers
variable {zf_list : Vector UInt8 10} {len : ℕ} (h1 : 1 ≤ len) (h8 : len ≤ 8)
  (hlt : ∀ b ∈ cells zf_list len, b - 100 < 10)
include h1 h8 hlt

/-- The number that is sent and the number that the test compares are the decimal number. -/
theorem list_numbers :
    list_number 0 zf_list.toList len = number_of ((cells zf_list len).map (· - 100)) ∧
      list_value zf_list len = number_of ((cells zf_list len).map (· - 100)) := by
  obtain ⟨hdigit, hvalue⟩ := cell_numbers (by omega) hlt
  have hpow : 10 ^ len ≤ 10 ^ 8 := Nat.pow_le_pow_right (by decide) h8
  have hbound := value_range_lt hdigit le_rfl
  constructor
  · refine foldl_value (b := 10) (N := 0x100000000) hdigit (by omega)
      (fun n i hi => if_pos (by omega)) h1 fun n hn => ?_
    rw [if_neg (by simp), hn, hvalue, Nat.mod_eq_of_lt (by omega)]
  · refine foldl_value (b := 10) (N := 0x100000000) hdigit (by omega)
      (fun n i hi => if_pos (by omega)) h1 fun n hn => ?_
    rw [if_neg (lt_irrefl _), hn, hvalue, Nat.mod_eq_of_lt (by omega)]

theorem list_value_lt : list_value zf_list len < 10 ^ len := by
  obtain ⟨hdigit, hvalue⟩ := cell_numbers (by omega) hlt
  rw [(list_numbers h1 h8 hlt).2, ← hvalue]
  exact value_range_lt hdigit le_rfl

end numbers

/-- The cells of a digit list hold digits. -/
def IsDigits (zf_list : Vector UInt8 10) (len : ℕ) : Prop :=
  ∀ i (_ : i < 10), 1 ≤ i → i ≤ len → 100 ≤ zf_list[i] ∧ zf_list[i] ≤ 109

theorem IsDigits.cells_lt {zf_list : Vector UInt8 10} {len : ℕ} (h9 : len ≤ 9)
    (h : IsDigits zf_list len) : ∀ b ∈ cells zf_list len, b - 100 < 10 := by
  intro b hb
  rw [cells_eq_range _ h9] at hb
  obtain ⟨i, hi, rfl⟩ := List.mem_map.mp hb
  have hi : i < len := List.mem_range.mp hi
  obtain ⟨hge, hle⟩ := h (i + 1) (by omega) (by omega) (by omega)
  have hget : zf_list.toList.getD (i + 1) 0 = zf_list[i + 1] := by
    simp [show i + 1 < 10 by omega]
  rw [hget]
  generalize zf_list[i + 1] = x at hge hle
  have hge : 100 ≤ x.toNat := hge
  have hle : x.toNat ≤ 109 := hle
  have hsub : (x - 100).toNat = (256 - 100 + x.toNat) % 256 := UInt8.toNat_sub x 100
  show (x - 100).toNat < 10
  omega

/-- **The serial is read back**: a meter that takes the number of the frame it is sent, and answers
with this number, is understood, and the number is the one that the test expects. -/
theorem MSID_read_back {choose : ℕ} (hc : choose < 3) {zf_list : Vector UInt8 10}
    (hz : IsDigits zf_list (serial_len choose)) {s s' : Uart}
    (h : Reach Interference (my_uart_SetData 0 zf_list.toList (serial_len choose)) s .skip s')
    (s₀ : Uart) : ∃ bytes, s'.sent = bytes :: s.sent ∧ ∃ t,
      ((my_uart_GetData 0 choose).exec 0 s₀).bind
        (feed (MSID_answer choose (meter_number bytes))) = some t ∧
      t.uart_flag = UART_READ_OK ∧ get_UartData t = list_value zf_list (serial_len choose) := by
  have hlen := serial_len_bounds choose
  have hlt := hz.cells_lt (by omega)
  obtain ⟨hnumber, hvalue⟩ := list_numbers hlen.1 hlen.2 hlt
  have hn := list_value_lt hlen.1 hlen.2 hlt
  -- the decimal number has room in the frame and in the answer
  have hroom : 10 ^ serial_len choose ≤ 0x10 ^ (serial_len choose - 1) ∧
      10 ^ serial_len choose ≤ 0x10 ^ (get_data_end 0 choose - 6) ∧
      10 ^ serial_len choose ≤ 0x100000000 := by
    interval_cases choose <;> decide
  have hsent := (my_uart_SetData_sent 0 zf_list.toList hlen.1 (by omega) s ⟨by simp, rfl, rfl⟩
    .skip s' h).2 rfl
  have hmeter : meter_number (frame_of MS_Set_Command[(0 : Fin 3)] (hex_digits
      (serial_len choose - 1) (list_number 0 zf_list.toList (serial_len choose)))) =
      list_value zf_list (serial_len choose) := by
    rw [meter_number_frame_of, hnumber, ← hvalue]
    exact Nat.mod_eq_of_lt (lt_of_lt_of_le hn hroom.1)
  refine ⟨_, hsent.sent, ?_⟩
  rw [hmeter]
  have hvalid : ValidAnswer (.GetData 0 choose)
      (MSID_answer choose (list_value zf_list (serial_len choose))) := MSID_answer_valid _
  obtain ⟨t, ht, hok, hget⟩ := resync_of_no_at (w := []) s₀ hvalid (by simp)
  refine ⟨t, ht, hok, ?_⟩
  rw [hget 0 choose rfl]
  exact MSID_answer_value _ s₀.no_digit (lt_of_lt_of_le hn hroom.2.1) (lt_of_lt_of_le hn hroom.2.2)

/-- The highest serial of the long ones. -/
theorem MSID_read_back_highest : ∃ s', (my_uart_SetData 0
      [8, 109, 109, 109, 109, 109, 109, 109, 109, 100] 8).exec 0 (Uart.start id 0) = some s' ∧
    ∃ bytes, s'.sent = [bytes] ∧ ∃ t,
      ((my_uart_GetData 0 1).exec 0 s').bind (feed (MSID_answer 1 (meter_number bytes))) = some t ∧
      t.uart_flag = UART_READ_OK ∧
      get_UartData t = list_value #v[8, 109, 109, 109, 109, 109, 109, 109, 109, 100] 8 := by
  obtain ⟨s', hs⟩ : ∃ s', (my_uart_SetData 0
      [8, 109, 109, 109, 109, 109, 109, 109, 109, 100] 8).exec 0 (Uart.start id 0) = some s' :=
    ⟨_, rfl⟩
  have hz : IsDigits #v[8, 109, 109, 109, 109, 109, 109, 109, 109, 100] (serial_len 1) := by
    unfold IsDigits
    decide
  exact ⟨s', hs, MSID_read_back (by decide) hz (exec_reach hs) s'⟩

end MeterTester
