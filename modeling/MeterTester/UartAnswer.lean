import MeterTester.UartBound

/-! # Answers of the meter

A valid answer to a command repeats its header and letter, has the length the command waits for
and ends in two check digits and `*`; the answer to a set command reports the status `0`
(`ValidAnswer`).  `my_data_parsing` reports success exactly for the valid answers and delivers
their value (`my_data_parsing_answer`).

After a command the receive thread compares the first answer-length bytes that the scattered
header scan keeps, and nothing after them (`Listening`, `Answered`).  So a valid answer behind
noise gets through exactly when the bytes kept of noise and answer together begin with a valid
answer of the same value and stay inside the buffer (`resync_iff`); the noise may have spoiled the
header that the scan has completed before the answer begins. -/

namespace MeterTester

open Interleave HeaderScan Uart

/-! ### Valid answers -/

def Command.is_set : Command → Bool
  | .SetData _ _ _ => true
  | _ => false

/-- The sum modulo 256 of the bytes from the second to the last of the payload. -/
def checksum (f : List UInt8) : ℕ := (((f.drop 1).take (f.length - 4)).map UInt8.toNat).sum % 0x100

structure ValidAnswer (c : Command) (f : List UInt8) : Prop where
  length : f.length = c.answer_len
  header : f.take 3 = ['@'.toUInt8, 'A'.toUInt8, c.letter]
  check_high : f.getD (f.length - 3) 0 = number_hex (UInt8.ofNat (checksum f / 0x10))
  check_low : f.getD (f.length - 2) 0 = number_hex (UInt8.ofNat (checksum f % 0x10))
  star : f.getD (f.length - 1) 0 = '*'.toUInt8
  status : c.is_set = true → f.getD 3 0 = '0'.toUInt8

/-- The number in the payload, in 32 bits. -/
def payload_value (no_digit : UInt8 → UInt8) (f : List UInt8) : ℕ :=
  ((f.drop 3).take (f.length - 6)).foldl
    (fun v ch => v * 0x10 + (hex_number no_digit ch).toNat) 0 % 0x100000000

/-- The value that an answer to `my_uart_GetData flag choose` carries. -/
def answer_value (no_digit : UInt8 → UInt8) (flag : Fin 3) (choose : ℕ) (f : List UInt8) : ℕ :=
  let digit := fun i => hex_number no_digit (f.getD i 0)
  if flag = 2 then
    if choose = 0 then status8 (digit 4) else status11 (digit 4) (digit 5) (digit 6) (digit 7)
  else payload_value no_digit f

/-! ### What the parser computes -/

/-- A part of a list, read by index. -/
theorem take_drop_eq_map (f : List UInt8) {k m : ℕ} (h : k + m ≤ f.length) :
    (f.drop k).take m = (List.range m).map fun i => f.getD (k + i) 0 := by
  apply List.ext_getElem
  · simp only [List.length_take, List.length_drop, List.length_map, List.length_range]
    omega
  · intro i h₁ h₂
    have hi : i < m := by simpa using h₂
    simp only [List.getElem_take, List.getElem_drop, List.getElem_map, List.getElem_range]
    exact List.getElem_eq_getD 0

theorem foldl_add_mod (g : ℕ → ℕ) (m : ℕ) :
    (List.range m).foldl (fun h i => (h + g i) % 0x100) 0 =
      ((List.range m).map g).sum % 0x100 := by
  induction m with
  | zero => rfl
  | succ m ih =>
      rw [List.range_succ, List.foldl_append, List.map_append, List.sum_append, ih]
      simp only [List.foldl_cons, List.foldl_nil, List.map_cons, List.map_nil, List.sum_cons,
        List.sum_nil]
      omega

/-- A frame read by index is the list `f`. -/
def ReadAs (data : ℕ → UInt8) (f : List UInt8) : Prop := ∀ i, i < f.length → data i = f.getD i 0

theorem hex_check_eq {data : ℕ → UInt8} {f : List UInt8} (h : ReadAs data f)
    (hf : 4 ≤ f.length) : hex_check data f.length = checksum f := by
  unfold hex_check checksum
  rw [foldl_add_mod, take_drop_eq_map f (by omega), List.map_map]
  congr 2
  apply List.map_congr_left
  intro i hi
  have hi' := List.mem_range.mp hi
  rw [h (i + 1) (by omega), Function.comp_apply, Nat.add_comm i 1]

theorem check_ok_iff {data : ℕ → UInt8} {f : List UInt8} (h : ReadAs data f)
    (hf : 4 ≤ f.length) : check_ok data f.length = true ↔
      f.getD (f.length - 1) 0 = '*'.toUInt8 ∧
        f.getD (f.length - 3) 0 = number_hex (UInt8.ofNat (checksum f / 0x10)) ∧
        f.getD (f.length - 2) 0 = number_hex (UInt8.ofNat (checksum f % 0x10)) := by
  unfold check_ok
  rw [decide_eq_true_eq, hex_check_eq h hf, h (f.length - 1) (by omega),
    h (f.length - 3) (by omega), h (f.length - 2) (by omega)]

/-- The loop multiplies after every digit but the last. -/
theorem hex_value_fold (no_digit : UInt8 → UInt8) (data : ℕ → UInt8) (m k : ℕ) (h : k ≤ m) :
    (List.range k).foldl (fun v i =>
        let v := (v + (hex_number no_digit (data (3 + i))).toNat) % 0x100000000
        if i < m then v * 0x10 % 0x100000000 else v) 0 =
      (List.range k).foldl (fun v i => v * 0x10 + (hex_number no_digit (data (3 + i))).toNat) 0
        * 0x10 % 0x100000000 := by
  induction k with
  | zero => rfl
  | succ k ih =>
      rw [List.range_succ, List.foldl_append, List.foldl_append, ih (by omega)]
      simp only [List.foldl_cons, List.foldl_nil, if_pos (show k < m by omega)]
      omega

theorem hex_value_eq (no_digit : UInt8 → UInt8) {data : ℕ → UInt8} {f : List UInt8}
    (h : ReadAs data f) (hf : 7 ≤ f.length) :
    hex_value no_digit data f.length = payload_value no_digit f := by
  have hm : f.length - 6 = f.length - 7 + 1 := by omega
  unfold hex_value payload_value
  rw [take_drop_eq_map f (by omega), List.foldl_map, hm, List.range_succ, List.foldl_append,
    List.foldl_append, hex_value_fold no_digit data _ _ le_rfl]
  simp only [List.foldl_cons, List.foldl_nil, lt_irrefl, if_false]
  have hdigits : ∀ k, k ≤ f.length - 7 →
      (List.range k).foldl (fun v i => v * 0x10 + (hex_number no_digit (data (3 + i))).toNat) 0 =
        (List.range k).foldl
          (fun v i => v * 0x10 + (hex_number no_digit (f.getD (3 + i) 0)).toNat) 0 := by
    intro k hk
    apply List.foldl_ext
    intro v i hi
    have := List.mem_range.mp hi
    rw [h (3 + i) (by omega)]
  rw [hdigits _ le_rfl, h (3 + (f.length - 7)) (by omega)]
  omega

theorem set_letter (flag : Fin 3) :
    getElem MS_Set_Command flag (command_lt flag) = 'A'.toUInt8 ∨
      getElem MS_Set_Command flag (command_lt flag) = 'E'.toUInt8 ∨
      getElem MS_Set_Command flag (command_lt flag) = 'G'.toUInt8 := by
  revert flag
  decide

theorem get_letter {flag : Fin 3} (h : flag ≠ 2) :
    getElem MS_Get_Command flag (command_lt flag) = 'B'.toUInt8 ∨
      getElem MS_Get_Command flag (command_lt flag) = 'F'.toUInt8 := by
  revert flag
  decide

section parse_command
variable {s : Uart}

theorem parse_command_set (h : s.byte 2 = 'A'.toUInt8 ∨ s.byte 2 = 'E'.toUInt8 ∨
    s.byte 2 = 'G'.toUInt8) : s.parse_command =
      { s with
        uart_flag := if s.byte 3 = '0'.toUInt8 then UART_READ_OK else UART_ERROR_DATA } := by
  rw [parse_command, if_pos h]

theorem parse_command_get (h : s.byte 2 = 'B'.toUInt8 ∨ s.byte 2 = 'F'.toUInt8) :
    s.parse_command =
      { s with
        uart_flag := UART_READ_OK
        uart_get_data := hex_value s.no_digit s.byte s.data_len } := by
  rw [parse_command, if_neg (by rcases h with h | h <;> rw [h] <;> decide), if_pos h]

theorem parse_command_status (h : s.byte 2 = 'I'.toUInt8) :
    s.parse_command = { s with uart_flag := UART_READ_OK }.parse_status := by
  rw [parse_command, if_neg (by rw [h]; decide), if_neg (by rw [h]; decide), if_pos h]

theorem parse_command_valve (h : s.byte 2 = 'R'.toUInt8) :
    s.parse_command =
      { s with
        uart_flag := UART_READ_OK
        uart_get_data := (s.byte (s.data_len - 4)).toNat } := by
  rw [parse_command, if_neg (by rw [h]; decide), if_neg (by rw [h]; decide),
    if_neg (by rw [h]; decide), if_pos h]

end parse_command

theorem parse_status_flag (s : Uart) : s.parse_status.uart_flag = s.uart_flag := by
  unfold parse_status
  split_ifs <;> rfl

theorem answer_len_ge (c : Command) : 7 ≤ c.answer_len := by
  cases c with
  | SetData _ _ _ => exact le_rfl
  | GetData flag choose => exact get_data_end_ge flag choose
  | open_valve => decide

/-- **The parser accepts exactly the valid answers**, and delivers the value they carry. -/
theorem my_data_parsing_answer {c : Command} {s : Uart} {f : List UInt8}
    (hlen : f.length = c.answer_len) (hs : s.data_len = f.length) (hread : ReadAs s.byte f)
    (hheader : f.take 3 = ['@'.toUInt8, 'A'.toUInt8, c.letter]) :
    (s.my_data_parsing.uart_flag = UART_READ_OK ↔ ValidAnswer c f) ∧
      (ValidAnswer c f → ∀ flag choose, c = .GetData flag choose →
        s.my_data_parsing.uart_get_data = answer_value s.no_digit flag choose f) := by
  have h7 : 7 ≤ f.length := by rw [hlen]; exact answer_len_ge c
  have hletter : s.byte 2 = c.letter := by
    rw [hread 2 (by omega), List.getD_eq_getElem?_getD,
      ← List.getElem?_take_of_lt (show 2 < 3 by decide), hheader]
    rfl
  have hcheck := check_ok_iff hread (by omega)
  rw [← hs] at hcheck
  by_cases hok : check_ok s.byte s.data_len = true
  · obtain ⟨hstar, hhigh, hlow⟩ := hcheck.mp hok
    rw [hs] at hstar hhigh hlow
    have hvalid : ValidAnswer c f ↔ (c.is_set = true → f.getD 3 0 = '0'.toUInt8) :=
      ⟨fun h => h.status, fun h => ⟨hlen, hheader, hhigh, hlow, hstar, h⟩⟩
    rw [hvalid]
    simp only [my_data_parsing, if_pos hok]
    cases c with
    | SetData flag zf_list len =>
        rw [parse_command_set (by rw [hletter]; exact set_letter flag), hread 3 (by omega)]
        refine ⟨?_, fun _ _ _ h => by cases h⟩
        by_cases h0 : f.getD 3 0 = '0'.toUInt8
        · simp only [h0, if_true, implies_true]
        · simp only [h0, if_false, Command.is_set, UART_ERROR_DATA, UART_READ_OK]
          decide
    | GetData flag choose =>
        simp only [Command.is_set, Bool.false_eq_true, false_implies, iff_true]
        by_cases h2 : flag = 2
        · subst h2
          rw [parse_command_status (by rw [hletter]; rfl)]
          refine ⟨parse_status_flag _, ?_⟩
          rintro - flag' choose' ⟨⟩
          have hd : ∀ i, i < f.length →
              s.digit i = hex_number s.no_digit (f.getD i 0) := fun i hi => by
            rw [digit, hread i hi]
          have hd' : ∀ i, Uart.digit { s with uart_flag := UART_READ_OK } i = s.digit i :=
            fun _ => rfl
          have hl : s.data_len = if choose = 0 then 8 else 11 := by rw [hs, hlen]; rfl
          simp only [parse_status, answer_value, if_true, hd']
          by_cases hc : choose = 0
          · rw [if_pos hc] at hl ⊢
            simp only [hl, if_true, hd 4 (by omega)]
          · rw [if_neg hc] at hl ⊢
            simp only [hl, show (11 : ℕ) ≠ 8 by decide, if_true, if_false, hd 4 (by omega),
              hd 5 (by omega), hd 6 (by omega), hd 7 (by omega)]
        · rw [parse_command_get (by rw [hletter]; exact get_letter h2)]
          refine ⟨rfl, ?_⟩
          rintro - flag' choose' ⟨⟩
          simp only [answer_value, if_neg h2, hs]
          exact hex_value_eq s.no_digit hread h7
    | open_valve =>
        rw [parse_command_valve hletter]
        refine ⟨?_, fun _ _ _ h => by cases h⟩
        simp [Command.is_set]
  · have hbad : s.my_data_parsing.uart_flag = UART_ERROR_DATA := by
      simp only [my_data_parsing, if_neg hok]
    have hno : ¬ ValidAnswer c f := fun h => hok (hcheck.mpr (by
      rw [hs]
      exact ⟨h.star, h.check_high, h.check_low⟩))
    rw [hbad]
    exact ⟨⟨fun h => absurd h (by decide), fun h => absurd h hno⟩, fun h => absurd h hno⟩

/-! ### After a command -/

namespace Uart

/-- The bytes kept since `data_len` was last set to `0`. -/
def stored (s : Uart) : List UInt8 := (kept header s.window).map Prod.fst

theorem stored_length {s : Uart} (h : s.Counted) : s.stored.length = s.data_len := by
  rw [stored, List.length_map, h.len]

/-- The letter of the command `c` has been in force since `data_len` was last set to `0`, and the
buffer holds the bytes kept since then as long as the answer is incomplete.  The digits of a
status answer are overwritten when it is complete; no other answer is. -/
structure Receiving (c : Command) (s : Uart) : Prop where
  counted : s.Counted
  uart_commend : s.uart_commend = c.letter
  letters : ∀ b ∈ s.window, b.2 = c.letter
  exact : s.data_len < c.answer_len → ReadAs s.byte s.stored
  unspoiled : s.data_end = c.answer_len ∨ c.letter ≠ 'I'.toUInt8

/-- The header of the bytes kept. -/
theorem Receiving.stored_header {c : Command} {s : Uart} (h : s.Receiving c)
    (hlen : 3 ≤ s.data_len) : s.stored.take 3 = ['@'.toUInt8, 'A'.toUInt8, c.letter] := by
  obtain ⟨b₀, b₁, b₂, bs, hb⟩ : ∃ b₀ b₁ b₂ bs, kept header s.window = b₀ :: b₁ :: b₂ :: bs := by
    have hk := h.counted.len
    match hw : kept header s.window with
    | [] | [_] | [_, _] => simp [hw] at hk; omega
    | b₀ :: b₁ :: b₂ :: bs => exact ⟨b₀, b₁, b₂, bs, rfl⟩
  have h0 := kept_header header s.window 0 _ b₀ rfl (by rw [hb]; rfl)
  have h1 := kept_header header s.window 1 _ b₁ rfl (by rw [hb]; rfl)
  have h2 := kept_header header s.window 2 _ b₂ rfl (by rw [hb]; rfl)
  have hmem : b₂ ∈ s.window := (kept_sublist header s.window).subset (by rw [hb]; simp)
  simp only [decide_eq_true_eq] at h0 h1 h2
  rw [stored, hb]
  simp only [List.map_cons, List.take_succ_cons, List.take_zero, h0, h1, h2, h.letters _ hmem]

theorem byte_stored_at (s : Uart) (ch : UInt8) (h : s.data_len < 100) (i : ℕ) :
    (s.stored_at ch h).byte i = if i = s.data_len then ch else s.byte i := by
  unfold byte stored_at
  simp only [Vector.toList_set, List.getD_eq_getElem?_getD, List.getElem?_set]
  by_cases hi : s.data_len = i
  · rw [if_pos hi, if_pos hi.symm, if_pos (by simp; omega), Option.getD_some]
  · rw [if_neg hi, if_neg (Ne.symm hi)]

/-- Parsing leaves the buffer alone unless it holds a status answer. -/
theorem my_data_parsing_byte {s : Uart} (h : s.byte 2 ≠ 'I'.toUInt8) (i : ℕ) :
    s.my_data_parsing.byte i = s.byte i := by
  unfold my_data_parsing parse_command
  rw [if_neg h]
  split_ifs <;> rfl

section receiving
variable {c : Command} {s : Uart}

theorem stored_see_dropped (hs : s.Counted) {ch : UInt8}
    (hd : s.data_end = 0 ∨ s.is_stored ch = false) : (s.see ch).stored = s.stored := by
  rw [stored, kept_see hs, if_neg (by rcases hd with h | h <;> simp [h]), stored]

theorem stored_stored_at (hs : s.Counted) {ch : UInt8} (hlt : s.data_len < 100)
    (hd : s.is_stored ch = true) (h7 : 7 ≤ s.data_end) :
    (s.stored_at ch hlt).stored = s.stored ++ [ch] := by
  have hk := kept_see hs ch
  rw [if_pos ⟨by omega, hd⟩] at hk
  rw [stored, show (s.stored_at ch hlt).window = (s.see ch).window from rfl, hk, List.map_append]
  rfl

/-- One more byte in the buffer. -/
theorem readAs_stored_at (hs : s.Counted) {ch : UInt8} (hlt : s.data_len < 100)
    (h : ReadAs s.byte s.stored) : ReadAs (s.stored_at ch hlt).byte (s.stored ++ [ch]) := by
  have hl := stored_length hs
  intro i hi
  rw [byte_stored_at, List.getD_eq_getElem?_getD]
  by_cases he : i = s.data_len
  · rw [if_pos he, he, ← hl, List.getElem?_concat_length, Option.getD_some]
  · rw [List.length_append, List.length_singleton] at hi
    rw [if_neg he, List.getElem?_append_left (by omega), ← List.getD_eq_getElem?_getD]
    exact h i (by omega)

theorem see_letters (h : s.Receiving c) (ch : UInt8) : ∀ b ∈ (s.see ch).window, b.2 = c.letter := by
  intro b hb
  simp only [see] at hb
  split at hb
  · rcases List.mem_append.mp hb with hb | hb
    · exact h.letters b hb
    · rw [List.mem_singleton.mp hb]
      exact h.uart_commend
  · exact h.letters b hb

/-- The state in which a byte has been stored, before the test for the end of the answer. -/
theorem Receiving.stored_at (h : s.Receiving c) {ch : UInt8} (hlt : s.data_len < 100)
    (hd : s.is_stored ch = true) (h7 : 7 ≤ s.data_end) : (s.stored_at ch hlt).Receiving c where
  counted := by
    have hk := kept_see h.counted ch
    rw [if_pos ⟨by omega, hd⟩] at hk
    refine ⟨?_, hlt, .inr h7⟩
    simp only [Uart.stored_at, hk, List.length_append, List.length_singleton, h.counted.len]
  uart_commend := h.uart_commend
  letters := see_letters h ch
  exact := fun hl => by
    rw [stored_stored_at h.counted hlt hd h7]
    exact readAs_stored_at h.counted hlt (h.exact (Nat.lt_of_succ_lt hl))
  unspoiled := h.unspoiled

theorem Receiving.my_data_parsing (h : s.Receiving c) (hend : s.data_len = s.data_end)
    (h7 : 7 ≤ s.data_end) : s.my_data_parsing.Receiving c where
  counted := ⟨by simpa using h.counted.len, by simpa using h.counted.le,
    by simpa using h.counted.data_end⟩
  uart_commend := by simpa using h.uart_commend
  letters := by simpa using h.letters
  exact := fun hl => by
    rw [my_data_parsing_data_len] at hl
    have hread := h.exact hl
    have hletter : s.byte 2 = c.letter := by
      have hlen := stored_length h.counted
      rw [hread 2 (by omega), List.getD_eq_getElem?_getD,
        ← List.getElem?_take_of_lt (show 2 < 3 by decide), h.stored_header (by omega)]
      rfl
    have hI : s.byte 2 ≠ 'I'.toUInt8 := by
      rw [hletter]
      exact h.unspoiled.resolve_left (by omega)
    intro i hi
    rw [my_data_parsing_byte hI]
    simp only [stored, my_data_parsing_window] at hi ⊢
    exact hread i hi
  unspoiled := by simpa using h.unspoiled

theorem Receiving.data_parsing (h : s.Receiving c) {s' : Uart} {ch : UInt8}
    (hp : s.data_parsing ch = some s') : s'.Receiving c := by
  rcases data_parsing_cases h.counted hp with ⟨rfl, hd⟩ | ⟨hlt, hd, h7, rfl⟩
  · exact ⟨h.counted.data_parsing hp, h.uart_commend, see_letters h ch, fun hl => by
      rw [stored_see_dropped h.counted hd]
      exact h.exact hl, h.unspoiled⟩
  · have hs := h.stored_at hlt hd h7
    split_ifs with he
    · exact hs.my_data_parsing he h7
    · exact hs

/-- The receiver waits for the answer to `c`, and reports success only for a valid one. -/
structure Listening (c : Command) (s : Uart) : Prop extends Receiving c s where
  data_end : s.data_end = c.answer_len
  ok : s.uart_flag = UART_READ_OK →
    c.answer_len ≤ s.data_len ∧ ValidAnswer c (s.stored.take c.answer_len)

/-- The parser meets the bytes kept when they are as many as the answer has. -/
theorem Receiving.parse_answer (h : s.Receiving c) {ch : UInt8} (hlt : s.data_len < 100)
    (hd : s.is_stored ch = true) (he : s.data_len + 1 = c.answer_len) (h7 : 7 ≤ s.data_end) :
    ((s.stored_at ch hlt).my_data_parsing.uart_flag = UART_READ_OK ↔
        ValidAnswer c (s.stored ++ [ch])) ∧
      (ValidAnswer c (s.stored ++ [ch]) → ∀ flag choose, c = .GetData flag choose →
        (s.stored_at ch hlt).my_data_parsing.uart_get_data =
          answer_value s.no_digit flag choose (s.stored ++ [ch])) := by
  have hl := stored_length h.counted
  have hn := answer_len_ge c
  have hst := stored_stored_at h.counted hlt hd h7
  refine my_data_parsing_answer (s := s.stored_at ch hlt) ?_ ?_
    (readAs_stored_at h.counted hlt (h.exact (by omega))) ?_
  · rw [List.length_append, List.length_singleton, hl, he]
  · rw [List.length_append, List.length_singleton, hl]
    rfl
  · rw [← hst]
    exact (h.stored_at hlt hd h7).stored_header (by
      show 3 ≤ s.data_len + 1
      omega)

theorem Listening.data_parsing (h : s.Listening c) {s' : Uart} {ch : UInt8}
    (hp : s.data_parsing ch = some s') : s'.Listening c := by
  have hr := h.toReceiving.data_parsing hp
  rcases data_parsing_cases h.counted hp with ⟨rfl, hd⟩ | ⟨hlt, hd, h7, rfl⟩
  · refine ⟨hr, h.data_end, fun hok => ?_⟩
    rw [stored_see_dropped h.counted hd]
    exact h.ok hok
  · have hst := stored_stored_at h.counted hlt hd h7
    have hl := stored_length h.counted
    by_cases he : s.data_len + 1 = s.data_end
    · rw [if_pos he] at hr ⊢
      refine ⟨hr, by rw [my_data_parsing_data_end]; exact h.data_end, fun hok => ?_⟩
      have hv := (h.parse_answer hlt hd (by rw [he, h.data_end]) h7).1.mp hok
      rw [stored, my_data_parsing_window, ← stored, hst, my_data_parsing_data_len]
      refine ⟨by rw [← h.data_end, ← he]; exact le_rfl, ?_⟩
      rwa [List.take_of_length_le (by rw [hv.length])]
    · rw [if_neg he] at hr ⊢
      refine ⟨hr, h.data_end, fun hok => ?_⟩
      obtain ⟨hge, hv⟩ := h.ok hok
      refine ⟨Nat.le_succ_of_le hge, ?_⟩
      rwa [hst, List.take_append_of_le_length (by omega)]

/-- A complete valid answer has been reported with its value. -/
def Answered (c : Command) (s : Uart) : Prop :=
  c.answer_len ≤ s.data_len → ValidAnswer c (s.stored.take c.answer_len) →
    s.uart_flag = UART_READ_OK ∧ ∀ flag choose, c = .GetData flag choose →
      s.uart_get_data = answer_value s.no_digit flag choose (s.stored.take c.answer_len)

theorem Listening.answered (h : s.Listening c) (ha : s.Answered c) {s' : Uart} {ch : UInt8}
    (hp : s.data_parsing ch = some s') : s'.Answered c := by
  rcases data_parsing_cases h.counted hp with ⟨rfl, hd⟩ | ⟨hlt, hd, h7, rfl⟩
  · unfold Answered
    rw [stored_see_dropped h.counted hd]
    exact ha
  · have hst := stored_stored_at h.counted hlt hd h7
    have hl := stored_length h.counted
    by_cases he : s.data_len + 1 = s.data_end
    · rw [if_pos he]
      intro _ hv
      rw [stored, my_data_parsing_window, ← stored, hst,
        List.take_of_length_le (by rw [List.length_append, hl, ← h.data_end, ← he]; simp)] at hv ⊢
      obtain ⟨hflag, hvalue⟩ := h.parse_answer hlt hd (by rw [he, h.data_end]) h7
      refine ⟨hflag.mpr hv, fun flag choose hc => ?_⟩
      rw [my_data_parsing_no_digit]
      exact hvalue hv flag choose hc
    · rw [if_neg he]
      intro hge hv
      have hge' : c.answer_len ≤ s.data_len := by
        rw [← h.data_end] at hge ⊢
        exact Nat.le_of_lt_succ (lt_of_le_of_ne hge (Ne.symm he))
      rw [hst, List.take_append_of_le_length (by omega)] at hv ⊢
      exact ha hge' hv

end receiving

/-! ### Runs of bytes -/

theorem data_parsing_no_digit {s s' : Uart} (hs : s.Counted) {ch : UInt8}
    (h : s.data_parsing ch = some s') : s'.no_digit = s.no_digit := by
  rcases data_parsing_cases hs h with ⟨rfl, -⟩ | ⟨hlt, -, -, rfl⟩
  · rfl
  · split_ifs
    · rw [my_data_parsing_no_digit]
      rfl
    · rfl

theorem data_parsing_window {s s' : Uart} (hs : s.Counted) {ch : UInt8}
    (h : s.data_parsing ch = some s') : s'.window = (s.see ch).window := by
  rcases data_parsing_cases hs h with ⟨rfl, -⟩ | ⟨hlt, -, -, rfl⟩
  · rfl
  · split_ifs
    · rw [my_data_parsing_window]
      rfl
    · rfl

section listening
variable {c : Command}

theorem Listening.see_window {s : Uart} (h : s.Listening c) (ch : UInt8) :
    (s.see ch).window = s.window ++ [(ch, c.letter)] := by
  have hn := answer_len_ge c
  simp only [see, h.uart_commend]
  rw [if_pos (by rw [h.data_end]; omega)]

/-- What `xs` leaves behind. -/
theorem feed_listening (xs : List UInt8) {s s' : Uart} (h : s.Listening c) (ha : s.Answered c)
    (hf : s.feed xs = some s') : s'.Listening c ∧ s'.Answered c ∧ s'.no_digit = s.no_digit ∧
      s'.window = s.window ++ xs.map fun ch => (ch, c.letter) := by
  induction xs generalizing s with
  | nil =>
      cases hf
      exact ⟨h, ha, rfl, by simp⟩
  | cons ch xs ih =>
      rw [feed, List.foldlM_cons] at hf
      obtain ⟨s₁, h₁, h₂⟩ := Option.bind_eq_some_iff.mp hf
      obtain ⟨hl, ha', hd, hw⟩ := ih (h.data_parsing h₁) (h.answered ha h₁) h₂
      refine ⟨hl, ha', by rw [hd, data_parsing_no_digit h.counted h₁], ?_⟩
      rw [hw, data_parsing_window h.counted h₁, h.see_window, List.map_cons, List.append_assoc]
      rfl

/-- The bytes `xs` all have somewhere to go. -/
theorem isSome_feed (xs : List UInt8) {s : Uart} (h : s.Listening c) :
    (s.feed xs).isSome = true ↔
      (kept header (s.window ++ xs.map fun ch => (ch, c.letter))).length ≤ ONE_DATA_MAXLEN := by
  induction xs generalizing s with
  | nil =>
      have hle := h.counted.le
      rw [h.counted.len] at hle
      simpa [feed] using hle
  | cons ch xs ih =>
      have hone := h.counted.isSome_data_parsing ch
      rw [h.see_window] at hone
      rw [feed, List.foldlM_cons, List.map_cons, ← List.singleton_append, ← List.append_assoc]
      cases hp : s.data_parsing ch with
      | none =>
          have hlong : ONE_DATA_MAXLEN < (kept header (s.window ++ [(ch, c.letter)])).length := by
            rw [hp] at hone
            simpa using hone
          rw [kept_append, List.length_append]
          simp only [Option.bind_eq_bind, Option.bind_none, Option.isSome_none,
            Bool.false_eq_true, false_iff]
          omega
      | some s₁ =>
          have hrest := ih (h.data_parsing hp)
          rw [data_parsing_window h.counted hp, h.see_window] at hrest
          simpa [feed] using hrest

end listening

end Uart

open Uart

/-- The state in which an issue function returns. -/
theorem issue_exec (c : Command) (s₀ : Uart) : ∃ s, c.issue.exec 0 s₀ = some s ∧ s.Listening c ∧
    s.Answered c ∧ s.window = [] ∧ s.no_digit = s₀.no_digit := by
  have hn := answer_len_ge c
  have hexec : ∃ s, c.issue.exec 0 s₀ = some s ∧ s.data_len = 0 ∧ s.window = [] ∧
      s.data_end = c.answer_len ∧ s.uart_commend = c.letter ∧ s.uart_flag = UART_WAIT ∧
      s.no_digit = s₀.no_digit := by
    cases c with
    | SetData flag zf_list len =>
        refine ⟨_, rfl, ?_⟩
        simp [reset_len, enter, Command.answer_len, Command.letter]
    | GetData flag choose =>
        refine ⟨_, rfl, ?_⟩
        simp [reset_len, enter, Command.answer_len, Command.letter]
    | open_valve =>
        refine ⟨_, rfl, ?_⟩
        simp [reset_len, enter, Command.answer_len, Command.letter]
  obtain ⟨s, hs, hl, hw, he, hc, hf, hd⟩ := hexec
  refine ⟨s, hs, ⟨⟨⟨by simp [hl, hw], by simp [hl], .inr (by omega)⟩, hc, by simp [hw], ?_, .inl he⟩,
    he, ?_⟩, ?_, hw, hd⟩
  · intro _ i hi
    simp [stored, hw] at hi
  · intro hok
    rw [hf] at hok
    cases hok
  · intro hge
    omega

/-- The bytes that the receiver waits for after the command `c`. -/
def answer_header (c : Command) : List (UInt8 → Bool) :=
  [fun b => b = '@'.toUInt8, fun b => b = 'A'.toUInt8, fun b => b = c.letter]

/-- With one letter in force the tags of the window may be forgotten. -/
theorem stored_eq_kept {c : Command} {s : Uart} {xs : List UInt8}
    (h : s.window = xs.map fun ch => (ch, c.letter)) : s.stored = kept (answer_header c) xs := by
  rw [stored, h, kept_map, List.map_map]
  exact List.map_id _

/-- **Resynchronisation**: after the command `c` the bytes `w` and then `f` end with success, and
for a read command with the value of `f`, exactly when what the scattered header scan keeps of
them stays inside the buffer and begins with a valid answer, of the value of `f`. -/
theorem resync_iff (c : Command) (s₀ : Uart) (w f : List UInt8) :
    (∃ s, (c.issue.exec 0 s₀).bind (feed (w ++ f)) = some s ∧ s.uart_flag = UART_READ_OK ∧
        ∀ flag choose, c = .GetData flag choose →
          get_UartData s = answer_value s₀.no_digit flag choose f) ↔
      (kept (answer_header c) (w ++ f)).length ≤ ONE_DATA_MAXLEN ∧
        ValidAnswer c ((kept (answer_header c) (w ++ f)).take c.answer_len) ∧
        ∀ flag choose, c = .GetData flag choose →
          answer_value s₀.no_digit flag choose ((kept (answer_header c) (w ++ f)).take c.answer_len) =
            answer_value s₀.no_digit flag choose f := by
  obtain ⟨s₁, hs₁, hl, ha, hw, hd⟩ := issue_exec c s₀
  have hsome := isSome_feed (w ++ f) hl
  rw [hs₁, Option.bind_some]
  have hkept : (kept header (s₁.window ++ (w ++ f).map fun ch => (ch, c.letter))).length =
      (kept (answer_header c) (w ++ f)).length := by
    rw [hw, List.nil_append, kept_map, List.length_map]
    rfl
  rw [hkept] at hsome
  constructor
  · rintro ⟨s, hs, hflag, hvalue⟩
    obtain ⟨hl', ha', hd', hw'⟩ := feed_listening _ hl ha hs
    rw [hw, List.nil_append] at hw'
    obtain ⟨hge, hv⟩ := hl'.ok hflag
    have hv' := (ha' hge hv).2
    rw [stored_eq_kept hw'] at hv hv'
    refine ⟨hsome.mp (by rw [hs]; rfl), hv, fun flag choose hc => ?_⟩
    rw [← hvalue flag choose hc, get_UartData, hv' flag choose hc, hd', hd]
  · rintro ⟨hle, hv, hvalue⟩
    obtain ⟨s, hs⟩ := Option.isSome_iff_exists.mp (hsome.mpr hle)
    obtain ⟨hl', ha', hd', hw'⟩ := feed_listening _ hl ha hs
    rw [hw, List.nil_append] at hw'
    have hge : c.answer_len ≤ s.data_len := by
      have := hv.length
      rw [List.length_take] at this
      rw [← stored_length hl'.counted, stored_eq_kept hw']
      omega
    obtain ⟨hflag, hget⟩ := ha' hge (by rw [stored_eq_kept hw']; exact hv)
    refine ⟨s, hs, hflag, fun flag choose hc => ?_⟩
    rw [get_UartData, hget flag choose hc, stored_eq_kept hw', hd', hd]
    exact hvalue flag choose hc

theorem get_data_end_le (flag : Fin 3) (choose : ℕ) : get_data_end flag choose ≤ 14 := by
  unfold get_data_end
  split_ifs <;> decide

theorem answer_len_le (c : Command) : c.answer_len ≤ 33 := by
  cases c with
  | SetData _ _ _ => exact (by decide : 7 ≤ 33)
  | GetData flag choose => exact le_trans (get_data_end_le flag choose) (by decide)
  | open_valve => exact le_rfl

/-- A valid answer is kept whole. -/
theorem ValidAnswer.kept {c : Command} {f : List UInt8} (h : ValidAnswer c f) :
    kept (answer_header c) f = f := by
  have hf := List.take_append_drop 3 f
  rw [h.header] at hf
  rw [← hf]
  simp [answer_header, HeaderScan.kept, kept_no_header]

/-- Noise without `@` does no harm. -/
theorem resync_of_no_at {c : Command} {w f : List UInt8} (s₀ : Uart) (hf : ValidAnswer c f)
    (hw : '@'.toUInt8 ∉ w) :
    ∃ s, (c.issue.exec 0 s₀).bind (feed (w ++ f)) = some s ∧ s.uart_flag = UART_READ_OK ∧
      ∀ flag choose, c = .GetData flag choose →
        get_UartData s = answer_value s₀.no_digit flag choose f := by
  have hw' : kept (answer_header c) w = [] := kept_eq_nil _ fun x hx => by
    rw [decide_eq_false_iff_not]
    rintro rfl
    exact hw hx
  have hkept : kept (answer_header c) (w ++ f) = f := by
    rw [kept_append, hw', List.nil_append, List.length_nil, List.drop_zero, hf.kept]
  have hle := answer_len_le c
  rw [resync_iff, hkept, List.take_of_length_le (by rw [hf.length])]
  exact ⟨by rw [hf.length, ONE_DATA_MAXLEN]; omega, hf, fun _ _ _ => rfl⟩

/-- The answer `@AA0B2*` behind the noise `@A`: the letter `A` is taken from the second byte of
the answer, and the answer is rejected. -/
theorem not_resync_overlap :
    ValidAnswer (.SetData 0 (List.replicate 10 100) 6) ("@AA0B2*".toList.map Char.toUInt8) ∧
      (∀ i < 2, ¬ "@AA".toList.map Char.toUInt8 <+:
        ("@A@AA0B2*".toList.map Char.toUInt8).drop i) ∧
      ¬ ∃ s, ((Command.SetData 0 (List.replicate 10 100) 6).issue.exec 0 (Uart.start id 0)).bind
          (feed ("@A".toList.map Char.toUInt8 ++ "@AA0B2*".toList.map Char.toUInt8)) = some s ∧
        s.uart_flag = UART_READ_OK := by
  refine ⟨⟨by decide +kernel, by decide +kernel, by decide +kernel, by decide +kernel,
    by decide +kernel, by decide +kernel⟩, by decide +kernel, ?_⟩
  rintro ⟨s, hs, hok⟩
  have herror : (((Command.SetData 0 (List.replicate 10 100) 6).issue.exec 0 (Uart.start id 0)).bind
      (feed ("@A".toList.map Char.toUInt8 ++ "@AA0B2*".toList.map Char.toUInt8))).map
        uart_flag = some UART_ERROR_DATA := by decide +kernel
  rw [hs, Option.map_some, hok] at herror
  cases herror

end MeterTester
