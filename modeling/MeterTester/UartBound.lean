import MeterTester.Uart

/-! # The receive buffer

`data_len` counts what a scattered header scan keeps of the bytes read since it was last set to
`0`: three header bytes, then every byte (`Counted`).  Nothing stops the count behind a complete
answer, so a store stays inside `data` exactly as long as at most 97 bytes have arrived behind
the header (`stored_in_bounds_iff`). -/

namespace MeterTester

open Interleave HeaderScan

namespace Uart

/-! ### What the receive thread leaves alone -/

/-- Parsing an answer touches the flag, the timer, the value and the digits in the buffer. -/
theorem my_data_parsing_frame (s : Uart) : ∃ data flag value, s.my_data_parsing =
    { s with data := data, uart_flag := flag, uart_get_data := value, uart_timeot := 0 } := by
  unfold my_data_parsing parse_command parse_status
  split_ifs <;> exact ⟨_, _, _, rfl⟩

section my_data_parsing
variable (s : Uart)

@[simp] theorem my_data_parsing_data_len : s.my_data_parsing.data_len = s.data_len := by
  obtain ⟨_, _, _, h⟩ := s.my_data_parsing_frame
  rw [h]

@[simp] theorem my_data_parsing_data_end : s.my_data_parsing.data_end = s.data_end := by
  obtain ⟨_, _, _, h⟩ := s.my_data_parsing_frame
  rw [h]

@[simp] theorem my_data_parsing_uart_commend :
    s.my_data_parsing.uart_commend = s.uart_commend := by
  obtain ⟨_, _, _, h⟩ := s.my_data_parsing_frame
  rw [h]

@[simp] theorem my_data_parsing_window : s.my_data_parsing.window = s.window := by
  obtain ⟨_, _, _, h⟩ := s.my_data_parsing_frame
  rw [h]

@[simp] theorem my_data_parsing_rx : s.my_data_parsing.rx = s.rx := by
  obtain ⟨_, _, _, h⟩ := s.my_data_parsing_frame
  rw [h]

@[simp] theorem my_data_parsing_latest : s.my_data_parsing.latest = s.latest := by
  obtain ⟨_, _, _, h⟩ := s.my_data_parsing_frame
  rw [h]

@[simp] theorem my_data_parsing_returned : s.my_data_parsing.returned = s.returned := by
  obtain ⟨_, _, _, h⟩ := s.my_data_parsing_frame
  rw [h]

@[simp] theorem my_data_parsing_no_digit : s.my_data_parsing.no_digit = s.no_digit := by
  obtain ⟨_, _, _, h⟩ := s.my_data_parsing_frame
  rw [h]

end my_data_parsing

/-- The timeout thread touches the timer and the flag, and never reports success. -/
theorem data_timeout_parsing_frame (s : Uart) : ∃ flag timeot, s.data_timeout_parsing =
    { s with uart_flag := flag, uart_timeot := timeot } ∧
      (flag = s.uart_flag ∨ flag = UART_ERROR_TIMEOUT) := by
  unfold data_timeout_parsing
  dsimp only
  split_ifs <;> exact ⟨_, _, rfl, by simp⟩

/-! ### Counting -/

/-- `data_len` is the number of bytes kept since it was last set to `0`; before the first command
nothing is kept, and an awaited answer is longer than the header. -/
structure Counted (s : Uart) : Prop where
  len : s.data_len = (kept header s.window).length
  le : s.data_len ≤ ONE_DATA_MAXLEN
  data_end : (s.data_end = 0 ∧ s.window = []) ∨ 7 ≤ s.data_end

theorem is_stored_eq (s : Uart) (ch : UInt8) :
    s.is_stored ch = accepts header s.data_len (ch, s.uart_commend) := by
  unfold is_stored accepts header
  match h : s.data_len with
  | 0 => simp
  | 1 => simp
  | 2 => simp
  | n + 3 => simp

/-- Reading a byte before the first command. -/
theorem data_parsing_idle {s : Uart} (h : s.data_end = 0) (ch : UInt8) :
    s.data_parsing ch = some (s.see ch) := by
  simp [data_parsing, see, h]

/-- A byte that is thrown away. -/
theorem data_parsing_dropped {s : Uart} (h : 7 ≤ s.data_end) {ch : UInt8}
    (hd : s.is_stored ch = false) : s.data_parsing ch = some (s.see ch) := by
  have hlt : s.data_len ≠ s.data_end := by
    intro he
    have hlong : header.length ≤ s.data_len := by
      rw [show header.length = 3 by rfl]
      omega
    rw [is_stored_eq, accepts_of_le hlong] at hd
    cases hd
  have hd' : (s.see ch).is_stored ch = false := hd
  have hne : (s.see ch).data_end ≠ 0 := by simp only [see]; omega
  have hlt' : (s.see ch).data_len ≠ (s.see ch).data_end := hlt
  simp only [data_parsing, hd', if_pos hne, Bool.false_eq_true, if_false, Option.map_some,
    if_neg hlt']

/-- The state in which a stored byte is tested for the end of the answer. -/
def stored_at (s : Uart) (ch : UInt8) (h : s.data_len < 100) : Uart :=
  { s.see ch with
    data := s.data.set s.data_len ch
    data_len := s.data_len + 1
    uart_timeot := 10 }

/-- A byte that is stored inside the buffer. -/
theorem data_parsing_stored {s : Uart} (h : 7 ≤ s.data_end) {ch : UInt8}
    (hd : s.is_stored ch = true) (hlt : s.data_len < 100) :
    s.data_parsing ch = some (if s.data_len + 1 = s.data_end
      then (s.stored_at ch hlt).my_data_parsing else s.stored_at ch hlt) := by
  have hd' : (s.see ch).is_stored ch = true := hd
  have hne : (s.see ch).data_end ≠ 0 := by simp only [see]; omega
  have hlt' : (s.see ch).data_len < 100 := hlt
  have hmod : (s.data_len + 1) % 0x100 = s.data_len + 1 := Nat.mod_eq_of_lt (by omega)
  simp only [data_parsing, hd', hne, ne_eq, not_false_eq_true, if_true, store, dif_pos hlt',
    Option.map_some, Option.some.injEq]
  simp only [stored_at, see, hmod]

/-- A byte that would be stored behind the buffer. -/
theorem data_parsing_outside {s : Uart} (h : 7 ≤ s.data_end) {ch : UInt8}
    (hd : s.is_stored ch = true) (hge : ¬ s.data_len < 100) : s.data_parsing ch = none := by
  have hd' : (s.see ch).is_stored ch = true := hd
  have hne : (s.see ch).data_end ≠ 0 := by simp only [see]; omega
  have hge' : ¬ (s.see ch).data_len < 100 := hge
  simp only [data_parsing, hd', hne, ne_eq, not_false_eq_true, if_true, store, dif_neg hge',
    Option.map_none]

/-- **What one byte can do.** -/
theorem data_parsing_cases {s s' : Uart} (hs : s.Counted) {ch : UInt8}
    (h : s.data_parsing ch = some s') :
    (s' = s.see ch ∧ (s.data_end = 0 ∨ s.is_stored ch = false)) ∨
      ∃ hlt : s.data_len < 100, s.is_stored ch = true ∧ 7 ≤ s.data_end ∧
        s' = if s.data_len + 1 = s.data_end
          then (s.stored_at ch hlt).my_data_parsing else s.stored_at ch hlt := by
  rcases hs.data_end with ⟨h0, -⟩ | h7
  · rw [data_parsing_idle h0] at h
    exact .inl ⟨(Option.some.inj h).symm, .inl h0⟩
  · cases hd : s.is_stored ch with
    | false =>
        rw [data_parsing_dropped h7 hd] at h
        exact .inl ⟨(Option.some.inj h).symm, .inr rfl⟩
    | true =>
        by_cases hlt : s.data_len < 100
        · rw [data_parsing_stored h7 hd hlt] at h
          exact .inr ⟨hlt, rfl, h7, (Option.some.inj h).symm⟩
        · rw [data_parsing_outside h7 hd hlt] at h
          cases h

/-- The window after a byte. -/
theorem kept_see {s : Uart} (hs : s.Counted) (ch : UInt8) :
    kept header (s.see ch).window =
      if s.data_end ≠ 0 ∧ s.is_stored ch = true then
        kept header s.window ++ [(ch, s.uart_commend)] else kept header s.window := by
  by_cases h0 : s.data_end = 0
  · simp [see, h0]
  · simp only [see, h0, ne_eq, not_false_eq_true, if_true, true_and]
    rw [kept_snoc, is_stored_eq, hs.len]

theorem Counted.data_parsing {s s' : Uart} (hs : s.Counted) {ch : UInt8}
    (h : s.data_parsing ch = some s') : s'.Counted := by
  have hk := kept_see hs ch
  rcases data_parsing_cases hs h with ⟨rfl, hd⟩ | ⟨hlt, hd, h7, rfl⟩
  · rw [if_neg (by rcases hd with h | h <;> simp [h])] at hk
    refine ⟨by rw [hk]; exact hs.len, hs.le, ?_⟩
    rcases hs.data_end with ⟨h0, hw⟩ | h7
    · exact .inl ⟨h0, by simp [see, h0, hw]⟩
    · exact .inr h7
  · rw [if_pos ⟨by omega, hd⟩] at hk
    have hstored : (s.stored_at ch hlt).Counted := by
      refine ⟨?_, hlt, .inr h7⟩
      simp only [stored_at, hk, List.length_append, List.length_singleton, hs.len]
    split_ifs
    · exact ⟨by simpa using hstored.len, by simpa using hstored.le, by simpa using hstored.data_end⟩
    · exact hstored

/-- **A byte has somewhere to go** as long as what is kept fits the buffer. -/
theorem Counted.isSome_data_parsing {s : Uart} (hs : s.Counted) (ch : UInt8) :
    (s.data_parsing ch).isSome = true ↔
      (kept header (s.see ch).window).length ≤ ONE_DATA_MAXLEN := by
  have hk := kept_see hs ch
  have hlen := hs.len
  have hle : s.data_len ≤ 100 := hs.le
  unfold ONE_DATA_MAXLEN
  rcases hs.data_end with ⟨h0, -⟩ | h7
  · rw [if_neg (by simp [h0])] at hk
    rw [data_parsing_idle h0, hk]
    simp only [Option.isSome_some, true_iff]
    omega
  · cases hd : s.is_stored ch with
    | false =>
        rw [if_neg (by simp [hd])] at hk
        rw [data_parsing_dropped h7 hd, hk]
        simp only [Option.isSome_some, true_iff]
        omega
    | true =>
        rw [if_pos ⟨by omega, hd⟩] at hk
        rw [hk, List.length_append, List.length_singleton]
        by_cases hlt : s.data_len < 100
        · rw [data_parsing_stored h7 hd hlt]
          simp only [Option.isSome_some, true_iff]
          omega
        · rw [data_parsing_outside h7 hd hlt]
          simp only [Option.isSome_none, Bool.false_eq_true, false_iff]
          omega

theorem Counted.data_timeout_parsing {s : Uart} (hs : s.Counted) :
    s.data_timeout_parsing.Counted := by
  obtain ⟨_, _, h, -⟩ := s.data_timeout_parsing_frame
  rw [h]
  exact ⟨hs.len, hs.le, hs.data_end⟩

theorem holds_counted : Holds Interference Counted Counted where
  stable := by
    rintro s s' hs (⟨ch, h⟩ | _)
    · exact hs.data_parsing h
    · exact hs.data_timeout_parsing
  keeps := fun _ => id

end Uart

open Uart

theorem get_data_end_ge (flag : Fin 3) (choose : ℕ) : 7 ≤ get_data_end flag choose := by
  unfold get_data_end
  split_ifs <;> decide

theorem Uart.Counted.reset_len {s : Uart} (hs : s.Counted) : s.reset_len.Counted :=
  ⟨by simp [Uart.reset_len], by simp [Uart.reset_len], hs.data_end.imp (fun h => ⟨h.1, rfl⟩) id⟩

theorem Uart.Counted.put {s : Uart} (hs : s.Counted) (k : ℕ) (bs : List UInt8) :
    (s.put k bs).Counted := ⟨hs.len, hs.le, hs.data_end⟩

theorem Uart.Counted.set_data_end {s : Uart} (hs : s.Counted) {n : ℕ} (hn : 7 ≤ n) :
    { s with data_end := n }.Counted := ⟨hs.len, hs.le, .inr hn⟩

/-- Every statement of the main thread keeps the count. -/
theorem use_keeps_counted (u : Use) : u.prog.Keeps Counted := by
  cases u with
  | issue c =>
      cases c with
      | SetData flag zf_list len =>
          simp only [Use.prog, Command.issue, my_uart_SetData, Prog.block, Prog.Keeps, and_true]
          refine ⟨?_, ?_, ?_, ?_, ?_, ?_, ?_, fun s hs => hs.reset_len,
            fun s hs => hs.set_data_end le_rfl, ?_, ?_⟩ <;>
            first
              | exact fun s hs => hs.put _ _
              | exact fun s hs => ⟨hs.len, hs.le, hs.data_end⟩
      | GetData flag choose =>
          simp only [Use.prog, Command.issue, my_uart_GetData, Prog.block, Prog.Keeps, and_true]
          refine ⟨?_, ?_, ?_, ?_, ?_, fun s hs => hs.set_data_end (get_data_end_ge flag choose),
            fun s hs => hs.reset_len, ?_, ?_, ?_⟩ <;>
            first
              | exact fun s hs => hs.put _ _
              | exact fun s hs => ⟨hs.len, hs.le, hs.data_end⟩
      | open_valve =>
          simp only [Use.prog, Command.issue, ms_open_valve, Prog.block, Prog.Keeps, and_true]
          refine ⟨?_, ?_, ?_, ?_, ?_, ?_, ?_, fun s hs => hs.reset_len,
            fun s hs => hs.set_data_end (by decide), ?_, ?_, ?_⟩ <;>
            first
              | exact fun s hs => hs.put _ _
              | exact fun s hs => ⟨hs.len, hs.le, hs.data_end⟩
  | get_uart_flag => exact ⟨trivial, fun s hs => ⟨hs.len, hs.le, hs.data_end⟩, trivial⟩

theorem main_thread_keeps_counted : ∀ uses : List Use, (main_thread uses).Keeps Counted
  | [] => trivial
  | u :: uses => ⟨use_keeps_counted u, main_thread_keeps_counted uses⟩

theorem counted_start (no_digit : UInt8 → UInt8) (F_addr : UInt8) :
    (Uart.start no_digit F_addr).Counted := ⟨by simp [start], by simp [start], .inl ⟨rfl, rfl⟩⟩

/-- Bytes that arrive one after the other. -/
def Uart.feed (bs : List UInt8) (s : Uart) : Option Uart :=
  bs.foldlM (fun s ch => s.data_parsing ch) s

theorem Uart.feed_reach {p p' : Prog Uart} {s s' s'' : Uart} (bs : List UInt8)
    (h : Reach Interference p s p' s') (hf : s'.feed bs = some s'') :
    Reach Interference p s p' s'' := by
  induction bs generalizing s' with
  | nil =>
      cases hf
      exact h
  | cons ch bs ih =>
      rw [feed, List.foldlM_cons] at hf
      obtain ⟨s₁, h₁, h₂⟩ := Option.bind_eq_some_iff.mp hf
      exact ih (h.env (.data_parsing ch h₁)) h₂

/-- The number of bytes that a window holds behind the header. -/
def behind_header (window : List (UInt8 × UInt8)) : ℕ := (kept header window).length - 3

/-- **The receive-buffer bound**: at any point of any run, a byte that arrives is stored inside
`data` or not at all exactly when at most 97 bytes have then arrived behind the header since
`data_len` was last set to `0`. -/
theorem stored_in_bounds_iff (uses : List Use) (no_digit : UInt8 → UInt8) (F_addr : UInt8)
    {p : Prog Uart} {s : Uart}
    (h : Reach Interference (main_thread uses) (Uart.start no_digit F_addr) p s) (ch : UInt8) :
    (s.data_parsing ch).isSome = true ↔ behind_header (s.see ch).window ≤ 97 := by
  have hs : s.Counted := (Triple.of_keeps holds_counted (main_thread_keeps_counted uses) _
    (counted_start no_digit F_addr) p s h).1
  rw [hs.isSome_data_parsing, behind_header, ONE_DATA_MAXLEN]
  omega

/-- The line after the command `c` and the bytes `bs`, from power-on. -/
def command_then (c : Command) (bs : List UInt8) : Option Uart :=
  ((main_thread [.issue c]).exec 0 (Uart.start id 0)).bind (feed bs)

theorem command_then_reach {c : Command} {bs : List UInt8} {s : Uart}
    (h : command_then c bs = some s) :
    ∃ p, Reach Interference (main_thread [.issue c]) (Uart.start id 0) p s := by
  obtain ⟨s₁, h₁, h₂⟩ := Option.bind_eq_some_iff.mp h
  exact ⟨_, feed_reach bs (exec_reach h₁) h₂⟩

theorem stored_in_bounds_iff_header :
    ∃ s, command_then (.GetData 0 0) ['@'.toUInt8, 'A'.toUInt8, 'B'.toUInt8] = some s ∧
      ((s.data_parsing '0'.toUInt8).isSome = true ↔
        behind_header (s.see '0'.toUInt8).window ≤ 97) := by
  have hrun : (command_then (.GetData 0 0) ['@'.toUInt8, 'A'.toUInt8, 'B'.toUInt8]).isSome =
      true := by decide +kernel
  obtain ⟨s, hs⟩ := Option.isSome_iff_exists.mp hrun
  obtain ⟨p, hr⟩ := command_then_reach hs
  exact ⟨s, hs, stored_in_bounds_iff _ _ _ hr _⟩

/-- The header of an answer `B` and 98 more bytes: the last one is stored at index `100`. -/
theorem stored_out_of_bounds :
    ¬ ∀ (uses : List Use) (no_digit : UInt8 → UInt8) (F_addr : UInt8) (p : Prog Uart) (s : Uart),
      Reach Interference (main_thread uses) (Uart.start no_digit F_addr) p s →
        ∀ ch, (s.data_parsing ch).isSome = true := by
  intro h
  let bs := ['@'.toUInt8, 'A'.toUInt8, 'B'.toUInt8] ++ List.replicate 97 '0'.toUInt8
  have hrun : (command_then (.GetData 0 0) bs).isSome = true := by decide +kernel
  have hlast : ((command_then (.GetData 0 0) bs).bind
      (data_parsing '0'.toUInt8)).isSome = false := by decide +kernel
  obtain ⟨s, hs⟩ := Option.isSome_iff_exists.mp hrun
  obtain ⟨p, hr⟩ := command_then_reach hs
  rw [hs, Option.bind_some, h _ _ _ _ _ hr] at hlast
  cases hlast

end MeterTester
